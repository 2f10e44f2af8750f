import Mathlib.Data.List.Basic

/-!
# Runs of a deterministic machine

A machine is a total step function `σ → α → σ`: an action that does not apply leaves the state. A run is a list of actions, so
that every interleaving of several parties is a run. `Throughout` says that a property holds in every state a run reaches,
`Along` that a condition holds of every step of it. The rules below turn what one step keeps into what a whole run keeps:
`throughout_of_invariant` for a property every step keeps, `throughout_of_along` for one that only the steps meeting a
condition keep, and `throughout_iff_along` when the condition is exactly what a step must meet to keep it.

`monitor` adds a history variable: a second state that watches the machine and never acts on it.
-/

namespace Transition

universe u v w

variable {σ : Type u} {α : Type v} {τ : Type w}

/-- The state a run leads to. -/
def exec (step : σ → α → σ) (s : σ) (as : List α) : σ := as.foldl step s

@[simp] theorem exec_nil (step : σ → α → σ) (s : σ) : exec step s [] = s := rfl

@[simp] theorem exec_cons (step : σ → α → σ) (s : σ) (a : α) (as : List α) :
    exec step s (a :: as) = exec step (step s a) as := rfl

theorem exec_concat (step : σ → α → σ) (s : σ) (as : List α) (a : α) : exec step s (as ++ [a]) = step (exec step s as) a :=
  List.foldl_append

/-- The property holds in every state the run reaches, the first one included. -/
def Throughout (step : σ → α → σ) (P : σ → Prop) : σ → List α → Prop
  | s, [] => P s
  | s, a :: as => P s ∧ Throughout step P (step s a) as

/-- The condition holds of every step of the run, in the state the step is taken in. -/
def Along (step : σ → α → σ) (Good : σ → α → Prop) : σ → List α → Prop
  | _, [] => True
  | s, a :: as => Good s a ∧ Along step Good (step s a) as

/-- Whether every step meets a condition can be computed where the condition can. -/
instance decidableAlong (step : σ → α → σ) (Good : σ → α → Prop) [∀ s a, Decidable (Good s a)] :
    ∀ (s : σ) (as : List α), Decidable (Along step Good s as)
  | _, [] => isTrue trivial
  | s, a :: as => @instDecidableAnd _ _ inferInstance (decidableAlong step Good (step s a) as)

/-- `Throughout` is what its name says: the property holds after every prefix of the run. -/
theorem throughout_iff_forall (step : σ → α → σ) (P : σ → Prop) (s : σ) (as : List α) :
    Throughout step P s as ↔ ∀ bs, bs <+: as → P (exec step s bs) := by
  induction as generalizing s with
  | nil => simp [Throughout]
  | cons a as ih =>
    simp only [Throughout, ih]
    constructor
    · rintro ⟨h, hs⟩ bs hbs
      cases bs with
      | nil => exact h
      | cons b bs =>
        obtain ⟨rfl, htail⟩ := List.cons_prefix_cons.1 hbs
        exact hs bs htail
    · intro h
      exact ⟨h [] List.nil_prefix, fun bs hbs => h (a :: bs) (List.cons_prefix_cons.2 ⟨rfl, hbs⟩)⟩

theorem Throughout.last {step : σ → α → σ} {P : σ → Prop} {s : σ} {as : List α} (h : Throughout step P s as) :
    P (exec step s as) :=
  (throughout_iff_forall step P s as).1 h as (List.prefix_refl as)

theorem Throughout.mono {step : σ → α → σ} {P Q : σ → Prop} (hPQ : ∀ s, P s → Q s) {s : σ} {as : List α}
    (h : Throughout step P s as) : Throughout step Q s as := by
  rw [throughout_iff_forall] at h ⊢
  exact fun bs hbs => hPQ _ (h bs hbs)

/-- What a step does in every state with a property holds along a run in whose states the property holds. -/
theorem Throughout.along {step : σ → α → σ} {P : σ → Prop} {Good : σ → α → Prop} {s : σ} {as : List α}
    (h : Throughout step P s as) (hstep : ∀ s a, P s → Good s a) : Along step Good s as := by
  induction as generalizing s with
  | nil => trivial
  | cons a as ih => exact ⟨hstep s a h.1, ih h.2⟩

/-- A property that every step keeps holds throughout every run. -/
theorem throughout_of_invariant {step : σ → α → σ} {I : σ → Prop} (hstep : ∀ s a, I s → I (step s a)) {s : σ}
    (h : I s) (as : List α) : Throughout step I s as := by
  induction as generalizing s with
  | nil => exact h
  | cons a as ih => exact ⟨h, ih (hstep s a h)⟩

/-- A property that every step keeps holds at the end of every run. -/
theorem exec_invariant {step : σ → α → σ} {I : σ → Prop} (hstep : ∀ s a, I s → I (step s a)) {s : σ}
    (h : I s) (as : List α) : I (exec step s as) :=
  (throughout_of_invariant hstep h as).last

/-- A property that every step meeting a condition keeps holds throughout every run whose steps all meet it. -/
theorem throughout_of_along {step : σ → α → σ} {I : σ → Prop} {Good : σ → α → Prop}
    (hstep : ∀ s a, I s → Good s a → I (step s a)) {s : σ} (h : I s) {as : List α} (hg : Along step Good s as) :
    Throughout step I s as := by
  induction as generalizing s with
  | nil => exact h
  | cons a as ih => exact ⟨h, ih (hstep s a h hg.1) hg.2⟩

/-- Two conditions that hold along a run hold along it together. -/
theorem Along.and {step : σ → α → σ} {Good Good' : σ → α → Prop} {s : σ} {as : List α} (h : Along step Good s as)
    (h' : Along step Good' s as) : Along step (fun s a => Good s a ∧ Good' s a) s as := by
  induction as generalizing s with
  | nil => trivial
  | cons a as ih => exact ⟨⟨h.1, h'.1⟩, ih h.2 h'.2⟩

/-- A condition that every step meets holds along every run. -/
theorem along_of_forall {step : σ → α → σ} {Good : σ → α → Prop} (h : ∀ s a, Good s a) (s : σ) (as : List α) :
    Along step Good s as := by
  induction as generalizing s with
  | nil => trivial
  | cons a as ih => exact ⟨h s a, ih (step s a)⟩

/-- Two conditions that agree where every state of a run is hold along it alike. -/
theorem along_iff_of_invariant {step : σ → α → σ} {I : σ → Prop} {Good Good' : σ → α → Prop} (hstep : ∀ s a, I s → I (step s a))
    (hgood : ∀ s a, I s → (Good s a ↔ Good' s a)) {s : σ} (h : I s) (as : List α) : Along step Good s as ↔ Along step Good' s as := by
  induction as generalizing s with
  | nil => exact Iff.rfl
  | cons a as ih => exact and_congr (hgood s a h) (ih (hstep s a h))

/-- A condition on the actions alone holds along a run when every action of it meets it. -/
theorem along_of_mem {step : σ → α → σ} {Good : α → Prop} (s : σ) {as : List α} (h : ∀ a ∈ as, Good a) :
    Along step (fun _ a => Good a) s as := by
  induction as generalizing s with
  | nil => trivial
  | cons a as ih => exact ⟨h a List.mem_cons_self, ih (step s a) fun b hb => h b (List.mem_cons_of_mem _ hb)⟩

/-- When a step keeps the property exactly if it meets the condition, the property holds throughout a run exactly if every
step of it meets the condition. `I` is what every step keeps anyway, as long as it meets a further condition. -/
theorem throughout_iff_along_of {step : σ → α → σ} {I P : σ → Prop} {Good Fair : σ → α → Prop}
    (hI : ∀ s a, I s → Fair s a → I (step s a)) (hstep : ∀ s a, I s → P s → (P (step s a) ↔ Good s a)) {s : σ} (hs : I s)
    (h : P s) {as : List α} (hf : Along step Fair s as) : Throughout step P s as ↔ Along step Good s as := by
  induction as generalizing s with
  | nil => exact ⟨fun _ => trivial, fun _ => h⟩
  | cons a as ih =>
    constructor
    · rintro ⟨_, hr⟩
      have hp : P (step s a) := (throughout_iff_forall step P _ as).1 hr [] List.nil_prefix
      exact ⟨(hstep s a hs h).1 hp, (ih (hI s a hs hf.1) hp hf.2).1 hr⟩
    · rintro ⟨hg, hr⟩
      have hp : P (step s a) := (hstep s a hs h).2 hg
      exact ⟨h, (ih (hI s a hs hf.1) hp hf.2).2 hr⟩

/-- The same, of what every step keeps. -/
theorem throughout_iff_along {step : σ → α → σ} {I P : σ → Prop} {Good : σ → α → Prop}
    (hI : ∀ s a, I s → I (step s a)) (hstep : ∀ s a, I s → P s → (P (step s a) ↔ Good s a)) {s : σ} (hs : I s)
    (h : P s) (as : List α) : Throughout step P s as ↔ Along step Good s as :=
  throughout_iff_along_of (fun s a h _ => hI s a h) hstep hs h (along_of_forall (fun _ _ => trivial) s as)

/-- The same, where the property is carried from state to state by a stronger one, that only the steps meeting the condition keep. -/
theorem throughout_iff_along_through {step : σ → α → σ} {P Q : σ → Prop} {Good Fair : σ → α → Prop} (hQP : ∀ s, Q s → P s)
    (hgood : ∀ s a, Q s → Fair s a → P (step s a) → Good s a) (hkeep : ∀ s a, Q s → Fair s a → Good s a → Q (step s a)) {s : σ}
    (h : Q s) {as : List α} (hf : Along step Fair s as) : Throughout step P s as ↔ Along step Good s as := by
  induction as generalizing s with
  | nil => exact ⟨fun _ => trivial, fun _ => hQP s h⟩
  | cons a as ih =>
    constructor
    · rintro ⟨_, hr⟩
      have hp : P (step s a) := (throughout_iff_forall step P _ as).1 hr [] List.nil_prefix
      have hg : Good s a := hgood s a h hf.1 hp
      exact ⟨hg, (ih (hkeep s a h hf.1 hg) hf.2).1 hr⟩
    · rintro ⟨hg, hr⟩
      exact ⟨hQP s h, (ih (hkeep s a h hf.1 hg) hf.2).2 hr⟩

/-- The machine together with a history variable: `observe` sees the state before the step, the action and the state after. -/
def monitor (step : σ → α → σ) (observe : τ → σ → α → σ → τ) : σ × τ → α → σ × τ :=
  fun p a => (step p.1 a, observe p.2 p.1 a (step p.1 a))

/-- A condition on the machine holds along a watched run when it holds along the run. -/
theorem along_monitor {step : σ → α → σ} {observe : τ → σ → α → σ → τ} {Good : σ → α → Prop} (s : σ) (t : τ) (as : List α) :
    Along (monitor step observe) (fun p a => Good p.1 a) (s, t) as ↔ Along step Good s as := by
  induction as generalizing s t with
  | nil => exact Iff.rfl
  | cons a as ih => exact and_congr_right fun _ => ih _ _

/-- The history of the actions that were taken. -/
def record (history : List α) (_ : σ) (a : α) (_ : σ) : List α := history ++ [a]

/-- A relation that every action has to what was taken before holds between any two actions of the run, in their order. -/
theorem along_record_iff (step : σ → α → σ) (R : α → α → Prop) (s : σ) (history as : List α) :
    Along (monitor step record) (fun p a => ∀ b ∈ p.2, R b a) (s, history) as ↔
      (∀ b ∈ history, ∀ a ∈ as, R b a) ∧ as.Pairwise R := by
  induction as generalizing s history with
  | nil => simp [Along]
  | cons a as ih =>
    simp only [Along, monitor, record] at ih ⊢
    rw [ih, List.pairwise_cons]
    constructor
    · rintro ⟨hnow, hlater, hpairs⟩
      refine ⟨?_, fun b hb => hlater a (List.mem_append_right _ (List.mem_singleton_self a)) b hb, hpairs⟩
      intro b hb c hc
      rcases List.mem_cons.1 hc with rfl | hc
      · exact hnow b hb
      · exact hlater b (List.mem_append_left _ hb) c hc
    · rintro ⟨hhistory, hhead, hpairs⟩
      refine ⟨fun b hb => hhistory b hb a List.mem_cons_self, ?_, hpairs⟩
      intro b hb c hc
      rcases List.mem_append.1 hb with hb | hb
      · exact hhistory b hb c (List.mem_cons_of_mem _ hc)
      · obtain rfl := List.mem_singleton.1 hb
        exact hhead c hc

end Transition
