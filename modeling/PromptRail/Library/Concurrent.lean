import PromptRail.Library.Table
import Mathlib.Algebra.Order.Group.Nat

/-!
# Threads over a shared store

A program says what a thread does to the store in one turn, which is atomic, and what it does next. A world is a store and the
threads that run over it; its actions start a thread, give a thread its next turn, halt a thread where it stands, or let
something happen to the store from outside. Every interleaving is a list of actions.

`step_cases` is the inversion lemma. `load` adds a measure of every thread: what a thread is about to do, counted over all of
them. The lemmas `load_begin`, `load_turn` and `load_halt` say how it changes, and `EveryThread` does the same for a property.
-/

namespace Concurrent

open Table (Dict total)

universe u v w x y z

/-- The number of a thread. -/
abbrev ThreadId := Nat

/-- A program over stores `σ`: `κ` are the calls that start a thread, `τ` what a thread does next, `ι` what a turn is told from
outside, `ε` what else happens to the store. -/
structure Program (σ : Type u) (κ : Type v) (τ : Type w) (ι : Type x) (ε : Type y) where
  start : κ → τ
  turn : σ → τ → ι → σ × τ
  halt : τ → τ
  happen : σ → ε → σ

/-- A store and the threads that run over it. -/
structure World (σ : Type u) (τ : Type w) where
  store : σ
  threads : Dict ThreadId τ := ∅

/-- What can happen next. -/
inductive Action (κ : Type v) (ι : Type x) (ε : Type y) where
  | begin (t : ThreadId) (call : κ)
  | turn (t : ThreadId) (input : ι)
  | halt (t : ThreadId)
  | happen (event : ε)

variable {σ : Type u} {κ : Type v} {τ : Type w} {ι : Type x} {ε : Type y}

/-- One action. A thread starts under a number that no thread has; only a thread that was started takes turns. -/
def Program.step (P : Program σ κ τ ι ε) (w : World σ τ) : Action κ ι ε → World σ τ
  | .begin t call => if t ∈ w.threads then w else { w with threads := w.threads.insert t (P.start call) }
  | .turn t input =>
    match w.threads.lookup t with
    | none => w
    | some task => { store := (P.turn w.store task input).1, threads := w.threads.insert t (P.turn w.store task input).2 }
  | .halt t =>
    match w.threads.lookup t with
    | none => w
    | some task => { w with threads := w.threads.insert t (P.halt task) }
  | .happen event => { w with store := P.happen w.store event }

/-- What one action does: nothing, which is no turn of a thread that exists, or one of four things. -/
theorem Program.step_cases (P : Program σ κ τ ι ε) (w : World σ τ) (a : Action κ ι ε) :
    ((∀ t input, a = .turn t input → w.threads.lookup t = none) ∧ P.step w a = w) ∨
    (∃ t call, a = .begin t call ∧ t ∉ w.threads ∧
      P.step w a = { w with threads := w.threads.insert t (P.start call) }) ∨
    (∃ t input task, a = .turn t input ∧ w.threads.lookup t = some task ∧
      P.step w a = { store := (P.turn w.store task input).1, threads := w.threads.insert t (P.turn w.store task input).2 }) ∨
    (∃ t task, a = .halt t ∧ w.threads.lookup t = some task ∧
      P.step w a = { w with threads := w.threads.insert t (P.halt task) }) ∨
    (∃ event, a = .happen event ∧ P.step w a = { w with store := P.happen w.store event }) := by
  cases a with
  | begin t call =>
    by_cases h : t ∈ w.threads
    · exact Or.inl ⟨(fun _ _ ha => nomatch ha), if_pos h⟩
    · exact Or.inr (Or.inl ⟨t, call, rfl, h, if_neg h⟩)
  | turn t input =>
    cases h : w.threads.lookup t with
    | none =>
      refine Or.inl ⟨?_, by simp only [Program.step, h]⟩
      intro t' input' ha
      injection ha with ht _
      exact ht ▸ h
    | some task => exact Or.inr (Or.inr (Or.inl ⟨t, input, task, rfl, h, by simp only [Program.step, h]⟩))
  | halt t =>
    cases h : w.threads.lookup t with
    | none => exact Or.inl ⟨(fun _ _ ha => nomatch ha), by simp only [Program.step, h]⟩
    | some task => exact Or.inr (Or.inr (Or.inr (Or.inl ⟨t, task, rfl, h, by simp only [Program.step, h]⟩)))
  | happen event => exact Or.inr (Or.inr (Or.inr (Or.inr ⟨event, rfl, rfl⟩)))

/-! ## Measures of the threads -/

section Load

variable {M : Type z} [AddCommMonoid M]

/-- A measure added over the threads. -/
def load (f : τ → M) (threads : Dict ThreadId τ) : M := total (fun _ task => f task) threads

@[simp] theorem load_empty (f : τ → M) : load f (∅ : Dict ThreadId τ) = 0 := rfl

/-- A thread that starts adds its measure. -/
theorem load_begin (f : τ → M) {threads : Dict ThreadId τ} {t : ThreadId} (h : t ∉ threads) (task : τ) :
    load f (threads.insert t task) = f task + load f threads :=
  Table.total_insert (fun _ task => f task) task h

/-- A thread that goes on trades its measure for the new one. -/
theorem load_turn (f : τ → M) {threads : Dict ThreadId τ} {t : ThreadId} {task : τ} (h : threads.lookup t = some task)
    (next : τ) : f task + load f (threads.insert t next) = f next + load f threads :=
  Table.total_replace (fun _ task => f task) next h

/-- Threads that all measure nothing. -/
theorem load_eq_zero {f : τ → M} {threads : Dict ThreadId τ} (h : ∀ t task, threads.lookup t = some task → f task = 0) :
    load f threads = 0 :=
  Table.total_eq_zero h

end Load

/-- Over measures that are natural numbers, no thread measures more than all of them. -/
theorem le_load {f : τ → Nat} {threads : Dict ThreadId τ} {t : ThreadId} {task : τ} (h : threads.lookup t = some task) :
    f task ≤ load f threads := by
  unfold load
  rw [Table.total_erase (fun _ task => f task) h]
  exact Nat.le_add_right _ _

/-! ## Properties of the threads -/

/-- Every thread has a property. -/
def EveryThread (Q : τ → Prop) (threads : Dict ThreadId τ) : Prop := ∀ t task, threads.lookup t = some task → Q task

/-- The threads are the rows of a table, so a property of every one can be computed. -/
theorem everyThread_iff (Q : τ → Prop) (threads : Dict ThreadId τ) : EveryThread Q threads ↔ ∀ e ∈ threads.entries, Q e.2 := by
  constructor
  · intro h e he
    exact h e.1 e.2 (AList.mem_lookup_iff.2 he)
  · intro h t task ht
    exact h ⟨t, task⟩ (AList.mem_lookup_iff.1 ht)

instance (Q : τ → Prop) [DecidablePred Q] (threads : Dict ThreadId τ) : Decidable (EveryThread Q threads) :=
  decidable_of_iff _ (everyThread_iff Q threads).symm

theorem everyThread_empty (Q : τ → Prop) : EveryThread Q (∅ : Dict ThreadId τ) := by
  intro t task h
  cases h

/-- A thread that starts or goes on must have the property. -/
theorem EveryThread.insert {Q : τ → Prop} {threads : Dict ThreadId τ} (h : EveryThread Q threads) {task : τ} (hQ : Q task)
    (t : ThreadId) : EveryThread Q (threads.insert t task) := by
  intro t' task' h'
  rcases Table.of_lookup_insert h' with ⟨-, rfl⟩ | ⟨-, hold⟩
  · exact hQ
  · exact h t' task' hold

theorem EveryThread.mono {Q R : τ → Prop} (hQR : ∀ task, Q task → R task) {threads : Dict ThreadId τ}
    (h : EveryThread Q threads) : EveryThread R threads :=
  fun t task ht => hQR task (h t task ht)

/-! ## Rely and guarantee -/

/-- A property of the store and an assertion of every thread about the store: every step keeps both, if what one thread does to
the store keeps the assertions of the others. -/
theorem Program.step_keeps {P : Program σ κ τ ι ε} {I : σ → Prop} {A : σ → τ → Prop}
    (hstart : ∀ s call, I s → A s (P.start call))
    (hturn : ∀ s task input, I s → A s task → I (P.turn s task input).1 ∧ A (P.turn s task input).1 (P.turn s task input).2)
    (hrely : ∀ s task input task', I s → A s task → A s task' → A (P.turn s task input).1 task')
    (hhalt : ∀ s task, A s task → A s (P.halt task))
    (hhappen : ∀ s event, I s → I (P.happen s event) ∧ ∀ task, A s task → A (P.happen s event) task)
    (w : World σ τ) (a : Action κ ι ε) (h : I w.store ∧ EveryThread (A w.store) w.threads) :
    I (P.step w a).store ∧ EveryThread (A (P.step w a).store) (P.step w a).threads := by
  obtain ⟨hI, hA⟩ := h
  rcases P.step_cases w a with ⟨-, hs⟩ | ⟨t, call, -, -, hs⟩ | ⟨t, input, task, -, ht, hs⟩ | ⟨t, task, -, ht, hs⟩ |
    ⟨event, -, hs⟩
  · rw [hs]
    exact ⟨hI, hA⟩
  · rw [hs]
    exact ⟨hI, hA.insert (hstart w.store call hI) t⟩
  · rw [hs]
    have hnext := hturn w.store task input hI (hA t task ht)
    have hothers : EveryThread (A (P.turn w.store task input).1) w.threads :=
      hA.mono fun task' => hrely w.store task input task' hI (hA t task ht)
    exact ⟨hnext.1, hothers.insert hnext.2 t⟩
  · rw [hs]
    exact ⟨hI, hA.insert (hhalt w.store task (hA t task ht)) t⟩
  · rw [hs]
    have hnext := hhappen w.store event hI
    exact ⟨hnext.1, hA.mono hnext.2⟩

end Concurrent
