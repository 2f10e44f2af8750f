import PromptRail.Controller.System

/-!
# The inversion lemma: what one operation can do

Each method of the run gives a `Change`; `change_of_step` lifts them to a step of the system, and `run_of_step` says where a run
after a step comes from. The bookkeeping `System.Linked` is kept by every step.
-/

namespace PromptRail

open PyText (Text)
open Table (Dict)

namespace ChangeAux

/-- An optional bound is crossed exactly when there is one and it is crossed. -/
theorem any_eq_true_iff {α : Type} {o : Option α} {p : α → Bool} : o.any p = true ↔ ∃ x, o = some x ∧ p x = true := by
  cases o <;> simp

/-- An optional text is absent exactly when its condition fails. -/
theorem ite_singleton_eq_nil {c : Prop} [Decidable c] {x : String} : (if c then [x] else []) = [] ↔ ¬c := by
  by_cases h : c <;> simp [h]

/-- `settle_call` lists no violation exactly when it breaks no hard limit. -/
theorem settlementViolations_eq_nil (run : Run) (now : Int) (costUsd : ℚ) (latencyMs : Int) :
    settlementViolations run.policy (run.spentCostUsd + costUsd) costUsd latencyMs (run.elapsedMs now) = [] ↔
      ¬run.breaks now costUsd latencyMs := by
  simp only [settlementViolations, Run.breaks, List.append_eq_nil_iff, ite_singleton_eq_nil, any_eq_true_iff,
    decide_eq_true_eq, not_or, and_assoc]

theorem not_any_le_iff {α : Type} [LinearOrder α] [Zero α] {o : Option α} :
    ¬(o.any (· ≤ 0) = true) ↔ ∀ x, o = some x → 0 < x := by
  cases o <;> simp

/-! ## The methods of the run -/

theorem settleCall_change (s : System) (run : Run) (c : CallId) (costUsd : ℚ) (latencyMs : Int) :
    Change s run (.settleCall run.runId c costUsd latencyMs) (run.settleCall s.controller.now c costUsd latencyMs).2 := by
  unfold Run.settleCall
  by_cases h1 : costUsd < 0
  · rw [if_pos h1]
    exact .stay _ fun h => absurd h1 (not_lt.2 h.2.1)
  by_cases h2 : latencyMs < 0
  · rw [if_neg h1, if_pos h2]
    exact .stay _ fun h => absurd h2 (not_lt.2 h.2.2.1)
  by_cases h3 : run.status = .active
  · rw [if_neg h1, if_neg h2, if_neg (not_not.2 h3)]
    cases hb : run.reserved.lookup c with
    | none => exact .stay _ fun h => AList.lookup_eq_none.1 hb h.2.2.2.2
    | some b =>
      have ha : (Op.settleCall run.runId c costUsd latencyMs).Acts s run :=
        ⟨rfl, not_lt.1 h1, not_lt.1 h2, h3, Table.mem_iff_lookup.2 ⟨b, hb⟩⟩
      simp only
      split
      · rename_i hv
        exact .settle c b costUsd latencyMs hb ha
          ((settlementViolations_eq_nil run _ costUsd latencyMs).1 (List.isEmpty_iff.1 hv))
      · rename_i hv
        refine .settleFailing c b costUsd latencyMs hb ha (not_not.1 fun h => hv (List.isEmpty_iff.2 ?_))
        exact (settlementViolations_eq_nil run _ costUsd latencyMs).2 h
  · rw [if_neg h1, if_neg h2, if_pos h3]
    exact .stay _ fun h => h3 h.2.2.2.1

theorem failCall_change (s : System) (run : Run) (c : CallId) (billingUnknown : Bool) :
    Change s run (.failCall run.runId c billingUnknown) (run.failCall c billingUnknown).2 := by
  unfold Run.failCall
  by_cases h1 : run.status = .active
  · rw [if_neg (not_not.2 h1)]
    cases hb : run.reserved.lookup c with
    | none => exact .stay _ fun h => AList.lookup_eq_none.1 hb h.2.2
    | some b =>
      have ha : (Op.failCall run.runId c billingUnknown).Acts s run := ⟨rfl, h1, Table.mem_iff_lookup.2 ⟨b, hb⟩⟩
      have := Change.fail (s := s) c b billingUnknown hb ha
      cases billingUnknown <;> simpa [Run.settled] using this
  · rw [if_pos h1]
    exact .stay _ fun h => h1 h.2.1

theorem observeTool_change (s : System) (run : Run) :
    Change s run (.observeTool run.runId) (run.observeTool s.controller.now).2 := by
  unfold Run.observeTool
  by_cases h1 : run.status = .active
  · rw [if_neg (not_not.2 h1)]
    have hp : Run.pastDeadline { run with toolCalls := run.toolCalls + 1 } s.controller.now =
        run.pastDeadline s.controller.now := rfl
    simp only [hp]
    cases hd : run.pastDeadline s.controller.now with
    | false => exact .tool ⟨rfl, h1⟩ hd
    | true => exact .toolFailing ⟨rfl, h1⟩ hd
  · rw [if_pos h1]
    exact .stay _ fun h => h1 h.2

theorem finishRun_change (s : System) (run : Run) (status : RunStatus) :
    Change s run (.finishRun run.runId status) (run.finishRun s.controller.now status).2 := by
  unfold Run.finishRun
  by_cases h1 : status = .active
  · rw [if_pos h1]
    exact .stay _ fun h => h.2.1 h1
  by_cases h2 : run.status = .active
  · by_cases h3 : run.pendingAllocations.Nonempty
    · rw [if_neg h1, if_neg (not_not.2 h2), if_pos h3]
      exact .stay _ fun h => Finset.not_nonempty_iff_eq_empty.2 h.2.2.2 h3
    · have ha : (Op.finishRun run.runId status).Acts s run := ⟨rfl, h1, h2, Finset.not_nonempty_iff_eq_empty.1 h3⟩
      rw [if_neg h1, if_neg (not_not.2 h2), if_neg h3]
      simp only
      split
      · rename_i hd
        obtain ⟨rfl, hd⟩ := hd
        exact .finishLate ha hd
      · rename_i hd
        exact .finish status ha hd
  · have hs : Change s run (.finishRun run.runId status) run := .stay _ fun h => h2 h.2.2.1
    rw [if_neg h1, if_pos h2]
    split <;> exact hs

theorem allocateCallBegin_change (s : System) (run : Run) (args : CallArguments) (hc : checkArguments args = .ok ()) :
    Change s run (.allocateBegin run.runId args) (run.allocateCallBegin s.controller.now s.controller.uuid args).2 := by
  unfold Run.allocateCallBegin
  by_cases h1 : run.status = .active
  · by_cases h2 : run.remainingCost.any (· ≤ 0) = true
    · rw [if_neg (not_not.2 h1), if_pos h2]
      exact .stay _ fun h => not_any_le_iff.2 h.2.2.2.1 h2
    · by_cases h3 : (run.remainingLatency s.controller.now).any (· ≤ 0) = true
      · rw [if_neg (not_not.2 h1), if_neg h2, if_pos h3]
        exact .stay _ fun h => not_any_le_iff.2 h.2.2.2.2 h3
      · rw [if_neg (not_not.2 h1), if_neg h2, if_neg h3]
        exact .handOut args ⟨rfl, hc, h1, not_any_le_iff.1 h2, not_any_le_iff.1 h3⟩
  · rw [if_pos h1]
    exact .stay _ fun h => h1 h.2.2.1

theorem allocateCallEnd_change (s : System) (run : Run) (a : Allocation) (answer : Option BudgetAllocationDecision)
    (ha : s.inFlight.lookup a.callId = some a) (hr : a.runId = run.runId) :
    Change s run (.allocateEnd a.callId answer)
      (run.allocateCallEnd s.controller.now s.controller.allocatorModelId a answer).2 := by
  unfold Run.allocateCallEnd
  cases answer with
  | none => exact .discard a none ha hr (by simp)
  | some decision =>
    by_cases h1 : run.status = .active
    · have hs : (run.discardPending a.callId).status = .active := h1
      have hv : validateDecision (run.discardPending a.callId).policy decision
          (run.discardPending a.callId).remainingCost ((run.discardPending a.callId).remainingLatency s.controller.now)
          a.inputTokens a.cache = validateDecision run.policy decision run.remainingCost
          (run.remainingLatency s.controller.now) a.inputTokens a.cache := rfl
      simp only
      rw [if_neg (not_not.2 hs), hv]
      cases hd : validateDecision run.policy decision run.remainingCost (run.remainingLatency s.controller.now)
          a.inputTokens a.cache with
      | error e =>
        refine .discard a (some decision) ha hr ?_
        rintro d hd' _ hacc
        obtain rfl := Option.some.inj hd'
        rw [Allocation.Accepts, hd] at hacc
        cases hacc
      | ok u => exact .reserve a decision ha hr h1 hd
    · have hs : (run.discardPending a.callId).status ≠ .active := h1
      simp only
      rw [if_pos hs]
      exact .discard a (some decision) ha hr fun _ _ h => absurd h h1

/-- The second phase of an allocation that is not accepted raises. -/
theorem allocateCallEnd_error {s : System} {run : Run} {a : Allocation} {answer : Option BudgetAllocationDecision}
    (hn : ∀ d, answer = some d → run.status = .active → ¬a.Accepts s run d) :
    ∃ e, (run.allocateCallEnd s.controller.now s.controller.allocatorModelId a answer).1 = .error e := by
  cases answer with
  | none => exact ⟨_, rfl⟩
  | some decision =>
    unfold Run.allocateCallEnd
    by_cases h1 : (run.discardPending a.callId).status = .active
    · simp only
      rw [if_neg (not_not.2 h1)]
      split
      · exact ⟨_, rfl⟩
      · rename_i hv
        exact absurd hv (hn decision rfl h1)
    · simp only
      rw [if_pos h1]
      exact ⟨_, rfl⟩

/-- The second phase of an allocation that is accepted returns the budget. -/
theorem allocateCallEnd_ok {s : System} {run : Run} {a : Allocation} {decision : BudgetAllocationDecision}
    (hs : run.status = .active) (hv : a.Accepts s run decision) :
    (run.allocateCallEnd s.controller.now s.controller.allocatorModelId a (some decision)).1 =
      .ok (a.budget s.controller.allocatorModelId decision) := by
  have hs' : (run.discardPending a.callId).status = .active := hs
  have hv' : validateDecision (run.discardPending a.callId).policy decision (run.discardPending a.callId).remainingCost
      ((run.discardPending a.callId).remainingLatency s.controller.now) a.inputTokens a.cache = .ok () := hv
  unfold Run.allocateCallEnd
  simp only
  rw [if_neg (not_not.2 hs'), hv']

/-! ## The run the controller finds -/

theorem onRun_some {α : Type} {c : GlobalController} {r : RunId} {run : Run} (h : c.runs r = some run)
    (method : Run → Except PyError α × Run) :
    c.onRun r method = ((method run).1, c.setRun r (method run).2) := by
  unfold GlobalController.onRun
  rw [h]

theorem onRun_none {α : Type} {c : GlobalController} {r : RunId} (h : c.runs r = none)
    (method : Run → Except PyError α × Run) : (c.onRun r method).2 = c := by
  unfold GlobalController.onRun
  rw [h]

@[simp] theorem setRun_self (c : GlobalController) (r : RunId) (run : Run) : (c.setRun r run).runs r = some run := by
  simp [GlobalController.setRun]

theorem setRun_ne (c : GlobalController) {r r' : RunId} (run : Run) (h : r' ≠ r) :
    (c.setRun r run).runs r' = c.runs r' := by
  simp [GlobalController.setRun, h]

/-- A method called on one run leaves the others. -/
theorem onRun_ne {α : Type} (c : GlobalController) {r r' : RunId} (method : Run → Except PyError α × Run) (h : r' ≠ r) :
    (c.onRun r method).2.runs r' = c.runs r' := by
  cases hr : c.runs r with
  | none => rw [onRun_none hr]
  | some run => rw [onRun_some hr]; exact setRun_ne c _ h

theorem onRun_uuid {α : Type} (c : GlobalController) (r : RunId) (method : Run → Except PyError α × Run) :
    (c.onRun r method).2.uuid = c.uuid := by
  cases hr : c.runs r with
  | none => rw [onRun_none hr]
  | some run => rw [onRun_some hr]; rfl

/-- A method called on some run: on the run in question it does what it does there, and other runs stay. -/
theorem onRun_change {α : Type} {s : System} {r q : RunId} {run : Run} (h : s.controller.runs r = some run)
    (hid : run.runId = r) (method : Run → Except PyError α × Run) (op : Op) (hne : q ≠ r → ¬op.Acts s run)
    (hc : q = r → Change s run op (method run).2) :
    ∃ run', (s.controller.onRun q method).2.runs r = some run' ∧ Change s run op run' := by
  by_cases hr : q = r
  · subst hr
    exact ⟨(method run).2, by rw [onRun_some h, setRun_self], hc rfl⟩
  · exact ⟨run, by rw [onRun_ne _ _ (Ne.symm hr), h], .stay _ (hne hr)⟩

end ChangeAux

open ChangeAux

/-- What a step does to a run that is stored. -/
theorem change_of_step {s : System} (hL : s.Linked) {r : RunId} {run : Run} (h : s.run? r = some run) (op : Op) :
    ∃ run', (s.step op).run? r = some run' ∧ Change s run op run' := by
  obtain ⟨hid, hlt⟩ := hL.runId r run h
  cases op with
  | elapse ms => exact ⟨run, h, .stay _ id⟩
  | startRun sessionId policy =>
    refine ⟨run, ?_, .stay _ id⟩
    have hne : r ≠ s.controller.uuid := Nat.ne_of_lt hlt
    simp only [System.step, System.perform, System.run?, GlobalController.startRun]
    split
    · exact h
    · exact (Function.update_of_ne hne _ _).trans h
  | allocateBegin r' args =>
    cases hc : checkArguments args with
    | error e =>
      refine ⟨run, ?_, .stay _ fun ha => by rw [ha.2.1] at hc; cases hc⟩
      simp only [System.step, System.perform, GlobalController.allocateCallBegin, hc]
      exact h
    | ok u =>
      obtain ⟨run', h', hch⟩ := onRun_change (q := r') h hid
        (fun run => run.allocateCallBegin s.controller.now s.controller.uuid args) (.allocateBegin r' args)
        (fun hne ha => hne (ha.1.trans hid))
        (fun he => by subst he; subst hid; exact allocateCallBegin_change s run args hc)
      refine ⟨run', ?_, hch⟩
      simp only [System.step, System.perform, System.run?, GlobalController.allocateCallBegin, hc]
      split <;> exact h'
  | allocateEnd c answer =>
    cases ha : s.inFlight.lookup c with
    | none =>
      refine ⟨run, ?_, .stay _ ?_⟩
      · simpa [System.step, System.perform, System.run?, ha] using h
      · rintro ⟨a, ha', _⟩
        rw [ha] at ha'
        cases ha'
    | some a =>
      obtain ⟨hca, _⟩ := hL.inFlight c a ha
      subst hca
      obtain ⟨run', h', hch⟩ := onRun_change (q := a.runId) h hid
        (fun run => run.allocateCallEnd s.controller.now s.controller.allocatorModelId a answer)
        (.allocateEnd a.callId answer)
        (fun hne hact => by
          obtain ⟨a', ha', hr⟩ := hact
          rw [ha] at ha'
          obtain rfl := Option.some.inj ha'
          exact hne (hr.trans hid))
        (fun he => allocateCallEnd_change s run a answer ha (he.trans hid.symm))
      refine ⟨run', ?_, hch⟩
      simpa [System.step, System.perform, System.run?, ha, GlobalController.allocateCallEnd] using h'
  | settleCall r' c costUsd latencyMs =>
    exact onRun_change h hid (fun run => run.settleCall s.controller.now c costUsd latencyMs) _
      (fun hne ha => hne (ha.1.trans hid)) (fun he => by subst he; subst hid; exact settleCall_change s run c costUsd latencyMs)
  | failCall r' c billingUnknown =>
    exact onRun_change h hid (fun run => run.failCall c billingUnknown) _
      (fun hne ha => hne (ha.1.trans hid)) (fun he => by subst he; subst hid; exact failCall_change s run c billingUnknown)
  | observeTool r' =>
    exact onRun_change h hid (fun run => run.observeTool s.controller.now) _
      (fun hne ha => hne (ha.1.trans hid)) (fun he => by subst he; subst hid; exact observeTool_change s run)
  | finishRun r' status =>
    exact onRun_change h hid (fun run => run.finishRun s.controller.now status) _
      (fun hne ha => hne (ha.1.trans hid)) (fun he => by subst he; subst hid; exact finishRun_change s run status)

/-- A run that is stored stays stored. -/
theorem run_stays {s : System} (hL : s.Linked) {r : RunId} {run : Run} (h : s.run? r = some run) (op : Op) :
    ∃ run', (s.step op).run? r = some run' := by
  obtain ⟨run', h', _⟩ := change_of_step hL h op
  exact ⟨run', h'⟩

/-! ## The allocations in progress and the numbers drawn -/

/-- The operation is a phase of an allocation. -/
def Op.allocates : Op → Bool
  | .allocateBegin _ _ => true
  | .allocateEnd _ _ => true
  | _ => false

namespace ChangeAux

/-- The local variables of an allocation that was just handed its numbers. -/
def opened (s : System) (run : Run) (args : CallArguments) : Allocation where
  runId := run.runId
  callId := s.controller.uuid
  sequence := run.nextSequence
  inputTokens := args.inputTokens
  cache := args.cache

/-- The first phase of an allocation that acts on its run hands it the next numbers. -/
theorem begin_acts {s : System} {run : Run} {args : CallArguments} (h : s.run? run.runId = some run)
    (ha : (Op.allocateBegin run.runId args).Acts s run) :
    (s.controller.allocateCallBegin run.runId args).1 = .ok (opened s run args) := by
  obtain ⟨_, hc, h1, h2, h3⟩ := ha
  have hb : (run.allocateCallBegin s.controller.now s.controller.uuid args).1 = .ok (opened s run args) := by
    unfold Run.allocateCallBegin
    rw [if_neg (not_not.2 h1), if_neg (not_any_le_iff.2 h2), if_neg (not_any_le_iff.2 h3)]
    rfl
  simp only [GlobalController.allocateCallBegin, hc, onRun_some h, hb]

/-- The first phase of an allocation that does not act raises. -/
theorem begin_refused {s : System} {r : RunId} {args : CallArguments}
    (h : ∀ run, s.run? r = some run → run.runId = r ∧ ¬(Op.allocateBegin r args).Acts s run) :
    ∃ e, (s.controller.allocateCallBegin r args).1 = .error e := by
  cases hc : checkArguments args with
  | error e => exact ⟨e, by simp only [GlobalController.allocateCallBegin, hc]⟩
  | ok u =>
    simp only [GlobalController.allocateCallBegin, hc]
    cases hr : s.controller.runs r with
    | none => exact ⟨_, by unfold GlobalController.onRun; rw [hr]⟩
    | some run =>
      rw [onRun_some hr]
      obtain ⟨hid, hna⟩ := h run hr
      unfold Run.allocateCallBegin
      by_cases h1 : run.status = .active
      · by_cases h2 : run.remainingCost.any (· ≤ 0) = true
        · exact ⟨_, by rw [if_neg (not_not.2 h1), if_pos h2]⟩
        · by_cases h3 : (run.remainingLatency s.controller.now).any (· ≤ 0) = true
          · exact ⟨_, by rw [if_neg (not_not.2 h1), if_neg h2, if_pos h3]⟩
          · exact absurd ⟨hid.symm, hc, h1, not_any_le_iff.1 h2, not_any_le_iff.1 h3⟩ hna
      · exact ⟨_, by rw [if_pos h1]⟩

theorem begin_uuid (c : GlobalController) (r : RunId) (args : CallArguments) :
    c.uuid ≤ (c.allocateCallBegin r args).2.uuid := by
  unfold GlobalController.allocateCallBegin
  split
  · exact le_rfl
  · exact Nat.le_succ _

/-- The first phase of an allocation that acts on its run: an allocation more is in progress, and a number is drawn. -/
theorem step_begin {s : System} {run : Run} {args : CallArguments} (h : s.run? run.runId = some run)
    (ha : (Op.allocateBegin run.runId args).Acts s run) :
    (s.step (.allocateBegin run.runId args)).inFlight = s.inFlight.insert s.controller.uuid (opened s run args) ∧
      (s.step (.allocateBegin run.runId args)).controller.uuid = s.controller.uuid + 1 := by
  simp only [System.step, System.perform, begin_acts h ha]
  refine ⟨rfl, ?_⟩
  simp only [GlobalController.allocateCallBegin, ha.2.1]

/-- The first phase of an allocation that is refused: nothing new is in progress. -/
theorem step_begin_refused {s : System} {r : RunId} {args : CallArguments}
    (h : ∀ run, s.run? r = some run → run.runId = r ∧ ¬(Op.allocateBegin r args).Acts s run) :
    (s.step (.allocateBegin r args)).inFlight = s.inFlight ∧
      s.controller.uuid ≤ (s.step (.allocateBegin r args)).controller.uuid := by
  obtain ⟨e, he⟩ := begin_refused h
  simp only [System.step, System.perform, he]
  exact ⟨trivial, begin_uuid _ _ _⟩

/-- The second phase of an allocation ends it. -/
theorem step_end (s : System) (c : CallId) (answer : Option BudgetAllocationDecision) :
    (s.step (.allocateEnd c answer)).inFlight = s.inFlight.erase c ∧
      (s.step (.allocateEnd c answer)).controller.uuid = s.controller.uuid := by
  cases ha : s.inFlight.lookup c with
  | none =>
    simp only [System.step, System.perform, ha]
    refine ⟨AList.ext ?_, trivial⟩
    exact (List.kerase_of_notMem_keys (AList.lookup_eq_none.1 ha)).symm
  | some a =>
    simp only [System.step, System.perform, ha, GlobalController.allocateCallEnd]
    exact ⟨trivial, onRun_uuid _ _ _⟩

theorem step_other (s : System) {op : Op} (h : op.allocates = false) :
    (s.step op).inFlight = s.inFlight ∧ s.controller.uuid ≤ (s.step op).controller.uuid := by
  cases op with
  | elapse ms => exact ⟨rfl, le_rfl⟩
  | startRun sessionId policy =>
    refine ⟨rfl, ?_⟩
    simp only [System.step, System.perform, GlobalController.startRun]
    split
    · exact le_rfl
    · exact Nat.le_succ _
  | allocateBegin r args => cases h
  | allocateEnd c answer => cases h
  | settleCall r c costUsd latencyMs => exact ⟨rfl, (onRun_uuid _ _ _).ge⟩
  | failCall r c billingUnknown => exact ⟨rfl, (onRun_uuid _ _ _).ge⟩
  | observeTool r => exact ⟨rfl, (onRun_uuid _ _ _).ge⟩
  | finishRun r status => exact ⟨rfl, (onRun_uuid _ _ _).ge⟩

/-- Every step draws numbers that were not drawn before. -/
theorem uuid_le_step (s : System) (op : Op) : s.controller.uuid ≤ (s.step op).controller.uuid := by
  cases hop : op.allocates with
  | false => exact (step_other s hop).2
  | true =>
    cases op with
    | allocateBegin r args =>
      simp only [System.step, System.perform]
      split <;> exact begin_uuid _ _ _
    | allocateEnd c answer => exact (step_end s c answer).2.ge
    | _ => cases hop

/-- A step leaves the allocations in progress, or ends one, or begins one under the next number. -/
theorem mem_inFlight_step {s : System} (hL : s.Linked) {op : Op} {c : CallId} (h : c ∈ (s.step op).inFlight) :
    c ∈ s.inFlight ∨ c = s.controller.uuid := by
  cases hop : op.allocates with
  | false => exact Or.inl ((step_other s hop).1 ▸ h)
  | true =>
    cases op with
    | allocateBegin r args =>
      by_cases hact : ∃ run, s.run? r = some run ∧ (Op.allocateBegin r args).Acts s run
      · obtain ⟨run, hrun, hact⟩ := hact
        obtain ⟨rfl, _⟩ := hL.runId r run hrun
        rw [(step_begin hrun hact).1, AList.mem_insert] at h
        exact h.symm
      · rw [(step_begin_refused fun run h => ⟨(hL.runId r run h).1, fun ha => hact ⟨run, h, ha⟩⟩).1] at h
        exact Or.inl h
    | allocateEnd c' answer =>
      rw [(step_end s c' answer).1, AList.mem_erase] at h
      exact Or.inl h.2
    | _ => cases hop

end ChangeAux

/-- A run that `start_run` opens. -/
def Run.opened (r : RunId) (sessionId : Text) (policy : OperatingPolicy) (now : Int) : Run :=
  { runId := r, sessionId, policy, startedAt := now }

/-- Where a run after a step comes from: the step changed it, or the step opened it. -/
theorem run_of_step {s : System} (hL : s.Linked) {op : Op} {r : RunId} {run' : Run} (h' : (s.step op).run? r = some run') :
    (∃ run, s.run? r = some run ∧ Change s run op run') ∨
    (s.run? r = none ∧ r = s.controller.uuid ∧ ∃ sessionId policy, op = .startRun sessionId policy ∧
      run' = Run.opened r sessionId policy s.controller.now) := by
  cases hr : s.run? r with
  | some run =>
    obtain ⟨run'', h'', hc⟩ := change_of_step hL hr op
    rw [h''] at h'
    obtain rfl := Option.some.inj h'
    exact Or.inl ⟨run, rfl, hc⟩
  | none =>
    -- only `start_run` stores a run where there was none
    have onRun : ∀ {α : Type} (r' : RunId) (method : Run → Except PyError α × Run),
        (s.controller.onRun r' method).2.runs r = none := by
      intro α r' method
      by_cases hrr : r = r'
      · subst hrr
        rw [onRun_none hr]
        exact hr
      · rw [onRun_ne _ _ hrr]
        exact hr
    have absurd' : ∀ {o : Option Run}, o = none → o = some run' → False := by
      intro o h1 h2
      rw [h1] at h2
      cases h2
    right
    cases op with
    | elapse ms => exact (absurd' hr h').elim
    | startRun sessionId policy =>
      simp only [System.step, System.perform, System.run?, GlobalController.startRun] at h'
      split at h'
      · exact (absurd' hr h').elim
      · by_cases hu : r = s.controller.uuid
        · subst hu
          simp only [Function.update_self, Option.some.injEq] at h'
          exact ⟨rfl, rfl, sessionId, policy, rfl, h'.symm⟩
        · simp only [Function.update_of_ne hu] at h'
          exact (absurd' hr h').elim
    | allocateBegin r' args =>
      simp only [System.step, System.perform, System.run?, GlobalController.allocateCallBegin] at h'
      cases hc : checkArguments args with
      | error e =>
        rw [hc] at h'
        exact (absurd' hr h').elim
      | ok u =>
        rw [hc] at h'
        simp only at h'
        split at h' <;> exact (absurd' (onRun _ _) h').elim
    | allocateEnd c answer =>
      simp only [System.step, System.perform, System.run?] at h'
      split at h'
      · exact (absurd' hr h').elim
      · exact (absurd' (onRun _ _) h').elim
    | settleCall r' c costUsd latencyMs => exact (absurd' (onRun _ _) h').elim
    | failCall r' c billingUnknown => exact (absurd' (onRun _ _) h').elim
    | observeTool r' => exact (absurd' (onRun _ _) h').elim
    | finishRun r' status => exact (absurd' (onRun _ _) h').elim

/-! ## What a change leaves -/

theorem Change.runId {s : System} {run run' : Run} {op : Op} (h : Change s run op run') : run'.runId = run.runId := by
  cases h <;> rfl

theorem Change.policy {s : System} {run run' : Run} {op : Op} (h : Change s run op run') : run'.policy = run.policy := by
  cases h <;> rfl

/-- Only the two phases of an allocation change the pending allocations. -/
theorem Change.pending {s : System} {run run' : Run} {op : Op} (h : Change s run op run') (hop : op.allocates = false) :
    run'.pendingAllocations = run.pendingAllocations := by
  cases h <;> first | rfl | cases hop

/-- The first phase of an allocation leaves the run, or hands it a number. -/
theorem Change.of_begin {s : System} {run run' : Run} {r : RunId} {args : CallArguments}
    (h : Change s run (.allocateBegin r args) run') :
    (¬(Op.allocateBegin r args).Acts s run ∧ run' = run) ∨
    (r = run.runId ∧ run' = { run with
      nextSequence := run.nextSequence + 1
      pendingAllocations := insert s.controller.uuid run.pendingAllocations }) := by
  cases h with
  | stay op hn => exact Or.inl ⟨hn, rfl⟩
  | handOut args ha => exact Or.inr ⟨rfl, rfl⟩

/-- A reservation after a step was there before, or is the one the second phase of its allocation makes. -/
theorem Change.mem_reserved {s : System} {run run' : Run} {op : Op} (h : Change s run op run') {c : CallId}
    (hc : c ∈ run'.reserved) :
    c ∈ run.reserved ∨ ∃ a answer, s.inFlight.lookup c = some a ∧ op = .allocateEnd c answer := by
  cases h with
  | reserve a decision ha hr hs hv =>
    rcases (AList.mem_insert _).1 hc with rfl | hc
    · exact Or.inr ⟨a, some decision, ha, rfl⟩
    · exact Or.inl hc
  | settle c' b costUsd latencyMs hb h hok => exact Or.inl (AList.mem_erase.1 hc).2
  | settleFailing c' b costUsd latencyMs hb h hv => exact Or.inl (AList.mem_erase.1 hc).2
  | fail c' b billingUnknown hb h => exact Or.inl (AList.mem_erase.1 hc).2
  | finish status h hd => exact absurd hc (AList.notMem_empty c)
  | finishLate h hd => exact absurd hc (AList.notMem_empty c)
  | stay op h => exact Or.inl hc
  | handOut args h => exact Or.inl hc
  | discard a answer ha hr hn => exact Or.inl hc
  | tool h hd => exact Or.inl hc
  | toolFailing h hd => exact Or.inl hc

/-! ## The bookkeeping is kept -/

namespace ChangeAux

theorem linked_start (allocatorModelId : String) : (System.start allocatorModelId).Linked where
  runId := by intro r run h; cases h
  pending := by intro r run h; cases h
  inFlight := by intro c a h; cases h
  reserved := by intro r run h; cases h

/-- An operation outside the allocations keeps the bookkeeping. -/
theorem linked_other {s : System} (hL : s.Linked) {op : Op} (hop : op.allocates = false) : (s.step op).Linked := by
  obtain ⟨hf, hu⟩ := step_other s hop
  refine ⟨?_, ?_, ?_, ?_⟩
  · intro r run' h'
    rcases run_of_step hL h' with ⟨run, h, hc⟩ | ⟨_, hr, sessionId, policy, rfl, rfl⟩
    · obtain ⟨hid, hlt⟩ := hL.runId r run h
      exact ⟨hc.runId.trans hid, lt_of_lt_of_le hlt hu⟩
    · refine ⟨rfl, ?_⟩
      subst hr
      simp only [System.step, System.perform, System.run?, GlobalController.startRun] at h' ⊢
      split
      · rename_i hs
        rw [if_pos hs] at h'
        exact absurd (hL.runId _ _ h').2 (Nat.lt_irrefl _)
      · exact Nat.lt_succ_self _
  · intro r run' h' c
    rw [hf]
    rcases run_of_step hL h' with ⟨run, h, hc⟩ | ⟨hnone, _, sessionId, policy, rfl, rfl⟩
    · rw [hc.pending hop]
      exact hL.pending r run h c
    · -- no allocation in progress belongs to a run that is only now opened
      refine ⟨fun hm => absurd hm (Finset.notMem_empty c), ?_⟩
      rintro ⟨a, ha, hra⟩
      obtain ⟨_, _, run, hrun⟩ := hL.inFlight c a ha
      rw [hra, hnone] at hrun
      cases hrun
  · intro c a h
    rw [hf] at h
    obtain ⟨hc, h1, run, h2⟩ := hL.inFlight c a h
    exact ⟨hc, lt_of_lt_of_le h1 hu, run_stays hL h2 op⟩
  · intro r run' h' c hc
    rw [hf]
    rcases run_of_step hL h' with ⟨run, h, hch⟩ | ⟨_, _, sessionId, policy, rfl, rfl⟩
    · rcases hch.mem_reserved hc with hm | ⟨a, answer, _, rfl⟩
      · exact ⟨lt_of_lt_of_le (hL.reserved r run h c hm).1 hu, (hL.reserved r run h c hm).2⟩
      · cases hop
    · exact absurd hc (AList.notMem_empty c)

/-- The first phase of an allocation keeps the bookkeeping. -/
theorem linked_begin {s : System} (hL : s.Linked) (r : RunId) (args : CallArguments) :
    (s.step (.allocateBegin r args)).Linked := by
  by_cases hact : ∃ run, s.run? r = some run ∧ (Op.allocateBegin r args).Acts s run
  · obtain ⟨run, hrun, hact⟩ := hact
    obtain ⟨hid, hlt⟩ := hL.runId r run hrun
    subst hid
    obtain ⟨hf, hu⟩ := step_begin hrun hact
    have hold : ∀ {r'} {run' : Run}, (s.step (.allocateBegin run.runId args)).run? r' = some run' →
        ∃ run₀, s.run? r' = some run₀ ∧ Change s run₀ (.allocateBegin run.runId args) run' := by
      intro r' run' h'
      rcases run_of_step hL h' with h | ⟨_, _, sessionId, policy, hop, _⟩
      · exact h
      · cases hop
    refine ⟨?_, ?_, ?_, ?_⟩
    · intro r' run' h'
      obtain ⟨run₀, h, hc⟩ := hold h'
      rw [hu]
      exact ⟨hc.runId.trans (hL.runId r' run₀ h).1, Nat.lt_succ_of_lt (hL.runId r' run₀ h).2⟩
    · intro r' run' h' c
      obtain ⟨run₀, h, hc⟩ := hold h'
      have hp := hL.pending r' run₀ h c
      rw [hf, Table.lookup_insert_eq]
      rcases hc.of_begin with ⟨hn, rfl⟩ | ⟨hr, rfl⟩
      · -- the run is another one, so the new allocation is not its own
        have hne : run.runId ≠ r' := by
          rintro rfl
          rw [hrun] at h
          obtain rfl := Option.some.inj h
          exact hn hact
        by_cases hcu : c = s.controller.uuid
        · subst hcu
          rw [hp, if_pos rfl]
          constructor
          · rintro ⟨a, ha, _⟩
            exact absurd (hL.inFlight _ a ha).2.1 (Nat.lt_irrefl _)
          · rintro ⟨a, ha, hra⟩
            obtain rfl := Option.some.inj ha
            exact absurd hra hne
        · rw [if_neg hcu]
          exact hp
      · have hr' := (hL.runId r' run₀ h).1
        rw [Finset.mem_insert]
        by_cases hcu : c = s.controller.uuid
        · rw [if_pos hcu]
          exact ⟨fun _ => ⟨_, rfl, hr.trans hr'⟩, fun _ => Or.inl hcu⟩
        · rw [if_neg hcu, ← hp]
          exact ⟨fun h => h.resolve_left hcu, Or.inr⟩
    · intro c a h
      rw [hf, Table.lookup_insert_eq] at h
      rw [hu]
      split at h
      · rename_i hcu
        obtain rfl := Option.some.inj h
        exact ⟨hcu.symm, hcu ▸ Nat.lt_succ_self _, run_stays hL hrun _⟩
      · obtain ⟨hc, h1, run₀, h2⟩ := hL.inFlight c a h
        exact ⟨hc, Nat.lt_succ_of_lt h1, run_stays hL h2 _⟩
    · intro r' run' h' c hc
      obtain ⟨run₀, h, hch⟩ := hold h'
      rcases hch.mem_reserved hc with hm | ⟨a, answer, _, hop⟩
      · obtain ⟨h1, h2⟩ := hL.reserved r' run₀ h c hm
        rw [hf, hu, AList.mem_insert]
        exact ⟨Nat.lt_succ_of_lt h1, fun h => h.elim (fun h => absurd h (Nat.ne_of_lt h1)) h2⟩
      · cases hop
  · -- refused: no run changes
    have hstay : ∀ run, s.run? r = some run → run.runId = r ∧ ¬(Op.allocateBegin r args).Acts s run :=
      fun run h => ⟨(hL.runId r run h).1, fun ha => hact ⟨run, h, ha⟩⟩
    obtain ⟨hf, hu⟩ := step_begin_refused hstay
    have hold : ∀ {r'} {run' : Run}, (s.step (.allocateBegin r args)).run? r' = some run' → s.run? r' = some run' := by
      intro r' run' h'
      rcases run_of_step hL h' with ⟨run₀, h, hc⟩ | ⟨_, _, sessionId, policy, hop, _⟩
      · cases hc with
        | stay op hn => exact h
        | handOut args ha =>
          obtain ⟨hid, _⟩ := hL.runId r' run₀ h
          subst hid
          exact absurd ha fun ha => (hstay run₀ h).2 ha
      · cases hop
    refine ⟨?_, ?_, ?_, ?_⟩
    · intro r' run' h'
      exact ⟨(hL.runId r' run' (hold h')).1, lt_of_lt_of_le (hL.runId r' run' (hold h')).2 hu⟩
    · intro r' run' h' c
      rw [hf]
      exact hL.pending r' run' (hold h') c
    · intro c a h
      rw [hf] at h
      obtain ⟨hc, h1, run₀, h2⟩ := hL.inFlight c a h
      exact ⟨hc, lt_of_lt_of_le h1 hu, run_stays hL h2 _⟩
    · intro r' run' h' c hc
      rw [hf]
      exact ⟨lt_of_lt_of_le (hL.reserved r' run' (hold h') c hc).1 hu, (hL.reserved r' run' (hold h') c hc).2⟩

/-- The second phase of an allocation keeps the bookkeeping. -/
theorem linked_end {s : System} (hL : s.Linked) (c : CallId) (answer : Option BudgetAllocationDecision) :
    (s.step (.allocateEnd c answer)).Linked := by
  obtain ⟨hf, hu⟩ := step_end s c answer
  have hold : ∀ {r} {run' : Run}, (s.step (.allocateEnd c answer)).run? r = some run' →
      ∃ run₀, s.run? r = some run₀ ∧ Change s run₀ (.allocateEnd c answer) run' := by
    intro r run' h'
    rcases run_of_step hL h' with h | ⟨_, _, sessionId, policy, hop, _⟩
    · exact h
    · cases hop
  refine ⟨?_, ?_, ?_, ?_⟩
  · intro r run' h'
    obtain ⟨run₀, h, hc⟩ := hold h'
    rw [hu]
    exact ⟨hc.runId.trans (hL.runId r run₀ h).1, (hL.runId r run₀ h).2⟩
  · intro r run' h' c'
    obtain ⟨run₀, h, hc⟩ := hold h'
    have hp := hL.pending r run₀ h c'
    have hid := (hL.runId r run₀ h).1
    rw [hf, Table.lookup_erase_eq]
    -- the run loses the allocation from its pending ones exactly when it is its own
    have hown : ∀ {a : Allocation}, s.inFlight.lookup a.callId = some a → a.runId = run₀.runId →
        (c' ∈ run₀.pendingAllocations.erase a.callId ↔
          ∃ b, (if c' = a.callId then none else s.inFlight.lookup c') = some b ∧ b.runId = r) := by
      intro a ha hr
      rw [Finset.mem_erase, hp]
      by_cases hca : c' = a.callId
      · simp [hca]
      · simp [hca]
    cases hc with
    | stay op hn =>
      by_cases hcc : c' = c
      · subst hcc
        rw [if_pos rfl, hp]
        constructor
        · rintro ⟨a, ha, hra⟩
          exact absurd ⟨a, ha, hra.trans hid.symm⟩ hn
        · rintro ⟨a, ha, _⟩
          cases ha
      · rw [if_neg hcc]
        exact hp
    | discard a answer ha hr hn => exact hown ha hr
    | reserve a decision ha hr hs hv => exact hown ha hr
  · intro c' a h
    rw [hf, Table.lookup_erase_eq] at h
    rw [hu]
    split at h
    · cases h
    · obtain ⟨hc, h1, run₀, h2⟩ := hL.inFlight c' a h
      exact ⟨hc, h1, run_stays hL h2 _⟩
  · intro r run' h' c' hc
    obtain ⟨run₀, h, hch⟩ := hold h'
    rw [hf, hu, AList.mem_erase]
    rcases hch.mem_reserved hc with hm | ⟨a, answer', ha, hop⟩
    · exact ⟨(hL.reserved r run₀ h c' hm).1, fun hx => (hL.reserved r run₀ h c' hm).2 hx.2⟩
    · injection hop with hcc
      exact ⟨(hL.inFlight c' a ha).2.1, fun hx => hx.1 hcc.symm⟩

end ChangeAux

/-- Every step keeps the bookkeeping. -/
theorem System.Linked.step {s : System} (hL : s.Linked) (op : Op) : (s.step op).Linked := by
  cases op with
  | allocateBegin r args => exact linked_begin hL r args
  | allocateEnd c answer => exact linked_end hL c answer
  | _ => exact linked_other hL rfl

end PromptRail
