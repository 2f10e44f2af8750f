import PromptRail.Controller.Ledger
import PromptRail.Gateway

/-!
# What a preparation that fails leaves in the controller

The handler releases the reservation of a call from the ranking on. Nothing releases the reservation that the thread of a cancelled
allocation makes, and the handler itself is refused by a run that another operation has ended. So a preparation that ends without a
call leaves nothing exactly where neither of the two happens.
-/

namespace PromptRail

open Transition (Throughout Along throughout_iff_along_through along_of_forall)

namespace Gateway

/-- The run holds a reservation under the number. -/
def Reserved (s : System) (runId : RunId) (callId : CallId) : Prop :=
  ∃ run, s.run? runId = some run ∧ callId ∈ run.reserved

/-- The run holds a pending allocation or a reservation under the number. -/
def Held (s : System) (runId : RunId) (callId : CallId) : Prop :=
  ∃ run, s.run? runId = some run ∧ (callId ∈ run.pendingAllocations ∨ callId ∈ run.reserved)

/-- Once a preparation has ended without a call and the thread of its allocation is done, the run holds nothing for the call. -/
def Released (runId : RunId) (p : Preparation) : Prop :=
  p.stage = .failed → ∀ a answer, p.worker = .done (some a) answer → ¬ Held p.system runId a.callId

/-- No reservation that the allocation was given is open. -/
def NothingGranted (runId : RunId) (p : Preparation) : Prop :=
  ∀ a budget, p.worker = .done (some a) (.ok budget) → ¬ Reserved p.system runId a.callId

/-- The run still takes the release of the call, or holds no reservation for it. -/
def Releasable (runId : RunId) (p : Preparation) : Prop :=
  ∀ budget ∈ p.stage.covered, ∀ run, p.system.run? runId = some run → budget.callId ∈ run.reserved → run.status = .active

/-- A step does not leave a reservation behind: the allocation of a preparation that has ended is not accepted, a preparation that
was cancelled during its allocation does not end with what the allocation was given, and a release is not refused. -/
def LeavesNothing (runId : RunId) (p : Preparation) : PrepareAction → Prop
  | .answer (some decision) => p.stage = .failed → ∀ a run, p.worker = .allocating a → p.system.run? runId = some run →
      run.status = .active → ¬ a.Accepts p.system run decision
  | .resume => p.stage = .draining → NothingGranted runId p
  | .raise => Releasable runId p
  | .cancel _ => (p.stage = .draining → NothingGranted runId p) ∧ Releasable runId p
  | _ => True

namespace ReleaseAux

open ChangeAux

variable {s : System} {runId : RunId} {c : CallId} {op : Op}

/-! ## Numbers that are not in flight -/

/-- The number was drawn, and no allocation under it is in progress. -/
structure Spent (s : System) (c : CallId) : Prop where
  drawn : c < s.controller.uuid
  landed : c ∉ s.inFlight

theorem spent_step (hL : s.Linked) (h : Spent s c) (op : Op) : Spent (s.step op) c where
  drawn := lt_of_lt_of_le h.drawn (uuid_le_step s op)
  landed := by
    intro hmem
    rcases mem_inFlight_step hL hmem with hold | hnew
    · exact h.landed hold
    · exact absurd h.drawn (by rw [hnew]; exact lt_irrefl _)

/-- A number that is not in flight is not pending. -/
theorem held_iff (hL : s.Linked) (h : Spent s c) : Held s runId c ↔ Reserved s runId c := by
  constructor
  · rintro ⟨run, hrun, hpending | hreserved⟩
    · obtain ⟨a, ha, -⟩ := (hL.pending runId run hrun c).1 hpending
      exact absurd (AList.lookup_isSome.1 (by rw [ha]; rfl)) h.landed
    · exact ⟨run, hrun, hreserved⟩
  · rintro ⟨run, hrun, hreserved⟩
    exact ⟨run, hrun, Or.inr hreserved⟩

/-- No step makes a reservation under a number that is not in flight. -/
theorem reserved_of_step (hL : s.Linked) (h : Spent s c) (hnext : Reserved (s.step op) runId c) : Reserved s runId c := by
  obtain ⟨run', hrun', hc⟩ := hnext
  rcases run_of_step hL hrun' with ⟨run, hrun, hchange⟩ | ⟨-, -, sessionId, policy, -, rfl⟩
  · rcases hchange.mem_reserved hc with hold | ⟨a, answer, ha, -⟩
    · exact ⟨run, hrun, hold⟩
    · exact absurd (AList.lookup_isSome.1 (by rw [ha]; rfl)) h.landed
  · exact absurd hc (AList.notMem_empty c)

/-- An allocation stays in progress until its second phase. -/
theorem inFlight_stays (hL : s.Linked) {a : Allocation} (ha : s.inFlight.lookup c = some a)
    (hop : ∀ answer, op ≠ .allocateEnd c answer) : (s.step op).inFlight.lookup c = some a := by
  cases hallocates : op.allocates with
  | false => rw [(step_other s hallocates).1, ha]
  | true =>
    cases op with
    | allocateBegin r args =>
      by_cases hact : ∃ run, s.run? r = some run ∧ (Op.allocateBegin r args).Acts s run
      · obtain ⟨run, hrun, hact⟩ := hact
        obtain ⟨rfl, -⟩ := hL.runId r run hrun
        obtain ⟨-, hlt, -⟩ := hL.inFlight c a ha
        rw [(step_begin hrun hact).1, AList.lookup_insert_ne (Nat.ne_of_lt hlt), ha]
      · rw [(step_begin_refused fun run h => ⟨(hL.runId r run h).1, fun ha => hact ⟨run, h, ha⟩⟩).1, ha]
    | allocateEnd c' answer =>
      rw [(step_end s c' answer).1, AList.lookup_erase_ne, ha]
      rintro rfl
      exact hop answer rfl
    | _ => cases hallocates

/-! ## The two phases of the allocation -/

/-- The first phase hands the thread an allocation that is in progress, or raises. -/
theorem perform_begin (hL : s.Linked) (args : CallArguments) :
    (∃ a, (s.perform (.allocateBegin runId args)).1 = .ok (.allocation a) ∧ a.runId = runId ∧
      (s.step (.allocateBegin runId args)).inFlight.lookup a.callId = some a) ∨
    ∃ e, (s.perform (.allocateBegin runId args)).1 = .error e := by
  by_cases hact : ∃ run, s.run? runId = some run ∧ (Op.allocateBegin runId args).Acts s run
  · obtain ⟨run, hrun, hact⟩ := hact
    obtain ⟨rfl, -⟩ := hL.runId runId run hrun
    refine Or.inl ⟨opened s run args, ?_, rfl, ?_⟩
    · simp only [System.perform, begin_acts hrun hact]
    · rw [(step_begin hrun hact).1]
      exact AList.lookup_insert _
  · obtain ⟨e, he⟩ := begin_refused fun run h => ⟨(hL.runId runId run h).1, fun ha => hact ⟨run, h, ha⟩⟩
    exact Or.inr ⟨e, by simp only [System.perform, he]⟩

/-- What the second phase of an allocation does to a run. -/
theorem change_of_end {run run' : Run} {answer : Option BudgetAllocationDecision}
    (h : Change s run (.allocateEnd c answer) run') :
    (run'.reserved = run.reserved ∧ ∀ a, s.inFlight.lookup c = some a → a.runId = run.runId →
      ∀ d, answer = some d → run.status = .active → ¬a.Accepts s run d) ∨
    (c ∈ run'.reserved ∧ run'.status = .active ∧
      ∃ a d, s.inFlight.lookup c = some a ∧ answer = some d ∧ run.status = .active ∧ a.Accepts s run d) := by
  cases h with
  | stay _ hacts => exact Or.inl ⟨rfl, fun a ha hr => absurd ⟨a, ha, hr⟩ hacts⟩
  | discard a answer ha hr hn =>
    refine Or.inl ⟨rfl, ?_⟩
    intro a' ha' _ d hd hstatus
    rw [ha] at ha'
    obtain rfl := Option.some.inj ha'
    exact hn d hd hstatus
  | reserve a d ha hr hs hv => exact Or.inr ⟨(AList.mem_insert _).2 (Or.inl rfl), hs, a, d, ha, rfl, hs, hv⟩

/-- The answer is a decision that the run accepts. -/
def Accepted (s : System) (a : Allocation) (answer : Option BudgetAllocationDecision) : Prop :=
  ∃ run decision, s.run? a.runId = some run ∧ answer = some decision ∧ run.status = .active ∧ a.Accepts s run decision

/-- The second phase of an accepted allocation returns the budget of the call, and the run holds its reservation. -/
theorem perform_end_accepted (hL : s.Linked) {a : Allocation} (ha : s.inFlight.lookup a.callId = some a)
    {answer : Option BudgetAllocationDecision} (h : Accepted s a answer) :
    (∃ budget, (s.perform (.allocateEnd a.callId answer)).1 = .ok (.budget budget) ∧ budget.callId = a.callId ∧
      budget.runId = a.runId) ∧
      ∃ run, (s.step (.allocateEnd a.callId answer)).run? a.runId = some run ∧ run.status = .active ∧ a.callId ∈ run.reserved := by
  obtain ⟨run, decision, hrun, rfl, hstatus, haccepts⟩ := h
  constructor
  · refine ⟨a.budget s.controller.allocatorModelId decision, ?_, rfl, rfl⟩
    simp only [System.perform, ha, GlobalController.allocateCallEnd]
    rw [onRun_some hrun, allocateCallEnd_ok hstatus haccepts]
    rfl
  · obtain ⟨run', hrun', hchange⟩ := change_of_step hL hrun (.allocateEnd a.callId (some decision))
    refine ⟨run', hrun', ?_⟩
    rcases change_of_end hchange with ⟨-, hrefused⟩ | ⟨hc, hactive, -⟩
    · exact absurd haccepts (hrefused a ha (hL.runId _ run hrun).1.symm decision rfl hstatus)
    · exact ⟨hactive, hc⟩

/-- The second phase of an allocation that is not accepted raises, and the run holds nothing for the call. -/
theorem perform_end_refused (hL : s.Linked) {a : Allocation} (ha : s.inFlight.lookup a.callId = some a)
    {answer : Option BudgetAllocationDecision} (h : ¬ Accepted s a answer) :
    (∃ e, (s.perform (.allocateEnd a.callId answer)).1 = .error e) ∧
      ¬ Reserved (s.step (.allocateEnd a.callId answer)) a.runId a.callId := by
  obtain ⟨-, -, run, hrun⟩ := hL.inFlight a.callId a ha
  have hrefused : ∀ d, answer = some d → run.status = .active → ¬a.Accepts s run d :=
    fun d hd hstatus haccepts => h ⟨run, d, hrun, hd, hstatus, haccepts⟩
  constructor
  · obtain ⟨e, he⟩ := allocateCallEnd_error hrefused
    refine ⟨e, ?_⟩
    simp only [System.perform, ha, GlobalController.allocateCallEnd]
    rw [onRun_some hrun, he]
    rfl
  · rintro ⟨run', hrun', hc⟩
    obtain ⟨run'', hrun'', hchange⟩ := change_of_step hL hrun (.allocateEnd a.callId answer)
    rw [hrun''] at hrun'
    obtain rfl := Option.some.inj hrun'
    rcases change_of_end hchange with ⟨hsame, -⟩ | ⟨-, -, a', d, ha', hd, hstatus, haccepts⟩
    · rw [hsame] at hc
      exact (hL.reserved _ run hrun _ hc).2 (AList.lookup_isSome.1 (by rw [ha]; rfl))
    · rw [ha] at ha'
      obtain rfl := Option.some.inj ha'
      exact hrefused d hd hstatus haccepts

/-! ## The release -/

/-- After a release that the run takes, it holds no reservation of the call. -/
theorem not_reserved_of_release (hL : s.Linked)
    (h : ∀ run, s.run? runId = some run → c ∈ run.reserved → run.status = .active) :
    ¬ Reserved (s.step (.failCall runId c false)) runId c := by
  rintro ⟨run', hrun', hc⟩
  rcases run_of_step hL hrun' with ⟨run, hrun, hchange⟩ | ⟨-, -, sessionId, policy, hop, -⟩
  · have hid := (hL.runId _ run hrun).1
    cases hchange with
    | stay _ hacts => exact hacts ⟨hid.symm, h _ hrun hc, hc⟩
    | fail _ b _ hb hacts => exact (AList.mem_erase.1 hc).1 rfl
  · cases hop

/-- A release that the run does not take leaves the reservation. -/
theorem reserved_of_refused (hL : s.Linked) {run : Run} (hrun : s.run? runId = some run) (hc : c ∈ run.reserved)
    (hstatus : run.status ≠ .active) : Reserved (s.step (.failCall runId c false)) runId c := by
  obtain ⟨run', hrun', hchange⟩ := change_of_step hL hrun (.failCall runId c false)
  refine ⟨run', hrun', ?_⟩
  cases hchange with
  | stay _ _ => exact hc
  | fail _ b _ hb hacts => exact absurd hacts.2.1 hstatus

/-! ## What a run keeps -/

/-- Where the allocation of a preparation is, and what it holds; and a preparation that has failed holds nothing. -/
structure Kept (runId : RunId) (p : Preparation) : Prop where
  linked : p.system.Linked
  allocating : ∀ a, p.worker = .allocating a → a.runId = runId ∧ p.system.inFlight.lookup a.callId = some a
  done : ∀ a answer, p.worker = .done (some a) answer → Spent p.system a.callId
  refused : ∀ a e, p.worker = .done (some a) (.error e) → ¬ Reserved p.system runId a.callId
  covered : ∀ budget ∈ p.stage.covered, ∃ a answer, p.worker = .done (some a) answer ∧ budget.callId = a.callId
  granted : ∀ a budget, p.worker = .done a (.ok budget) → ∃ a', a = some a' ∧ budget.callId = a'.callId
  released : Released runId p

variable {p : Preparation}

theorem kept_begun (runId : RunId) (allocatorModelId : String) : Kept runId (.start allocatorModelId) where
  linked := linked_start allocatorModelId
  allocating := fun _ h => nomatch h
  done := fun _ _ h => nomatch h
  refused := fun _ _ h => nomatch h
  covered := fun _ h => nomatch h
  granted := fun _ _ h => nomatch h
  released := fun _ _ _ h => nomatch h

/-- An operation of others keeps what is kept. -/
theorem kept_system (h : Kept runId p) (hown : p.ownPhase op = false) : Kept runId { p with system := p.system.step op } where
  linked := h.linked.step op
  allocating := by
    intro a hworker
    obtain ⟨hrun, ha⟩ := h.allocating a hworker
    refine ⟨hrun, inFlight_stays h.linked ha ?_⟩
    rintro answer rfl
    unfold Preparation.ownPhase at hown
    rw [show p.worker = .allocating a from hworker] at hown
    exact absurd rfl (of_decide_eq_false hown)
  done := fun a answer hworker => spent_step h.linked (h.done a answer hworker) op
  refused := fun a e hworker hnext => h.refused a e hworker (reserved_of_step h.linked (h.done a _ hworker) hnext)
  covered := h.covered
  granted := h.granted
  released := by
    intro hstage a answer hworker hheld
    have hspent := h.done a answer hworker
    rw [held_iff (h.linked.step op) (spent_step h.linked hspent op)] at hheld
    exact h.released hstage a answer hworker ((held_iff h.linked hspent).2 (reserved_of_step h.linked hspent hheld))

/-- A stage of the coroutine keeps what is kept, if it covers no budget of another call and does not end with a reservation. -/
theorem kept_stage {stage : Stage} (h : Kept runId p)
    (hcovered : ∀ budget ∈ stage.covered, ∃ a answer, p.worker = .done (some a) answer ∧ budget.callId = a.callId)
    (hreleased : Released runId { p with stage := stage }) : Kept runId { p with stage := stage } :=
  { h with covered := hcovered, released := hreleased }

/-- A stage without a budget. -/
theorem kept_uncovered {stage : Stage} (h : Kept runId p) (hcovered : stage.covered = none)
    (hreleased : Released runId { p with stage := stage }) : Kept runId { p with stage := stage } := by
  refine kept_stage h ?_ hreleased
  intro budget hbudget
  rw [hcovered] at hbudget
  cases hbudget

/-- A preparation that has not failed has nothing to release yet. -/
theorem released_of_stage (h : p.stage ≠ .failed) : Released runId p := fun hstage => absurd hstage h

/-- A preparation that fails without a reservation holds nothing. -/
theorem released_of_not_reserved (h : Kept runId p)
    (hnone : ∀ a answer, p.worker = .done (some a) answer → ¬ Reserved p.system runId a.callId) :
    Released runId { p with stage := .failed } := by
  intro _ a answer hworker hheld
  exact hnone a answer hworker ((held_iff h.linked (h.done a answer hworker)).1 hheld)

/-- The allocation was given nothing, or what it was given is no longer reserved. -/
theorem not_reserved_of_nothingGranted (h : Kept runId p) (hnone : NothingGranted runId p) :
    ∀ a answer, p.worker = .done (some a) answer → ¬ Reserved p.system runId a.callId := by
  intro a answer hworker
  cases answer with
  | error e => exact h.refused a e hworker
  | ok budget => exact hnone a budget hworker

/-! ### The coroutine -/

theorem kept_release {budget : CallBudget} (h : Kept runId p) (hbudget : budget ∈ p.stage.covered)
    (hgood : Releasable runId p) : Kept runId (p.release runId budget) := by
  obtain ⟨a, answer, hworker, hcall⟩ := h.covered budget hbudget
  have hown : p.ownPhase (.failCall runId budget.callId false) = false := by
    unfold Preparation.ownPhase
    rw [hworker]
  refine kept_uncovered (kept_system h hown) rfl (released_of_not_reserved (kept_system h hown) ?_)
  intro a' answer' hworker'
  rw [show p.worker = .done (some a') answer' from hworker'] at hworker
  cases hworker
  rw [← hcall]
  exact not_reserved_of_release h.linked (hgood budget hbudget)

/-- A release that leaves nothing was not refused. -/
theorem releasable_of_released (h : Kept runId p)
    (hnext : ∀ budget ∈ p.stage.covered, Released runId (p.release runId budget)) : Releasable runId p := by
  intro budget hbudget run hrun hreserved
  by_contra hstatus
  obtain ⟨a, answer, hworker, hcall⟩ := h.covered budget hbudget
  obtain ⟨run', hrun', hc⟩ := reserved_of_refused h.linked hrun hreserved hstatus
  exact hnext budget hbudget rfl a answer hworker ⟨run', hrun', Or.inr (hcall ▸ hc)⟩

theorem kept_resume {minimumKeptTokens : Nat} (h : Kept runId p) (hgood : p.stage = .draining → NothingGranted runId p) :
    Kept runId (p.resume minimumKeptTokens) := by
  unfold Preparation.resume
  split
  · split
    · rename_i cache _ a budget hworker
      obtain ⟨a', rfl, hcall⟩ := h.granted a budget hworker
      refine kept_stage h ?_ (released_of_stage Stage.noConfusion)
      rintro _ ⟨⟩
      refine ⟨a', _, hworker, ?_⟩
      unfold raisedBudget
      dsimp only
      split <;> exact hcall
    · exact kept_uncovered h rfl (released_of_stage Stage.noConfusion)
    · exact h
  · rename_i budget hstage
    refine kept_stage h ?_ (released_of_stage Stage.noConfusion)
    rintro _ ⟨⟩
    exact h.covered budget (by rw [hstage]; rfl)
  · rename_i budget hstage
    refine kept_stage h ?_ (released_of_stage Stage.noConfusion)
    rintro _ ⟨⟩
    exact h.covered budget (by rw [hstage]; rfl)
  · exact kept_uncovered h rfl (released_of_stage Stage.noConfusion)
  · rename_i hstage
    exact kept_uncovered h rfl (released_of_not_reserved h (not_reserved_of_nothingGranted h (hgood hstage)))
  · exact h

theorem kept_raise (h : Kept runId p) (hgood : Releasable runId p) : Kept runId (p.raise runId) := by
  unfold Preparation.raise
  split
  · exact kept_uncovered h rfl (released_of_stage Stage.noConfusion)
  · rename_i budget hstage
    exact kept_release h (by rw [hstage]; rfl) hgood
  · rename_i budget hstage
    exact kept_release h (by rw [hstage]; rfl) hgood
  · rename_i budget hstage
    exact kept_release h (by rw [hstage]; rfl) hgood
  · exact h

/-- The thread of the allocation has no number of its own. -/
inductive Fresh : Worker → Prop where
  | idle : Fresh .idle
  | queued (args : CallArguments) : Fresh (.queued args)
  | raised (e : PyError) : Fresh (.done none (.error e))

theorem kept_of_fresh (hL : p.system.Linked) (hfresh : Fresh p.worker) (hcovered : p.stage.covered = none) : Kept runId p := by
  have hallocating : ∀ a, p.worker ≠ .allocating a := by
    intro a h
    rw [h] at hfresh
    cases hfresh
  have hdone : ∀ a answer, p.worker ≠ .done (some a) answer := by
    intro a answer h
    rw [h] at hfresh
    cases hfresh
  refine ⟨hL, fun a h => absurd h (hallocating a), fun a answer h => absurd h (hdone a answer),
    fun a e h => absurd h (hdone a _), ?_, ?_, fun _ a answer h => absurd h (hdone a answer)⟩
  · intro budget h
    rw [hcovered] at h
    cases h
  · intro a budget h
    rw [h] at hfresh
    cases hfresh

/-- While the thread has no number, the coroutine holds no budget. -/
theorem covered_of_fresh (h : Kept runId p) (hfresh : Fresh p.worker) : p.stage.covered = none := by
  cases hstage : p.stage.covered with
  | none => rfl
  | some budget =>
    obtain ⟨a, answer, hdone, -⟩ := h.covered budget hstage
    rw [hdone] at hfresh
    cases hfresh

theorem kept_cancel (h : Kept runId p) (unstarted : Bool)
    (hgood : (p.stage = .draining → NothingGranted runId p) ∧ Releasable runId p) : Kept runId (p.cancel runId unstarted) := by
  unfold Preparation.cancel
  split
  · exact kept_uncovered h rfl (released_of_stage Stage.noConfusion)
  · cases hworker : p.worker with
    | queued args =>
      refine kept_of_fresh h.linked ?_ rfl
      cases unstarted
      · exact .queued args
      · exact .idle
    | idle =>
      have hsame : Kept runId { p with stage := .draining } := kept_uncovered h rfl (released_of_stage Stage.noConfusion)
      rwa [hworker] at hsame
    | allocating a =>
      have hsame : Kept runId { p with stage := .draining } := kept_uncovered h rfl (released_of_stage Stage.noConfusion)
      rwa [hworker] at hsame
    | done a answer =>
      have hsame : Kept runId { p with stage := .draining } := kept_uncovered h rfl (released_of_stage Stage.noConfusion)
      rwa [hworker] at hsame
  · rename_i budget hstage
    exact kept_release h (by rw [hstage]; rfl) hgood.2
  · rename_i budget hstage
    exact kept_release h (by rw [hstage]; rfl) hgood.2
  · rename_i budget hstage
    exact kept_release h (by rw [hstage]; rfl) hgood.2
  · rename_i hstage
    exact kept_uncovered h rfl (released_of_not_reserved h (not_reserved_of_nothingGranted h (hgood.1 hstage)))
  · exact h

theorem kept_predicted (h : Kept runId p) (args : CallArguments) (minimumKeptTokens : Nat) :
    Kept runId (p.step runId minimumKeptTokens (.predicted args)) := by
  unfold Preparation.step
  dsimp only
  split
  · exact kept_of_fresh h.linked (.queued args) rfl
  · exact h

/-! ### The thread -/

theorem begin_system (runId : RunId) {args : CallArguments} (hworker : p.worker = .queued args) :
    (p.begin runId).system = p.system.step (.allocateBegin runId args) ∧ (p.begin runId).stage = p.stage := by
  unfold Preparation.begin
  rw [hworker]
  exact ⟨rfl, rfl⟩

/-- The first phase of the allocation. -/
theorem begin_cases (h : Kept runId p) {args : CallArguments} (hworker : p.worker = .queued args) :
    (∃ a, (p.begin runId).worker = .allocating a ∧ a.runId = runId ∧ (p.begin runId).system.inFlight.lookup a.callId = some a) ∨
    ∃ e, (p.begin runId).worker = .done none (.error e) := by
  rw [(begin_system runId hworker).1]
  unfold Preparation.begin
  rw [hworker]
  dsimp only
  rcases perform_begin h.linked args with ⟨a, hreply, hrun, ha⟩ | ⟨e, hreply⟩
  · rw [hreply]
    exact Or.inl ⟨a, rfl, hrun, ha⟩
  · rw [hreply]
    exact Or.inr ⟨e, rfl⟩

theorem kept_begin (h : Kept runId p) : Kept runId (p.begin runId) := by
  cases hworker : p.worker with
  | queued args =>
    obtain ⟨hsystem, hstage⟩ := begin_system runId hworker
    have hcovered : (p.begin runId).stage.covered = none := by
      rw [hstage]
      exact covered_of_fresh h (by rw [hworker]; exact .queued args)
    have hlinked : (p.begin runId).system.Linked := by
      rw [hsystem]
      exact h.linked.step _
    rcases begin_cases h hworker with ⟨a, hnext, hrun, ha⟩ | ⟨e, hnext⟩
    · refine ⟨hlinked, ?_, ?_, ?_, ?_, ?_, ?_⟩
      · intro a' h'
        cases hnext.symm.trans h'
        exact ⟨hrun, ha⟩
      · exact fun _ _ h' => nomatch hnext.symm.trans h'
      · exact fun _ _ h' => nomatch hnext.symm.trans h'
      · intro budget hbudget
        cases hcovered.symm.trans hbudget
      · exact fun _ _ h' => nomatch hnext.symm.trans h'
      · exact fun _ _ _ h' => nomatch hnext.symm.trans h'
    · exact kept_of_fresh hlinked (by rw [hnext]; exact .raised e) hcovered
  | _ =>
    have hsame : p.begin runId = p := by
      unfold Preparation.begin
      rw [hworker]
    rw [hsame]
    exact h

/-- The number of an allocation that has taken its second phase is spent. -/
theorem spent_of_end (hL : s.Linked) {a : Allocation} (ha : s.inFlight.lookup a.callId = some a)
    (answer : Option BudgetAllocationDecision) : Spent (s.step (.allocateEnd a.callId answer)) a.callId where
  drawn := by
    rw [(step_end s a.callId answer).2]
    exact (hL.inFlight _ a ha).2.1
  landed := by
    rw [(step_end s a.callId answer).1, AList.mem_erase]
    exact fun h => h.1 rfl

/-- The second phase of the allocation, in a run that accepts it and in one that does not. -/
theorem answer_cases (h : Kept runId p) {a : Allocation} (hworker : p.worker = .allocating a)
    (answer : Option BudgetAllocationDecision) :
    (Accepted p.system a answer ∧ Reserved (p.answer answer).system runId a.callId ∧
      ∃ budget, (p.answer answer).worker = .done (some a) (.ok budget) ∧ budget.callId = a.callId) ∨
    (¬ Accepted p.system a answer ∧ ¬ Reserved (p.answer answer).system runId a.callId ∧
      ∃ e, (p.answer answer).worker = .done (some a) (.error e)) := by
  obtain ⟨rfl, ha⟩ := h.allocating a hworker
  unfold Preparation.answer
  rw [hworker]
  by_cases haccepted : Accepted p.system a answer
  · obtain ⟨⟨budget, hreply, hcall, -⟩, run, hrun, -, hreserved⟩ := perform_end_accepted h.linked ha haccepted
    refine Or.inl ⟨haccepted, ⟨run, hrun, hreserved⟩, budget, ?_, hcall⟩
    dsimp only
    rw [hreply]
  · obtain ⟨⟨e, hreply⟩, hnone⟩ := perform_end_refused h.linked ha haccepted
    refine Or.inr ⟨haccepted, hnone, e, ?_⟩
    dsimp only
    rw [hreply]

theorem kept_answer (h : Kept runId p) (answer : Option BudgetAllocationDecision)
    (hgood : p.stage = .failed → ∀ a, p.worker = .allocating a → ¬ Accepted p.system a answer) : Kept runId (p.answer answer) := by
  cases hworker : p.worker with
  | allocating a =>
    obtain ⟨hrun, ha⟩ := h.allocating a hworker
    have hsystem : (p.answer answer).system = p.system.step (.allocateEnd a.callId answer) := by
      unfold Preparation.answer
      rw [hworker]
      rfl
    have hstage : (p.answer answer).stage = p.stage := by
      unfold Preparation.answer
      rw [hworker]
    have hcovered : ∀ budget ∈ p.stage.covered, False := by
      intro budget hbudget
      obtain ⟨_, _, hdone, -⟩ := h.covered budget hbudget
      rw [hworker] at hdone
      cases hdone
    have hspent : Spent (p.answer answer).system a.callId := by
      rw [hsystem]
      exact spent_of_end h.linked ha answer
    have hlinked : (p.answer answer).system.Linked := by
      rw [hsystem]
      exact h.linked.step _
    rcases answer_cases h hworker answer with ⟨haccepted, -, budget, hdone, hcall⟩ | ⟨-, hnone, e, hdone⟩
    · refine ⟨hlinked, ?_, ?_, ?_, ?_, ?_, ?_⟩
      · exact fun _ h' => nomatch hdone.symm.trans h'
      · intro a' answer' h'
        cases hdone.symm.trans h'
        exact hspent
      · exact fun _ _ h' => nomatch hdone.symm.trans h'
      · rw [hstage]
        exact fun budget hbudget => (hcovered budget hbudget).elim
      · intro a' budget' h'
        cases hdone.symm.trans h'
        exact ⟨a, rfl, hcall⟩
      · intro hfailed
        exact absurd haccepted (hgood (hstage ▸ hfailed) a hworker)
    · refine ⟨hlinked, ?_, ?_, ?_, ?_, ?_, ?_⟩
      · exact fun _ h' => nomatch hdone.symm.trans h'
      · intro a' answer' h'
        cases hdone.symm.trans h'
        exact hspent
      · intro a' e' h'
        cases hdone.symm.trans h'
        exact hnone
      · rw [hstage]
        exact fun budget hbudget => (hcovered budget hbudget).elim
      · exact fun _ _ h' => nomatch hdone.symm.trans h'
      · intro _ a' answer' h' hheld
        cases hdone.symm.trans h'
        exact hnone ((held_iff hlinked hspent).1 hheld)
  | _ =>
    have hsame : p.answer answer = p := by
      unfold Preparation.answer
      rw [hworker]
    rw [hsame]
    exact h

/-! ### Steps -/

/-- A stage that is covered is left through the handler. -/
theorem raise_covered {budget : CallBudget} (h : budget ∈ p.stage.covered) (unstarted : Bool) :
    p.raise runId = p.release runId budget ∧ p.cancel runId unstarted = p.release runId budget := by
  obtain ⟨system, stage, worker⟩ := p
  cases stage <;> cases h <;> exact ⟨rfl, rfl⟩

theorem reserved_held (h : Reserved s runId c) : Held s runId c := by
  obtain ⟨run, hrun, hc⟩ := h
  exact ⟨run, hrun, Or.inr hc⟩

theorem nothingGranted_of_released (hnext : Released runId { p with stage := .failed }) : NothingGranted runId p :=
  fun a budget hworker hreserved => hnext rfl a (.ok budget) hworker (reserved_held hreserved)

/-- A step that leaves nothing meets the condition. -/
theorem leavesNothing_of_released {minimumKeptTokens : Nat} {action : PrepareAction} (h : Kept runId p)
    (hnext : Released runId (p.step runId minimumKeptTokens action)) : LeavesNothing runId p action := by
  cases action with
  | answer answer =>
    cases answer with
    | none => trivial
    | some decision =>
      intro hfailed a run hworker hrun hstatus haccepts
      obtain ⟨hid, -⟩ := h.allocating a hworker
      have haccepted : Accepted p.system a (some decision) := ⟨run, decision, hid ▸ hrun, rfl, hstatus, haccepts⟩
      have hstage : (p.answer (some decision)).stage = .failed := by
        unfold Preparation.answer
        rw [hworker]
        exact hfailed
      rcases answer_cases h hworker (some decision) with ⟨-, hreserved, budget, hdone, -⟩ | ⟨hrefused, -, -⟩
      · exact hnext hstage a _ hdone (reserved_held hreserved)
      · exact hrefused haccepted
  | resume =>
    intro hstage
    refine nothingGranted_of_released ?_
    have hresume : p.resume minimumKeptTokens = { p with stage := .failed } := by
      unfold Preparation.resume
      rw [hstage]
    exact hresume ▸ hnext
  | raise =>
    refine releasable_of_released h ?_
    intro budget hbudget
    exact (raise_covered hbudget false).1 ▸ hnext
  | cancel unstarted =>
    refine ⟨?_, releasable_of_released h ?_⟩
    · intro hstage
      refine nothingGranted_of_released ?_
      have hcancel : p.cancel runId unstarted = { p with stage := .failed } := by
        unfold Preparation.cancel
        rw [hstage]
      exact hcancel ▸ hnext
    · intro budget hbudget
      exact (raise_covered hbudget unstarted).2 ▸ hnext
  | _ => trivial

/-- A step that meets the condition keeps what is kept. -/
theorem kept_step {minimumKeptTokens : Nat} {action : PrepareAction} (h : Kept runId p) (hgood : LeavesNothing runId p action) :
    Kept runId (p.step runId minimumKeptTokens action) := by
  cases action with
  | other op =>
    cases hown : p.ownPhase op with
    | true =>
      simp only [Preparation.step, hown, if_true]
      exact h
    | false =>
      simp only [Preparation.step, hown]
      exact kept_system h hown
  | predicted args => exact kept_predicted h args minimumKeptTokens
  | begin => exact kept_begin h
  | answer answer =>
    refine kept_answer h answer ?_
    rintro hfailed a hworker ⟨run, decision, hrun, rfl, hstatus, haccepts⟩
    obtain ⟨hid, -⟩ := h.allocating a hworker
    exact hgood hfailed a run hworker (hid ▸ hrun) hstatus haccepts
  | resume => exact kept_resume h hgood
  | raise => exact kept_raise h hgood
  | cancel unstarted => exact kept_cancel h unstarted hgood

end ReleaseAux

open ReleaseAux

/-- Over every interleaving of a preparation with any other operations of the controller, from a controller that nothing was called
on: a preparation that ends without a call leaves neither a pending allocation nor a reservation exactly where no cancelled
allocation is given a reservation that stays, and no release is refused. -/
theorem prepare_call_releases_iff (runId : RunId) (minimumKeptTokens : Nat) (allocatorModelId : String)
    (actions : List PrepareAction) :
    Throughout (Preparation.step runId minimumKeptTokens) (Released runId) (.start allocatorModelId) actions ↔
      Along (Preparation.step runId minimumKeptTokens) (LeavesNothing runId) (.start allocatorModelId) actions :=
  throughout_iff_along_through (Q := Kept runId) (fun _ h => h.released) (fun _ _ h _ => leavesNothing_of_released h)
    (fun _ _ h _ => kept_step h) (kept_begun runId allocatorModelId) (along_of_forall (fun _ _ => trivial) _ _)

/-- A preparation has ended and the run holds a reservation for it, as a computation. -/
def stays (runId : RunId) (p : Preparation) : Bool :=
  match p.stage, p.worker with
  | .failed, .done (some a) _ => (p.system.run? runId).any fun run => decide (a.callId ∈ run.reserved)
  | _, _ => false

theorem not_released_of_stays {runId : RunId} {p : Preparation} (h : stays runId p = true) : ¬ Released runId p := by
  intro hreleased
  unfold stays at h
  split at h
  · rename_i a answer hstage hworker
    obtain ⟨run, hrun, hc⟩ := (Option.any_eq_true _ _).1 h
    exact hreleased hstage a answer hworker ⟨run, hrun, Or.inr (of_decide_eq_true hc)⟩
  · cases h

/-- A preparation is cancelled while a thread runs its allocation, and ends; then the allocator answers, and the reservation that the
thread makes stays in the run. -/
theorem cancelled_allocation_stays : ¬ Throughout (Preparation.step 0 32) (Released 0) (.start "gemma")
    [.other (.startRun "session".toList (limitPolicy 1 oneDollar_valid)), .predicted plainCall, .begin, .cancel false, .resume,
      .answer (some (plainDecision (2 / 5) fortyCents_valid))] := by
  intro h
  have hstays : stays 0 (Transition.exec (Preparation.step 0 32) (.start "gemma")
      [.other (.startRun "session".toList (limitPolicy 1 oneDollar_valid)), .predicted plainCall, .begin, .cancel false,
        .resume, .answer (some (plainDecision (2 / 5) fortyCents_valid))]) = true := by decide +kernel
  exact not_released_of_stays hstays h.last

end Gateway

end PromptRail
