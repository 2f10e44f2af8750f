import PromptRail.Controller.Changes
import PromptRail.Library.Outcome
import Mathlib.Tactic.NormNum

/-!
# A whole allocation (`controller.py`)

`allocate_call` from its first check to its return, with the operations of other threads between its two locked phases. The first
phase ends with the request for the allocator, which it builds after it made the call pending. Of the request only the costs of the
candidates are modelled: the rest copies fields, and the allocator's answer is arbitrary. Their computation turns numbers of tokens
into floats.
-/

namespace PromptRail

open Table (Dict)

/-! ## The request for the allocator -/

/-- The integers from here on are too large for a float: they would round past the largest one. -/
def floatOverflow : Nat := 2 ^ 1024 - 2 ^ 970

/-- The product of an integer and a float. -/
def timesPrice (tokens : Int) (price : ℚ) : Except PyError ℚ :=
  if floatOverflow ≤ tokens.natAbs then .error (.overflowError "int too large to convert to float") else .ok (tokens * price)

/-- The tokens that a route would read from the cache. -/
def optionCachedTokens (cache : CacheAnalysis) (value : Option CacheValue) (route : ProviderRoute) : Nat :=
  match value with
  | some v =>
    if v.exactReuse && v.provider == some route.provider && route.cacheSupported then min cache.totalTokens v.cachedTokens else 0
  | none => 0

/-- The predicted costs of one route, in all and for the input. -/
def optionRouteCost (args : CallArguments) (value : Option CacheValue) (route : ProviderRoute) : Except PyError (ℚ × ℚ) := do
  let cachedTokens := optionCachedTokens args.cache value route
  let cachedRate :=
    if cachedTokens ≠ 0 then route.cacheReadPricePerMillion.getD route.inputPricePerMillion else route.inputPricePerMillion
  let cached ← timesPrice cachedTokens cachedRate
  let uncached ← timesPrice (args.cache.totalTokens - cachedTokens) route.inputPricePerMillion
  let output ← timesPrice args.predictedOutputTokens route.outputPricePerMillion
  return ((cached + uncached) / 1000000 + output / 1000000, (cached + uncached) / 1000000)

/-- `min` by the cost in all. A candidate has a route. -/
def cheapestCost : List (ℚ × ℚ) → ℚ × ℚ
  | [] => (0, 0)
  | first :: rest => rest.foldl (fun best cost => if cost.1 < best.1 then cost else best) first

/-- `BudgetCandidateOption`: what the prices and the cache say of a candidate. -/
structure BudgetCandidateOption where
  modelId : String
  cheapestPredictedCostUsd : ℚ
  cheapestInputCostFraction : ℚ
  exactCacheReuse : Bool
  cachedTokens : Nat
  deriving DecidableEq

/-- The bounds `pydantic` puts on the fields of an option. -/
def BudgetCandidateOption.Valid (o : BudgetCandidateOption) : Prop :=
  1 / 1000000 ≤ o.cheapestInputCostFraction ∧ o.cheapestInputCostFraction < 1

/-- `_candidate_options`, for one candidate. -/
def candidateOption (args : CallArguments) (candidate : ModelCandidate) : Except PyError BudgetCandidateOption := do
  let value := args.cache.values.lookup candidate.modelId
  let costs ← candidate.routes.mapM (optionRouteCost args value)
  let cheapest := cheapestCost costs
  let fraction :=
    if 0 < cheapest.1 then cheapest.2 / cheapest.1
    else args.cache.totalTokens / (args.cache.totalTokens + args.predictedOutputTokens : Int)
  return {
    modelId := candidate.modelId
    cheapestPredictedCostUsd := cheapest.1
    cheapestInputCostFraction := min (1 - 1 / 1000000) (max (1 / 1000000) fraction)
    exactCacheReuse := value.any (·.exactReuse)
    cachedTokens := (value.map (·.cachedTokens)).getD 0 }

/-- `_candidate_options` builds no option that `pydantic` refuses. -/
theorem valid_of_candidateOption {args : CallArguments} {candidate : ModelCandidate} {o : BudgetCandidateOption}
    (h : candidateOption args candidate = .ok o) : o.Valid := by
  obtain ⟨costs, -, h⟩ := Outcome.bind_ok h
  obtain rfl := Except.ok.inj h
  constructor
  · exact le_min (by norm_num) (le_max_left _ _)
  · exact lt_of_le_of_lt (min_le_left _ _) (by norm_num)

/-- `_candidate_options`. -/
def candidateOptions (args : CallArguments) : Except PyError (List BudgetCandidateOption) :=
  args.candidates.mapM (candidateOption args)

/-! ## The call -/

/-- `allocate_call` up to the call of the allocator. -/
def GlobalController.allocateCallStart (c : GlobalController) (runId : RunId) (args : CallArguments) :
    Except PyError Allocation × GlobalController :=
  let begun := c.allocateCallBegin runId args
  (begun.1.bind fun a => (candidateOptions args).map fun _ => a, begun.2)

/-- One operation, with the request that an allocation builds in its first phase. -/
def System.advance (s : System) : Op → System
  | .allocateBegin runId args =>
    match s.controller.allocateCallStart runId args with
    | (.error _, c) => { s with controller := c }
    | (.ok a, c) => { controller := c, inFlight := s.inFlight.insert a.callId a }
  | op => s.step op

/-- What becomes of a call: its result, the state that the other operations left before its last locked phase, and the state after. -/
structure CallOutcome where
  result : Except PyError CallBudget
  left : System
  after : System

/-- `allocate_call`, with the other operations that go on while the allocator answers. -/
def System.allocateCall (s : System) (runId : RunId) (args : CallArguments) (meanwhile : List Op)
    (answer : Option BudgetAllocationDecision) : CallOutcome :=
  match s.controller.allocateCallStart runId args with
  | (.error e, c) => { result := .error e, left := s, after := { s with controller := c } }
  | (.ok a, c) =>
    let left := meanwhile.foldl System.advance { controller := c, inFlight := s.inFlight.insert a.callId a }
    let out := left.controller.allocateCallEnd a answer
    { result := out.1, left, after := { controller := out.2, inFlight := left.inFlight.erase a.callId } }

/-! ## What a call promises -/

/-- Nothing but the pending allocations and the next sequence number differs between the runs. -/
def Run.SameAccounts (run run' : Run) : Prop :=
  run' = { run with pendingAllocations := run'.pendingAllocations, nextSequence := run'.nextSequence }

/-- The budget fits the call, and at the moment of its reservation the limits of the run. -/
structure CallBudget.Fits (budget : CallBudget) (run : Run) (now : Int) (args : CallArguments) : Prop where
  context : budget.requiredContextTokens ≤ args.inputTokens
  known : ∀ o ∈ budget.importanceOverrides, ∃ b ∈ args.cache.contextBlocks, b.blockId = o.blockId
  mutable_ : ∀ o ∈ budget.importanceOverrides, ∀ b ∈ args.cache.contextBlocks, b.blockId = o.blockId →
    b.structurallyImmutable = false
  callCost : ∀ limit, run.policy.hardCallCostLimitUsd = some limit → budget.costUsd ≤ limit + costTolerance
  callLatency : ∀ limit, run.policy.hardCallLatencyLimitMs = some limit → budget.latencyMs ≤ limit
  agentCost : ∀ remaining, run.remainingCost = some remaining → budget.costUsd ≤ remaining + costTolerance
  agentLatency : ∀ remaining, run.remainingLatency now = some remaining → budget.latencyMs ≤ remaining
  parts : budget.inputCostUsd + budget.outputCostUsd = budget.costUsd

/-- The call returned a budget that is sound and stored, and nothing else changed but that it is not pending any more; or it raised,
and is not pending, and every run is as the other operations left it. -/
def CallOutcome.AllOrNothing (o : CallOutcome) (runId : RunId) (callId : CallId) (args : CallArguments) : Prop :=
  match o.result with
  | .ok budget => ∃ run, o.left.run? runId = some run ∧ run.status = .active ∧ budget.runId = runId ∧ budget.callId = callId ∧
      budget.Fits run o.left.controller.now args ∧
      o.after.run? runId = some { run with
        pendingAllocations := run.pendingAllocations.erase callId
        reserved := run.reserved.insert callId budget }
  | .error _ =>
    (∀ run, o.after.run? runId = some run → callId ∉ run.pendingAllocations) ∧
    ∀ r, Option.Rel Run.SameAccounts (o.left.run? r) (o.after.run? r)

/-- The call gets past the checks that come before its request. -/
def System.Admits (s : System) (runId : RunId) (args : CallArguments) : Prop :=
  checkArguments args = .ok () ∧ ∃ run, s.run? runId = some run ∧ run.status = .active ∧
    (∀ x, run.remainingCost = some x → 0 < x) ∧ ∀ x, run.remainingLatency s.controller.now = some x → 0 < x

/-- Every number of tokens that is multiplied by a price is small enough for a float. -/
def CallArguments.Converts (args : CallArguments) : Prop :=
  ∀ candidate ∈ args.candidates, ∀ route ∈ candidate.routes,
    let cachedTokens := optionCachedTokens args.cache (args.cache.values.lookup candidate.modelId) route
    cachedTokens < floatOverflow ∧ args.cache.totalTokens - cachedTokens < floatOverflow ∧
      args.predictedOutputTokens.natAbs < floatOverflow

/-! ## The bookkeeping the promise needs -/

/-- A run is stored under its identifier, and its pending allocations have numbers that were drawn. -/
structure System.Drawn (s : System) : Prop where
  runId : ∀ r run, s.run? r = some run → run.runId = r
  pending : ∀ r run, s.run? r = some run → ∀ c ∈ run.pendingAllocations, c < s.controller.uuid

namespace AllocationAux

open ChangeAux

/-! ## The request -/

theorem timesPrice_eq {tokens : Int} (price : ℚ) (h : tokens.natAbs < floatOverflow) :
    timesPrice tokens price = .ok (tokens * price) := if_neg (Nat.not_le.2 h)

theorem lt_of_timesPrice {tokens : Int} {price x : ℚ} (h : timesPrice tokens price = .ok x) : tokens.natAbs < floatOverflow := by
  unfold timesPrice at h
  split at h
  · cases h
  · rename_i hsmall
    exact Nat.not_le.1 hsmall

theorem optionCachedTokens_le (cache : CacheAnalysis) (value : Option CacheValue) (route : ProviderRoute) :
    optionCachedTokens cache value route ≤ cache.totalTokens := by
  unfold optionCachedTokens
  split
  · split
    · exact min_le_left _ _
    · exact Nat.zero_le _
  · exact Nat.zero_le _

/-- The costs of a route are computed where its numbers of tokens convert. -/
theorem optionRouteCost_ok_iff {args : CallArguments} {value : Option CacheValue} {route : ProviderRoute} :
    (∃ x, optionRouteCost args value route = .ok x) ↔
      optionCachedTokens args.cache value route < floatOverflow ∧
        args.cache.totalTokens - optionCachedTokens args.cache value route < floatOverflow ∧
        args.predictedOutputTokens.natAbs < floatOverflow := by
  have hle := optionCachedTokens_le args.cache value route
  have huncached : ((args.cache.totalTokens : Int) - optionCachedTokens args.cache value route).natAbs =
      args.cache.totalTokens - optionCachedTokens args.cache value route := by omega
  unfold optionRouteCost
  simp only [Outcome.bind_ok_iff]
  constructor
  · rintro ⟨_, cached, hcached, uncached, hrest, output, houtput, -⟩
    have hrest := lt_of_timesPrice hrest
    rw [huncached] at hrest
    exact ⟨lt_of_timesPrice hcached, hrest, lt_of_timesPrice houtput⟩
  · rintro ⟨hcached, hrest, houtput⟩
    rw [← huncached] at hrest
    exact ⟨_, _, timesPrice_eq _ hcached, _, timesPrice_eq _ hrest, _, timesPrice_eq _ houtput, rfl⟩

/-- The request is built where every number of tokens converts. -/
theorem candidateOptions_ok_iff {args : CallArguments} : (∃ options, candidateOptions args = .ok options) ↔ args.Converts := by
  unfold candidateOptions CallArguments.Converts
  rw [Outcome.mapM_ok_iff]
  refine forall₂_congr fun candidate _ => ?_
  simp only [← optionRouteCost_ok_iff]
  rw [← Outcome.mapM_ok_iff]
  unfold candidateOption
  simp only [Outcome.bind_ok_iff]
  constructor
  · rintro ⟨_, costs, hcosts, -⟩
    exact ⟨costs, hcosts⟩
  · rintro ⟨costs, hcosts⟩
    exact ⟨_, costs, hcosts, rfl⟩

/-! ## The first phase -/

/-- The run with the next call pending. -/
def handedOut (s : System) (run : Run) : Run :=
  { run with
    nextSequence := run.nextSequence + 1
    pendingAllocations := insert s.controller.uuid run.pendingAllocations }

/-- The first phase on a run raises and leaves it, or hands it a number. -/
theorem run_begin_cases (s : System) (run : Run) (args : CallArguments) :
    (¬(run.status = .active ∧ (∀ x, run.remainingCost = some x → 0 < x) ∧
        ∀ x, run.remainingLatency s.controller.now = some x → 0 < x) ∧
      ∃ e, run.allocateCallBegin s.controller.now s.controller.uuid args = (.error e, run)) ∨
    (run.status = .active ∧ (∀ x, run.remainingCost = some x → 0 < x) ∧
        ∀ x, run.remainingLatency s.controller.now = some x → 0 < x) ∧
      run.allocateCallBegin s.controller.now s.controller.uuid args = (.ok (opened s run args), handedOut s run) := by
  unfold Run.allocateCallBegin
  by_cases h1 : run.status = .active
  · by_cases h2 : run.remainingCost.any (· ≤ 0) = true
    · rw [if_neg (not_not.2 h1), if_pos h2]
      exact Or.inl ⟨fun h => not_any_le_iff.2 h.2.1 h2, _, rfl⟩
    · by_cases h3 : (run.remainingLatency s.controller.now).any (· ≤ 0) = true
      · rw [if_neg (not_not.2 h1), if_neg h2, if_pos h3]
        exact Or.inl ⟨fun h => not_any_le_iff.2 h.2.2 h3, _, rfl⟩
      · rw [if_neg (not_not.2 h1), if_neg h2, if_neg h3]
        exact Or.inr ⟨⟨h1, not_any_le_iff.1 h2, not_any_le_iff.1 h3⟩, rfl⟩
  · rw [if_pos h1]
    exact Or.inl ⟨fun h => h1 h.1, _, rfl⟩

/-- The first phase raises and leaves the runs, or hands the run a number. -/
theorem begin_cases (s : System) (runId : RunId) (args : CallArguments) :
    (¬s.Admits runId args ∧ ∃ e c, s.controller.allocateCallBegin runId args = (.error e, c) ∧
      c.runs = s.controller.runs ∧ s.controller.uuid ≤ c.uuid) ∨
    s.Admits runId args ∧ ∃ run, s.run? runId = some run ∧
      s.controller.allocateCallBegin runId args =
        (.ok (opened s run args), { s.controller.setRun runId (handedOut s run) with uuid := s.controller.uuid + 1 }) := by
  unfold System.Admits GlobalController.allocateCallBegin
  cases hc : checkArguments args with
  | error e => exact Or.inl ⟨fun h => (nomatch h.1), e, s.controller, rfl, rfl, le_rfl⟩
  | ok u =>
    simp only [true_and]
    cases hr : s.controller.runs runId with
    | none =>
      left
      refine ⟨fun ⟨run, hrun, _⟩ => ?_, ?_⟩
      · cases hr.symm.trans hrun
      · unfold GlobalController.onRun
        rw [hr]
        exact ⟨_, _, rfl, rfl, Nat.le_succ _⟩
    | some run =>
      rw [onRun_some hr]
      rcases run_begin_cases s run args with ⟨hrefused, e, hbegin⟩ | ⟨hadmitted, hbegin⟩
      · left
        refine ⟨fun ⟨run', hrun', h⟩ => ?_, e, _, by rw [hbegin], ?_, Nat.le_succ _⟩
        · obtain rfl : run = run' := Option.some.inj (hr.symm.trans hrun')
          exact hrefused h
        · exact (congrArg (Function.update s.controller.runs runId) hr.symm).trans (Function.update_eq_self _ _)
      · right
        exact ⟨⟨run, hr, hadmitted⟩, run, hr, by rw [hbegin]⟩

/-! ## Every reachable state -/

/-- A method that makes no allocation pending and keeps the identifier keeps the bookkeeping. -/
theorem drawn_onRun {α : Type} {s : System} (h : s.Drawn) (r : RunId) {method : Run → Except PyError α × Run}
    (hid : ∀ run, (method run).2.runId = run.runId)
    (hpending : ∀ run, (method run).2.pendingAllocations ⊆ run.pendingAllocations) (inFlight : Dict CallId Allocation) :
    System.Drawn { controller := (s.controller.onRun r method).2, inFlight } := by
  have hstored : ∀ r' run', (s.controller.onRun r method).2.runs r' = some run' →
      ∃ run, s.run? r' = some run ∧ run'.runId = run.runId ∧ run'.pendingAllocations ⊆ run.pendingAllocations := by
    intro r' run' hrun'
    by_cases hr : r' = r
    · subst hr
      cases hfound : s.controller.runs r' with
      | none =>
        rw [onRun_none hfound] at hrun'
        exact ⟨run', hrun', rfl, Finset.Subset.refl _⟩
      | some run =>
        rw [onRun_some hfound, setRun_self] at hrun'
        obtain rfl := Option.some.inj hrun'
        exact ⟨run, hfound, hid run, hpending run⟩
    · rw [onRun_ne _ _ hr] at hrun'
      exact ⟨run', hrun', rfl, Finset.Subset.refl _⟩
  constructor
  · intro r' run' hrun'
    obtain ⟨run, hrun, heq, -⟩ := hstored r' run' hrun'
    exact heq.trans (h.runId r' run hrun)
  · intro r' run' hrun' c hc
    obtain ⟨run, hrun, -, hsub⟩ := hstored r' run' hrun'
    exact lt_of_lt_of_eq (h.pending r' run hrun c (hsub hc)) (onRun_uuid _ _ _).symm

/-- What the second phase leaves of the pending allocations. -/
theorem allocateCallEnd_pending (run : Run) (now : Int) (allocatorModelId : String) (a : Allocation)
    (answer : Option BudgetAllocationDecision) :
    (run.allocateCallEnd now allocatorModelId a answer).2.runId = run.runId ∧
      (run.allocateCallEnd now allocatorModelId a answer).2.pendingAllocations = run.pendingAllocations.erase a.callId := by
  unfold Run.allocateCallEnd
  cases answer with
  | none => exact ⟨rfl, rfl⟩
  | some decision =>
    simp only
    split
    · exact ⟨rfl, rfl⟩
    · split <;> exact ⟨rfl, rfl⟩

theorem drawn_setRun {s : System} (h : s.Drawn) {r : RunId} (run : Run) (hid : run.runId = r)
    (hpending : ∀ c ∈ run.pendingAllocations, c < s.controller.uuid + 1) (inFlight : Dict CallId Allocation) :
    System.Drawn { controller := { s.controller.setRun r run with uuid := s.controller.uuid + 1 }, inFlight } := by
  constructor
  · intro r' run' hrun'
    by_cases hr : r' = r
    · subst hr
      obtain rfl := Option.some.inj ((setRun_self s.controller r' run).symm.trans hrun')
      exact hid
    · exact h.runId r' run' ((setRun_ne s.controller run hr).symm.trans hrun')
  · intro r' run' hrun' c hc
    by_cases hr : r' = r
    · subst hr
      obtain rfl := Option.some.inj ((setRun_self s.controller r' run).symm.trans hrun')
      exact hpending c hc
    · exact Nat.lt_succ_of_lt (h.pending r' run' ((setRun_ne s.controller run hr).symm.trans hrun') c hc)

/-- The state with the call of a run pending. -/
theorem drawn_handedOut {s : System} (h : s.Drawn) {r : RunId} {run : Run} (hr : s.run? r = some run)
    (inFlight : Dict CallId Allocation) :
    System.Drawn
      { controller := { s.controller.setRun r (handedOut s run) with uuid := s.controller.uuid + 1 }, inFlight } := by
  refine drawn_setRun h (handedOut s run) (show (handedOut s run).runId = r from h.runId r run hr) (fun c hc => ?_) inFlight
  rcases Finset.mem_insert.1 hc with rfl | hc
  · exact Nat.lt_succ_self _
  · exact Nat.lt_succ_of_lt (h.pending r run hr c hc)

/-- Every operation keeps the bookkeeping, an allocation whose request is not built among them. -/
theorem drawn_advance {s : System} (h : s.Drawn) (op : Op) : (s.advance op).Drawn := by
  cases op with
  | elapse ms => exact ⟨h.runId, h.pending⟩
  | startRun sessionId policy =>
    simp only [System.advance, System.step, System.perform, GlobalController.startRun]
    split
    · exact h
    · exact drawn_setRun h { runId := s.controller.uuid, sessionId, policy, startedAt := s.controller.now } rfl
        (fun c hc => absurd hc (Finset.notMem_empty c)) s.inFlight
  | allocateBegin runId args =>
    rcases begin_cases s runId args with ⟨-, e, c, hbegin, hruns, huuid⟩ | ⟨-, run, hrun, hbegin⟩
    · simp only [System.advance, GlobalController.allocateCallStart, hbegin]
      exact ⟨fun r run hr => h.runId r run ((congrFun hruns r).symm.trans hr),
        fun r run hr c' hc' => (h.pending r run ((congrFun hruns r).symm.trans hr) c' hc').trans_le huuid⟩
    · simp only [System.advance, GlobalController.allocateCallStart, hbegin]
      cases candidateOptions args with
      | error e => exact drawn_handedOut h hrun _
      | ok options => exact drawn_handedOut h hrun _
  | allocateEnd c answer =>
    simp only [System.advance, System.step, System.perform]
    cases s.inFlight.lookup c with
    | none => exact h
    | some a =>
      exact drawn_onRun h a.runId (fun run => (allocateCallEnd_pending run _ _ a answer).1)
        (fun run => (allocateCallEnd_pending run _ _ a answer).2 ▸ Finset.erase_subset _ _) _
  | settleCall r c costUsd latencyMs =>
    exact drawn_onRun h r (fun run => (settleCall_change s run c costUsd latencyMs).runId)
      (fun run => ((settleCall_change s run c costUsd latencyMs).pending rfl).subset) _
  | failCall r c billingUnknown =>
    exact drawn_onRun h r (fun run => (failCall_change s run c billingUnknown).runId)
      (fun run => ((failCall_change s run c billingUnknown).pending rfl).subset) _
  | observeTool r =>
    exact drawn_onRun h r (fun run => (observeTool_change s run).runId)
      (fun run => ((observeTool_change s run).pending rfl).subset) _
  | finishRun r status =>
    exact drawn_onRun h r (fun run => (finishRun_change s run status).runId)
      (fun run => ((finishRun_change s run status).pending rfl).subset) _

theorem drawn_run {s : System} (h : s.Drawn) (ops : List Op) : (ops.foldl System.advance s).Drawn := by
  induction ops generalizing s with
  | nil => exact h
  | cons op ops ih => exact ih (drawn_advance h op)

theorem drawn_start (allocatorModelId : String) : (System.start allocatorModelId).Drawn :=
  ⟨fun _ _ h => (nomatch h), fun _ _ h => (nomatch h)⟩

/-! ## The second phase -/

/-- A decision that `_validate_decision` lets pass. -/
theorem fits_of_validate {run : Run} {now : Int} {a : Allocation} {args : CallArguments} {allocatorModelId : String}
    {decision : BudgetAllocationDecision} (htokens : a.inputTokens = args.inputTokens) (hcache : a.cache = args.cache)
    (h : validateDecision run.policy decision run.remainingCost (run.remainingLatency now) a.inputTokens a.cache = .ok ()) :
    (a.budget allocatorModelId decision).Fits run now args := by
  rw [htokens, hcache] at h
  unfold validateDecision at h
  split_ifs at h with h1 h2 h3 h4 h5 h6 h7
  simp only [Option.any_eq_true, decide_eq_true_eq, not_exists, not_and] at h4 h5 h6 h7
  constructor
  · exact not_lt.1 h1
  · intro o ho
    by_contra hforeign
    refine h2 (List.any_eq_true.2 ⟨o, ho, ?_⟩)
    rw [Bool.not_eq_true', List.any_eq_false]
    exact fun b hb hid => hforeign ⟨b, hb, eq_of_beq hid⟩
  · intro o ho b hb hid
    by_contra himmutable
    refine h3 (List.any_eq_true.2 ⟨o, ho, List.any_eq_true.2 ⟨b, hb, ?_⟩⟩)
    rw [Bool.and_eq_true, beq_iff_eq]
    exact ⟨Bool.not_eq_false _ ▸ himmutable, hid⟩
  · exact fun limit hlimit => not_lt.1 (h4 limit hlimit)
  · exact fun limit hlimit => not_lt.1 (h5 limit hlimit)
  · exact fun limit hlimit => not_lt.1 (h6 limit hlimit)
  · exact fun limit hlimit => not_lt.1 (h7 limit hlimit)
  · exact add_sub_cancel _ _

/-- A state that is left as it is differs in no accounts. -/
theorem rel_sameAccounts_of_eq {before after : Option Run} (h : after = before) : Option.Rel Run.SameAccounts before after := by
  subst h
  cases after with
  | none => exact .none
  | some run => exact .some rfl

/-- The second phase on a run raises and discards the pending call, or reserves a budget that fits. -/
theorem run_end_cases (run : Run) (now : Int) (allocatorModelId : String) {a : Allocation} {args : CallArguments}
    (htokens : a.inputTokens = args.inputTokens) (hcache : a.cache = args.cache) (answer : Option BudgetAllocationDecision) :
    (∃ e, run.allocateCallEnd now allocatorModelId a answer = (.error e, run.discardPending a.callId)) ∨
    ∃ budget, run.status = .active ∧ budget.runId = a.runId ∧ budget.callId = a.callId ∧ budget.Fits run now args ∧
      run.allocateCallEnd now allocatorModelId a answer = (.ok budget, { run with
        pendingAllocations := run.pendingAllocations.erase a.callId
        reserved := run.reserved.insert a.callId budget }) := by
  unfold Run.allocateCallEnd
  cases answer with
  | none => exact Or.inl ⟨_, rfl⟩
  | some decision =>
    have hvalidate : validateDecision (run.discardPending a.callId).policy decision (run.discardPending a.callId).remainingCost
        ((run.discardPending a.callId).remainingLatency now) a.inputTokens a.cache =
          validateDecision run.policy decision run.remainingCost (run.remainingLatency now) a.inputTokens a.cache := rfl
    simp only
    rw [hvalidate]
    by_cases hactive : (run.discardPending a.callId).status = .active
    · rw [if_neg (not_not.2 hactive)]
      cases hvalid : validateDecision run.policy decision run.remainingCost (run.remainingLatency now) a.inputTokens a.cache with
      | error e => exact Or.inl ⟨e, rfl⟩
      | ok u => exact Or.inr ⟨_, hactive, rfl, rfl, fits_of_validate htokens hcache hvalid, rfl⟩
    · rw [if_pos hactive]
      exact Or.inl ⟨_, rfl⟩

/-- What the second phase makes of a call, whatever state it finds. -/
theorem allOrNothing_end (left : System) {runId : RunId} {callId : CallId} {args : CallArguments} {a : Allocation}
    (hrun : a.runId = runId) (hcall : a.callId = callId) (htokens : a.inputTokens = args.inputTokens)
    (hcache : a.cache = args.cache) (answer : Option BudgetAllocationDecision) (inFlight : Dict CallId Allocation) :
    CallOutcome.AllOrNothing
      { result := (left.controller.allocateCallEnd a answer).1
        left
        after := { controller := (left.controller.allocateCallEnd a answer).2, inFlight } } runId callId args := by
  subst hrun hcall
  unfold CallOutcome.AllOrNothing GlobalController.allocateCallEnd
  cases hr : left.controller.runs a.runId with
  | none =>
    unfold GlobalController.onRun
    simp only [hr]
    exact ⟨fun run hrun => (nomatch hr.symm.trans hrun), fun r => rel_sameAccounts_of_eq rfl⟩
  | some run =>
    simp only [onRun_some hr]
    rcases run_end_cases run left.controller.now left.controller.allocatorModelId htokens hcache answer with
      ⟨e, hend⟩ | ⟨budget, hactive, hrun, hcall, hfits, hend⟩
    · simp only [hend]
      refine ⟨fun run' hrun' => ?_, fun r => ?_⟩
      · obtain rfl := Option.some.inj ((setRun_self _ _ _).symm.trans hrun')
        exact Finset.notMem_erase _ _
      · by_cases heq : r = a.runId
        · subst heq
          change Option.Rel Run.SameAccounts (left.controller.runs a.runId)
            ((left.controller.setRun a.runId (run.discardPending a.callId)).runs a.runId)
          rw [hr, setRun_self]
          exact .some rfl
        · exact rel_sameAccounts_of_eq (setRun_ne left.controller (run.discardPending a.callId) heq)
    · simp only [hend]
      exact ⟨run, hr, hactive, hrun, hcall, hfits, setRun_self _ _ _⟩

/-- A call that is admitted, and whose request is not built, raises and leaves its number pending. -/
theorem stranded {s : System} {runId : RunId} {args : CallArguments} {e : PyError} (hadmitted : s.Admits runId args)
    (hoptions : candidateOptions args = .error e) (meanwhile : List Op) (answer : Option BudgetAllocationDecision) :
    ∃ run, s.run? runId = some run ∧ (s.allocateCall runId args meanwhile answer).result = .error e ∧
      (s.allocateCall runId args meanwhile answer).after.run? runId = some (handedOut s run) := by
  rcases begin_cases s runId args with ⟨hrefused, -⟩ | ⟨-, run, hrun, hbegin⟩
  · exact absurd hadmitted hrefused
  · simp only [System.allocateCall, GlobalController.allocateCallStart, hbegin, hoptions]
    exact ⟨run, hrun, rfl, setRun_self s.controller runId (handedOut s run)⟩

/-- A call that raises and is pending is not all or nothing. -/
theorem not_allOrNothing_of_pending {o : CallOutcome} {runId : RunId} {callId : CallId} {args : CallArguments} {e : PyError}
    {run : Run} (hresult : o.result = .error e) (hrun : o.after.run? runId = some run) (hpending : callId ∈ run.pendingAllocations) :
    ¬o.AllOrNothing runId callId args := by
  intro h
  unfold CallOutcome.AllOrNothing at h
  rw [hresult] at h
  exact h.1 run hrun hpending

end AllocationAux

open AllocationAux ChangeAux

namespace AllocationAux

def openPolicy : OperatingPolicy where
  validate_optional_cost := OperatingPolicy.noCostLimit_valid
  validate_optional_latency := OperatingPolicy.noLatencyLimit_valid

def freeRoute : ProviderRoute where
  routeId := "small-1"
  provider := "first"
  inputPricePerMillion := 1
  outputPricePerMillion := 2
  p95TtftMs := 10
  p95TotalLatencyMs := 20
  validate_price := ProviderRoute.readWritePrice_valid
  validate_route_duration := ProviderRoute.quickDuration_valid
  validate_latency_order := ProviderRoute.quickLatency_valid

/-- A call of four tokens, and of more predicted tokens than a float holds. -/
def hugeArguments : CallArguments where
  task := "fix".toList
  inputTokens := 4
  predictedOutputTokens := 10 ^ 400
  cache :=
    { totalTokens := 4, toolTokens := 0, messageTokens := [4], prefixHash := none, cacheableMessageIndices := [],
      protectedMessageIndices := [0], compactableMessageIndices := [], cacheableTokens := 0, protectedDynamicTokens := 4,
      compactableTokens := 0 }
  candidates := [{ modelId := "small", routes := [freeRoute], validate_routes := by decide }]

end AllocationAux

end PromptRail
