import PromptRail.Library.Concurrent
import PromptRail.Library.Transition
import PromptRail.WorkflowBudget

/-!
# Workflows (`lerouter_modal_api.py`)

A workflow run owns a tree of scopes, each with a budget in dollars. A call is reserved on every scope from the root down to its
own, started, and then cancelled, failed or settled. Each statement outside a transaction, and each transaction, is one turn of
a thread: between two turns of one request any other may run. What a request holds in local variables is in its `Task`. A document
is kept under the fields of its unique index, which is what `_id` and the filters of the source find it by. An exception raised in
a transaction leaves the store as it was.
-/

namespace PromptRail

namespace Workflow

open Table (Dict mapRows updateEach)
open Concurrent (Program World Action ThreadId)

/-! ## Documents -/

/-- The uuid in the identifier of a run, of a scope or of a reservation. -/
abbrev RunId := Nat

abbrev ScopeId := Nat

abbrev ReservationId := Nat

/-- `workflow_run_identity`. -/
structure RunKey where
  userId : String
  routeId : String
  runId : RunId
deriving DecidableEq

/-- `workflow_scope_identity`. -/
structure ScopeKey where
  run : RunKey
  id : ScopeId
deriving DecidableEq

/-- `workflow_reservation_identity`. -/
structure ReservationKey where
  run : RunKey
  id : ReservationId
deriving DecidableEq

/-- The status of a run or of a scope. -/
inductive Status where
  | active
  | completed
  | failed
deriving DecidableEq

/-- A document of `workflow_budget_runs`. -/
structure Run where
  rootScopeId : ScopeId
  status : Status := .active

/-- A document of `workflow_budget_scopes`. -/
structure Scope where
  parentScopeId : Option ScopeId
  maxUsd : ℚ
  spentUsd : ℚ := 0
  reservedUsd : ℚ := 0
  status : Status := .active

/-- The status of a reservation. -/
inductive ReservationStatus where
  | reserved
  | started
  | settled
  | failed
  | cancelled
deriving DecidableEq

/-- `{"settled", "failed", "cancelled"}`. -/
def ReservationStatus.isFinal : ReservationStatus → Bool
  | .settled | .failed | .cancelled => true
  | .reserved | .started => false

/-- A document of `workflow_budget_reservations`: it is booked on each of its scopes once. -/
structure Reservation where
  scopeId : ScopeId
  scopeIds : List ScopeId
  scopeIds_nodup : scopeIds.Nodup
  routingCallId : String
  status : ReservationStatus := .reserved
  callLimitUsd : ℚ
  maxOutputTokens : Int
  modelId : String
  provider : String
  spendUsd : Option ℚ := none

/-- A document of `workflow_route_usage_logs`. -/
structure UsageLog where
  run : RunKey
  scopeId : ScopeId
  reservationId : ReservationId
  routingCallId : String
  modelId : String
  provider : String
  success : Bool
  spendUsd : ℚ

/-- The database. -/
structure Store where
  runs : Dict RunKey Run := ∅
  scopes : Dict ScopeKey Scope := ∅
  reservations : Dict ReservationKey Reservation := ∅
  usageLogs : List UsageLog := []

/-- The reservation is on a scope. -/
def books (scope : ScopeKey) (key : ReservationKey) (reservation : Reservation) : Bool :=
  key.run == scope.run && reservation.scopeIds.contains scope.id

/-! ## Requests -/

/-- `math.isclose`, with an absolute tolerance only. -/
def isclose (a b : ℚ) : Bool := |a - b| ≤ tolerance

@[simp] theorem isclose_self (a : ℚ) : isclose a a = true := by
  simp [isclose, tolerance]

/-- `WorkflowRunCreateRequest`. -/
structure WorkflowRunCreateRequest where
  maxUsd : ℚ
  maxUsd_pos : 0 < maxUsd

/-- `WorkflowScopeCreateRequest`. -/
structure WorkflowScopeCreateRequest where
  parentScopeId : ScopeId
  maxUsd : Option ℚ := none
  maxPercent : Option ℚ := none
  maxUsd_pos : ∀ x ∈ maxUsd, 0 < x
  maxPercent_pos : ∀ x ∈ maxPercent, 0 < x
  maxPercent_le_one : ∀ x ∈ maxPercent, x ≤ 1

/-- `WorkflowFinishRequest`. -/
structure WorkflowFinishRequest where
  status : Status
  status_pattern : status ≠ .active

/-- The fields of an accounting token. -/
structure AccountingClaim where
  v : Nat := 2
  run : RunKey
  scopeId : ScopeId
  reservationId : ReservationId
  routingCallId : String
  modelId : String
  provider : String
  callLimitUsd : ℚ
  maxOutputTokens : Int
deriving DecidableEq

/-- `WORKFLOW_ACCOUNTING_TOKEN_VERSION`. -/
def workflowAccountingTokenVersion : Nat := 2

/-- The reservation that a claim names. -/
def AccountingClaim.key (claim : AccountingClaim) : ReservationKey := ⟨claim.run, claim.reservationId⟩

/-- A call of `finalize_workflow_reservation`: by the endpoint that cancels, by the one that fails, and by the one that logs usage,
with the spend it has verified. -/
inductive Finalization where
  | cancel (claim : AccountingClaim)
  | fail (claim : AccountingClaim)
  | settle (claim : AccountingClaim) (verifiedSpendUsd : ℚ) (success : Bool)
deriving DecidableEq

def Finalization.claim : Finalization → AccountingClaim
  | .cancel claim | .fail claim | .settle claim _ _ => claim

def Finalization.spendUsd : Finalization → ℚ
  | .cancel _ => 0
  | .fail claim => claim.callLimitUsd
  | .settle _ verifiedSpendUsd _ => verifiedSpendUsd

def Finalization.outcome : Finalization → ReservationStatus
  | .cancel _ => .cancelled
  | .fail _ => .failed
  | .settle _ _ _ => .settled

/-- `required_status`. -/
def Finalization.requiredStatus : Finalization → ReservationStatus
  | .cancel _ => .reserved
  | .fail _ | .settle _ _ _ => .started

/-- `debit`. -/
def Finalization.debit (f : Finalization) : ℚ := if f.outcome = .cancelled then 0 else f.spendUsd

/-- What a scope chain is read for. -/
inductive ChainUse where
  | scope (body : WorkflowScopeCreateRequest)
  | call (routingCallId : String)

/-- A request. -/
inductive Call where
  | createRun (userId routeId : String) (body : WorkflowRunCreateRequest)
  | createScope (run : RunKey) (body : WorkflowScopeCreateRequest)
  | route (run : RunKey) (budgetScopeId : Option ScopeId) (routingCallId : String)
  | start (claim : AccountingClaim)
  | finalize (f : Finalization)
  | finishScope (run : RunKey) (scopeId : ScopeId) (body : WorkflowFinishRequest)
  | finishRun (run : RunKey) (body : WorkflowFinishRequest)

/-- The scopes read so far, as they were read, from the topmost one down: no two of them have one identifier. -/
structure ScopeChain where
  rows : List (ScopeId × Scope)
  nodup : (rows.map (·.1)).Nodup

/-- `HTTPException`, and the error of a unique index. -/
inductive Refusal where
  | runMissing
  | runNotActive (status : Status)
  | scopeCycle
  | scopeMissing (id : ScopeId)
  | scopeNotActive (id : ScopeId)
  | scopeNotInRun
  | scopeBudgetChoiceRequired
  | childBudgetExceedsParent
  | noCandidate (reason : String)
  | budgetExhausted (id : ScopeId)
  | accountingTokenRequired
  | claimMismatch
  | alreadyFinalized
  | invalidState (status : ReservationStatus)
  | budgetCapViolation (callLimitUsd spendUsd : ℚ)
  | scopeSettlementConflict (id : ScopeId)
  | reservationSettlementConflict
  | reservationNotReserved
  | scopeHasUnsettledReservations (id : ReservationId)
  | noActiveScope
  | runHasUnsettledReservations
  | noActiveRun
  | duplicateKey (index : String)

/-- `status_code`. -/
def Refusal.statusCode : Refusal → Nat
  | .runMissing | .scopeMissing _ => 404
  | .scopeBudgetChoiceRequired | .childBudgetExceedsParent | .accountingTokenRequired => 422
  | .duplicateKey _ => 500
  | _ => 409

/-- `detail["error"]`; of a unique index, its name. -/
def Refusal.error : Refusal → String
  | .runMissing => "workflow_run_missing"
  | .runNotActive _ | .noActiveRun => "workflow_run_not_active"
  | .scopeCycle => "workflow_scope_cycle"
  | .scopeMissing _ => "workflow_scope_missing"
  | .scopeNotActive _ | .noActiveScope => "workflow_scope_not_active"
  | .scopeNotInRun => "workflow_scope_not_in_run"
  | .scopeBudgetChoiceRequired => "workflow_scope_budget_choice_required"
  | .childBudgetExceedsParent => "workflow_child_budget_exceeds_parent"
  | .noCandidate _ | .budgetExhausted _ => "workflow_budget_exhausted"
  | .accountingTokenRequired => "workflow_accounting_token_required"
  | .claimMismatch => "workflow_reservation_claim_mismatch"
  | .alreadyFinalized => "workflow_reservation_already_finalized"
  | .invalidState _ => "workflow_reservation_invalid_state"
  | .budgetCapViolation _ _ => "workflow_budget_cap_violation"
  | .scopeSettlementConflict _ => "workflow_scope_settlement_conflict"
  | .reservationSettlementConflict => "workflow_reservation_settlement_conflict"
  | .reservationNotReserved => "workflow_reservation_not_reserved"
  | .scopeHasUnsettledReservations _ => "workflow_scope_has_unsettled_reservations"
  | .runHasUnsettledReservations => "workflow_run_has_unsettled_reservations"
  | .duplicateKey index => index

/-- Only an identifier that was drawn twice is an error of the server. -/
theorem statusCode_eq_500_iff (refusal : Refusal) : refusal.statusCode = 500 ↔ ∃ index, refusal = .duplicateKey index := by
  constructor
  · intro h
    cases refusal with
    | duplicateKey index => exact ⟨index, rfl⟩
    | _ => cases h
  · rintro ⟨index, rfl⟩
    rfl

/-- What a request returns. -/
inductive Response where
  | created (run : RunKey) (scopeId : ScopeId) (maxUsd : ℚ)
  | reserved (key : ReservationKey) (scopeId : ScopeId) (callLimitUsd : ℚ) (maxOutputTokens : Int)
  | started (key : ReservationKey)
  | finalized (key : ReservationKey) (status : ReservationStatus) (spendUsd : Option ℚ)
  | finished (status : Status)
  | legacyUsage

/-- What a thread does next, and the local variables it holds. -/
inductive Task where
  | createRun (userId routeId : String) (body : WorkflowRunCreateRequest)
  | readRun (use : ChainUse) (run : RunKey) (scopeId : Option ScopeId)
  | readScope (use : ChainUse) (run : RunKey) (rootScopeId current : ScopeId) (chain : ScopeChain)
  | insertScope (run : RunKey) (parentScopeId : ScopeId) (maximum : ℚ)
  | reserve (run : RunKey) (chain : ScopeChain) (hne : chain.rows ≠ []) (routingCallId : String)
  | readReserved (claim : AccountingClaim)
  | writeStarted (claim : AccountingClaim)
  | readReservation (f : Finalization)
  | finalize (f : Finalization) (reservation : Reservation)
  | writeUsageLog (claim : AccountingClaim) (verifiedSpendUsd : ℚ) (success : Bool) (reservation : Reservation)
  | checkScope (run : RunKey) (scopeId : ScopeId) (body : WorkflowFinishRequest)
  | writeScopeStatus (run : RunKey) (scopeId : ScopeId) (body : WorkflowFinishRequest)
  | checkRun (run : RunKey) (body : WorkflowFinishRequest)
  | writeScopeStatuses (run : RunKey) (body : WorkflowFinishRequest)
  | writeRunStatus (run : RunKey) (body : WorkflowFinishRequest)
  | returned (response : Response)
  | threw (refusal : Refusal)
  | crashed

/-- What a turn is told from outside: the uuids it draws, and the candidate that is authorized. -/
structure Input where
  uuid : Nat := 0
  rootUuid : Nat := 0
  candidate : Candidate
  modelId : String
  provider : String

/-! ## Reading a scope chain -/

/-- The maximum of a scope to be created under a parent: `max_usd`, or `max_percent` of the parent's. -/
def childMaximum (body : WorkflowScopeCreateRequest) (parent : Scope) : ℚ :=
  match body.maxUsd with
  | some maxUsd => maxUsd
  | none => parent.maxUsd * body.maxPercent.getD 0

/-- What follows when `workflow_scope_chain` returns. -/
def useChain (use : ChainUse) (run : RunKey) (chain : ScopeChain) (hne : chain.rows ≠ []) : Task :=
  match use with
  | .scope body =>
    let parent := chain.rows.getLast hne
    let maximum := childMaximum body parent.2
    if maximum > parent.2.maxUsd + tolerance then .threw .childBudgetExceedsParent
    else .insertScope run parent.1 maximum
  | .call routingCallId => .reserve run chain hne routingCallId

/-- `workflow_scope_chain`, after the last read: the topmost scope must be the root of the run. -/
def endChain (use : ChainUse) (run : RunKey) (rootScopeId : ScopeId) (chain : ScopeChain) : Task :=
  if hne : chain.rows ≠ [] then
    if (chain.rows.head hne).1 ≠ rootScopeId then .threw .scopeNotInRun else useChain use run chain hne
  else .threw .scopeNotInRun

/-- `workflow_scope_chain`, up to the next read. -/
def nextScope (use : ChainUse) (run : RunKey) (rootScopeId : ScopeId) (current : Option ScopeId) (chain : ScopeChain) : Task :=
  match current with
  | none => endChain use run rootScopeId chain
  | some current => .readScope use run rootScopeId current chain

/-- `workflow_scope_chain`, the read of the run. -/
def readRun (store : Store) (use : ChainUse) (run : RunKey) (scopeId : Option ScopeId) : Task :=
  match store.runs.lookup run with
  | none => .threw .runMissing
  | some row =>
    if row.status ≠ .active then .threw (.runNotActive row.status)
    else nextScope use run row.rootScopeId scopeId { rows := [], nodup := List.nodup_nil }

/-- `workflow_scope_chain`, one round of its loop. -/
def readScope (store : Store) (use : ChainUse) (run : RunKey) (rootScopeId current : ScopeId) (chain : ScopeChain) : Task :=
  if hnew : current ∈ chain.rows.map (·.1) then .threw .scopeCycle
  else
    match store.scopes.lookup ⟨run, current⟩ with
    | none => .threw (.scopeMissing current)
    | some row =>
      if row.status ≠ .active then .threw (.scopeNotActive current)
      else nextScope use run rootScopeId row.parentScopeId
        { rows := (current, row) :: chain.rows, nodup := List.nodup_cons.2 ⟨hnew, chain.nodup⟩ }

/-! ## Transactions and single statements -/

/-- `create_workflow_run_endpoint`. -/
def createRun (store : Store) (run : RunKey) (rootScopeId : ScopeId) (body : WorkflowRunCreateRequest) : Store × Task :=
  if run ∈ store.runs then (store, .threw (.duplicateKey "workflow_run_identity"))
  else if ⟨run, rootScopeId⟩ ∈ store.scopes then (store, .threw (.duplicateKey "workflow_scope_identity"))
  else
    ({ store with
        runs := store.runs.insert run { rootScopeId }
        scopes := store.scopes.insert ⟨run, rootScopeId⟩ { parentScopeId := none, maxUsd := body.maxUsd } },
      .returned (.created run rootScopeId body.maxUsd))

/-- `create_workflow_scope_endpoint`, its write. -/
def insertScope (store : Store) (run : RunKey) (scopeId parentScopeId : ScopeId) (maximum : ℚ) : Store × Task :=
  if ⟨run, scopeId⟩ ∈ store.scopes then (store, .threw (.duplicateKey "workflow_scope_identity"))
  else
    ({ store with scopes := store.scopes.insert ⟨run, scopeId⟩ { parentScopeId := some parentScopeId, maxUsd := maximum } },
      .returned (.created run scopeId maximum))

/-- The keys of scopes of one run. -/
def scopeKeys (run : RunKey) (scopeIds : List ScopeId) : List ScopeKey := scopeIds.map fun id => ⟨run, id⟩

/-- The filter of a reservation: the scope is active and has the amount left. -/
def funds (callLimitUsd : ℚ) (scope : Scope) : Bool :=
  scope.status == .active && decide (callLimitUsd ≤ scope.maxUsd - (scope.spentUsd + scope.reservedUsd))

/-- The update of a reservation. -/
def Scope.book (callLimitUsd : ℚ) (scope : Scope) : Scope := { scope with reservedUsd := scope.reservedUsd + callLimitUsd }

/-- The document that `reserve_workflow_call` inserts. -/
def newReservation (chain : ScopeChain) (hne : chain.rows ≠ []) (routingCallId : String) (authorization : Authorization)
    (input : Input) : Reservation where
  scopeId := (chain.rows.getLast hne).1
  scopeIds := chain.rows.map (·.1)
  scopeIds_nodup := chain.nodup
  routingCallId
  callLimitUsd := authorization.callLimitUsd
  maxOutputTokens := authorization.maxOutputTokens
  modelId := input.modelId
  provider := input.provider

/-- `reserve_workflow_call`. -/
def reserveWorkflowCall (store : Store) (run : RunKey) (chain : ScopeChain) (hne : chain.rows ≠ []) (routingCallId : String)
    (authorization : Authorization) (input : Input) : Store × Task :=
  let reservation := newReservation chain hne routingCallId authorization input
  match updateEach (funds reservation.callLimitUsd) (Scope.book reservation.callLimitUsd) (scopeKeys run reservation.scopeIds)
      store.scopes with
  | .error key => (store, .threw (.budgetExhausted key.id))
  | .ok scopes =>
    if ⟨run, input.uuid⟩ ∈ store.reservations then (store, .threw (.duplicateKey "workflow_reservation_identity"))
    else
      ({ store with scopes, reservations := store.reservations.insert ⟨run, input.uuid⟩ reservation },
        .returned (.reserved ⟨run, input.uuid⟩ reservation.scopeId reservation.callLimitUsd reservation.maxOutputTokens))

/-- `workflow_reservation_from_claim`. -/
def workflowReservationFromClaim (store : Store) (claim : AccountingClaim) : Except Refusal Reservation :=
  if claim.v ≠ workflowAccountingTokenVersion then .error .accountingTokenRequired
  else
    match store.reservations.lookup claim.key with
    | none => .error .claimMismatch
    | some reservation =>
      if reservation.scopeId = claim.scopeId ∧ reservation.routingCallId = claim.routingCallId ∧
          reservation.modelId = claim.modelId ∧ reservation.provider = claim.provider ∧
          reservation.callLimitUsd = claim.callLimitUsd ∧ reservation.maxOutputTokens = claim.maxOutputTokens then
        .ok reservation
      else .error .claimMismatch

/-- `start_workflow_reservation_endpoint`, its read. -/
def readReserved (store : Store) (claim : AccountingClaim) : Task :=
  match workflowReservationFromClaim store claim with
  | .error refusal => .threw refusal
  | .ok reservation => if reservation.status = .started then .returned (.started claim.key) else .writeStarted claim

/-- `start_workflow_reservation_endpoint`, its write. -/
def writeStarted (store : Store) (claim : AccountingClaim) : Store × Task :=
  match store.reservations.lookup claim.key with
  | none => (store, .threw .reservationNotReserved)
  | some stored =>
    if stored.status = .reserved then
      ({ store with reservations := store.reservations.insert claim.key { stored with status := .started } },
        .returned (.started claim.key))
    else (store, .threw .reservationNotReserved)

/-- What the endpoints do with the reservation that `finalize_workflow_reservation` returns. -/
def finalized (f : Finalization) (reservation : Reservation) : Task :=
  match f with
  | .settle claim verifiedSpendUsd success => .writeUsageLog claim verifiedSpendUsd success reservation
  | .cancel claim | .fail claim => .returned (.finalized claim.key reservation.status reservation.spendUsd)

/-- `finalize_workflow_reservation`, up to its transaction. -/
def readReservation (store : Store) (f : Finalization) : Task :=
  match workflowReservationFromClaim store f.claim with
  | .error refusal => .threw refusal
  | .ok reservation =>
    if reservation.status.isFinal then
      if reservation.status = f.outcome ∧ isclose (reservation.spendUsd.getD 0) f.spendUsd then finalized f reservation
      else .threw .alreadyFinalized
    else if reservation.status ≠ f.requiredStatus then .threw (.invalidState reservation.status)
    else if f.debit < 0 ∨ f.debit > reservation.callLimitUsd + tolerance then
      .threw (.budgetCapViolation reservation.callLimitUsd f.debit)
    else .finalize f reservation

/-- The filter of a finalization. -/
def holds (callLimitUsd : ℚ) (scope : Scope) : Bool := decide (callLimitUsd ≤ scope.reservedUsd)

/-- The update of a finalization. -/
def Scope.settle (callLimitUsd debit : ℚ) (scope : Scope) : Scope :=
  { scope with reservedUsd := scope.reservedUsd - callLimitUsd, spentUsd := scope.spentUsd + debit }

/-- `finalize_workflow_reservation`, its transaction. -/
def finalizeWorkflowReservation (store : Store) (f : Finalization) (reservation : Reservation) : Store × Task :=
  match updateEach (holds reservation.callLimitUsd) (Scope.settle reservation.callLimitUsd f.debit)
      (scopeKeys f.claim.run reservation.scopeIds) store.scopes with
  | .error key => (store, .threw (.scopeSettlementConflict key.id))
  | .ok scopes =>
    match store.reservations.lookup f.claim.key with
    | none => (store, .threw .reservationSettlementConflict)
    | some stored =>
      if stored.status = f.requiredStatus then
        let updated := { stored with status := f.outcome, spendUsd := some f.debit }
        ({ store with scopes, reservations := store.reservations.insert f.claim.key updated }, finalized f updated)
      else (store, .threw .reservationSettlementConflict)

/-- The filter of `workflow_logs.update_one`. -/
def UsageLog.isOf (claim : AccountingClaim) (log : UsageLog) : Bool :=
  log.run.userId == claim.run.userId && log.run.routeId == claim.run.routeId && log.reservationId == claim.reservationId

/-- `lerouter_usage_log`, its last write: an upsert that never changes a log. -/
def writeUsageLog (store : Store) (claim : AccountingClaim) (verifiedSpendUsd : ℚ) (success : Bool) : Store :=
  if store.usageLogs.any (UsageLog.isOf claim) then store
  else
    { store with
      usageLogs := store.usageLogs ++
        [{ run := claim.run
           scopeId := claim.scopeId
           reservationId := claim.reservationId
           routingCallId := claim.routingCallId
           modelId := claim.modelId
           provider := claim.provider
           success
           spendUsd := verifiedSpendUsd }] }

@[simp] theorem writeUsageLog_runs (store : Store) (claim : AccountingClaim) (verifiedSpendUsd : ℚ) (success : Bool) :
    (writeUsageLog store claim verifiedSpendUsd success).runs = store.runs := by
  unfold writeUsageLog
  split <;> rfl

@[simp] theorem writeUsageLog_scopes (store : Store) (claim : AccountingClaim) (verifiedSpendUsd : ℚ) (success : Bool) :
    (writeUsageLog store claim verifiedSpendUsd success).scopes = store.scopes := by
  unfold writeUsageLog
  split <;> rfl

@[simp] theorem writeUsageLog_reservations (store : Store) (claim : AccountingClaim) (verifiedSpendUsd : ℚ) (success : Bool) :
    (writeUsageLog store claim verifiedSpendUsd success).reservations = store.reservations := by
  unfold writeUsageLog
  split <;> rfl

/-- `{"status": {"$in": ["reserved", "started"]}}`. -/
def ReservationStatus.isOpen : ReservationStatus → Bool
  | .reserved | .started => true
  | .settled | .failed | .cancelled => false

/-- An open reservation is on a scope. -/
def openOn (store : Store) (scope : ScopeKey) : Bool :=
  store.reservations.entries.any fun e => books scope e.1 e.2 && e.2.status.isOpen

/-- An open reservation is in a run. -/
def openIn (store : Store) (run : RunKey) : Bool :=
  store.reservations.entries.any fun e => e.1.run == run && e.2.status.isOpen

/-- `finish_workflow_scope`, its check. Which one of several reservations is found, nothing depends on. -/
def checkScope (store : Store) (run : RunKey) (scopeId : ScopeId) (body : WorkflowFinishRequest) : Task :=
  match store.reservations.entries.find? fun e => books ⟨run, scopeId⟩ e.1 e.2 && e.2.status.isOpen with
  | some unsettled => .threw (.scopeHasUnsettledReservations unsettled.1.id)
  | none => .writeScopeStatus run scopeId body

/-- `finish_workflow_scope`, its write. -/
def writeScopeStatus (store : Store) (run : RunKey) (scopeId : ScopeId) (body : WorkflowFinishRequest) : Store × Task :=
  match store.scopes.lookup ⟨run, scopeId⟩ with
  | none => (store, .threw .noActiveScope)
  | some scope =>
    if scope.status = .active then
      ({ store with scopes := store.scopes.insert ⟨run, scopeId⟩ { scope with status := body.status } },
        .returned (.finished body.status))
    else (store, .threw .noActiveScope)

/-- `finish_workflow_run_endpoint`, its check. -/
def checkRun (store : Store) (run : RunKey) (body : WorkflowFinishRequest) : Task :=
  if openIn store run then .threw .runHasUnsettledReservations else .writeScopeStatuses run body

/-- The update of `scopes.update_many`. -/
def closeScope (run : RunKey) (status : Status) (key : ScopeKey) (scope : Scope) : Scope :=
  if key.run = run ∧ scope.status = .active then { scope with status := status } else scope

/-- `finish_workflow_run_endpoint`, its first write. -/
def writeScopeStatuses (store : Store) (run : RunKey) (body : WorkflowFinishRequest) : Store × Task :=
  ({ store with scopes := mapRows (closeScope run body.status) store.scopes }, .writeRunStatus run body)

/-- `finish_workflow_run_endpoint`, its second write. -/
def writeRunStatus (store : Store) (run : RunKey) (body : WorkflowFinishRequest) : Store × Task :=
  match store.runs.lookup run with
  | none => (store, .threw .noActiveRun)
  | some row =>
    if row.status = .active then
      ({ store with runs := store.runs.insert run { row with status := body.status } }, .returned (.finished body.status))
    else (store, .threw .noActiveRun)

/-! ## The system -/

/-- The first task of a request. -/
def start : Call → Task
  | .createRun userId routeId body => .createRun userId routeId body
  | .createScope run body =>
    if body.maxUsd.isNone = body.maxPercent.isNone then .threw .scopeBudgetChoiceRequired
    else .readRun (.scope body) run (some body.parentScopeId)
  | .route run budgetScopeId routingCallId => .readRun (.call routingCallId) run budgetScopeId
  | .start claim => .readReserved claim
  | .finalize f =>
    match f with
    | .settle claim _ _ => if claim.v = workflowAccountingTokenVersion then .readReservation f else .returned .legacyUsage
    | .cancel _ | .fail _ => .readReservation f
  | .finishScope run scopeId body => .checkScope run scopeId body
  | .finishRun run body => .checkRun run body

/-- One turn of a thread. -/
def turn (store : Store) : Task → Input → Store × Task
  | .createRun userId routeId body, input => createRun store ⟨userId, routeId, input.uuid⟩ input.rootUuid body
  | .readRun use run scopeId, _ => (store, readRun store use run scopeId)
  | .readScope use run rootScopeId current chain, _ => (store, readScope store use run rootScopeId current chain)
  | .insertScope run parentScopeId maximum, input => insertScope store run input.uuid parentScopeId maximum
  | .reserve run chain hne routingCallId, input =>
    match authorizeCandidate input.candidate with
    | .error reason => (store, .threw (.noCandidate reason))
    | .ok authorization => reserveWorkflowCall store run chain hne routingCallId authorization input
  | .readReserved claim, _ => (store, readReserved store claim)
  | .writeStarted claim, _ => writeStarted store claim
  | .readReservation f, _ => (store, readReservation store f)
  | .finalize f reservation, _ => finalizeWorkflowReservation store f reservation
  | .writeUsageLog claim verifiedSpendUsd success reservation, _ =>
    (writeUsageLog store claim verifiedSpendUsd success,
      .returned (.finalized claim.key reservation.status reservation.spendUsd))
  | .checkScope run scopeId body, _ => (store, checkScope store run scopeId body)
  | .writeScopeStatus run scopeId body, _ => writeScopeStatus store run scopeId body
  | .checkRun run body, _ => (store, checkRun store run body)
  | .writeScopeStatuses run body, _ => writeScopeStatuses store run body
  | .writeRunStatus run body, _ => writeRunStatus store run body
  | .returned response, _ => (store, .returned response)
  | .threw refusal, _ => (store, .threw refusal)
  | .crashed, _ => (store, .crashed)

/-- A thread that has returned or thrown cannot crash any more. -/
def crash : Task → Task
  | .returned response => .returned response
  | .threw refusal => .threw refusal
  | _ => .crashed

/-- The program: nothing but its requests touches the store. -/
def program : Program Store Call Task Input Empty where
  start := start
  turn := turn
  halt := crash
  happen _ event := event.elim

/-- A world of the program, and what can happen next in it. -/
abbrev System := World Store Task

abbrev Step := Action Call Input Empty

/-- No documents and no requests. -/
def begun : System := { store := {} }

end Workflow

end PromptRail
