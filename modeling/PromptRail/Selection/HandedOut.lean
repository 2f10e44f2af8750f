import PromptRail.Selection
import PromptRail.AccountingToken.Issued

/-!
# Reservations that are handed out

A reservation can be cancelled, failed or settled with its accounting token only. `/lerouter/route` makes none; `/lerouter/select`
makes one that is verified, unless the identities of the request are blank or the selected model is one that no token is made of.
-/

namespace PromptRail

namespace Selection

open PyText (Text strip)
open Json (Fields Value get? dumps)
open Accounting (TokenArguments WorkflowExecution field verifyAccountingToken issueAccountingToken signedAccountingModelProfile
  accountingClaim FinitePrices Complete Verifiable IsIssuedClaim)
open Workflow (Store ReservationKey Reservation ScopeId RunKey ScopeChain Authorization)
open Outcome (bind_ok bind_ok_iff check_ok_iff)

/-! ## What is promised -/

/-- A reservation that a request has committed. -/
structure Committed (store store' : Store) (key : ReservationKey) (reservation : Reservation) : Prop where
  before : store.reservations.lookup key = none
  after : store'.reservations.lookup key = some reservation

/-- A claim names a reservation. -/
structure Names (claim : Fields) (key : ReservationKey) (reservation : Reservation) : Prop where
  run : field claim "workflow_run_id" = .str (runText key.run.runId)
  scope : field claim "budget_scope_id" = .str (scopeText reservation.scopeId)
  reservation : field claim "reservation_id" = .str (reservationText key.id)

/-- The response carries a token that is verified, and its claim names the reservation. -/
def HandedOut (env : CandidatePool.Env) (key : ReservationKey) (reservation : Reservation) (response : Except Refusal Response) :
    Prop :=
  ∃ answer token claim, response = .ok answer ∧ answer.accountingToken = some token ∧
    verifyAccountingToken env.toEnv token = .ok claim ∧ Names claim key reservation

variable {env : CandidatePool.Env} {given : Given env} {prepared : Prepared env}

/-- What `workflow_execution` says of the reservation of a request. -/
def Prepared.execution (given : Given env) (prepared : Prepared env) : WorkflowExecution where
  workflowRunId := runText prepared.run.runId
  budgetScopeId := scopeText (prepared.routing.chain.rows.getLast (Prepared.chain_ne env prepared)).1
  reservationId := reservationText given.reservationUuid
  callLimitUsd := .finite prepared.selected.authorization.callLimitUsd
  maxOutputTokens := prepared.selected.authorization.maxOutputTokens

/-- The arguments that the selected model of a request is made a token with. -/
def Prepared.arguments (given : Given env) (prepared : Prepared env) : TokenArguments :=
  tokenArguments env (routeResult env given prepared (prepared.execution given))
    (routingModelWithoutInternalFields prepared.selected.model)

/-- The request comes to reserve. -/
def Prepares (given : Given env) (endpoint : Endpoint) (body : RouteRequest) (prepared : Prepared env) : Prop :=
  ∃ routed, endpoint.body env body = .ok routed ∧ prepare env given routed = .ok prepared

/-- A token is made of the call, and verified: its user and its route are not blank, its model is in ASCII, has a profile that can be
signed and no infinite price under another name, and the claim is short enough. -/
structure Accountable (env : Accounting.Env) (args : TokenArguments) : Prop where
  userId : strip args.userId ≠ []
  routeId : strip args.routeId ≠ []
  ascii : ∀ c ∈ strip args.modelId, c.toNat < 128
  signed : ∃ profile, signedAccountingModelProfile env args.modelProfile (env.lower (strip args.provider)) = .ok profile ∧
    (dumps (.obj (accountingClaim env args profile))).length ≤ 6111
  prices : ∀ model, args.modelProfile = .obj model → FinitePrices env model

namespace HandedOutAux

/-! ## Identifiers -/

theorem isSpace_hexDigit : ∀ n < 16, PyText.isSpace (Json.hexDigit n) = false := by
  decide

theorem strip_identifier {literal : Text} (h : literal.any PyText.isSpace = false) (uuid : Nat) :
    strip (literal ++ uuidHex uuid) = literal ++ uuidHex uuid := by
  refine PyText.strip_of_noSpace fun c hc => ?_
  rcases List.mem_append.1 hc with hliteral | hhex
  · simpa using List.any_eq_false.1 h c hliteral
  · obtain ⟨i, -, rfl⟩ := List.mem_map.1 hhex
    exact isSpace_hexDigit _ (Nat.mod_lt _ (by decide))

theorem strip_runText (id : Workflow.RunId) : strip (runText id) = runText id := strip_identifier (by decide) id

theorem strip_scopeText (id : ScopeId) : strip (scopeText id) = scopeText id := strip_identifier (by decide) id

theorem strip_reservationText (id : Workflow.ReservationId) : strip (reservationText id) = reservationText id :=
  strip_identifier (by decide) id

theorem strip_routingCallText (uuid : Nat) : strip (routingCallText uuid) = routingCallText uuid :=
  strip_identifier (by decide) uuid

/-! ## The reservation -/

/-- A reservation that is returned has been inserted, and no other one has been changed. -/
theorem reserved_inv {store store' : Store} {run : RunKey} {chain : ScopeChain} {hne : chain.rows ≠ []} {routingCallId : String}
    {authorization : Authorization} {input : Workflow.Input} {key : ReservationKey} {scopeId : ScopeId} {limit : ℚ} {tokens : Int}
    (h : Workflow.reserveWorkflowCall store run chain hne routingCallId authorization input =
      (store', .returned (.reserved key scopeId limit tokens))) :
    key = ⟨run, input.uuid⟩ ∧ scopeId = (chain.rows.getLast hne).1 ∧ limit = authorization.callLimitUsd ∧
      tokens = authorization.maxOutputTokens ∧ ∃ reservation, Committed store store' key reservation ∧
      reservation.scopeId = scopeId ∧ ∀ other, other ≠ key → store'.reservations.lookup other = store.reservations.lookup other := by
  unfold Workflow.reserveWorkflowCall at h
  dsimp only at h
  split at h
  · cases h
  · split at h
    · cases h
    · rename_i hnew
      cases h
      refine ⟨rfl, rfl, rfl, rfl, Workflow.newReservation chain hne routingCallId authorization input, ?_, rfl, ?_⟩
      · exact ⟨AList.lookup_eq_none.2 hnew, AList.lookup_insert _⟩
      · exact fun other hother => AList.lookup_insert_ne hother

/-- What a call that is reserved returns. -/
theorem reserve_ok {store store' : Store} {execution : WorkflowExecution}
    (h : reserveWorkflowCall env given store prepared = .ok (store', execution)) :
    execution = prepared.execution given ∧ ∃ reservation, Committed store store' ⟨prepared.run, given.reservationUuid⟩ reservation ∧
      reservation.scopeId = (prepared.routing.chain.rows.getLast prepared.routing.chain_ne).1 ∧
      ∀ key, key ≠ ⟨prepared.run, given.reservationUuid⟩ → store'.reservations.lookup key = store.reservations.lookup key := by
  unfold reserveWorkflowCall at h
  dsimp only at h
  split at h
  · rename_i hreserved
    obtain ⟨rfl, rfl, rfl, rfl, hcommitted⟩ := reserved_inv hreserved
    split at h
    · cases h
    · cases h
      exact ⟨rfl, hcommitted⟩
  · cases h
  · cases h

/-- What a request does: it leaves the store as it is, or reserves what it has prepared and responds to it. -/
theorem serve_cases (endpoint : Endpoint) (given : Given env) (store : Store) (body : RouteRequest) :
    (serve env endpoint given store body).1 = store ∨
    ∃ prepared store', Prepares given endpoint body prepared ∧
      reserveWorkflowCall env given store prepared = .ok (store', prepared.execution given) ∧
      serve env endpoint given store body =
        (store', endpoint.respond env (routeResult env given prepared (prepared.execution given))) := by
  unfold serve
  split
  · exact Or.inl rfl
  · rename_i routed hrouted
    unfold lerouterRoute
    split
    · exact Or.inl rfl
    · rename_i prepared hprepared
      split
      · exact Or.inl rfl
      · rename_i store' execution hreserved
        obtain ⟨rfl, -⟩ := reserve_ok hreserved
        exact Or.inr ⟨prepared, store', ⟨routed, hrouted, hprepared⟩, hreserved, rfl⟩

/-! ## What is prepared -/

theorem mem_ranked {options : Options} {prediction : Prediction} {candidates : List (ScoredModel env)} {ranked : List RankedCandidate}
    (h : workflowRankCandidates env options prediction candidates = .ok ranked) {candidate : RankedCandidate}
    (hmem : candidate ∈ ranked) : ∃ scored predictedCostUsd,
      candidate.model = enriched env scored prediction candidate.authorization predictedCostUsd := by
  unfold workflowRankCandidates at h
  dsimp only at h
  split at h
  · cases h
  · cases h
    obtain ⟨scored, -, hranked⟩ := List.mem_filterMap.1 ((List.mem_insertionSort _).1 hmem)
    have hok := Outcome.ok_of_toOption hranked
    unfold rankCandidate at hok
    dsimp only at hok
    split at hok
    · cases hok
    · split at hok
      · cases hok
      · split at hok
        · cases hok
        · cases hok
          exact ⟨scored, _, rfl⟩

/-- What is prepared has a secret to sign with, and the selected model is written with a positive weight. -/
theorem prepare_ok {body : RouteRequest} (h : prepare env given body = .ok prepared) :
    (∃ secret, Accounting.accountingSigningSecret env.toEnv = .ok secret) ∧
      ∃ scored predictedCostUsd, prepared.selected.model =
        enriched env scored prepared.routing.prediction prepared.selected.authorization predictedCostUsd := by
  unfold prepare at h
  obtain ⟨⟨context, options⟩, hchecked, h⟩ := bind_ok h
  obtain ⟨routing, -, h⟩ := bind_ok h
  obtain ⟨ranked, hranked, h⟩ := bind_ok h
  obtain ⟨compatible, hcompatible, h⟩ := bind_ok h
  refine ⟨?_, ?_⟩
  · unfold checkRequest at hchecked
    simp only [bind_ok_iff, check_ok_iff] at hchecked
    obtain ⟨_, -, mode, -, -, -, _, hsecret, _, -, hmode, -⟩ := hchecked
    obtain rfl : mode = .userManaged := by simpa using (not_or.1 hmode).2
    obtain ⟨secret, hsecret, -⟩ := Outcome.map_ok hsecret
    exact ⟨secret, Outcome.mapError_ok_iff.1 hsecret⟩
  · split at h
    · cases h
    · rename_i selected others
      cases h
      unfold requestCompatibleCandidates at hcompatible
      split at hcompatible
      · cases hcompatible
      · have hmem : selected ∈ ranked := List.mem_of_mem_filter (Except.ok.inj hcompatible ▸ List.mem_cons_self)
        exact mem_ranked hranked hmem

/-! ## The response -/

/-- A selection is answered when the user is known and a token is issued: the selected model is the first one of the ranking. -/
theorem selection_ok_iff {answer : Response} :
    routeSelectionResponse env (routeResult env given prepared (prepared.execution given)) = .ok answer ↔
      strip prepared.userId ≠ [] ∧ ∃ token, issueAccountingToken env.toEnv (prepared.arguments given) = .ok token ∧
        answer = { routed := routeResult env given prepared (prepared.execution given), accountingToken := some token } := by
  unfold routeSelectionResponse
  simp only [check_ok_iff, bind_ok_iff, routeResult, List.map_cons, List.isEmpty_cons, Bool.false_eq_true, if_false, ne_eq,
    not_true_eq_false, Outcome.mapError_ok_iff]
  refine and_congr_right fun _ => exists_congr fun token => and_congr_right fun _ => ?_
  exact ⟨fun h => (Except.ok.inj h).symm, fun h => congrArg Except.ok h.symm⟩

/-! ## The token of the selected model -/

theorem get?_withoutInternal {name : String} (h : name ≠ CandidatePool.profileEmbeddingField) (model : Fields) :
    get? (routingModelWithoutInternalFields model) name = get? model name := by
  unfold get? routingModelWithoutInternalFields
  rw [List.find?_filter]
  congr 2
  funext p
  by_cases hp : p.1 = name
  · simp [hp, h]
  · simp [hp]

/-- The identities of a request are what its claim may lack; the route has a name, and the call, the run, the scope and the reservation
have identifiers. -/
theorem complete_iff {scored : ScoredModel env} {predictedCostUsd : ℚ}
    (hselected : prepared.selected.model =
      enriched env scored prepared.routing.prediction prepared.selected.authorization predictedCostUsd) :
    Complete env.toEnv (prepared.arguments given) ↔ strip prepared.userId ≠ [] ∧ strip prepared.routeId ≠ [] := by
  constructor
  · exact fun h => ⟨h.userId, h.routeId⟩
  · rintro ⟨huser, hroute⟩
    have hcall : strip (strip (routingCallText given.routingCallUuid)) ≠ [] := by
      rw [PyText.strip_strip, strip_routingCallText]
      exact List.cons_ne_nil _ _
    have hweight : field (routingModelWithoutInternalFields prepared.selected.model) "request_weight" =
        number env prepared.routing.prediction.requestWeight := by
      rw [field, get?_withoutInternal (by decide), hselected, enriched, Json.get?_set, if_pos rfl]
      rfl
    refine ⟨huser, hroute, prepared.routing.routeName_ne, hcall, ⟨prepared.routing.prediction.requestWeight, ?_⟩, ?_⟩
    · show Accounting.finiteProfileNumber env.toEnv (field _ "request_weight") true = _
      rw [hweight]
      exact Accounting.finiteProfileNumber_of_pos prepared.routing.prediction.requestWeight_pos
    · rintro execution ⟨⟩
      refine ⟨?_, ?_, ?_⟩
      · exact (strip_runText _).symm ▸ List.cons_ne_nil _ _
      · exact (strip_scopeText _).symm ▸ List.cons_ne_nil _ _
      · exact (strip_reservationText _).symm ▸ List.cons_ne_nil _ _

/-- What is authorized has limits. -/
theorem hasLimits : Accounting.HasLimits (prepared.arguments given) := by
  rintro execution ⟨⟩
  obtain ⟨_, _, -, -, -, -, htokens⟩ := Workflow.prices_of_authorized prepared.selected.authorized
  exact ⟨lt_of_lt_of_le Int.one_pos htokens, _, rfl, Workflow.callLimitUsd_pos prepared.selected.authorized⟩

/-- A claim of the arguments names what was reserved. -/
theorem names_of_issued {claim : Fields} (h : IsIssuedClaim env.toEnv (prepared.arguments given) claim) {reservation : Reservation}
    (hscope : reservation.scopeId = (prepared.routing.chain.rows.getLast prepared.routing.chain_ne).1) :
    Names claim ⟨prepared.run, given.reservationUuid⟩ reservation := by
  obtain ⟨profile, -, profile', -, hget⟩ := h
  have hfield : ∀ {name : String} {v : Value},
      get? (accountingClaim env.toEnv (prepared.arguments given) profile') name = some v → field claim name = v :=
    fun hv => Accounting.field_eq ((hget _).trans hv)
  refine ⟨?_, ?_, ?_⟩
  · rw [← strip_runText]
    exact hfield rfl
  · rw [hscope, ← strip_scopeText]
    exact hfield rfl
  · rw [← strip_reservationText]
    exact hfield rfl

/-- A token is issued of a complete claim, for a model that can be signed under its identifier. -/
theorem issue_iff (hcomplete : Complete env.toEnv (prepared.arguments given))
    (hsecret : ∃ secret, Accounting.accountingSigningSecret env.toEnv = .ok secret) :
    (∃ token, issueAccountingToken env.toEnv (prepared.arguments given) = .ok token) ↔
      (∀ c ∈ strip (prepared.arguments given).modelId, c.toNat < 128) ∧
        ∃ profile, signedAccountingModelProfile env.toEnv (prepared.arguments given).modelProfile
          (env.lower (strip (prepared.arguments given).provider)) = .ok profile := by
  simp only [Accounting.issue_ok_iff]
  constructor
  · rintro ⟨_, profile, _, hprofile, ⟨-, hascii⟩, -⟩
    exact ⟨hascii, profile, hprofile⟩
  · rintro ⟨hascii, profile, hprofile⟩
    obtain ⟨secret, hsecret⟩ := hsecret
    have hnormal := Accounting.normal_of_signed hprofile
    refine ⟨_, profile, secret, hprofile, ⟨?_, hascii⟩, hcomplete, hsecret, rfl⟩
    rw [Accounting.field_eq hnormal.get?_modelId]
    exact (PyText.strip_strip _).symm

/-- A selection hands out its reservation exactly when a token is made of it and verified. -/
theorem selection_iff (hsecret : ∃ secret, Accounting.accountingSigningSecret env.toEnv = .ok secret) {scored : ScoredModel env}
    {predictedCostUsd : ℚ} (hselected : prepared.selected.model =
      enriched env scored prepared.routing.prediction prepared.selected.authorization predictedCostUsd) {reservation : Reservation}
    (hscope : reservation.scopeId = (prepared.routing.chain.rows.getLast prepared.routing.chain_ne).1) :
    HandedOut env ⟨prepared.run, given.reservationUuid⟩ reservation
        (routeSelectionResponse env (routeResult env given prepared (prepared.execution given))) ↔
      Accountable env.toEnv (prepared.arguments given) := by
  constructor
  · rintro ⟨answer, token, claim, hanswer, htoken, hclaim, -⟩
    obtain ⟨-, token', hissued, rfl⟩ := selection_ok_iff.1 hanswer
    obtain rfl := Option.some.inj htoken
    obtain ⟨hverifiable, profile, hprofile, -⟩ := Accounting.verified_of_issued hissued hclaim
    obtain ⟨_, _, -, ⟨-, hascii⟩, hcomplete, -⟩ := Accounting.issue_ok_iff.1 hissued
    exact ⟨hcomplete.userId, hcomplete.routeId, hascii, ⟨profile, hprofile, hverifiable.length profile hprofile⟩, hverifiable.prices⟩
  · intro h
    obtain ⟨profile, hprofile, hlength⟩ := h.signed
    obtain ⟨token, hissued⟩ := (issue_iff ((complete_iff hselected).2 ⟨h.userId, h.routeId⟩) hsecret).2 ⟨h.ascii, profile, hprofile⟩
    have hverifiable : Verifiable env.toEnv (prepared.arguments given) := by
      refine ⟨fun profile' hprofile' => ?_, h.prices, hasLimits⟩
      rwa [Except.ok.inj (hprofile'.symm.trans hprofile)]
    obtain ⟨claim, hclaim, hown⟩ := (Accounting.verify_issued_iff hissued).2 hverifiable
    exact ⟨_, token, claim, selection_ok_iff.2 ⟨h.userId, token, hissued, rfl⟩, rfl, hclaim, names_of_issued hown hscope⟩

end HandedOutAux

open HandedOutAux

/-- A check of calls that tokens are made of: no cache price is infinite, and the rest as it is asked. -/
def isAccountable (env : Accounting.Env) (args : TokenArguments) : Bool :=
  strip args.userId ≠ [] && strip args.routeId ≠ [] && (strip args.modelId).all (fun c => c.toNat < 128) &&
    (match args.modelProfile with
      | .obj model =>
        [Accounting.CacheKey.read, .write].all fun key => Accounting.modelCachePricePerMillion env model key ≠ .infinity
      | _ => true) &&
    match signedAccountingModelProfile env args.modelProfile (env.lower (strip args.provider)) with
    | .ok profile => (dumps (.obj (accountingClaim env args profile))).length ≤ 6111
    | .error _ => false

theorem accountable_of_check {env : Accounting.Env} {args : TokenArguments} (h : isAccountable env args = true) :
    Accountable env args := by
  unfold isAccountable at h
  simp only [Bool.and_eq_true, decide_eq_true_eq, List.all_eq_true] at h
  obtain ⟨⟨⟨⟨huser, hroute⟩, hascii⟩, hprices⟩, hsigned⟩ := h
  refine ⟨huser, hroute, hascii, ?_, ?_⟩
  · split at hsigned
    · rename_i profile hprofile
      exact ⟨profile, hprofile, of_decide_eq_true hsigned⟩
    · cases hsigned
  · rintro model hmodel key -
    rw [hmodel] at hprices
    exact of_decide_eq_true (List.all_eq_true.1 hprices key (by cases key <;> simp))

/-- The letters of ASCII, and a secret. -/
def exampleEnv : CandidatePool.Env :=
  { Accounting.environment "secret".toList (Vector.replicate 32 0) with
    sha256 := fun _ => Vector.replicate 32 0
    sameLetter := fun l c => l == c.toLower }

/-- A model that is scored. -/
def exampleModel : ScoredModel exampleEnv where
  model :=
    [("model_id", .str "gpt-5".toList), ("provider", .str "openai".toList), ("input_price_per_million", .int 1),
      ("output_price_per_million", .int 10), ("context_window", .int 128000), ("biencoder_score", .int 1)]
  biencoderScore := 1
  scored := rfl

/-- The call is in the root scope of a run, which has a dollar. -/
def exampleGiven : Given exampleEnv where
  authContext := .ok { userId := some "user-1".toList, routeId := none }
  options := .ok { request := { messages := [] }, supportedProviders := none }
  routing := .ok {
    chain := { rows := [(2, { parentScopeId := none, maxUsd := 1 })], nodup := List.nodup_singleton _ }
    chain_ne := List.cons_ne_nil _ _
    routeName := "Support".toList
    routeName_ne := by decide
    candidates := [exampleModel]
    prediction :=
      { predictedOutputTokens := 10
        effectiveTargetUsd := 1
        availableUsd := 1
        requestWeight := 1
        requestWeight_pos := one_pos
        document := .null }
    estimatedInputTokens := 10 }
  routingCallUuid := 4
  reservationUuid := 3

def exampleBody : RouteRequest where
  userId := "agent".toList
  routeId := "default".toList
  execute := some false
  workflowRunId := 1

def exampleRun : RunKey := { userId := "user-1", routeId := "default", runId := 1 }

def exampleStore : Store where
  runs := (∅ : Table.Dict RunKey Workflow.Run).insert exampleRun { rootScopeId := 2 }
  scopes := (∅ : Table.Dict Workflow.ScopeKey Workflow.Scope).insert ⟨exampleRun, 2⟩ { parentScopeId := none, maxUsd := 1 }

theorem committed_of_isSome {store store' : Store} {key : ReservationKey} (hbefore : store.reservations.lookup key = none)
    (hafter : (store'.reservations.lookup key).isSome = true) : ∃ reservation, Committed store store' key reservation := by
  obtain ⟨reservation, hreservation⟩ := Option.isSome_iff_exists.1 hafter
  exact ⟨reservation, hbefore, hreservation⟩

end Selection

end PromptRail
