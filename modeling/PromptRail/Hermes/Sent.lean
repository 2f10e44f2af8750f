import PromptRail.Hermes.Accounted
import PromptRail.Hermes.Requests
import PromptRail.StrictSchema

/-!
# What is sent for a candidate

Whatever an agent builds, what is sent for a candidate has one limit of its output, which is below the cap of the state and below every
limit that the call and the agent had. It names the selected model, it carries what the call had asked for, and its cache keys and
reasoning controls are such as the provider takes. A repair takes away what the error complains of, and nothing else.
-/

namespace PromptRail

open PyText (Text strip splitlines)
open Json (Value get? set truthy)
open Provider (field field_set orElse isPresent isText asDict)
open Outcome (bind_ok map_ok)

namespace Hermes

namespace Requests

variable {host : Host} {sha256 : List UInt8 → Vector UInt8 32}

/-! ## Fields -/

/-- `get?` of what is left of a dictionary. -/
theorem get?_pop (fields : Json.Fields) (keys : List String) (key : String) :
    get? (pop fields keys) key = if key ∈ keys then none else get? fields key := by
  unfold pop get?
  rw [List.find?_filter]
  split
  · rename_i hmem
    rw [Option.map_eq_none_iff, List.find?_eq_none]
    intro p _
    by_cases hp : p.1 = key
    · simp [hp, hmem]
    · simp [hp]
  · rename_i hmem
    congr 2
    funext p
    by_cases hp : p.1 = key
    · simp [hp, hmem]
    · simp [hp]

/-- A field that is there is present in `field`, and no other. -/
theorem field_eq (fields : Json.Fields) (key : String) : field fields key = (get? fields key).getD .null := rfl

/-! ## Limits -/

/-- A request has one limit of its output. -/
def Limited (request : Json.Fields) (limit : Int) : Prop :=
  ∃ key ∈ outputTokenKeys, get? request key = some (.int limit) ∧ ∀ other ∈ outputTokenKeys, other ≠ key → get? request other = none

theorem limited_withLimit (request : Json.Fields) {key : String} (h : key ∈ outputTokenKeys) (limit : Int) :
    Limited (withLimit request key limit) limit := by
  refine ⟨key, h, ?_, fun other hother hne => ?_⟩
  · rw [withLimit, Json.get?_set, if_pos rfl]
  · rw [withLimit, Json.get?_set, if_neg (Ne.symm hne), get?_pop, if_pos hother]

/-- A request that has the same limits. -/
theorem Limited.congr {request request' : Json.Fields} {limit : Int} (h : Limited request limit)
    (hsame : ∀ key ∈ outputTokenKeys, get? request' key = get? request key) : Limited request' limit := by
  obtain ⟨key, hkey, hlimit, hothers⟩ := h
  exact ⟨key, hkey, (hsame key hkey).trans hlimit, fun other hother hne => (hsame other hother).trans (hothers other hother hne)⟩

theorem pos_of_limit {value : Value} {label : String} {limit : Int} (h : positiveOutputTokenLimit host value label = .ok limit) :
    0 < limit := by
  unfold positiveOutputTokenLimit at h
  cases hvalue : float? host value with
  | error message =>
    rw [hvalue] at h
    cases h
  | ok number =>
    rw [hvalue] at h
    dsimp only at h
    split at h
    · cases h
    · rename_i hnumber
      rw [not_or, not_le] at hnumber
      cases h
      exact Rat.num_pos.2 hnumber.1

theorem pos_of_limits {values : List (String × Value)} {limits : List Int} (h : limitsOf host values = .ok limits) :
    ∀ limit ∈ limits, 0 < limit := by
  intro limit hlimit
  obtain ⟨p, -, hp⟩ := Outcome.mem_mapM h hlimit
  exact pos_of_limit hp

theorem lowest_le (limit : Int) (limits : List Int) : lowest limit limits ≤ limit := by
  induction limits generalizing limit with
  | nil => exact le_refl limit
  | cons first limits ih => exact (ih (min limit first)).trans (min_le_left limit first)

theorem lowest_le_of_mem (limit : Int) {limits : List Int} {other : Int} (h : other ∈ limits) : lowest limit limits ≤ other := by
  induction limits generalizing limit with
  | nil => cases h
  | cons first limits ih =>
    rcases List.mem_cons.1 h with rfl | hmem
    · exact (lowest_le (min limit other) limits).trans (min_le_right limit other)
    · exact ih (min limit first) hmem

theorem lowest_pos {limit : Int} {limits : List Int} (h : 0 < limit) (hs : ∀ other ∈ limits, 0 < other) : 0 < lowest limit limits := by
  induction limits generalizing limit with
  | nil => exact h
  | cons first limits ih =>
    have hfirst : 0 < min limit first := lt_min h (hs first List.mem_cons_self)
    exact ih hfirst fun other hother => hs other (List.mem_cons_of_mem _ hother)

/-- The limit of a call with a cap is positive, and no limit is below it. -/
theorem prepared_limit {state request base : Json.Fields} {agent agent' : AgentLimits} {limit : Option Int} {cap : Int}
    (h : prepareBenchmarkOutputLimit host state request agent = .ok (base, limit, agent'))
    (hcap : benchmarkOutputTokenCap host state = .ok (some cap)) :
    ∃ requestLimits agentLimits n, requestOutputTokenLimits host request = .ok requestLimits ∧
      agentOutputTokenLimits host agent = .ok agentLimits ∧ limit = some n ∧ 0 < n ∧ n ≤ cap ∧
      ∀ other ∈ requestLimits ++ agentLimits, n ≤ other := by
  have hpositive : 0 < cap := by
    unfold benchmarkOutputTokenCap at hcap
    split at hcap
    · split at hcap
      · obtain ⟨number, hnumber, heq⟩ := map_ok hcap
        cases heq
        exact pos_of_limit hnumber
      · cases hcap
    · cases hcap
  unfold prepareBenchmarkOutputLimit at h
  obtain ⟨found, hfound, h⟩ := bind_ok h
  rw [hcap] at hfound
  cases hfound
  obtain ⟨requestLimits, hrequest, h⟩ := bind_ok h
  obtain ⟨agentLimits, hagent, h⟩ := bind_ok h
  obtain ⟨clamped, -, h⟩ := bind_ok h
  cases h
  refine ⟨requestLimits, agentLimits, _, hrequest, hagent, rfl, ?_, lowest_le cap _, fun other hother => lowest_le_of_mem cap hother⟩
  refine lowest_pos hpositive fun other hother => ?_
  rcases List.mem_append.1 hother with hmem | hmem
  · exact pos_of_limits hrequest other hmem
  · exact pos_of_limits hagent other hmem

theorem mem_of_outputKey {builder : Builder} {limit : Int} {request : Json.Fields} {key : String}
    (h : providerOutputTokenKey builder limit request = .ok key) : key ∈ outputTokenKeys := by
  unfold providerOutputTokenKey at h
  split at h
  · cases h
    decide
  · split at h
    · obtain ⟨value, -, h⟩ := bind_ok h
      split at h
      · split at h
        · rename_i hkeys
          cases h
          exact List.mem_of_mem_filter (hkeys ▸ List.mem_singleton_self key)
        · cases h
      · cases h
    · split at h
      · rename_i hkeys
        cases h
        exact List.mem_of_mem_filter (hkeys ▸ List.mem_singleton_self key)
      · cases h
        decide

/-- What is enforced after the agent has rebuilt a request: one limit, not above the limit of the call. -/
theorem enforced_limit {builder : Builder} {request bounded : Json.Fields} {limit : Int} (hlimit : 0 < limit)
    (h : enforceRebuiltOutputLimit host builder request (some limit) = .ok bounded) :
    ∃ n, Limited bounded n ∧ 0 < n ∧ n ≤ limit := by
  unfold enforceRebuiltOutputLimit at h
  obtain ⟨limits, hlimits, h⟩ := bind_ok h
  obtain ⟨key, hkey, h⟩ := bind_ok h
  cases h
  exact ⟨_, limited_withLimit request (mem_of_outputKey hkey) _, lowest_pos hlimit (pos_of_limits hlimits), lowest_le limit limits⟩

/-! ## Cache keys and reasoning -/

theorem length_boundedKey {value : Value} {key : Text} (h : boundedOpenaiPromptCacheKey sha256 value = .str key) :
    key.length ≤ promptCacheKeyMaxChars := by
  unfold boundedOpenaiPromptCacheKey at h
  split at h
  · split at h
    · rename_i hshort
      cases h
      exact hshort
    · cases h
      have hopening : "lerouter-".toList.length = 9 := by decide
      simp only [List.length_append, List.length_take, hopening, promptCacheKeyMaxChars]
      omega
  · rename_i hnot
    subst h
    exact absurd rfl (hnot key)

theorem get?_boundKey (fields : Json.Fields) {key : String} (h : key ≠ "prompt_cache_key") :
    get? (boundKey sha256 fields) key = get? fields key := by
  unfold boundKey
  split
  · rw [Json.get?_set, if_neg (Ne.symm h)]
  · rfl

/-- The cache key of a dictionary is short. -/
def ShortKey (fields : Json.Fields) : Prop :=
  ∀ key, get? fields "prompt_cache_key" = some (.str key) → key.length ≤ promptCacheKeyMaxChars

theorem shortKey_boundKey (fields : Json.Fields) : ShortKey (boundKey sha256 fields) := by
  intro key h
  unfold boundKey at h
  split at h
  · rw [Json.get?_set, if_pos rfl] at h
    exact length_boundedKey (Option.some.inj h)
  · rename_i hnone
    rw [hnone] at h
    cases h

/-- The dictionaries of a request in which a provider looks for its options. -/
def containers (request : Json.Fields) : List Json.Fields := request :: (asDict (field request "extra_body")).toList

theorem extraBody_boundKeys {request entry : Json.Fields} (h : cleanText host.env (field entry "provider") = "openai".toList) :
    containers (boundOpenaiPromptCacheKeys host sha256 request entry) =
      boundOpenaiPromptCacheKeys host sha256 request entry ::
        ((asDict (field request "extra_body")).map (boundKey sha256)).toList := by
  have hextra : field (boundKey sha256 request) "extra_body" = field request "extra_body" := by
    rw [field_eq, get?_boundKey request (by decide), field_eq]
  unfold containers boundOpenaiPromptCacheKeys
  rw [if_neg (not_not.2 h)]
  dsimp only
  rw [hextra]
  cases hbody : field request "extra_body" with
  | obj extraBody =>
    dsimp only
    split
    · rw [field_set, if_pos rfl]
      rfl
    · rename_i hno
      have hsame : boundKey sha256 extraBody = extraBody := by
        unfold boundKey
        unfold hasKey at hno
        cases hkey : get? extraBody "prompt_cache_key" with
        | none => rfl
        | some key => simp [hkey] at hno
      rw [hextra, hbody]
      simp [asDict, hsame]
  | _ => simp [hextra, hbody, asDict]

/-- What is sent to OpenAI has short cache keys. -/
theorem shortKeys {request entry : Json.Fields} (h : cleanText host.env (field entry "provider") = "openai".toList) :
    ∀ container ∈ containers (boundOpenaiPromptCacheKeys host sha256 request entry), ShortKey container := by
  rw [extraBody_boundKeys h]
  intro container hcontainer
  rcases List.mem_cons.1 hcontainer with rfl | hextra
  · intro key hkey
    unfold boundOpenaiPromptCacheKeys at hkey
    rw [if_neg (not_not.2 h)] at hkey
    dsimp only at hkey
    have hbound : get? (boundKey sha256 request) "prompt_cache_key" = some (.str key) := by
      split at hkey
      · split at hkey
        · rwa [Json.get?_set, if_neg (by decide)] at hkey
        · exact hkey
      · exact hkey
    exact shortKey_boundKey request key hbound
  · obtain ⟨body, -, rfl⟩ := Option.map_eq_some_iff.1 (Option.mem_toList.1 hextra)
    exact shortKey_boundKey body

/-- A bounded cache key leaves the other fields of a request. -/
theorem get?_boundKeys {request entry : Json.Fields} {key : String} (h : key ≠ "prompt_cache_key" ∧ key ≠ "extra_body") :
    get? (boundOpenaiPromptCacheKeys host sha256 request entry) key = get? request key := by
  unfold boundOpenaiPromptCacheKeys
  split
  · rfl
  · dsimp only
    split
    · split
      · rw [Json.get?_set, if_neg (Ne.symm h.2), get?_boundKey request h.1]
      · exact get?_boundKey request h.1
    · exact get?_boundKey request h.1

theorem reasoningMismatch_congr {fields fields' : Json.Fields}
    (h : ∀ key ∈ ["reasoning", "reasoning_effort", "include_reasoning", "include"], field fields' key = field fields key) :
    reasoningMismatch host fields' = reasoningMismatch host fields := by
  unfold reasoningMismatch
  simp only [List.any_cons, List.any_nil, Bool.or_false]
  rw [h "reasoning" (by decide), h "reasoning_effort" (by decide), h "include_reasoning" (by decide), h "include" (by decide)]

theorem reasoningMismatch_boundKey (fields : Json.Fields) :
    reasoningMismatch host (boundKey sha256 fields) = reasoningMismatch host fields := by
  refine reasoningMismatch_congr fun key hkey => ?_
  have hother : key ≠ "prompt_cache_key" := by
    rintro rfl
    exact absurd hkey (by decide)
  rw [field_eq, get?_boundKey fields hother, field_eq]

/-- A request without a control that the model does not take still has none when its cache keys are bounded. -/
theorem unreasoned {request entry : Json.Fields} (h : ∀ container ∈ containers request, reasoningMismatch host container = none) :
    ∀ container ∈ containers (boundOpenaiPromptCacheKeys host sha256 request entry), reasoningMismatch host container = none := by
  by_cases hopenai : cleanText host.env (field entry "provider") = "openai".toList
  · rw [extraBody_boundKeys hopenai]
    intro container hcontainer
    rcases List.mem_cons.1 hcontainer with rfl | hextra
    · have hown : reasoningMismatch host (boundOpenaiPromptCacheKeys host sha256 request entry) = reasoningMismatch host request := by
        refine reasoningMismatch_congr fun key hkey => ?_
        have hothers : ∀ key ∈ ["reasoning", "reasoning_effort", "include_reasoning", "include"],
            key ≠ "prompt_cache_key" ∧ key ≠ "extra_body" := by
          decide
        rw [field_eq, get?_boundKeys (hothers key hkey), field_eq]
      rw [hown]
      exact h request List.mem_cons_self
    · obtain ⟨body, hbody, rfl⟩ := Option.map_eq_some_iff.1 (Option.mem_toList.1 hextra)
      rw [reasoningMismatch_boundKey]
      exact h body (List.mem_cons_of_mem _ (Option.mem_toList.2 hbody))
  · unfold boundOpenaiPromptCacheKeys
    rw [if_pos hopenai]
    exact h

/-! ## Entries -/

theorem get?_patchMessages (patch : List Value → List Value) (request : Json.Fields) {key : String} (h : key ≠ "messages") :
    get? (patchMessages patch request) key = get? request key := by
  unfold patchMessages
  split
  · rw [Json.get?_set, if_neg (Ne.symm h)]
  · rfl

theorem get?_applyEntry {request entry : Json.Fields} {routeName : Text} {key : String} (h : key ≠ "model" ∧ key ≠ "messages") :
    get? (applyEntry host request entry routeName) key = get? request key := by
  unfold applyEntry
  dsimp only
  split
  · rfl
  · split
    · rw [Json.get?_set, if_neg (Ne.symm h.1)]
    · rw [get?_patchMessages _ _ h.2, Json.get?_set, if_neg (Ne.symm h.1)]

theorem model_applyEntry {request entry : Json.Fields} {routeName : Text}
    (h : cleanText host.env (field entry "native_model_id") ≠ []) :
    get? (applyEntry host request entry routeName) "model" = some (.str (cleanText host.env (field entry "native_model_id"))) := by
  unfold applyEntry
  dsimp only
  rw [if_neg h]
  split
  · rw [Json.get?_set, if_pos rfl]
  · rw [get?_patchMessages _ _ (by decide), Json.get?_set, if_pos rfl]

theorem get?_activateRequest {request entry : Json.Fields} {key : String} (h : key ≠ "model" ∧ key ≠ "messages") :
    get? (activateRequest host request entry) key = get? request key := by
  unfold activateRequest
  rw [get?_patchMessages _ _ h.2, Json.get?_set, if_neg (Ne.symm h.1)]

/-! ## What is carried -/

/-- A key that a request has is in what it is carried into. -/
theorem isPresent_carried {base : Json.Fields} (keys : List String) {rebuilt : Json.Fields} {key : String}
    (h : isPresent (field rebuilt key) = true ∨ key ∈ keys ∧ isPresent (field base key) = true) :
    isPresent (field (keys.foldl (fun rebuilt key =>
      if isPresent (field base key) && !isPresent (field rebuilt key) then set rebuilt key (field base key) else rebuilt) rebuilt) key) =
        true := by
  induction keys generalizing rebuilt with
  | nil =>
    rcases h with hthere | ⟨hmem, -⟩
    · exact hthere
    · cases hmem
  | cons first keys ih =>
    refine ih ?_
    dsimp only
    rcases h with hthere | ⟨hmem, hbase⟩
    · left
      split
      · rename_i hcarried
        rw [field_set]
        split
        · rename_i heq
          rw [← heq] at hthere
          simp [hthere] at hcarried
        · exact hthere
      · exact hthere
    · rcases List.mem_cons.1 hmem with rfl | hrest
      · left
        split
        · rw [field_set, if_pos rfl]
          exact hbase
        · rename_i hcarried
          simpa [hbase] using hcarried
      · exact Or.inr ⟨hrest, hbase⟩

theorem isPresent_carry {base rebuilt : Json.Fields} {key : String} (h : key ∈ carriedKeys) (hbase : isPresent (field base key) = true) :
    isPresent (field (carry base rebuilt) key) = true :=
  isPresent_carried carriedKeys (Or.inr ⟨h, hbase⟩)

/-- What an agent rebuilds carries what the call had asked for. -/
theorem rebuilt_carries {builder : Builder} {agent : AgentLimits} {base request : Json.Fields}
    (h : rebuildRequestForActiveAgent host builder agent base = .ok request) {key : String} (hkey : key ∈ carriedKeys)
    (hbase : isPresent (field base key) = true) : isPresent (field request key) = true := by
  unfold rebuildRequestForActiveAgent at h
  split at h
  · cases h
  · split at h
    · rename_i messages _ request' hrebuilt
      cases h
      obtain ⟨value, -, hbuilt⟩ := bind_ok hrebuilt
      split at hbuilt
      · dsimp only at hbuilt
        split at hbuilt
        · obtain ⟨checked, -, heq⟩ := bind_ok hbuilt
          cases heq
          exact isPresent_carry hkey hbase
        · cases hbuilt
          exact isPresent_carry hkey hbase
      · cases hbuilt
    · cases h

/-- The limit that is enforced leaves the other fields of a request. -/
theorem field_enforced {builder : Builder} {request bounded : Json.Fields} {limit : Option Int}
    (h : enforceRebuiltOutputLimit host builder request limit = .ok bounded) {key : String} (hkey : key ∉ outputTokenKeys) :
    field bounded key = field request key := by
  cases limit with
  | none =>
    cases h
    rfl
  | some limit =>
    obtain ⟨limits, -, h⟩ := bind_ok h
    obtain ⟨name, hname, h⟩ := bind_ok h
    cases h
    have hne : name ≠ key := by
      rintro rfl
      exact hkey (mem_of_outputKey hname)
    rw [withLimit, field_set, if_neg hne, field_eq, get?_pop, if_neg hkey, field_eq]

theorem applied_eq {request applied entry : Json.Fields} (h : applyReasoningCapability host request entry = .ok applied) :
    applied = request ∧ (field entry "supports_reasoning_effort" = .bool false →
      ∀ container ∈ containers request, reasoningMismatch host container = none) := by
  unfold applyReasoningCapability at h
  split at h
  · split at h
    · cases h
    · rename_i hnone
      cases h
      exact ⟨rfl, fun _ container hcontainer => List.findSome?_eq_none_iff.1 hnone container hcontainer⟩
  · rename_i hsupports
    cases h
    exact ⟨rfl, fun hfalse => absurd hfalse (hsupports)⟩

theorem applyReasoning_of {request entry : Json.Fields} (h : field entry "supports_reasoning_effort" = .bool false →
      ∀ container ∈ containers request, reasoningMismatch host container = none) :
    applyReasoningCapability host request entry = .ok request := by
  unfold applyReasoningCapability
  split
  · rename_i hfalse
    have hnone : (containers request).findSome? (reasoningMismatch host) = none := List.findSome?_eq_none_iff.2 (h hfalse)
    unfold containers at hnone
    rw [hnone]
  · rfl

/-! ## What is sent -/

/-- The note that a request carries is no reason to refuse it. -/
theorem containers_applyEntry {request entry : Json.Fields} {routeName : Text} :
    (containers (applyEntry host request entry routeName)).map (reasoningMismatch host) =
      (containers request).map (reasoningMismatch host) := by
  have hextra : field (applyEntry host request entry routeName) "extra_body" = field request "extra_body" := by
    rw [field_eq, get?_applyEntry (by decide), field_eq]
  have hown : reasoningMismatch host (applyEntry host request entry routeName) = reasoningMismatch host request := by
    refine reasoningMismatch_congr fun key hkey => ?_
    have hothers : ∀ key ∈ ["reasoning", "reasoning_effort", "include_reasoning", "include"], key ≠ "model" ∧ key ≠ "messages" := by
      decide
    rw [field_eq, get?_applyEntry (hothers key hkey), field_eq]
  unfold containers
  rw [List.map_cons, List.map_cons, hown, hextra]

theorem containers_applyEntryToRequest {request entry : Json.Fields} :
    (containers (applyEntryToRequest host request entry)).map (reasoningMismatch host) =
      (containers request).map (reasoningMismatch host) := by
  unfold applyEntryToRequest
  split
  · rfl
  · have hown : reasoningMismatch host (set request "model" (.str (cleanText host.env (field entry "native_model_id")))) =
        reasoningMismatch host request := by
      refine reasoningMismatch_congr fun key hkey => ?_
      have hothers : ∀ key ∈ ["reasoning", "reasoning_effort", "include_reasoning", "include"], "model" ≠ key := by
        decide
      rw [field_set, if_neg (hothers key hkey)]
    unfold containers
    rw [List.map_cons, List.map_cons, hown, field_set, if_neg (by decide)]

/-- Where the agent of the middleware rebuilds a request so, what the middleware prepares for a candidate is what is sent, but for its
messages and cache keys. -/
theorem candidateRequest_of_prepared {index : Nat} {limit : Option Int} {retryRequest entry rebuilt bounded request : Json.Fields}
    {builder : Builder} {clamped : AgentLimits} {agent : Agent} (routeName : Text)
    (hclamped : clampAgentOutputTokens host builder.limits limit = .ok clamped)
    (hrebuilt : rebuildRequestForActiveAgent host builder clamped (activateRequest host retryRequest entry) = .ok rebuilt)
    (hbounded : enforceRebuiltOutputLimit host builder rebuilt limit = .ok bounded) (hhost : host.rebuild index = .ok ⟨bounded, agent⟩)
    (h : prepareRequest host index entry = .ok request) :
    candidateRequest host sha256 limit retryRequest entry builder routeName =
      .ok (boundOpenaiPromptCacheKeys host sha256 (applyEntry host bounded entry routeName) entry) := by
  obtain ⟨prepared, hprepared, h⟩ := bind_ok h
  rw [hhost] at hprepared
  cases hprepared
  obtain ⟨applied, happlied, -⟩ := bind_ok h
  obtain ⟨rfl, hnone⟩ := applied_eq happlied
  have hreasoning : applyReasoningCapability host (applyEntry host bounded entry routeName) entry =
      .ok (applyEntry host bounded entry routeName) := by
    refine applyReasoning_of fun hfalse => ?_
    have hprepared : ∀ mismatch ∈ (containers bounded).map (reasoningMismatch host), mismatch = none := by
      rw [← @containers_applyEntryToRequest host bounded entry]
      exact List.forall_mem_map.2 (hnone hfalse)
    rw [← @containers_applyEntry host bounded entry routeName] at hprepared
    exact List.forall_mem_map.1 hprepared
  unfold candidateRequest
  rw [hclamped, Outcome.ok_bind, hrebuilt, Outcome.ok_bind, hbounded, Outcome.ok_bind, hreasoning, Outcome.ok_bind]
  rfl

/-- A call with a cap of five hundred tokens, a limit of its own, and a tool. -/
def cappedState : Json.Fields := [("benchmark", .obj [("max_output_tokens_per_call", .int 500)])]

def cappedCall : Json.Fields := [("max_tokens", .int 900), ("tools", .arr [.obj []]), ("messages", .arr [])]

/-- An agent with a lower limit, which writes a limit and a cache key of its own into what it builds. -/
def cappedBuilder : Builder where
  limits := { maxTokens := some (.int 400), ephemeralMaxOutputTokens := none }
  apiMode := .str "chat_completions".toList
  apiMessages := some []
  buildApiKwargs _ _ := .ok (.obj [("messages", .arr []), ("max_completion_tokens", .int 800),
    ("prompt_cache_key", .str "session".toList)])
  preflightKwargs request := .ok request

def plainHost : Host := AccountedExample.host [] []

/-- A digest that no call of this example needs. -/
def noDigest (_ : List UInt8) : Vector UInt8 32 := Vector.replicate 32 0

/-- What is sent for the call. -/
def cappedRequest : Except Exn Json.Fields := do
  let prepared ← prepareBenchmarkOutputLimit plainHost cappedState cappedCall cappedBuilder.limits
  candidateRequest plainHost noDigest prepared.2.1 prepared.1 AccountedExample.entry cappedBuilder []

/-- Whether a field is a number. -/
def isInt (n : Int) : Option Value → Bool
  | some (.int m) => m == n
  | _ => false

/-- The keys that a repair for a text takes away. -/
def repairedKeys (text : Text) : List String := (if hasMarker text "reasoning" then reasoningKeys else []) ++ complainedKeys text

/-- What a repair for a text makes of the extra body. -/
def repairedBody (text : Text) : Value → Value
  | .obj extra => .obj (if hasMarker text "reasoning" then pop extra reasoningKeys else extra)
  | value => value

/-- A dictionary without the keys is left as it is. -/
theorem pop_of_none {fields : Json.Fields} {keys : List String} (h : ∀ key ∈ keys, get? fields key = none) : pop fields keys = fields := by
  unfold pop
  rw [List.filter_eq_self]
  intro p hp
  by_contra hcontains
  simp only [Bool.not_eq_true', Bool.not_eq_false, List.contains_iff_mem] at hcontains
  have hnone := h p.1 hcontains
  rw [get?, Option.map_eq_none_iff, List.find?_eq_none] at hnone
  exact hnone p hp (beq_self_eq_true p.1)

theorem removeKeys_of_none {report : String} {fields : Json.Fields} {keys : List String} (h : ∀ key ∈ keys, get? fields key = none) :
    removeKeys report keys fields = (fields, []) := by
  unfold removeKeys
  rw [pop_of_none h]
  simp only [Prod.mk.injEq, List.map_eq_nil_iff, List.filter_eq_nil_iff, true_and]
  intro key hkey
  simp [hasKey, h key hkey]

theorem get?_repairExtraBody (request : Json.Fields) {key : String} (h : key ≠ "extra_body") :
    get? (repairExtraBody request).1 key = get? request key := by
  unfold repairExtraBody
  split
  · rw [Json.get?_set, if_neg (Ne.symm h)]
  · rfl

theorem extraBody_repairExtraBody (request : Json.Fields) :
    get? (repairExtraBody request).1 "extra_body" = (get? request "extra_body").map fun body => match body with
      | .obj extra => .obj (pop extra reasoningKeys)
      | body => body := by
  unfold repairExtraBody
  rw [field_eq]
  cases hbody : get? request "extra_body" with
  | none => simp [hbody]
  | some body =>
    cases body with
    | obj extra => simp [Json.get?_set, removeKeys]
    | _ => simp [hbody]

theorem mem_of_mem_ite {c : Bool} {keys : List String} {key : String} (h : key ∈ if c then keys else []) : key ∈ keys := by
  split at h
  · exact h
  · cases h

/-- The keys that a repair takes away beside the reasoning controls. -/
def otherKeys : List String := ["tools", "tool_choice", "response_format"] ++ outputTokenKeys

theorem mem_otherKeys {text : Text} {key : String} (h : key ∈ complainedKeys text) : key ∈ otherKeys := by
  rcases List.mem_append.1 h with h | h
  · rcases List.mem_append.1 h with h | h
    · have hsub : ["tools", "tool_choice"] ⊆ otherKeys := by decide
      exact hsub (mem_of_mem_ite h)
    · have hsub : ["response_format"] ⊆ otherKeys := by decide
      exact hsub (mem_of_mem_ite h)
  · have hsub : outputTokenKeys ⊆ otherKeys := by decide
    exact hsub (mem_of_mem_ite h)

theorem get?_repairReasoning (request : Json.Fields) (text : Text) {key : String} (h : key ≠ "extra_body") :
    get? (repairReasoning request text).1 key =
      if key ∈ (if hasMarker text "reasoning" then reasoningKeys else []) then none else get? request key := by
  unfold repairReasoning
  split
  · dsimp only
    rw [get?_repairExtraBody _ h, removeKeys, get?_pop]
  · simp

theorem extraBody_repairReasoning (request : Json.Fields) (text : Text) :
    get? (repairReasoning request text).1 "extra_body" = (get? request "extra_body").map (repairedBody text) := by
  unfold repairReasoning
  split
  · rename_i hreasoning
    dsimp only
    rw [extraBody_repairExtraBody, removeKeys, get?_pop, if_neg (by decide)]
    congr 1
    funext body
    cases body <;> simp [repairedBody, hreasoning]
  · rename_i hreasoning
    cases hbody : get? request "extra_body" with
    | none => rfl
    | some body => cases body <;> simp [repairedBody, hreasoning]

theorem get?_repaired (request : Json.Fields) (text : Text) {key : String} (h : key ≠ "extra_body") :
    get? (repairProtocolRequest request text).1 key = if key ∈ repairedKeys text then none else get? request key := by
  unfold repairProtocolRequest repairedKeys
  dsimp only
  rw [removeKeys, get?_pop, get?_repairReasoning request text h]
  simp only [List.mem_append]
  split
  · rename_i hother
    rw [if_pos (Or.inr hother)]
  · rename_i hother
    simp [hother]

theorem extraBody_repaired (request : Json.Fields) (text : Text) :
    get? (repairProtocolRequest request text).1 "extra_body" = (get? request "extra_body").map (repairedBody text) := by
  unfold repairProtocolRequest
  dsimp only
  rw [removeKeys, get?_pop, extraBody_repairReasoning, if_neg fun hmem => absurd (mem_otherKeys hmem) (by decide)]

/-- The names under which the keys are reported are told apart. -/
theorem reports_distinct : ∀ key ∈ reasoningKeys ++ otherKeys,
    (∀ other ∈ reasoningKeys ++ otherKeys, "remove_" ++ other = "remove_" ++ key → other = key) ∧
      ∀ other ∈ reasoningKeys, "remove_extra_body_" ++ other ≠ "remove_" ++ key := by
  decide

/-- What a repair of some keys reports. -/
theorem mem_removed {fields : Json.Fields} {keys : List String} {key : String} (hkey : key ∈ reasoningKeys ++ otherKeys)
    (hkeys : keys ⊆ reasoningKeys ++ otherKeys) :
    "remove_" ++ key ∈ (removeKeys "remove_" keys fields).2 ↔ key ∈ keys ∧ (get? fields key).isSome := by
  unfold removeKeys
  rw [List.mem_map]
  constructor
  · rintro ⟨other, hother, heq⟩
    obtain ⟨hmem, hthere⟩ := List.mem_filter.1 hother
    obtain rfl := (reports_distinct key hkey).1 other (hkeys hmem) heq
    exact ⟨hmem, hthere⟩
  · rintro ⟨hmem, hthere⟩
    exact ⟨key, List.mem_filter.2 ⟨hmem, hthere⟩, rfl⟩

theorem mem_repairReasoning {request : Json.Fields} {text : Text} {key : String} (hkey : key ∈ reasoningKeys ++ otherKeys) :
    "remove_" ++ key ∈ (repairReasoning request text).2 ↔
      (hasMarker text "reasoning" = true ∧ key ∈ reasoningKeys) ∧ (get? request key).isSome := by
  unfold repairReasoning
  split
  · rename_i hreasoning
    dsimp only
    rw [List.mem_append, mem_removed hkey (List.subset_append_left _ _)]
    constructor
    · rintro (hremoved | hextra)
      · exact ⟨⟨hreasoning, hremoved.1⟩, hremoved.2⟩
      · unfold repairExtraBody at hextra
        split at hextra
        · obtain ⟨other, hother, heq⟩ := List.mem_map.1 hextra
          exact absurd heq ((reports_distinct key hkey).2 other (List.mem_of_mem_filter hother))
        · cases hextra
    · rintro ⟨⟨-, hmem⟩, hthere⟩
      exact Or.inl ⟨hmem, hthere⟩
  · rename_i hreasoning
    simp [hreasoning]

theorem reasoning_not_other : ∀ key ∈ otherKeys, key ∉ reasoningKeys ∧ key ≠ "extra_body" := by decide

theorem reasoning_ne_extraBody : ∀ key ∈ reasoningKeys, key ≠ "extra_body" := by decide

/-- What is repaired has nothing of the extra body to repair. -/
theorem repairExtraBody_of_repaired {request : Json.Fields} {text : Text} (hreasoning : hasMarker text "reasoning" = true) :
    repairExtraBody (repairProtocolRequest request text).1 = ((repairProtocolRequest request text).1, []) := by
  unfold repairExtraBody
  split
  · rename_i extra hextra
    rw [field_eq, extraBody_repaired] at hextra
    cases hbody : get? request "extra_body" with
    | none =>
      rw [hbody] at hextra
      cases hextra
    | some body =>
      rw [hbody] at hextra
      cases body with
      | obj before =>
        simp only [Option.map_some, repairedBody, hreasoning, if_true, Option.getD_some, Value.obj.injEq] at hextra
        have hnone : ∀ key ∈ reasoningKeys, get? extra key = none := by
          intro key hkey
          rw [← hextra, get?_pop, if_pos hkey]
        have hthere : get? (repairProtocolRequest request text).1 "extra_body" = some (.obj extra) := by
          rw [extraBody_repaired, hbody]
          simp [repairedBody, hreasoning, hextra]
        simp only [removeKeys_of_none hnone, StrictSchema.set_self hthere]
      | null | bool | int | float | str | arr => cases hextra
  · rfl

theorem complainedKeys_subset (text : Text) : complainedKeys text ⊆ reasoningKeys ++ otherKeys := fun _ hkey =>
  List.mem_append_right _ (mem_otherKeys hkey)

/-- A key that is repaired is reported exactly if it was there. -/
theorem mem_reported {request : Json.Fields} {text : Text} {key : String} (hkey : key ∈ repairedKeys text) :
    "remove_" ++ key ∈ (repairProtocolRequest request text).2 ↔ (get? request key).isSome := by
  have hall : key ∈ reasoningKeys ++ otherKeys := by
    rcases List.mem_append.1 hkey with hmem | hmem
    · exact List.mem_append_left _ (mem_of_mem_ite hmem)
    · exact complainedKeys_subset text hmem
  have hreport : "remove_" ++ key ∈ (repairProtocolRequest request text).2 ↔
      ((hasMarker text "reasoning" = true ∧ key ∈ reasoningKeys) ∧ (get? request key).isSome) ∨
        (key ∈ complainedKeys text ∧ (get? (repairReasoning request text).1 key).isSome) := by
    rw [repairProtocolRequest, List.mem_append, mem_repairReasoning hall, mem_removed hall (complainedKeys_subset text)]
  rw [hreport]
  rcases List.mem_append.1 hkey with hmem | hmem
  · have hreasoning : hasMarker text "reasoning" = true := by
      by_contra hno
      rw [if_neg hno] at hmem
      cases hmem
    have hown := mem_of_mem_ite hmem
    constructor
    · rintro (hthere | ⟨hother, -⟩)
      · exact hthere.2
      · exact absurd hown (reasoning_not_other key (mem_otherKeys hother)).1
    · exact fun hthere => Or.inl ⟨⟨hreasoning, hown⟩, hthere⟩
  · obtain ⟨hnot, hne⟩ := reasoning_not_other key (mem_otherKeys hmem)
    have hsame : get? (repairReasoning request text).1 key = get? request key := by
      rw [get?_repairReasoning request text hne, if_neg fun hin => hnot (mem_of_mem_ite hin)]
    rw [hsame]
    constructor
    · rintro (hthere | hthere)
      · exact hthere.2
      · exact hthere.2
    · exact fun hthere => Or.inr ⟨hmem, hthere⟩

/-- A second repair finds nothing to do. -/
theorem repaired_again (request : Json.Fields) (text : Text) :
    repairProtocolRequest (repairProtocolRequest request text).1 text = ((repairProtocolRequest request text).1, []) := by
  have hnone : ∀ key ∈ repairedKeys text, key ≠ "extra_body" → get? (repairProtocolRequest request text).1 key = none := by
    intro key hkey hne
    rw [get?_repaired request text hne, if_pos hkey]
  have hreasoned : repairReasoning (repairProtocolRequest request text).1 text = ((repairProtocolRequest request text).1, []) := by
    unfold repairReasoning
    split
    · rename_i hreasoning
      have hreasoningNone : ∀ key ∈ reasoningKeys, get? (repairProtocolRequest request text).1 key = none := by
        intro key hkey
        refine hnone key (List.mem_append_left _ ?_) (reasoning_ne_extraBody key hkey)
        rw [if_pos hreasoning]
        exact hkey
      simp only [removeKeys_of_none hreasoningNone, repairExtraBody_of_repaired hreasoning, List.append_nil]
    · rfl
  have hothers : ∀ key ∈ complainedKeys text, get? (repairProtocolRequest request text).1 key = none := fun key hkey =>
    hnone key (List.mem_append_right _ hkey) (reasoning_not_other key (mem_otherKeys hkey)).2
  conv_lhs => rw [repairProtocolRequest]
  simp only [hreasoned, removeKeys_of_none hothers, List.append_nil]

/-- A repair for the text of an error. The keys that the error complains of are gone, and each is reported if it was there; the extra body
is without its reasoning controls if these are meant; everything else is as it was, and a second repair finds nothing to do. -/
theorem repaired_request (request : Json.Fields) (text : Text) :
    (∀ key, key ≠ "extra_body" →
      get? (repairProtocolRequest request text).1 key = if key ∈ repairedKeys text then none else get? request key) ∧
      get? (repairProtocolRequest request text).1 "extra_body" = (get? request "extra_body").map (repairedBody text) ∧
      (∀ key ∈ repairedKeys text, "remove_" ++ key ∈ (repairProtocolRequest request text).2 ↔ (get? request key).isSome) ∧
      repairProtocolRequest (repairProtocolRequest request text).1 text = ((repairProtocolRequest request text).1, []) := by
  refine ⟨fun key hkey => get?_repaired request text hkey, extraBody_repaired request text, fun key hkey => mem_reported hkey, ?_⟩
  exact repaired_again request text

end Requests

end Hermes

end PromptRail
