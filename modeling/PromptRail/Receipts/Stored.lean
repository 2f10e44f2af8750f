import PromptRail.Receipts

/-!
# What a stored receipt is

The numbers of a receipt and the checks they passed, and two things that nothing checks: that the latency of the shadow decision is a
number, and that an assignment under the name of a candidate makes a field. What a receipt says depends on the named fields alone.
-/

namespace PromptRail.Receipts

open PyText (Text)
open Js (Value Double)

/-- The numbers of a receipt, those of its attempts and of its shadow decision included. -/
def Receipt.numbers (receipt : Receipt) : List Double :=
  receipt.attempts.map Attempt.latencyMs ++
    [receipt.inputTokens, receipt.outputTokens, receipt.estimatedCostUsd, receipt.decisionLatencyMs, receipt.preDispatchLatencyMs,
      receipt.totalLatencyMs] ++
    match receipt.shadowDecision with
    | some shadow => shadow.predictedSuccess.map Prod.snd ++ [shadow.decisionLatencyMs]
    | none => []

/-- A number that a probability may be. -/
def IsProbability : Double → Prop
  | .finite q => 0 ≤ q ∧ q ≤ 1
  | _ => False

structure ShadowDecision.WellFormed (shadow : ShadowDecision) : Prop where
  predictions : ∀ p ∈ shadow.predictedSuccess, IsProbability p.2
  entries : ∀ id, id ∈ shadow.candidateIds ↔ (shadow.capacityClasses.lookup id).isSome = true
  classes : ∀ p ∈ shadow.capacityClasses, p.2 ∈ CAPACITY_CLASSES
  selected : shadow.selectedHypotheticalRoute ∈ shadow.candidateIds

structure Receipt.WellFormed (receipt : Receipt) : Prop where
  numbers : ∀ n ∈ receipt.numbers, n.Counts
  shadow : ∀ shadow, receipt.shadowDecision = some shadow → shadow.WellFormed

/-! ## Bodies that differ in unnamed fields -/

def bodyNames : List String :=
  ["capacity_class", "route_id", "tenant_id", "policy_version", "catalog_version", "selected_model", "executed_model", "premium_used",
    "degraded_free_only", "input_tokens", "output_tokens", "estimated_cost_usd", "decision_latency_ms", "pre_dispatch_latency_ms",
    "total_latency_ms"]

def attemptNames : List String := ["provider", "connection_id_hash", "result", "dispatched", "latency_ms"]

def shadowNames : List String :=
  ["candidate_ids", "capacity_classes", "predicted_success", "capability_rejection_reasons", "selected_hypothetical_route",
    "policy_version", "decision_latency_ms"]

/-- Two values that are one, or objects that differ in no field of a name. -/
def SameFields (names : List String) (value value' : Value) : Prop :=
  value = value' ∨
    ∃ fields fields', value = .obj fields ∧ value' = .obj fields' ∧ ∀ name ∈ names, value.field name = value'.field name

/-- Two lists of attempts that differ in no named field of an attempt. -/
def SameAttempts (value value' : Value) : Prop :=
  value = value' ∨ ∃ xs xs', value = .arr xs ∧ value' = .arr xs' ∧ List.Forall₂ (SameFields attemptNames) xs xs'

/-- Two bodies that differ in fields the sanitizer does not name, at the top, in attempts and in the shadow decision. -/
def SameNamed (body body' : Value) : Prop :=
  SameFields bodyNames body body' ∧ SameAttempts (body.field "attempts") (body'.field "attempts") ∧
    SameFields shadowNames (body.field "shadow_decision") (body'.field "shadow_decision")

/-- A shadow decision that has a number for its latency, or none, and no candidate of the name of the prototype. -/
structure SoundShadow (input : Value) : Prop where
  latency : ∀ n, Js.number ((input.field "decision_latency_ms").or (.number ['0'])) = .ok n → n ≠ .nan ∧ n ≠ .infinity false
  candidates : ∀ ids texts, input.field "candidate_ids" = .arr ids → ids.mapM Js.string = .ok texts →
    Js.protoName ∉ texts.eraseDups.take 50

/-- A body without a shadow decision, or with a sound one. -/
def Sound (body : Value) : Prop := ∀ fields, body.field "shadow_decision" = .obj fields → SoundShadow (.obj fields)

namespace StoredAux

/-! ## Checks -/

theorem capacityClassOf_ok {input : Value} {id t : Text} (h : capacityClassOf input id = .ok t) : t ∈ CAPACITY_CLASSES := by
  obtain ⟨t', -, h⟩ := Outcome.bind_ok h
  obtain ⟨hknown, h⟩ := Outcome.check_ok_iff.1 h
  cases h
  exact not_not.1 hknown

theorem predictionOf_ok {input : Value} {id : Text} {n : Double} (h : predictionOf input id = .ok (some n)) : IsProbability n := by
  unfold predictionOf at h
  split at h
  · obtain ⟨n', -, h⟩ := Outcome.bind_ok h
    obtain ⟨hrange, h⟩ := Outcome.check_ok_iff.1 h
    cases h
    push Not at hrange
    cases n with
    | finite q => simpa [Double.lt, IsProbability] using hrange.2
    | _ => exact absurd rfl hrange.1
  · cases h

theorem finiteNonNegative_ok {value : Value} {field : String} {n : Double} (h : finiteNonNegative value field = .ok n) : n.Counts := by
  obtain ⟨n', -, h⟩ := Outcome.bind_ok h
  obtain ⟨hrange, h⟩ := Outcome.check_ok_iff.1 h
  cases h
  rw [not_or, Bool.not_eq_false, Bool.not_eq_true] at hrange
  exact Double.counts_iff.2 hrange

theorem attemptOf_ok {value : Value} {attempt : Attempt} (h : attemptOf value = .ok attempt) : attempt.latencyMs.Counts := by
  obtain ⟨_, -, h⟩ := Outcome.bind_ok h
  obtain ⟨_, -, h⟩ := Outcome.bind_ok h
  obtain ⟨_, -, h⟩ := Outcome.bind_ok h
  obtain ⟨latency, hlatency, h⟩ := Outcome.bind_ok h
  cases h
  exact finiteNonNegative_ok hlatency

/-! ## The loop over the candidates -/

/-- What holds of the two objects that the loop fills. -/
structure Checked (candidates : Candidates) : Prop where
  classes : ∀ p ∈ candidates.capacityClasses, p.2 ∈ CAPACITY_CLASSES
  predictions : ∀ p ∈ candidates.predictedSuccess, IsProbability p.2

theorem addCandidate_ok {input : Value} {candidates candidates' : Candidates} {id : Text}
    (h : addCandidate input candidates id = .ok candidates') :
    ∃ t, t ∈ CAPACITY_CLASSES ∧ candidates'.capacityClasses = Js.assign candidates.capacityClasses id t ∧
      (candidates'.predictedSuccess = candidates.predictedSuccess ∨
        ∃ n, IsProbability n ∧ candidates'.predictedSuccess = Js.assign candidates.predictedSuccess id n) := by
  obtain ⟨t, ht, h⟩ := Outcome.bind_ok h
  obtain ⟨prediction, hprediction, h⟩ := Outcome.bind_ok h
  cases h
  refine ⟨t, capacityClassOf_ok ht, rfl, ?_⟩
  cases prediction with
  | none => exact Or.inl rfl
  | some n => exact Or.inr ⟨n, predictionOf_ok hprediction, rfl⟩

theorem checked_addCandidate {input : Value} {candidates candidates' : Candidates} {id : Text} (hchecked : Checked candidates)
    (h : addCandidate input candidates id = .ok candidates') : Checked candidates' := by
  obtain ⟨t, ht, hclasses, hpredictions⟩ := addCandidate_ok h
  constructor
  · intro p hp
    rw [hclasses] at hp
    rcases Js.mem_assign hp with hvalue | hmem
    · rw [hvalue]
      exact ht
    · exact hchecked.classes p hmem
  · intro p hp
    rcases hpredictions with hsame | ⟨n, hn, hassign⟩
    · rw [hsame] at hp
      exact hchecked.predictions p hp
    · rw [hassign] at hp
      rcases Js.mem_assign hp with hvalue | hmem
      · rw [hvalue]
        exact hn
      · exact hchecked.predictions p hmem

/-- The loop makes an entry for each candidate, unless it has the name of the prototype. -/
theorem entries_foldlM {input : Value} {candidates candidates' : Candidates} {ids : List Text}
    (h : ids.foldlM (addCandidate input) candidates = .ok candidates') (id : Text) :
    (candidates'.capacityClasses.lookup id).isSome = true ↔
      (candidates.capacityClasses.lookup id).isSome = true ∨ id ∈ ids ∧ id ≠ Js.protoName := by
  induction ids generalizing candidates with
  | nil =>
    cases h
    simp
  | cons id' ids ih =>
    rw [List.foldlM_cons] at h
    obtain ⟨next, hnext, h⟩ := Outcome.bind_ok h
    obtain ⟨t, -, hclasses, -⟩ := addCandidate_ok hnext
    rw [ih h, hclasses, Js.lookup_assign]
    split
    · rename_i hassigned
      obtain ⟨rfl, hname⟩ := hassigned
      simp [hname]
    · rename_i hassigned
      have hother : id = id' → id = Js.protoName := fun heq => by
        by_contra hname
        exact hassigned ⟨heq, heq ▸ hname⟩
      rw [List.mem_cons]
      constructor
      · exact Or.imp_right fun hmem => ⟨Or.inr hmem.1, hmem.2⟩
      · rintro (hsome | ⟨heq | hmem, hname⟩)
        · exact Or.inl hsome
        · exact absurd (hother heq) hname
        · exact Or.inr ⟨hmem, hname⟩

/-! ## The shadow decision -/

/-- What is known of a shadow decision that was made of an object. -/
theorem shadowDecisionOf_ok {input : Value} {shadow : ShadowDecision} (h : shadowDecisionOf input = .ok shadow) :
    candidateIdsOf input = .ok shadow.candidateIds ∧
      (∃ candidates, shadow.candidateIds.foldlM (addCandidate input) {} = .ok candidates ∧
        shadow.capacityClasses = candidates.capacityClasses ∧ shadow.predictedSuccess = candidates.predictedSuccess) ∧
      shadow.selectedHypotheticalRoute ∈ shadow.candidateIds ∧
      ∃ n, Js.number ((input.field "decision_latency_ms").or (.number ['0'])) = .ok n ∧
        shadow.decisionLatencyMs = Double.max (.finite 0) n := by
  obtain ⟨ids, hids, h⟩ := Outcome.bind_ok h
  obtain ⟨candidates, hcandidates, h⟩ := Outcome.bind_ok h
  obtain ⟨reasons, -, h⟩ := Outcome.bind_ok h
  obtain ⟨selected, -, h⟩ := Outcome.bind_ok h
  obtain ⟨hselected, h⟩ := Outcome.check_ok_iff.1 h
  obtain ⟨version, -, h⟩ := Outcome.bind_ok h
  obtain ⟨n, hn, h⟩ := Outcome.bind_ok h
  cases h
  exact ⟨hids, ⟨candidates, hcandidates, rfl, rfl⟩, not_not.1 hselected, n, hn, rfl⟩

theorem candidateIdsOf_ok {input : Value} {ids : List Text} (h : candidateIdsOf input = .ok ids) :
    (∃ xs texts, input.field "candidate_ids" = .arr xs ∧ xs.mapM Js.string = .ok texts ∧ ids = texts.eraseDups.take 50) ∨
      ids = [] := by
  unfold candidateIdsOf at h
  split at h
  · rename_i xs hxs
    obtain ⟨texts, htexts, h⟩ := Outcome.map_ok h
    exact Or.inl ⟨xs, texts, hxs, htexts, h⟩
  · cases h
    exact Or.inr rfl

/-- A shadow decision is well formed, and its latency a count, exactly where what it was made of is sound. -/
theorem shadow_wellFormed_iff {input : Value} {shadow : ShadowDecision} (h : shadowDecisionOf input = .ok shadow) :
    (shadow.WellFormed ∧ shadow.decisionLatencyMs.Counts) ↔ SoundShadow input := by
  obtain ⟨hids, ⟨candidates, hloop, hclasses, hpredictions⟩, hselected, n, hn, hlatency⟩ := shadowDecisionOf_ok h
  have hentries : ∀ id, (shadow.capacityClasses.lookup id).isSome = true ↔ id ∈ shadow.candidateIds ∧ id ≠ Js.protoName := by
    intro id
    rw [hclasses, entries_foldlM hloop]
    simp
  have hchecked : Checked candidates := by
    have hempty : Checked {} := ⟨fun p hp => (nomatch hp), fun p hp => (nomatch hp)⟩
    exact Outcome.foldlM_inv (fun _ _ _ => checked_addCandidate) hempty hloop
  rw [hlatency, Double.counts_max_iff]
  constructor
  · rintro ⟨hwell, hcounts⟩
    constructor
    · intro n' hn'
      cases hn.symm.trans hn'
      exact hcounts
    · intro xs texts hxs htexts hproto
      have hmem : Js.protoName ∈ shadow.candidateIds := by
        rcases candidateIdsOf_ok hids with ⟨xs', texts', hxs', htexts', hids'⟩ | hnone
        · cases hxs.symm.trans hxs'
          cases htexts.symm.trans htexts'
          rw [hids']
          exact hproto
        · rw [hnone] at hselected
          cases hselected
      exact ((hentries _).1 ((hwell.entries _).1 hmem)).2 rfl
  · intro hsound
    refine ⟨⟨?_, ?_, ?_, hselected⟩, hsound.latency n hn⟩
    · rw [hpredictions]
      exact hchecked.predictions
    · intro id
      rw [hentries]
      refine ⟨fun hmem => ⟨hmem, ?_⟩, fun hboth => hboth.1⟩
      rintro rfl
      rcases candidateIdsOf_ok hids with ⟨xs, texts, hxs, htexts, hids'⟩ | hnone
      · rw [hids'] at hmem
        exact hsound.candidates xs texts hxs htexts hmem
      · rw [hnone] at hmem
        cases hmem
    · rw [hclasses]
      exact hchecked.classes

/-! ## The receipt -/

/-- What is known of a receipt that was made of a body. -/
theorem sanitizeReceipt_ok {uuid : Text} {now : Nat} {body : Value} {receipt : Receipt}
    (h : sanitizeReceipt uuid now body = .ok receipt) :
    sanitizeShadowDecision (body.field "shadow_decision") = .ok receipt.shadowDecision ∧
      (∀ attempt ∈ receipt.attempts, attempt.latencyMs.Counts) ∧
      ∀ n ∈ [receipt.inputTokens, receipt.outputTokens, receipt.estimatedCostUsd, receipt.decisionLatencyMs,
        receipt.preDispatchLatencyMs, receipt.totalLatencyMs], n.Counts := by
  obtain ⟨_, -, h⟩ := Outcome.bind_ok h
  obtain ⟨shadow, hshadow, h⟩ := Outcome.bind_ok h
  obtain ⟨_, -, h⟩ := Outcome.bind_ok h
  obtain ⟨attempts, hattempts, h⟩ := Outcome.bind_ok h
  obtain ⟨n₁, hn₁, h⟩ := Outcome.bind_ok h
  obtain ⟨n₂, hn₂, h⟩ := Outcome.bind_ok h
  obtain ⟨n₃, hn₃, h⟩ := Outcome.bind_ok h
  obtain ⟨n₄, hn₄, h⟩ := Outcome.bind_ok h
  obtain ⟨n₅, hn₅, h⟩ := Outcome.bind_ok h
  obtain ⟨n₆, hn₆, h⟩ := Outcome.bind_ok h
  cases h
  refine ⟨hshadow, fun attempt hmem => ?_, ?_⟩
  · obtain ⟨_, -, hattempt⟩ := Outcome.mem_mapM hattempts hmem
    exact attemptOf_ok hattempt
  · simp only [List.forall_mem_cons]
    exact ⟨finiteNonNegative_ok hn₁, finiteNonNegative_ok hn₂, finiteNonNegative_ok hn₃, finiteNonNegative_ok hn₄,
      finiteNonNegative_ok hn₅, finiteNonNegative_ok hn₆, fun _ hmem => (nomatch hmem)⟩

theorem counts_of_probability {n : Double} (h : IsProbability n) : n.Counts := by
  cases n with
  | finite q => exact h.1
  | _ => exact h

/-- A receipt is well formed exactly where the body has no shadow decision, or a sound one. -/
theorem wellFormed_iff {uuid : Text} {now : Nat} {body : Value} {receipt : Receipt} (h : sanitizeReceipt uuid now body = .ok receipt) :
    receipt.WellFormed ↔ Sound body := by
  obtain ⟨hshadow, hattempts, hnumbers⟩ := sanitizeReceipt_ok h
  have hrest : ∀ n ∈ receipt.attempts.map Attempt.latencyMs ++ [receipt.inputTokens, receipt.outputTokens, receipt.estimatedCostUsd,
      receipt.decisionLatencyMs, receipt.preDispatchLatencyMs, receipt.totalLatencyMs], n.Counts := by
    intro n hn
    rcases List.mem_append.1 hn with hattempt | hn
    · obtain ⟨attempt, hmem, rfl⟩ := List.mem_map.1 hattempt
      exact hattempts attempt hmem
    · exact hnumbers n hn
  unfold sanitizeShadowDecision at hshadow
  split at hshadow
  · rename_i fields hfields
    obtain ⟨shadow, hmade, hsome⟩ := Outcome.map_ok hshadow
    rw [hfields] at hmade
    have hiff := shadow_wellFormed_iff hmade
    constructor
    · intro hwell fields' hfields'
      cases hfields.symm.trans hfields'
      refine hiff.1 ⟨hwell.shadow shadow hsome, hwell.numbers _ ?_⟩
      rw [Receipt.numbers, hsome]
      exact List.mem_append_right _ (List.mem_append_right _ List.mem_cons_self)
    · intro hsound
      obtain ⟨hwell, hcounts⟩ := hiff.2 (hsound fields hfields)
      constructor
      · intro n hn
        rw [Receipt.numbers, hsome] at hn
        rcases List.mem_append.1 hn with hn | hn
        · exact hrest n hn
        · rcases List.mem_append.1 hn with hn | hn
          · obtain ⟨p, hp, rfl⟩ := List.mem_map.1 hn
            exact counts_of_probability (hwell.predictions p hp)
          · rw [List.mem_singleton.1 hn]
            exact hcounts
      · intro shadow' hsome'
        cases hsome.symm.trans hsome'
        exact hwell
  · rename_i hother
    have hnone : receipt.shadowDecision = none := (Except.ok.inj hshadow).symm
    constructor
    · exact fun _ fields hfields => absurd hfields (hother fields)
    · intro _
      constructor
      · intro n hn
        rw [Receipt.numbers, hnone, List.append_nil] at hn
        exact hrest n hn
      · intro shadow hsome
        cases hnone.symm.trans hsome

/-! ## Named fields -/

theorem field_eq {names : List String} {value value' : Value} (h : SameFields names value value') (name : String)
    (hname : name ∈ names) : value.field name = value'.field name := by
  rcases h with rfl | ⟨fields, fields', rfl, rfl, hfields⟩
  · rfl
  · exact hfields name hname

theorem checkBody_congr {body body' : Value} (h : SameFields bodyNames body body') : checkBody body = checkBody body' := by
  have hfield := field_eq h
  rw [checkBody, checkBody, hfield "capacity_class" (by decide), hfield "route_id" (by decide), hfield "tenant_id" (by decide),
    hfield "policy_version" (by decide), hfield "catalog_version" (by decide)]

theorem textsOf_congr {body body' : Value} (h : SameFields bodyNames body body') : textsOf body = textsOf body' := by
  have hfield := field_eq h
  rw [textsOf, textsOf, hfield "route_id" (by decide), hfield "tenant_id" (by decide), hfield "policy_version" (by decide),
    hfield "catalog_version" (by decide), hfield "selected_model" (by decide), hfield "executed_model" (by decide)]

theorem attemptOf_congr {attempt attempt' : Value} (h : SameFields attemptNames attempt attempt') :
    attemptOf attempt = attemptOf attempt' := by
  have hfield := field_eq h
  rw [attemptOf, attemptOf, hfield "provider" (by decide), hfield "connection_id_hash" (by decide), hfield "result" (by decide),
    hfield "latency_ms" (by decide), hfield "dispatched" (by decide)]

theorem mapM_attemptOf_congr {attempts attempts' : List Value} (h : List.Forall₂ (SameFields attemptNames) attempts attempts') :
    attempts.mapM attemptOf = attempts'.mapM attemptOf := by
  induction h with
  | nil => rfl
  | cons hattempt _ ih => rw [List.mapM_cons, List.mapM_cons, attemptOf_congr hattempt, ih]

theorem attempts_congr {body body' : Value} (h : SameAttempts (body.field "attempts") (body'.field "attempts")) :
    (attemptsOf body).mapM attemptOf = (attemptsOf body').mapM attemptOf := by
  unfold attemptsOf
  rcases h with hsame | ⟨xs, xs', hxs, hxs', hattempts⟩
  · rw [hsame]
  · rw [hxs, hxs']
    exact mapM_attemptOf_congr (List.forall₂_take 3 hattempts)

theorem shadowDecisionOf_congr {input input' : Value} (h : SameFields shadowNames input input') :
    shadowDecisionOf input = shadowDecisionOf input' := by
  have hfield := field_eq h
  have hadd : addCandidate input = addCandidate input' := by
    funext candidates candidateId
    rw [addCandidate, addCandidate, capacityClassOf, capacityClassOf, predictionOf, predictionOf,
      hfield "capacity_classes" (by decide), hfield "predicted_success" (by decide)]
  rw [shadowDecisionOf, shadowDecisionOf, candidateIdsOf, candidateIdsOf, hadd, hfield "candidate_ids" (by decide),
    hfield "capability_rejection_reasons" (by decide), hfield "selected_hypothetical_route" (by decide),
    hfield "policy_version" (by decide), hfield "decision_latency_ms" (by decide)]

theorem sanitizeShadowDecision_congr {input input' : Value} (h : SameFields shadowNames input input') :
    sanitizeShadowDecision input = sanitizeShadowDecision input' := by
  have hmade := shadowDecisionOf_congr h
  rcases h with rfl | ⟨fields, fields', rfl, rfl, -⟩
  · rfl
  · rw [sanitizeShadowDecision, sanitizeShadowDecision, hmade]

/-- The same number and time make the same of bodies that differ in unnamed fields. -/
theorem sanitizeReceipt_congr {body body' : Value} (h : SameNamed body body') (uuid : Text) (now : Nat) :
    sanitizeReceipt uuid now body = sanitizeReceipt uuid now body' := by
  obtain ⟨hbody, hattempts, hshadow⟩ := h
  have hfield := field_eq hbody
  rw [sanitizeReceipt, sanitizeReceipt, checkBody_congr hbody, sanitizeShadowDecision_congr hshadow, textsOf_congr hbody,
    attempts_congr hattempts, hfield "premium_used" (by decide), hfield "degraded_free_only" (by decide),
    hfield "input_tokens" (by decide), hfield "output_tokens" (by decide), hfield "estimated_cost_usd" (by decide),
    hfield "decision_latency_ms" (by decide), hfield "pre_dispatch_latency_ms" (by decide), hfield "total_latency_ms" (by decide)]

/-- The number and the time stand in `id` and `createdAt` alone. -/
theorem sanitizeReceipt_renamed (uuid uuid' : Text) (now now' : Nat) (body : Value) :
    sanitizeReceipt uuid' now' body =
      (fun receipt : Receipt => { receipt with id := "receipt_".toList ++ uuid', createdAt := now' }) <$>
        sanitizeReceipt uuid now body := by
  simp only [sanitizeReceipt, map_bind, map_pure]

end StoredAux

/-! ## Well-formed receipts -/

open StoredAux

/-- The receipt of a body is well formed, and the same but for `id` and `createdAt` for every body that differs from it in unnamed
fields, exactly where the body has no shadow decision or a sound one. -/
theorem stored_iff {uuid : Text} {now : Nat} {body : Value} {receipt : Receipt} (h : sanitizeReceipt uuid now body = .ok receipt) :
    (receipt.WellFormed ∧ ∀ body' uuid' now', SameNamed body body' → sanitizeReceipt uuid' now' body' =
      .ok { receipt with id := "receipt_".toList ++ uuid', createdAt := now' }) ↔ Sound body := by
  have hsame : ∀ body' uuid' now', SameNamed body body' → sanitizeReceipt uuid' now' body' =
      .ok { receipt with id := "receipt_".toList ++ uuid', createdAt := now' } := by
    intro body' uuid' now' hnamed
    rw [← sanitizeReceipt_congr hnamed, sanitizeReceipt_renamed uuid uuid' now now', h]
    rfl
  rw [wellFormed_iff h]
  exact ⟨fun hboth => hboth.1, fun hsound => ⟨hsound, hsame⟩⟩

/-- A body with a shadow decision for one candidate. -/
def shadowBody (latency : Value) (candidate : Text) : Value :=
  .obj [("route_id".toList, .str "route_1".toList), ("tenant_id".toList, .str "tenant_1".toList),
    ("policy_version".toList, .str "v1".toList), ("catalog_version".toList, .str "v1".toList),
    ("capacity_class".toList, .str "user_free".toList),
    ("shadow_decision".toList, .obj [("candidate_ids".toList, .arr [.str candidate]),
      ("capacity_classes".toList, .obj [(candidate, .str "user_free".toList)]),
      ("selected_hypothetical_route".toList, .str candidate), ("decision_latency_ms".toList, latency)])]

theorem stored_shadowBody : ∃ receipt, sanitizeReceipt [] 0 (shadowBody (.number ['7']) ['a']) = .ok receipt ∧ receipt.WellFormed ∧
    ∀ body' uuid' now', SameNamed (shadowBody (.number ['7']) ['a']) body' → sanitizeReceipt uuid' now' body' =
      .ok { receipt with id := "receipt_".toList ++ uuid', createdAt := now' } := by
  have hsound : Sound (shadowBody (.number ['7']) ['a']) := by
    intro fields hfields
    cases hfields
    constructor
    · intro n hn
      have hseven : Js.number (.number ['7']) = .ok (.finite 7) := by decide +kernel
      cases hseven.symm.trans hn
      exact ⟨nofun, nofun⟩
    · intro ids texts hids htexts
      cases hids
      cases htexts
      decide
  have haccepted : (sanitizeReceipt [] 0 (shadowBody (.number ['7']) ['a'])).isOk = true := by decide +kernel
  obtain ⟨receipt, h⟩ := Outcome.ok_of_isOk haccepted
  exact ⟨receipt, h, (stored_iff h).2 hsound⟩

/-- A latency that is no number is stored as `NaN`, and a candidate of the name of the prototype gets no capacity class. -/
theorem stored_ill_formed :
    (∃ receipt, sanitizeReceipt [] 0 (shadowBody (.str "abc".toList) ['a']) = .ok receipt ∧ ¬receipt.WellFormed) ∧
      ∃ receipt, sanitizeReceipt [] 0 (shadowBody (.number ['7']) Js.protoName) = .ok receipt ∧ ¬receipt.WellFormed := by
  constructor
  · have haccepted : (sanitizeReceipt [] 0 (shadowBody (.str "abc".toList) ['a'])).isOk = true := by decide +kernel
    obtain ⟨receipt, h⟩ := Outcome.ok_of_isOk haccepted
    refine ⟨receipt, h, fun hwell => ?_⟩
    have hsound := (wellFormed_iff h).1 hwell _ rfl
    exact (hsound.latency .nan (by decide +kernel)).1 rfl
  · have haccepted : (sanitizeReceipt [] 0 (shadowBody (.number ['7']) Js.protoName)).isOk = true := by decide +kernel
    obtain ⟨receipt, h⟩ := Outcome.ok_of_isOk haccepted
    refine ⟨receipt, h, fun hwell => ?_⟩
    have hsound := (wellFormed_iff h).1 hwell _ rfl
    exact hsound.candidates _ [Js.protoName] rfl rfl (by decide)

end PromptRail.Receipts
