import Mathlib.Data.Char
import Mathlib.Data.List.Lex
import PromptRail.InfiniteAuthority

/-!
# The candidates of a tenant

A candidate of an answer comes from a row that the policy of the tenant allows, its own before one of all tenants, and lists the
connections that serve it. Rows of other tenants are not seen by any of the queries.
-/

namespace PromptRail

namespace InfiniteAuthority

open PyText (Text)
open Js (Value)

/-- The identifier of a candidate in an answer. -/
def Candidate.id? (candidate : Candidate) : Option Value := candidate.fields.lookup "candidateId".toList

/-- The policy names the candidate. -/
def Policy.Allows (policy : Policy) (row : CandidateRow) : Prop :=
  ∃ xs, policy.document.field "allowedCandidateIds" = .arr xs ∧
    ∃ x ∈ xs, ∃ t, Js.toText x = some t ∧ meets (Value.isText t) (row.document.field "candidateId") = true

/-- A row that is enabled, is of the tenant or of all, and is allowed. -/
structure Admitted (tenantId : Text) (policy : Policy) (row : CandidateRow) : Prop where
  enabled : row.enabled = true
  scope : row.tenantId = some tenantId ∨ row.tenantId = none
  allowed : policy.Allows row

/-- An active connection of the tenant that has an identifier, at the provider of a candidate and of its class and status. -/
def servesFor (tenantId : Text) (candidate : Value) (connection : Connection) : Bool :=
  decide (connection.userId = some tenantId) && decide (connection.status = "active".toList) &&
    decide (normalizedConnectionId connection ≠ []) && serves candidate connection

/-- What a candidate of an answer is, that comes from a row. -/
structure ComesFrom (env : Env) (database : Database) (tenantId : Text) (policy : Policy) (candidate : Candidate) (row : CandidateRow) :
    Prop where
  response : candidate = candidateResponse row.document candidate.connectionIds
  admitted : Admitted tenantId policy row
  precedence : row.tenantId = none →
    ∀ other ∈ database.candidates, Admitted tenantId policy other → other.tenantId = some tenantId → other.candidateId ≠ row.candidateId
  free : isOneOf freeCapacityClasses (row.document.field "capacityClass") = true →
    candidate.operationalState.lookup "estimatedRequestCostUsd".toList = some (.number "0".toList)
  provided : row.document.field "connectionSource" = .str "tenant_provider".toList →
    candidate.connectionIds ≠ [] ∧
      ∃ connections : List Connection, connections.Perm (database.connections.filter (servesFor tenantId row.document)) ∧
        connections.Pairwise (InOrder env) ∧ candidate.connectionIds = connections.map normalizedConnectionId

/-- What the candidates of an answer are. -/
structure Materialised (env : Env) (database : Database) (tenantId : Text) (policy : Policy) (candidates : List Candidate) : Prop where
  distinct : (candidates.map Candidate.id?).Nodup
  each : ∀ candidate ∈ candidates, ∃ row ∈ database.candidates, ComesFrom env database tenantId policy candidate row

/-- The policy of a tenant: the first of its own, or else the first of all tenants. -/
def policyOf (database : Database) (tenantId : Text) : Option Policy :=
  (database.policies.find? fun policy => policy.tenantId = some tenantId).or
    (database.policies.find? fun policy => policy.tenantId = none)

/-- The keys are the same, and the rows that are not of other tenants. -/
structure SameFor (tenantId : Text) (database database' : Database) : Prop where
  apiKeys : database'.apiKeys = database.apiKeys
  entitlements : database'.entitlements.filter (fun row => row.userId.toList = tenantId) =
    database.entitlements.filter fun row => row.userId.toList = tenantId
  policies : database'.policies.filter (fun row => inScope tenantId row.tenantId) =
    database.policies.filter fun row => inScope tenantId row.tenantId
  candidates : database'.candidates.filter (fun row => inScope tenantId row.tenantId) =
    database.candidates.filter fun row => inScope tenantId row.tenantId
  connections : database'.connections.filter (fun row => row.userId = some tenantId) =
    database.connections.filter fun row => row.userId = some tenantId

namespace MaterialisedAux

variable {env : Env} {database database' : Database} {tenantId : Text} {rows : List CandidateRow}

/-! ## One row of each identifier -/

/-- What the loop of `candidateForTenant` has selected of the rows that it has read. -/
structure Picked (tenantId : Text) (rows : List CandidateRow) (selected : Selected) : Prop where
  nodup : (selected.map Prod.fst).Nodup
  named : ∀ entry ∈ selected, entry.2 ∈ rows ∧ entry.2.candidateId = .ok entry.1 ∧ entry.1 ≠ []
  first : ∀ entry ∈ selected, entry.2.tenantId.getD [] = tenantId ∨
    ∀ row ∈ rows, row.candidateId = .ok entry.1 → row.tenantId.getD [] ≠ tenantId
  covered : ∀ row ∈ rows, ∀ candidateId, row.candidateId = .ok candidateId → candidateId ≠ [] → candidateId ∈ selected.map Prod.fst

theorem picked_nil : Picked tenantId [] [] := by
  refine ⟨List.nodup_nil, ?_, ?_, ?_⟩ <;> exact fun _ h => absurd h List.not_mem_nil

/-- A row that is passed over. -/
theorem Picked.pass {selected : Selected} (h : Picked tenantId rows selected) {candidate : CandidateRow} {candidateId : Text}
    (hid : candidate.candidateId = .ok candidateId)
    (hpass : candidateId = [] ∨ ∃ entry ∈ selected, entry.1 = candidateId ∧
      (entry.2.tenantId.getD [] = tenantId ∨ candidate.tenantId.getD [] ≠ tenantId)) : Picked tenantId (rows ++ [candidate]) selected := by
  refine ⟨h.nodup, fun entry hentry => ?_, fun entry hentry => ?_, fun row hrow rowId hrowId hne => ?_⟩
  · obtain ⟨hmem, hnamed, hnonblank⟩ := h.named entry hentry
    exact ⟨List.mem_append_left _ hmem, hnamed, hnonblank⟩
  · refine (h.first entry hentry).elim Or.inl fun hothers => ?_
    rcases hpass with rfl | ⟨existing, hexisting, rfl, hkept⟩
    · refine Or.inr fun row hrow hkey => ?_
      rcases List.mem_append.1 hrow with hold | hlast
      · exact hothers row hold hkey
      · rw [List.mem_singleton.1 hlast, hid] at hkey
        exact absurd (Except.ok.inj hkey).symm (h.named entry hentry).2.2
    · by_cases hsame : entry.1 = existing.1
      · obtain rfl := List.inj_on_of_nodup_map h.nodup hentry hexisting hsame
        refine hkept.imp_right fun hother row hrow hkey => ?_
        rcases List.mem_append.1 hrow with hold | hlast
        · exact hothers row hold hkey
        · rwa [List.mem_singleton.1 hlast]
      · refine Or.inr fun row hrow hkey => ?_
        rcases List.mem_append.1 hrow with hold | hlast
        · exact hothers row hold hkey
        · rw [List.mem_singleton.1 hlast, hid] at hkey
          exact absurd (Except.ok.inj hkey).symm hsame
  · rcases List.mem_append.1 hrow with hold | hlast
    · exact h.covered row hold rowId hrowId hne
    · rw [List.mem_singleton.1 hlast, hid] at hrowId
      cases hrowId
      rcases hpass with rfl | ⟨existing, hexisting, rfl, -⟩
      · exact absurd rfl hne
      · exact List.mem_map_of_mem hexisting

/-- A row that is put in the place of its identifier. -/
theorem Picked.put {selected : Selected} (h : Picked tenantId rows selected) {candidate : CandidateRow} {candidateId : Text}
    (hid : candidate.candidateId = .ok candidateId) (hne : candidateId ≠ [])
    (hput : candidate.tenantId.getD [] = tenantId ∨ ∀ entry ∈ selected, entry.1 ≠ candidateId) :
    Picked tenantId (rows ++ [candidate]) (Collection.upsertOne (fun entry => entry.1 = candidateId) (fun _ => (candidateId, candidate))
      (candidateId, candidate) selected) := by
  have hmem : ∀ entry, entry ∈ Collection.upsertOne (fun entry => entry.1 = candidateId) (fun _ => (candidateId, candidate))
      (candidateId, candidate) selected ↔ entry = (candidateId, candidate) ∨ entry ∈ selected ∧ entry.1 ≠ candidateId :=
    fun _ => Collection.mem_upsertOne_const (fun _ => decide_eq_true_iff) h.nodup
  refine ⟨Collection.nodup_upsertOne (fun _ => decide_eq_true_iff) (fun _ _ => rfl) rfl h.nodup, fun entry hentry => ?_,
    fun entry hentry => ?_, fun row hrow rowId hrowId hnonblank => ?_⟩
  · rcases (hmem entry).1 hentry with rfl | ⟨hold, -⟩
    · exact ⟨List.mem_append_right _ List.mem_cons_self, hid, hne⟩
    · obtain ⟨hmem, hnamed, hnonblank⟩ := h.named entry hold
      exact ⟨List.mem_append_left _ hmem, hnamed, hnonblank⟩
  · rcases (hmem entry).1 hentry with rfl | ⟨hold, hother⟩
    · by_cases hown : candidate.tenantId.getD [] = tenantId
      · exact Or.inl hown
      · refine Or.inr fun row hrow hkey => ?_
        rcases List.mem_append.1 hrow with hin | hlast
        · obtain ⟨other, hother, hsame⟩ := List.mem_map.1 (h.covered row hin candidateId hkey hne)
          exact absurd hsame (hput.resolve_left hown other hother)
        · rwa [List.mem_singleton.1 hlast]
    · refine (h.first entry hold).imp_right fun hothers row hrow hkey => ?_
      rcases List.mem_append.1 hrow with hin | hlast
      · exact hothers row hin hkey
      · rw [List.mem_singleton.1 hlast, hid] at hkey
        exact absurd (Except.ok.inj hkey).symm hother
  · refine List.mem_map.2 ?_
    rcases List.mem_append.1 hrow with hin | hlast
    · obtain ⟨entry, hentry, rfl⟩ := List.mem_map.1 (h.covered row hin rowId hrowId hnonblank)
      by_cases hsame : entry.1 = candidateId
      · exact ⟨(candidateId, candidate), (hmem _).2 (Or.inl rfl), hsame.symm⟩
      · exact ⟨entry, (hmem _).2 (Or.inr ⟨hentry, hsame⟩), rfl⟩
    · rw [List.mem_singleton.1 hlast, hid] at hrowId
      cases hrowId
      exact ⟨(candidateId, candidate), (hmem _).2 (Or.inl rfl), rfl⟩

theorem picked_select {selected selected' : Selected} (h : Picked tenantId rows selected) {candidate : CandidateRow}
    (hturn : select tenantId selected candidate = .ok selected') : Picked tenantId (rows ++ [candidate]) selected' := by
  obtain ⟨candidateId, hid, rfl⟩ := Outcome.map_ok hturn
  split
  · rename_i hblank
    exact h.pass hid (Or.inl hblank)
  · rename_i hne
    split
    · rename_i existing hfind
      have hmem := List.mem_of_find?_eq_some hfind
      have hkey : existing.1 = candidateId := by simpa using List.find?_some hfind
      split
      · rename_i hown
        exact h.put hid hne (Or.inl hown.1)
      · rename_i hkept
        refine h.pass hid (Or.inr ⟨existing, hmem, hkey, ?_⟩)
        by_contra hneither
        obtain ⟨hother, hown⟩ := not_or.1 hneither
        exact hkept ⟨not_not.1 hown, hother⟩
    · rename_i hfind
      refine h.put hid hne (Or.inr fun entry hentry hkey => ?_)
      exact List.find?_eq_none.1 hfind entry hentry (decide_eq_true hkey)

theorem picked_foldlM {more : List CandidateRow} {selected selected' : Selected} (h : Picked tenantId rows selected)
    (hloop : more.foldlM (select tenantId) selected = .ok selected') : Picked tenantId (rows ++ more) selected' := by
  induction more generalizing rows selected with
  | nil =>
    cases hloop
    rwa [List.append_nil]
  | cons candidate more ih =>
    rw [List.foldlM_cons] at hloop
    obtain ⟨next, hturn, hrest⟩ := Outcome.bind_ok hloop
    rw [List.append_cons]
    exact ih (picked_select h hturn) hrest

/-- What `candidateForTenant` returns: rows of distinct identifiers, one of the tenant wherever there is one. -/
theorem candidateForTenant_spec {forTenant : List CandidateRow} (h : candidateForTenant env rows tenantId = .ok forTenant) :
    (forTenant.map CandidateRow.candidateId).Nodup ∧ ∀ row ∈ forTenant, row ∈ rows ∧
      (row.tenantId.getD [] = tenantId ∨ ∀ other ∈ rows, other.candidateId = row.candidateId → other.tenantId.getD [] ≠ tenantId) := by
  obtain ⟨selected, hloop, rfl⟩ := Outcome.map_ok h
  have hpicked := picked_foldlM picked_nil hloop
  rw [List.nil_append] at hpicked
  have hperm := List.perm_insertionSort (fun left right : CandidateRow => env.localeLe left.sortKey right.sortKey = true)
    (selected.map Prod.snd)
  constructor
  · refine (hperm.map CandidateRow.candidateId).nodup_iff.2 ?_
    have hkeys : (selected.map Prod.snd).map CandidateRow.candidateId = (selected.map Prod.fst).map Except.ok := by
      rw [List.map_map, List.map_map]
      exact List.map_congr_left fun entry hentry => (hpicked.named entry hentry).2.1
    rw [hkeys]
    exact hpicked.nodup.map fun _ _ => Except.ok.inj
  · intro row hrow
    obtain ⟨entry, hentry, rfl⟩ := List.mem_map.1 (hperm.mem_iff.1 hrow)
    obtain ⟨hmem, hnamed, -⟩ := hpicked.named entry hentry
    refine ⟨hmem, (hpicked.first entry hentry).imp_right fun hothers other hother hsame => ?_⟩
    exact hothers other hother (hsame.trans hnamed)

/-! ## One candidate -/

/-- A field that is picked is the field of the value. -/
theorem lookup_pickFields {fields : List String} {field : String} (value : Value) (h : field ∈ fields) :
    (pickFields value fields).lookup field.toList = value.get? field := by
  induction fields with
  | nil => cases h
  | cons first fields ih =>
    rw [pickFields, List.filterMap_cons]
    by_cases hsame : first = field
    · subst hsame
      cases hget : value.get? first with
      | none =>
        refine List.lookup_eq_none_iff.2 fun entry hentry => ?_
        obtain ⟨name, -, hpicked⟩ := List.mem_filterMap.1 hentry
        obtain ⟨x, hx, rfl⟩ := Option.map_eq_some_iff.1 hpicked
        refine bne_iff_ne.2 fun hname => ?_
        rw [String.toList_inj.1 hname, hx] at hget
        cases hget
      | some x => exact List.lookup_cons_self
    · have hin := (List.mem_cons.1 h).resolve_left (Ne.symm hsame)
      cases hget : value.get? first with
      | none => exact ih hin
      | some x =>
        have hname : (field.toList == first.toList) = false := beq_eq_false_iff_ne.2 fun h => hsame (String.toList_inj.1 h).symm
        show List.lookup field.toList ((first.toList, x) :: pickFields value fields) = _
        rw [List.lookup_cons, hname]
        exact ih hin

theorem isZero_iff {value : Value} : isZero value = true ↔ value = .number "0".toList := by
  cases value <;> simp [isZero]

/-- A candidate of a free class that is routable costs nothing. -/
theorem candidateIsRoutable_ok {candidate : Value} (h : candidateIsRoutable candidate = .ok true) :
    isOneOf routableCapacityClasses (candidate.field "capacityClass") = true ∧
      (isOneOf freeCapacityClasses (candidate.field "capacityClass") = true →
        (candidate.field "operationalState").field "estimatedRequestCostUsd" = .number "0".toList) := by
  unfold candidateIsRoutable at h
  split at h
  · cases h
  · rename_i hroutable
    split at h
    · cases h
    · rename_i hcosts
      refine ⟨Bool.eq_true_of_not_eq_false hroutable, fun hfree => isZero_iff.1 ?_⟩
      exact Bool.eq_true_of_not_eq_false fun hzero => hcosts ⟨hfree, hzero⟩

/-- A field of a field that is not missing is a field of an object. -/
theorem get?_of_field {value x : Value} {name : String} (h : value.field name = x) (hx : x ≠ .null) : value.get? name = some x := by
  rw [Js.field_eq_get?] at h
  cases hget : value.get? name with
  | none => exact absurd (hget ▸ h).symm hx
  | some y => rw [← h, hget]; rfl

/-! ## The queries -/

theorem isOneOf_iff {ts : List Text} {value : Value} : isOneOf ts value = true ↔ ∃ t ∈ ts, value = .str t := by
  simp only [isOneOf, List.any_eq_true, Js.isText_iff]

/-- A query for one of several texts finds what a query for one of them finds. -/
theorem meets_isOneOf {ts : List Text} {value : Value} :
    meets (isOneOf ts) value = true ↔ ∃ t ∈ ts, meets (Value.isText t) value = true := by
  cases value with
  | arr xs =>
    simp only [meets, List.any_eq_true, isOneOf_iff, Js.isText_iff]
    constructor
    · rintro ⟨x, hx, t, ht, rfl⟩
      exact ⟨t, ht, _, hx, rfl⟩
    · rintro ⟨t, ht, x, hx, rfl⟩
      exact ⟨_, hx, t, ht, rfl⟩
  | _ => simp only [meets, isOneOf_iff, Js.isText_iff]

theorem inScope_iff {of : Option Text} : inScope tenantId of = true ↔ of = some tenantId ∨ of = none := decide_eq_true_iff

/-- The query of the candidates finds those that are admitted. -/
theorem mem_candidateRows {policy : Policy} {allowed : List Text} (hallowed : allowedCandidateIds policy = .ok allowed)
    {row : CandidateRow} :
    row ∈ candidateRows database tenantId allowed ↔ row ∈ database.candidates ∧ Admitted tenantId policy row := by
  have hallows : meets (isOneOf allowed) (row.document.field "candidateId") = true ↔ policy.Allows row := by
    rw [meets_isOneOf]
    unfold allowedCandidateIds at hallowed
    split at hallowed
    · rename_i xs hxs
      constructor
      · rintro ⟨t, ht, hmeets⟩
        obtain ⟨x, hx, hstring⟩ := Outcome.mem_mapM hallowed ht
        exact ⟨xs, hxs, x, hx, t, Js.string_ok hstring, hmeets⟩
      · rintro ⟨xs', hxs', x, hx, t, ht, hmeets⟩
        cases hxs.symm.trans hxs'
        obtain ⟨t', ht', hstring⟩ := Outcome.mem_of_mapM hallowed hx
        cases ht.symm.trans (Js.string_ok hstring)
        exact ⟨t, ht', hmeets⟩
    · rename_i hnone
      cases hallowed
      exact iff_of_false (fun ⟨_, h, _⟩ => absurd h List.not_mem_nil) fun ⟨xs, hxs, _⟩ => hnone xs hxs
  rw [candidateRows, List.mem_filter]
  refine and_congr_right fun _ => ?_
  rw [Bool.and_eq_true, Bool.and_eq_true, hallows, inScope_iff]
  exact ⟨fun ⟨⟨h, h'⟩, h''⟩ => ⟨h', h'', h⟩, fun ⟨h, h', h''⟩ => ⟨⟨h'', h⟩, h'⟩⟩

/-! ## The connections -/

/-- The connections that a candidate lists are all that serve it. -/
theorem perm_active {row : CandidateRow} (hrow : row ∈ rows)
    (hdynamic : (row.document.field "connectionSource").isText "tenant_provider".toList = true)
    (hroutable : isOneOf routableCapacityClasses (row.document.field "capacityClass") = true) :
    ((((providerConnections database tenantId rows).filter (isActive tenantId)).insertionSort (InOrder env)).filter
      (serves row.document)).Perm (database.connections.filter (servesFor tenantId row.document)) := by
  refine ((List.perm_insertionSort _ _).filter _).trans (List.Perm.of_eq ?_)
  rw [providerConnections, List.filter_filter, List.filter_filter]
  refine List.filter_congr fun connection _ => Bool.eq_iff_iff.2 ?_
  simp only [isActive, servesFor, Bool.and_eq_true, decide_eq_true_eq]
  constructor
  · rintro ⟨⟨hserves, huser, hstatus, hclass, hid⟩, ⟨howner, -⟩, -⟩
    exact ⟨⟨⟨howner, hstatus⟩, hid⟩, hserves⟩
  · rintro ⟨⟨⟨howner, hstatus⟩, hid⟩, hserves⟩
    obtain ⟨⟨hprovider, hclass⟩, hadmission⟩ := by simpa only [serves, Bool.and_eq_true] using hserves
    refine ⟨⟨hserves, ?_, hstatus, ?_, hid⟩, ⟨howner, hstatus⟩, ?_⟩
    · rw [howner]
      rfl
    · obtain ⟨t, ht, hsame⟩ := List.any_eq_true.1 hroutable
      rw [Js.isText_iff] at hclass hsame
      rw [hclass] at hsame
      cases hsame
      exact ht
    · refine List.any_eq_true.2 ⟨_, List.mem_map.2 ⟨row, List.mem_filter.2 ⟨hrow, hdynamic⟩, rfl⟩, hprovider⟩

theorem pairwise_active (connections : List Connection) (candidate : Value) :
    ((connections.insertionSort (InOrder env)).filter (serves candidate)).Pairwise (InOrder env) := by
  have : Std.Total (InOrder env) := ⟨fun a b => by
    rcases lt_trichotomy (a.priority.getD 0) (b.priority.getD 0) with hlt | heq | hgt
    · exact Or.inl (Or.inl hlt)
    · exact (env.localeLe_total _ _).imp (fun h => Or.inr ⟨heq, h⟩) fun h => Or.inr ⟨heq.symm, h⟩
    · exact Or.inr (Or.inl hgt)⟩
  have : IsTrans Connection (InOrder env) := ⟨fun a b c hab hbc => by
    rcases hab with hab | ⟨hab, hid⟩ <;> rcases hbc with hbc | ⟨hbc, hid'⟩
    · exact Or.inl (hab.trans hbc)
    · exact Or.inl (hbc ▸ hab)
    · exact Or.inl (hab ▸ hbc)
    · exact Or.inr ⟨hab.trans hbc, env.localeLe_trans _ _ _ hid hid'⟩⟩
  exact (List.pairwise_insertionSort _ _).filter _

/-- The identifier by which rows are told apart is made of the one in the answer. -/
theorem candidateId_eq (row : CandidateRow) (ids : List Text) :
    row.candidateId = (Js.string (((candidateResponse row.document ids).id?.getD .null).or (.str []))).map Js.trim := by
  rw [Candidate.id?, candidateResponse, lookup_pickFields _ (by decide), CandidateRow.candidateId, Js.field_eq_get?]

/-- The row that a candidate comes from. -/
theorem materialise_spec (htenant : tenantId ≠ []) {policy : Policy} {allowed : List Text}
    (hallowed : allowedCandidateIds policy = .ok allowed)
    {candidates : List Candidate}
    (h : materializeTenantCandidates env (candidateRows database tenantId allowed)
      (providerConnections database tenantId (candidateRows database tenantId allowed)) tenantId = .ok candidates) :
    Materialised env database tenantId policy candidates := by
  unfold materializeTenantCandidates at h
  obtain ⟨forTenant, hforTenant, h⟩ := Outcome.bind_ok h
  obtain ⟨routable, hroutable, h⟩ := Outcome.bind_ok h
  obtain ⟨listed, hlisted, h⟩ := Outcome.bind_ok h
  cases h
  obtain ⟨hnodup, hrows⟩ := candidateForTenant_spec hforTenant
  obtain ⟨hkept, hreturned⟩ := Outcome.mapM_pair hroutable
  obtain ⟨hkept', hreturned'⟩ := Outcome.mapM_pair hlisted
  constructor
  · rw [List.map_map]
    have hsublist : (((listed.filter fun p => p.2 ≠ []).map Prod.fst).map CandidateRow.candidateId).Sublist
        (forTenant.map CandidateRow.candidateId) := by
      refine List.Sublist.map _ ((List.filter_sublist.map _).trans ?_)
      rw [hkept', ← hkept]
      exact List.filter_sublist.map _
    have hkeys := hnodup.sublist hsublist
    rw [List.map_map, List.map_congr_left fun p _ => candidateId_eq p.1 p.2] at hkeys
    refine List.Nodup.of_map (fun id? : Option Value => (Js.string ((id?.getD .null).or (.str []))).map Js.trim) ?_
    rwa [List.map_map]
  · intro candidate hcandidate
    obtain ⟨⟨row, ids⟩, hpair, rfl⟩ := List.mem_map.1 hcandidate
    obtain ⟨hin, hsome⟩ := List.mem_filter.1 hpair
    have hids := hreturned' _ hin
    have hscoped : row ∈ (routable.filter fun p => p.2).map fun p => p.1 := hkept' ▸ List.mem_map_of_mem hin
    obtain ⟨⟨routed, passed⟩, hmem, hsame⟩ := List.mem_map.1 hscoped
    obtain rfl : routed = row := hsame
    obtain ⟨hpassed, htrue⟩ := List.mem_filter.1 hmem
    obtain rfl : passed = true := htrue
    obtain ⟨hclass, hfree⟩ := candidateIsRoutable_ok (hreturned _ hpassed)
    obtain ⟨hrow, hfirst⟩ := hrows routed (hkept ▸ List.mem_map_of_mem hpassed)
    obtain ⟨hdatabase, hadmitted⟩ := (mem_candidateRows hallowed).1 hrow
    refine ⟨routed, hdatabase, rfl, hadmitted, fun hglobal other hother hits hown hid => ?_, fun hcost => ?_, fun hdynamic => ?_⟩
    · have hothers := hfirst.resolve_left fun hblank => htenant (by rw [← hblank, hglobal]; rfl)
      refine hothers other ((mem_candidateRows hallowed).2 ⟨hother, hits⟩) hid ?_
      rw [hown]
      rfl
    · exact (lookup_pickFields _ (by decide)).trans (get?_of_field (hfree hcost) fun h => nomatch h)
    · refine ⟨of_decide_eq_true hsome, _, perm_active hrow (Js.isText_iff.2 hdynamic) hclass, pairwise_active _ _, ?_⟩
      rw [connectionIds, hdynamic, if_neg (by decide), if_pos (by decide)] at hids
      exact (Except.ok.inj hids).symm

/-! ## Other tenants -/

/-- The policy that is selected is the policy of the tenant. -/
theorem selectTenantPolicy_eq (htenant : tenantId ≠ []) :
    selectTenantPolicy (database.policies.filter fun row => inScope tenantId row.tenantId) tenantId = policyOf database tenantId := by
  have hown : ∀ policy : Policy, (decide (policy.tenantId.getD [] = tenantId)) = decide (policy.tenantId = some tenantId) := by
    intro policy
    refine decide_eq_decide.2 ?_
    cases policy.tenantId with
    | none => exact iff_of_false (fun h => htenant h.symm) fun h => nomatch h
    | some t => exact (Option.some_inj).symm
  have hsees : ∀ condition : Policy → Bool, (∀ policy, condition policy = true → inScope tenantId policy.tenantId = true) →
      (database.policies.filter fun row => inScope tenantId row.tenantId).find? condition = database.policies.find? condition := by
    intro condition hscope
    rw [List.find?_filter]
    refine congrArg (List.find? · _) (funext fun policy => ?_)
    cases hmeets : condition policy with
    | false => exact decide_eq_false fun hboth => Bool.false_ne_true hboth.2
    | true => exact decide_eq_true ⟨hscope policy hmeets, rfl⟩
  rw [selectTenantPolicy, policyOf]
  simp only [hown]
  rw [hsees _ fun policy h => inScope_iff.2 (Or.inl (of_decide_eq_true h)),
    hsees _ fun policy h => inScope_iff.2 (Or.inr (of_decide_eq_true h))]

/-- What is answered of a tenant depends on the rows that are not of other tenants. -/
theorem authorizeTenant_same {identity : Identity} (h : SameFor identity.tenantId database database') :
    authorizeTenant env database' identity = authorizeTenant env database identity := by
  have hentitlements : (database'.entitlements.filter fun row =>
        decide (row.userId.toList = identity.tenantId) && Site.infiniteProducts.contains row.product) =
      database.entitlements.filter fun row =>
        decide (row.userId.toList = identity.tenantId) && Site.infiniteProducts.contains row.product :=
    Collection.filter_eq_of_filter_eq (fun row hrow => (Bool.and_eq_true_iff.1 hrow).1) h.entitlements
  have hcandidates : ∀ allowed, candidateRows database' identity.tenantId allowed = candidateRows database identity.tenantId allowed :=
    fun allowed => Collection.filter_eq_of_filter_eq (fun row hrow => (Bool.and_eq_true_iff.1 hrow).2) h.candidates
  have hconnections : ∀ rows, providerConnections database' identity.tenantId rows = providerConnections database identity.tenantId rows :=
    fun rows => Collection.filter_eq_of_filter_eq
      (fun row hrow => (Bool.and_eq_true_iff.1 (Bool.and_eq_true_iff.1 hrow).1).1) h.connections
  simp only [authorizeTenant, hentitlements, h.policies, hcandidates, hconnections]

/-- What a tenant is answered who is answered with candidates. -/
theorem authorizeTenant_ok {identity identity' : Identity} (htenant : identity.tenantId ≠ []) {access : Site.InfiniteAccess}
    {fields : List (Text × Value)} {candidates : List Candidate}
    (h : authorizeTenant env database identity = .ok (.authorized identity' access fields candidates)) :
    identity' = identity ∧ ∃ policy, policyOf database identity.tenantId = some policy ∧ fields = policyResponse policy.document ∧
      Materialised env database identity.tenantId policy candidates := by
  simp only [authorizeTenant, selectTenantPolicy_eq htenant] at h
  split at h
  · cases h
  · split at h
    · cases h
    · rename_i policy hpolicy
      obtain ⟨allowed, hallowed, h⟩ := Outcome.bind_ok h
      obtain ⟨materialised, hmaterialised, h⟩ := Outcome.bind_ok h
      cases h
      exact ⟨rfl, policy, hpolicy, rfl, materialise_spec htenant hallowed hmaterialised⟩

theorem validate_tenantId {apiKey : ApiKey} {identity : Identity} (h : validateInfiniteApiKeyRecord apiKey = some identity) :
    identity.tenantId ≠ [] := by
  unfold validateInfiniteApiKeyRecord at h
  split at h
  · cases h
  · rename_i hvalid
    dsimp only at h
    split at h
    · cases h
    · cases h
      exact fun hblank => hvalid (Or.inl hblank)

end MaterialisedAux

open MaterialisedAux

/-- The candidates of an answer are those of the policy of the tenant, each with the connections that serve it, and rows of other
tenants change nothing about the answer. -/
theorem authorized_materialised (env : Env) (database : Database) (apiKeyValue : Value) (identity : Identity) (access : Site.InfiniteAccess)
    (fields : List (Text × Value)) (candidates : List Candidate)
    (h : authorizeInfiniteRequest env database apiKeyValue = .ok (.authorized identity access fields candidates)) :
    (∃ policy, policyOf database identity.tenantId = some policy ∧ fields = policyResponse policy.document ∧
      Materialised env database identity.tenantId policy candidates) ∧
      ∀ database', SameFor identity.tenantId database database' →
        authorizeInfiniteRequest env database' apiKeyValue = .ok (.authorized identity access fields candidates) := by
  unfold authorizeInfiniteRequest at h ⊢
  obtain ⟨text, htext, h⟩ := Outcome.bind_ok h
  simp only [htext, Outcome.ok_bind]
  dsimp only at h
  split at h
  · cases h
  · rename_i htoken
    cases hidentity : (database.apiKeys.find? fun row => row.keyHash = env.sha256 (Js.trim text) ∧ row.revokedAt = none).bind
        validateInfiniteApiKeyRecord with
    | none =>
      rw [hidentity] at h
      cases h
    | some found =>
      rw [hidentity] at h
      obtain ⟨apiKey, -, hvalid⟩ := Option.bind_eq_some_iff.1 hidentity
      obtain ⟨rfl, hpolicy⟩ := authorizeTenant_ok (validate_tenantId hvalid) h
      refine ⟨hpolicy, fun database' hsame => ?_⟩
      rw [if_neg htoken, hsame.apiKeys, hidentity]
      exact (authorizeTenant_same hsame).trans h

def exampleKey : Text := "lr_live_QEFCQ0RFRkdISUpLTE1OT1BRUlNUVVZX".toList

/-- SHA-256 of the key, and an order that agrees with `localeCompare` on the identifiers of the example. -/
def exampleEnv : Env where
  sha256 t := ([(exampleKey, "b157b3b3cd15f382f91a0590e6aab7692557b0d48b229f2882d8095df0f50560".toList)].lookup t).getD t
  localeLe a b := decide (a ≤ b)
  localeLe_total a b := (le_total a b).imp decide_eq_true decide_eq_true
  localeLe_trans _ _ _ h h' := decide_eq_true ((of_decide_eq_true h).trans (of_decide_eq_true h'))

/-- The template of a free candidate, of a quality. -/
def exampleDocument (quality : String) : Value :=
  .obj [("candidateId".toList, .str "free-openrouter".toList), ("provider".toList, .str "openrouter".toList),
    ("model".toList, .str "cohere/north-mini-code:free".toList), ("capacityClass".toList, .str "user_free".toList),
    ("admissionStatus".toList, .str "byok_only".toList), ("connectionSource".toList, .str "tenant_provider".toList),
    ("operationalState".toList, .obj [("estimatedRequestCostUsd".toList, .number "0".toList)]),
    ("quality".toList, .number quality.toList)]

def exampleConnection (id userId : String) : Connection where
  id := id.toList
  userId := some userId.toList
  provider := "openrouter".toList
  capacityClass := "user_free".toList
  admissionStatus := "byok_only".toList
  status := "active".toList

/-- A tenant overrides a candidate of all tenants, and has two connections; another tenant has one. -/
def exampleDatabase : Database where
  apiKeys := [{
    keyHash := exampleEnv.sha256 exampleKey
    id := "key-1".toList
    userId := some "tenant-1".toList
    kind := some "infinite".toList
    scopes := some ["infinite:infer".toList]
    revokedAt := none }]
  entitlements := [{
    userId := "tenant-1"
    userEmail := none
    product := "infinite"
    status := "active"
    scopes := ["infinite:infer"]
    source := "stripe_subscription" }]
  policies := [{
    tenantId := none
    document := .obj [("policyVersion".toList, .str "infinite-v1".toList),
      ("allowedCandidateIds".toList, .arr [.str "free-openrouter".toList])] }]
  candidates := [{ tenantId := none, enabled := true, document := exampleDocument "0.5" },
    { tenantId := some "tenant-1".toList, enabled := true, document := exampleDocument "0.9" }]
  connections := [exampleConnection "connection-b" "tenant-1", exampleConnection "connection-a" "tenant-1",
    exampleConnection "connection-c" "tenant-2"]

/-- Whose key it is. -/
def exampleIdentity : Identity where
  keyId := "key-1".toList
  tenantId := "tenant-1".toList
  scopes := ["infinite:infer".toList]

def exampleAccess : Site.InfiniteAccess where
  allowed := true
  entitlements := ["infinite"]
  scopes := ["infinite:infer"]
  beta := false

/-- The fields of the policy in the answer. -/
def exampleFields : List (Text × Value) :=
  [("policyVersion".toList, .str "infinite-v1".toList), ("modelVariationCoefficient".toList, .number "0.75".toList)]

def exampleCandidate : Candidate := candidateResponse (exampleDocument "0.9") ["connection-a".toList, "connection-b".toList]

theorem authorized_materialised_example :
    (∃ policy, policyOf exampleDatabase exampleIdentity.tenantId = some policy ∧ exampleFields = policyResponse policy.document ∧
      Materialised exampleEnv exampleDatabase exampleIdentity.tenantId policy [exampleCandidate]) ∧
      ∀ database', SameFor exampleIdentity.tenantId exampleDatabase database' →
        authorizeInfiniteRequest exampleEnv database' (.str exampleKey) =
          .ok (.authorized exampleIdentity exampleAccess exampleFields [exampleCandidate]) :=
  authorized_materialised exampleEnv exampleDatabase (.str exampleKey) exampleIdentity exampleAccess exampleFields [exampleCandidate] rfl

end InfiniteAuthority

end PromptRail
