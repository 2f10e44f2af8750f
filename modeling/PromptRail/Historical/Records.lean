import PromptRail.Historical.Events
import PromptRail.Library.JsonKeys
import PromptRail.Library.Outcome
import PromptRail.Privacy.Idempotent

/-!
# The records of a source

Bytes and texts are read into dictionaries, and so is what Python hands over a tree of them: the keys of each mapping differ. The records of
a source are mappings of this tree, and the attributes of a record are a dictionary, also where they are given as a list.
-/

namespace PromptRail

namespace Historical

open PyText (Text)
open Privacy (Key Attribute)
open Python (Datum Record Interpreter get getAny mappingsOf DistinctItems DistinctList)

/-- The keys of every mapping of a value that is handed over differ. -/
def Source.Distinct : Source → Prop
  | .bytes _ | .text _ => True
  | .value raw => raw.Distinct

namespace RecordsAux

theorem distinctItems_iff {items : Record} : DistinctItems items ↔ ∀ p ∈ items, p.2.Distinct := by
  induction items with
  | nil => simp [DistinctItems]
  | cons p rest ih => rw [DistinctItems, ih, List.forall_mem_cons]

theorem distinctList_iff {items : List Datum} : DistinctList items ↔ ∀ d ∈ items, d.Distinct := by
  induction items with
  | nil => simp [DistinctList]
  | cons d rest ih => rw [DistinctList, ih, List.forall_mem_cons]

theorem distinct_mapping_iff {items : Record} :
    (Datum.mapping items).Distinct ↔ (items.map Prod.fst).Nodup ∧ ∀ p ∈ items, p.2.Distinct := by
  rw [Datum.Distinct, distinctItems_iff]

/-! ## Reading -/

variable {env : Interpreter}

theorem ofJsonList_eq (xs : List Json.Value) : Python.ofJsonList env xs = xs.map (Python.ofJson env) := by
  induction xs with
  | nil => rfl
  | cons x xs ih => rw [Python.ofJsonList, ih, List.map_cons]

theorem ofJsonFields_eq (fields : Json.Fields) :
    Python.ofJsonFields env fields = fields.map fun p => (Key.str p.1.toList, Python.ofJson env p.2) := by
  induction fields with
  | nil => rfl
  | cons p fields ih => rw [Python.ofJsonFields, ih, List.map_cons]

theorem distinct_ofJson {v : Json.Value} (h : Json.Keyed v) : (Python.ofJson env v).Distinct := by
  induction h with
  | arr _ ih =>
    rw [Python.ofJson, ofJsonList_eq, Datum.Distinct, distinctList_iff]
    exact List.forall_mem_map.2 ih
  | obj hnodup _ ih =>
    rw [Python.ofJson, ofJsonFields_eq, distinct_mapping_iff]
    refine ⟨?_, List.forall_mem_map.2 ih⟩
    have hkeys := hnodup.map (f := fun name : String => Key.str name.toList) fun a b heq =>
      String.toList_injective (Key.str.inj heq)
    rwa [List.map_map] at hkeys ⊢
  | null | bool | int | float | str => trivial

theorem keyed_decodeLines {n : Nat} {lines : List Text} {records : List Json.Fields} (h : decodeLines n lines = .ok records) :
    ∀ fields ∈ records, Json.Keyed (.obj fields) := by
  induction lines generalizing n records with
  | nil =>
    cases h
    simp
  | cons line lines ih =>
    rw [decodeLines] at h
    split at h
    · exact ih h
    · split at h
      · cases h
      · rename_i fields hload
        obtain ⟨rest, hrest, rfl⟩ := Outcome.map_ok h
        exact List.forall_mem_cons.2 ⟨Json.keyed_loads hload, ih hrest⟩
      · cases h

theorem keyed_decodeText {t : Text} {v : Json.Value} (h : decodeText t = .ok v) : Json.Keyed v := by
  unfold decodeText at h
  dsimp only at h
  split at h
  · cases h
  · split at h
    · rename_i raw hload
      cases h
      exact Json.keyed_loads hload
    · obtain ⟨records, hlines, rfl⟩ := Outcome.map_ok h
      exact .arr (List.forall_mem_map.2 (keyed_decodeLines hlines))

/-- What is read of a source is made of dictionaries. -/
theorem distinct_decodeSource {source : Source} (hdistinct : source.Distinct) {raw : Datum} (h : decodeSource env source = .ok raw) :
    raw.Distinct := by
  cases source with
  | value =>
    cases h
    exact hdistinct
  | text t =>
    obtain ⟨v, hv, rfl⟩ := Outcome.map_ok h
    rw [decodeInput] at hv
    split at hv
    · cases hv
    · exact distinct_ofJson (keyed_decodeText hv)
  | bytes bytes =>
    obtain ⟨v, hv, rfl⟩ := Outcome.map_ok h
    rw [decodeInput] at hv
    split at hv
    · cases hv
    · split at hv
      · cases hv
      · exact distinct_ofJson (keyed_decodeText hv)

/-! ## Fields -/

theorem distinct_get {record : Record} (h : (Datum.mapping record).Distinct) (name : String) : (get record name).Distinct := by
  unfold Python.get
  cases hlookup : record.lookup (.str name.toList) with
  | none => trivial
  | some d =>
    obtain ⟨l₁, l₂, rfl, -⟩ := List.lookup_eq_some_iff.1 hlookup
    exact (distinct_mapping_iff.1 h).2 _ (List.mem_append_right l₁ List.mem_cons_self)

variable (env) in
theorem distinct_getAny {record : Record} (h : (Datum.mapping record).Distinct) (names : List String) :
    (getAny env record names).Distinct := by
  induction names with
  | nil => trivial
  | cons name names ih =>
    cases names with
    | nil => exact distinct_get h name
    | cons next names =>
      rw [Python.getAny_cons]
      split
      · exact distinct_get h name
      · exact ih

theorem distinct_mappingsOf {values : List Datum} (h : DistinctList values) :
    ∀ record ∈ mappingsOf values, (Datum.mapping record).Distinct := by
  intro record hrecord
  obtain ⟨d, hd, hmapping⟩ := List.mem_filterMap.1 hrecord
  have := distinctList_iff.1 h d hd
  split at hmapping <;> cases hmapping
  exact this

/-! ## Records -/

theorem distinct_mappingRecordsOf {values : List Datum} (h : DistinctList values) {records : List Record}
    (hrecords : mappingRecordsOf values = .ok records) : ∀ record ∈ records, (Datum.mapping record).Distinct := by
  rw [mappingRecordsOf] at hrecords
  split at hrecords <;> cases hrecords
  exact distinct_mappingsOf h

theorem distinct_scopeSpans {scope : Record} (h : (Datum.mapping scope).Distinct) {records : List Record}
    (hrecords : scopeSpans env scope = .ok records) : ∀ record ∈ records, (Datum.mapping record).Distinct := by
  have hspans := distinct_get h "spans"
  rw [scopeSpans] at hrecords
  split at hrecords
  · cases hrecords
    simp
  · generalize get scope "spans" = spans at hspans hrecords
    cases spans with
    | list | tuple =>
      cases hrecords
      exact distinct_mappingsOf hspans
    | str | mapping =>
      cases hrecords
      simp
    | object o =>
      cases hyielded : env.iterate o with
      | none =>
        simp only [hyielded] at hrecords
        cases hrecords
      | some items =>
        simp only [hyielded] at hrecords
        cases hrecords
        exact distinct_mappingsOf (env.distinct_iterate o items hyielded)
    | none | bool | int | float => cases hrecords

theorem distinct_resourceScopes {resource : Record} (h : (Datum.mapping resource).Distinct) :
    ∀ scope ∈ resourceScopes env resource, (Datum.mapping scope).Distinct := by
  have hscopes := distinct_getAny env h ["scopeSpans", "instrumentationLibrarySpans"]
  rw [resourceScopes]
  split
  · rename_i items hlist
    rw [hlist] at hscopes
    exact distinct_mappingsOf hscopes
  · simp

theorem distinct_otlpRecordsOf {values : List Datum} (h : DistinctList values) {records : List Record}
    (hrecords : otlpRecordsOf env values = .ok records) : ∀ record ∈ records, (Datum.mapping record).Distinct := by
  obtain ⟨collected, hcollected, hrecords⟩ := Outcome.bind_ok hrecords
  obtain ⟨-, hrecords⟩ := Outcome.check_ok_iff.1 hrecords
  cases hrecords
  intro record hrecord
  obtain ⟨spans, hspans, hrecord⟩ := List.mem_flatten.1 hrecord
  obtain ⟨scope, hscope, hread⟩ := Outcome.mem_mapM hcollected hspans
  obtain ⟨resource, hresource, hscope⟩ := List.mem_flatMap.1 hscope
  exact distinct_scopeSpans (distinct_resourceScopes (distinct_mappingsOf h resource hresource) scope hscope) hread record hrecord

theorem distinct_listField {record : Record} (h : (Datum.mapping record).Distinct) {name : String} {items : List Datum}
    (hitems : listField? record name = some items) : DistinctList items := by
  have hfield := distinct_get h name
  rw [listField?] at hitems
  split at hitems <;> cases hitems
  rename_i heq
  rwa [heq] at hfield

/-- The records of a value are among its dictionaries. -/
theorem distinct_extractFrom {raw : Datum} (h : raw.Distinct) {extracted : List Record × String}
    (hextracted : extractFrom env raw = .ok extracted) : ∀ record ∈ extracted.1, (Datum.mapping record).Distinct := by
  cases raw with
  | mapping raw =>
    rw [extractFrom] at hextracted
    split at hextracted
    · rename_i hevents
      obtain ⟨records, hrecords, rfl⟩ := Outcome.map_ok hextracted
      exact distinct_mappingRecordsOf (distinct_listField h hevents) hrecords
    · rename_i hspans
      obtain ⟨records, hrecords, rfl⟩ := Outcome.map_ok hextracted
      exact distinct_otlpRecordsOf (distinct_listField h hspans) hrecords
    · rename_i hspans
      obtain ⟨records, hrecords, rfl⟩ := Outcome.map_ok hextracted
      exact distinct_mappingRecordsOf (distinct_listField h hspans) hrecords
    · split at hextracted <;> cases hextracted
      exact List.forall_mem_singleton.2 h
  | list | tuple =>
    obtain ⟨records, hrecords, rfl⟩ := Outcome.map_ok hextracted
    exact distinct_mappingRecordsOf h hrecords
  | object o =>
    rw [extractFrom] at hextracted
    cases hyielded : env.iterate o with
    | none =>
      rw [hyielded] at hextracted
      cases hextracted
    | some items =>
      rw [hyielded] at hextracted
      obtain ⟨records, hrecords, rfl⟩ := Outcome.map_ok hextracted
      exact distinct_mappingRecordsOf (env.distinct_iterate o items hyielded) hrecords
  | none | bool | int | float | str => cases hextracted

/-! ## Attributes -/

theorem setItem_mem {items : Record} {key : Key} {value : Datum} {p : Key × Datum} (h : p ∈ Python.setItem items key value) :
    p = (key, value) ∨ p ∈ items := by
  induction items with
  | nil => exact Or.inl (List.mem_singleton.1 h)
  | cons q rest ih =>
    obtain ⟨key', value'⟩ := q
    rw [Python.setItem] at h
    split at h
    · exact (List.mem_cons.1 h).imp id (List.mem_cons_of_mem _)
    · rcases List.mem_cons.1 h with rfl | h
      · exact Or.inr List.mem_cons_self
      · exact (ih h).imp id (List.mem_cons_of_mem _)

theorem nodup_setItem {items : Record} (h : (items.map Prod.fst).Nodup) (key : Key) (value : Datum) :
    ((Python.setItem items key value).map Prod.fst).Nodup := by
  induction items with
  | nil => exact List.nodup_singleton key
  | cons q rest ih =>
    obtain ⟨key', value'⟩ := q
    rw [List.map_cons, List.nodup_cons] at h
    rw [Python.setItem]
    split
    · rename_i hkey
      subst hkey
      exact List.nodup_cons.2 h
    · rename_i hkey
      refine List.nodup_cons.2 ⟨fun hmem => ?_, ih h.2⟩
      obtain ⟨p, hp, hfst⟩ := List.mem_map.1 hmem
      rcases setItem_mem hp with rfl | hp
      · exact hkey hfst.symm
      · exact h.1 (hfst ▸ List.mem_map_of_mem hp)

theorem distinct_unwrap {d : Datum} (h : d.Distinct) : (unwrap d).Distinct := by
  unfold unwrap
  split
  · exact (distinct_mapping_iff.1 h).2 _ List.mem_cons_self
  · exact h

theorem distinct_setAttribute {output : Record} (houtput : (Datum.mapping output).Distinct) {item : Datum} (h : item.Distinct) :
    (Datum.mapping (setAttribute output item)).Distinct := by
  cases item with
  | mapping items =>
    rw [setAttribute]
    split
    · rw [distinct_mapping_iff] at houtput ⊢
      refine ⟨nodup_setItem houtput.1 _ _, fun p hp => ?_⟩
      rcases setItem_mem hp with rfl | hp
      · exact distinct_unwrap (distinct_get h "value")
      · exact houtput.2 p hp
    · exact houtput
  | none | bool | int | float | str | list | tuple | object => exact houtput

/-- The attributes of a record are a dictionary. -/
theorem distinct_attributesOf {d : Datum} (h : d.Distinct) : (Datum.mapping (attributesOf d)).Distinct := by
  have hempty : (Datum.mapping []).Distinct := ⟨List.nodup_nil, trivial⟩
  cases d with
  | mapping => exact h
  | list values =>
    have hfold : ∀ (output : Record), (Datum.mapping output).Distinct → (Datum.mapping (values.foldl setAttribute output)).Distinct := by
      have hvalues := distinctList_iff.1 h
      clear h
      induction values with
      | nil => exact fun output houtput => houtput
      | cons item values ih =>
        obtain ⟨hitem, hvalues⟩ := List.forall_mem_cons.1 hvalues
        exact fun output houtput => ih hvalues _ (distinct_setAttribute houtput hitem)
    exact hfold [] hempty
  | none | bool | int | float | str | tuple | object => exact hempty

theorem map_fst_toItems (items : Record) : (Python.toItems items).map Prod.fst = items.map Prod.fst := by
  induction items with
  | nil => rfl
  | cons p rest ih => rw [Python.toItems, List.map_cons, List.map_cons, ih]

mutual

theorem distinct_toAttribute {d : Datum} (h : d.Distinct) : d.toAttribute.Distinct := by
  match d with
  | .mapping items =>
    rw [Datum.toAttribute, Attribute.Distinct, map_fst_toItems]
    exact ⟨h.1, distinct_toItems h.2⟩
  | .list items | .tuple items => exact distinct_toSequence h
  | .none | .bool _ | .int _ | .float _ | .str _ | .object _ => trivial

theorem distinct_toItems {items : Record} (h : DistinctItems items) : Privacy.DistinctItems (Python.toItems items) := by
  match items with
  | [] => trivial
  | (_, _) :: _ => exact ⟨distinct_toAttribute h.1, distinct_toItems h.2⟩

theorem distinct_toSequence {items : List Datum} (h : DistinctList items) : Privacy.DistinctElements (Python.toSequence items) := by
  match items with
  | [] => trivial
  | _ :: _ => exact ⟨distinct_toAttribute h.1, distinct_toSequence h.2⟩

end

end RecordsAux

end Historical

end PromptRail
