import Mathlib.Data.List.AList
import Mathlib.Data.List.Induction
import Mathlib.Algebra.BigOperators.Group.List.Basic
import Mathlib.Algebra.Order.BigOperators.Group.List

/-!
# Tables: finite maps and the totals over their rows

A table is Mathlib's association list with distinct keys. `total f` adds a measure of every row. The lemmas say what a total
does when a row is added, removed or replaced; a ledger whose state is a table is verified with these three and the sign of
the measure.
-/

namespace Table

universe u v w

/-- A table from keys to rows: a finite map, without an order that anything depends on. -/
abbrev Dict (κ : Type u) (V : Type v) := AList (fun _ : κ => V)

variable {κ : Type u} {V : Type v} {M : Type w}

/-- The sum of a measure over the rows of a table. -/
def total [AddCommMonoid M] (f : κ → V → M) (d : Dict κ V) : M := (d.entries.map fun e => f e.1 e.2).sum

/-- The table of a list of rows: of several rows under one key, the last one stands. -/
def ofList [DecidableEq κ] (rows : List (κ × V)) : Dict κ V := rows.foldl (fun d p => d.insert p.1 p.2) ∅

/-- The number of rows of a table. -/
def size (d : Dict κ V) : Nat := d.entries.length

/-- The rows whose keys satisfy `p`. -/
def keep (p : κ → Bool) (d : Dict κ V) : Dict κ V :=
  ⟨d.entries.filter fun e => p e.1, d.nodupKeys.sublist List.filter_sublist⟩

section Total

variable [AddCommMonoid M] (f : κ → V → M)

@[simp] theorem total_empty : total f (∅ : Dict κ V) = 0 := rfl

variable [DecidableEq κ]

/-- Rows that all measure nothing. -/
theorem total_eq_zero {f : κ → V → M} {d : Dict κ V} (h : ∀ k v, d.lookup k = some v → f k v = 0) : total f d = 0 := by
  refine List.sum_eq_zero ?_
  intro x hx
  obtain ⟨e, he, rfl⟩ := List.mem_map.1 hx
  exact h e.1 e.2 (AList.mem_lookup_iff.2 he)

/-- A row that is present, and the table without it: a permutation of the rows. -/
theorem entries_perm_erase {d : Dict κ V} {k : κ} {v : V} (h : d.lookup k = some v) :
    d.entries.Perm (⟨k, v⟩ :: (d.erase k).entries) := by
  have hm : (⟨k, v⟩ : Sigma fun _ : κ => V) ∈ d.entries := AList.mem_lookup_iff.1 h
  have hk : k ∈ d.entries.keys := List.mem_keys_of_mem hm
  obtain ⟨b, l₁, l₂, _, hd, he⟩ := List.exists_of_kerase hk
  have hb : b = v := by
    have hb' : (⟨k, b⟩ : Sigma fun _ : κ => V) ∈ d.entries := by rw [hd]; simp
    exact d.nodupKeys.eq_of_mk_mem hb' hm
  subst hb
  show d.entries.Perm (⟨k, b⟩ :: List.kerase k d.entries)
  rw [he, hd]
  exact List.perm_middle

/-- A new row adds its measure. -/
theorem total_insert {d : Dict κ V} {k : κ} (v : V) (h : k ∉ d) : total f (d.insert k v) = f k v + total f d := by
  unfold total
  rw [AList.entries_insert_of_notMem h, List.map_cons, List.sum_cons]

/-- A row that is removed takes its measure with it. -/
theorem total_erase {d : Dict κ V} {k : κ} {v : V} (h : d.lookup k = some v) :
    total f d = f k v + total f (d.erase k) := by
  unfold total
  rw [((entries_perm_erase h).map _).sum_eq]
  simp

/-- A row that is replaced trades its measure for the new one. -/
theorem total_replace {d : Dict κ V} {k : κ} {v : V} (w : V) (h : d.lookup k = some v) :
    f k v + total f (d.insert k w) = f k w + total f d := by
  have he : (d.insert k w).entries = ⟨k, w⟩ :: (d.erase k).entries := AList.entries_insert
  rw [total_erase f h]
  simp only [total, he, List.map_cons, List.sum_cons]
  rw [← add_assoc, ← add_assoc, add_comm (f k v)]

end Total

/-! ## Order -/

section Order

variable [AddCommMonoid M] [PartialOrder M] [IsOrderedAddMonoid M]

/-- A total of nonnegative measures is nonnegative. -/
theorem total_nonneg {f : κ → V → M} {d : Dict κ V} (h : ∀ e ∈ d.entries, 0 ≤ f e.1 e.2) : 0 ≤ total f d := by
  refine List.sum_nonneg ?_
  intro x hx
  obtain ⟨e, he, rfl⟩ := List.mem_map.1 hx
  exact h e he

/-- Over a table of nonnegative measures, no row measures more than the total. -/
theorem le_total [DecidableEq κ] {f : κ → V → M} {d : Dict κ V} (h : ∀ e ∈ d.entries, 0 ≤ f e.1 e.2) {k : κ} {v : V}
    (hk : d.lookup k = some v) : f k v ≤ total f d := by
  rw [total_erase f hk]
  refine le_add_of_nonneg_right (total_nonneg fun e he => h e ?_)
  exact ((entries_perm_erase hk).mem_iff).2 (List.mem_cons_of_mem _ he)

end Order

/-! ## Size -/

@[simp] theorem size_empty : size (∅ : Dict κ V) = 0 := rfl

section

variable [DecidableEq κ]

theorem size_insert {d : Dict κ V} {k : κ} (v : V) (h : k ∉ d) : size (d.insert k v) = size d + 1 := by
  unfold size
  rw [AList.entries_insert_of_notMem h, List.length_cons]

theorem size_erase {d : Dict κ V} {k : κ} {v : V} (h : d.lookup k = some v) : size d = size (d.erase k) + 1 := by
  have := (entries_perm_erase h).length_eq
  simpa [size] using this

/-- The rows of a table with one row added or replaced: the new row, and the old rows under other keys. -/
theorem lookup_insert_eq {d : Dict κ V} (k k' : κ) (v : V) :
    (d.insert k v).lookup k' = if k' = k then some v else d.lookup k' := by
  by_cases h : k' = k
  · subst h; simp
  · simp [h]

/-- A row of a table with one row added or replaced is the new row, or an old one under another key. -/
theorem of_lookup_insert {d : Dict κ V} {k k' : κ} {v w : V} (h : (d.insert k v).lookup k' = some w) :
    k' = k ∧ w = v ∨ k' ≠ k ∧ d.lookup k' = some w := by
  rw [lookup_insert_eq] at h
  split at h
  · exact Or.inl ⟨‹_›, (Option.some.inj h).symm⟩
  · exact Or.inr ⟨‹_›, h⟩

/-- A new row leaves every row as it is. -/
theorem lookup_insert_of_notMem {d : Dict κ V} {k k' : κ} {v : V} (w : V) (hk : k ∉ d) (h : d.lookup k' = some v) :
    (d.insert k w).lookup k' = some v := by
  rw [lookup_insert_eq, if_neg]
  · exact h
  · rintro rfl
    exact hk (AList.lookup_isSome.1 (by rw [h]; rfl))

/-- The rows of a table with one row removed: the old rows under other keys. -/
theorem lookup_erase_eq {d : Dict κ V} (k k' : κ) :
    (d.erase k).lookup k' = if k' = k then none else d.lookup k' := by
  by_cases h : k' = k
  · subst h; simp
  · simp [h]

/-- The rows that are kept are those whose keys satisfy the condition. -/
theorem lookup_keep (p : κ → Bool) {d : Dict κ V} {k : κ} {v : V} :
    (keep p d).lookup k = some v ↔ p k = true ∧ d.lookup k = some v := by
  rw [← Option.mem_def, ← Option.mem_def, AList.mem_lookup_iff, AList.mem_lookup_iff, keep, List.mem_filter]
  exact and_comm

theorem mem_iff_lookup {d : Dict κ V} {k : κ} : k ∈ d ↔ ∃ v, d.lookup k = some v := by
  rw [← AList.lookup_isSome, Option.isSome_iff_exists]

theorem lookup_foldl_insert {rows : List (κ × V)} (hn : (rows.map Prod.fst).Nodup) (d : Dict κ V) (k : κ) (v : V) :
    (rows.foldl (fun d p => d.insert p.1 p.2) d).lookup k = some v ↔
      (k, v) ∈ rows ∨ k ∉ rows.map Prod.fst ∧ d.lookup k = some v := by
  induction rows generalizing d with
  | nil => simp
  | cons p rest ih =>
    obtain ⟨hp, hrest⟩ := List.nodup_cons.1 hn
    rw [List.foldl_cons, ih hrest, lookup_insert_eq]
    by_cases hk : k = p.1
    · subst hk
      have hnot : (p.1, v) ∉ rest := fun hmem => hp (List.mem_map.2 ⟨(p.1, v), hmem, rfl⟩)
      rw [if_pos rfl]
      constructor
      · rintro (hmem | ⟨-, hv⟩)
        · exact absurd hmem hnot
        · exact Or.inl (List.mem_cons.2 (Or.inl (Prod.ext rfl (Option.some.inj hv).symm)))
      · rintro (hmem | ⟨hmem, -⟩)
        · rcases List.mem_cons.1 hmem with heq | hmem
          · exact Or.inr ⟨hp, congrArg (fun q => some q.2) heq.symm⟩
          · exact absurd hmem hnot
        · exact absurd List.mem_cons_self hmem
    · rw [if_neg hk, List.map_cons, List.mem_cons, List.mem_cons]
      have hne : (k, v) ≠ p := fun heq => hk (congrArg Prod.fst heq)
      simp [hk, hne]

/-- A table of rows under different keys has exactly these rows. -/
theorem lookup_ofList_iff {rows : List (κ × V)} (hn : (rows.map Prod.fst).Nodup) {k : κ} {v : V} :
    (ofList rows).lookup k = some v ↔ (k, v) ∈ rows := by
  unfold ofList
  rw [lookup_foldl_insert hn]
  simp

/-- In a table of rows the last row under a key stands. -/
theorem lookup_ofList (rows : List (κ × V)) (k : κ) :
    (ofList rows).lookup k = (rows.reverse.find? fun p => p.1 = k).map (·.2) := by
  induction rows using List.reverseRecOn with
  | nil => rfl
  | append_singleton rows p ih =>
    rw [ofList, List.foldl_append, List.foldl_cons, List.foldl_nil, lookup_insert_eq, List.reverse_append,
      List.reverse_singleton, List.singleton_append]
    by_cases hk : k = p.1
    · rw [if_pos hk, List.find?_cons_of_pos (by simp [hk]), Option.map_some]
    · rw [if_neg hk, List.find?_cons_of_neg (by simpa using Ne.symm hk)]
      exact ih

/-- Rows under different keys make the same table in every order. -/
theorem lookup_ofList_perm {rows rows' : List (κ × V)} (hn : (rows.map Prod.fst).Nodup) (h : rows.Perm rows') (k : κ) :
    (ofList rows).lookup k = (ofList rows').lookup k := by
  refine Option.ext fun v => ?_
  rw [lookup_ofList_iff hn, lookup_ofList_iff ((h.map Prod.fst).nodup_iff.1 hn), h.mem_iff]

/-- A table without rows. -/
theorem eq_empty {d : Dict κ V} (h : ∀ k, d.lookup k = none) : d = ∅ := by
  refine AList.ext (List.eq_nil_iff_forall_not_mem.2 fun e he => ?_)
  have hlookup := AList.mem_lookup_iff.2 he
  rw [h e.1] at hlookup
  cases hlookup

end

/-! ## Many rows at once -/

/-- Every row replaced, under its key. -/
def mapRows (f : κ → V → V) (d : Dict κ V) : Dict κ V where
  entries := d.entries.map fun e => ⟨e.1, f e.1 e.2⟩
  nodupKeys := by
    have hk : (d.entries.map fun e => (⟨e.1, f e.1 e.2⟩ : Sigma fun _ : κ => V)).keys = d.entries.keys := by
      simp [List.keys]
    unfold List.NodupKeys
    rw [hk]
    exact d.nodupKeys

section

variable [DecidableEq κ]

theorem lookup_mapRows (f : κ → V → V) (d : Dict κ V) (k : κ) : (mapRows f d).lookup k = (d.lookup k).map (f k) := by
  ext v
  constructor
  · intro h
    obtain ⟨e, he, hv⟩ := List.mem_map.1 (AList.mem_lookup_iff.1 h)
    cases hv
    exact Option.map_eq_some_iff.2 ⟨e.2, AList.mem_lookup_iff.2 he, rfl⟩
  · intro h
    obtain ⟨v', hv', rfl⟩ := Option.map_eq_some_iff.1 h
    exact AList.mem_lookup_iff.2 (List.mem_map.2 ⟨⟨k, v'⟩, AList.mem_lookup_iff.1 hv', rfl⟩)

/-- Rows that are replaced one after the other, as long as each is there and a guard admits it: what a transaction does, which
leaves the table as it was when one of them fails. The error is the key of the row that failed. -/
def updateEach (guard : V → Bool) (update : V → V) : List κ → Dict κ V → Except κ (Dict κ V)
  | [], d => .ok d
  | k :: ks, d =>
    match d.lookup k with
    | none => .error k
    | some v => if guard v then updateEach guard update ks (d.insert k (update v)) else .error k

/-- The rows of other keys do not decide whether a row fails. -/
theorem updateEach_ok {guard : V → Bool} {update : V → V} {ks : List κ} {d d' : Dict κ V} (hn : ks.Nodup)
    (h : updateEach guard update ks d = .ok d') :
    (∀ k ∈ ks, ∃ v, d.lookup k = some v ∧ guard v = true) ∧
      ∀ k, d'.lookup k = if k ∈ ks then (d.lookup k).map update else d.lookup k := by
  induction ks generalizing d with
  | nil =>
    cases h
    exact ⟨by simp, by simp⟩
  | cons k ks ih =>
    obtain ⟨hk, hn⟩ := List.nodup_cons.1 hn
    rw [updateEach] at h
    split at h
    · cases h
    · rename_i v hv
      split at h
      · rename_i hg
        obtain ⟨hrows, hlookup⟩ := ih hn h
        refine ⟨?_, ?_⟩
        · intro k' hk'
          rcases List.mem_cons.1 hk' with rfl | hmem
          · exact ⟨v, hv, hg⟩
          · obtain ⟨v', hv', hg'⟩ := hrows k' hmem
            rw [lookup_insert_eq, if_neg (by rintro rfl; exact hk hmem)] at hv'
            exact ⟨v', hv', hg'⟩
        · intro k'
          rw [hlookup, lookup_insert_eq]
          by_cases hid : k' = k
          · subst hid
            simp [hk, hv]
          · simp [hid]
      · cases h

/-- The row that failed. -/
theorem updateEach_error {guard : V → Bool} {update : V → V} {ks : List κ} {d : Dict κ V} {k : κ} (hn : ks.Nodup)
    (h : updateEach guard update ks d = .error k) : k ∈ ks ∧ ∀ v, d.lookup k = some v → guard v = false := by
  induction ks generalizing d with
  | nil => cases h
  | cons k' ks ih =>
    obtain ⟨hk', hn⟩ := List.nodup_cons.1 hn
    rw [updateEach] at h
    split at h
    · rename_i hv
      cases h
      exact ⟨List.mem_cons_self, by simp [hv]⟩
    · rename_i v hv
      split at h
      · obtain ⟨hmem, hg⟩ := ih hn h
        refine ⟨List.mem_cons_of_mem _ hmem, ?_⟩
        intro v' hv'
        refine hg v' ?_
        rw [lookup_insert_eq, if_neg (by rintro rfl; exact hk' hmem)]
        exact hv'
      · rename_i hg
        cases h
        refine ⟨List.mem_cons_self, ?_⟩
        intro v' hv'
        rw [hv] at hv'
        cases hv'
        simpa using hg

end

/-! ## The rows one table has and another lacks -/

section Gone

variable [DecidableEq κ]

/-- The rows of `d` whose keys `e` lacks. -/
def gone (d e : Dict κ V) : List (Sigma fun _ : κ => V) := d.entries.filter fun x => x.1 ∉ e

theorem gone_eq_nil {d e : Dict κ V} (h : ∀ k, k ∈ d → k ∈ e) : gone d e = [] := by
  refine List.filter_eq_nil_iff.2 ?_
  intro x hx
  simpa using h x.1 (List.mem_keys_of_mem hx)

@[simp] theorem gone_self (d : Dict κ V) : gone d d = [] := gone_eq_nil fun _ h => h

@[simp] theorem gone_empty (d : Dict κ V) : gone d ∅ = d.entries := by
  simp [gone]

@[simp] theorem gone_insert (d : Dict κ V) (k : κ) (v : V) : gone d (d.insert k v) = [] :=
  gone_eq_nil fun _ h => (AList.mem_insert d).2 (Or.inr h)

@[simp] theorem gone_erase_left (d : Dict κ V) (k : κ) : gone (d.erase k) d = [] :=
  gone_eq_nil fun _ h => (AList.mem_erase.1 h).2

@[simp] theorem gone_empty_left (d : Dict κ V) : gone (∅ : Dict κ V) d = [] := rfl

/-- A row that was inserted is the one row the table before lacks. -/
theorem insert_gone {d : Dict κ V} {k : κ} (v : V) (h : k ∉ d) : gone (d.insert k v) d = [⟨k, v⟩] := by
  have hn : gone d d = [] := gone_self d
  unfold gone at hn ⊢
  rw [AList.entries_insert_of_notMem h, List.filter_cons_of_pos (by simpa using h), hn]

/-- A row that was removed is the one row the table after lacks. -/
theorem gone_erase {d : Dict κ V} {k : κ} {v : V} (h : d.lookup k = some v) : gone d (d.erase k) = [⟨k, v⟩] := by
  have hp : (gone d (d.erase k)).Perm [⟨k, v⟩] := by
    have hn : gone (d.erase k) (d.erase k) = [] := gone_self _
    refine ((entries_perm_erase h).filter _).trans ?_
    unfold gone at hn
    rw [List.filter_cons_of_pos (by simp), hn]
  exact List.perm_singleton.1 hp

end Gone

end Table
