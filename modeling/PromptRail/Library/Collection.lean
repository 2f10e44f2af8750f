import Mathlib.Data.List.Nodup

/-!
# Collections of a document database

A collection is the list of its rows in the order in which they were inserted, and each operation on it is atomic. The lemmas say
what `find?` finds after an upsert under the same filter, and under a filter that the upserted row does not meet, and that a key
which every upsert is keyed by stays unique.
-/

namespace Collection

universe u v

variable {α : Type u} {κ : Type v}

/-- `updateOne(filter, {"$set": ..})`: the first row that meets the filter is changed. -/
def updateOne (filter : α → Bool) (set : α → α) : List α → List α
  | [] => []
  | row :: rows => if filter row then set row :: rows else row :: updateOne filter set rows

/-- `updateOne(filter, {"$set": .., "$setOnInsert": ..}, {upsert: true})`. -/
def upsertOne (filter : α → Bool) (set : α → α) (fresh : α) (rows : List α) : List α :=
  if rows.any filter then updateOne filter set rows else rows ++ [fresh]

/-- `updateMany(filter, {"$set": ..})`. -/
def updateMany (filter : α → Bool) (set : α → α) (rows : List α) : List α :=
  rows.map fun row => if filter row then set row else row

variable {filter other : α → Bool} {set : α → α} {fresh : α} {rows : List α}

/-- A row after an update was there before, or is the changed row. -/
theorem mem_updateOne {row : α} (h : row ∈ updateOne filter set rows) :
    row ∈ rows ∨ ∃ before ∈ rows, filter before = true ∧ row = set before := by
  induction rows with
  | nil => cases h
  | cons first rows ih =>
    unfold updateOne at h
    split at h
    · rename_i hfirst
      rcases List.mem_cons.1 h with rfl | hrest
      · exact Or.inr ⟨first, List.mem_cons_self, hfirst, rfl⟩
      · exact Or.inl (List.mem_cons_of_mem _ hrest)
    · rcases List.mem_cons.1 h with rfl | hrest
      · exact Or.inl List.mem_cons_self
      · rcases ih hrest with hold | ⟨before, hbefore, hfilter, rfl⟩
        · exact Or.inl (List.mem_cons_of_mem _ hold)
        · exact Or.inr ⟨before, List.mem_cons_of_mem _ hbefore, hfilter, rfl⟩

/-- An update under a filter that no row meets changes nothing. -/
theorem updateOne_eq_self (h : ∀ row ∈ rows, filter row ≠ true) : updateOne filter set rows = rows := by
  induction rows with
  | nil => rfl
  | cons row rows ih =>
    rw [updateOne, if_neg (h row List.mem_cons_self), ih fun r hr => h r (List.mem_cons_of_mem _ hr)]

/-- A row after an upsert was there before, or is the changed row, or is the inserted row. -/
theorem mem_upsertOne {row : α} (h : row ∈ upsertOne filter set fresh rows) :
    row ∈ rows ∨ (∃ before ∈ rows, filter before = true ∧ row = set before) ∨ row = fresh := by
  unfold upsertOne at h
  split at h
  · exact (mem_updateOne h).imp_right Or.inl
  · exact (List.mem_append.1 h).imp_right fun hfresh => Or.inr (List.mem_singleton.1 hfresh)

/-- After an update, the filter finds the changed row. -/
theorem find?_updateOne (hset : ∀ row, filter row = true → filter (set row) = true) :
    (updateOne filter set rows).find? filter = (rows.find? filter).map set := by
  induction rows with
  | nil => rfl
  | cons row rows ih =>
    unfold updateOne
    split
    · rename_i h
      simp [h, hset row h]
    · rename_i h
      simpa [h] using ih

/-- After an upsert, the filter finds the changed or the inserted row. -/
theorem find?_upsertOne (hset : ∀ row, filter row = true → filter (set row) = true) (hfresh : filter fresh = true) :
    (upsertOne filter set fresh rows).find? filter = some (((rows.find? filter).map set).getD fresh) := by
  unfold upsertOne
  split
  · rename_i h
    rw [find?_updateOne hset]
    obtain ⟨row, hrow⟩ := Option.isSome_iff_exists.1 (List.find?_isSome.2 (List.any_eq_true.1 h))
    simp [hrow]
  · rename_i h
    have hnone : rows.find? filter = none := by
      rw [List.find?_eq_none]
      exact fun row hrow hfilter => h (List.any_eq_true.2 ⟨row, hrow, hfilter⟩)
    simp [List.find?_append, hnone, hfresh]

/-- A filter that neither the changed nor the inserted row meets finds what it found. -/
theorem find?_upsertOne_other (hold : ∀ row, filter row = true → other row = false)
    (hset : ∀ row, filter row = true → other (set row) = false) (hfresh : other fresh = false) :
    (upsertOne filter set fresh rows).find? other = rows.find? other := by
  have hupdate : (updateOne filter set rows).find? other = rows.find? other := by
    induction rows with
    | nil => rfl
    | cons row rows ih =>
      unfold updateOne
      split
      · rename_i h
        simp [hold row h, hset row h]
      · simp only [List.find?_cons, ih]
  unfold upsertOne
  split
  · exact hupdate
  · simp [List.find?_append, hfresh]

/-- Where a key is unique, an update changes the row that the filter finds, and only that. -/
theorem mem_updateOne_of_find? (set : α → α) {key : α → κ} (h : (rows.map key).Nodup) {row : α} (hfind : rows.find? filter = some row)
    {r : α} : r ∈ updateOne filter set rows ↔ r = set row ∨ r ∈ rows ∧ key r ≠ key row := by
  induction rows with
  | nil => cases hfind
  | cons first rows ih =>
    rw [List.map_cons, List.nodup_cons] at h
    unfold updateOne
    rw [List.find?_cons] at hfind
    split at hfind
    · rename_i hfirst
      cases hfind
      have hothers : ∀ r ∈ rows, key r ≠ key row := fun r hr heq => h.1 (heq ▸ List.mem_map_of_mem hr)
      rw [if_pos hfirst]
      simp only [List.mem_cons, or_and_right]
      refine or_congr_right ⟨fun hr => Or.inr ⟨hr, hothers r hr⟩, ?_⟩
      rintro (⟨rfl, hne⟩ | ⟨hr, -⟩)
      · exact absurd rfl hne
      · exact hr
    · rename_i hfirst
      have hkey : key first ≠ key row := fun heq => h.1 (heq ▸ List.mem_map_of_mem (List.mem_of_find?_eq_some hfind))
      rw [if_neg (Bool.eq_false_iff.1 hfirst), List.mem_cons, ih h.2 hfind, List.mem_cons, or_and_right, or_left_comm]
      refine or_congr_right (or_congr_left ⟨?_, And.left⟩)
      rintro rfl
      exact ⟨rfl, hkey⟩

/-- The same, where the filter is met by one key. -/
theorem mem_updateOne_iff (set : α → α) {key : α → κ} (h : (rows.map key).Nodup) {row : α} (hrow : row ∈ rows)
    (hmeets : filter row = true) (hfilter : ∀ r ∈ rows, filter r = true → key r = key row) {r : α} :
    r ∈ updateOne filter set rows ↔ r = set row ∨ r ∈ rows ∧ key r ≠ key row := by
  cases hfind : rows.find? filter with
  | none => exact absurd hmeets (List.find?_eq_none.1 hfind row hrow)
  | some found =>
    have hmem := List.mem_of_find?_eq_some hfind
    obtain rfl := List.inj_on_of_nodup_map h hmem hrow (hfilter found hmem (List.find?_some hfind))
    exact mem_updateOne_of_find? set h hfind

/-- A key that the updates keep stays unique. -/
theorem nodup_updateOne {key : α → κ} (hset : ∀ row, filter row = true → key (set row) = key row) (h : (rows.map key).Nodup) :
    ((updateOne filter set rows).map key).Nodup := by
  have hkeys : (updateOne filter set rows).map key = rows.map key := by
    clear h
    induction rows with
    | nil => rfl
    | cons row rows ih =>
      unfold updateOne
      split
      · rename_i hrow
        simp [hset row hrow]
      · simp [ih]
  rwa [hkeys]

/-- A key that the filter is about stays unique. -/
theorem nodup_upsertOne [DecidableEq κ] {key : α → κ} {k : κ} (hfilter : ∀ row, filter row = true ↔ key row = k)
    (hset : ∀ row, filter row = true → key (set row) = k) (hfresh : key fresh = k) (h : (rows.map key).Nodup) :
    ((upsertOne filter set fresh rows).map key).Nodup := by
  unfold upsertOne
  split
  · exact nodup_updateOne (fun row hrow => (hset row hrow).trans ((hfilter row).1 hrow).symm) h
  · rename_i hnone
    rw [List.map_append, List.map_singleton]
    refine List.nodup_append.2 ⟨h, List.nodup_singleton _, ?_⟩
    intro a ha b hb hab
    obtain rfl := List.mem_singleton.1 hb
    obtain ⟨row, hrow, rfl⟩ := List.mem_map.1 ha
    exact hnone (List.any_eq_true.2 ⟨row, hrow, (hfilter row).2 (hab.trans hfresh)⟩)

/-- A row that does not meet the filter is left. -/
theorem mem_upsertOne_of_mem {row : α} (h : row ∈ rows) (hrow : filter row = false) : row ∈ upsertOne filter set fresh rows := by
  have hupdate : row ∈ updateOne filter set rows := by
    induction rows with
    | nil => cases h
    | cons first rows ih =>
      unfold updateOne
      rcases List.mem_cons.1 h with rfl | hrest
      · simp [hrow]
      · split
        · exact List.mem_cons_of_mem _ hrest
        · exact List.mem_cons_of_mem _ (ih hrest)
  unfold upsertOne
  split
  · exact hupdate
  · exact List.mem_append_left _ h

/-- After an upsert that sets a row whatever was there, the row under its unique key is that row. -/
theorem eq_of_mem_upsertOne [DecidableEq κ] {key : α → κ} {row : α} (h : (rows.map key).Nodup)
    (hmem : row ∈ upsertOne (fun old => key old = key fresh) (fun _ => fresh) fresh rows) (hkey : key row = key fresh) :
    row = fresh := by
  have hnodup : ((upsertOne (fun old => key old = key fresh) (fun _ => fresh) fresh rows).map key).Nodup :=
    nodup_upsertOne (k := key fresh) (by simp) (by simp) rfl h
  have hfind : (upsertOne (fun old => key old = key fresh) (fun _ => fresh) fresh rows).find? (fun old => key old = key fresh) =
      some (((rows.find? fun old => key old = key fresh).map fun _ => fresh).getD fresh) :=
    find?_upsertOne (by simp) (by simp)
  have hfresh : fresh ∈ upsertOne (fun old => key old = key fresh) (fun _ => fresh) fresh rows := by
    refine List.mem_of_find?_eq_some (p := fun old => decide (key old = key fresh)) (hfind.trans ?_)
    cases rows.find? fun old => decide (key old = key fresh) <;> rfl
  exact List.inj_on_of_nodup_map hnodup hmem hfresh hkey

/-- Where the rows that meet a filter agree on what more is asked for, the filter finds what both find, if it meets the rest. -/
theorem find?_and {more : α → Bool}
    (h : ∀ a ∈ rows, ∀ b ∈ rows, filter a = true → filter b = true → more a = more b) :
    rows.find? (fun row => filter row && more row) = (rows.find? filter).filter more := by
  induction rows with
  | nil => rfl
  | cons row rows ih =>
    have hrest := ih fun a ha b hb => h a (List.mem_cons_of_mem _ ha) b (List.mem_cons_of_mem _ hb)
    cases hrow : filter row with
    | false => simpa [hrow] using hrest
    | true =>
      cases hmore : more row with
      | true => simp [hrow, hmore, Option.filter]
      | false =>
        have hnone : rows.find? (fun r => filter r && more r) = none := by
          rw [List.find?_eq_none]
          intro r hr hboth
          rw [Bool.and_eq_true] at hboth
          have := h r (List.mem_cons_of_mem _ hr) row List.mem_cons_self hboth.1 hrow
          rw [hboth.2, hmore] at this
          cases this
        simp [hrow, hmore, hnone, Option.filter]

/-- An upsert of a row under a key puts the row in the place of the one of that key. -/
theorem mem_upsertOne_const [DecidableEq κ] {key : α → κ} {k : κ} (hfilter : ∀ row, filter row = true ↔ key row = k)
    (h : (rows.map key).Nodup) {r : α} : r ∈ upsertOne filter (fun _ => fresh) fresh rows ↔ r = fresh ∨ r ∈ rows ∧ key r ≠ k := by
  unfold upsertOne
  split
  · rename_i hany
    obtain ⟨row, hrow, hmeets⟩ := List.any_eq_true.1 hany
    rw [← (hfilter row).1 hmeets]
    exact mem_updateOne_iff _ h hrow hmeets fun other _ hother => ((hfilter other).1 hother).trans ((hfilter row).1 hmeets).symm
  · rename_i hnone
    have hothers : ∀ row ∈ rows, key row ≠ k := fun row hrow hkey => hnone (List.any_eq_true.2 ⟨row, hrow, (hfilter row).2 hkey⟩)
    rw [List.mem_append, List.mem_singleton, or_comm]
    exact or_congr_right ⟨fun hr => ⟨hr, hothers r hr⟩, And.left⟩

/-- A query sees no more than a wider one does. -/
theorem filter_eq_of_filter_eq {rows' : List α} (hwider : ∀ row, other row = true → filter row = true)
    (h : rows.filter filter = rows'.filter filter) : rows.filter other = rows'.filter other := by
  have hboth : ∀ l : List α, l.filter other = (l.filter filter).filter other := by
    intro l
    rw [List.filter_filter]
    refine List.filter_congr fun row _ => ?_
    cases hother : other row with
    | false => rfl
    | true => rw [hwider row hother]; rfl
  rw [hboth, h, ← hboth]

end Collection
