import PromptRail.ProviderConnections.Changes

/-!
# Rotation and revocation

A rotation reads a row, encrypts, and writes only if the row is active and of the version that was read. So the version counts the
rotations that reported success, the envelope is that of the last of them, and a row that was revoked stays as it is, whatever other
requests run in between.
-/

namespace PromptRail

namespace ProviderConnections

open PyText (Text)
open Js (Value)
open Concurrent (World Action)
open Transition

variable {Key Box : Type}

/-! ## What is to hold -/

/-- The envelope that a connection is to have, which was created with the first one. -/
def History.latest (history : History Box) (first : Connection Box) : Envelope Box :=
  match history.rotationsOf first.id with
  | [] => first.credentialEnvelope
  | rotation :: _ => rotation.credentialEnvelope

/-- The rows are as the rotations and revocations that reported success left them, and no two rotations of a connection that read the
same version both succeeded. -/
structure Accounted (rows : List (Connection Box)) (history : History Box) : Prop where
  version : ∀ row ∈ rows, row.credentialVersion = 1 + (history.rotationsOf row.id).length
  envelope : ∀ row ∈ rows, ∃ first ∈ history.created, first.id = row.id ∧ row.credentialEnvelope = history.latest first
  revoked : ∀ row ∈ history.revoked, row.status = .revoked ∧ row ∈ rows
  once : (history.rotations.map fun rotation => (rotation.connectionId, rotation.readVersion)).Nodup

/-- The user on whose behalf a request runs. -/
def Task.userId : Task Box → Option Text
  | .requested (.create userId _) | .requested (.createReviewed userId _) | .requested (.revoke userId _)
  | .requested (.rotate userId _ _) | .replace userId _ _ _ _ => some userId
  | .insert row => row.userId
  | .done _ => none

/-- A step leaves every row as it is, but for one that is active and whose owner's request reports success by it; and if a request
fails, it leaves all of them. -/
structure Guarded (env : Env Key Box) (w : State Box) (a : Event) : Prop where
  owned : ∀ row ∈ w.store, row ∈ ((system env).step w a).store ∨ row.status = .active ∧ ∃ t told task outcome, a = .turn t told ∧
    w.threads.lookup t = some task ∧ task.userId = row.userId ∧
    ((system env).step w a).threads.lookup t = some (.done (.ok outcome))
  failed : ∀ t told e, a = .turn t told → ((system env).step w a).threads.lookup t = some (.done (.error e)) →
    ((system env).step w a).store = w.store

namespace RotationAux

variable {env : Env Key Box} {w : State Box} {history : History Box} {rows : List (Connection Box)} {row : Connection Box}

/-! ## The invariant -/

/-- The rows and the history, and the rows that are about to be inserted. -/
structure Kept (w : State Box) (history : History Box) : Prop where
  ids : (w.store.map (·.id)).Nodup
  accounted : Accounted w.store history
  older : ∀ rotation ∈ history.rotations, ∃ row ∈ w.store, row.id = rotation.connectionId ∧
    rotation.readVersion < row.credentialVersion
  fresh : ∀ t row, w.threads.lookup t = some (.insert row) → row.credentialVersion = 1

theorem kept_empty : Kept ({ store := [] } : State Box) {} where
  ids := List.nodup_nil
  accounted := ⟨fun _ h => absurd h List.not_mem_nil, fun _ h => absurd h List.not_mem_nil, fun _ h => absurd h List.not_mem_nil,
    List.nodup_nil⟩
  older _ h := absurd h List.not_mem_nil
  fresh _ _ h := absurd h (Option.some_ne_none _).symm

theorem eq_of_id (h : (rows.map (·.id)).Nodup) {row row' : Connection Box} (hrow : row ∈ rows) (hrow' : row' ∈ rows)
    (hid : row.id = row'.id) : row = row' :=
  List.inj_on_of_nodup_map h hrow hrow' hid

/-- A connection that is not in the collection was not rotated. -/
theorem rotationsOf_new (h : Kept w history) (hnew : ∀ r ∈ w.store, r.id ≠ row.id) : history.rotationsOf row.id = [] := by
  refine List.filter_eq_nil_iff.2 fun rotation hmem heq => ?_
  obtain ⟨r, hr, hid, -⟩ := h.older rotation hmem
  exact hnew r hr (hid.trans (of_decide_eq_true heq))

theorem latest_congr {history' : History Box} {first : Connection Box}
    (h : history'.rotationsOf first.id = history.rotationsOf first.id) : history'.latest first = history.latest first := by
  simp only [History.latest, h]

/-! ## The three turns that write -/

theorem accounted_insert (h : Kept w history) (hversion : row.credentialVersion = 1) (hnew : ∀ r ∈ w.store, r.id ≠ row.id) :
    Accounted (w.store ++ [row]) { history with created := row :: history.created } := by
  constructor
  case version =>
    intro r hr
    rcases List.mem_append.1 hr with hold | hlast
    · exact h.accounted.version r hold
    · cases List.mem_singleton.1 hlast
      show _ = 1 + (history.rotationsOf row.id).length
      rw [rotationsOf_new h hnew, hversion]
      rfl
  case envelope =>
    intro r hr
    rcases List.mem_append.1 hr with hold | hlast
    · obtain ⟨first, hfirst, hid, henvelope⟩ := h.accounted.envelope r hold
      exact ⟨first, List.mem_cons_of_mem _ hfirst, hid, henvelope⟩
    · cases List.mem_singleton.1 hlast
      refine ⟨row, List.mem_cons_self, rfl, ?_⟩
      show _ = history.latest row
      rw [History.latest, rotationsOf_new h hnew]
  case revoked =>
    intro r hr
    exact (h.accounted.revoked r hr).imp_right fun hold => List.mem_append_left _ hold
  case once => exact h.accounted.once

variable {userId connectionId : Text}

/-- The rows after a write to the row of a connection. -/
theorem mem_update (set : Connection Box → Connection Box) {filter : Connection Box → Bool} (h : (rows.map (·.id)).Nodup)
    (hrow : row ∈ rows) (hmeets : filter row = true) (hfilter : ∀ r, filter r = true → r.id = row.id) {r : Connection Box} :
    r ∈ Collection.updateOne filter set rows ↔ r = set row ∨ r ∈ rows ∧ r.id ≠ row.id :=
  Collection.mem_updateOne_iff set h hrow hmeets (fun r _ => hfilter r)

/-- A row other than the one that is written stays, and so does every row that was revoked. -/
theorem revoked_stays {filter : Connection Box → Bool} {set : Connection Box → Connection Box} (h : Kept w history)
    (hrow : row ∈ w.store) (hmeets : filter row = true) (hfilter : ∀ r, filter r = true → r.id = row.id)
    (hactive : row.status = .active) {r : Connection Box} (hr : r ∈ history.revoked) :
    r.status = .revoked ∧ r ∈ Collection.updateOne filter set w.store := by
  obtain ⟨hstatus, hmem⟩ := h.accounted.revoked r hr
  refine ⟨hstatus, (mem_update set h.ids hrow hmeets hfilter).2 (Or.inr ⟨hmem, fun hid => ?_⟩)⟩
  rw [eq_of_id h.ids hmem hrow hid, hactive] at hstatus
  cases hstatus

theorem accounted_revoke (h : Kept w history) (hrow : row ∈ w.store) (hmeets : activeFilter connectionId userId row = true)
    (now : Nat) :
    Accounted (Collection.updateOne (activeFilter connectionId userId) (Connection.revoke now) w.store)
      { history with revoked :=
          (Collection.updateOne (activeFilter connectionId userId) (Connection.revoke now) w.store).filter (·.id = connectionId) ++
            history.revoked } := by
  obtain ⟨hid, -, hactive⟩ := activeFilter_iff.1 hmeets
  have hfilter : ∀ r : Connection Box, activeFilter connectionId userId r = true → r.id = row.id :=
    fun r hr => (activeFilter_iff.1 hr).1.trans hid.symm
  have hmem := fun r => mem_update (Connection.revoke now) h.ids hrow hmeets hfilter (r := r)
  constructor
  case version =>
    intro r hr
    rcases (hmem r).1 hr with rfl | ⟨hold, -⟩
    · exact h.accounted.version row hrow
    · exact h.accounted.version r hold
  case envelope =>
    intro r hr
    rcases (hmem r).1 hr with rfl | ⟨hold, -⟩
    · exact h.accounted.envelope row hrow
    · exact h.accounted.envelope r hold
  case revoked =>
    intro r hr
    rcases List.mem_append.1 hr with hnew | hold
    · obtain ⟨hin, hidr⟩ := List.mem_filter.1 hnew
      refine ⟨?_, hin⟩
      rcases (hmem r).1 hin with rfl | ⟨-, hne⟩
      · rfl
      · exact absurd ((of_decide_eq_true hidr).trans hid.symm) hne
    · exact revoked_stays h hrow hmeets hfilter hactive hold
  case once => exact h.accounted.once

variable {read : Connection Box} {credentialEnvelope : Envelope Box}

/-- The history after a rotation has reported success. -/
def rotated (history : History Box) (connectionId : Text) (read : Connection Box) (credentialEnvelope : Envelope Box) : History Box :=
  { history with
    rotations := { connectionId, readVersion := read.credentialVersion, credentialEnvelope } :: history.rotations }

theorem rotationsOf_rotated (id : Text) : (rotated history connectionId read credentialEnvelope).rotationsOf id =
    if connectionId = id then
      { connectionId, readVersion := read.credentialVersion, credentialEnvelope } :: history.rotationsOf id
    else history.rotationsOf id := by
  simp only [rotated, History.rotationsOf, List.filter_cons, decide_eq_true_eq]

theorem accounted_replace (h : Kept w history) (hrow : row ∈ w.store)
    (hmeets : versionFilter connectionId userId read.credentialVersion row = true) (now : Nat) :
    Accounted (Collection.updateOne (versionFilter connectionId userId read.credentialVersion)
        (Connection.replace (read.credentialVersion + 1) credentialEnvelope now) w.store)
      (rotated history connectionId read credentialEnvelope) := by
  obtain ⟨⟨hid, -, hactive⟩, hversion⟩ := versionFilter_iff.1 hmeets
  have hfilter : ∀ r : Connection Box, versionFilter connectionId userId read.credentialVersion r = true → r.id = row.id :=
    fun r hr => (versionFilter_iff.1 hr).1.1.trans hid.symm
  have hmem := fun r =>
    mem_update (Connection.replace (read.credentialVersion + 1) credentialEnvelope now) h.ids hrow hmeets hfilter (r := r)
  have hother : ∀ r : Connection Box, r.id ≠ row.id →
      (rotated history connectionId read credentialEnvelope).rotationsOf r.id = history.rotationsOf r.id := by
    intro r hne
    rw [rotationsOf_rotated, if_neg fun heq => hne (heq.symm.trans hid.symm)]
  constructor
  case version =>
    intro r hr
    rcases (hmem r).1 hr with rfl | ⟨hold, hne⟩
    · show read.credentialVersion + 1 = 1 + ((rotated history connectionId read credentialEnvelope).rotationsOf row.id).length
      rw [rotationsOf_rotated, if_pos hid.symm, List.length_cons, ← hversion, h.accounted.version row hrow]
      omega
    · rw [hother r hne]
      exact h.accounted.version r hold
  case envelope =>
    intro r hr
    rcases (hmem r).1 hr with rfl | ⟨hold, hne⟩
    · obtain ⟨first, hfirst, hfid, -⟩ := h.accounted.envelope row hrow
      refine ⟨first, hfirst, hfid, ?_⟩
      rw [History.latest, rotationsOf_rotated, if_pos (hid.symm.trans hfid.symm)]
      rfl
    · obtain ⟨first, hfirst, hfid, henvelope⟩ := h.accounted.envelope r hold
      refine ⟨first, hfirst, hfid, henvelope.trans (latest_congr ?_).symm⟩
      exact hother first (hfid ▸ hne)
  case revoked => exact fun r hr => revoked_stays h hrow hmeets hfilter hactive hr
  case once =>
    refine List.nodup_cons.2 ⟨fun hbefore => ?_, h.accounted.once⟩
    -- an earlier rotation that read this version would have left a later one
    obtain ⟨rotation, hrotation, heq⟩ := List.mem_map.1 hbefore
    obtain ⟨r, hr, hrid, hlt⟩ := h.older rotation hrotation
    obtain ⟨hconnection, hread⟩ := Prod.mk.inj heq
    rw [eq_of_id h.ids hr hrow (hrid.trans (hconnection.trans hid.symm)), hversion, hread] at hlt
    exact Nat.lt_irrefl _ hlt

/-! ## One step -/

theorem made_version {task : Task Box} {told : Input} (h : (turn env rows task told).2 = .insert row) : row.credentialVersion = 1 := by
  rcases made_of_insert h with ⟨_, _, hrow⟩ | ⟨_, _, hrow⟩
  · obtain ⟨_, -, -, hmade⟩ := createdRow_ok hrow
    exact hmade.credentialVersion
  · obtain ⟨_, -, -, hmade⟩ := reviewedRow_ok hrow
    exact hmade.credentialVersion

/-- A row that is to be inserted is fresh, whatever a turn makes of another request. -/
theorem fresh_turn (env : Env Key Box) (h : Kept w history) (t : Concurrent.ThreadId) (task : Task Box) (told : Input)
    (t' : Concurrent.ThreadId) (row : Connection Box)
    (hlookup : (w.threads.insert t (turn env w.store task told).2).lookup t' = some (.insert row)) : row.credentialVersion = 1 := by
  rcases Table.of_lookup_insert hlookup with ⟨-, hnext⟩ | ⟨-, hold⟩
  · exact made_version hnext.symm
  · exact h.fresh t' row hold

/-- The row that a rotation saw is still there, of no smaller version, after a write. -/
theorem older_update (set : Connection Box → Connection Box) {filter : Connection Box → Bool} (h : Kept w history)
    (hrow : row ∈ w.store) (hmeets : filter row = true) (hfilter : ∀ r, filter r = true → r.id = row.id)
    (hset : (set row).id = row.id ∧ row.credentialVersion ≤ (set row).credentialVersion) :
    ∀ rotation ∈ history.rotations, ∃ r ∈ Collection.updateOne filter set w.store, r.id = rotation.connectionId ∧
      rotation.readVersion < r.credentialVersion := by
  intro rotation hmem
  obtain ⟨r, hr, hid, hlt⟩ := h.older rotation hmem
  by_cases hsame : r.id = row.id
  · rw [eq_of_id h.ids hr hrow hsame] at hid hlt
    exact ⟨set row, (mem_update set h.ids hrow hmeets hfilter).2 (Or.inl rfl), hset.1.trans hid, Nat.lt_of_lt_of_le hlt hset.2⟩
  · exact ⟨r, (mem_update set h.ids hrow hmeets hfilter).2 (Or.inr ⟨hr, hsame⟩), hid, hlt⟩

theorem kept_step (a : Event) (h : Kept w history) (hnew : InsertsNew w a) :
    Kept ((system env).step w a) (observe env history w a ((system env).step w a)) := by
  rcases step_cases env w a with ⟨hstore, hseen, -, hthreads⟩ | ⟨t, told, task, rfl, ht, hs⟩
  · rw [hseen]
    refine ⟨by rw [hstore]; exact h.ids, by rw [hstore]; exact h.accounted, by rw [hstore]; exact h.older, fun t row hlookup => ?_⟩
    rcases hthreads t _ hlookup with hold | ⟨_, hrequest⟩ | ⟨_, hdone⟩
    · exact h.fresh t row hold
    · cases hrequest
    · cases hdone
  · have hfresh := fresh_turn env h t task told
    rw [hs]
    simp only [observe, ht]
    rcases turn_cases env w.store task told with ⟨hrows, -, hseen⟩ | ⟨row, rfl, hturn⟩ |
      ⟨userId, connectionId, row, rfl, hrow, hmeets, hturn⟩ | ⟨userId, connectionId, read, envelope, now, row, rfl, hrow, hmeets, hturn⟩
    · rw [hrows, hseen]
      exact ⟨h.ids, h.accounted, h.older, hfresh⟩
    · rw [hturn] at hfresh ⊢
      simp only [InsertsNew, ht] at hnew
      refine ⟨ids_insert h.ids hnew, accounted_insert h (h.fresh t row ht) hnew, fun rotation hmem => ?_, hfresh⟩
      obtain ⟨r, hr, hrest⟩ := h.older rotation hmem
      exact ⟨r, List.mem_append_left _ hr, hrest⟩
    · rw [hturn] at hfresh ⊢
      have hfilter : ∀ r : Connection Box, activeFilter connectionId userId r = true → r.id = row.id :=
        fun r hr => (activeFilter_iff.1 hr).1.trans (activeFilter_iff.1 hmeets).1.symm
      have holder := older_update (Connection.revoke told.now) h hrow hmeets hfilter ⟨rfl, Nat.le_refl _⟩
      exact ⟨Collection.nodup_updateOne (fun _ _ => rfl) h.ids, accounted_revoke h hrow hmeets told.now, holder, hfresh⟩
    · rw [hturn] at hfresh ⊢
      obtain ⟨⟨hid, -, -⟩, hversion⟩ := versionFilter_iff.1 hmeets
      have hfilter : ∀ r : Connection Box, versionFilter connectionId userId read.credentialVersion r = true → r.id = row.id :=
        fun r hr => (versionFilter_iff.1 hr).1.1.trans hid.symm
      have holder := older_update (Connection.replace (read.credentialVersion + 1) envelope now) h hrow hmeets hfilter
        ⟨rfl, hversion ▸ Nat.le_succ _⟩
      refine ⟨Collection.nodup_updateOne (fun _ _ => rfl) h.ids, accounted_replace h hrow hmeets now, fun rotation hmem => ?_, hfresh⟩
      rcases List.mem_cons.1 hmem with rfl | hold
      · exact ⟨_, (mem_update _ h.ids hrow hmeets hfilter).2 (Or.inl rfl), hid, Nat.lt_succ_self _⟩
      · exact holder rotation hold

/-- A row that a request of its owner writes, and reports success by it. -/
theorem owned_update {filter : Connection Box → Bool} {set : Connection Box → Connection Box} (h : Kept w history)
    (hrow : row ∈ w.store) (hmeets : filter row = true) (hfilter : ∀ r, filter r = true → r.id = row.id)
    {P : Connection Box → Prop} (hP : P row) :
    ∀ r ∈ w.store, r ∈ Collection.updateOne filter set w.store ∨ P r := by
  intro r hr
  by_cases hid : r.id = row.id
  · rw [eq_of_id h.ids hr hrow hid]
    exact Or.inr hP
  · exact Or.inl ((mem_update set h.ids hrow hmeets hfilter).2 (Or.inr ⟨hr, hid⟩))

theorem guarded_step (a : Event) (h : Kept w history) : Guarded env w a := by
  rcases step_cases env w a with ⟨hstore, -, hnone, -⟩ | ⟨t, told, task, rfl, ht, hs⟩
  · refine ⟨fun row hrow => Or.inl (by rwa [hstore]), fun _ _ _ _ _ => hstore⟩
  · have hnext : ((system env).step w (.turn t told)).threads.lookup t = some (turn env w.store task told).2 := by
      rw [hs]
      exact AList.lookup_insert _
    have hfailed : (∀ e, (turn env w.store task told).2 = .done (.error e) → (turn env w.store task told).1 = w.store) →
        ∀ t' told' e, (Action.turn t told : Event) = .turn t' told' →
          ((system env).step w (.turn t told)).threads.lookup t' = some (.done (.error e)) →
          ((system env).step w (.turn t told)).store = w.store := by
      intro hsame t' told' e hact hlookup
      cases hact
      rw [hnext] at hlookup
      rw [hs]
      exact hsame e (Option.some.inj hlookup)
    rcases turn_cases env w.store task told with ⟨hrows, -, -⟩ | ⟨row, rfl, hturn⟩ |
      ⟨userId, connectionId, row, rfl, hrow, hmeets, hturn⟩ | ⟨userId, connectionId, read, envelope, now, row, rfl, hrow, hmeets, hturn⟩
    · refine ⟨fun row hrow => Or.inl ?_, hfailed fun _ _ => hrows⟩
      rw [hs, hrows]
      exact hrow
    · refine ⟨fun r hr => Or.inl ?_, hfailed fun e he => ?_⟩
      · rw [hs, hturn]
        exact List.mem_append_left _ hr
      · rw [hturn] at he
        cases he
    · obtain ⟨hid, howner, hactive⟩ := activeFilter_iff.1 hmeets
      constructor
      · rw [hs, hturn]
        refine owned_update h hrow hmeets (fun r hr => (activeFilter_iff.1 hr).1.trans hid.symm) ?_
        exact ⟨hactive, t, told, _, _, rfl, ht, howner.symm, AList.lookup_insert _⟩
      · refine hfailed fun e he => ?_
        rw [hturn] at he
        cases he
    · obtain ⟨⟨hid, howner, hactive⟩, -⟩ := versionFilter_iff.1 hmeets
      constructor
      · rw [hs, hturn]
        refine owned_update h hrow hmeets (fun r hr => (versionFilter_iff.1 hr).1.1.trans hid.symm) ?_
        exact ⟨hactive, t, told, _, _, rfl, ht, howner.symm, AList.lookup_insert _⟩
      · refine hfailed fun e he => ?_
        rw [hturn] at he
        cases he

end RotationAux

open RotationAux

/-! ## Every run -/

/-- In every interleaving of requests, the connections are as the requests that reported success left them, and no step changes one
but its owner's that reports success by it. -/
theorem connections_accounted (env : Env Key Box) (actions : List Event)
    (hnew : Along (monitor (system env).step (observe env)) (fun w a => InsertsNew w.1 a) ({ store := [] }, {}) actions) :
    Throughout (monitor (system env).step (observe env)) (fun w => Accounted w.1.store w.2) ({ store := [] }, {}) actions ∧
      Along (monitor (system env).step (observe env)) (fun w a => Guarded env w.1 a) ({ store := [] }, {}) actions := by
  have hkept : Throughout (monitor (system env).step (observe env)) (fun w => Kept w.1 w.2) ({ store := [] }, {}) actions :=
    throughout_of_along (I := fun w : State Box × History Box => Kept w.1 w.2) (fun _ a h hgood => kept_step a h hgood) kept_empty hnew
  exact ⟨hkept.mono fun w h => h.accounted, hkept.along fun w a h => guarded_step a h⟩

/-- Two rotations read the same version, and the connection is revoked in the end. -/
def exampleRun : List Event :=
  [.begin 0 (.create "u1".toList exampleInput), .turn 0 (exampleTold 0), .turn 0 (exampleTold 0),
    .begin 1 (.rotate "u1".toList exampleId (.str "sk-2".toList)), .begin 2 (.rotate "u1".toList exampleId (.str "sk-3".toList)),
    .turn 1 (exampleTold 1), .turn 2 (exampleTold 0), .turn 1 (exampleTold 1), .turn 2 (exampleTold 0),
    .begin 3 (.revoke "u1".toList exampleId), .turn 3 (exampleTold 0)]

theorem connections_accounted_example :
    Along (monitor (system exampleEnv).step (observe exampleEnv)) (fun w a => Guarded exampleEnv w.1 a) ({ store := [] }, {}) exampleRun :=
  (connections_accounted exampleEnv exampleRun (by decide +kernel)).2

end ProviderConnections

end PromptRail
