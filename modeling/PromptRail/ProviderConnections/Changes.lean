import PromptRail.ProviderConnections
import PromptRail.Library.Transition

/-!
# What a request does to the connections

Three turns write: the insertion of a row, a revocation, and the second half of a rotation. `turn_cases` says what each of them does,
and `step_cases` what a step of the system does.
-/

namespace PromptRail

namespace ProviderConnections

open PyText (Text)
open Js (Value)
open Concurrent (World Action)

/-! ## Histories -/

/-- A rotation that reported success: the version that it read, and the envelope that it wrote. -/
structure Rotation (Box : Type) where
  connectionId : Text
  readVersion : Nat
  credentialEnvelope : Envelope Box

/-- What has been seen of a run, the latest first: the rows as they were inserted, the rotations that reported success, and the rows as
they were left by a revocation. -/
structure History (Box : Type) where
  created : List (Connection Box) := []
  rotations : List (Rotation Box) := []
  revoked : List (Connection Box) := []

variable {Key Box : Type}

/-- The rotations of a connection. -/
def History.rotationsOf (history : History Box) (connectionId : Text) : List (Rotation Box) :=
  history.rotations.filter (·.connectionId = connectionId)

/-- What is seen of a turn: the rows after it, what the request was about to do, and what it does next. -/
def History.see (history : History Box) (rows : List (Connection Box)) (task next : Task Box) : History Box :=
  match task, next with
  | .insert row, _ => { history with created := row :: history.created }
  | .replace _ connectionId row credentialEnvelope _, .done (.ok _) =>
    { history with rotations := { connectionId, readVersion := row.credentialVersion, credentialEnvelope } :: history.rotations }
  | .requested (.revoke _ connectionId), .done (.ok (.revoked true)) =>
    { history with revoked := rows.filter (·.id = connectionId) ++ history.revoked }
  | _, _ => history

/-- A state of the system. -/
abbrev State (Box : Type) := World (List (Connection Box)) (Task Box)

/-- What can happen to the system. -/
abbrev Event := Action Request Input Empty

/-- What a history sees of a step. -/
def observe (env : Env Key Box) (history : History Box) (w : State Box) (a : Event) (_ : State Box) : History Box :=
  match a with
  | .turn t told =>
    match w.threads.lookup t with
    | none => history
    | some task => history.see (turn env w.store task told).1 task (turn env w.store task told).2
  | .begin _ _ | .halt _ | .happen _ => history

/-- An identifier is not drawn twice: that of a row which is inserted is no other row's. -/
def InsertsNew (w : State Box) : Event → Prop
  | .turn t _ =>
    match w.threads.lookup t with
    | some (.insert row) => ∀ r ∈ w.store, r.id ≠ row.id
    | _ => True
  | .begin _ _ | .halt _ | .happen _ => True

/-- The check of the identifier of a row that is inserted. -/
def drawsNew (w : State Box) : Event → Bool
  | .turn t _ =>
    match w.threads.lookup t with
    | some (.insert row) => decide (∀ r ∈ w.store, r.id ≠ row.id)
    | _ => true
  | .begin _ _ | .halt _ | .happen _ => true

theorem drawsNew_iff (w : State Box) (a : Event) : drawsNew w a = true ↔ InsertsNew w a := by
  cases a with
  | turn t told =>
    simp only [drawsNew, InsertsNew]
    cases w.threads.lookup t with
    | none => simp
    | some task => cases task <;> simp
  | _ => simp [drawsNew, InsertsNew]

instance (w : State Box) (a : Event) : Decidable (InsertsNew w a) := decidable_of_iff _ (drawsNew_iff w a)

/-! ## Turns -/

variable {env : Env Key Box} {rows : List (Connection Box)} {task : Task Box} {told : Input} {userId connectionId : Text}
  {row : Connection Box}

theorem activeFilter_iff : activeFilter connectionId userId row = true ↔
    row.id = connectionId ∧ row.userId = some userId ∧ row.status = .active := decide_eq_true_iff

theorem versionFilter_iff {credentialVersion : Nat} : versionFilter connectionId userId credentialVersion row = true ↔
    (row.id = connectionId ∧ row.userId = some userId ∧ row.status = .active) ∧ row.credentialVersion = credentialVersion := by
  rw [versionFilter, decide_eq_true_iff, activeFilter_iff]

/-- A turn writes nothing and is seen to do nothing, or it inserts a row, revokes one or replaces the envelope of one. -/
theorem turn_cases (env : Env Key Box) (rows : List (Connection Box)) (task : Task Box) (told : Input) :
    ((turn env rows task told).1 = rows ∧ (∀ row, task ≠ .insert row) ∧
      ∀ history : History Box, history.see rows task (turn env rows task told).2 = history) ∨
    (∃ row, task = .insert row ∧ turn env rows task told = (rows ++ [row], .done (.ok (.created (publicProviderConnection row))))) ∨
    (∃ userId connectionId row, task = .requested (.revoke userId connectionId) ∧ row ∈ rows ∧
      activeFilter connectionId userId row = true ∧
      turn env rows task told = (Collection.updateOne (activeFilter connectionId userId) (Connection.revoke told.now) rows,
        .done (.ok (.revoked true)))) ∨
    (∃ userId connectionId read credentialEnvelope now row, task = .replace userId connectionId read credentialEnvelope now ∧
      row ∈ rows ∧ versionFilter connectionId userId read.credentialVersion row = true ∧
      turn env rows task told = (Collection.updateOne (versionFilter connectionId userId read.credentialVersion)
          (Connection.replace (read.credentialVersion + 1) credentialEnvelope now) rows,
        .done (.ok (.rotated (publicProviderConnection
          (row.replace (read.credentialVersion + 1) credentialEnvelope now)))))) := by
  cases task with
  | requested request =>
    cases request with
    | create userId input => exact Or.inl ⟨rfl, (fun _ h => nomatch h), fun _ => rfl⟩
    | createReviewed userId input => exact Or.inl ⟨rfl, (fun _ h => nomatch h), fun _ => rfl⟩
    | revoke userId connectionId =>
      cases hany : rows.any (activeFilter connectionId userId) with
      | false =>
        refine Or.inl ⟨?_, (fun _ h => nomatch h), fun _ => ?_⟩
        · exact Collection.updateOne_eq_self fun r hr => List.any_eq_false.1 hany r hr
        · simp only [turn, hany, History.see]
      | true =>
        obtain ⟨row, hrow, hfilter⟩ := List.any_eq_true.1 hany
        refine Or.inr (Or.inr (Or.inl ⟨userId, connectionId, row, rfl, hrow, hfilter, ?_⟩))
        simp only [turn, hany]
    | rotate userId connectionId apiKey => exact Or.inl ⟨rfl, (fun _ h => nomatch h), fun _ => rfl⟩
  | insert row => exact Or.inr (Or.inl ⟨row, rfl, rfl⟩)
  | replace userId connectionId read credentialEnvelope now =>
    cases hfind : rows.find? (versionFilter connectionId userId read.credentialVersion) with
    | none =>
      refine Or.inl ⟨?_, (fun _ h => nomatch h), fun _ => ?_⟩
      · simp only [turn, hfind]
      · simp only [turn, hfind, History.see]
    | some row =>
      refine Or.inr (Or.inr (Or.inr ⟨userId, connectionId, read, credentialEnvelope, now, row, rfl, List.mem_of_find?_eq_some hfind,
        List.find?_some hfind, ?_⟩))
      simp only [turn, hfind]
  | done outcome => exact Or.inl ⟨rfl, (fun _ h => nomatch h), fun _ => rfl⟩

/-- A rotation writes the row that it finds as it was read. -/
theorem store_replace {read : Connection Box} {credentialEnvelope : Envelope Box} {now : Nat} (hrow : row ∈ rows)
    (hmeets : versionFilter connectionId userId read.credentialVersion row = true) :
    (turn env rows (.replace userId connectionId read credentialEnvelope now) told).1 =
      Collection.updateOne (versionFilter connectionId userId read.credentialVersion)
        (Connection.replace (read.credentialVersion + 1) credentialEnvelope now) rows := by
  cases hfind : rows.find? (versionFilter connectionId userId read.credentialVersion) with
  | none => exact absurd hmeets (List.find?_eq_none.1 hfind row hrow)
  | some updated => simp only [turn, hfind]

theorem step_turn {w : State Box} {t : Concurrent.ThreadId} (h : w.threads.lookup t = some task) :
    ((system env).step w (.turn t told)).store = (turn env w.store task told).1 := by
  simp only [Concurrent.Program.step, h]
  rfl

/-- The identifiers stay unique when a row is inserted whose identifier is new. -/
theorem ids_insert (h : (rows.map (·.id)).Nodup) (hnew : ∀ r ∈ rows, r.id ≠ row.id) : ((rows ++ [row]).map (·.id)).Nodup := by
  rw [List.map_append, List.map_singleton]
  refine List.nodup_append.2 ⟨h, List.nodup_singleton _, ?_⟩
  intro id hid id' hid'
  obtain ⟨r, hr, rfl⟩ := List.mem_map.1 hid
  rw [List.mem_singleton.1 hid']
  exact hnew r hr

/-- A step is a turn of a request, or it writes nothing, is seen to do nothing, and leaves every request as it was, started or over. -/
theorem step_cases (env : Env Key Box) (w : State Box) (a : Event) :
    (((system env).step w a).store = w.store ∧ (∀ history : History Box, observe env history w a ((system env).step w a) = history) ∧
      (∀ t told, a = .turn t told → w.threads.lookup t = none) ∧
      ∀ t task, ((system env).step w a).threads.lookup t = some task →
        w.threads.lookup t = some task ∨ (∃ request, task = .requested request) ∨ ∃ outcome, task = .done outcome) ∨
    (∃ t told task, a = .turn t told ∧ w.threads.lookup t = some task ∧
      (system env).step w a =
        { store := (turn env w.store task told).1, threads := w.threads.insert t (turn env w.store task told).2 }) := by
  rcases (system env).step_cases w a with ⟨hnone, hs⟩ | ⟨t, call, rfl, -, hs⟩ | ⟨t, told, task, rfl, ht, hs⟩ | ⟨t, task, rfl, ht, hs⟩ |
    ⟨event, rfl, -⟩
  · refine Or.inl ⟨by rw [hs], fun history => ?_, hnone, fun t task h => Or.inl (by rwa [hs] at h)⟩
    cases a with
    | turn t told => simp only [observe, hnone t told rfl]
    | _ => rfl
  · refine Or.inl ⟨by rw [hs], fun _ => rfl, (fun _ _ h => nomatch h), fun t' task' h => ?_⟩
    rw [hs] at h
    rcases Table.of_lookup_insert h with ⟨-, rfl⟩ | ⟨-, hold⟩
    · exact Or.inr (Or.inl ⟨call, rfl⟩)
    · exact Or.inl hold
  · exact Or.inr ⟨t, told, task, rfl, ht, hs⟩
  · refine Or.inl ⟨by rw [hs], fun _ => rfl, (fun _ _ h => nomatch h), fun t' task' h => ?_⟩
    rw [hs] at h
    rcases Table.of_lookup_insert h with ⟨-, rfl⟩ | ⟨-, hold⟩
    · exact Or.inr (Or.inr (by cases task <;> exact ⟨_, rfl⟩))
    · exact Or.inl hold
  · exact nomatch event

/-! ## Rows and envelopes that a request makes -/

/-- A row that holds credentials, encrypted for it, and was never rotated. -/
structure Made (env : Env Key Box) (credentials : Value) (row : Connection Box) : Prop where
  credentialVersion : row.credentialVersion = 1
  encrypted : ∃ iv, encryptProviderCredentials env iv row.id row.userId row.provider credentials = .ok row.credentialEnvelope

/-- What `createInfiniteProviderConnection` inserts. -/
theorem createdRow_ok {input : Value} (h : createdRow env userId input told = .ok row) :
    ∃ normalized, validateProviderConnectionInput env input = .ok normalized ∧ row.capacityClass = normalized.capacityClass ∧
      Made env (apiKeyCredentials normalized.apiKey) row := by
  obtain ⟨normalized, hvalid, h⟩ := Outcome.bind_ok h
  obtain ⟨credentialEnvelope, hencrypted, h⟩ := Outcome.bind_ok h
  cases h
  exact ⟨normalized, hvalid, rfl, rfl, told.iv, hencrypted⟩

/-- What `createReviewedSubscriptionConnection` inserts. -/
theorem reviewedRow_ok {input : Value} (h : reviewedRow env userId input told = .ok row) :
    ∃ normalized, validateReviewedSubscriptionInput env input = .ok normalized ∧ row.capacityClass = .userSubscription ∧
      Made env normalized.2 row := by
  unfold reviewedRow at h
  obtain ⟨-, h⟩ := Outcome.check_ok_iff.1 h
  obtain ⟨normalized, hvalid, h⟩ := Outcome.bind_ok h
  obtain ⟨credentialEnvelope, hencrypted, h⟩ := Outcome.bind_ok h
  cases h
  exact ⟨normalized, hvalid, rfl, rfl, told.iv, hencrypted⟩

/-- What `rotateInfiniteProviderConnection` reads and makes. -/
theorem readRotation_ok {apiKey : Value} {credentialEnvelope : Envelope Box}
    (h : readRotation env rows userId connectionId apiKey told = .ok (row, credentialEnvelope)) :
    row ∈ rows ∧ activeFilter connectionId userId row = true ∧ ∃ normalizedApiKey ≠ [],
      encryptProviderCredentials env told.iv row.id row.userId row.provider (apiKeyCredentials normalizedApiKey) =
        .ok credentialEnvelope := by
  obtain ⟨given, -, h⟩ := Outcome.bind_ok h
  obtain ⟨hvalid, h⟩ := Outcome.check_ok_iff.1 h
  cases hfind : rows.find? (activeFilter connectionId userId) with
  | none =>
    rw [hfind] at h
    cases h
  | some read =>
    rw [hfind] at h
    obtain ⟨envelope, hencrypted, h⟩ := Outcome.bind_ok h
    cases h
    exact ⟨List.mem_of_find?_eq_some hfind, List.find?_some hfind, _, fun hempty => hvalid (Or.inl hempty), hencrypted⟩

/-- A request that is to insert a row has just made it. -/
theorem made_of_insert (h : (turn env rows task told).2 = .insert row) :
    (∃ userId input, createdRow env userId input told = .ok row) ∨ ∃ userId input, reviewedRow env userId input told = .ok row := by
  rcases task with request | read | _ | _
  · cases request with
    | create userId input =>
      cases hrow : createdRow env userId input told with
      | error e =>
        simp only [turn, hrow, Task.ofRow] at h
        cases h
      | ok made =>
        simp only [turn, hrow, Task.ofRow] at h
        cases h
        exact Or.inl ⟨userId, input, hrow⟩
    | createReviewed userId input =>
      cases hrow : reviewedRow env userId input told with
      | error e =>
        simp only [turn, hrow, Task.ofRow] at h
        cases h
      | ok made =>
        simp only [turn, hrow, Task.ofRow] at h
        cases h
        exact Or.inr ⟨userId, input, hrow⟩
    | revoke userId connectionId => cases h
    | rotate userId connectionId apiKey =>
      simp only [turn] at h
      cases hread : readRotation env rows userId connectionId apiKey told <;> rw [hread] at h <;> cases h
  · cases h
  · simp only [turn] at h
    split at h <;> cases h
  · cases h

/-- A request that is to replace an envelope has just read the row and made the new one. -/
theorem made_of_replace {credentialEnvelope : Envelope Box} {now : Nat}
    (h : (turn env rows task told).2 = .replace userId connectionId row credentialEnvelope now) :
    ∃ apiKey, readRotation env rows userId connectionId apiKey told = .ok (row, credentialEnvelope) := by
  rcases task with request | read | _ | _
  · cases request with
    | create userId input =>
      simp only [turn] at h
      cases hrow : createdRow env userId input told <;> rw [hrow] at h <;> cases h
    | createReviewed userId input =>
      simp only [turn] at h
      cases hrow : reviewedRow env userId input told <;> rw [hrow] at h <;> cases h
    | revoke userId connectionId => cases h
    | rotate userId connectionId apiKey =>
      simp only [turn] at h
      cases hread : readRotation env rows userId connectionId apiKey told with
      | error e =>
        rw [hread] at h
        cases h
      | ok read =>
        rw [hread] at h
        cases h
        exact ⟨apiKey, hread⟩
  · cases h
  · simp only [turn] at h
    split at h <;> cases h
  · cases h

/-! ## An environment -/

/-- The name of the connection that the examples make. -/
def exampleId : Text := "connection_5f0c2d52-6f0e-4a57-9d3f-0a4d2f6b8c11".toList

/-- What a request of the examples is told: one of two vectors of twelve bytes. -/
def exampleTold (n : Nat) : Input where
  uuid := "5f0c2d52-6f0e-4a57-9d3f-0a4d2f6b8c11".toList
  iv := if n = 0 then "AAECAwQFBgcICQoL".toList else "DA0ODxAREhMUFRYX".toList
  now := 1767225600000 + n

/-- `{"provider":"OpenRouter","capacityClass":"user_free","admissionStatus":"byok_only","apiKey":"sk-1"}`. -/
def exampleInput : Value :=
  .obj [("provider".toList, .str "OpenRouter".toList), ("capacityClass".toList, .str "user_free".toList),
    ("admissionStatus".toList, .str "byok_only".toList), ("apiKey".toList, .str "sk-1".toList)]

/-- `{"authType":"oauth","accessToken":"t-1"}`. -/
def exampleSubscription : Value :=
  .obj [("authType".toList, .str "oauth".toList), ("accessToken".toList, .str "t-1".toList)]

/-- The credentials of the examples. -/
def exampleCredentials : Nat → Value
  | 0 => apiKeyCredentials "sk-1".toList
  | 1 => apiKeyCredentials "sk-2".toList
  | _ => exampleSubscription

/-- The number of credentials of the examples. -/
def exampleNumber : Value → Option Nat
  | .obj [(name, .str apiKey)] =>
    if name = "apiKey".toList ∧ apiKey = "sk-1".toList then some 0
    else if name = "apiKey".toList ∧ apiKey = "sk-2".toList then some 1
    else none
  | .obj [(name, .str authType), (name', .str accessToken)] =>
    if name = "authType".toList ∧ authType = "oauth".toList ∧ name' = "accessToken".toList ∧ accessToken = "t-1".toList then some 2
    else none
  | _ => none

/-- What AES-256-GCM makes of the credentials of the examples under the key of the bytes 0 to 31, in Base64: the ciphertext and the tag. -/
def exampleCiphertexts : List ((Text × Text × Nat) × Text) :=
  [(("AAECAwQFBgcICQoL".toList, "openrouter".toList, 0), "PCC3a6yup2Kve7X42sRJT/4=.HO3oxBAilOlSZ9+8b60n7g==".toList),
    (("DA0ODxAREhMUFRYX".toList, "openrouter".toList, 1), "49wIqBY9mSoVEGqm+qYUxSg=.soaYzsTWaxWjPLZNPVwzog==".toList),
    (("AAECAwQFBgcICQoL".toList, "codex".toList, 2),
      "PCC3brGNlmL9JLWxk4YZGPe+pRjSGjwfXRSW0XICZdwjKoyIgvAw5Q==.6e4djCUz+A7VQzB39XkQkg==".toList),
    (("DA0ODxAREhMUFRYX".toList, "codex".toList, 1), "49wIqBY9mSoVEGqm+qYUxSg=.nmzJR5ipfucoMwnaWvEHdA==".toList)]

/-- The cipher on the credentials of the examples, for the connection of the examples; other credentials stand for their ciphertext. -/
def exampleEncipher (_ : Text) (iv : Text) (data : AssociatedData) (credentials : Value) : Text × Option Value :=
  match exampleNumber credentials with
  | none => ([], some credentials)
  | some n =>
    match exampleCiphertexts.lookup (iv, data.provider, n) with
    | none => ([], some credentials)
    | some ciphertext => if data = ⟨exampleId, some "u1".toList, data.provider, 1⟩ then (ciphertext, none) else ([], some credentials)

def exampleDecipher (_ : Text) (iv : Text) (data : AssociatedData) : Text × Option Value → Option Value
  | (_, some credentials) => some credentials
  | (ciphertext, none) =>
    if data = ⟨exampleId, some "u1".toList, data.provider, 1⟩ then
      (exampleCiphertexts.find? fun e => e.2 = ciphertext ∧ e.1.1 = iv ∧ e.1.2.1 = data.provider).map fun e => exampleCredentials e.1.2.2
    else none

def exampleEnv : Env Text (Text × Option Value) where
  providerAllowlist := "openrouter,codex".toList
  lower := List.map Char.toLower
  keyForVersion n :=
    if n = 1 then .ok "AAECAwQFBgcICQoLDA0ODxAREhMUFRYXGBkaGxwdHh8=".toList
    else .error "Provider credential key version is not configured."
  encipher := exampleEncipher
  decipher := exampleDecipher

end ProviderConnections

end PromptRail
