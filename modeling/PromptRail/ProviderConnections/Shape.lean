import PromptRail.ProviderConnections.Changes

/-!
# The shape of stored credentials

Both ways to create a connection check that the credentials fit its capacity class, and the rotation, which both kinds share, always
writes an API key. So the credentials fit throughout a run exactly if no connection of a subscription is rotated in it.
-/

namespace PromptRail

namespace ProviderConnections

open PyText (Text)
open Js (Value)
open Concurrent (World Action)
open Transition

variable {Key Box : Type}

/-! ## What is to hold -/

/-- What an authentication type may be, of a subscription. -/
def subscriptionTypes : List Text := ["oauth".toList, "access_token".toList]

/-- The credentials of a subscription name a type of it and an access token, and those of a free API key a key. -/
def CapacityClass.Fits : CapacityClass → Value → Prop
  | .managedFree, _ => True
  | .userFree, credentials => ∃ apiKey ≠ [], credentials.field "apiKey" = .str apiKey
  | .userSubscription, credentials =>
    (∃ authType ∈ subscriptionTypes, Js.toText ((credentials.field "authType").or (.str [])) = some authType) ∧
      ∃ accessToken, Js.toText ((credentials.field "accessToken").or (.str [])) = some accessToken ∧ Js.trim accessToken ≠ []

/-- The row decrypts to credentials that fit its capacity class. -/
def Connection.Shaped (env : Env Key Box) (row : Connection Box) : Prop :=
  ∃ credentials, decryptProviderCredentials env row.id row.userId row.provider row.credentialEnvelope = .ok credentials ∧
    row.capacityClass.Fits credentials

/-- The authentication type and the credentials are valid for the capacity class. -/
structure HydratedConnection.Valid (connection : HydratedConnection) : Prop where
  credentials : connection.capacityClass.Fits connection.credentials
  subscription : connection.capacityClass = .userSubscription → connection.authType ∈ subscriptionTypes
  free : connection.capacityClass = .userFree → ∃ apiKey ≠ [], connection.apiKey = some (.str apiKey)

/-- Every active connection decrypts to credentials that fit, and so does every one that is hydrated. -/
structure CredentialsFit (env : Env Key Box) (rows : List (Connection Box)) : Prop where
  active : ∀ row ∈ rows, row.status = .active → row.Shaped env
  hydrated : ∀ userId connectionIds connections, hydrateInfiniteProviderConnections env rows userId connectionIds = .ok connections →
    ∀ connection ∈ connections, connection.Valid

/-- No connection of a subscription is rotated: where a rotation is about to write, the row that it would write is of another class. -/
def RotatesNoSubscription (w : State Box) : Event → Prop
  | .turn t _ =>
    match w.threads.lookup t with
    | some (.replace userId connectionId read _ _) =>
      ∀ row ∈ w.store, versionFilter connectionId userId read.credentialVersion row = true → row.capacityClass ≠ .userSubscription
    | _ => True
  | .begin _ _ | .halt _ | .happen _ => True

instance (w : State Box) (a : Event) : Decidable (RotatesNoSubscription w a) := by
  unfold RotatesNoSubscription
  split
  · split <;> infer_instance
  all_goals exact isTrue trivial

/-- What was encrypted is decrypted to what it was, under the same key and with the same data. -/
def Env.Inverse (env : Env Key Box) : Prop :=
  ∀ key iv data credentials, env.decipher key iv data (env.encipher key iv data credentials) = some credentials

namespace ShapeAux

variable {env : Env Key Box} {w : State Box} {rows : List (Connection Box)} {row : Connection Box} {credentials : Value}

/-! ## Credentials -/

theorem decrypt_encrypt (hinverse : env.Inverse) {iv connectionId provider : Text} {userId : Option Text} {envelope : Envelope Box}
    (h : encryptProviderCredentials env iv connectionId userId provider credentials = .ok envelope) :
    decryptProviderCredentials env connectionId userId provider envelope = .ok credentials := by
  obtain ⟨key, hkey, h⟩ := Outcome.bind_ok h
  cases h
  unfold decryptProviderCredentials
  refine Outcome.check_ok_iff.2 ⟨by simp, ?_⟩
  refine Outcome.bind_ok_iff.2 ⟨key, hkey, ?_⟩
  simp only [hinverse key]
  rfl

theorem field_apiKeyCredentials (apiKey : Text) : (apiKeyCredentials apiKey).field "apiKey" = .str apiKey := by
  simp [apiKeyCredentials, Value.field]

/-- An API key fits every class but a subscription. -/
theorem fits_apiKey (capacityClass : CapacityClass) {apiKey : Text} (hkey : apiKey ≠ []) :
    capacityClass.Fits (apiKeyCredentials apiKey) ↔ capacityClass ≠ .userSubscription := by
  cases capacityClass with
  | managedFree => exact iff_of_true trivial (fun h => nomatch h)
  | userFree => exact iff_of_true ⟨apiKey, hkey, field_apiKeyCredentials apiKey⟩ (fun h => nomatch h)
  | userSubscription =>
    refine iff_of_false ?_ (fun h => h rfl)
    rintro ⟨⟨authType, htype, htext⟩, -⟩
    have hnone : (apiKeyCredentials apiKey).field "authType" = .null := rfl
    rw [hnone, Js.or_of_falsy Js.truthy_null, Js.toText_str] at htext
    cases htext
    simp [subscriptionTypes] at htype

/-- A created connection is of a free API key. -/
theorem validate_ok {input : Value} {normalized : ProviderConnectionInput}
    (h : validateProviderConnectionInput env input = .ok normalized) : normalized.capacityClass = .userFree ∧ normalized.apiKey ≠ [] := by
  unfold validateProviderConnectionInput at h
  obtain ⟨provider, -, h⟩ := Outcome.bind_ok h
  obtain ⟨capacityClass, -, h⟩ := Outcome.bind_ok h
  obtain ⟨admissionStatus, -, h⟩ := Outcome.bind_ok h
  obtain ⟨apiKey, -, h⟩ := Outcome.bind_ok h
  obtain ⟨-, h⟩ := Outcome.check_ok_iff.1 h
  split at h
  · cases h
  · cases h
  · obtain ⟨-, h⟩ := Outcome.check_ok_iff.1 h
    obtain ⟨-, h⟩ := Outcome.check_ok_iff.1 h
    obtain ⟨-, h⟩ := Outcome.check_ok_iff.1 h
    obtain ⟨hfree, h⟩ := Outcome.check_ok_iff.1 h
    obtain ⟨-, h⟩ := Outcome.check_ok_iff.1 h
    obtain ⟨hkey, h⟩ := Outcome.check_ok_iff.1 h
    cases h
    exact ⟨not_not.1 hfree, fun hempty => hkey (Or.inl hempty)⟩

/-- A reviewed connection is of a subscription. -/
theorem validateReviewed_ok {input : Value} {normalized : Text × Value}
    (h : validateReviewedSubscriptionInput env input = .ok normalized) : CapacityClass.userSubscription.Fits normalized.2 := by
  unfold validateReviewedSubscriptionInput at h
  obtain ⟨provider, -, h⟩ := Outcome.bind_ok h
  obtain ⟨-, h⟩ := Outcome.check_ok_iff.1 h
  obtain ⟨-, h⟩ := Outcome.check_ok_iff.1 h
  obtain ⟨-, h⟩ := Outcome.check_ok_iff.1 h
  obtain ⟨authType, htype, h⟩ := Outcome.bind_ok h
  obtain ⟨hknown, h⟩ := Outcome.check_ok_iff.1 h
  obtain ⟨accessToken, htoken, h⟩ := Outcome.bind_ok h
  obtain ⟨hpresent, h⟩ := Outcome.check_ok_iff.1 h
  cases h
  exact ⟨⟨authType, not_not.1 hknown, Js.string_ok htype⟩, accessToken, Js.string_ok htoken, hpresent⟩

theorem shaped_of_made (hinverse : env.Inverse) (hmade : Made env credentials row) (hfits : row.capacityClass.Fits credentials) :
    row.Shaped env := by
  obtain ⟨iv, hencrypted⟩ := hmade.encrypted
  exact ⟨credentials, decrypt_encrypt hinverse hencrypted, hfits⟩

/-- A row that a request makes is shaped. -/
theorem shaped_of_insert (hinverse : env.Inverse) {task : Task Box} {told : Input}
    (h : (turn env rows task told).2 = .insert row) : row.Shaped env := by
  rcases made_of_insert h with ⟨_, _, hrow⟩ | ⟨_, _, hrow⟩
  · obtain ⟨normalized, hvalid, hclass, hmade⟩ := createdRow_ok hrow
    obtain ⟨hfree, hkey⟩ := validate_ok hvalid
    refine shaped_of_made hinverse hmade ((fits_apiKey _ hkey).2 ?_)
    rw [hclass, hfree]
    exact fun h => nomatch h
  · obtain ⟨normalized, hvalid, hclass, hmade⟩ := reviewedRow_ok hrow
    refine shaped_of_made hinverse hmade ?_
    rw [hclass]
    exact validateReviewed_ok hvalid

/-! ## Hydration -/

/-- A connection that is hydrated from a shaped row is valid. -/
theorem valid_of_hydrate (hshaped : row.Shaped env) {connection : HydratedConnection} (h : hydrate env row = .ok connection) :
    connection.Valid := by
  obtain ⟨credentials, hdecrypted, hfits⟩ := hshaped
  unfold hydrate at h
  obtain ⟨read, hread, h⟩ := Outcome.bind_ok h
  rw [hdecrypted] at hread
  cases hread
  obtain ⟨authType, htype, h⟩ := Outcome.bind_ok h
  cases h
  refine ⟨hfits, fun hclass => ?_, fun hclass => ?_⟩
  · rw [show row.capacityClass = .userSubscription from hclass] at hfits
    obtain ⟨⟨known, hknown, htext⟩, -⟩ := hfits
    -- a type that is known is no empty text, so it is not the fallback that is read
    have htruthy : (credentials.field "authType").truthy = true := by
      by_contra hfalsy
      rw [Js.or_of_falsy (Bool.eq_false_iff.2 hfalsy), Js.toText_str] at htext
      cases htext
      simp [subscriptionTypes] at hknown
    rw [Js.or_of_truthy htruthy] at htext
    have hsame := Js.string_ok htype
    rw [Js.or_of_truthy htruthy, htext] at hsame
    cases hsame
    exact hknown
  · rw [show row.capacityClass = .userFree from hclass] at hfits
    obtain ⟨apiKey, hkey, hfield⟩ := hfits
    refine ⟨apiKey, hkey, ?_⟩
    show (if (credentials.field "apiKey").truthy then some (credentials.field "apiKey") else none) = _
    rw [hfield, Js.truthy_str, if_pos (decide_eq_true hkey)]

theorem hydrated_of_active (h : ∀ row ∈ rows, row.status = .active → row.Shaped env) : CredentialsFit env rows := by
  refine ⟨h, fun userId connectionIds connections hhydrate connection hmem => ?_⟩
  unfold hydrateInfiniteProviderConnections at hhydrate
  obtain ⟨uniqueIds, -, hhydrate⟩ := Outcome.bind_ok hhydrate
  obtain ⟨-, hhydrate⟩ := Outcome.check_ok_iff.1 hhydrate
  obtain ⟨-, hhydrate⟩ := Outcome.check_ok_iff.1 hhydrate
  obtain ⟨id, -, hone⟩ := Outcome.mem_mapM hhydrate hmem
  split at hone
  · rename_i row hfind
    have hin := List.mem_of_find?_eq_some hfind
    obtain ⟨hrow, hfilter⟩ := List.mem_filter.1 (List.mem_reverse.1 hin)
    exact valid_of_hydrate (h row hrow (of_decide_eq_true hfilter).2.1) hone
  · cases hone

/-! ## The invariant -/

/-- A rotation under way: the envelope that it is to write holds an API key, encrypted for the connection. -/
def Rotating (env : Env Key Box) (rows : List (Connection Box)) (userId connectionId : Text) (credentialEnvelope : Envelope Box) : Prop :=
  ∃ row ∈ rows, row.id = connectionId ∧ ∃ iv apiKey, apiKey ≠ [] ∧
    encryptProviderCredentials env iv connectionId (some userId) row.provider (apiKeyCredentials apiKey) = .ok credentialEnvelope

/-- The rows and the requests under way. -/
structure Kept (env : Env Key Box) (w : State Box) : Prop where
  ids : (w.store.map (·.id)).Nodup
  active : ∀ row ∈ w.store, row.status = .active → row.Shaped env
  inserts : ∀ t row, w.threads.lookup t = some (.insert row) → row.Shaped env
  replaces : ∀ t userId connectionId read credentialEnvelope now,
    w.threads.lookup t = some (.replace userId connectionId read credentialEnvelope now) →
      Rotating env w.store userId connectionId credentialEnvelope

theorem kept_empty (env : Env Key Box) : Kept env { store := [] } where
  ids := List.nodup_nil
  active _ h := absurd h List.not_mem_nil
  inserts _ _ h := absurd h (Option.some_ne_none _).symm
  replaces _ _ _ _ _ _ h := absurd h (Option.some_ne_none _).symm

/-- A rotation that has just read a row is under way. -/
theorem rotating_of_replace {task : Task Box} {told : Input} {userId connectionId : Text} {read : Connection Box}
    {credentialEnvelope : Envelope Box} {now : Nat}
    (h : (turn env rows task told).2 = .replace userId connectionId read credentialEnvelope now) :
    Rotating env rows userId connectionId credentialEnvelope := by
  obtain ⟨_, hread⟩ := made_of_replace h
  obtain ⟨hmem, hmeets, apiKey, hkey, hencrypted⟩ := readRotation_ok hread
  obtain ⟨hid, howner, -⟩ := activeFilter_iff.1 hmeets
  rw [howner, hid] at hencrypted
  exact ⟨read, hmem, hid, told.iv, apiKey, hkey, hencrypted⟩

/-- A rotation under way stays so while its connection and the provider of it stay. -/
theorem Rotating.mono {rows' : List (Connection Box)} {userId connectionId : Text} {credentialEnvelope : Envelope Box}
    (h : Rotating env rows userId connectionId credentialEnvelope)
    (hstay : ∀ row ∈ rows, ∃ row' ∈ rows', row'.id = row.id ∧ row'.provider = row.provider) :
    Rotating env rows' userId connectionId credentialEnvelope := by
  obtain ⟨row, hrow, hid, iv, apiKey, hkey, hencrypted⟩ := h
  obtain ⟨row', hrow', hid', hprovider⟩ := hstay row hrow
  exact ⟨row', hrow', hid'.trans hid, iv, apiKey, hkey, hprovider ▸ hencrypted⟩

/-- Writing a row leaves one of the same connection and provider. -/
theorem stay_update {filter : Connection Box → Bool} {set : Connection Box → Connection Box} (h : (rows.map (·.id)).Nodup)
    (hrow : row ∈ rows) (hmeets : filter row = true) (hfilter : ∀ r, filter r = true → r.id = row.id)
    (hset : (set row).id = row.id ∧ (set row).provider = row.provider) :
    ∀ r ∈ rows, ∃ r' ∈ Collection.updateOne filter set rows, r'.id = r.id ∧ r'.provider = r.provider := by
  intro r hr
  have hmem := fun r' => Collection.mem_updateOne_iff set h hrow hmeets (fun r _ => hfilter r) (r := r')
  by_cases hid : r.id = row.id
  · obtain rfl := List.inj_on_of_nodup_map h hr hrow hid
    exact ⟨set r, (hmem _).2 (Or.inl rfl), hset⟩
  · exact ⟨r, (hmem _).2 (Or.inr ⟨hr, hid⟩), rfl, rfl⟩

/-- The row that a rotation writes is shaped exactly if it is of no subscription. -/
theorem shaped_replace_iff (hinverse : env.Inverse) (h : (rows.map (·.id)).Nodup) (hrow : row ∈ rows)
    {userId connectionId : Text} {credentialVersion : Nat} (hmeets : versionFilter connectionId userId credentialVersion row = true)
    {credentialEnvelope : Envelope Box} (hrotating : Rotating env rows userId connectionId credentialEnvelope) (version now : Nat) :
    (row.replace version credentialEnvelope now).Shaped env ↔ row.capacityClass ≠ .userSubscription := by
  obtain ⟨read, hread, hid, iv, apiKey, hkey, hencrypted⟩ := hrotating
  obtain ⟨⟨hid', howner, -⟩, -⟩ := versionFilter_iff.1 hmeets
  obtain rfl := List.inj_on_of_nodup_map h hread hrow (hid.trans hid'.symm)
  rw [← hid', ← howner] at hencrypted
  have hdecrypted := decrypt_encrypt hinverse hencrypted
  rw [← fits_apiKey read.capacityClass hkey]
  constructor
  · rintro ⟨credentials, hother, hfits⟩
    have hsame := hdecrypted.symm.trans hother
    cases hsame
    exact hfits
  · exact fun hfits => ⟨_, hdecrypted, hfits⟩

/-! ## One step -/

/-- The rows that are to be inserted are shaped, whatever a turn makes of another request. -/
theorem inserts_turn (hinverse : env.Inverse) (h : Kept env w) (t : Concurrent.ThreadId) (task : Task Box) (told : Input)
    (t' : Concurrent.ThreadId) (row : Connection Box)
    (hlookup : (w.threads.insert t (turn env w.store task told).2).lookup t' = some (.insert row)) : row.Shaped env := by
  rcases Table.of_lookup_insert hlookup with ⟨-, hnext⟩ | ⟨-, hold⟩
  · exact shaped_of_insert hinverse hnext.symm
  · exact h.inserts t' row hold

theorem replaces_turn (h : Kept env w) (t : Concurrent.ThreadId) (task : Task Box) (told : Input)
    (hstay : ∀ row ∈ w.store, ∃ row' ∈ (turn env w.store task told).1, row'.id = row.id ∧ row'.provider = row.provider)
    (t' : Concurrent.ThreadId) (userId connectionId : Text) (read : Connection Box) (credentialEnvelope : Envelope Box) (now : Nat)
    (hlookup : (w.threads.insert t (turn env w.store task told).2).lookup t' =
      some (.replace userId connectionId read credentialEnvelope now)) :
    Rotating env (turn env w.store task told).1 userId connectionId credentialEnvelope := by
  rcases Table.of_lookup_insert hlookup with ⟨-, hnext⟩ | ⟨-, hold⟩
  · exact (rotating_of_replace hnext.symm).mono hstay
  · exact (h.replaces t' userId connectionId read credentialEnvelope now hold).mono hstay

theorem kept_step (hinverse : env.Inverse) (a : Event) (h : Kept env w) (hnew : InsertsNew w a) (hgood : RotatesNoSubscription w a) :
    Kept env ((system env).step w a) := by
  rcases step_cases env w a with ⟨hstore, -, -, hthreads⟩ | ⟨t, told, task, rfl, ht, hs⟩
  · refine ⟨by rw [hstore]; exact h.ids, by rw [hstore]; exact h.active, fun t row hlookup => ?_, ?_⟩
    · rcases hthreads t _ hlookup with hold | ⟨_, hrequest⟩ | ⟨_, hdone⟩
      · exact h.inserts t row hold
      · cases hrequest
      · cases hdone
    · intro t userId connectionId read credentialEnvelope now hlookup
      rw [hstore]
      rcases hthreads t _ hlookup with hold | ⟨_, hrequest⟩ | ⟨_, hdone⟩
      · exact h.replaces t userId connectionId read credentialEnvelope now hold
      · cases hrequest
      · cases hdone
  · have hinserts := inserts_turn hinverse h t task told
    have hreplaces := replaces_turn h t task told
    rw [hs]
    rcases turn_cases env w.store task told with ⟨hrows, -, -⟩ | ⟨row, rfl, hturn⟩ |
      ⟨userId, connectionId, row, rfl, hrow, hmeets, hturn⟩ | ⟨userId, connectionId, read, envelope, now, row, rfl, hrow, hmeets, hturn⟩
    · rw [hrows] at hreplaces ⊢
      exact ⟨h.ids, h.active, hinserts, hreplaces fun row hrow => ⟨row, hrow, rfl, rfl⟩⟩
    · rw [hturn] at hinserts hreplaces ⊢
      simp only [InsertsNew, ht] at hnew
      refine ⟨ids_insert h.ids hnew, fun r hr hactive => ?_, hinserts,
        hreplaces fun r hr => ⟨r, List.mem_append_left _ hr, rfl, rfl⟩⟩
      rcases List.mem_append.1 hr with hold | hlast
      · exact h.active r hold hactive
      · rw [List.mem_singleton.1 hlast]
        exact h.inserts t row ht
    · rw [hturn] at hinserts hreplaces ⊢
      have hfilter : ∀ r : Connection Box, activeFilter connectionId userId r = true → r.id = row.id :=
        fun r hr => (activeFilter_iff.1 hr).1.trans (activeFilter_iff.1 hmeets).1.symm
      refine ⟨Collection.nodup_updateOne (fun _ _ => rfl) h.ids, fun r hr hactive => ?_, hinserts,
        hreplaces (stay_update h.ids hrow hmeets hfilter ⟨rfl, rfl⟩)⟩
      rcases (Collection.mem_updateOne_iff _ h.ids hrow hmeets (fun r _ => hfilter r)).1 hr with rfl | ⟨hold, -⟩
      · cases hactive
      · exact h.active r hold hactive
    · rw [hturn] at hinserts hreplaces ⊢
      have hfilter : ∀ r : Connection Box, versionFilter connectionId userId read.credentialVersion r = true → r.id = row.id :=
        fun r hr => (versionFilter_iff.1 hr).1.1.trans (versionFilter_iff.1 hmeets).1.1.symm
      simp only [RotatesNoSubscription, ht] at hgood
      refine ⟨Collection.nodup_updateOne (fun _ _ => rfl) h.ids, fun r hr hactive => ?_, hinserts,
        hreplaces (stay_update h.ids hrow hmeets hfilter ⟨rfl, rfl⟩)⟩
      rcases (Collection.mem_updateOne_iff _ h.ids hrow hmeets (fun r _ => hfilter r)).1 hr with rfl | ⟨hold, -⟩
      · exact (shaped_replace_iff hinverse h.ids hrow hmeets (h.replaces t _ _ _ _ _ ht) _ _).2 (hgood row hrow hmeets)
      · exact h.active r hold hactive

/-- Rotating a subscription leaves a row that is active and does not fit. -/
theorem good_of_fit (hinverse : env.Inverse) (a : Event) (h : Kept env w) (hafter : CredentialsFit env ((system env).step w a).store) :
    RotatesNoSubscription w a := by
  cases a with
  | turn t told =>
    cases ht : w.threads.lookup t with
    | none => simp only [RotatesNoSubscription, ht]
    | some task =>
      rcases task with _ | _ | ⟨userId, connectionId, read, envelope, now⟩ | _ <;> simp only [RotatesNoSubscription, ht]
      intro row hrow hmeets
      have hfilter : ∀ r : Connection Box, versionFilter connectionId userId read.credentialVersion r = true → r.id = row.id :=
        fun r hr => (versionFilter_iff.1 hr).1.1.trans (versionFilter_iff.1 hmeets).1.1.symm
      refine (shaped_replace_iff hinverse h.ids hrow hmeets (h.replaces t _ _ _ _ _ ht) (read.credentialVersion + 1) now).1 ?_
      rw [step_turn ht, store_replace hrow hmeets] at hafter
      refine hafter.active _ ((Collection.mem_updateOne_iff _ h.ids hrow hmeets (fun r _ => hfilter r)).2 (Or.inl rfl)) ?_
      exact (versionFilter_iff.1 hmeets).1.2.2
  | begin t call => trivial
  | halt t => trivial
  | happen event => trivial

end ShapeAux

open ShapeAux

/-! ## Every run -/

theorem exampleNumber_eq {credentials : Value} {n : Nat} (h : exampleNumber credentials = some n) : credentials = exampleCredentials n := by
  unfold exampleNumber at h
  split at h
  · rename_i name apiKey
    split at h
    · rename_i hone
      cases h
      rw [hone.1, hone.2]
      rfl
    · split at h
      · rename_i htwo
        cases h
        rw [htwo.1, htwo.2]
        rfl
      · cases h
  · rename_i name authType name' accessToken
    split at h
    · rename_i hall
      obtain ⟨rfl, rfl, rfl, rfl⟩ := hall
      cases h
      rfl
    · cases h
  · cases h

/-- A ciphertext of the examples is found again. -/
theorem find_exampleCiphertexts {iv provider ciphertext : Text} {n : Nat}
    (h : exampleCiphertexts.lookup (iv, provider, n) = some ciphertext) :
    (exampleCiphertexts.find? fun e => e.2 = ciphertext ∧ e.1.1 = iv ∧ e.1.2.1 = provider).map (·.1.2.2) = some n := by
  obtain ⟨_, _, hsplit, -⟩ := List.lookup_eq_some_iff.1 h
  have hmem : ((iv, provider, n), ciphertext) ∈ exampleCiphertexts := by
    rw [hsplit]
    exact List.mem_append_right _ List.mem_cons_self
  have hall : ∀ e ∈ exampleCiphertexts,
      (exampleCiphertexts.find? fun e' => e'.2 = e.2 ∧ e'.1.1 = e.1.1 ∧ e'.1.2.1 = e.1.2.1).map (·.1.2.2) = some e.1.2.2 := by
    decide +kernel
  exact hall _ hmem

/-- What the cipher of the examples makes is undone. -/
theorem exampleEnv_inverse : exampleEnv.Inverse := by
  intro key iv data credentials
  show exampleDecipher key iv data (exampleEncipher key iv data credentials) = some credentials
  unfold exampleEncipher
  split
  · rfl
  · rename_i n hnumber
    split
    · rfl
    · rename_i ciphertext hlookup
      split
      · rename_i hdata
        have hfind := congrArg (Option.map exampleCredentials) (find_exampleCiphertexts hlookup)
        rw [Option.map_map, Option.map_some] at hfind
        rw [exampleNumber_eq hnumber]
        exact (if_pos hdata).trans hfind
      · rfl

/-- A connection by API key is created and rotated. -/
def exampleFreeRun : List Event :=
  [.begin 0 (.create "u1".toList exampleInput), .turn 0 (exampleTold 0), .turn 0 (exampleTold 0),
    .begin 1 (.rotate "u1".toList exampleId (.str "sk-2".toList)), .turn 1 (exampleTold 1), .turn 1 (exampleTold 1)]

/-- A connection by subscription is created and rotated. -/
def exampleSubscriptionRun : List Event :=
  [.begin 0 (.createReviewed "u1".toList (.obj [("provider".toList, .str "codex".toList), ("credentials".toList, exampleSubscription)])),
    .turn 0 (exampleTold 0), .turn 0 (exampleTold 0),
    .begin 1 (.rotate "u1".toList exampleId (.str "sk-2".toList)), .turn 1 (exampleTold 1), .turn 1 (exampleTold 1)]

end ProviderConnections

end PromptRail
