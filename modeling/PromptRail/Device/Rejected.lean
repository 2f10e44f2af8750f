import PromptRail.Device.Changes
import PromptRail.Library.Outcome

/-!
# Installations that are rejected

Both endpoints use the token before they check the product, the manifest or the entitlement, and before the writes that may fail. So an
installation that is rejected has left everything as it was exactly if it did not get as far as the token.
-/

namespace PromptRail

namespace Device

open PyText (Text)
open Js (Value)
open Collection (updateOne)

/-! ## One request, and operations that fail -/

/-- How the operation of a turn fails: before it takes effect, or after. -/
inductive Fault where
  | before
  | after
deriving DecidableEq

/-- The turns of a request, each with what it is told and how its operation fails. -/
def serve (env : Env) : List (Input × Option Fault) → Store → Task → Store × Task
  | [], store, task => (store, task)
  | (told, none) :: rest, store, task => serve env rest (turn env store task told).1 (turn env store task told).2
  | (_, some .before) :: _, store, task => (store, task.cutOff)
  | (told, some .after) :: _, store, task => ((turn env store task told).1, task.cutOff)

/-- A post to one of the two endpoints. -/
inductive Install where
  | router (body : Option Value)
  | infinite (body : Option Value)

def Install.request (authorization : Text) : Install → Request
  | .router body => .install authorization body
  | .infinite body => .installInfinite authorization body

/-- What the body asks for; the one of a route is not read before the token is used. -/
def Install.endpoint : Install → Except String Endpoint
  | .router body => .ok (.router body)
  | .infinite body => infiniteEndpoint (body.getD (.obj []))

/-- A post, which takes at most seven turns. -/
def post (env : Env) (plan : Nat → Input × Option Fault) (store : Store) (authorization : Text) (install : Install) : Store × Task :=
  serve env ((List.range 7).map plan) store (.requested (install.request authorization))

/-- The request is answered with a credential. -/
def Task.IsCredential (task : Task) : Prop := ∃ apiKey apiKeyId, task = .done (.credential apiKey apiKeyId)

def Task.isCredential : Task → Bool
  | .done (.credential _ _) => true
  | _ => false

theorem Task.isCredential_iff (task : Task) : task.isCredential = true ↔ task.IsCredential := by
  cases task with
  | done response => cases response <;> simp [isCredential, IsCredential]
  | _ => simp [isCredential, IsCredential]

instance (task : Task) : Decidable task.IsCredential := decidable_of_iff _ task.isCredential_iff

/-- The token of a session may still be used until it expires, and nothing else was written. -/
structure Unchanged (store store' : Store) (installTokenHash : Text) (session : DeviceSession) : Prop where
  usable : ∀ now, (∀ expiresAt ∈ session.installTokenExpiresAt, now < expiresAt) →
    ∃ row ∈ store'.deviceSessions, row.id = session.id ∧ tokenFilter installTokenHash now row = true
  users : store'.users = store.users
  userBudgets : store'.userBudgets = store.userBudgets
  apiKeys : store'.site.apiKeys = store.site.apiKeys
  installations : store'.installations = store.installations

/-- The request fails before it uses the token. -/
def FailsEarly (plan : Nat → Input × Option Fault) (install : Install) : Prop :=
  (plan 0).2 ≠ none ∨ (plan 1).2 = some .before ∨ ¬∃ endpoint, install.endpoint = .ok endpoint

/-- Every check passes, and no operation fails. -/
def Passes (env : Env) (plan : Nat → Input × Option Fault) (store : Store) (session : DeviceSession) : Install → Prop
  | .router body =>
    session.product = .router ∧ (∃ manifest ∈ body, ∃ valid, validateInstallationManifest env manifest (plan 1).1.uuid = .ok valid) ∧
      ∀ i < 7, (plan i).2 = none
  | .infinite _ =>
    session.product = .infinite ∧ (∀ userId ∈ session.userId, (Site.getInfiniteAccess store.site userId).allowed = true) ∧
      ∀ i < 4, (plan i).2 = none

namespace RejectedAux

variable {env : Env} {store : Store} {task : Task} {told : Input} {rest : List (Input × Option Fault)} {session : DeviceSession}

theorem serve_none {p : Input × Option Fault} (h : p.2 = none) :
    serve env (p :: rest) store task = serve env rest (turn env store task p.1).1 (turn env store task p.1).2 := by
  obtain ⟨told, fault⟩ := p
  cases h
  rfl

theorem serve_before {p : Input × Option Fault} (h : p.2 = some .before) : serve env (p :: rest) store task = (store, task.cutOff) := by
  obtain ⟨told, fault⟩ := p
  cases h
  rfl

theorem serve_after {p : Input × Option Fault} (h : p.2 = some .after) :
    serve env (p :: rest) store task = ((turn env store task p.1).1, task.cutOff) := by
  obtain ⟨told, fault⟩ := p
  cases h
  rfl

/-- A request that was answered does nothing. -/
theorem serve_done (rest : List (Input × Option Fault)) (response : Response) :
    serve env rest store (.done response) = (store, .done response) := by
  induction rest with
  | nil => rfl
  | cons p rest ih =>
    obtain ⟨told, _ | _ | _⟩ := p
    · exact ih
    · rfl
    · rfl

/-- The turns that are left of an installation that nothing can reject. -/
def left : Task → Option Nat
  | .ensureUser _ _ _ => some 5
  | .setUser _ _ _ _ _ => some 4
  | .setBudget _ _ _ _ _ => some 3
  | .insertKey _ _ (some _) _ _ => some 2
  | .insertKey _ _ none _ _ => some 1
  | .save _ _ _ _ _ => some 1
  | .done (.credential _ _) => some 0
  | _ => none

theorem left_turn {n : Nat} (h : left task = some (n + 1)) : left (turn env store task told).2 = some n := by
  cases task with
  | ensureUser => cases h; rfl
  | setUser => cases h; rfl
  | setBudget => cases h; rfl
  | insertKey session user manifest key apiKey => cases manifest <;> cases h <;> rfl
  | save => cases h; rfl
  | done response => cases response <;> cases h
  | _ => cases h

theorem cutOff_of_left {n : Nat} (h : left task = some (n + 1)) : ¬task.cutOff.IsCredential := by
  rintro ⟨apiKey, apiKeyId, hcredential⟩
  cases task with
  | done response => cases response <;> cases h
  | _ => cases hcredential

theorem isCredential_of_left (h : left task = some 0) : task.IsCredential := by
  cases task with
  | insertKey session user manifest key apiKey => cases manifest <;> cases h
  | done response =>
    cases response with
    | credential apiKey apiKeyId => exact ⟨apiKey, apiKeyId, rfl⟩
    | _ => cases h
  | _ => cases h

/-- Such an installation is answered with a credential exactly if no operation fails. -/
theorem isCredential_iff (rest : List (Input × Option Fault)) {n : Nat} (hlength : n ≤ rest.length) (h : left task = some n) :
    (serve env rest store task).2.IsCredential ↔ ∀ p ∈ rest.take n, p.2 = none := by
  induction rest generalizing n store task with
  | nil =>
    obtain rfl : n = 0 := Nat.le_zero.1 hlength
    exact iff_of_true (isCredential_of_left h) fun _ hp => absurd hp List.not_mem_nil
  | cons p rest ih =>
    cases n with
    | zero =>
      obtain ⟨apiKey, apiKeyId, rfl⟩ := isCredential_of_left h
      rw [serve_done]
      exact iff_of_true ⟨apiKey, apiKeyId, rfl⟩ fun _ hp => absurd hp List.not_mem_nil
    | succ n =>
      obtain ⟨told, _ | _ | _⟩ := p
      · rw [List.take_succ_cons, List.forall_mem_cons, and_iff_right rfl]
        exact ih (Nat.le_of_succ_le_succ hlength) (left_turn h)
      · exact iff_of_false (cutOff_of_left h) fun hall => nomatch hall _ List.mem_cons_self
      · exact iff_of_false (cutOff_of_left h) fun hall => nomatch hall _ List.mem_cons_self

/-! ## The sessions after the token was used -/

/-- A request that writes no session any more. -/
def Past : Task → Prop
  | .ensureUser _ _ _ | .setUser _ _ _ _ _ | .setBudget _ _ _ _ _ | .checkAccess _ _ _ | .insertKey _ _ _ _ _ | .save _ _ _ _ _
  | .done _ => True
  | _ => False

theorem past_granted (endpoint : Endpoint) (session : Option DeviceSession) : Past (granted env endpoint session told) := by
  unfold granted
  split
  · trivial
  · trivial
  · split
    · trivial
    · split
      · trivial
      · split <;> trivial
  · split <;> trivial

theorem past_turn (h : Past task) :
    (turn env store task told).1.deviceSessions = store.deviceSessions ∧ Past (turn env store task told).2 := by
  cases task with
  | ensureUser => exact ⟨rfl, trivial⟩
  | setUser => exact ⟨rfl, trivial⟩
  | setBudget => exact ⟨rfl, trivial⟩
  | checkAccess =>
    simp only [turn]
    split <;> exact ⟨rfl, trivial⟩
  | insertKey session user manifest key apiKey => cases manifest <;> exact ⟨rfl, trivial⟩
  | save => exact ⟨rfl, trivial⟩
  | done => exact ⟨rfl, trivial⟩
  | _ => cases h

theorem sessions_serve (rest : List (Input × Option Fault)) (h : Past task) :
    (serve env rest store task).1.deviceSessions = store.deviceSessions := by
  induction rest generalizing store task with
  | nil => rfl
  | cons p rest ih =>
    obtain ⟨told, _ | _ | _⟩ := p
    · exact (ih (past_turn h).2).trans (past_turn h).1
    · rfl
    · exact (past_turn h).1

variable {store' : Store} {installTokenHash : Text} {now : Nat}

/-- A token that was used cannot be used again. -/
theorem not_unchanged (hids : (store.deviceSessions.map (·.id)).Nodup)
    (hfind : store.deviceSessions.find? (tokenFilter installTokenHash now) = some session)
    (hused : store'.deviceSessions = updateOne (tokenFilter installTokenHash now) (DeviceSession.useToken now) store.deviceSessions) :
    ¬Unchanged store store' installTokenHash session := by
  intro hunchanged
  have hvalid := List.find?_some hfind
  obtain ⟨-, hexpires, -⟩ := of_decide_eq_true hvalid
  obtain ⟨row, hrow, hid, hmeets⟩ := hunchanged.usable now fun expiresAt hmem => by
    rw [show session.installTokenExpiresAt = some expiresAt from hmem] at hexpires
    exact of_decide_eq_true hexpires
  rw [hused] at hrow
  rcases (Collection.mem_updateOne_of_find? _ hids hfind).1 hrow with rfl | ⟨-, hne⟩
  · exact absurd (of_decide_eq_true hmeets).2.2.1 (fun h => nomatch h)
  · exact hne hid

theorem unchanged_refl (hfind : store.deviceSessions.find? (tokenFilter installTokenHash now) = some session) :
    Unchanged store store installTokenHash session := by
  refine ⟨fun now' hlt => ⟨session, List.mem_of_find?_eq_some hfind, rfl, ?_⟩, rfl, rfl, rfl, rfl⟩
  have hvalid := List.find?_some hfind
  obtain ⟨hhash, hexpires, hunused, huser⟩ := of_decide_eq_true hvalid
  refine decide_eq_true ⟨hhash, ?_, hunused, huser⟩
  obtain ⟨expiresAt, hsome, -⟩ := (Option.any_eq_true _ _).1 hexpires
  rw [hsome]
  exact decide_eq_true (hlt expiresAt hsome)

/-! ## What a request that used the token comes to -/

/-- The store after the token was used. -/
def used (store : Store) (installTokenHash : Text) (now : Nat) : Store :=
  { store with deviceSessions := updateOne (tokenFilter installTokenHash now) (DeviceSession.useToken now) store.deviceSessions }

theorem turn_request {authorization : Text} (htoken : bearerToken authorization ≠ []) (install : Install) :
    turn env store (.requested (install.request authorization)) told =
      (store, Task.of install.endpoint fun endpoint => .consume endpoint (env.apiKeyHash (bearerToken authorization)) told.now) := by
  cases install <;> simp only [Install.request, turn, startInstall, if_neg htoken] <;> rfl

theorem turn_consume (endpoint : Endpoint)
    (hfind : store.deviceSessions.find? (tokenFilter installTokenHash now) = some session) :
    turn env store (.consume endpoint installTokenHash now) told =
      (used store installTokenHash now, granted env endpoint (some (session.useToken now)) told) := by
  simp only [turn, findOneAndUpdate, hfind]
  rfl

theorem not_isCredential_rejected (rest : List (Input × Option Fault)) (status : Nat) (error : String) :
    ¬(serve env rest store (.done (.rejected status error))).2.IsCredential := by
  rw [serve_done]
  rintro ⟨apiKey, apiKeyId, h⟩
  cases h

/-- A route is installed exactly if the session is for one, the manifest is valid and no operation fails. -/
theorem isCredential_router (rest : List (Input × Option Fault)) (body : Option Value) {userId : String}
    (huser : session.userId = some userId) (hlength : 5 ≤ rest.length) :
    (serve env rest store (granted env (.router body) (some session) told)).2.IsCredential ↔
      session.product = .router ∧ (∃ manifest ∈ body, ∃ valid, validateInstallationManifest env manifest told.uuid = .ok valid) ∧
        ∀ p ∈ rest.take 5, p.2 = none := by
  simp only [granted, Option.bind_some, huser, Option.map_some]
  split
  · rename_i hproduct
    exact iff_of_false (not_isCredential_rejected rest _ _) fun h => hproduct h.1
  · rename_i hproduct
    cases body with
    | none => exact iff_of_false (not_isCredential_rejected rest _ _) fun ⟨_, ⟨_, h, _⟩, _⟩ => nomatch h
    | some manifest =>
      cases hmanifest : validateInstallationManifest env manifest told.uuid with
      | error e =>
        simp only [hmanifest]
        refine iff_of_false (not_isCredential_rejected rest _ _) fun ⟨_, ⟨_, h, valid, hvalid⟩, _⟩ => ?_
        cases h
        cases hmanifest.symm.trans hvalid
      | ok valid =>
        rw [and_iff_right (not_not.1 hproduct), and_iff_right ⟨manifest, rfl, valid, hmanifest⟩]
        simp only [hmanifest]
        exact isCredential_iff rest hlength rfl

/-- A key of a device is created exactly if the session is for one, the user has the entitlement and no operation fails. -/
theorem isCredential_infinite (rest : List (Input × Option Fault)) (deviceName : Text) {userId : String}
    (huser : session.userId = some userId) (hlength : 2 ≤ rest.length) :
    (serve env rest store (granted env (.infinite deviceName) (some session) told)).2.IsCredential ↔
      session.product = .infinite ∧ (Site.getInfiniteAccess store.site userId).allowed = true ∧ ∀ p ∈ rest.take 2, p.2 = none := by
  simp only [granted, Option.bind_some, huser, Option.map_some]
  split
  · rename_i hproduct
    exact iff_of_false (not_isCredential_rejected rest _ _) fun h => hproduct h.1
  · rename_i hproduct
    rw [and_iff_right (not_not.1 hproduct)]
    match rest, hlength with
    | (told', fault) :: p :: rest, _ =>
      rw [show List.take 2 ((told', fault) :: p :: rest) = [(told', fault), p] from rfl, List.forall_mem_cons]
      match fault with
      | some .before => exact iff_of_false (fun ⟨_, _, h⟩ => nomatch h) fun h => nomatch h.2.1
      | some .after => exact iff_of_false (fun ⟨_, _, h⟩ => nomatch h) fun h => nomatch h.2.1
      | none =>
        rw [and_iff_right rfl]
        simp only [serve, turn]
        split
        · rename_i hrefused
          exact iff_of_false (not_isCredential_rejected (p :: rest) _ _) fun h => Bool.false_ne_true (hrefused.symm.trans h.1)
        · rename_i hallowed
          rw [and_iff_right (Bool.eq_true_of_not_eq_false hallowed)]
          exact isCredential_iff (p :: rest) (Nat.succ_le_succ (Nat.zero_le _)) rfl

theorem infiniteEndpoint_ok {body : Value} {endpoint : Endpoint} (h : infiniteEndpoint body = .ok endpoint) :
    ∃ deviceName, endpoint = .infinite deviceName := by
  unfold infiniteEndpoint at h
  obtain ⟨_, -, hnamed⟩ := Outcome.bind_ok h
  obtain ⟨deviceName, -, hreturned⟩ := Outcome.bind_ok hnamed
  cases hreturned
  exact ⟨_, rfl⟩

/-- A request that has used the token is answered with a credential exactly if it passes every check and no operation of it fails. -/
theorem isCredential_iff_passes {plan : Nat → Input × Option Fault} {install : Install} {endpoint : Endpoint} {userId : String}
    (h0 : (plan 0).2 = none) (h1 : (plan 1).2 = none) (huser : (session.useToken now).userId = some userId)
    (hendpoint : install.endpoint = .ok endpoint) :
    (serve env [plan 2, plan 3, plan 4, plan 5, plan 6] (used store installTokenHash now)
      (granted env endpoint (some (session.useToken now)) (plan 1).1)).2.IsCredential ↔ Passes env plan store session install := by
  cases install with
  | router body =>
    cases hendpoint
    refine (isCredential_router [plan 2, plan 3, plan 4, plan 5, plan 6] body huser (Nat.le_refl 5)).trans ?_
    simp only [Passes, Nat.forall_lt_succ_left, h0, h1]
    simp [DeviceSession.useToken]
  | infinite body =>
    obtain ⟨deviceName, rfl⟩ := infiniteEndpoint_ok hendpoint
    refine (isCredential_infinite [plan 2, plan 3, plan 4, plan 5, plan 6] deviceName huser (Nat.le_add_left 2 3)).trans ?_
    simp only [Passes, Nat.forall_lt_succ_left, h0, h1, show session.userId = some userId from huser]
    simp [DeviceSession.useToken, used]

end RejectedAux

open RejectedAux

/-- A post with a token that is valid is answered with a credential, or leaves the token as usable as it was and writes no budget, no
key and no installation: exactly if it fails before it uses the token, or passes every check and no operation of it fails. -/
theorem rejected_unchanged_iff (env : Env) (plan : Nat → Input × Option Fault) (store : Store) (authorization : Text) (install : Install)
    (session : DeviceSession) (hids : (store.deviceSessions.map (·.id)).Nodup) (htoken : bearerToken authorization ≠ [])
    (hvalid : store.deviceSessions.find? (tokenFilter (env.apiKeyHash (bearerToken authorization)) (plan 0).1.now) = some session) :
    ((post env plan store authorization install).2.IsCredential ∨
      Unchanged store (post env plan store authorization install).1 (env.apiKeyHash (bearerToken authorization)) session) ↔
      FailsEarly plan install ∨ Passes env plan store session install := by
  have hunchanged := unchanged_refl hvalid
  rw [post, show (List.range 7).map plan = plan 0 :: plan 1 :: [plan 2, plan 3, plan 4, plan 5, plan 6] from rfl]
  cases h0 : (plan 0).2 with
  | some fault =>
    have hearly : FailsEarly plan install := Or.inl fun hnone => nomatch h0.symm.trans hnone
    refine iff_of_true (Or.inr ?_) (Or.inl hearly)
    cases fault with
    | before => rwa [serve_before h0]
    | after => rwa [serve_after h0, turn_request htoken]
  | none =>
    rw [serve_none h0, turn_request htoken]
    cases hendpoint : install.endpoint with
    | error e =>
      have hearly : FailsEarly plan install := Or.inr (Or.inr fun ⟨_, hok⟩ => nomatch hendpoint.symm.trans hok)
      refine iff_of_true (Or.inr ?_) (Or.inl hearly)
      rwa [Task.of, Task.raised, serve_done]
    | ok endpoint =>
      have hlate : FailsEarly plan install ↔ (plan 1).2 = some .before := by
        simp only [FailsEarly, h0, hendpoint]
        simp
      rw [hlate, Task.of]
      cases h1 : (plan 1).2 with
      | some fault =>
        cases fault with
        | before => exact iff_of_true (Or.inr (by rwa [serve_before h1])) (Or.inl rfl)
        | after =>
          rw [serve_after h1, turn_consume endpoint hvalid]
          refine iff_of_false ?_ ?_
          · rintro (⟨_, _, h⟩ | h)
            · cases h
            · exact not_unchanged hids hvalid rfl h
          · rintro (h | h)
            · cases h
            · cases install with
              | router body => exact nomatch h1.symm.trans (h.2.2 1 (by decide))
              | infinite body => exact nomatch h1.symm.trans (h.2.2 1 (by decide))
      | none =>
        have hmeets := List.find?_some hvalid
        obtain ⟨-, -, -, hsome⟩ := of_decide_eq_true hmeets
        obtain ⟨userId, huser⟩ := Option.ne_none_iff_exists'.1 hsome
        rw [serve_none h1, turn_consume endpoint hvalid, or_iff_left (not_unchanged hids hvalid (sessions_serve _ (past_granted _ _))),
          or_iff_right (fun h => Option.some_ne_none _ h.symm)]
        exact isCredential_iff_passes h0 h1 huser hendpoint

/-- A store in which a session was granted a token. -/
def exampleGranted : Store := (Transition.exec (system exampleEnv).step { store := {} } exampleGrant).store

/-- The session of that store. -/
def exampleSession : DeviceSession where
  id := "5f0c2d52-6f0e-4a57-9d3f-0a4d2f6b8c11"
  deviceCodeHash := exampleEnv.apiKeyHash exampleDeviceCode
  userCode := "ABCD-2345".toList
  product := .router
  deviceName := "PromptRail CLI".toList
  detectedHarnesses := []
  status := .consumed
  userId := some "u1"
  userEmail := some "ada@example.com"
  approvedAt := some 60000
  consumedAt := some 62000
  expiresAt := 600000
  createdAt := 0
  updatedAt := 62000
  installTokenHash := some (exampleEnv.apiKeyHash exampleInstallToken)
  installTokenExpiresAt := some 362000

/-- Nothing fails. -/
def examplePlan (_ : Nat) : Input × Option Fault := (exampleTold 70000, none)

theorem rejected_unchanged_installed :
    ((post exampleEnv examplePlan exampleGranted exampleAuthorization (.router (some (exampleManifest exampleBudget)))).2.IsCredential ∨
      Unchanged exampleGranted
        (post exampleEnv examplePlan exampleGranted exampleAuthorization (.router (some (exampleManifest exampleBudget)))).1
        (exampleEnv.apiKeyHash (bearerToken exampleAuthorization)) exampleSession) ↔
      FailsEarly examplePlan (.router (some (exampleManifest exampleBudget))) ∨
        Passes exampleEnv examplePlan exampleGranted exampleSession (.router (some (exampleManifest exampleBudget))) :=
  rejected_unchanged_iff exampleEnv examplePlan exampleGranted exampleAuthorization (.router (some (exampleManifest exampleBudget)))
    exampleSession (by decide +kernel) (by decide +kernel) (by decide +kernel)

/-- A manifest with no budget is rejected, and its token has been used. -/
theorem rejected_token_used :
    exampleGranted.deviceSessions.find?
        (tokenFilter (exampleEnv.apiKeyHash (bearerToken exampleAuthorization)) (examplePlan 0).1.now) = some exampleSession ∧
      ¬((post exampleEnv examplePlan exampleGranted exampleAuthorization (.router (some (exampleManifest [])))).2.IsCredential ∨
        Unchanged exampleGranted
          (post exampleEnv examplePlan exampleGranted exampleAuthorization (.router (some (exampleManifest [])))).1
          (exampleEnv.apiKeyHash (bearerToken exampleAuthorization)) exampleSession) := by
  refine ⟨by decide +kernel, ?_⟩
  rintro (hcredential | hunchanged)
  · exact absurd hcredential (by decide +kernel)
  · exact absurd (hunchanged.usable 70000 (by decide)) (by decide +kernel)

end Device

end PromptRail
