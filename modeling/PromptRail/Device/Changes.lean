import PromptRail.Device
import PromptRail.Library.Transition

/-!
# What a request does to the sessions

Four turns write a session: it is inserted, decided, granted a token, and its token is used. A fifth turn inserts the key of a session.
`turn_cases` says what each of them does, and `step_cases` what a step of the system does.
-/

namespace PromptRail

namespace Device

open PyText (Text)
open Js (Value)
open Concurrent (World Action ThreadId)
open Collection (updateOne)

/-! ## Histories -/

/-- A decision that was taken, by a user at a time. -/
structure Decision where
  sessionId : String
  userId : String
  approved : Bool
  time : Nat

/-- A token that was granted for a session at a time. -/
structure Token where
  sessionId : String
  hash : Text
  expiresAt : Nat
  time : Nat

/-- A key that was created, and the session whose token was used for it. -/
structure Key where
  session : DeviceSession
  row : Site.ApiKey

/-- What has been seen of a run, the latest first. -/
structure History where
  decisions : List Decision := []
  tokens : List Token := []
  keys : List Key := []

def History.decisionsOf (history : History) (sessionId : String) : List Decision := history.decisions.filter (·.sessionId = sessionId)

def History.tokensOf (history : History) (sessionId : String) : List Token := history.tokens.filter (·.sessionId = sessionId)

def History.keysOf (history : History) (sessionId : String) : List Key := history.keys.filter (·.session.id = sessionId)

/-- What is seen of a turn: the store before it, and what the request was about to do. -/
def History.see (env : Env) (history : History) (store : Store) : Task → History
  | .decide userCode user approved now =>
    match store.deviceSessions.find? (pendingFilter userCode now) with
    | none => history
    | some session =>
      { history with decisions := { sessionId := session.id, userId := user.id, approved, time := now } :: history.decisions }
  | .grantAt deviceCodeHash installToken expiresAt now =>
    match store.deviceSessions.find? (approvedFilter deviceCodeHash now) with
    | none => history
    | some session =>
      { history with
        tokens := { sessionId := session.id, hash := env.apiKeyHash installToken, expiresAt, time := now } :: history.tokens }
  | .insertKey session _ _ row _ => { history with keys := { session, row } :: history.keys }
  | _ => history

/-- A state of the system. -/
abbrev State := World Store Task

/-- What can happen to the system. -/
abbrev Event := Action Request Input Store

/-- What a history sees of a step. -/
def observe (env : Env) (history : History) (w : State) (a : Event) (_ : State) : History :=
  match a with
  | .turn t _ =>
    match w.threads.lookup t with
    | none => history
    | some task => history.see env w.store task
  | .begin _ _ | .halt _ | .happen _ => history

/-- Codes and tokens are distinct: a session is inserted under an identifier and codes that no other has, and a token is granted whose
digest no other has. -/
def DrawsNew (env : Env) (w : State) : Event → Prop
  | .turn t _ =>
    match w.threads.lookup t with
    | some (.insertSession session _) => ∀ r ∈ w.store.deviceSessions,
        r.id ≠ session.id ∧ r.userCode ≠ session.userCode ∧ r.deviceCodeHash ≠ session.deviceCodeHash
    | some (.grantAt _ installToken _ _) => ∀ r ∈ w.store.deviceSessions, r.installTokenHash ≠ some (env.apiKeyHash installToken)
    | _ => True
  | .begin _ _ | .halt _ | .happen _ => True

instance (env : Env) (w : State) (a : Event) : Decidable (DrawsNew env w a) := by
  unfold DrawsNew
  split
  · split <;> infer_instance
  all_goals exact isTrue trivial

/-! ## Requests that have used a token -/

/-- The session whose token a request has used, until it has inserted the key. -/
def Task.session? : Task → Option DeviceSession
  | .ensureUser session _ _ | .setUser session _ _ _ _ | .setBudget session _ _ _ _ | .checkAccess session _ _
  | .insertKey session _ _ _ _ => some session
  | _ => none

/-- The product that a key is for. -/
def keyProduct (key : Site.ApiKey) : Product := if key.kind = some "infinite" then .infinite else .router

/-- What a request that holds a session is about to write fits the session. -/
def Task.Right : Task → Prop
  | .insertSession session _ =>
    session.status = .pending ∧ session.installTokenHash = none ∧ session.installTokenConsumedAt = none
  | .ensureUser session user _ | .setUser session user _ _ _ | .setBudget session user _ _ _ =>
    session.userId = some user.id ∧ session.product = .router
  | .checkAccess session user _ => session.userId = some user.id ∧ session.product = .infinite
  | .insertKey session _ _ key _ => session.userId = some key.userId ∧ keyProduct key = session.product
  | _ => True

variable {env : Env} {store : Store} {task : Task} {told : Input}

/-- A request that raises or is answered holds nothing. -/
theorem right_of {α : Type} {result : Except String α} {next : α → Task} (h : ∀ a, (next a).Right) : (Task.of result next).Right := by
  cases result with
  | error e => trivial
  | ok a => exact h a

theorem right_granted {endpoint : Endpoint} {session : Option DeviceSession} : (granted env endpoint session told).Right := by
  unfold granted
  split
  · trivial
  · trivial
  · rename_i body session user hgrant
    obtain ⟨session', -, hpair⟩ := Option.bind_eq_some_iff.1 hgrant
    obtain ⟨userId, huser, heq⟩ := Option.map_eq_some_iff.1 hpair
    cases heq
    split
    · trivial
    · rename_i hproduct
      split
      · trivial
      · split
        · trivial
        · exact ⟨huser, not_not.1 hproduct⟩
  · rename_i deviceName session user hgrant
    obtain ⟨session', -, hpair⟩ := Option.bind_eq_some_iff.1 hgrant
    obtain ⟨userId, huser, heq⟩ := Option.map_eq_some_iff.1 hpair
    cases heq
    split
    · trivial
    · rename_i hproduct
      exact ⟨huser, not_not.1 hproduct⟩

/-- What a request does next fits the session that it holds. -/
theorem right_turn (h : task.Right) : (turn env store task told).2.Right := by
  cases task with
  | requested request =>
    cases request with
    | create body =>
      refine right_of fun product => ?_
      split
      · trivial
      · exact right_of fun _ => right_of fun _ => ⟨rfl, rfl, rfl⟩
    | approve user body =>
      simp only [turn, approveSession]
      split
      · trivial
      · refine right_of fun code => ?_
        split <;> trivial
    | poll body =>
      refine right_of fun deviceCode => ?_
      split
      · trivial
      · split
        · trivial
        · split
          · trivial
          · split <;> trivial
    | install authorization body =>
      simp only [turn, startInstall]
      split
      · trivial
      · exact right_of fun _ => trivial
    | installInfinite authorization body =>
      simp only [turn, startInstall]
      split
      · trivial
      · exact right_of fun _ => trivial
  | decide userCode user approved now =>
    simp only [turn]
    split <;> trivial
  | grantAt deviceCodeHash installToken installTokenExpiresAt now =>
    simp only [turn]
    split <;> trivial
  | consume endpoint installTokenHash now => exact right_granted
  | setBudget session user manifest budget remaining =>
    refine ⟨h.1, ?_⟩
    rw [h.2]
    rfl
  | checkAccess session user deviceName =>
    simp only [turn]
    split
    · trivial
    · refine ⟨h.1, ?_⟩
      rw [h.2]
      rfl
  | insertKey session user manifest key apiKey =>
    simp only [turn]
    split <;> trivial
  | ensureUser session user manifest => exact h
  | setUser session user manifest budget remaining => exact h
  | insertSession | grant | save | done => trivial

/-! ## Turns -/

/-- A request that raises or is answered holds no session. -/
theorem session?_of {α : Type} {result : Except String α} {next : α → Task} (h : ∀ a, (next a).session? = none) :
    (Task.of result next).session? = none := by
  cases result with
  | error e => rfl
  | ok a => exact h a

/-- A request that has used a token holds the session, or it is rejected. -/
theorem session?_granted {endpoint : Endpoint} {session : Option DeviceSession} :
    (granted env endpoint session told).session? = none ∨ (granted env endpoint session told).session? = session := by
  unfold granted
  split
  · exact Or.inl rfl
  · exact Or.inl rfl
  · rename_i body session user hgrant
    obtain ⟨session', hsession, hpair⟩ := Option.bind_eq_some_iff.1 hgrant
    obtain ⟨userId, -, heq⟩ := Option.map_eq_some_iff.1 hpair
    cases heq
    split
    · exact Or.inl rfl
    · split
      · exact Or.inl rfl
      · split
        · exact Or.inl rfl
        · exact Or.inr hsession.symm
  · rename_i deviceName session user hgrant
    obtain ⟨session', hsession, hpair⟩ := Option.bind_eq_some_iff.1 hgrant
    obtain ⟨userId, -, heq⟩ := Option.map_eq_some_iff.1 hpair
    cases heq
    split
    · exact Or.inl rfl
    · exact Or.inr hsession.symm

/-- A request that starts holds no session after its first turn. -/
theorem session?_requested (request : Request) : (turn env store (.requested request) told).2.session? = none := by
  cases request with
  | create body =>
    refine session?_of fun product => ?_
    split
    · rfl
    · exact session?_of fun _ => session?_of fun _ => rfl
  | approve user body =>
    simp only [turn, approveSession]
    split
    · rfl
    · refine session?_of fun code => ?_
      split <;> rfl
  | poll body =>
    refine session?_of fun deviceCode => ?_
    split
    · rfl
    · split
      · rfl
      · split
        · rfl
        · split <;> rfl
  | install authorization body =>
    simp only [turn, startInstall]
    split
    · rfl
    · exact session?_of fun _ => rfl
  | installInfinite authorization body =>
    simp only [turn, startInstall]
    split
    · rfl
    · exact session?_of fun _ => rfl

/-- A turn leaves the sessions and is seen to do nothing, or it inserts a session, writes one, or inserts the key of one. -/
theorem turn_cases (env : Env) (store : Store) (task : Task) (told : Input) :
    ((turn env store task told).1.deviceSessions = store.deviceSessions ∧ (∀ history : History, history.see env store task = history) ∧
      ((turn env store task told).2.session? = none ∨ (turn env store task told).2.session? = task.session?)) ∨
    (∃ session deviceCode, task = .insertSession session deviceCode ∧
      (turn env store task told).1.deviceSessions = store.deviceSessions ++ [session] ∧ (turn env store task told).2.session? = none) ∨
    (∃ userCode user approved now session, task = .decide userCode user approved now ∧
      store.deviceSessions.find? (pendingFilter userCode now) = some session ∧
      (turn env store task told).1.deviceSessions =
        updateOne (pendingFilter userCode now) (DeviceSession.decide user approved now) store.deviceSessions ∧
      (turn env store task told).2.session? = none) ∨
    (∃ deviceCodeHash installToken expiresAt now session, task = .grantAt deviceCodeHash installToken expiresAt now ∧
      store.deviceSessions.find? (approvedFilter deviceCodeHash now) = some session ∧
      (turn env store task told).1.deviceSessions = updateOne (approvedFilter deviceCodeHash now)
        (DeviceSession.grant (env.apiKeyHash installToken) expiresAt now) store.deviceSessions ∧
      (turn env store task told).2.session? = none) ∨
    (∃ endpoint installTokenHash now session, task = .consume endpoint installTokenHash now ∧
      store.deviceSessions.find? (tokenFilter installTokenHash now) = some session ∧
      (turn env store task told).1.deviceSessions =
        updateOne (tokenFilter installTokenHash now) (DeviceSession.useToken now) store.deviceSessions ∧
      ((turn env store task told).2.session? = none ∨ (turn env store task told).2.session? = some (session.useToken now))) ∨
    (∃ session user manifest key apiKey, task = .insertKey session user manifest key apiKey ∧
      (turn env store task told).1.deviceSessions = store.deviceSessions ∧ (turn env store task told).2.session? = none) := by
  cases task with
  | requested request => exact Or.inl ⟨by cases request <;> rfl, fun _ => rfl, Or.inl (session?_requested request)⟩
  | insertSession session deviceCode => exact Or.inr (Or.inl ⟨session, deviceCode, rfl, rfl, rfl⟩)
  | decide userCode user approved now =>
    have hnone : (turn env store (.decide userCode user approved now) told).2.session? = none := by
      simp only [turn]
      split <;> rfl
    cases hfind : store.deviceSessions.find? (pendingFilter userCode now) with
    | none =>
      refine Or.inl ⟨Collection.updateOne_eq_self (List.find?_eq_none.1 hfind), fun history => ?_, Or.inl hnone⟩
      simp only [History.see, hfind]
    | some session => exact Or.inr (Or.inr (Or.inl ⟨userCode, user, approved, now, session, rfl, hfind, rfl, hnone⟩))
  | grant deviceCodeHash installToken installTokenExpiresAt => exact Or.inl ⟨rfl, fun _ => rfl, Or.inl rfl⟩
  | grantAt deviceCodeHash installToken expiresAt now =>
    have hnone : (turn env store (.grantAt deviceCodeHash installToken expiresAt now) told).2.session? = none := by
      simp only [turn]
      split <;> rfl
    cases hfind : store.deviceSessions.find? (approvedFilter deviceCodeHash now) with
    | none =>
      refine Or.inl ⟨Collection.updateOne_eq_self (List.find?_eq_none.1 hfind), fun history => ?_, Or.inl hnone⟩
      simp only [History.see, hfind]
    | some session =>
      exact Or.inr (Or.inr (Or.inr (Or.inl ⟨deviceCodeHash, installToken, expiresAt, now, session, rfl, hfind, rfl, hnone⟩)))
  | consume endpoint installTokenHash now =>
    have hsession : (turn env store (.consume endpoint installTokenHash now) told).2.session? = none ∨
        (turn env store (.consume endpoint installTokenHash now) told).2.session? =
          (store.deviceSessions.find? (tokenFilter installTokenHash now)).map (DeviceSession.useToken now) := session?_granted
    cases hfind : store.deviceSessions.find? (tokenFilter installTokenHash now) with
    | none =>
      rw [hfind] at hsession
      exact Or.inl ⟨Collection.updateOne_eq_self (List.find?_eq_none.1 hfind), fun _ => rfl, hsession⟩
    | some session =>
      rw [hfind] at hsession
      exact Or.inr (Or.inr (Or.inr (Or.inr (Or.inl ⟨endpoint, installTokenHash, now, session, rfl, hfind, rfl, hsession⟩))))
  | ensureUser session user manifest => exact Or.inl ⟨rfl, fun _ => rfl, Or.inr rfl⟩
  | setUser session user manifest budget remaining => exact Or.inl ⟨rfl, fun _ => rfl, Or.inr rfl⟩
  | setBudget session user manifest budget remaining => exact Or.inl ⟨rfl, fun _ => rfl, Or.inr rfl⟩
  | checkAccess session user deviceName =>
    refine Or.inl ⟨?_, fun _ => rfl, ?_⟩
    · simp only [turn]
      split <;> rfl
    · simp only [turn]
      split
      · exact Or.inl rfl
      · exact Or.inr rfl
  | insertKey session user manifest key apiKey =>
    refine Or.inr (Or.inr (Or.inr (Or.inr (Or.inr ⟨session, user, manifest, key, apiKey, rfl, rfl, ?_⟩))))
    simp only [turn]
    split <;> rfl
  | save session user manifest key apiKey => exact Or.inl ⟨rfl, fun _ => rfl, Or.inl rfl⟩
  | done response => exact Or.inl ⟨rfl, fun _ => rfl, Or.inl rfl⟩

/-- A step is a turn of a request, or it leaves the sessions, is seen to do nothing, and leaves every request as it was, or one that
starts or is over and holds no session. -/
theorem step_cases (env : Env) (w : State) (a : Event) :
    (((system env).step w a).store.deviceSessions = w.store.deviceSessions ∧
      (∀ history : History, observe env history w a ((system env).step w a) = history) ∧
      (((system env).step w a).threads = w.threads ∨
        (∃ t request, t ∉ w.threads ∧ ((system env).step w a).threads = w.threads.insert t (.requested request)) ∨
        ∃ t task, w.threads.lookup t = some task ∧ ((system env).step w a).threads = w.threads.insert t task.cutOff)) ∨
    (∃ t told task, a = .turn t told ∧ w.threads.lookup t = some task ∧
      (system env).step w a =
        { store := (turn env w.store task told).1, threads := w.threads.insert t (turn env w.store task told).2 }) := by
  rcases (system env).step_cases w a with ⟨hnone, hs⟩ | ⟨t, call, rfl, hnew, hs⟩ | ⟨t, told, task, rfl, ht, hs⟩ | ⟨t, task, rfl, ht, hs⟩ |
    ⟨event, rfl, hs⟩
  · refine Or.inl ⟨by rw [hs], fun history => ?_, Or.inl (by rw [hs])⟩
    cases a with
    | turn t told => simp only [observe, hnone t told rfl]
    | _ => rfl
  · exact Or.inl ⟨by rw [hs], fun _ => rfl, Or.inr (Or.inl ⟨t, call, hnew, by rw [hs]; rfl⟩)⟩
  · exact Or.inr ⟨t, told, task, rfl, ht, hs⟩
  · exact Or.inl ⟨by rw [hs], fun _ => rfl, Or.inr (Or.inr ⟨t, task, ht, by rw [hs]; rfl⟩)⟩
  · exact Or.inl ⟨by rw [hs]; rfl, fun _ => rfl, Or.inl (by rw [hs])⟩

/-! ## An environment -/

/-- The device code of the examples: the bytes 0 to 31. -/
def exampleDeviceCode : Text := "AAECAwQFBgcICQoLDA0ODxAREhMUFRYXGBkaGxwdHh8".toList

/-- The install token of the examples: the bytes 32 to 63. -/
def exampleInstallToken : Text := "ICEiIyQlJicoKSorLC0uLzAxMjM0NTY3ODk6Ozw9Pj8".toList

/-- SHA-256 of the codes of the examples. -/
def exampleHashes : List (Text × Text) :=
  [(exampleDeviceCode, "ea866a757e4c38babfa8127cbe9a409d3e1f93a00ff1488ff735fcf917afffd0".toList),
    (exampleInstallToken, "cf0931e168b49e987503caf18af6fe253b6b3d82a81008c3e8e1ee67c7c8dc55".toList)]

def exampleEnv : Env where
  apiKeyHash t := (exampleHashes.lookup t).getD t
  lower := List.map Char.toLower
  upper := List.map Char.toUpper
  number
    | .number literal =>
      .ok (if literal.all Char.isDigit then some ((literal.foldl (fun n c => n * 10 + (c.toNat - 48)) 0 : Nat) : ℚ) else none)
    | _ => .ok none
  cents x := ((x * 100 + 1 / 2).floor : ℚ) / 100

/-- What the requests of the examples are told, at a time. -/
def exampleTold (now : Nat) : Input where
  now
  uuid := "5f0c2d52-6f0e-4a57-9d3f-0a4d2f6b8c11"
  deviceCode := exampleDeviceCode
  userCode := "ABCD-2345".toList
  installToken := exampleInstallToken
  apiKey := "lr_live_QEFCQ0RFRkdISUpLTE1OT1BRUlNUVVZX".toList

def exampleUser : User := { id := "u1", email := some "ada@example.com" }

/-- `{"workspace_name":"Production Agents","harness":"hermes","inference_mode":"user_managed","budget":..}`. -/
def exampleManifest (budget : List (Text × Value)) : Value :=
  .obj [("workspace_name".toList, .str "Production Agents".toList), ("harness".toList, .str "hermes".toList),
    ("inference_mode".toList, .str "user_managed".toList), ("budget".toList, .obj budget)]

/-- `{"amount_usd":25,"cycle":"monthly"}`. -/
def exampleBudget : List (Text × Value) := [("amount_usd".toList, .number "25".toList), ("cycle".toList, .str "monthly".toList)]

/-- `Bearer` and the install token. -/
def exampleAuthorization : Text := "Bearer ".toList ++ exampleInstallToken

/-- A session is opened and approved, and granted a token. -/
def exampleGrant : List Event :=
  [.begin 0 (.create none), .turn 0 (exampleTold 0), .turn 0 (exampleTold 0),
    .begin 1 (.approve (some exampleUser)
      (some (.obj [("code".toList, .str "abcd-2345".toList), ("decision".toList, .str "approve".toList)]))),
    .turn 1 (exampleTold 60000), .turn 1 (exampleTold 60000),
    .begin 2 (.poll (some (.obj [("device_code".toList, .str exampleDeviceCode)]))),
    .turn 2 (exampleTold 62000), .turn 2 (exampleTold 62000), .turn 2 (exampleTold 62000)]

end Device

end PromptRail
