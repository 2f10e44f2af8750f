import Mathlib.Data.List.Count
import PromptRail.Device.Changes

/-!
# What a session yields

A session is decided once, is granted a token once, and its token is used once: each of the three writes is made under a filter that it
makes false. A request that has used a token holds the session, as it will stay, until it has inserted the key.
-/

namespace PromptRail

namespace Device

open PyText (Text)
open Concurrent (World Action ThreadId EveryThread load)
open Collection (updateOne)
open Transition

/-! ## What is to hold -/

/-- A session is decided at most once, and yields at most one token and one key; a token only if it was approved, and neither approved
nor granted after it expired; and a key only for the user who approved it, of its product, by its token before that expired. -/
structure Granted (sessions : List DeviceSession) (history : History) : Prop where
  decidedOnce : (history.decisions.map (·.sessionId)).Nodup
  tokenOnce : (history.tokens.map (·.sessionId)).Nodup
  keyOnce : (history.keys.map (·.session.id)).Nodup
  denied : ∀ decision ∈ history.decisions, decision.approved = false → ∀ token ∈ history.tokens, token.sessionId ≠ decision.sessionId
  token : ∀ token ∈ history.tokens, ∃ session ∈ sessions, session.id = token.sessionId ∧ token.time < session.expiresAt ∧
    ∃ decision ∈ history.decisions, decision.sessionId = token.sessionId ∧ decision.approved = true ∧
      decision.time < session.expiresAt
  key : ∀ key ∈ history.keys, key.session ∈ sessions ∧ keyProduct key.row = key.session.product ∧
    (∃ decision ∈ history.decisions, decision.sessionId = key.session.id ∧ decision.approved = true ∧
      decision.userId = key.row.userId ∧ decision.time < key.session.expiresAt) ∧
    ∃ token ∈ history.tokens, token.sessionId = key.session.id ∧ key.session.installTokenHash = some token.hash ∧
      ∃ time, key.session.installTokenConsumedAt = some time ∧ time < token.expiresAt

namespace GrantedAux

variable {env : Env} {w : State} {history history' : History} {row session : DeviceSession} {n n' : Nat}

/-! ## One session -/

/-- How many requests hold a session. -/
def carries (sessionId : String) (task : Task) : Nat := if task.session?.any (·.id = sessionId) then 1 else 0

def held (threads : Table.Dict ThreadId Task) (sessionId : String) : Nat := load (carries sessionId) threads

/-- A session, with what was seen of it and the number of requests that hold it. -/
structure Fits (history : History) (n : Nat) (row : DeviceSession) : Prop where
  pending : row.status = .pending → history.decisionsOf row.id = []
  decided : row.status ≠ .pending → ∃ decision, history.decisionsOf row.id = [decision] ∧ row.userId = some decision.userId ∧
    (row.status ≠ .denied → decision.approved = true ∧ decision.time < row.expiresAt) ∧
    (row.status = .denied → decision.approved = false)
  ungranted : row.status ≠ .consumed → history.tokensOf row.id = [] ∧ row.installTokenHash = none ∧ row.installTokenConsumedAt = none
  granted : row.status = .consumed → ∃ token, history.tokensOf row.id = [token] ∧ row.installTokenHash = some token.hash ∧
    row.installTokenExpiresAt = some token.expiresAt ∧ token.time < row.expiresAt
  unused : row.installTokenConsumedAt = none → history.keysOf row.id = [] ∧ n = 0
  used : ∀ time, row.installTokenConsumedAt = some time →
    (∀ expiresAt ∈ row.installTokenExpiresAt, time < expiresAt) ∧ (history.keysOf row.id).length + n ≤ 1

/-- The histories differ at most in what was seen of one session. -/
structure SameBut (history history' : History) (sessionId : String) : Prop where
  decisions : ∀ id ≠ sessionId, history'.decisionsOf id = history.decisionsOf id
  tokens : ∀ id ≠ sessionId, history'.tokensOf id = history.tokensOf id
  keys : ∀ id ≠ sessionId, history'.keysOf id = history.keysOf id

theorem sameBut_decision (decision : Decision) :
    SameBut history { history with decisions := decision :: history.decisions } decision.sessionId where
  decisions _ hne := List.filter_cons_of_neg fun h => hne (of_decide_eq_true h).symm
  tokens _ _ := rfl
  keys _ _ := rfl

theorem sameBut_token (token : Token) : SameBut history { history with tokens := token :: history.tokens } token.sessionId where
  decisions _ _ := rfl
  tokens _ hne := List.filter_cons_of_neg fun h => hne (of_decide_eq_true h).symm
  keys _ _ := rfl

theorem sameBut_key (key : Key) : SameBut history { history with keys := key :: history.keys } key.session.id where
  decisions _ _ := rfl
  tokens _ _ := rfl
  keys _ hne := List.filter_cons_of_neg fun h => hne (of_decide_eq_true h).symm

theorem decisionsOf_cons (history : History) (decision : Decision) :
    ({ history with decisions := decision :: history.decisions } : History).decisionsOf decision.sessionId =
      decision :: history.decisionsOf decision.sessionId :=
  List.filter_cons_of_pos (decide_eq_true rfl)

theorem tokensOf_cons (history : History) (token : Token) :
    ({ history with tokens := token :: history.tokens } : History).tokensOf token.sessionId =
      token :: history.tokensOf token.sessionId :=
  List.filter_cons_of_pos (decide_eq_true rfl)

theorem keysOf_cons (history : History) (session : DeviceSession) (row : Site.ApiKey) :
    ({ history with keys := { session, row } :: history.keys } : History).keysOf session.id =
      { session, row } :: history.keysOf session.id :=
  List.filter_cons_of_pos (decide_eq_true rfl)

/-- A session of which nothing new is seen, and which no more requests hold. -/
theorem Fits.other (h : Fits history n row) (hsame : SameBut history history' session.id) (hne : row.id ≠ session.id) (hn : n' ≤ n) :
    Fits history' n' row := by
  constructor
  case pending => simpa only [hsame.decisions _ hne] using h.pending
  case decided => simpa only [hsame.decisions _ hne] using h.decided
  case ungranted => simpa only [hsame.tokens _ hne] using h.ungranted
  case granted => simpa only [hsame.tokens _ hne] using h.granted
  case unused =>
    intro hnone
    rw [hsame.keys _ hne]
    exact (h.unused hnone).imp_right fun hzero => Nat.le_zero.1 (Nat.le_trans hn (Nat.le_of_eq hzero))
  case used =>
    intro time htime
    rw [hsame.keys _ hne]
    exact (h.used time htime).imp_right fun hle => Nat.le_trans (Nat.add_le_add_left hn _) hle

/-- A session that was inserted. -/
theorem fits_insert (hdecisions : history.decisionsOf row.id = []) (htokens : history.tokensOf row.id = [])
    (hkeys : history.keysOf row.id = []) (hn : n = 0)
    (hright : row.status = .pending ∧ row.installTokenHash = none ∧ row.installTokenConsumedAt = none) : Fits history n row := by
  obtain ⟨hstatus, hhash, hused⟩ := hright
  refine ⟨fun _ => hdecisions, fun h => absurd hstatus h, fun _ => ⟨htokens, hhash, hused⟩, fun h => ?_, fun _ => ⟨hkeys, hn⟩,
    fun time h => ?_⟩
  · rw [hstatus] at h
    cases h
  · rw [hused] at h
    cases h

/-- A session that was decided. -/
theorem fits_decide (h : Fits history n session) {userCode : Text} {user : User} {approved : Bool} {now : Nat}
    (hmeets : pendingFilter userCode now session = true) (hn : n' ≤ n) :
    Fits { history with decisions := { sessionId := session.id, userId := user.id, approved, time := now } :: history.decisions } n'
      (session.decide user approved now) := by
  obtain ⟨-, hstatus, -, hlt⟩ := of_decide_eq_true hmeets
  have hnot : session.status ≠ .consumed := by
    rw [hstatus]
    exact fun h => nomatch h
  obtain ⟨htokens, hhash, hused⟩ := h.ungranted hnot
  have hone := decisionsOf_cons history { sessionId := session.id, userId := user.id, approved, time := now }
  rw [h.pending hstatus] at hone
  constructor
  case pending =>
    intro hpending
    cases approved <;> cases hpending
  case decided =>
    intro _
    refine ⟨_, hone, rfl, fun hdenied => ?_, fun hdenied => ?_⟩
    · cases approved
      · exact absurd rfl hdenied
      · exact ⟨rfl, hlt⟩
    · cases approved
      · rfl
      · cases hdenied
  case ungranted => exact fun _ => ⟨htokens, hhash, hused⟩
  case granted =>
    intro hconsumed
    cases approved <;> cases hconsumed
  case unused => exact fun _ => (h.unused hused).imp_right fun hzero => Nat.le_zero.1 (Nat.le_trans hn (Nat.le_of_eq hzero))
  case used =>
    intro time htime
    cases hused.symm.trans htime

/-- A session that was granted a token. -/
theorem fits_grant (h : Fits history n session) {deviceCodeHash hash : Text} {expiresAt now : Nat}
    (hmeets : approvedFilter deviceCodeHash now session = true) (hn : n' ≤ n) :
    Fits { history with tokens := { sessionId := session.id, hash, expiresAt, time := now } :: history.tokens } n'
      (session.grant hash expiresAt now) := by
  obtain ⟨-, hstatus, -, hlt⟩ := of_decide_eq_true hmeets
  have hnot : session.status ≠ .consumed := by
    rw [hstatus]
    exact fun h => nomatch h
  obtain ⟨htokens, -, hused⟩ := h.ungranted hnot
  obtain ⟨decision, hdecision, huser, happroved, -⟩ := h.decided (by rw [hstatus]; exact fun h => nomatch h)
  have hone := tokensOf_cons history { sessionId := session.id, hash, expiresAt, time := now }
  rw [htokens] at hone
  constructor
  case pending => exact fun hpending => nomatch hpending
  case decided =>
    intro _
    refine ⟨decision, hdecision, huser, fun _ => happroved ?_, fun hdenied => nomatch hdenied⟩
    rw [hstatus]
    exact fun h => nomatch h
  case ungranted => exact fun hconsumed => absurd rfl hconsumed
  case granted => exact fun _ => ⟨_, hone, rfl, rfl, hlt⟩
  case unused => exact fun _ => (h.unused hused).imp_right fun hzero => Nat.le_zero.1 (Nat.le_trans hn (Nat.le_of_eq hzero))
  case used =>
    intro time htime
    cases hused.symm.trans htime

/-- A session whose token was used. -/
theorem fits_useToken (h : Fits history n session) {hash : Text} {now : Nat} (hmeets : tokenFilter hash now session = true)
    (hn : n' ≤ n + 1) : Fits history n' (session.useToken now) := by
  obtain ⟨hhash, hexpires, hunused, -⟩ := of_decide_eq_true hmeets
  obtain ⟨hkeys, rfl⟩ := h.unused hunused
  refine ⟨h.pending, h.decided, fun hnot => ?_, h.granted, fun hnone => (nomatch hnone), fun time htime => ?_⟩
  · rw [(h.ungranted hnot).2.1] at hhash
    cases hhash
  · cases htime
    refine ⟨fun expiresAt hmem => ?_, ?_⟩
    · have hsome : session.installTokenExpiresAt = some expiresAt := hmem
      rw [hsome] at hexpires
      exact of_decide_eq_true hexpires
    · rw [show history.keysOf (session.useToken now).id = [] from hkeys, List.length_nil]
      omega

/-- A session whose key was inserted. -/
theorem fits_key (h : Fits history n session) {key : Site.ApiKey} (hused : session.installTokenConsumedAt.isSome = true)
    (hn : n' + 1 ≤ n) : Fits { history with keys := { session, row := key } :: history.keys } n' session := by
  refine ⟨h.pending, h.decided, h.ungranted, h.granted, fun hnone => ?_, fun time htime => ?_⟩
  · rw [hnone] at hused
    cases hused
  · obtain ⟨hlt, hle⟩ := h.used time htime
    refine ⟨hlt, ?_⟩
    rw [keysOf_cons, List.length_cons]
    omega

/-! ## The invariant -/

/-- A request that holds a session holds it as it is, its token used. -/
def Holds (sessions : List DeviceSession) (task : Task) : Prop :=
  ∀ session ∈ task.session?, session ∈ sessions ∧ session.installTokenConsumedAt.isSome = true

/-- The sessions, the history and the requests. -/
structure Kept (w : State) (history : History) : Prop where
  ids : (w.store.deviceSessions.map (·.id)).Nodup
  userCodes : (w.store.deviceSessions.map (·.userCode)).Nodup
  deviceCodes : (w.store.deviceSessions.map (·.deviceCodeHash)).Nodup
  hashes : ∀ r ∈ w.store.deviceSessions, ∀ r' ∈ w.store.deviceSessions, ∀ hash,
    r.installTokenHash = some hash → r'.installTokenHash = some hash → r.id = r'.id
  fits : ∀ row ∈ w.store.deviceSessions, Fits history (held w.threads row.id) row
  decisions : ∀ decision ∈ history.decisions, ∃ row ∈ w.store.deviceSessions, row.id = decision.sessionId
  tokens : ∀ token ∈ history.tokens, ∃ row ∈ w.store.deviceSessions, row.id = token.sessionId
  keys : ∀ key ∈ history.keys, (key.session ∈ w.store.deviceSessions ∧ key.session.installTokenConsumedAt.isSome = true) ∧
    key.session.userId = some key.row.userId ∧ keyProduct key.row = key.session.product
  right : EveryThread Task.Right w.threads
  holds : EveryThread (Holds w.store.deviceSessions) w.threads

theorem kept_empty : Kept { store := {} } {} where
  ids := List.nodup_nil
  userCodes := List.nodup_nil
  deviceCodes := List.nodup_nil
  hashes _ h := absurd h List.not_mem_nil
  fits _ h := absurd h List.not_mem_nil
  decisions _ h := absurd h List.not_mem_nil
  tokens _ h := absurd h List.not_mem_nil
  keys _ h := absurd h List.not_mem_nil
  right := Concurrent.everyThread_empty _
  holds := Concurrent.everyThread_empty _

theorem nodup_of_filter {α : Type} {key : α → String} {l : List α} (h : ∀ k, (l.filter (key · = k)).length ≤ 1) :
    (l.map key).Nodup := by
  refine List.nodup_iff_count_le_one.2 fun k => ?_
  rw [List.count, List.countP_map, List.countP_eq_length_filter]
  exact h k

/-- Of a session that is not there, nothing was seen. -/
theorem filter_le_one {α : Type} {key : α → String} {l : List α} {sessions : List DeviceSession}
    (hknown : ∀ a ∈ l, ∃ row ∈ sessions, row.id = key a) (hone : ∀ row ∈ sessions, (l.filter (key · = row.id)).length ≤ 1) (k : String) :
    (l.filter (key · = k)).length ≤ 1 := by
  by_cases h : ∃ row ∈ sessions, row.id = k
  · obtain ⟨row, hrow, rfl⟩ := h
    exact hone row hrow
  · rw [List.filter_eq_nil_iff.2]
    · exact Nat.zero_le _
    · rintro a ha heq
      obtain ⟨row, hrow, hid⟩ := hknown a ha
      exact h ⟨row, hrow, hid.trans (of_decide_eq_true heq)⟩

/-- What was seen of a session whose token was granted. -/
theorem Kept.granted (h : Kept w history) (hrow : row ∈ w.store.deviceSessions) (hconsumed : row.status = .consumed) :
    (∃ token, history.tokensOf row.id = [token] ∧ row.installTokenHash = some token.hash ∧
      row.installTokenExpiresAt = some token.expiresAt ∧ token.time < row.expiresAt) ∧
    ∃ decision ∈ history.decisions, decision.sessionId = row.id ∧ decision.approved = true ∧ row.userId = some decision.userId ∧
      decision.time < row.expiresAt := by
  refine ⟨(h.fits row hrow).granted hconsumed, ?_⟩
  obtain ⟨decision, hone, huser, happroved, -⟩ := (h.fits row hrow).decided (by rw [hconsumed]; exact fun h => nomatch h)
  have hmem : decision ∈ history.decisionsOf row.id := by
    rw [hone]
    exact List.mem_singleton_self _
  obtain ⟨hin, hid⟩ := List.mem_filter.1 hmem
  obtain ⟨hyes, hlt⟩ := happroved (by rw [hconsumed]; exact fun h => nomatch h)
  exact ⟨decision, hin, of_decide_eq_true hid, hyes, huser, hlt⟩

/-- A session of which a token was seen is the one that was granted. -/
theorem Kept.consumed_of_token (h : Kept w history) {token : Token} (htoken : token ∈ history.tokens) :
    ∃ row ∈ w.store.deviceSessions, row.id = token.sessionId ∧ row.status = .consumed ∧ history.tokensOf row.id = [token] := by
  obtain ⟨row, hrow, hid⟩ := h.tokens token htoken
  have hmem : token ∈ history.tokensOf row.id := List.mem_filter.2 ⟨htoken, decide_eq_true hid.symm⟩
  have hconsumed : row.status = .consumed := by
    by_contra hnot
    rw [((h.fits row hrow).ungranted hnot).1] at hmem
    cases hmem
  obtain ⟨token', hone, -⟩ := (h.fits row hrow).granted hconsumed
  refine ⟨row, hrow, hid, hconsumed, ?_⟩
  rw [hone] at hmem ⊢
  rw [List.mem_singleton.1 hmem]

theorem granted_of_kept (h : Kept w history) : Granted w.store.deviceSessions history := by
  constructor
  case decidedOnce =>
    refine nodup_of_filter (filter_le_one h.decisions fun row hrow => ?_)
    show (history.decisionsOf row.id).length ≤ 1
    by_cases hpending : row.status = .pending
    · rw [(h.fits row hrow).pending hpending]
      exact Nat.zero_le _
    · obtain ⟨decision, hone, -⟩ := (h.fits row hrow).decided hpending
      rw [hone]
      exact Nat.le_refl _
  case tokenOnce =>
    refine nodup_of_filter (filter_le_one h.tokens fun row hrow => ?_)
    show (history.tokensOf row.id).length ≤ 1
    by_cases hconsumed : row.status = .consumed
    · obtain ⟨token, hone, -⟩ := (h.fits row hrow).granted hconsumed
      rw [hone]
      exact Nat.le_refl _
    · rw [((h.fits row hrow).ungranted hconsumed).1]
      exact Nat.zero_le _
  case keyOnce =>
    refine nodup_of_filter (filter_le_one (fun key hkey => ⟨key.session, (h.keys key hkey).1.1, rfl⟩) fun row hrow => ?_)
    show (history.keysOf row.id).length ≤ 1
    cases hused : row.installTokenConsumedAt with
    | none =>
      rw [((h.fits row hrow).unused hused).1]
      exact Nat.zero_le _
    | some time => exact Nat.le_trans (Nat.le_add_right _ _) ((h.fits row hrow).used time hused).2
  case denied =>
    intro decision hdecision hdenied token htoken hid
    obtain ⟨row, hrow, hrid, hconsumed, -⟩ := h.consumed_of_token htoken
    obtain ⟨decision', hone, -, happroved, -⟩ := (h.fits row hrow).decided (by rw [hconsumed]; exact fun h => nomatch h)
    have hmem : decision ∈ history.decisionsOf row.id := List.mem_filter.2 ⟨hdecision, decide_eq_true (hid.symm.trans hrid.symm)⟩
    rw [hone] at hmem
    rw [List.mem_singleton.1 hmem, (happroved (by rw [hconsumed]; exact fun h => nomatch h)).1] at hdenied
    cases hdenied
  case token =>
    intro token htoken
    obtain ⟨row, hrow, hid, hconsumed, hone⟩ := h.consumed_of_token htoken
    obtain ⟨⟨token', hone', -, -, hlt⟩, decision, hdecision, hdid, happroved, -, hdlt⟩ := h.granted hrow hconsumed
    cases hone.symm.trans hone'
    exact ⟨row, hrow, hid, hlt, decision, hdecision, hdid.trans hid, happroved, hdlt⟩
  case key =>
    intro key hkey
    obtain ⟨⟨hrow, hsome⟩, huser, hproduct⟩ := h.keys key hkey
    obtain ⟨time, htime⟩ := Option.isSome_iff_exists.1 hsome
    have hconsumed : key.session.status = .consumed := by
      by_contra hnot
      rw [((h.fits _ hrow).ungranted hnot).2.2] at hsome
      cases hsome
    obtain ⟨⟨token, hone, hhash, hexpires, -⟩, decision, hdecision, hdid, happroved, hduser, hdlt⟩ := h.granted hrow hconsumed
    have hmem : token ∈ history.tokensOf key.session.id := by
      rw [hone]
      exact List.mem_singleton_self _
    obtain ⟨hin, hid⟩ := List.mem_filter.1 hmem
    refine ⟨hrow, hproduct, ⟨decision, hdecision, hdid, happroved, ?_, hdlt⟩, token, hin, of_decide_eq_true hid, hhash, time, htime, ?_⟩
    · exact Option.some.inj (hduser.symm.trans huser)
    · exact ((h.fits _ hrow).used time htime).1 _ hexpires

/-! ## Requests that hold a session -/

variable {t : ThreadId} {task next : Task}

theorem held_turn (ht : w.threads.lookup t = some task) (next : Task) (sessionId : String) :
    carries sessionId task + held (w.threads.insert t next) sessionId = carries sessionId next + held w.threads sessionId :=
  Concurrent.load_turn (carries sessionId) ht next

theorem carries_of_none (h : next.session? = none) (sessionId : String) : carries sessionId next = 0 := by
  rw [carries, h]
  rfl

/-- A request that lets go of its session, or keeps it, holds no more than before. -/
theorem held_le (ht : w.threads.lookup t = some task) (hnext : next.session? = none ∨ next.session? = task.session?) (sessionId : String) :
    held (w.threads.insert t next) sessionId ≤ held w.threads sessionId := by
  have hturn := held_turn ht next sessionId
  rcases hnext with hnone | hsame
  · rw [carries_of_none hnone] at hturn
    omega
  · rw [carries, carries, hsame] at hturn
    omega

theorem session?_cutOff (task : Task) : task.cutOff.session? = none := by
  cases task <;> rfl

theorem right_cutOff (task : Task) : task.cutOff.Right := by
  cases task <;> trivial

theorem holds_of_none {sessions : List DeviceSession} (h : next.session? = none) : Holds sessions next := by
  intro session hmem
  rw [h] at hmem
  cases hmem

/-- A session that is not there is held by no request. -/
theorem held_eq_zero (h : Kept w history) {sessionId : String} (hnew : ∀ r ∈ w.store.deviceSessions, r.id ≠ sessionId) :
    held w.threads sessionId = 0 := by
  refine Concurrent.load_eq_zero fun t task ht => if_neg fun hany => ?_
  cases hs : task.session? with
  | none =>
    rw [hs] at hany
    cases hany
  | some session =>
    rw [hs] at hany
    exact hnew session (h.holds t task ht session hs).1 (of_decide_eq_true hany)

/-! ## Steps -/

theorem Fits.fewer (h : Fits history n row) (hn : n' ≤ n) : Fits history n' row :=
  ⟨h.pending, h.decided, h.ungranted, h.granted, fun hnone => (h.unused hnone).imp_right fun hzero => by omega,
    fun time htime => (h.used time htime).imp_right fun hle => by omega⟩

/-- A step that writes no session and is seen to do nothing. -/
theorem Kept.quiet (h : Kept w history) {w' : State} (hsessions : w'.store.deviceSessions = w.store.deviceSessions)
    (hheld : ∀ id, held w'.threads id ≤ held w.threads id) (hright : EveryThread Task.Right w'.threads)
    (hholds : EveryThread (Holds w.store.deviceSessions) w'.threads) : Kept w' history := by
  constructor
  case ids => rw [hsessions]; exact h.ids
  case userCodes => rw [hsessions]; exact h.userCodes
  case deviceCodes => rw [hsessions]; exact h.deviceCodes
  case hashes => rw [hsessions]; exact h.hashes
  case fits =>
    rw [hsessions]
    exact fun row hrow => (h.fits row hrow).fewer (hheld row.id)
  case decisions => rw [hsessions]; exact h.decisions
  case tokens => rw [hsessions]; exact h.tokens
  case keys => rw [hsessions]; exact h.keys
  case right => exact hright
  case holds => rw [hsessions]; exact hholds

/-- A session is inserted. -/
theorem Kept.insert (h : Kept w history) {store' : Store} (hsessions : store'.deviceSessions = w.store.deviceSessions ++ [session])
    (hnew : ∀ r ∈ w.store.deviceSessions, r.id ≠ session.id ∧ r.userCode ≠ session.userCode ∧ r.deviceCodeHash ≠ session.deviceCodeHash)
    (hfresh : session.status = .pending ∧ session.installTokenHash = none ∧ session.installTokenConsumedAt = none)
    (ht : w.threads.lookup t = some task) (hnext : next.session? = none) (hright : next.Right) :
    Kept { store := store', threads := w.threads.insert t next } history := by
  have hnodup : ∀ {β : Type} (f : DeviceSession → β), (w.store.deviceSessions.map f).Nodup →
      (∀ r ∈ w.store.deviceSessions, f r ≠ f session) → ((w.store.deviceSessions ++ [session]).map f).Nodup := by
    intro β f hf hne
    rw [List.map_append, List.map_singleton]
    refine List.nodup_append.2 ⟨hf, List.nodup_singleton _, ?_⟩
    intro a ha b hb
    obtain ⟨r, hr, rfl⟩ := List.mem_map.1 ha
    rw [List.mem_singleton.1 hb]
    exact hne r hr
  have hstay : ∀ task, Holds w.store.deviceSessions task → Holds (w.store.deviceSessions ++ [session]) task :=
    fun task hholds s hs => (hholds s hs).imp_left fun hmem => List.mem_append_left _ hmem
  have hnone : ∀ {α : Type} {key : α → String} {l : List α}, (∀ a ∈ l, ∃ row ∈ w.store.deviceSessions, row.id = key a) →
      l.filter (key · = session.id) = [] := by
    intro α key l hknown
    refine List.filter_eq_nil_iff.2 fun a ha heq => ?_
    obtain ⟨row, hrow, hid⟩ := hknown a ha
    exact (hnew row hrow).1 (hid.trans (of_decide_eq_true heq))
  constructor
  case ids => rw [hsessions]; exact hnodup _ h.ids fun r hr => (hnew r hr).1
  case userCodes => rw [hsessions]; exact hnodup _ h.userCodes fun r hr => (hnew r hr).2.1
  case deviceCodes => rw [hsessions]; exact hnodup _ h.deviceCodes fun r hr => (hnew r hr).2.2
  case hashes =>
    rw [hsessions]
    intro r hr r' hr' hash hhash hhash'
    rcases List.mem_append.1 hr with hold | hlast
    · rcases List.mem_append.1 hr' with hold' | hlast'
      · exact h.hashes r hold r' hold' hash hhash hhash'
      · rw [List.mem_singleton.1 hlast', hfresh.2.1] at hhash'
        cases hhash'
    · rw [List.mem_singleton.1 hlast, hfresh.2.1] at hhash
      cases hhash
  case fits =>
    rw [hsessions]
    intro row hrow
    rcases List.mem_append.1 hrow with hold | hlast
    · exact (h.fits row hold).fewer (held_le ht (Or.inl hnext) row.id)
    · rw [List.mem_singleton.1 hlast]
      refine fits_insert (hnone h.decisions) (hnone h.tokens) (hnone fun key hkey => ⟨key.session, (h.keys key hkey).1.1, rfl⟩) ?_ hfresh
      exact Nat.le_zero.1 (held_eq_zero h (fun r hr => (hnew r hr).1) ▸ held_le ht (Or.inl hnext) session.id)
  case decisions =>
    rw [hsessions]
    exact fun decision hmem => (h.decisions decision hmem).imp fun row hrow => hrow.imp_left fun hin => List.mem_append_left _ hin
  case tokens =>
    rw [hsessions]
    exact fun token hmem => (h.tokens token hmem).imp fun row hrow => hrow.imp_left fun hin => List.mem_append_left _ hin
  case keys =>
    rw [hsessions]
    exact fun key hmem => (h.keys key hmem).imp_left fun hrow => hrow.imp_left fun hin => List.mem_append_left _ hin
  case right => exact h.right.insert hright t
  case holds =>
    rw [hsessions]
    exact (h.holds.mono hstay).insert (holds_of_none hnext) t

section Write

variable {filter : DeviceSession → Bool} {set : DeviceSession → DeviceSession} (h : Kept w history)
  (hsession : session ∈ w.store.deviceSessions) (hmeets : filter session = true)
  (hunique : ∀ r ∈ w.store.deviceSessions, filter r = true → r.id = session.id)

include h hsession hmeets hunique

variable (set) in
theorem mem_write {r : DeviceSession} : r ∈ updateOne filter set w.store.deviceSessions ↔
    r = set session ∨ r ∈ w.store.deviceSessions ∧ r.id ≠ session.id :=
  Collection.mem_updateOne_iff set h.ids hsession hmeets hunique

/-- A session whose token was used stays when one is written whose token was not. -/
theorem stays_write (hunused : session.installTokenConsumedAt = none) {r : DeviceSession}
    (hr : r ∈ w.store.deviceSessions ∧ r.installTokenConsumedAt.isSome = true) :
    r ∈ updateOne filter set w.store.deviceSessions ∧ r.installTokenConsumedAt.isSome = true := by
  refine ⟨(mem_write _ h hsession hmeets hunique).2 (Or.inr ⟨hr.1, fun hid => ?_⟩), hr.2⟩
  have hsame := List.inj_on_of_nodup_map h.ids hr.1 hsession hid
  rw [hsame, hunused] at hr
  cases hr.2

/-- There is a session of every identifier that there was one of. -/
theorem known_write (hset : (set session).id = session.id) {sessionId : String}
    (hr : ∃ row ∈ w.store.deviceSessions, row.id = sessionId) :
    ∃ row ∈ updateOne filter set w.store.deviceSessions, row.id = sessionId := by
  obtain ⟨row, hrow, rfl⟩ := hr
  by_cases hid : row.id = session.id
  · exact ⟨set session, (mem_write _ h hsession hmeets hunique).2 (Or.inl rfl), hset.trans hid.symm⟩
  · exact ⟨row, (mem_write _ h hsession hmeets hunique).2 (Or.inr ⟨hrow, hid⟩), rfl⟩

/-- A session is written whose token was not used. -/
theorem Kept.write {store' : Store} (hsessions : store'.deviceSessions = updateOne filter set w.store.deviceSessions)
    (hset : ∀ r, (set r).id = r.id ∧ (set r).userCode = r.userCode ∧ (set r).deviceCodeHash = r.deviceCodeHash)
    (hunused : session.installTokenConsumedAt = none)
    (hhash : ∀ r ∈ w.store.deviceSessions, r.id ≠ session.id → ∀ hash, (set session).installTokenHash = some hash →
      r.installTokenHash ≠ some hash)
    (hsame : SameBut history history' session.id)
    (hdecisions : ∀ decision ∈ history'.decisions, ∃ row ∈ w.store.deviceSessions, row.id = decision.sessionId)
    (htokens : ∀ token ∈ history'.tokens, ∃ row ∈ w.store.deviceSessions, row.id = token.sessionId)
    (hkeys : history'.keys = history.keys) (ht : w.threads.lookup t = some task) (hright : next.Right)
    (hholds : next.session? = none ∨ next.session? = some (set session) ∧ (set session).installTokenConsumedAt.isSome = true)
    (hfit : Fits history' (held (w.threads.insert t next) session.id) (set session)) :
    Kept { store := store', threads := w.threads.insert t next } history' := by
  have hmem := fun r => mem_write set h hsession hmeets hunique (r := r)
  have hheld : ∀ id, id ≠ session.id → held (w.threads.insert t next) id ≤ held w.threads id := by
    intro id hne
    have hturn := held_turn ht next id
    have hzero : carries id next = 0 := by
      rcases hholds with hnone | ⟨hsome, -⟩
      · exact carries_of_none hnone id
      · rw [carries, hsome]
        refine if_neg fun heq => hne ?_
        exact (of_decide_eq_true heq).symm.trans (hset session).1
    omega
  constructor
  case ids => rw [hsessions]; exact Collection.nodup_updateOne (fun r _ => (hset r).1) h.ids
  case userCodes => rw [hsessions]; exact Collection.nodup_updateOne (fun r _ => (hset r).2.1) h.userCodes
  case deviceCodes => rw [hsessions]; exact Collection.nodup_updateOne (fun r _ => (hset r).2.2) h.deviceCodes
  case hashes =>
    rw [hsessions]
    intro r hr r' hr' hash heq heq'
    rcases (hmem r).1 hr with rfl | ⟨hold, hne⟩ <;> rcases (hmem r').1 hr' with rfl | ⟨hold', hne'⟩
    · rfl
    · exact absurd heq' (hhash r' hold' hne' hash heq)
    · exact absurd heq (hhash r hold hne hash heq')
    · exact h.hashes r hold r' hold' hash heq heq'
  case fits =>
    rw [hsessions]
    intro row hrow
    rcases (hmem row).1 hrow with rfl | ⟨hold, hne⟩
    · rw [(hset session).1]
      exact hfit
    · exact (h.fits row hold).other hsame hne (hheld row.id hne)
  case decisions =>
    rw [hsessions]
    exact fun decision hin => known_write h hsession hmeets hunique (hset session).1 (hdecisions decision hin)
  case tokens =>
    rw [hsessions]
    exact fun token hin => known_write h hsession hmeets hunique (hset session).1 (htokens token hin)
  case keys =>
    rw [hsessions, hkeys]
    exact fun key hin => (h.keys key hin).imp_left fun hrow => stays_write h hsession hmeets hunique hunused hrow
  case right => exact h.right.insert hright t
  case holds =>
    rw [hsessions]
    refine (h.holds.mono fun task hold s hs => stays_write h hsession hmeets hunique hunused (hold s hs)).insert ?_ t
    rcases hholds with hnone | ⟨hsome, hused⟩
    · exact holds_of_none hnone
    · intro s hs
      rw [hsome] at hs
      cases hs
      exact ⟨(hmem _).2 (Or.inl rfl), hused⟩

end Write

/-- The key of a session is inserted. -/
theorem Kept.key (h : Kept w history) {store' : Store} (hsessions : store'.deviceSessions = w.store.deviceSessions) {user : User}
    {manifest : Option Manifest} {row : Site.ApiKey} {apiKey : Text}
    (ht : w.threads.lookup t = some (.insertKey session user manifest row apiKey)) (hnext : next.session? = none) (hright : next.Right) :
    Kept { store := store', threads := w.threads.insert t next } { history with keys := { session, row } :: history.keys } := by
  obtain ⟨hsession, hused⟩ := h.holds t _ ht session rfl
  obtain ⟨huser, hproduct⟩ : session.userId = some row.userId ∧ keyProduct row = session.product := h.right t _ ht
  constructor
  case ids => rw [hsessions]; exact h.ids
  case userCodes => rw [hsessions]; exact h.userCodes
  case deviceCodes => rw [hsessions]; exact h.deviceCodes
  case hashes => rw [hsessions]; exact h.hashes
  case fits =>
    rw [hsessions]
    intro r hr
    by_cases hid : r.id = session.id
    · obtain rfl := List.inj_on_of_nodup_map h.ids hr hsession hid
      refine fits_key (h.fits r hr) hused ?_
      have hturn := held_turn ht next r.id
      have hone : carries r.id (.insertKey r user manifest row apiKey) = 1 := if_pos (decide_eq_true rfl)
      rw [carries_of_none hnext, hone] at hturn
      show held (w.threads.insert t next) r.id + 1 ≤ held w.threads r.id
      omega
    · exact (h.fits r hr).other (sameBut_key { session, row }) hid (held_le ht (Or.inl hnext) r.id)
  case decisions => rw [hsessions]; exact h.decisions
  case tokens => rw [hsessions]; exact h.tokens
  case keys =>
    rw [hsessions]
    intro key hkey
    rcases List.mem_cons.1 hkey with rfl | hold
    · exact ⟨⟨hsession, hused⟩, huser, hproduct⟩
    · exact h.keys key hold
  case right => exact h.right.insert hright t
  case holds =>
    rw [hsessions]
    exact h.holds.insert (holds_of_none hnext) t

theorem kept_turn {told : Input} (h : Kept w history) (ht : w.threads.lookup t = some task)
    (hnew : DrawsNew env w (.turn t told)) :
    Kept { store := (turn env w.store task told).1, threads := w.threads.insert t (turn env w.store task told).2 }
      (history.see env w.store task) := by
  have hright : (turn env w.store task told).2.Right := right_turn (h.right t task ht)
  rcases turn_cases env w.store task told with ⟨hsessions, hseen, hnext⟩ | ⟨session, deviceCode, rfl, hsessions, hnext⟩ |
    ⟨userCode, user, approved, now, session, rfl, hfind, hsessions, hnext⟩ |
    ⟨deviceCodeHash, installToken, expiresAt, now, session, rfl, hfind, hsessions, hnext⟩ |
    ⟨endpoint, installTokenHash, now, session, rfl, hfind, hsessions, hnext⟩ |
    ⟨session, user, manifest, key, apiKey, rfl, hsessions, hnext⟩
  · rw [hseen]
    refine h.quiet hsessions (held_le ht hnext) (h.right.insert hright t) (h.holds.insert ?_ t)
    rcases hnext with hnone | hsame
    · exact holds_of_none hnone
    · intro s hs
      rw [hsame] at hs
      exact h.holds t task ht s hs
  · simp only [DrawsNew, ht] at hnew
    exact h.insert hsessions hnew (h.right t _ ht) ht hnext hright
  · have hmem := List.mem_of_find?_eq_some hfind
    have hmeets := List.find?_some hfind
    obtain ⟨hcode, hstatus, -⟩ := of_decide_eq_true hmeets
    have hnot : session.status ≠ .consumed := by
      rw [hstatus]
      decide
    obtain ⟨-, hhash, hunused⟩ := (h.fits session hmem).ungranted hnot
    simp only [History.see, hfind]
    refine h.write hmem hmeets (fun r hr hfilter => ?_) hsessions (fun _ => ⟨rfl, rfl, rfl⟩) hunused ?_ (sameBut_decision _)
      (fun decision hin => ?_) h.tokens rfl ht hright (Or.inl hnext)
      (fits_decide (h.fits session hmem) hmeets (held_le ht (Or.inl hnext) session.id))
    · exact congrArg DeviceSession.id
        (List.inj_on_of_nodup_map h.userCodes hr hmem ((of_decide_eq_true hfilter).1.trans hcode.symm))
    · intro r hr hne hash heq
      cases hhash.symm.trans heq
    · rcases List.mem_cons.1 hin with rfl | hold
      · exact ⟨session, hmem, rfl⟩
      · exact h.decisions decision hold
  · have hmem := List.mem_of_find?_eq_some hfind
    have hmeets := List.find?_some hfind
    obtain ⟨hcode, hstatus, -⟩ := of_decide_eq_true hmeets
    have hnot : session.status ≠ .consumed := by
      rw [hstatus]
      decide
    obtain ⟨-, -, hunused⟩ := (h.fits session hmem).ungranted hnot
    simp only [DrawsNew, ht] at hnew
    simp only [History.see, hfind]
    refine h.write hmem hmeets (fun r hr hfilter => ?_) hsessions (fun _ => ⟨rfl, rfl, rfl⟩) hunused ?_ (sameBut_token _)
      h.decisions (fun token hin => ?_) rfl ht hright (Or.inl hnext)
      (fits_grant (h.fits session hmem) hmeets (held_le ht (Or.inl hnext) session.id))
    · exact congrArg DeviceSession.id
        (List.inj_on_of_nodup_map h.deviceCodes hr hmem ((of_decide_eq_true hfilter).1.trans hcode.symm))
    · intro r hr hne hash heq
      cases heq
      exact hnew r hr
    · rcases List.mem_cons.1 hin with rfl | hold
      · exact ⟨session, hmem, rfl⟩
      · exact h.tokens token hold
  · have hmem := List.mem_of_find?_eq_some hfind
    have hmeets := List.find?_some hfind
    obtain ⟨hhash, -, hunused, -⟩ := of_decide_eq_true hmeets
    refine h.write hmem hmeets (fun r hr hfilter => ?_) hsessions (fun _ => ⟨rfl, rfl, rfl⟩) hunused ?_
      ⟨fun _ _ => rfl, fun _ _ => rfl, fun _ _ => rfl⟩
      h.decisions h.tokens rfl ht hright (hnext.imp_right fun hsome => ⟨hsome, rfl⟩) (fits_useToken (h.fits session hmem) hmeets ?_)
    · exact h.hashes r hr session hmem _ (of_decide_eq_true hfilter).1 hhash
    · intro r hr hne hash heq heq'
      exact hne (h.hashes r hr session hmem hash heq' heq)
    · have hturn := held_turn ht (turn env w.store (.consume endpoint installTokenHash now) told).2 session.id
      have hone : carries session.id (turn env w.store (.consume endpoint installTokenHash now) told).2 ≤ 1 := by
        rw [carries]
        split
        · exact Nat.le_refl _
        · exact Nat.zero_le _
      omega
  · exact h.key hsessions ht hnext hright

theorem kept_step (a : Event) (h : Kept w history) (hnew : DrawsNew env w a) :
    Kept ((system env).step w a) (observe env history w a ((system env).step w a)) := by
  rcases step_cases env w a with ⟨hsessions, hseen, hthreads⟩ | ⟨t, told, task, rfl, ht, hs⟩
  · rw [hseen]
    rcases hthreads with hsame | ⟨t, request, hfresh, hbegun⟩ | ⟨t, task, ht, hcut⟩
    · exact h.quiet hsessions (fun id => by rw [hsame]) (by rw [hsame]; exact h.right) (by rw [hsame]; exact h.holds)
    · refine h.quiet hsessions (fun id => ?_) ?_ ?_
      · rw [hbegun, held, Concurrent.load_begin _ hfresh, carries_of_none rfl, Nat.zero_add]
        exact Nat.le_refl _
      · rw [hbegun]
        exact h.right.insert (show Task.Right (.requested request) from trivial) t
      · rw [hbegun]
        exact h.holds.insert (holds_of_none rfl) t
    · refine h.quiet hsessions (fun id => ?_) ?_ ?_
      · rw [hcut]
        exact held_le ht (Or.inl (session?_cutOff task)) id
      · rw [hcut]
        exact h.right.insert (right_cutOff task) t
      · rw [hcut]
        exact h.holds.insert (holds_of_none (session?_cutOff task)) t
  · rw [hs]
    simp only [observe, ht]
    exact kept_turn h ht hnew

end GrantedAux

open GrantedAux

/-! ## Every run -/

/-- In every interleaving of requests, at whatever times, each session is decided at most once, and yields at most one token and one
key, and those only as it was approved. -/
theorem sessions_granted_once (env : Env) (actions : List Event)
    (hnew : Along (monitor (system env).step (observe env)) (fun w a => DrawsNew env w.1 a) ({ store := {} }, {}) actions) :
    Throughout (monitor (system env).step (observe env)) (fun w => Granted w.1.store.deviceSessions w.2) ({ store := {} }, {}) actions :=
  (throughout_of_along (I := fun w : State × History => Kept w.1 w.2) (fun _ a h hgood => kept_step a h hgood) kept_empty hnew).mono
    fun _ h => granted_of_kept h

/-- The token is posted twice, and one of the posts installs a key. -/
def exampleInstall : List Event :=
  exampleGrant ++ [.begin 3 (.install exampleAuthorization (some (exampleManifest exampleBudget))),
    .begin 4 (.installInfinite exampleAuthorization none), .turn 3 (exampleTold 70000), .turn 4 (exampleTold 70000)] ++
    List.replicate 6 (.turn 3 (exampleTold 70000)) ++ [.turn 4 (exampleTold 70000)]

theorem sessions_granted_example :
    Throughout (monitor (system exampleEnv).step (observe exampleEnv)) (fun w => Granted w.1.store.deviceSessions w.2)
      ({ store := {} }, {}) exampleInstall :=
  sessions_granted_once exampleEnv exampleInstall (by decide +kernel)

end Device

end PromptRail
