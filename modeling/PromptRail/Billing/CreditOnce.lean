import PromptRail.Billing

/-!
# How often a payment is credited

`creditStripePayment` takes the marker `creditedAt` for a lock, but reads it in one operation, sets it in another and adds the
amount in a third, and three other functions write it too. A payment is credited once in every run in which a credit sets a
marker that is still not set, finds a marker set only when the amount was added, a marker that is set is never cleared, and no
thread crashes between setting the marker and adding the amount.
-/

namespace PromptRail

namespace Billing

open Table (Dict)
open Concurrent (ThreadId EveryThread load load_turn load_begin)
open Transition (Throughout Along throughout_of_along)

/-- The entry credits a payment. -/
def Entry.credits (id : PaymentId) : Entry → Bool
  | .credit id' _ => id' == id
  | .debit _ => false

/-- How many times the amount of a payment was added to the balance. -/
def timesCredited (id : PaymentId) (entries : List Entry) : Nat := entries.countP (Entry.credits id)

/-- A payment is credited at most once, and exactly once when a thread that saw it succeed has returned. -/
def CreditedOnce (p : System × List Entry) : Prop :=
  ∀ id, timesCredited id p.2 ≤ 1 ∧
    (∀ t credited, p.1.threads.lookup t = some (.returned (.credit id credited)) → timesCredited id p.2 = 1)

/-- A thread has set the marker of a payment and not added its amount. -/
def marked (id : PaymentId) : Task → Nat
  | .writeCreditedUser payment _ => if payment.id = id then 1 else 0
  | _ => 0

/-- The marker guards the credit: a credit that finds it set finds no other one between setting it and adding the amount, a credit
that sets it finds it not set, it is not cleared once it is set, and no thread crashes between setting it and adding the amount. -/
def MarkerGuards (p : System × List Entry) : Step → Prop
  | .turn t _ =>
    match p.1.threads.lookup t with
    | some (.readMarker payment) =>
      (creditedAt p.1.store payment.id).isSome = true → load (marked payment.id) p.1.threads = 0
    | some (.writeMarker payment _ _) => creditedAt p.1.store payment.id = none
    | some (.recordPaymentIntent _ intent) => creditedAt p.1.store intent.id = none
    | some (.markAutoTopUpFailed intent) => creditedAt p.1.store intent.id = none
    | some (.writeSessionStatus session localSession) =>
      localSession.bind (·.creditedAt) = none → creditedAt p.1.store session.id = none
    | _ => True
  | .halt t =>
    match p.1.threads.lookup t with
    | some (.writeCreditedUser _ _) => False
    | _ => True
  | _ => True

instance (p : System × List Entry) (a : Step) : Decidable (MarkerGuards p a) := by
  unfold MarkerGuards
  cases a <;> simp only <;> first | infer_instance | (split <;> infer_instance)

namespace CreditAux

/-- The thread has credited the payment, or found it credited. -/
def completes (id : PaymentId) : Task → Prop
  | .writeUserBudgets (.credit id' _) => id' = id
  | .returned (.credit id' _) => id' = id
  | _ => False

/-- The thread is about to write the status of the session with a marker it read. -/
def carriesMarker (id : PaymentId) : Task → Prop
  | .writeSessionStatus session localSession => session.id = id ∧ (localSession.bind (·.creditedAt)).isSome
  | _ => False

/-- What is kept for one payment: its amount was added or is about to be at most once, the marker is set exactly if so, a thread
that is done with the payment has seen it credited, and a marker that was read stays set. -/
structure Sound (id : PaymentId) (w : System) (entries : List Entry) : Prop where
  once : timesCredited id entries + load (marked id) w.threads ≤ 1
  marker : (creditedAt w.store id).isSome = true ↔ timesCredited id entries + load (marked id) w.threads = 1
  completed : EveryThread (fun task => completes id task → timesCredited id entries = 1) w.threads
  carried : EveryThread (fun task => carriesMarker id task → (creditedAt w.store id).isSome = true) w.threads

theorem creditedAt_upsert (store : Store) (i id : PaymentId) (session : CheckoutSession) :
    creditedAt (upsertCheckoutSession store i session) id = if id = i then session.creditedAt else creditedAt store id := by
  unfold creditedAt upsertCheckoutSession
  rw [Table.lookup_insert_eq]
  split <;> rfl

variable {id : PaymentId} {w : System} {entries : List Entry} {t : ThreadId} {task : Task}

/-- A turn that adds no amount of the payment, and neither sets nor clears its marker. -/
theorem sound_quiet (h : Sound id w entries) (ht : w.threads.lookup t = some task) {store : Store} {next : Task}
    (hm : marked id next = marked id task) (hc : (creditedAt store id).isSome = (creditedAt w.store id).isSome)
    (hr : completes id next → timesCredited id entries = 1)
    (hs : carriesMarker id next → (creditedAt w.store id).isSome = true) :
    Sound id { store, threads := w.threads.insert t next } entries := by
  have hmark := load_turn (marked id) ht next
  have h1 := h.once
  have h2 := h.marker
  refine ⟨?_, ?_, ?_, ?_⟩
  · simp only
    omega
  · simp only [hc, h2]
    omega
  · exact h.completed.insert hr t
  · simp only [hc]
    exact h.carried.insert hs t

/-- A thread that is gone ends no credit it had marked. -/
theorem sound_halt (h : Sound id w entries) (ht : w.threads.lookup t = some task) (hm : marked id task = 0) :
    Sound id { w with threads := w.threads.insert t (crash task) } entries := by
  have hm' : marked id (crash task) = 0 := by cases task <;> rfl
  refine sound_quiet h ht (hm'.trans hm.symm) rfl ?_ ?_
  · intro hcomp
    cases task with
    | returned outcome => exact h.completed t _ ht hcomp
    | _ => exact hcomp.elim
  · intro hcar
    cases task <;> exact hcar.elim

/-- A thread that starts has nothing to do with any credit yet. -/
theorem sound_begin (h : Sound id w entries) (ht : t ∉ w.threads) (call : Call) :
    Sound id { w with threads := w.threads.insert t (start call) } entries := by
  have hquiet : marked id (start call) = 0 ∧ ¬completes id (start call) ∧ ¬carriesMarker id (start call) := by
    cases call with
    | webhook event =>
      cases event <;> simp only [start, post] <;> split_ifs <;> exact ⟨rfl, fun h => h, fun h => h⟩
    | _ => exact ⟨rfl, fun h => h, fun h => h⟩
  obtain ⟨hm, hc, hs⟩ := hquiet
  have hmark := load_begin (marked id) ht (start call)
  have h1 := h.once
  have h2 := h.marker
  refine ⟨?_, ?_, ?_, ?_⟩
  · simp only
    omega
  · simp only [h2]
    omega
  · exact h.completed.insert (fun hx => absurd hx hc) t
  · exact h.carried.insert (fun hx => absurd hx hs) t

/-- A marker that is not set: the amount was not added, and is not about to be. -/
theorem Sound.unmarked (h : Sound id w entries) (hn : creditedAt w.store id = none) :
    timesCredited id entries + load (marked id) w.threads = 0 := by
  have h1 := h.once
  have hne : timesCredited id entries + load (marked id) w.threads ≠ 1 := by
    intro h2
    have hset := h.marker.2 h2
    rw [hn] at hset
    cases hset
  omega

/-- The marker is read. -/
theorem sound_readMarker {payment : Payment} (h : Sound id w entries) (ht : w.threads.lookup t = some (.readMarker payment))
    (hg : (creditedAt w.store payment.id).isSome = true → load (marked payment.id) w.threads = 0) (input : Option PaymentIntent) :
    Sound id { store := (turn w.store (.readMarker payment) input).1
               threads := w.threads.insert t (turn w.store (.readMarker payment) input).2 } entries := by
  simp only [turn]
  split
  · rename_i hset
    refine sound_quiet h ht rfl rfl ?_ fun hc => hc.elim
    -- the marker is set and no amount is about to be added, so it was added
    rintro rfl
    have hmarker := h.marker.1 hset
    have hnone := hg hset
    omega
  · exact sound_quiet h ht rfl rfl (fun hc => hc.elim) fun hc => hc.elim

/-- The marker is set, and was not before. -/
theorem sound_writeMarker {payment : Payment} {existing : Option CheckoutSession} {current : User} (h : Sound id w entries)
    (ht : w.threads.lookup t = some (.writeMarker payment existing current)) (hg : creditedAt w.store payment.id = none)
    (session : CheckoutSession) (hs : session.creditedAt.isSome = true) :
    Sound id { store := upsertCheckoutSession w.store payment.id session
               threads := w.threads.insert t (.writeCreditedUser payment current) } entries := by
  by_cases hid : payment.id = id
  · subst hid
    have hmark := load_turn (marked payment.id) ht (.writeCreditedUser payment current)
    simp only [marked, if_true] at hmark
    have hzero := h.unmarked hg
    have hset : (creditedAt (upsertCheckoutSession w.store payment.id session) payment.id).isSome = true := by
      rw [creditedAt_upsert, if_pos rfl]
      exact hs
    refine ⟨?_, ?_, ?_, ?_⟩
    · simp only
      omega
    · simp only [hset, true_iff]
      omega
    · refine h.completed.insert ?_ t
      intro hc
      exact hc.elim
    · intro t' task' ht' hc
      exact hset
  · have hm : marked id (.writeCreditedUser payment current) = 0 := if_neg hid
    refine sound_quiet h ht hm ?_ (fun hc => hc.elim) fun hc => hc.elim
    rw [creditedAt_upsert, if_neg (Ne.symm hid)]

/-- The amount is added, by the one credit that had set the marker. -/
theorem sound_writeCreditedUser {payment : Payment} {current : User} (h : Sound id w entries)
    (ht : w.threads.lookup t = some (.writeCreditedUser payment current)) (user : User) :
    Sound id { store := { w.store with user := user }
               threads := w.threads.insert t (.writeUserBudgets (.credit payment.id true)) }
      (entries ++ [.credit payment.id payment.amountUsd]) := by
  have hmark := load_turn (marked id) ht (.writeUserBudgets (.credit payment.id true))
  have hle : marked id (.writeCreditedUser payment current) ≤ load (marked id) w.threads := Concurrent.le_load ht
  have hcount : timesCredited id (entries ++ [.credit payment.id payment.amountUsd]) =
      timesCredited id entries + if payment.id = id then 1 else 0 := by
    unfold timesCredited
    rw [List.countP_append, List.countP_singleton]
    simp [Entry.credits]
  have h1 := h.once
  have h2 := h.marker
  simp only [marked] at hmark hle
  refine ⟨?_, ?_, ?_, ?_⟩
  · rw [hcount]
    simp only
    omega
  · rw [hcount]
    have hsame : creditedAt { w.store with user := user } id = creditedAt w.store id := rfl
    simp only [hsame, h2]
    omega
  · have hmono : ∀ task, (completes id task → timesCredited id entries = 1) → completes id task →
        timesCredited id (entries ++ [.credit payment.id payment.amountUsd]) = 1 := by
      intro task hc hx
      have := hc hx
      rw [hcount]
      omega
    refine (h.completed.mono hmono).insert ?_ t
    intro hid
    simp only [completes] at hid
    rw [hcount, if_pos hid]
    rw [if_pos hid] at hle
    omega
  · refine h.carried.insert ?_ t
    intro hc
    exact hc.elim

/-- A marker that is not set stays as it is when it is written as null. -/
theorem creditedAt_upsert_null {store : Store} {i : PaymentId} {session : CheckoutSession} (hs : session.creditedAt = none)
    (hn : creditedAt store i = none) : (creditedAt (upsertCheckoutSession store i session) id).isSome =
      (creditedAt store id).isSome := by
  rw [creditedAt_upsert]
  split
  · rename_i hid
    subst hid
    rw [hs, hn]
  · rfl

/-- Every turn keeps the invariant, if the marker guards the credit: one case for each task. -/
theorem sound_turn (h : Sound id w entries) (ht : w.threads.lookup t = some task) (input : Option PaymentIntent)
    (hg : MarkerGuards (w, entries) (.turn t input)) :
    Sound id { store := (turn w.store task input).1, threads := w.threads.insert t (turn w.store task input).2 }
      (entries ++ written w (.turn t input)) := by
  simp only [MarkerGuards, ht] at hg
  simp only [written, ht]
  cases task with
  | readMarker payment =>
    rw [List.append_nil]
    exact sound_readMarker h ht hg input
  | writeMarker payment existing current =>
    rw [List.append_nil]
    exact sound_writeMarker h ht hg _ rfl
  | writeCreditedUser payment current => exact sound_writeCreditedUser h ht _
  | recordPaymentIntent attempt intent =>
    rw [List.append_nil]
    simp only [turn]
    split
    · exact sound_quiet h ht rfl (creditedAt_upsert_null rfl hg) (fun hc => hc.elim) fun hc => hc.elim
    · exact sound_quiet h ht rfl (creditedAt_upsert_null rfl hg) (fun hc => hc.elim) fun hc => hc.elim
  | markAutoTopUpFailed intent =>
    rw [List.append_nil]
    exact sound_quiet h ht rfl (creditedAt_upsert_null rfl hg) (fun hc => hc.elim) fun hc => hc.elim
  | writeSessionStatus session localSession =>
    rw [List.append_nil]
    refine sound_quiet h ht rfl ?_ (fun hc => hc.elim) fun hc => hc.elim
    simp only [turn]
    cases hl : localSession.bind (·.creditedAt) with
    | none => exact creditedAt_upsert_null rfl (hg hl)
    | some at_ =>
      rw [creditedAt_upsert]
      split
      · rename_i hid
        -- the marker that was read is still set
        rw [h.carried t _ ht ⟨hid.symm, by rw [hl]; rfl⟩]
        rfl
      · rfl
  | readSessionStatus session =>
    rw [List.append_nil]
    simp only [turn]
    split
    · exact sound_quiet h ht rfl rfl (fun hc => hc.elim) fun hc => hc.elim
    · refine sound_quiet h ht rfl rfl (fun hc => hc.elim) ?_
      rintro ⟨rfl, hc⟩
      exact hc
  | writeUserBudgets outcome =>
    rw [List.append_nil]
    refine sound_quiet h ht rfl rfl ?_ fun hc => hc.elim
    intro hc
    refine h.completed t _ ht ?_
    cases outcome <;> exact hc
  | returned outcome =>
    rw [List.append_nil]
    exact sound_quiet h ht rfl rfl (fun hc => h.completed t _ ht hc) fun hc => hc.elim
  | readCreditedUser payment existing =>
    rw [List.append_nil]
    exact sound_quiet h ht rfl rfl (fun hc => hc.elim) fun hc => hc.elim
  | writeUsageUser usage current =>
    have hcount : timesCredited id (entries ++ [.debit (usageLog usage current)]) = timesCredited id entries := by
      simp [timesCredited, Entry.credits]
    have hq : Sound id { store := (turn w.store (.writeUsageUser usage current) input).1
                         threads := w.threads.insert t (turn w.store (.writeUsageUser usage current) input).2 } entries :=
      sound_quiet h ht rfl rfl (fun hc => hc.elim) fun hc => hc.elim
    exact ⟨hcount.symm ▸ hq.once, hcount.symm ▸ hq.marker, hcount.symm ▸ hq.completed, hq.carried⟩
  | _ =>
    rw [List.append_nil]
    simp only [turn]
    repeat' split
    all_goals exact sound_quiet h ht rfl rfl (fun hc => hc.elim) fun hc => hc.elim

/-- What happens outside the threads touches neither the marker nor a credit. -/
theorem sound_happen (h : Sound id w entries) (ms : Nat) : Sound id { w with store := program.happen w.store ms } entries :=
  ⟨h.once, h.marker, h.completed, h.carried⟩

/-- Every step keeps the invariant, if the marker guards the credit. -/
theorem sound_step (h : Sound id w entries) (a : Step) (hg : MarkerGuards (w, entries) a) :
    Sound id (program.step w a) (entries ++ written w a) := by
  rcases program.step_cases w a with ⟨hno, hs⟩ | ⟨t, call, rfl, ht, hs⟩ | ⟨t, input, task, rfl, ht, hs⟩ |
    ⟨t, task, rfl, ht, hs⟩ | ⟨ms, rfl, hs⟩
  · rw [hs, written_eq_nil hno, List.append_nil]
    exact h
  · rw [hs, written_eq_nil (by simp), List.append_nil]
    exact sound_begin h ht call
  · rw [hs]
    exact sound_turn h ht input hg
  · rw [hs, written_eq_nil (by simp), List.append_nil]
    refine sound_halt h ht ?_
    simp only [MarkerGuards, ht] at hg
    cases task with
    | writeCreditedUser payment current => exact hg.elim
    | _ => rfl
  · rw [hs, written_eq_nil (by simp), List.append_nil]
    exact sound_happen h ms

theorem sound_begun {user : User} {checkoutSessions : Dict PaymentId CheckoutSession} (id : PaymentId)
    (hnew : ∀ id session, checkoutSessions.lookup id = some session → session.creditedAt = none) :
    Sound id (begun user checkoutSessions).1 (begun user checkoutSessions).2 where
  once := Nat.zero_le _
  marker := by
    have hnull : creditedAt (begun user checkoutSessions).1.store id = none := by
      unfold creditedAt begun
      cases hs : checkoutSessions.lookup id with
      | none => rfl
      | some session => exact hnew id session hs
    rw [hnull]
    simp [begun, timesCredited]
  completed := Concurrent.everyThread_empty _
  carried := Concurrent.everyThread_empty _

end CreditAux

open CreditAux

/-- A payment is credited at most once, and exactly once when a thread that saw it succeed has returned, over every run in which
the marker guards the credit. -/
theorem credited_once (user : User) (checkoutSessions : Dict PaymentId CheckoutSession)
    (hnew : ∀ id session, checkoutSessions.lookup id = some session → session.creditedAt = none) (steps : List Step)
    (h : Along watch MarkerGuards (begun user checkoutSessions) steps) :
    Throughout watch CreditedOnce (begun user checkoutSessions) steps := by
  have hinv : Throughout watch (fun p => ∀ id, Sound id p.1 p.2) (begun user checkoutSessions) steps :=
    throughout_of_along (fun p a hs hg id => sound_step (hs id) a hg) (fun id => sound_begun id hnew) h
  refine hinv.mono ?_
  intro p hs id
  have h1 := (hs id).once
  exact ⟨by omega, fun t credited ht => (hs id).completed t _ ht rfl⟩

/-- An auto top-up of twenty-five dollars that succeeded. -/
def topUpIntent : PaymentIntent where
  id := 7
  succeeded := true
  autoTopUp := true
  namesUser := true
  metadataCreditUsd := 25
  amount := 2500

/-- Two deliveries of one event. -/
def deliverTwice : List Step :=
  [.begin 0 (.webhook (.intentSucceeded topUpIntent)), .begin 1 (.webhook (.intentSucceeded topUpIntent))]

/-- Both deliveries read the marker before either sets it: the payment is credited twice. -/
theorem overlapping_deliveries_credit_twice : ¬Throughout watch CreditedOnce (begun {} ∅)
    (deliverTwice ++ [.turn 0 none, .turn 1 none, .turn 0 none, .turn 1 none, .turn 0 none, .turn 1 none, .turn 0 none,
      .turn 1 none]) := by
  intro h
  have hle := (h.last 7).1
  exact absurd hle (by decide +kernel)

/-- The second delivery starts when the first has returned. -/
theorem credited_once_one_after_the_other : Throughout watch CreditedOnce (begun {} ∅)
    (deliverTwice ++ [.turn 0 none, .turn 0 none, .turn 0 none, .turn 0 none, .turn 0 none, .turn 1 none]) :=
  credited_once {} ∅ (by intro id session h; cases h) _ (by decide +kernel)

end Billing

end PromptRail
