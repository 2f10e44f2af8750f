import PromptRail.Billing
import Mathlib.Algebra.Order.Group.Multiset

/-!
# The balance of a user

Three functions read the user's document, compute absolute values, and write them some operations later. The balance is what its
writes make of it, one after the other, and the counters count the completions, in every run in which a write finds the fields it
is about to overwrite as they were read.
-/

namespace PromptRail

namespace Billing

open Table (Dict)
open Concurrent (ThreadId EveryThread load load_turn load_begin)
open Transition (Throughout Along throughout_of_along)

/-- What a write does to the balance: a payment adds its amount, a completion takes what it spent, down to zero. -/
def Entry.applied (balance : ℚ) : Entry → ℚ
  | .credit _ amountUsd => balance + amountUsd
  | .debit log => max 0 (balance - log.spendUsd)

/-- The completions that were charged. -/
def charges (entries : List Entry) : List UsageLog :=
  entries.filterMap fun
    | .debit log => some log
    | .credit _ _ => none

/-- The payments that were credited. -/
def creditedPayments (entries : List Entry) : List PaymentId :=
  entries.filterMap fun
    | .credit id _ => some id
    | .debit _ => none

/-- The usage logs of completions. -/
def completionLogs (store : Store) : List UsageLog := store.usageLogs.filter fun log => !log.isRoutingOperation

/-- The payment a thread has credited. -/
def creditedBy : Task → Multiset PaymentId
  | .writeUserBudgets (.credit id true) => {id}
  | .returned (.credit id true) => {id}
  | _ => 0

/-- The operation has returned. -/
def Task.isReturned : Task → Bool
  | .returned _ => true
  | _ => false

/-- Every operation that was started has returned. -/
def AllReturned (w : System) : Prop := EveryThread (fun task => task.isReturned = true) w.threads

/-- Once every operation has returned, the balance is the first one with every payment credited and every completion charged, and
the counters have grown by the completions logged. -/
def BalanceExact (initial : User) (p : System × List Entry) : Prop :=
  AllReturned p.1 →
    p.1.store.user.budgetRemainingUsd = p.2.foldl Entry.applied initial.budgetRemainingUsd ∧
    (creditedPayments p.2 : Multiset PaymentId) = load creditedBy p.1.threads ∧
    (charges p.2).Perm (completionLogs p.1.store) ∧
    p.1.store.user.totalRequests = initial.totalRequests + (completionLogs p.1.store).length ∧
    p.1.store.user.successfulRequests = initial.successfulRequests + (completionLogs p.1.store).countP (·.success) ∧
    p.1.store.user.failedRequests = initial.failedRequests + (completionLogs p.1.store).countP (!·.success)

/-- A write of the user's document finds the balance as it was read, and a usage also the counters. -/
def WritesFresh (p : System × List Entry) : Step → Prop
  | .turn t _ =>
    match p.1.threads.lookup t with
    | some (.writeCreditedUser _ current) => p.1.store.user.budgetRemainingUsd = current.budgetRemainingUsd
    | some (.writeBudgetUser _ current) => p.1.store.user.budgetRemainingUsd = current.budgetRemainingUsd
    | some (.writeUsageUser _ current) =>
      p.1.store.user.budgetRemainingUsd = current.budgetRemainingUsd ∧
      p.1.store.user.totalRequests = current.totalRequests ∧
      p.1.store.user.successfulRequests = current.successfulRequests ∧
      p.1.store.user.failedRequests = current.failedRequests
    | _ => True
  | _ => True

/-- The check of what a write finds. -/
def findsFresh (p : System × List Entry) : Step → Bool
  | .turn t _ =>
    match p.1.threads.lookup t with
    | some (.writeCreditedUser _ current) => decide (p.1.store.user.budgetRemainingUsd = current.budgetRemainingUsd)
    | some (.writeBudgetUser _ current) => decide (p.1.store.user.budgetRemainingUsd = current.budgetRemainingUsd)
    | some (.writeUsageUser _ current) =>
      decide (p.1.store.user.budgetRemainingUsd = current.budgetRemainingUsd ∧
        p.1.store.user.totalRequests = current.totalRequests ∧
        p.1.store.user.successfulRequests = current.successfulRequests ∧
        p.1.store.user.failedRequests = current.failedRequests)
    | _ => true
  | _ => true

theorem findsFresh_iff (p : System × List Entry) (a : Step) : findsFresh p a = true ↔ WritesFresh p a := by
  cases a with
  | turn t input =>
    simp only [findsFresh, WritesFresh]
    cases p.1.threads.lookup t with
    | none => simp
    | some task => cases task <;> simp
  | _ => simp [findsFresh, WritesFresh]

instance (p : System × List Entry) (a : Step) : Decidable (WritesFresh p a) := decidable_of_iff _ (findsFresh_iff p a)

namespace BalanceAux

/-- The log of a completion that is not charged yet. -/
def uncharged : Task → Multiset UsageLog
  | .writeUsageUser usage current => {usageLog usage current}
  | _ => 0

/-- Some thread has crashed. -/
def Crashed (w : System) : Prop := ∃ t, w.threads.lookup t = some .crashed

/-- What is kept: the balance and the counters are what the writes made of them, and unless a thread has crashed, the payments
credited are those its threads have credited, and the completions logged are those charged or about to be. -/
structure Tracked (initial : User) (w : System) (entries : List Entry) : Prop where
  balance : w.store.user.budgetRemainingUsd = entries.foldl Entry.applied initial.budgetRemainingUsd
  total : w.store.user.totalRequests = initial.totalRequests + (charges entries).length
  successful : w.store.user.successfulRequests = initial.successfulRequests + (charges entries).countP (·.success)
  failed : w.store.user.failedRequests = initial.failedRequests + (charges entries).countP (!·.success)
  threads : Crashed w ∨ ((creditedPayments entries : Multiset PaymentId) = load creditedBy w.threads ∧
    (completionLogs w.store : Multiset UsageLog) = (charges entries : Multiset UsageLog) + load uncharged w.threads)

/-- Two users with the same balance and the same counters. -/
def SameAccount (user user' : User) : Prop :=
  user'.budgetRemainingUsd = user.budgetRemainingUsd ∧ user'.totalRequests = user.totalRequests ∧
    user'.successfulRequests = user.successfulRequests ∧ user'.failedRequests = user.failedRequests

variable {initial : User} {w : System} {entries : List Entry} {t : ThreadId} {task : Task}

/-- A thread that has crashed stays so, whatever thread goes on. -/
theorem crashed_insert (h : Crashed w) (ht : w.threads.lookup t = some task) {store : Store} {next : Task}
    (hn : task = .crashed → next = .crashed) : Crashed { store, threads := w.threads.insert t next } := by
  obtain ⟨t', ht'⟩ := h
  refine ⟨t', ?_⟩
  rw [Table.lookup_insert_eq]
  split
  · rename_i hid
    subst hid
    rw [ht] at ht'
    rw [hn (Option.some.inj ht')]
  · exact ht'

/-- A turn that writes neither the balance nor a log, and neither credits nor charges anything. -/
theorem tracked_quiet (h : Tracked initial w entries) (ht : w.threads.lookup t = some task) {store : Store} {next : Task}
    (hs : SameAccount w.store.user store.user) (hl : store.usageLogs = w.store.usageLogs)
    (hc : creditedBy next = creditedBy task) (hu : uncharged next = uncharged task)
    (hn : task = .crashed → next = .crashed) :
    Tracked initial { store, threads := w.threads.insert t next } entries := by
  obtain ⟨h1, h2, h3, h4⟩ := hs
  refine ⟨h1.trans h.balance, h2.trans h.total, h3.trans h.successful, h4.trans h.failed, ?_⟩
  rcases h.threads with hcrash | ⟨hcredit, hlogs⟩
  · exact Or.inl (crashed_insert hcrash ht hn)
  · have hload := load_turn creditedBy ht next
    have hpend := load_turn uncharged ht next
    rw [hc] at hload
    rw [hu] at hpend
    have hlog : completionLogs store = completionLogs w.store := by simp only [completionLogs, hl]
    refine Or.inr ⟨?_, ?_⟩
    · rw [hcredit]
      exact (add_left_cancel hload).symm
    · simp only [hlog]
      rw [hlogs]
      exact congrArg _ (add_left_cancel hpend).symm

/-- A payment is credited, on the balance that was read. -/
theorem tracked_credit {payment : Payment} {current : User} (h : Tracked initial w entries)
    (ht : w.threads.lookup t = some (.writeCreditedUser payment current))
    (hf : w.store.user.budgetRemainingUsd = current.budgetRemainingUsd) :
    Tracked initial { store := { w.store with user := creditedUser payment current w.store.user }
                      threads := w.threads.insert t (.writeUserBudgets (.credit payment.id true)) }
      (entries ++ [.credit payment.id payment.amountUsd]) := by
  have hch : charges (entries ++ [.credit payment.id payment.amountUsd]) = charges entries := by
    simp [charges, List.filterMap_append]
  have hcp : creditedPayments (entries ++ [.credit payment.id payment.amountUsd]) = creditedPayments entries ++ [payment.id] := by
    simp [creditedPayments, List.filterMap_append]
  refine ⟨?_, ?_, ?_, ?_, ?_⟩
  · rw [List.foldl_append, ← h.balance, hf]
    rfl
  · rw [hch]
    exact h.total
  · rw [hch]
    exact h.successful
  · rw [hch]
    exact h.failed
  · rcases h.threads with hcrash | ⟨hcredit, hlogs⟩
    · exact Or.inl (crashed_insert hcrash ht (by simp))
    · have hload := load_turn creditedBy ht (.writeUserBudgets (.credit payment.id true))
      have hpend := load_turn uncharged ht (.writeUserBudgets (.credit payment.id true))
      simp only [creditedBy, uncharged, zero_add] at hload hpend
      refine Or.inr ⟨?_, ?_⟩
      · rw [hcp, hload, ← hcredit, ← Multiset.coe_add, add_comm]
        rfl
      · rw [hch, hpend]
        exact hlogs

/-- A completion is logged. -/
theorem tracked_log {usage : Usage} {current : User} (h : Tracked initial w entries)
    (ht : w.threads.lookup t = some (.insertUsageLog usage current)) (hr : usage.isRoutingOperation = false) :
    Tracked initial { store := { w.store with usageLogs := w.store.usageLogs ++ [usageLog usage current] }
                      threads := w.threads.insert t (.writeUsageUser usage current) } entries := by
  refine ⟨h.balance, h.total, h.successful, h.failed, ?_⟩
  rcases h.threads with hcrash | ⟨hcredit, hlogs⟩
  · exact Or.inl (crashed_insert hcrash ht (by simp))
  · have hload := load_turn creditedBy ht (.writeUsageUser usage current)
    have hpend := load_turn uncharged ht (.writeUsageUser usage current)
    simp only [creditedBy, uncharged, zero_add] at hload hpend
    refine Or.inr ⟨by rw [hload]; exact hcredit, ?_⟩
    have hlog : completionLogs { w.store with usageLogs := w.store.usageLogs ++ [usageLog usage current] } =
        completionLogs w.store ++ [usageLog usage current] := by
      simp [completionLogs, usageLog, hr]
    rw [hlog, hpend, ← Multiset.coe_add, hlogs, add_assoc, add_comm (load uncharged w.threads)]
    rfl

/-- A completion is charged, on the balance and the counters that were read. -/
theorem tracked_charge {usage : Usage} {current : User} (h : Tracked initial w entries)
    (ht : w.threads.lookup t = some (.writeUsageUser usage current))
    (hf : w.store.user.budgetRemainingUsd = current.budgetRemainingUsd ∧ w.store.user.totalRequests = current.totalRequests ∧
      w.store.user.successfulRequests = current.successfulRequests ∧ w.store.user.failedRequests = current.failedRequests) :
    Tracked initial { store := { w.store with user := chargedUser usage current w.store.user }
                      threads := w.threads.insert t (.writeUserBudgets .other) }
      (entries ++ [.debit (usageLog usage current)]) := by
  obtain ⟨hb, ht1, ht2, ht3⟩ := hf
  have hch : charges (entries ++ [.debit (usageLog usage current)]) = charges entries ++ [usageLog usage current] := by
    simp [charges, List.filterMap_append]
  have hcp : creditedPayments (entries ++ [.debit (usageLog usage current)]) = creditedPayments entries := by
    simp [creditedPayments, List.filterMap_append]
  refine ⟨?_, ?_, ?_, ?_, ?_⟩
  · rw [List.foldl_append, ← h.balance, hb]
    rfl
  · have := h.total
    rw [hch, List.length_append, List.length_singleton]
    simp only [chargedUser]
    omega
  · have := h.successful
    rw [hch, List.countP_append, List.countP_singleton]
    cases hs : usage.success <;> simp [chargedUser, usageLog, hs] <;> omega
  · have := h.failed
    rw [hch, List.countP_append, List.countP_singleton]
    cases hs : usage.success <;> simp [chargedUser, usageLog, hs] <;> omega
  · rcases h.threads with hcrash | ⟨hcredit, hlogs⟩
    · exact Or.inl (crashed_insert hcrash ht (by simp))
    · have hload := load_turn creditedBy ht (.writeUserBudgets .other)
      have hpend := load_turn uncharged ht (.writeUserBudgets .other)
      simp only [creditedBy, uncharged, zero_add] at hload hpend
      refine Or.inr ⟨by rw [hcp, hload]; exact hcredit, ?_⟩
      have hlog : completionLogs { w.store with user := chargedUser usage current w.store.user } = completionLogs w.store := rfl
      rw [hlog, hlogs, hch, ← hpend, ← Multiset.coe_add, add_assoc]
      rfl

/-- Every turn keeps the track, if its write is fresh: one case for each task. -/
theorem tracked_turn (h : Tracked initial w entries) (ht : w.threads.lookup t = some task) (input : Option PaymentIntent)
    (hg : WritesFresh (w, entries) (.turn t input)) :
    Tracked initial { store := (turn w.store task input).1, threads := w.threads.insert t (turn w.store task input).2 }
      (entries ++ written w (.turn t input)) := by
  simp only [WritesFresh, ht] at hg
  simp only [written, ht]
  cases task with
  | writeCreditedUser payment current => exact tracked_credit h ht hg
  | writeUsageUser usage current => exact tracked_charge h ht hg
  | insertUsageLog usage current =>
    rw [List.append_nil]
    simp only [turn]
    cases hr : usage.isRoutingOperation with
    | false => exact tracked_log h ht hr
    | true =>
      have hlog : completionLogs { w.store with usageLogs := w.store.usageLogs ++ [usageLog usage current] } =
          completionLogs w.store := by
        simp [completionLogs, usageLog, hr]
      have hq : Tracked initial { store := w.store, threads := w.threads.insert t (.returned .other) } entries :=
        tracked_quiet h ht ⟨rfl, rfl, rfl, rfl⟩ rfl rfl rfl (by simp)
      exact ⟨hq.balance, hq.total, hq.successful, hq.failed, hq.threads.imp id fun hx => ⟨hx.1, hlog ▸ hx.2⟩⟩
  | writeBudgetUser budget current =>
    rw [List.append_nil]
    exact tracked_quiet h ht ⟨hg.symm, rfl, rfl, rfl⟩ rfl rfl rfl (by simp)
  | writeUserBudgets outcome =>
    rw [List.append_nil]
    refine tracked_quiet h ht ⟨rfl, rfl, rfl, rfl⟩ rfl ?_ rfl (by simp)
    cases outcome with
    | credit id credited => cases credited <;> rfl
    | other => rfl
  | crashed =>
    rw [List.append_nil]
    exact tracked_quiet h ht ⟨rfl, rfl, rfl, rfl⟩ rfl rfl rfl fun _ => rfl
  | _ =>
    rw [List.append_nil]
    simp only [turn]
    repeat' split
    all_goals exact tracked_quiet h ht ⟨rfl, rfl, rfl, rfl⟩ rfl rfl rfl (by simp)

/-- A thread that starts has credited and charged nothing. -/
theorem tracked_begin (h : Tracked initial w entries) (ht : t ∉ w.threads) (call : Call) :
    Tracked initial { w with threads := w.threads.insert t (start call) } entries := by
  have hquiet : creditedBy (start call) = 0 ∧ uncharged (start call) = 0 := by
    cases call with
    | webhook event => cases event <;> simp only [start, post] <;> split_ifs <;> exact ⟨rfl, rfl⟩
    | _ => exact ⟨rfl, rfl⟩
  have hload := load_begin creditedBy ht (start call)
  have hpend := load_begin uncharged ht (start call)
  rw [hquiet.1, zero_add] at hload
  rw [hquiet.2, zero_add] at hpend
  refine ⟨h.balance, h.total, h.successful, h.failed, ?_⟩
  rcases h.threads with ⟨t', ht'⟩ | ⟨hcredit, hlogs⟩
  · refine Or.inl ⟨t', ?_⟩
    have hne : t' ≠ t := by
      rintro rfl
      exact ht (Table.mem_iff_lookup.2 ⟨_, ht'⟩)
    rw [Table.lookup_insert_eq, if_neg hne]
    exact ht'
  · exact Or.inr ⟨by rw [hload]; exact hcredit, by rw [hpend]; exact hlogs⟩

/-- A thread that is halted has crashed, unless it was done. -/
theorem tracked_halt (h : Tracked initial w entries) (ht : w.threads.lookup t = some task) :
    Tracked initial { w with threads := w.threads.insert t (crash task) } entries := by
  have hdone : ∀ done : Task, done ≠ .crashed → w.threads.lookup t = some done →
      Tracked initial { w with threads := w.threads.insert t done } entries := fun done hne hd =>
    tracked_quiet h hd ⟨rfl, rfl, rfl, rfl⟩ rfl rfl rfl fun hc => absurd hc hne
  cases task with
  | returned outcome => exact hdone (.returned outcome) (by simp) ht
  | threw message => exact hdone (.threw message) (by simp) ht
  | _ => exact ⟨h.balance, h.total, h.successful, h.failed, Or.inl ⟨t, by simp [crash]⟩⟩

/-- Every step keeps the track, if its write is fresh. -/
theorem tracked_step (h : Tracked initial w entries) (a : Step) (hg : WritesFresh (w, entries) a) :
    Tracked initial (program.step w a) (entries ++ written w a) := by
  rcases program.step_cases w a with ⟨hno, hs⟩ | ⟨t, call, rfl, ht, hs⟩ | ⟨t, input, task, rfl, ht, hs⟩ |
    ⟨t, task, rfl, ht, hs⟩ | ⟨ms, rfl, hs⟩
  · rw [hs, written_eq_nil hno, List.append_nil]
    exact h
  · rw [hs, written_eq_nil (by simp), List.append_nil]
    exact tracked_begin h ht call
  · rw [hs]
    exact tracked_turn h ht input hg
  · rw [hs, written_eq_nil (by simp), List.append_nil]
    exact tracked_halt h ht
  · rw [hs, written_eq_nil (by simp), List.append_nil]
    exact ⟨h.balance, h.total, h.successful, h.failed, h.threads⟩

theorem tracked_begun (user : User) (checkoutSessions : Dict PaymentId CheckoutSession) :
    Tracked user (begun user checkoutSessions).1 (begun user checkoutSessions).2 where
  balance := rfl
  total := rfl
  successful := rfl
  failed := rfl
  threads := Or.inr ⟨rfl, rfl⟩

/-- Once every thread has returned, no completion that was logged waits to be charged. -/
theorem load_uncharged_eq_zero (h : AllReturned w) : load uncharged w.threads = 0 := by
  refine Concurrent.load_eq_zero ?_
  intro t task ht
  have hr := h t task ht
  cases task with
  | writeUsageUser usage current => cases hr
  | _ => rfl

/-- The track, when every operation has returned. -/
theorem Tracked.exact (h : Tracked initial w entries) : BalanceExact initial (w, entries) := by
  intro hall
  rcases h.threads with ⟨t, hcrash⟩ | ⟨hcredit, hlogs⟩
  · cases hall t _ hcrash
  · rw [load_uncharged_eq_zero hall, add_zero] at hlogs
    have hperm : (charges entries).Perm (completionLogs w.store) := (Multiset.coe_eq_coe.1 hlogs).symm
    refine ⟨h.balance, hcredit, hperm, ?_, ?_, ?_⟩
    · rw [← hperm.length_eq]
      exact h.total
    · rw [← hperm.countP_eq]
      exact h.successful
    · rw [← hperm.countP_eq]
      exact h.failed

end BalanceAux

open BalanceAux

/-- No payment and no completion is lost, over every run in which each write of the user's document finds the balance, and for a
completion the counters, as they were read. -/
theorem balance_exact (user : User) (checkoutSessions : Dict PaymentId CheckoutSession) (steps : List Step)
    (h : Along watch WritesFresh (begun user checkoutSessions) steps) :
    Throughout watch (BalanceExact user) (begun user checkoutSessions) steps := by
  have hinv : Throughout watch (fun p => Tracked user p.1 p.2) (begun user checkoutSessions) steps :=
    throughout_of_along (fun p a ht hg => tracked_step ht a hg) (tracked_begun user checkoutSessions) h
  exact hinv.mono fun p ht => ht.exact

/-- A completion that spends one dollar, and a payment of five. -/
def chargeAndCredit : List Step :=
  [.begin 0 (.insertUsageAndUpdateUser { provider := "openai", success := true, spendUsd := 1 }),
    .begin 1 (.creditStripePayment { id := 7, amountUsd := 5 })]

/-- The payment is credited on the balance from before the completion: what the completion spent is lost. -/
theorem overlapping_credit_loses_charge : ¬Throughout watch (BalanceExact { budgetRemainingUsd := 10 })
    (begun { budgetRemainingUsd := 10 } ∅)
    (chargeAndCredit ++ [.turn 1 none, .turn 1 none, .turn 0 none, .turn 0 none, .turn 0 none, .turn 0 none, .turn 1 none,
      .turn 1 none, .turn 1 none]) := by
  intro h
  have hall : AllReturned (Transition.exec watch (begun { budgetRemainingUsd := 10 } ∅)
      (chargeAndCredit ++ [.turn 1 none, .turn 1 none, .turn 0 none, .turn 0 none, .turn 0 none, .turn 0 none, .turn 1 none,
        .turn 1 none, .turn 1 none])).1 :=
    (Concurrent.everyThread_iff _ _).2 (by decide +kernel)
  exact absurd (h.last hall).1 (by decide +kernel)

/-- The payment is read, credited and returned after the completion was charged. -/
theorem balance_exact_one_after_the_other : Throughout watch (BalanceExact { budgetRemainingUsd := 10 })
    (begun { budgetRemainingUsd := 10 } ∅)
    (chargeAndCredit ++ [.turn 0 none, .turn 0 none, .turn 0 none, .turn 0 none, .turn 1 none, .turn 1 none, .turn 1 none,
      .turn 1 none, .turn 1 none]) :=
  balance_exact { budgetRemainingUsd := 10 } ∅ _ (by decide +kernel)

end Billing

end PromptRail
