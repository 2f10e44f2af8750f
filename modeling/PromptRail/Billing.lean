import PromptRail.Library.Concurrent
import PromptRail.Library.Transition
import Mathlib.Data.Rat.Defs
import Mathlib.Algebra.Order.Ring.Rat

/-!
# Credits (`store.js`, `autoTopUp.js`, the Stripe webhook)

The documents of one user, and the functions that change the balance of the user. Each read or write of a document is one turn of
a thread: between two turns of one thread any other may run. What a function holds in local variables is in its `Task`. A
function that needs the identifier of the user's document reads it once more before it writes; the identifier never changes, so
that read is no turn. The copy of the balance in `userBudgets`, which none of the functions reads, is left out, but writing it is a
turn: a function returns only after it.
-/

namespace PromptRail

namespace Billing

open Table (Dict)
open Concurrent (Program World Action ThreadId EveryThread)

/-- The identifier of a checkout session or of a payment intent. -/
abbrev PaymentId := Nat

/-- Milliseconds. -/
abbrev Time := Int

/-! ## Documents -/

/-- The user's document. -/
structure User where
  budgetUsd : ℚ := 0
  budgetRemainingUsd : ℚ := 0
  remainingWeight : Option ℚ := none
  totalSpendUsd : ℚ := 0
  totalRequests : Nat := 0
  successfulRequests : Nat := 0
  failedRequests : Nat := 0
  successRate : ℚ := 0
  providerCompletions : Dict String Nat := ∅
  labCompletions : Dict String Nat := ∅
  budgetElapsedDays : ℚ := 0
  stripeCustomerId : Option String := none
  stripePaymentMethodId : Option String := none
  autoTopUpEnabled : Bool := false
  autoTopUpThresholdUsd : ℚ := 5
  autoTopUpAmountUsd : ℚ := 25
  autoTopUpInFlightAt : Option Time := none

/-- A document of `checkoutSessions`: `creditedAt` is the marker of a payment that was credited. -/
structure CheckoutSession where
  amountUsd : ℚ
  creditedAt : Option Time
  createdAt : Time

/-- A document of `usageLogs`. -/
structure UsageLog where
  isRoutingOperation : Bool
  provider : String
  success : Bool
  spendUsd : ℚ
  budgetRemainingUsd : ℚ

/-- A payment intent, as Stripe reports it. Its amount is in cents. -/
structure PaymentIntent where
  id : PaymentId
  succeeded : Bool
  autoTopUp : Bool
  namesUser : Bool
  metadataCreditUsd : ℚ
  amount : ℚ
  customer : Option String := none
  paymentMethod : Option String := none

/-- A checkout session, as Stripe reports it. Its amount is in cents. -/
structure StripeSession where
  id : PaymentId
  paid : Bool
  pluginSubscription : Bool
  namesUser : Bool
  metadataCreditUsd : ℚ
  amountTotal : ℚ
  customer : Option String := none
  paymentMethod : Option String := none

/-- The database, what Stripe has answered under each idempotency key, and the clock. -/
structure Store where
  user : User
  checkoutSessions : Dict PaymentId CheckoutSession := ∅
  usageLogs : List UsageLog := []
  intents : Dict (Int × Int) PaymentIntent := ∅
  now : Time := 0

/-- `publicUser`: a threshold or an amount of zero reads as its default. -/
def publicUser (user : User) : User :=
  { user with
    autoTopUpThresholdUsd := if user.autoTopUpThresholdUsd = 0 then 5 else user.autoTopUpThresholdUsd
    autoTopUpAmountUsd := if user.autoTopUpAmountUsd = 0 then 25 else user.autoTopUpAmountUsd }

/-- `upsertCheckoutSession`. -/
def upsertCheckoutSession (store : Store) (id : PaymentId) (session : CheckoutSession) : Store :=
  { store with checkoutSessions := store.checkoutSessions.insert id session }

/-- The marker of a payment. -/
def creditedAt (store : Store) (id : PaymentId) : Option Time :=
  (store.checkoutSessions.lookup id).bind (·.creditedAt)

/-! ## Calls -/

/-- The arguments of `creditStripePayment`. -/
structure Payment where
  id : PaymentId
  amountUsd : ℚ
  stripeCustomerId : Option String := none
  stripePaymentMethodId : Option String := none
  autoTopUp : Bool := false

/-- The arguments of `insertUsageAndUpdateUser`; the laboratory of the model and the weight of the request are those its helpers
read off the model's name and the metadata. -/
structure Usage where
  provider : String
  modelLab : Option String := none
  success : Bool
  spendUsd : ℚ
  requestWeight : Option ℚ := none
  isRoutingOperation : Bool := false

/-- The arguments of `updateUserBudget`. -/
structure Budget where
  budgetUsd : ℚ
  remainingWeight : Option ℚ := none
  budgetElapsedDays : ℚ := 0

/-- A signed event that `POST` receives. -/
inductive Event where
  | checkoutSucceeded (session : StripeSession)
  | checkoutFailed (session : StripeSession)
  | intentSucceeded (intent : PaymentIntent)
  | intentFailed (intent : PaymentIntent)

/-- A call that starts a thread. -/
inductive Call where
  | webhook (event : Event)
  | triggerAutoTopUp
  | creditStripePayment (payment : Payment)
  | insertUsageAndUpdateUser (usage : Usage)
  | updateUserBudget (budget : Budget)

/-- What a function returned: the payment it was to credit, and whether it did; or anything else. -/
inductive Outcome where
  | credit (id : PaymentId) (credited : Bool)
  | other

/-- What a thread does next, and the local variables it holds. -/
inductive Task where
  | creditCheckoutSession (session : StripeSession)
  | readSessionStatus (session : StripeSession)
  | writeSessionStatus (session : StripeSession) (localSession : Option CheckoutSession)
  | markAutoTopUpFailed (intent : PaymentIntent)
  | readMarker (payment : Payment)
  | readCreditedUser (payment : Payment) (existingSession : Option CheckoutSession)
  | writeMarker (payment : Payment) (existingSession : Option CheckoutSession) (current : User)
  | writeCreditedUser (payment : Payment) (current : User)
  | beginAutoTopUpAttempt
  | reportMissingMethod
  | claimAutoTopUp (current : User)
  | createPaymentIntent (attempt : User)
  | recordPaymentIntent (attempt : User) (intent : PaymentIntent)
  | finishAutoTopUpAttempt
  | readUsageUser (usage : Usage)
  | insertUsageLog (usage : Usage) (current : User)
  | writeUsageUser (usage : Usage) (current : User)
  | ensureUserDefaults (budget : Budget)
  | readBudgetUser (budget : Budget)
  | writeBudgetUser (budget : Budget) (current : User)
  | writeUserBudgets (outcome : Outcome)
  | returned (outcome : Outcome)
  | threw (message : String)
  | crashed

/-! ## The webhook -/

/-- `sessionCreditUsd`. -/
def sessionCreditUsd (session : StripeSession) (localSession : Option CheckoutSession) : ℚ :=
  let offered := if 0 < session.metadataCreditUsd then session.metadataCreditUsd else session.amountTotal / 100
  match localSession with
  | some s => if s.amountUsd ≠ 0 then s.amountUsd else offered
  | none => offered

/-- `paymentIntentCreditUsd`. -/
def paymentIntentCreditUsd (intent : PaymentIntent) : ℚ :=
  if 0 < intent.metadataCreditUsd then intent.metadataCreditUsd else intent.amount / 100

/-- The payment that `creditAutoTopUpPaymentIntent` credits. -/
def intentPayment (intent : PaymentIntent) (amountUsd : ℚ) : Payment where
  id := intent.id
  amountUsd := amountUsd
  stripeCustomerId := intent.customer
  stripePaymentMethodId := intent.paymentMethod
  autoTopUp := true

/-- `POST`, up to the first document it touches. -/
def post : Event → Task
  | .checkoutSucceeded session =>
    if session.pluginSubscription then .returned .other
    else if session.paid then .creditCheckoutSession session
    else .readSessionStatus session
  | .checkoutFailed session => if session.pluginSubscription then .returned .other else .readSessionStatus session
  | .intentSucceeded intent =>
    if !intent.autoTopUp then .returned .other
    else if !intent.namesUser then .threw "Auto top-up PaymentIntent is missing user metadata."
    else if paymentIntentCreditUsd intent ≤ 0 then .threw "Auto top-up PaymentIntent has no credit amount."
    else .readMarker (intentPayment intent (paymentIntentCreditUsd intent))
  | .intentFailed intent =>
    if !intent.autoTopUp then .returned .other
    else if !intent.namesUser then .threw "Auto top-up PaymentIntent is missing user metadata."
    else .markAutoTopUpFailed intent

/-- The first task of a call. -/
def start : Call → Task
  | .webhook event => post event
  | .triggerAutoTopUp => .beginAutoTopUpAttempt
  | .creditStripePayment payment => .readMarker payment
  | .insertUsageAndUpdateUser usage => .readUsageUser usage
  | .updateUserBudget budget => .ensureUserDefaults budget

/-! ## The writes of the user's document -/

/-- `creditStripePayment`: absolute amounts, from the user it read. -/
def creditedUser (payment : Payment) (current stored : User) : User :=
  { stored with
    budgetUsd := current.budgetUsd + payment.amountUsd
    budgetRemainingUsd := current.budgetRemainingUsd + payment.amountUsd
    stripeCustomerId := payment.stripeCustomerId.or stored.stripeCustomerId
    stripePaymentMethodId := payment.stripePaymentMethodId.or stored.stripePaymentMethodId
    autoTopUpInFlightAt := if payment.autoTopUp then none else stored.autoTopUpInFlightAt }

/-- One more completion under a name. -/
def countCompletion (completions : Dict String Nat) (name : String) : Dict String Nat :=
  completions.insert name ((completions.lookup name).getD 0 + 1)

/-- `nextBudgetRemainingUsd`. -/
def nextBudgetRemainingUsd (usage : Usage) (current : User) : ℚ := max 0 (current.budgetRemainingUsd - usage.spendUsd)

/-- `insertUsageAndUpdateUser`, of a completion: absolute amounts and counters, from the user it read. -/
def chargedUser (usage : Usage) (current stored : User) : User :=
  let totalRequests := current.totalRequests + 1
  let successfulRequests := current.successfulRequests + if usage.success then 1 else 0
  { stored with
    budgetRemainingUsd := nextBudgetRemainingUsd usage current
    remainingWeight :=
      match current.remainingWeight, usage.requestWeight with
      | some remaining, some weight => some (max 0 (remaining - weight))
      | _, _ => current.remainingWeight
    totalSpendUsd := current.totalSpendUsd + usage.spendUsd
    totalRequests
    successfulRequests
    failedRequests := current.failedRequests + if usage.success then 0 else 1
    successRate := (successfulRequests : ℚ) / totalRequests
    providerCompletions := countCompletion current.providerCompletions usage.provider
    labCompletions :=
      match usage.modelLab with
      | some lab => countCompletion current.labCompletions lab
      | none => current.labCompletions
    budgetElapsedDays := max 1 current.budgetElapsedDays }

/-- `updateUserBudget`: the balance it writes is the one it read. -/
def budgetedUser (budget : Budget) (current stored : User) : User :=
  { stored with
    budgetUsd := budget.budgetUsd
    budgetRemainingUsd := current.budgetRemainingUsd
    remainingWeight := budget.remainingWeight
    budgetElapsedDays := budget.budgetElapsedDays }

/-- The log of a usage. -/
def usageLog (usage : Usage) (current : User) : UsageLog where
  isRoutingOperation := usage.isRoutingOperation
  provider := usage.provider
  success := usage.success
  spendUsd := usage.spendUsd
  budgetRemainingUsd := nextBudgetRemainingUsd usage current

/-! ## One turn -/

/-- `Math.round`, of an amount in cents. -/
def amountCents (amountUsd : ℚ) : Int := Rat.floor (amountUsd * 100 + 1 / 2)

/-- The milliseconds after which an attempt is stale, and which one idempotency key lasts. -/
def fifteenMinutes : Time := 900000

/-- The update of `beginAutoTopUpAttempt` finds the user in a state it may claim. -/
def claimable (store : Store) (current : User) : Bool :=
  store.user.autoTopUpEnabled && store.user.budgetRemainingUsd ≤ current.autoTopUpThresholdUsd &&
    store.user.autoTopUpInFlightAt.all (· < store.now - fifteenMinutes)

/-- One turn of a thread; the input is what Stripe answers to a new idempotency key, `none` being an exception. -/
def turn (store : Store) : Task → Option PaymentIntent → Store × Task
  | .creditCheckoutSession session, _ =>
    let localSession := store.checkoutSessions.lookup session.id
    if localSession.isNone ∧ !session.namesUser then (store, .threw "Checkout session is missing user metadata.")
    else if sessionCreditUsd session localSession ≤ 0 then (store, .threw "Checkout session has no credit amount.")
    else
      (store, .readMarker
        { id := session.id
          amountUsd := sessionCreditUsd session localSession
          stripeCustomerId := session.customer
          stripePaymentMethodId := session.paymentMethod })
  | .readSessionStatus session, _ =>
    let localSession := store.checkoutSessions.lookup session.id
    if localSession.isNone ∧ !session.namesUser then (store, .threw "Checkout session is missing user metadata.")
    else (store, .writeSessionStatus session localSession)
  | .writeSessionStatus session localSession, _ =>
    (upsertCheckoutSession store session.id
      { amountUsd := sessionCreditUsd session localSession
        creditedAt := localSession.bind (·.creditedAt)
        createdAt := (localSession.map (·.createdAt)).getD store.now }, .returned .other)
  | .markAutoTopUpFailed intent, _ =>
    (upsertCheckoutSession store intent.id
      { amountUsd := paymentIntentCreditUsd intent, creditedAt := none, createdAt := store.now }, .finishAutoTopUpAttempt)
  | .readMarker payment, _ =>
    let existingSession := store.checkoutSessions.lookup payment.id
    if (creditedAt store payment.id).isSome then (store, .returned (.credit payment.id false))
    else (store, .readCreditedUser payment existingSession)
  | .readCreditedUser payment existingSession, _ => (store, .writeMarker payment existingSession (publicUser store.user))
  | .writeMarker payment existingSession current, _ =>
    (upsertCheckoutSession store payment.id
      { amountUsd := payment.amountUsd
        creditedAt := some store.now
        createdAt := (existingSession.map (·.createdAt)).getD store.now }, .writeCreditedUser payment current)
  | .writeCreditedUser payment current, _ =>
    ({ store with user := creditedUser payment current store.user }, .writeUserBudgets (.credit payment.id true))
  | .beginAutoTopUpAttempt, _ =>
    let current := publicUser store.user
    if !current.autoTopUpEnabled then (store, .returned .other)
    else if current.autoTopUpThresholdUsd < current.budgetRemainingUsd then (store, .returned .other)
    else if current.stripeCustomerId.isNone ∨ current.stripePaymentMethodId.isNone then (store, .reportMissingMethod)
    else (store, .claimAutoTopUp current)
  | .reportMissingMethod, _ => (store, .returned .other)
  | .claimAutoTopUp current, _ =>
    if claimable store current then
      ({ store with user := { store.user with autoTopUpInFlightAt := some store.now } }, .createPaymentIntent current)
    else (store, .returned .other)
  | .createPaymentIntent attempt, answer =>
    let key := (store.now / fifteenMinutes, amountCents attempt.autoTopUpAmountUsd)
    match (store.intents.lookup key).or answer with
    | some intent => ({ store with intents := store.intents.insert key intent }, .recordPaymentIntent attempt intent)
    | none => (store, .finishAutoTopUpAttempt)
  | .recordPaymentIntent attempt intent, _ =>
    (upsertCheckoutSession store intent.id
      { amountUsd := attempt.autoTopUpAmountUsd, creditedAt := none, createdAt := store.now },
      if intent.succeeded then .readMarker (intentPayment intent attempt.autoTopUpAmountUsd) else .finishAutoTopUpAttempt)
  | .finishAutoTopUpAttempt, _ =>
    ({ store with user := { store.user with autoTopUpInFlightAt := none } }, .returned .other)
  | .readUsageUser usage, _ =>
    let current := publicUser store.user
    if 0 < usage.spendUsd ∧ current.budgetRemainingUsd + 1 / 1000000 < usage.spendUsd then
      (store, .threw "Insufficient PromptRail credits.")
    else (store, .insertUsageLog usage current)
  | .insertUsageLog usage current, _ =>
    ({ store with usageLogs := store.usageLogs ++ [usageLog usage current] },
      if usage.isRoutingOperation then .returned .other else .writeUsageUser usage current)
  | .writeUsageUser usage current, _ =>
    ({ store with user := chargedUser usage current store.user }, .writeUserBudgets .other)
  | .ensureUserDefaults budget, _ => (store, .readBudgetUser budget)
  | .readBudgetUser budget, _ => (store, .writeBudgetUser budget (publicUser store.user))
  | .writeBudgetUser budget current, _ =>
    ({ store with user := budgetedUser budget current store.user }, .writeUserBudgets .other)
  | .writeUserBudgets outcome, _ => (store, .returned outcome)
  | .returned outcome, _ => (store, .returned outcome)
  | .threw message, _ => (store, .threw message)
  | .crashed, _ => (store, .crashed)

/-- A thread that has returned or thrown cannot crash any more. -/
def crash : Task → Task
  | .returned outcome => .returned outcome
  | .threw message => .threw message
  | _ => .crashed

/-- The program: the clock is what happens from outside. -/
def program : Program Store Call Task (Option PaymentIntent) Nat where
  start := start
  turn := turn
  halt := crash
  happen store ms := { store with now := store.now + ms }

/-- A world of the program, and what can happen next in it. -/
abbrev System := World Store Task

abbrev Step := Action Call (Option PaymentIntent) Nat

/-! ## The history of the balance -/

/-- A write of the balance. -/
inductive Entry where
  | credit (id : PaymentId) (amountUsd : ℚ)
  | debit (log : UsageLog)

/-- The writes of the balance one action makes. -/
def written (w : System) : Step → List Entry
  | .turn t _ =>
    match w.threads.lookup t with
    | some (.writeCreditedUser payment _) => [.credit payment.id payment.amountUsd]
    | some (.writeUsageUser usage current) => [.debit (usageLog usage current)]
    | _ => []
  | _ => []

/-- Only a turn of a thread that exists writes the balance. -/
theorem written_eq_nil {w : System} {a : Step} (h : ∀ t input, a = .turn t input → w.threads.lookup t = none) :
    written w a = [] := by
  cases a with
  | turn t input => simp only [written, h t input rfl]
  | _ => rfl

/-- The system with the writes of the balance beside it. -/
def watch : System × List Entry → Step → System × List Entry :=
  Transition.monitor program.step fun entries w a _ => entries ++ written w a

/-- A user, and nothing else that ever happened but sessions that wait for their payment. -/
def begun (user : User) (checkoutSessions : Dict PaymentId CheckoutSession) : System × List Entry :=
  ({ store := { user, checkoutSessions } }, [])

end Billing

end PromptRail
