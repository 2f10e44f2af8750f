import PromptRail.Workflow.Ledger
import Mathlib.Algebra.BigOperators.Group.List.Basic

/-!
# Finalizing a call

The status of a reservation is read in one statement and required again in the transaction, after the scopes were updated. Whatever
requests overlap, one transaction books the reservation on its scopes, and every other one leaves the store as it was: it is
answered with the booking if it reads the reservation after it, and refused with a conflict if it has read it before.
-/

namespace PromptRail

namespace Workflow

open Table (Dict lookup_insert_eq lookup_mapRows)
open Transition (Throughout monitor throughout_of_invariant)

/-! ## The history of debits -/

/-- A finalization that was booked on a scope. -/
structure Debit where
  reservation : ReservationKey
  scope : ScopeKey
  amountUsd : ℚ

/-- The debits one action makes: a transaction that is not refused debits every scope of the reservation it has read. -/
def debited (w : System) : Step → List Debit
  | .turn t input =>
    match w.threads.lookup t with
    | some (.finalize f reservation) =>
      match (turn w.store (.finalize f reservation) input).2 with
      | .threw _ => []
      | _ => (scopeKeys f.claim.run reservation.scopeIds).map fun scope => ⟨f.claim.key, scope, f.debit⟩
    | _ => []
  | _ => []

/-- The system with the debits beside it. -/
def watch : System × List Debit → Step → System × List Debit := monitor program.step fun debits w a _ => debits ++ debited w a

/-- The debits of one reservation. -/
def debitsOf (key : ReservationKey) (debits : List Debit) : List Debit := debits.filter fun d => d.reservation = key

/-- What was debited from one scope. -/
def debitedUsd (key : ScopeKey) (debits : List Debit) : ℚ := ((debits.filter fun d => d.scope = key).map (·.amountUsd)).sum

/-- The debits a reservation accounts for: once it is final, its spend on each of its scopes. -/
def bookings (key : ReservationKey) (r : Reservation) : List Debit :=
  if r.status.isFinal then (scopeKeys key.run r.scopeIds).map fun scope => ⟨key, scope, r.spendUsd.getD 0⟩ else []

/-! ## What is claimed -/

/-- A status stays, or moves along `reserved`, `started`, and `settled` or `failed`, or from `reserved` to `cancelled`. -/
inductive StatusMoves : ReservationStatus → ReservationStatus → Prop where
  | stays (status : ReservationStatus) : StatusMoves status status
  | starts : StatusMoves .reserved .started
  | settles : StatusMoves .started .settled
  | fails : StatusMoves .started .failed
  | cancels : StatusMoves .reserved .cancelled

/-- The finalization a thread is to make. -/
def Task.finalizes : Task → Option Finalization
  | .readReservation f => some f
  | .finalize f _ => some f
  | _ => none

/-- The finalization asks for what the reservation has become. -/
def Finalization.repeats (f : Finalization) (stored : Reservation) : Bool :=
  stored.status == f.outcome && isclose (stored.spendUsd.getD 0) f.spendUsd

/-- A finalization of a reservation that is final leaves the store as it is. One that has not read it yet succeeds if it asks for
what the reservation has become, and is refused otherwise; one that has read it before is refused with a conflict. -/
def RepeatsAnswered (w : System) : Prop :=
  ∀ t task f stored input, w.threads.lookup t = some task → task.finalizes = some f →
    workflowReservationFromClaim w.store f.claim = .ok stored → stored.status.isFinal = true →
    (turn w.store task input).1 = w.store ∧
      match task with
      | .readReservation _ =>
        (turn w.store task input).2 = if f.repeats stored then finalized f stored else .threw .alreadyFinalized
      | _ => ∃ refusal, (refusal = .reservationSettlementConflict ∨ ∃ id, refusal = .scopeSettlementConflict id) ∧
          (turn w.store task input).2 = .threw refusal

/-- A finalization that asks for what the reservation has become is never refused. -/
def RepeatsSucceed (w : System) : Prop :=
  ∀ t task f stored input refusal, w.threads.lookup t = some task → task.finalizes = some f →
    workflowReservationFromClaim w.store f.claim = .ok stored → f.repeats stored = true →
    (turn w.store task input).2 ≠ .threw refusal

/-- The reservation of a usage log. -/
def UsageLog.key (log : UsageLog) : ReservationKey := ⟨log.run, log.reservationId⟩

/-- Every usage log is that of a settled reservation, with its spend, and no reservation has two. -/
def LogsSettled (store : Store) : Prop :=
  (∀ log ∈ store.usageLogs, SettledWith store log.key log.spendUsd) ∧ (store.usageLogs.map UsageLog.key).Nodup

/-- A reservation is finalized once. -/
structure FinalizedOnce (p : System × List Debit) : Prop where
  moves : ∀ a key r, p.1.store.reservations.lookup key = some r →
    ∃ r', (program.step p.1 a).store.reservations.lookup key = some r' ∧ StatusMoves r.status r'.status
  debited : ∀ key r, p.1.store.reservations.lookup key = some r → debitsOf key p.2 = bookings key r
  spent : ∀ key scope, p.1.store.scopes.lookup key = some scope → scope.spentUsd = debitedUsd key p.2
  logged : LogsSettled p.1.store

namespace FinalizeAux

variable {store : Store}

theorem Moves.statusMoves {r r' : Reservation} (h : Moves r r') : StatusMoves r.status r'.status := by
  cases h with
  | stays => exact .stays _
  | starts hs =>
    rw [hs]
    exact .starts
  | ends f hs =>
    rw [hs]
    cases f with
    | cancel claim => exact .cancels
    | fail claim => exact .fails
    | settle claim verifiedSpendUsd success => exact .settles

/-- Every step lets the reservations move. -/
theorem moves_step (w : System) (a : Step) (key : ReservationKey) (r : Reservation)
    (h : w.store.reservations.lookup key = some r) :
    ∃ r', (program.step w a).store.reservations.lookup key = some r' ∧ StatusMoves r.status r'.status := by
  rcases store_step w a with ⟨-, hstore⟩ | ⟨t, input, task, -, -, hstore⟩
  · rw [hstore]
    exact ⟨r, h, .stays _⟩
  · rw [hstore]
    obtain ⟨r', hr', hm⟩ := (turn_effect w.store task input).evolves.reservations key r h
    exact ⟨r', hr', Moves.statusMoves hm⟩

/-! ## Repeated finalizations -/

theorem finalized_ne_threw (f : Finalization) (r : Reservation) (refusal : Refusal) : finalized f r ≠ .threw refusal := by
  cases f <;> exact fun h => nomatch h

/-- What a finalization of a reservation that is final does. -/
theorem repeatsAnswered (w : System) : RepeatsAnswered w := by
  intro t task f stored input _ hf hclaim hfinal
  cases task with
  | readReservation f' =>
    cases hf
    refine ⟨rfl, ?_⟩
    simp only [turn, readReservation, hclaim, hfinal, if_true, Finalization.repeats, Bool.and_eq_true, beq_iff_eq]
  | finalize f' reservation =>
    cases hf
    rcases finalizeWorkflowReservation_cases w.store f reservation with ⟨refusal, hconflict, h⟩ |
      ⟨scopes, stored', -, -, hstored', hstatus, -⟩
    · simp only [turn, h]
      refine ⟨trivial, refusal, ?_, rfl⟩
      rcases hconflict with ⟨hreservation, -⟩ | ⟨key, -, hscope, -⟩
      · exact Or.inl hreservation
      · exact Or.inr ⟨key.id, hscope⟩
    · rw [(workflowReservationFromClaim_ok hclaim).1] at hstored'
      cases hstored'
      rw [hstatus, requiredStatus_not_final] at hfinal
      cases hfinal
  | _ => cases hf

/-! ## Debits -/

/-- What is kept: the debits of a reservation are its bookings, they are on scopes that exist, and a scope has spent what was
debited from it. -/
structure Booked (store : Store) (debits : List Debit) : Prop where
  bookings : ∀ key, debitsOf key debits = ((store.reservations.lookup key).map (bookings key)).getD []
  scopes : ∀ d ∈ debits, ∃ scope, store.scopes.lookup d.scope = some scope
  spent : ∀ key scope, store.scopes.lookup key = some scope → scope.spentUsd = debitedUsd key debits

theorem bookings_of_open {key : ReservationKey} {r : Reservation} (h : r.status.isFinal = false) : bookings key r = [] := by
  unfold bookings
  rw [h]
  rfl

/-- Without a finalization, no reservation becomes final. -/
theorem bookings_kept {store' : Store} {input : Input} {task : Task} (he : Effect store input task store')
    (hne : ∀ f reservation, task ≠ .finalize f reservation) (key : ReservationKey) :
    ((store'.reservations.lookup key).map (bookings key)).getD [] =
      ((store.reservations.lookup key).map (bookings key)).getD [] := by
  cases he with
  | @reserved run _ _ _ _ reservation _ _ hres _ _ hnew =>
    rw [lookup_insert_eq]
    split
    · rename_i hid
      rw [hid, AList.lookup_eq_none.2 hnew, hres]
      exact bookings_of_open rfl
    · rfl
  | started hstored hstatus =>
    rw [lookup_insert_eq]
    split
    · rename_i hid
      rw [hid, hstored]
      exact (bookings_of_open rfl).trans (bookings_of_open (by rw [hstatus]; rfl)).symm
    · rfl
  | finalized _ _ _ _ => exact absurd rfl (hne _ _)
  | logged => rw [writeUsageLog_reservations]
  | _ => rfl

/-- A turn that finalizes nothing debits nothing. -/
theorem booked_kept {store' : Store} {input : Input} {task : Task} {debits : List Debit} (h : Booked store debits)
    (he : Effect store input task store') (hne : ∀ f reservation, task ≠ .finalize f reservation) : Booked store' debits := by
  refine ⟨?_, ?_, ?_⟩
  · intro key
    rw [bookings_kept he hne key]
    exact h.bookings key
  · intro d hd
    obtain ⟨scope, hscope⟩ := h.scopes d hd
    obtain ⟨scope', hscope', -⟩ := he.evolves.scopes _ _ hscope
    exact ⟨scope', hscope'⟩
  · intro key scope' hscope'
    cases hold : store.scopes.lookup key with
    | some scope =>
      rcases he.spent_cases hold hscope' with hspent | ⟨f, reservation, -, htask, -⟩
      · rw [hspent]
        exact h.spent key scope hold
      · exact absurd htask (hne f reservation)
    | none =>
      -- a scope that is new has spent nothing, and nothing was debited from it
      have hzero : debitedUsd key debits = 0 := by
        unfold debitedUsd
        rw [List.filter_eq_nil_iff.2]
        · rfl
        · intro d hd hkey
          obtain ⟨scope, hscope⟩ := h.scopes d hd
          rw [of_decide_eq_true hkey, hold] at hscope
          cases hscope
      rcases he.scope_cases hscope' with ⟨scope, hscope, -⟩ | ⟨-, hspent, -⟩
      · rw [hold] at hscope
        cases hscope
      · rw [hspent, hzero]

/-- The debits of one finalization on one scope. -/
theorem debitedUsd_finalization {key : ScopeKey} {keys : List ScopeKey} (hn : keys.Nodup) (id : ReservationKey) (amountUsd : ℚ) :
    debitedUsd key (keys.map fun scope => ⟨id, scope, amountUsd⟩) = if key ∈ keys then amountUsd else 0 := by
  induction keys with
  | nil => rfl
  | cons k keys ih =>
    obtain ⟨hk, hn⟩ := List.nodup_cons.1 hn
    have ih := ih hn
    unfold debitedUsd at ih ⊢
    rw [List.map_cons, List.filter_cons]
    by_cases hid : k = key
    · subst hid
      rw [if_neg hk] at ih
      simp [ih]
    · simp only [hid, decide_false, Bool.false_eq_true, if_false, ih, List.mem_cons, Ne.symm hid, false_or]

theorem debitedUsd_append (key : ScopeKey) (debits debits' : List Debit) :
    debitedUsd key (debits ++ debits') = debitedUsd key debits + debitedUsd key debits' := by
  simp [debitedUsd]

/-- A transaction that finalizes debits every scope of the reservation once, with the spend it stores. -/
theorem booked_finalized {debits : List Debit} {f : Finalization} {reservation stored : Reservation}
    {scopes : Dict ScopeKey Scope} (h : Booked store debits) (ha : Assured store (.finalize f reservation))
    (hholds : ∀ key ∈ scopeKeys f.claim.run reservation.scopeIds,
      ∃ scope, store.scopes.lookup key = some scope ∧ holds reservation.callLimitUsd scope = true)
    (hscopes : ∀ key, scopes.lookup key = if key ∈ scopeKeys f.claim.run reservation.scopeIds then
      (store.scopes.lookup key).map (Scope.settle reservation.callLimitUsd f.debit) else store.scopes.lookup key)
    (hstored : store.reservations.lookup f.claim.key = some stored) (hstatus : stored.status = f.requiredStatus) :
    Booked
      { store with
        scopes
        reservations := store.reservations.insert f.claim.key { stored with status := f.outcome, spendUsd := some f.debit } }
      (debits ++ (scopeKeys f.claim.run reservation.scopeIds).map fun scope => ⟨f.claim.key, scope, f.debit⟩) := by
  obtain ⟨⟨stored', hstored', hids, -⟩, -⟩ := ha
  rw [hstored] at hstored'
  cases hstored'
  have hscope : ∀ {key scope}, store.scopes.lookup key = some scope → ∃ scope', scopes.lookup key = some scope' := by
    intro key scope hlookup
    rw [hscopes, hlookup]
    split
    · exact ⟨_, rfl⟩
    · exact ⟨scope, rfl⟩
  refine ⟨?_, ?_, ?_⟩
  · intro key
    have hold := h.bookings key
    unfold debitsOf at hold ⊢
    rw [List.filter_append, hold, lookup_insert_eq]
    by_cases hid : key = f.claim.key
    · subst hid
      have hopen : stored.status.isFinal = false := by
        rw [hstatus]
        exact requiredStatus_not_final f
      have hfinal : f.outcome.isFinal = true := by cases f <;> rfl
      rw [hstored, if_pos rfl]
      simp only [Option.map_some, Option.getD_some, bookings_of_open hopen, List.nil_append]
      rw [List.filter_eq_self.2]
      · unfold bookings
        simp only [hfinal, if_true, Option.getD_some]
        rw [hids]
        rfl
      · intro d hd
        obtain ⟨scope, -, rfl⟩ := List.mem_map.1 hd
        exact decide_eq_true rfl
    · rw [if_neg hid, List.filter_eq_nil_iff.2, List.append_nil]
      intro d hd
      obtain ⟨scope, -, rfl⟩ := List.mem_map.1 hd
      exact fun hkey => hid (of_decide_eq_true hkey).symm
  · intro d hd
    rcases List.mem_append.1 hd with hd | hd
    · obtain ⟨scope, hlookup⟩ := h.scopes d hd
      exact hscope hlookup
    · obtain ⟨key, hkey, rfl⟩ := List.mem_map.1 hd
      obtain ⟨scope, hlookup, -⟩ := hholds key hkey
      exact hscope hlookup
  · intro key scope' hscope'
    rw [debitedUsd_append, debitedUsd_finalization (scopeKeys_nodup reservation.scopeIds_nodup)]
    simp only [hscopes] at hscope'
    split at hscope'
    · rename_i hmem
      obtain ⟨scope, hlookup, rfl⟩ := Option.map_eq_some_iff.1 hscope'
      rw [if_pos hmem, ← h.spent key scope hlookup]
      rfl
    · rename_i hother
      rw [if_neg hother, add_zero]
      exact h.spent key scope' hscope'

/-- Every step keeps the debits booked. -/
theorem booked_step {w : System} {debits : List Debit} (h : Booked w.store debits) (hs : Sound w) (a : Step) :
    Booked (program.step w a).store (debits ++ debited w a) := by
  rcases store_step w a with ⟨hno, hstore⟩ | ⟨t, input, task, rfl, ht, hstore⟩
  · have hnone : debited w a = [] := by
      cases a with
      | turn t input => simp only [debited, hno t input rfl]
      | _ => rfl
    rw [hstore, hnone, List.append_nil]
    exact h
  · rw [hstore]
    simp only [debited, ht]
    cases task with
    | finalize f reservation =>
      rcases finalizeWorkflowReservation_cases w.store f reservation with ⟨refusal, -, hturn⟩ |
        ⟨scopes, stored, hholds, hscopes, hstored, hstatus, hturn⟩
      · simp only [turn, hturn, List.append_nil]
        exact h
      · have hbooked := booked_finalized h (hs.2 t _ ht) hholds hscopes hstored hstatus
        simp only [turn, hturn]
        split
        · rename_i refusal hthrew
          exact absurd hthrew (finalized_ne_threw f _ refusal)
        · exact hbooked
    | _ =>
      rw [List.append_nil]
      exact booked_kept h (turn_effect w.store _ input) (by rintro _ _ ⟨⟩)

/-! ## Usage logs -/

/-- A turn keeps the logs settled. -/
theorem logsSettled_turn (h : LogsSettled store) {task : Task} (ha : Assured store task) (input : Input) :
    LogsSettled (turn store task input).1 := by
  have he := turn_effect store task input
  have hold : ∀ log ∈ store.usageLogs, SettledWith (turn store task input).1 log.key log.spendUsd :=
    fun log hlog => (h.1 log hlog).evolves he.evolves
  have hkept : (turn store task input).1.usageLogs = store.usageLogs → LogsSettled (turn store task input).1 := by
    intro hlogs
    rw [LogsSettled, hlogs]
    exact ⟨hold, h.2⟩
  generalize hstore : (turn store task input).1 = store' at he hold hkept ⊢
  cases he with
  | @logged claim verifiedSpendUsd success reservation =>
    unfold writeUsageLog at hold hkept ⊢
    split
    · exact h
    · rename_i hnone
      rw [if_neg hnone] at hold
      refine ⟨?_, ?_⟩
      · intro log hlog
        rcases List.mem_append.1 hlog with hlog | hlog
        · exact hold log hlog
        · obtain rfl := List.mem_singleton.1 hlog
          exact ha
      · rw [List.map_append, List.map_singleton]
        refine List.nodup_append.2 ⟨h.2, List.nodup_singleton _, ?_⟩
        intro key hkey key' hkey'
        obtain rfl := List.mem_singleton.1 hkey'
        obtain ⟨log, hlog, rfl⟩ := List.mem_map.1 hkey
        -- a log under this key would have been found by the upsert
        intro hid
        obtain ⟨hrun, hres⟩ := ReservationKey.mk.inj hid
        refine hnone (List.any_eq_true.2 ⟨log, hlog, ?_⟩)
        simp [UsageLog.isOf, hrun, hres]
  | _ => exact hkept rfl

theorem logsSettled_step {w : System} (h : LogsSettled w.store) (hs : Sound w) (a : Step) :
    LogsSettled (program.step w a).store := by
  rcases store_step w a with ⟨-, hstore⟩ | ⟨t, input, task, -, ht, hstore⟩
  · rw [hstore]
    exact h
  · rw [hstore]
    exact logsSettled_turn h (hs.2 t task ht) input

theorem booked_begun : Booked begun.store [] where
  bookings := fun _ => rfl
  scopes := fun _ h => nomatch h
  spent := fun _ _ h => nomatch h

theorem logsSettled_begun : LogsSettled begun.store := ⟨fun _ h => (nomatch h), List.nodup_nil⟩

end FinalizeAux

open FinalizeAux

/-- A reservation is finalized once, and a finalization that comes after it is answered with the booking or refused, in every state
of every run. -/
theorem finalized_once (steps : List Step) :
    Throughout watch (fun p => FinalizedOnce p ∧ RepeatsAnswered p.1) (begun, []) steps := by
  have hinv : Throughout watch (fun p => Sound p.1 ∧ Booked p.1.store p.2 ∧ LogsSettled p.1.store) (begun, []) steps :=
    throughout_of_invariant
      (fun p a ⟨hs, hb, hl⟩ => ⟨sound_step p.1 a hs, booked_step hb hs a, logsSettled_step hl hs a⟩)
      ⟨sound_begun, booked_begun, logsSettled_begun⟩ steps
  refine hinv.mono ?_
  rintro ⟨w, debits⟩ ⟨hs, hb, hl⟩
  refine ⟨⟨fun a => moves_step w a, ?_, hb.spent, hl⟩, repeatsAnswered w⟩
  intro key r hr
  have hbooked := hb.bookings key
  rw [hr] at hbooked
  exact hbooked

/-- Two finalizations of one call with one spend, the second of which has read the reservation before the first has booked it. -/
def overlapSettlements : List Step :=
  startOne ++ [.begin 3 (.finalize (.settle exampleClaim (1 / 4) true)), .begin 4 (.finalize (.settle exampleClaim (1 / 4) true))] ++
    turns 3 1 ++ turns 4 1 ++ turns 3 1

/-- The second one asks for what the reservation has become, and is refused. -/
theorem overlapping_repeat_refused :
    ¬Throughout watch (fun p => FinalizedOnce p ∧ RepeatsSucceed p.1) (begun, []) overlapSettlements := by
  intro h
  have hrepeat := h.last.2
  have hthread : ((Transition.exec watch (begun, []) overlapSettlements).1.threads.lookup 4).map (fun task =>
      (task.finalizes, (turn (Transition.exec watch (begun, []) overlapSettlements).1.store task (exampleInput 0 0)).2.conflictOn)) =
      some (some (.settle exampleClaim (1 / 4) true), some 2) := by decide +kernel
  have hstored : (workflowReservationFromClaim (Transition.exec watch (begun, []) overlapSettlements).1.store
      exampleClaim).toOption.map (Finalization.settle exampleClaim (1 / 4) true).repeats = some true := by decide +kernel
  obtain ⟨task, htask, hpair⟩ := Option.map_eq_some_iff.1 hthread
  obtain ⟨hf, hconflict⟩ := Prod.mk.inj hpair
  obtain ⟨stored, hclaim, hsame⟩ := Option.map_eq_some_iff.1 hstored
  exact hrepeat 4 task _ stored (exampleInput 0 0) _ htask hf (Outcome.ok_of_toOption hclaim) hsame (eq_of_conflictOn hconflict)

end Workflow

end PromptRail
