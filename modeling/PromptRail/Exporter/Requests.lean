import PromptRail.Exporter

/-!
# Requests of the exporter

A request is recorded under the number of its call. No two calls in progress have one number, so that a batch is sent no more often
than its call makes attempts.
-/

namespace PromptRail.Exporter

open Transition

variable {Event : Type} {config : Config Event}

namespace RequestsAux

/-- A call in progress: no batch was sent more often than its call has made attempts. -/
structure Counted (config : Config Event) (s : State Event) (call : Sending Event) : Prop where
  issued : call.number < s.handed.length
  count : s.sends.count call.number ≤ call.attempts
  attempts : call.attempts ≤ config.maxRetries

structure SendInv (config : Config Event) (s : State Event) : Prop where
  count : ∀ number, s.sends.count number ≤ config.maxRetries
  issued : ∀ number ∈ s.sends, number < s.handed.length
  worker : ∀ call last, s.worker = .sending call last → Counted config s call
  drain : ∀ call last, s.shutdown = .sending call last → Counted config s call
  apart : ∀ call call' last last', s.worker = .sending call last → s.shutdown = .sending call' last' → call.number ≠ call'.number

/-- What a turn of a call does to the record of requests. -/
theorem turn_cases (config : Config Event) (expired : Bool) (reply : Reply) (call : Sending Event) :
    ((call.turn config expired reply).sent = false ∧ (call.turn config expired reply).next = none) ∨
      (call.attempts < config.maxRetries ∧ (call.turn config expired reply).sent = true ∧
        ∀ call', (call.turn config expired reply).next = some call' →
          call'.number = call.number ∧ call'.attempts = call.attempts + 1) := by
  unfold Sending.turn
  split
  · exact Or.inl ⟨rfl, rfl⟩
  split
  · exact Or.inl ⟨rfl, rfl⟩
  rename_i hattempts
  split
  · exact Or.inl ⟨rfl, rfl⟩
  refine Or.inr ⟨Nat.lt_of_not_le hattempts, ?_⟩
  cases reply with
  | delivered => exact ⟨rfl, fun call' hnext => (nomatch hnext)⟩
  | refused => exact ⟨rfl, fun call' hnext => (nomatch hnext)⟩
  | failed late =>
    dsimp only
    split
    · exact ⟨rfl, fun call' hnext => (nomatch hnext)⟩
    · refine ⟨rfl, fun call' hnext => ?_⟩
      cases hnext
      exact ⟨rfl, rfl⟩

/-- Where neither calls nor their record change, the calls stay counted. -/
theorem sendInv_of_same {s s' : State Event} (h : SendInv config s) (hhanded : s'.handed = s.handed) (hsends : s'.sends = s.sends)
    (hworker : ∀ call last, s'.worker = .sending call last → s.worker = .sending call last)
    (hshutdown : ∀ call last, s'.shutdown = .sending call last → s.shutdown = .sending call last) : SendInv config s' where
  count number := by
    rw [hsends]
    exact h.count number
  issued number hnumber := by
    rw [hsends] at hnumber
    rw [hhanded]
    exact h.issued number hnumber
  worker call last hcall := by
    have hcounted := h.worker call last (hworker call last hcall)
    exact ⟨by rw [hhanded]; exact hcounted.issued, by rw [hsends]; exact hcounted.count, hcounted.attempts⟩
  drain call last hcall := by
    have hcounted := h.drain call last (hshutdown call last hcall)
    exact ⟨by rw [hhanded]; exact hcounted.issued, by rw [hsends]; exact hcounted.count, hcounted.attempts⟩
  apart call call' last last' hcall hcall' := h.apart call call' last last' (hworker _ _ hcall) (hshutdown _ _ hcall')

theorem sendInv_workerHands {s : State Event} (h : SendInv config s) (batch : List Event) (last : Bool) :
    SendInv config (s.workerHands batch last) := by
  have hlength : (s.handed ++ [batch]).length = s.handed.length + 1 := List.length_append
  have hfresh : s.sends.count s.handed.length = 0 :=
    List.count_eq_zero.2 fun hmem => absurd (h.issued _ hmem) (Nat.lt_irrefl _)
  constructor
  · exact h.count
  · exact fun number hnumber => hlength ▸ Nat.lt_succ_of_lt (h.issued number hnumber)
  · intro call last' hcall
    cases hcall
    exact ⟨hlength ▸ Nat.lt_succ_self _, Nat.le_of_eq hfresh, Nat.zero_le _⟩
  · intro call last' hcall
    have hcounted := h.drain call last' hcall
    exact ⟨hlength ▸ Nat.lt_succ_of_lt hcounted.issued, hcounted.count, hcounted.attempts⟩
  · intro call call' _ last' hcall hcall'
    cases hcall
    exact (Nat.ne_of_lt (h.drain call' last' hcall').issued).symm

theorem sendInv_drainHands {s : State Event} (h : SendInv config s) (batch : List Event) (last : Bool) :
    SendInv config (s.drainHands batch last) := by
  have hlength : (s.handed ++ [batch]).length = s.handed.length + 1 := List.length_append
  have hfresh : s.sends.count s.handed.length = 0 :=
    List.count_eq_zero.2 fun hmem => absurd (h.issued _ hmem) (Nat.lt_irrefl _)
  constructor
  · exact h.count
  · exact fun number hnumber => hlength ▸ Nat.lt_succ_of_lt (h.issued number hnumber)
  · intro call last' hcall
    have hcounted := h.worker call last' hcall
    exact ⟨hlength ▸ Nat.lt_succ_of_lt hcounted.issued, hcounted.count, hcounted.attempts⟩
  · intro call last' hcall
    cases hcall
    exact ⟨hlength ▸ Nat.lt_succ_self _, Nat.le_of_eq hfresh, Nat.zero_le _⟩
  · intro call call' last' _ hcall hcall'
    cases hcall'
    exact Nat.ne_of_lt (h.worker call last' hcall).issued

/-- The record of requests after a turn of a call that is counted. -/
theorem count_turned {s : State Event} (h : SendInv config s) {call : Sending Event} (hcall : Counted config s call) (reply : Reply) :
    let s' := s.turned call (call.turn config s.expired reply)
    (∀ number, s'.sends.count number ≤ config.maxRetries) ∧ (∀ number ∈ s'.sends, number < s'.handed.length) ∧
      (∀ number, number ≠ call.number → s'.sends.count number = s.sends.count number) ∧
      ∀ call', (call.turn config s.expired reply).next = some call' → call'.number = call.number ∧ Counted config s' call' := by
  intro s'
  rcases turn_cases config s.expired reply call with ⟨hsent, hnext⟩ | ⟨hattempts, hsent, hnext⟩
  · have hsends : s'.sends = s.sends := if_neg (ne_true_of_eq_false hsent)
    rw [hsends, hnext]
    exact ⟨h.count, h.issued, fun _ _ => rfl, fun call' hcall' => (nomatch hcall')⟩
  · have hsends : s'.sends = s.sends ++ [call.number] := if_pos hsent
    have hother : ∀ number, number ≠ call.number → s'.sends.count number = s.sends.count number := by
      intro number hnumber
      rw [hsends, List.count_append, List.count_singleton, if_neg (by simpa using hnumber.symm), Nat.add_zero]
    have hown : s'.sends.count call.number = s.sends.count call.number + 1 := by
      rw [hsends, List.count_append, List.count_singleton_self]
    have hcount := hcall.count
    refine ⟨fun number => ?_, fun number hnumber => ?_, hother, fun call' hcall' => ?_⟩
    · by_cases hnumber : number = call.number
      · rw [hnumber, hown]
        omega
      · rw [hother number hnumber]
        exact h.count number
    · rw [hsends] at hnumber
      rcases List.mem_append.1 hnumber with hnumber | hnumber
      · exact h.issued number hnumber
      · rw [List.mem_singleton.1 hnumber]
        exact hcall.issued
    · obtain ⟨hnumber, hattempts'⟩ := hnext call' hcall'
      refine ⟨hnumber, ⟨?_, ?_, ?_⟩⟩
      · rw [hnumber]
        exact hcall.issued
      · rw [hnumber, hown, hattempts']
        omega
      · rw [hattempts']
        exact hattempts

/-- A call that is under way after a turn is what the turn leaves of it. -/
theorem next_of_workerTurn {s : State Event} {call call' : Sending Event} {last last' : Bool} {reply : Reply}
    (hworker : s.worker = .sending call last) (hcall' : (s.workerTurn config reply).worker = .sending call' last') :
    (call.turn config s.expired reply).next = some call' := by
  simp only [State.workerTurn, hworker] at hcall'
  split at hcall'
  · rename_i hsome
    cases hcall'
    exact hsome
  · split at hcall' <;> cases hcall'

theorem sendInv_workerTurn {s : State Event} (h : SendInv config s) (reply : Reply) : SendInv config (s.workerTurn config reply) := by
  unfold State.workerTurn
  split
  · rename_i call last hworker
    obtain ⟨hcount, hissued, hother, hnext⟩ := count_turned h (h.worker call last hworker) reply
    have hcalls : ∀ call' last', (s.workerTurn config reply).worker = .sending call' last' →
        (call.turn config s.expired reply).next = some call' :=
      fun call' last' => next_of_workerTurn hworker
    simp only [State.workerTurn, hworker] at hcalls
    refine ⟨hcount, hissued, ?_, ?_, ?_⟩
    · intro call' last' hcall'
      have hcounted := (hnext call' (hcalls call' last' hcall')).2
      exact ⟨hcounted.issued, hcounted.count, hcounted.attempts⟩
    · intro call' last' hcall'
      have hcounted := h.drain call' last' hcall'
      exact ⟨hcounted.issued, by rw [hother _ (h.apart _ _ _ _ hworker hcall').symm]; exact hcounted.count, hcounted.attempts⟩
    · intro call' call'' last' last'' hcall' hcall''
      rw [(hnext call' (hcalls call' last' hcall')).1]
      exact h.apart _ _ _ _ hworker hcall''
  · exact h

theorem next_of_drainTurn {s : State Event} {call call' : Sending Event} {last last' : Bool} {reply : Reply}
    (hshutdown : s.shutdown = .sending call last) (hcall' : (s.drainTurn config reply).shutdown = .sending call' last') :
    (call.turn config s.expired reply).next = some call' := by
  simp only [State.drainTurn, hshutdown] at hcall'
  split at hcall'
  · rename_i hsome
    cases hcall'
    exact hsome
  · split at hcall' <;> cases hcall'

theorem sendInv_drainTurn {s : State Event} (h : SendInv config s) (reply : Reply) : SendInv config (s.drainTurn config reply) := by
  unfold State.drainTurn
  split
  · rename_i call last hshutdown
    obtain ⟨hcount, hissued, hother, hnext⟩ := count_turned h (h.drain call last hshutdown) reply
    have hcalls : ∀ call' last', (s.drainTurn config reply).shutdown = .sending call' last' →
        (call.turn config s.expired reply).next = some call' :=
      fun call' last' => next_of_drainTurn hshutdown
    simp only [State.drainTurn, hshutdown] at hcalls
    refine ⟨hcount, hissued, ?_, ?_, ?_⟩
    · intro call' last' hcall'
      have hcounted := h.worker call' last' hcall'
      exact ⟨hcounted.issued, by rw [hother _ (h.apart _ _ _ _ hcall' hshutdown)]; exact hcounted.count, hcounted.attempts⟩
    · intro call' last' hcall'
      have hcounted := (hnext call' (hcalls call' last' hcall')).2
      exact ⟨hcounted.issued, hcounted.count, hcounted.attempts⟩
    · intro call' call'' last' last'' hcall' hcall''
      rw [(hnext call'' (hcalls call'' last'' hcall'')).1]
      exact h.apart _ _ _ _ hcall' hshutdown
  · exact h

/-- The worker comes to a place where it makes no call. -/
theorem sendInv_worker {s : State Event} (h : SendInv config s) {worker : Worker Event}
    (hworker : ∀ call last, worker ≠ .sending call last) (queue : List Event) : SendInv config { s with queue, worker } :=
  sendInv_of_same h rfl rfl (fun call last hcall => absurd hcall (hworker call last)) fun _ _ hcall => hcall

theorem sendInv_shutdown {s : State Event} (h : SendInv config s) {shutdown : Shutdown Event}
    (hshutdown : ∀ call last, shutdown ≠ .sending call last) (queue : List Event) (stopped : Bool) :
    SendInv config { s with queue, stopped, shutdown } :=
  sendInv_of_same h rfl rfl (fun _ _ hcall => hcall) fun call last hcall => absurd hcall (hshutdown call last)

theorem sendInv_queue {s : State Event} (h : SendInv config s) (queue : List Event) : SendInv config { s with queue } :=
  sendInv_of_same h rfl rfl (fun _ _ hcall => hcall) fun _ _ hcall => hcall

theorem sendInv_step (s : State Event) (a : Action Event) (h : SendInv config s) : SendInv config (step config s a) := by
  cases a with
  | enqueue event =>
    rw [step, State.enqueue]
    split <;> exact sendInv_of_same h rfl rfl (fun _ _ hcall => hcall) fun _ _ hcall => hcall
  | start =>
    rw [step, State.start]
    split
    · exact sendInv_worker h (by nofun) s.queue
    · exact h
  | stop => exact sendInv_of_same h rfl rfl (fun _ _ hcall => hcall) fun _ _ hcall => hcall
  | check =>
    rw [step, State.check]
    split
    · split
      · split
        · exact sendInv_worker h (by nofun) s.queue
        · exact sendInv_workerHands h _ true
      · exact sendInv_worker h (by nofun) s.queue
    · exact h
  | get =>
    rw [step, State.get]
    split
    · split
      · exact sendInv_workerHands (sendInv_queue h _) _ false
      · exact sendInv_worker h (by nofun) _
    · exact h
  | timeout =>
    rw [step, State.timeout]
    split
    · exact sendInv_worker h (by nofun) s.queue
    · exact sendInv_workerHands h _ false
    · exact h
  | workerTurn reply => exact sendInv_workerTurn h reply
  | shutdown =>
    rw [step, State.beginShutdown]
    split
    · exact sendInv_shutdown h (by nofun) s.queue true
    · exact h
  | join =>
    rw [step, State.join]
    split
    · exact sendInv_shutdown h (by nofun) s.queue s.stopped
    · split
      · exact sendInv_shutdown h (by nofun) s.queue s.stopped
      · exact h
    · exact h
  | drain =>
    rw [step, State.drain]
    split
    · split
      · exact sendInv_shutdown h (by nofun) s.queue s.stopped
      · split
        · split
          · exact sendInv_drainHands (sendInv_queue h _) _ false
          · exact sendInv_shutdown h (by nofun) _ s.stopped
        · exact sendInv_shutdown h (by nofun) s.queue s.stopped
        · exact sendInv_drainHands h _ true
    · exact h
  | drainTurn reply => exact sendInv_drainTurn h reply
  | expire =>
    rw [step, State.expire]
    split
    · exact sendInv_of_same h rfl rfl (fun _ _ hcall => hcall) fun _ _ hcall => hcall
    · exact h

theorem sendInv_exec (run : List (Action Event)) : SendInv config (exec (step config) {} run) := by
  -- nothing is sent and no call is made before the first action
  refine exec_invariant sendInv_step ⟨fun number => Nat.zero_le _, ?_, ?_, ?_, ?_⟩ run
  · exact fun number hnumber => (nomatch hnumber)
  · exact fun call last hcall => (nomatch hcall)
  · exact fun call last hcall => (nomatch hcall)
  · exact fun call call' last last' hcall => (nomatch hcall)

end RequestsAux

end PromptRail.Exporter
