import PromptRail.Exporter

/-!
# Batches of the exporter

The events that were accepted are those handed over, those a thread holds, and those in the queue, in this order. While the worker is
alive it alone takes events, and once the other thread drains the queue the worker holds none and takes none.
-/

namespace PromptRail.Exporter

open Transition

variable {Event : Type} (config : Config Event)

namespace BatchesAux

theorem batchSize_pos : 0 < config.batchSize := by
  unfold Config.batchSize
  omega

/-- The worker holds no events, and is not about to take any. -/
def Worker.Quiet : Worker Event → Prop
  | .absent => True
  | .loop batch => batch = []
  | _ => False

/-- The thread that shuts the exporter down has waited for the worker. -/
def Shutdown.Waited : Shutdown Event → Prop
  | .idle | .joining | .abandoned => False
  | _ => True

/-- A batch of a size that is handed over. -/
def Sized (batch : List Event) : Prop := 1 ≤ batch.length ∧ batch.length ≤ config.batchSize

theorem sized_of_room {batch : List Event} (h : batch.length < config.batchSize) (item : Event) : Sized config (batch ++ [item]) := by
  rw [Sized, List.length_append]
  exact ⟨Nat.le_add_left _ _, h⟩

structure Inv (s : State Event) : Prop where
  kept : s.expired = false → s.handed.flatten ++ s.worker.batch ++ s.shutdown.batch ++ s.queue = s.accepted
  stopped : s.shutdown.begun = true → s.stopped = true
  quiet : Shutdown.Waited s.shutdown → Worker.Quiet s.worker
  sized : ∀ batch ∈ s.handed, Sized config batch
  room : s.worker.batch.length < config.batchSize ∧ s.shutdown.batch.length < config.batchSize

theorem begun_of_waited {p : Shutdown Event} (h : Shutdown.Waited p) : p.begun = true := by
  cases p <;> first | rfl | cases h

theorem batch_of_quiet {w : Worker Event} (h : Worker.Quiet w) : w.batch = [] := by
  cases w <;> first | rfl | exact h | cases h

theorem batch_of_not_waited {p : Shutdown Event} (h : ¬Shutdown.Waited p) : p.batch = [] := by
  cases p <;> first | rfl | exact absurd trivial h

theorem sized_append {handed : List (List Event)} {batch : List Event} (h : ∀ b ∈ handed, Sized config b)
    (hbatch : Sized config batch) : ∀ b ∈ handed ++ [batch], Sized config b := by
  intro b hb
  rcases List.mem_append.1 hb with hb | hb
  · exact h b hb
  · rw [List.mem_singleton.1 hb]
    exact hbatch

variable {config}

/-- The worker takes an event only before the other thread has waited for it. -/
theorem Inv.not_waited {s : State Event} (h : Inv config s) (hworker : ¬Worker.Quiet s.worker) : ¬Shutdown.Waited s.shutdown :=
  fun hwaited => hworker (h.quiet hwaited)

theorem inv_enqueue {s : State Event} (h : Inv config s) (event : Event) : Inv config (s.enqueue config event) := by
  unfold State.enqueue
  split
  · refine { h with kept := fun hexpired => ?_ }
    rw [← h.kept hexpired, List.append_assoc _ s.queue]
  · exact { h with }

theorem inv_start {s : State Event} (h : Inv config s) : Inv config s.start := by
  unfold State.start
  split
  · rename_i hworker
    have hkept := h.kept
    rw [hworker] at hkept
    exact { h with kept := hkept, quiet := fun _ => rfl, room := ⟨batchSize_pos config, h.room.2⟩ }
  · exact h

/-- The worker hands over what it holds, or that and the first event of the queue. -/
theorem inv_workerHands {s s' : State Event} (h : Inv config s) {batch : List Event} (last : Bool)
    (hwaited : ¬Shutdown.Waited s.shutdown) (hbatch : batch ++ s'.queue = s.worker.batch ++ s.queue) (hsized : Sized config batch)
    (hsame : s' = { s with queue := s'.queue }) : Inv config (s'.workerHands batch last) := by
  rw [hsame]
  refine { h with kept := fun hexpired => ?_, quiet := ?_, sized := sized_append config h.sized hsized, room := ?_ }
  · have hkept := h.kept hexpired
    rw [batch_of_not_waited hwaited, List.append_nil, List.append_assoc, ← hbatch] at hkept
    show (s.handed ++ [batch]).flatten ++ [] ++ s.shutdown.batch ++ s'.queue = s.accepted
    rw [← hkept, batch_of_not_waited hwaited]
    simp
  · exact fun hlater => absurd hlater hwaited
  · exact ⟨batchSize_pos config, h.room.2⟩

theorem inv_check {s : State Event} (h : Inv config s) : Inv config s.check := by
  unfold State.check
  split
  · rename_i batch hworker
    split
    · split
      · have hkept := h.kept
        rw [hworker] at hkept
        exact { h with kept := hkept, quiet := fun _ => trivial, room := ⟨batchSize_pos config, h.room.2⟩ }
      · rename_i hbatch
        have hroom := h.room.1
        rw [hworker] at hroom
        refine inv_workerHands h true (h.not_waited ?_) ?_ ⟨List.length_pos_iff.2 hbatch, Nat.le_of_lt hroom⟩ rfl
        · rw [hworker]
          exact hbatch
        · rw [hworker]
          rfl
    · rename_i hstopped
      have hkept := h.kept
      have hroom := h.room
      rw [hworker] at hkept hroom
      exact { h with
        kept := hkept
        quiet := fun hwaited => absurd (h.stopped (begun_of_waited hwaited)) hstopped
        room := hroom }
  · exact h

theorem inv_get {s : State Event} (h : Inv config s) : Inv config (s.get config) := by
  unfold State.get
  split
  · rename_i batch item queue hworker hqueue
    have hwaited : ¬Shutdown.Waited s.shutdown := h.not_waited (by rw [hworker]; exact id)
    have hroom := h.room.1
    rw [hworker] at hroom
    split
    · refine inv_workerHands h false hwaited ?_ (sized_of_room config hroom item) rfl
      rw [hworker, hqueue]
      simp [Worker.batch]
    · rename_i hless
      refine { h with
        kept := fun hexpired => ?_
        quiet := fun hlater => absurd hlater hwaited
        room := ⟨Nat.lt_of_not_le hless, h.room.2⟩ }
      rw [← h.kept hexpired, hworker, hqueue, batch_of_not_waited hwaited]
      simp [Worker.batch]
  · exact h

theorem inv_timeout {s : State Event} (h : Inv config s) : Inv config s.timeout := by
  unfold State.timeout
  split
  · rename_i hworker hqueue
    have hkept := h.kept
    rw [hworker] at hkept
    exact { h with kept := hkept, quiet := fun _ => rfl, room := ⟨batchSize_pos config, h.room.2⟩ }
  · rename_i batch hbatch hworker hqueue
    have hroom := h.room.1
    rw [hworker] at hroom
    refine inv_workerHands h false (h.not_waited (by rw [hworker]; exact id)) (by rw [hworker]; rfl) ⟨?_, Nat.le_of_lt hroom⟩ rfl
    exact List.length_pos_iff.2 hbatch
  · exact h

theorem inv_turned {s : State Event} (h : Inv config s) (call : Sending Event) (turn : Turn Event) :
    Inv config (s.turned call turn) where
  kept hexpired := h.kept (Bool.or_eq_false_iff.1 hexpired).1
  stopped := h.stopped
  quiet := h.quiet
  sized := h.sized
  room := h.room

/-- A worker without events stands in the place of one. -/
theorem inv_worker {s : State Event} (h : Inv config s) {worker : Worker Event} (hbatch : s.worker.batch = [])
    (hworker : worker.batch = []) (hwaited : ¬Shutdown.Waited s.shutdown) : Inv config { s with worker } := by
  refine { h with kept := fun hexpired => ?_, quiet := fun hlater => absurd hlater hwaited, room := ⟨?_, h.room.2⟩ }
  · rw [← h.kept hexpired, hbatch, hworker]
  · rw [hworker]
    exact batchSize_pos config

theorem inv_workerTurn {s : State Event} (h : Inv config s) (reply : Reply) : Inv config (s.workerTurn config reply) := by
  unfold State.workerTurn
  split
  · rename_i call last hworker
    refine inv_worker (inv_turned h call (call.turn config s.expired reply)) ?_ ?_ (h.not_waited (by rw [hworker]; exact id))
    · exact (congrArg Worker.batch hworker).trans rfl
    · split
      · rfl
      · split <;> rfl
  · exact h

theorem inv_beginShutdown {s : State Event} (h : Inv config s) : Inv config s.beginShutdown := by
  unfold State.beginShutdown
  split
  · rename_i hshutdown
    have hkept := h.kept
    rw [hshutdown] at hkept
    exact { h with
      kept := hkept
      stopped := fun _ => rfl
      quiet := fun hwaited => hwaited.elim
      room := ⟨h.room.1, batchSize_pos config⟩ }
  · exact h

/-- The thread that shuts down comes to a place where it holds no events, from one where it held none. -/
theorem inv_shutdown {s : State Event} (h : Inv config s) {shutdown : Shutdown Event} (hbatch : s.shutdown.batch = [])
    (hshutdown : shutdown.batch = []) (hbegun : s.shutdown.begun = true) (hquiet : Shutdown.Waited shutdown → Worker.Quiet s.worker) :
    Inv config { s with shutdown } := by
  refine { h with kept := fun hexpired => ?_, stopped := fun _ => h.stopped hbegun, quiet := hquiet, room := ⟨h.room.1, ?_⟩ }
  · rw [← h.kept hexpired, hbatch, hshutdown]
  · rw [hshutdown]
    exact batchSize_pos config

theorem inv_join {s : State Event} (h : Inv config s) : Inv config s.join := by
  unfold State.join
  split
  · rename_i hshutdown hworker
    refine inv_shutdown h ?_ rfl ?_ fun _ => ?_
    · rw [hshutdown]
      rfl
    · rw [hshutdown]
      rfl
    · rw [hworker]
      trivial
  · rename_i hshutdown _
    split
    · refine inv_shutdown h ?_ rfl ?_ fun hwaited => hwaited.elim
      · rw [hshutdown]
        rfl
      · rw [hshutdown]
        rfl
    · exact h
  · exact h

/-- The thread that shuts down hands over what it holds, or that and the first event of the queue. -/
theorem inv_drainHands {s s' : State Event} (h : Inv config s) {batch : List Event} (last : Bool)
    (hwaited : Shutdown.Waited s.shutdown) (hbatch : batch ++ s'.queue = s.shutdown.batch ++ s.queue) (hsized : Sized config batch)
    (hsame : s' = { s with queue := s'.queue }) : Inv config (s'.drainHands batch last) := by
  rw [hsame]
  have hquiet := h.quiet hwaited
  refine { h with
    kept := fun hexpired => ?_
    stopped := fun _ => h.stopped (begun_of_waited hwaited)
    quiet := fun _ => hquiet
    sized := sized_append config h.sized hsized
    room := ⟨h.room.1, batchSize_pos config⟩ }
  have hkept := h.kept hexpired
  rw [batch_of_quiet hquiet, List.append_nil, List.append_assoc, ← hbatch] at hkept
  show (s.handed ++ [batch]).flatten ++ s.worker.batch ++ [] ++ s'.queue = s.accepted
  rw [← hkept, batch_of_quiet hquiet]
  simp

theorem inv_drain {s : State Event} (h : Inv config s) : Inv config (s.drain config) := by
  unfold State.drain
  split
  · rename_i batch hshutdown
    have hwaited : Shutdown.Waited s.shutdown := by rw [hshutdown]; trivial
    have hquiet := h.quiet hwaited
    have hroom := h.room.2
    rw [hshutdown] at hroom
    split
    · rename_i hexpired
      exact { h with
        kept := fun hnot => absurd hexpired (ne_true_of_eq_false hnot)
        stopped := fun _ => h.stopped (begun_of_waited hwaited)
        quiet := fun _ => hquiet
        room := ⟨h.room.1, batchSize_pos config⟩ }
    · split
      · rename_i item queue hqueue
        split
        · refine inv_drainHands h false hwaited ?_ (sized_of_room config hroom item) rfl
          rw [hshutdown, hqueue]
          simp [Shutdown.batch]
        · rename_i hless
          refine { h with
            kept := fun hexpired => ?_
            stopped := fun _ => h.stopped (begun_of_waited hwaited)
            quiet := fun _ => hquiet
            room := ⟨h.room.1, Nat.lt_of_not_le hless⟩ }
          rw [← h.kept hexpired, hshutdown, hqueue, batch_of_quiet hquiet]
          simp [Shutdown.batch]
      · refine inv_shutdown h ?_ rfl (begun_of_waited hwaited) fun _ => hquiet
        rw [hshutdown]
        rfl
      · rename_i _ hbatch
        refine inv_drainHands h true hwaited (by rw [hshutdown]; rfl) ⟨?_, Nat.le_of_lt hroom⟩ rfl
        exact List.length_pos_iff.2 hbatch
  · exact h

theorem inv_drainTurn {s : State Event} (h : Inv config s) (reply : Reply) : Inv config (s.drainTurn config reply) := by
  unfold State.drainTurn
  split
  · rename_i call last hshutdown
    have hwaited : Shutdown.Waited s.shutdown := by rw [hshutdown]; trivial
    refine inv_shutdown (inv_turned h call (call.turn config s.expired reply)) ?_ ?_ (begun_of_waited hwaited) fun _ => h.quiet hwaited
    · exact (congrArg Shutdown.batch hshutdown).trans rfl
    · split
      · rfl
      · split <;> rfl
  · exact h

theorem inv_expire {s : State Event} (h : Inv config s) : Inv config s.expire := by
  unfold State.expire
  split
  · exact { h with kept := fun hexpired => (nomatch hexpired) }
  · exact h

theorem inv_step (s : State Event) (a : Action Event) (h : Inv config s) : Inv config (step config s a) := by
  cases a with
  | enqueue event => exact inv_enqueue h event
  | start => exact inv_start h
  | stop => exact { h with stopped := fun _ => rfl }
  | check => exact inv_check h
  | get => exact inv_get h
  | timeout => exact inv_timeout h
  | workerTurn reply => exact inv_workerTurn h reply
  | shutdown => exact inv_beginShutdown h
  | join => exact inv_join h
  | drain => exact inv_drain h
  | drainTurn reply => exact inv_drainTurn h reply
  | expire => exact inv_expire h

theorem inv_initial : Inv config ({} : State Event) where
  kept _ := rfl
  stopped h := (nomatch h)
  quiet _ := trivial
  sized _ h := (nomatch h)
  room := ⟨batchSize_pos config, batchSize_pos config⟩

theorem inv_exec (run : List (Action Event)) : Inv config (exec (step config) {} run) :=
  exec_invariant inv_step inv_initial run

end BatchesAux

end PromptRail.Exporter
