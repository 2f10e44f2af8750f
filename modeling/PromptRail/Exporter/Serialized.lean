import PromptRail.Exporter.Encoded
import PromptRail.Exporter.Requests

/-!
# What serialization drops

A batch that cannot be encoded is counted once, whole, in the first turn of its call, and no request is made for it. With the encoder of the
SDK these are the batches with an event that cannot be printed.
-/

namespace PromptRail.Exporter

open Transition

variable {Event : Type} {config : Config Event}

/-- The number of events in the batches that cannot be encoded. -/
def lost (config : Config Event) (batches : List (List Event)) : Nat :=
  ((batches.filter fun batch => !config.encodes batch).map List.length).sum

/-- The events of a call that are still to be counted as dropped. -/
def Sending.pending (config : Config Event) (call : Sending Event) : Nat := lost config [call.batch]

def Worker.pending (config : Config Event) : Worker Event → Nat
  | .sending call _ => call.pending config
  | _ => 0

def Shutdown.pending (config : Config Event) : Shutdown Event → Nat
  | .sending call _ => call.pending config
  | _ => 0

/-- The events that a thread holds, or hands over. -/
def Worker.events : Worker Event → List Event
  | .sending call _ => call.batch
  | worker => worker.batch

def Shutdown.events : Shutdown Event → List Event
  | .sending call _ => call.batch
  | shutdown => shutdown.batch

namespace SerializedAux

theorem lost_append (batches batches' : List (List Event)) : lost config (batches ++ batches') = lost config batches + lost config batches' := by
  simp [lost]

theorem lost_singleton (batch : List Event) : lost config [batch] = if config.encodes batch then 0 else batch.length := by
  cases h : config.encodes batch <;> simp [lost, h]

/-! ## A turn of a call -/

/-- A turn drops what is pending, and leaves nothing of it; a request is made for a batch that can be encoded. -/
theorem turn_drops (config : Config Event) (expired : Bool) (reply : Reply) (call : Sending Event) :
    (call.turn config expired reply).dropped + ((call.turn config expired reply).next.elim 0 (Sending.pending config)) =
        call.pending config ∧
      ((call.turn config expired reply).sent = true → config.encodes call.batch = true) ∧
      ∀ call', (call.turn config expired reply).next = some call' → call'.number = call.number ∧ call'.batch = call.batch := by
  unfold Sending.pending Sending.turn
  rw [lost_singleton]
  split
  · rename_i hencodes
    simp [hencodes]
  · rename_i hencodes
    simp only [Bool.not_eq_false] at hencodes
    rw [if_pos hencodes]
    repeat' split
    all_goals simp [hencodes, lost_singleton]

/-! ## Invariants -/

/-- Every event has a property. -/
structure Holds (P : Event → Prop) (s : State Event) : Prop where
  queue : ∀ event ∈ s.queue, P event
  worker : ∀ event ∈ s.worker.events, P event
  shutdown : ∀ event ∈ s.shutdown.events, P event
  handed : ∀ batch ∈ s.handed, ∀ event ∈ batch, P event

/-- What cannot be encoded is dropped, or its call is under way; and what is sent can be encoded. -/
structure Dropped (config : Config Event) (s : State Event) : Prop where
  dropped : s.droppedSerialization + s.worker.pending config + s.shutdown.pending config = lost config s.handed
  sent : ∀ number ∈ s.sends, ∃ batch, s.handed[number]? = some batch ∧ config.encodes batch = true
  worker : ∀ call last, s.worker = .sending call last → s.handed[call.number]? = some call.batch
  drain : ∀ call last, s.shutdown = .sending call last → s.handed[call.number]? = some call.batch

variable {P : Event → Prop}

/-! ### Events -/

theorem Holds.workerHands {s : State Event} (h : Holds P s) {batch : List Event} (hbatch : ∀ event ∈ batch, P event) (last : Bool) :
    Holds P (s.workerHands batch last) where
  queue := h.queue
  worker := hbatch
  shutdown := h.shutdown
  handed := by
    intro batch' hmem
    rcases List.mem_append.1 hmem with hmem | hmem
    · exact h.handed batch' hmem
    · exact List.mem_singleton.1 hmem ▸ hbatch

theorem Holds.drainHands {s : State Event} (h : Holds P s) {batch : List Event} (hbatch : ∀ event ∈ batch, P event) (last : Bool) :
    Holds P (s.drainHands batch last) where
  queue := h.queue
  worker := h.worker
  shutdown := hbatch
  handed := by
    intro batch' hmem
    rcases List.mem_append.1 hmem with hmem | hmem
    · exact h.handed batch' hmem
    · exact List.mem_singleton.1 hmem ▸ hbatch

theorem forall_mem_concat {batch : List Event} (h : ∀ event ∈ batch, P event) {item : Event} (hitem : P item) :
    ∀ event ∈ batch ++ [item], P event :=
  List.forall_mem_append.2 ⟨h, List.forall_mem_singleton.2 hitem⟩

theorem holds_workerTurn {s : State Event} (h : Holds P s) (reply : Reply) : Holds P (s.workerTurn config reply) := by
  unfold State.workerTurn
  split
  · rename_i call last hworker
    obtain ⟨-, -, hnext⟩ := turn_drops config s.expired reply call
    have hcall := h.worker
    rw [hworker] at hcall
    refine ⟨h.queue, ?_, h.shutdown, h.handed⟩
    dsimp only
    split
    · rename_i call' hcall'
      show ∀ event ∈ call'.batch, P event
      rw [(hnext call' hcall').2]
      exact hcall
    · split <;> exact List.forall_mem_nil P
  · exact h

theorem holds_drainTurn {s : State Event} (h : Holds P s) (reply : Reply) : Holds P (s.drainTurn config reply) := by
  unfold State.drainTurn
  split
  · rename_i call last hshutdown
    obtain ⟨-, -, hnext⟩ := turn_drops config s.expired reply call
    have hcall := h.shutdown
    rw [hshutdown] at hcall
    refine ⟨h.queue, h.worker, ?_, h.handed⟩
    dsimp only
    split
    · rename_i call' hcall'
      show ∀ event ∈ call'.batch, P event
      rw [(hnext call' hcall').2]
      exact hcall
    · split <;> exact List.forall_mem_nil P
  · exact h

/-- No thread gets an event from anywhere but the queue. -/
theorem holds_step {s : State Event} {a : Action Event} (h : Holds P s) (ha : ∀ event, a = .enqueue event → P event) :
    Holds P (step config s a) := by
  have hworker := h.worker
  have hshutdown := h.shutdown
  cases a with
  | enqueue event =>
    rw [step, State.enqueue]
    split
    · exact ⟨forall_mem_concat h.queue (ha event rfl), h.worker, h.shutdown, h.handed⟩
    · exact ⟨h.queue, h.worker, h.shutdown, h.handed⟩
  | start =>
    rw [step, State.start]
    split
    · exact ⟨h.queue, List.forall_mem_nil P, h.shutdown, h.handed⟩
    · exact h
  | stop => exact ⟨h.queue, h.worker, h.shutdown, h.handed⟩
  | check =>
    rw [step, State.check]
    split
    · rename_i batch hplace
      rw [hplace] at hworker
      split
      · split
        · exact ⟨h.queue, List.forall_mem_nil P, h.shutdown, h.handed⟩
        · exact h.workerHands hworker true
      · exact ⟨h.queue, hworker, h.shutdown, h.handed⟩
    · exact h
  | get =>
    rw [step, State.get]
    split
    · rename_i batch item queue hplace hqueue
      have hitems := h.queue
      rw [hqueue, List.forall_mem_cons] at hitems
      rw [hplace] at hworker
      have hbatch := forall_mem_concat hworker hitems.1
      split
      · exact Holds.workerHands (s := { s with queue }) ⟨hitems.2, h.worker, h.shutdown, h.handed⟩ hbatch false
      · exact ⟨hitems.2, hbatch, h.shutdown, h.handed⟩
    · exact h
  | timeout =>
    rw [step, State.timeout]
    split
    · exact ⟨h.queue, List.forall_mem_nil P, h.shutdown, h.handed⟩
    · rename_i batch _ hplace _
      rw [hplace] at hworker
      exact h.workerHands hworker false
    · exact h
  | workerTurn reply => exact holds_workerTurn h reply
  | shutdown =>
    rw [step, State.beginShutdown]
    split
    · exact ⟨h.queue, h.worker, List.forall_mem_nil P, h.handed⟩
    · exact h
  | join =>
    rw [step, State.join]
    split
    · exact ⟨h.queue, h.worker, List.forall_mem_nil P, h.handed⟩
    · split
      · exact ⟨h.queue, h.worker, List.forall_mem_nil P, h.handed⟩
      · exact h
    · exact h
  | drain =>
    rw [step, State.drain]
    split
    · rename_i batch hplace
      rw [hplace] at hshutdown
      split
      · exact ⟨h.queue, h.worker, List.forall_mem_nil P, h.handed⟩
      · split
        · rename_i item queue hqueue
          have hitems := h.queue
          rw [hqueue, List.forall_mem_cons] at hitems
          have hbatch := forall_mem_concat hshutdown hitems.1
          split
          · exact Holds.drainHands (s := { s with queue }) ⟨hitems.2, h.worker, h.shutdown, h.handed⟩ hbatch false
          · exact ⟨hitems.2, h.worker, hbatch, h.handed⟩
        · exact ⟨h.queue, h.worker, List.forall_mem_nil P, h.handed⟩
        · exact h.drainHands hshutdown true
    · exact h
  | drainTurn reply => exact holds_drainTurn h reply
  | expire =>
    rw [step, State.expire]
    split
    · exact ⟨h.queue, h.worker, h.shutdown, h.handed⟩
    · exact h

/-- Every event that is anywhere was enqueued. -/
theorem holds_exec (run : List (Action Event)) (hrun : ∀ event, Action.enqueue event ∈ run → P event) :
    Holds P (exec (step config) {} run) := by
  have hempty : ∀ event ∈ ([] : List Event), P event := List.forall_mem_nil P
  have hinitial : Holds P ({} : State Event) := ⟨hempty, hempty, hempty, fun batch hbatch => absurd hbatch List.not_mem_nil⟩
  have hgood : Along (step config) (fun _ a => ∀ event, a = .enqueue event → P event) ({} : State Event) run :=
    along_of_mem _ fun a ha event hevent => hrun event (hevent ▸ ha)
  exact (throughout_of_along (fun s a => holds_step) hinitial hgood).last

/-! ### Calls -/

/-- Where neither calls nor their record change, what is pending does not. -/
theorem Dropped.of_same {s s' : State Event} (h : Dropped config s) (hhanded : s'.handed = s.handed) (hsends : s'.sends = s.sends)
    (hdropped : s'.droppedSerialization = s.droppedSerialization) (hworker : s'.worker.pending config = s.worker.pending config)
    (hshutdown : s'.shutdown.pending config = s.shutdown.pending config)
    (hcall : ∀ call last, s'.worker = .sending call last → s.worker = .sending call last)
    (hcall' : ∀ call last, s'.shutdown = .sending call last → s.shutdown = .sending call last) : Dropped config s' where
  dropped := by rw [hhanded, hdropped, hworker, hshutdown, h.dropped]
  sent := by
    rw [hsends, hhanded]
    exact h.sent
  worker call last hplace := by
    rw [hhanded]
    exact h.worker call last (hcall call last hplace)
  drain call last hplace := by
    rw [hhanded]
    exact h.drain call last (hcall' call last hplace)

/-- A worker that makes no call comes to another place where it makes none. -/
theorem Dropped.place {s : State Event} (h : Dropped config s) (hpending : s.worker.pending config = 0) {worker : Worker Event}
    (hworker : ∀ call last, worker ≠ .sending call last) (queue : List Event) : Dropped config { s with queue, worker } := by
  refine h.of_same rfl rfl rfl ?_ rfl (fun call last hcall => absurd hcall (hworker call last)) fun _ _ hcall => hcall
  rw [hpending]
  cases worker with
  | sending call last => exact absurd rfl (hworker call last)
  | absent | loop _ | getting _ => rfl

theorem Dropped.placeShutdown {s : State Event} (h : Dropped config s) (hpending : s.shutdown.pending config = 0)
    {shutdown : Shutdown Event} (hshutdown : ∀ call last, shutdown ≠ .sending call last) (queue : List Event) (stopped : Bool) :
    Dropped config { s with queue, stopped, shutdown } := by
  refine h.of_same rfl rfl rfl rfl ?_ (fun _ _ hcall => hcall) fun call last hcall => absurd hcall (hshutdown call last)
  rw [hpending]
  cases shutdown with
  | sending call last => exact absurd rfl (hshutdown call last)
  | idle | joining | draining _ | closed | abandoned => rfl

/-- A batch that was handed over stays under its number. -/
theorem getElem?_concat {handed : List (List Event)} {number : Nat} {batch : List Event} (h : handed[number]? = some batch)
    (batch' : List Event) : (handed ++ [batch'])[number]? = some batch := by
  rw [List.getElem?_append_left (List.getElem?_eq_some_iff.1 h).1, h]

theorem Dropped.workerHands {s : State Event} (h : Dropped config s) (hpending : s.worker.pending config = 0) (batch : List Event)
    (last : Bool) : Dropped config (s.workerHands batch last) where
  dropped := by
    have hdropped := h.dropped
    show s.droppedSerialization + lost config [batch] + s.shutdown.pending config = lost config (s.handed ++ [batch])
    rw [lost_append]
    omega
  sent number hnumber := by
    obtain ⟨sent, hsent, hencodes⟩ := h.sent number hnumber
    exact ⟨sent, getElem?_concat hsent batch, hencodes⟩
  worker call _ hcall := by
    cases hcall
    exact List.getElem?_concat_length
  drain call last' hcall := getElem?_concat (h.drain call last' hcall) batch

theorem Dropped.drainHands {s : State Event} (h : Dropped config s) (hpending : s.shutdown.pending config = 0) (batch : List Event)
    (last : Bool) : Dropped config (s.drainHands batch last) where
  dropped := by
    have hdropped := h.dropped
    show s.droppedSerialization + s.worker.pending config + lost config [batch] = lost config (s.handed ++ [batch])
    rw [lost_append]
    omega
  sent number hnumber := by
    obtain ⟨sent, hsent, hencodes⟩ := h.sent number hnumber
    exact ⟨sent, getElem?_concat hsent batch, hencodes⟩
  worker call last' hcall := getElem?_concat (h.worker call last' hcall) batch
  drain call _ hcall := by
    cases hcall
    exact List.getElem?_concat_length

/-- The record of requests after a turn. -/
theorem sent_turned {s : State Event} (h : Dropped config s) {call : Sending Event} (hcall : s.handed[call.number]? = some call.batch)
    (reply : Reply) : ∀ number ∈ (s.turned call (call.turn config s.expired reply)).sends,
      ∃ batch, s.handed[number]? = some batch ∧ config.encodes batch = true := by
  intro number hnumber
  by_cases hsent : (call.turn config s.expired reply).sent = true
  · rw [State.turned, if_pos hsent] at hnumber
    rcases List.mem_append.1 hnumber with hnumber | hnumber
    · exact h.sent number hnumber
    · rw [List.mem_singleton.1 hnumber]
      exact ⟨call.batch, hcall, (turn_drops config s.expired reply call).2.1 hsent⟩
  · rw [State.turned, if_neg hsent] at hnumber
    exact h.sent number hnumber

/-- The worker comes to a place after a turn of its call, where what the turn has not dropped is pending. -/
theorem Dropped.workerTurned {s : State Event} (h : Dropped config s) {call : Sending Event} {last : Bool}
    (hplace : s.worker = .sending call last) (reply : Reply) {worker : Worker Event}
    (hpending : (call.turn config s.expired reply).dropped + worker.pending config = call.pending config)
    (hworker : ∀ call' last', worker = .sending call' last' → call'.number = call.number ∧ call'.batch = call.batch) :
    Dropped config { s.turned call (call.turn config s.expired reply) with worker } where
  dropped := by
    have hdropped := h.dropped
    rw [hplace] at hdropped
    change s.droppedSerialization + call.pending config + s.shutdown.pending config = _ at hdropped
    show s.droppedSerialization + (call.turn config s.expired reply).dropped + worker.pending config + s.shutdown.pending config = _
    exact Eq.trans (by omega) hdropped
  sent := sent_turned h (h.worker call last hplace) reply
  worker call' last' hcall := by
    obtain ⟨hnumber, hbatch⟩ := hworker call' last' hcall
    rw [hnumber, hbatch]
    exact h.worker call last hplace
  drain := h.drain

theorem Dropped.drainTurned {s : State Event} (h : Dropped config s) {call : Sending Event} {last : Bool}
    (hplace : s.shutdown = .sending call last) (reply : Reply) {shutdown : Shutdown Event}
    (hpending : (call.turn config s.expired reply).dropped + shutdown.pending config = call.pending config)
    (hshutdown : ∀ call' last', shutdown = .sending call' last' → call'.number = call.number ∧ call'.batch = call.batch) :
    Dropped config { s.turned call (call.turn config s.expired reply) with shutdown } where
  dropped := by
    have hdropped := h.dropped
    rw [hplace] at hdropped
    change s.droppedSerialization + s.worker.pending config + call.pending config = _ at hdropped
    show s.droppedSerialization + (call.turn config s.expired reply).dropped + s.worker.pending config + shutdown.pending config = _
    exact Eq.trans (by omega) hdropped
  sent := sent_turned h (h.drain call last hplace) reply
  worker := h.worker
  drain call' last' hcall := by
    obtain ⟨hnumber, hbatch⟩ := hshutdown call' last' hcall
    rw [hnumber, hbatch]
    exact h.drain call last hplace

theorem dropped_workerTurn {s : State Event} (h : Dropped config s) (reply : Reply) : Dropped config (s.workerTurn config reply) := by
  unfold State.workerTurn
  split
  · rename_i call last hplace
    obtain ⟨hturn, -, hnext⟩ := turn_drops config s.expired reply call
    refine h.workerTurned hplace reply ?_ ?_
    · split
      · rename_i call' hafter
        rwa [hafter] at hturn
      · rename_i hafter
        rw [hafter] at hturn
        split <;> exact hturn
    · intro call' last' hsending
      split at hsending
      · rename_i hafter
        cases hsending
        exact hnext _ hafter
      · split at hsending <;> cases hsending
  · exact h

theorem dropped_drainTurn {s : State Event} (h : Dropped config s) (reply : Reply) : Dropped config (s.drainTurn config reply) := by
  unfold State.drainTurn
  split
  · rename_i call last hplace
    obtain ⟨hturn, -, hnext⟩ := turn_drops config s.expired reply call
    refine h.drainTurned hplace reply ?_ ?_
    · split
      · rename_i call' hafter
        rwa [hafter] at hturn
      · rename_i hafter
        rw [hafter] at hturn
        split <;> exact hturn
    · intro call' last' hsending
      split at hsending
      · rename_i hafter
        cases hsending
        exact hnext _ hafter
      · split at hsending <;> cases hsending
  · exact h

theorem dropped_step (s : State Event) (a : Action Event) (h : Dropped config s) : Dropped config (step config s a) := by
  cases a with
  | enqueue event =>
    rw [step, State.enqueue]
    split <;> exact h.of_same rfl rfl rfl rfl rfl (fun _ _ hcall => hcall) fun _ _ hcall => hcall
  | start =>
    rw [step, State.start]
    split
    · rename_i hplace
      exact h.place (by rw [hplace]; rfl) (by rintro _ _ ⟨⟩) s.queue
    · exact h
  | stop => exact h.of_same rfl rfl rfl rfl rfl (fun _ _ hcall => hcall) fun _ _ hcall => hcall
  | check =>
    rw [step, State.check]
    split
    · rename_i batch hplace
      have hpending : s.worker.pending config = 0 := by rw [hplace]; rfl
      split
      · split
        · exact h.place hpending (by rintro _ _ ⟨⟩) s.queue
        · exact h.workerHands hpending _ true
      · exact h.place hpending (by rintro _ _ ⟨⟩) s.queue
    · exact h
  | get =>
    rw [step, State.get]
    split
    · rename_i batch item queue hplace hqueue
      have hpending : s.worker.pending config = 0 := by rw [hplace]; rfl
      split
      · have hqueued : Dropped config { s with queue } :=
          h.of_same rfl rfl rfl rfl rfl (fun _ _ hcall => hcall) fun _ _ hcall => hcall
        exact hqueued.workerHands hpending _ false
      · exact h.place hpending (by rintro _ _ ⟨⟩) queue
    · exact h
  | timeout =>
    rw [step, State.timeout]
    split
    · rename_i hplace _
      exact h.place (by rw [hplace]; rfl) (by rintro _ _ ⟨⟩) s.queue
    · rename_i hplace _
      exact h.workerHands (by rw [hplace]; rfl) _ false
    · exact h
  | workerTurn reply => exact dropped_workerTurn h reply
  | shutdown =>
    rw [step, State.beginShutdown]
    split
    · rename_i hplace
      exact h.placeShutdown (by rw [hplace]; rfl) (by rintro _ _ ⟨⟩) s.queue true
    · exact h
  | join =>
    rw [step, State.join]
    split
    · rename_i hplace _
      exact h.placeShutdown (by rw [hplace]; rfl) (by rintro _ _ ⟨⟩) s.queue s.stopped
    · rename_i hplace _
      split
      · exact h.placeShutdown (by rw [hplace]; rfl) (by rintro _ _ ⟨⟩) s.queue s.stopped
      · exact h
    · exact h
  | drain =>
    rw [step, State.drain]
    split
    · rename_i batch hplace
      have hpending : s.shutdown.pending config = 0 := by rw [hplace]; rfl
      split
      · exact h.placeShutdown hpending (by rintro _ _ ⟨⟩) s.queue s.stopped
      · split
        · rename_i item queue hqueue
          split
          · have hqueued : Dropped config { s with queue } :=
              h.of_same rfl rfl rfl rfl rfl (fun _ _ hcall => hcall) fun _ _ hcall => hcall
            exact hqueued.drainHands hpending _ false
          · exact h.placeShutdown hpending (by rintro _ _ ⟨⟩) queue s.stopped
        · exact h.placeShutdown hpending (by rintro _ _ ⟨⟩) s.queue s.stopped
        · exact h.drainHands hpending _ true
    · exact h
  | drainTurn reply => exact dropped_drainTurn h reply
  | expire =>
    rw [step, State.expire]
    split
    · exact h.of_same rfl rfl rfl rfl rfl (fun _ _ hcall => hcall) fun _ _ hcall => hcall
    · exact h

theorem dropped_exec (run : List (Action Event)) : Dropped config (exec (step config) {} run) :=
  exec_invariant dropped_step ⟨rfl, by simp, by rintro _ _ ⟨⟩, by rintro _ _ ⟨⟩⟩ run

end SerializedAux

open Wire SerializedAux

/-- A batch of which every event can be printed. -/
def allPrintable (batch : List Wire.Event) : Bool := batch.all fun event => decide event.Printable

/-- An exporter of batches of two events. -/
def encodedPairs : Config Wire.Event where
  maxQueueSize := 4
  exportBatchSize := 2
  maxExportRetries := 1
  encodes batch := (encode halves batch).isSome

/-- Two events are handed over and sent, and two more, one of them of a blank type. -/
def encodedRun : List (Action Wire.Event) :=
  [.enqueue started, .enqueue started, .start, .check, .get, .check, .get, .workerTurn .delivered, .enqueue blank, .enqueue started,
    .check, .get, .check, .get, .workerTurn .delivered]

theorem made_encodedRun : ∀ event, Action.enqueue event ∈ encodedRun → Made halves event := by
  intro event hevent
  simp only [encodedRun, List.mem_cons, Action.enqueue.injEq, reduceCtorEq, List.not_mem_nil, or_false, false_or] at hevent
  rcases hevent with rfl | rfl | rfl | rfl
  · exact made_started
  · exact made_started
  · exact made_blank
  · exact made_started

end PromptRail.Exporter
