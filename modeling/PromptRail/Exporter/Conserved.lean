import Mathlib.Data.List.Induction
import PromptRail.Exporter.Batches
import PromptRail.Exporter.Requests

/-!
# What the exporter hands over

The thread that shuts the exporter down hands over what is left until it finds the queue empty. What was accepted up to this last look
is what has been handed over when it is done; what is accepted later stays in the queue.
-/

namespace PromptRail.Exporter

open Transition BatchesAux RequestsAux

variable {Event : Type} {config : Config Event}

namespace ConservedAux

/-- The thread that shuts down has found the queue empty, or the time up. -/
def Shutdown.Looked : Shutdown Event → Prop
  | .sending _ last => last = true
  | .closed => True
  | _ => False

/-- A deadline that has passed stays so. -/
theorem expired_step {s : State Event} {a : Action Event} (h : (step config s a).expired = false) : s.expired = false := by
  cases a with
  | workerTurn reply =>
    rw [step, State.workerTurn] at h
    split at h
    · exact (Bool.or_eq_false_iff.1 h).1
    · exact h
  | drainTurn reply =>
    rw [step, State.drainTurn] at h
    split at h
    · exact (Bool.or_eq_false_iff.1 h).1
    · exact h
  | expire =>
    rw [step, State.expire] at h
    split at h
    · cases h
    · exact h
  | stop => exact h
  | enqueue event =>
    rw [step, State.enqueue] at h
    split at h <;> exact h
  | start =>
    rw [step, State.start] at h
    split at h <;> exact h
  | check =>
    rw [step, State.check] at h
    repeat' split at h
    all_goals exact h
  | get =>
    rw [step, State.get] at h
    repeat' split at h
    all_goals exact h
  | timeout =>
    rw [step, State.timeout] at h
    split at h <;> exact h
  | shutdown =>
    rw [step, State.beginShutdown] at h
    split at h <;> exact h
  | join =>
    rw [step, State.join] at h
    repeat' split at h
    all_goals exact h
  | drain =>
    rw [step, State.drain] at h
    repeat' split at h
    all_goals exact h

theorem waited_of_looked {p : Shutdown Event} (h : Shutdown.Looked p) : Shutdown.Waited p := by
  cases p <;> trivial

/-- What the worker and the callers do leaves the place of the other thread. -/
theorem shutdown_step {s : State Event} {a : Action Event} (hbegin : a ≠ .shutdown) (hjoin : a ≠ .join) (hdrain : a ≠ .drain)
    (hturn : ∀ reply, a ≠ .drainTurn reply) : (step config s a).shutdown = s.shutdown := by
  cases a with
  | shutdown => exact absurd rfl hbegin
  | join => exact absurd rfl hjoin
  | drain => exact absurd rfl hdrain
  | drainTurn reply => exact absurd rfl (hturn reply)
  | stop => rfl
  | enqueue event =>
    rw [step, State.enqueue]
    split <;> rfl
  | start =>
    rw [step, State.start]
    split <;> rfl
  | check =>
    rw [step, State.check]
    repeat' split
    all_goals rfl
  | get =>
    rw [step, State.get]
    repeat' split
    all_goals rfl
  | timeout =>
    rw [step, State.timeout]
    split <;> rfl
  | workerTurn reply =>
    rw [step, State.workerTurn]
    split <;> rfl
  | expire =>
    rw [step, State.expire]
    split <;> rfl

/-- A worker that holds no events and takes none hands over none. -/
theorem handed_of_quiet {s : State Event} (h : Inv config s) (hwaited : Shutdown.Waited s.shutdown) {a : Action Event}
    (hdrain : a ≠ .drain) : (step config s a).handed = s.handed := by
  have hquiet := h.quiet hwaited
  have hstopped := h.stopped (begun_of_waited hwaited)
  cases a with
  | drain => exact absurd rfl hdrain
  | stop => rfl
  | enqueue event =>
    rw [step, State.enqueue]
    split <;> rfl
  | start =>
    rw [step, State.start]
    split <;> rfl
  | check =>
    rw [step, State.check]
    split
    · rename_i batch hworker
      rw [hworker] at hquiet
      obtain rfl : batch = [] := hquiet
      rw [hstopped]
      rfl
    · rfl
  | get =>
    rw [step, State.get]
    split
    · rename_i hworker _
      rw [hworker] at hquiet
      exact hquiet.elim
    · rfl
  | timeout =>
    rw [step, State.timeout]
    split
    · rfl
    · rename_i hworker _
      rw [hworker] at hquiet
      exact hquiet.elim
    · rfl
  | workerTurn reply =>
    rw [step, State.workerTurn]
    split <;> rfl
  | shutdown =>
    rw [step, State.beginShutdown]
    split <;> rfl
  | join =>
    rw [step, State.join]
    repeat' split
    all_goals rfl
  | drainTurn reply =>
    rw [step, State.drainTurn]
    split <;> rfl
  | expire =>
    rw [step, State.expire]
    split <;> rfl

/-- After its last look the thread hands over no more. -/
theorem handed_of_looked {s : State Event} (h : Inv config s) (hlooked : Shutdown.Looked s.shutdown) (a : Action Event) :
    (step config s a).handed = s.handed := by
  by_cases hdrain : a = .drain
  · subst hdrain
    rw [step, State.drain]
    split
    · rename_i hshutdown
      rw [hshutdown] at hlooked
      exact hlooked.elim
    · rfl
  · exact handed_of_quiet h (waited_of_looked hlooked) hdrain

/-- The last look is a step of the loop that finds the queue empty, after which all is handed over. -/
theorem last_look {s : State Event} (h : Inv config s) {a : Action Event} (hexpired : (step config s a).expired = false)
    (hnot : ¬Shutdown.Looked s.shutdown) (hlooked : Shutdown.Looked (step config s a).shutdown) :
    a = .drain ∧ s.queue = [] ∧ (step config s a).handed.flatten = s.accepted := by
  cases a with
  | drain =>
    refine ⟨rfl, ?_⟩
    have hrunning := expired_step hexpired
    have hkept := h.kept hrunning
    rw [step, State.drain] at hlooked ⊢
    split at hlooked
    · rename_i batch hshutdown
      have hworker := batch_of_quiet (h.quiet (by rw [hshutdown]; trivial))
      rw [hshutdown, hworker] at hkept
      rw [if_neg (ne_true_of_eq_false hrunning)] at hlooked ⊢
      split at hlooked
      · split at hlooked
        · cases hlooked
        · exact hlooked.elim
      · rename_i hqueue
        rw [hqueue] at hkept ⊢
        refine ⟨rfl, ?_⟩
        simpa [Shutdown.batch] using hkept
      · rename_i hqueue _
        rw [hqueue] at hkept ⊢
        refine ⟨rfl, ?_⟩
        simpa [State.drainHands, Shutdown.batch] using hkept
    · exact absurd hlooked hnot
  | shutdown =>
    rw [step, State.beginShutdown] at hlooked
    split at hlooked
    · exact hlooked.elim
    · exact absurd hlooked hnot
  | join =>
    rw [step, State.join] at hlooked
    split at hlooked
    · exact hlooked.elim
    · split at hlooked
      · exact hlooked.elim
      · exact absurd hlooked hnot
    · exact absurd hlooked hnot
  | drainTurn reply =>
    rw [step, State.drainTurn] at hlooked
    split at hlooked
    · rename_i call last hshutdown
      rw [hshutdown] at hnot
      dsimp only at hlooked
      split at hlooked
      · exact absurd hlooked hnot
      · split at hlooked
        · rename_i hlast
          exact absurd hlast hnot
        · exact hlooked.elim
    · exact absurd hlooked hnot
  | _ =>
    rw [shutdown_step (by rintro ⟨⟩) (by rintro ⟨⟩) (by rintro ⟨⟩) (by rintro _ ⟨⟩)] at hlooked
    exact absurd hlooked hnot

/-- Once the last look is over, what is handed over is what was accepted before it. -/
theorem handed_of_run (run : List (Action Event)) (hexpired : (exec (step config) {} run).expired = false)
    (hlooked : Shutdown.Looked (exec (step config) {} run).shutdown) :
    ∃ before after, run = before ++ .drain :: after ∧ (exec (step config) {} before).queue = [] ∧
      ¬Shutdown.Looked (exec (step config) {} before).shutdown ∧
      (exec (step config) {} run).handed.flatten = (exec (step config) {} before).accepted := by
  induction run using List.reverseRecOn with
  | nil => exact hlooked.elim
  | append_singleton run a ih =>
    rw [exec_concat] at hexpired hlooked ⊢
    have hinv : Inv config (exec (step config) {} run) := inv_exec run
    by_cases hbefore : Shutdown.Looked (exec (step config) {} run).shutdown
    · obtain ⟨before, after, hrun, hqueue, hnot, hhanded⟩ := ih (expired_step hexpired) hbefore
      refine ⟨before, after ++ [a], ?_, hqueue, hnot, ?_⟩
      · rw [hrun, List.append_assoc]
        rfl
      · rw [handed_of_looked hinv hbefore, hhanded]
    · obtain ⟨rfl, hqueue, hhanded⟩ := last_look hinv hexpired hbefore hlooked
      exact ⟨run, [], rfl, hqueue, hbefore, hhanded⟩

end ConservedAux

open ConservedAux

variable (config)

/-- The events accepted are those handed over, those held by a thread and those queued, in this order; a batch has from one to
`batchSize` events, and is sent at most `maxRetries` times. Once `shutdown` has closed the sender, what was handed over is what had been
accepted when it found the queue empty, and the queue holds what was accepted later. -/
theorem exporter_conserves (run : List (Action Event)) (hexpired : (exec (step config) {} run).expired = false) :
    let s := exec (step config) {} run
    s.handed.flatten ++ s.worker.batch ++ s.shutdown.batch ++ s.queue = s.accepted ∧
      (∀ batch ∈ s.handed, 1 ≤ batch.length ∧ batch.length ≤ config.batchSize) ∧
      (∀ number, s.sends.count number ≤ config.maxRetries) ∧
      (s.shutdown = .closed → ∃ before after, run = before ++ .drain :: after ∧ (exec (step config) {} before).queue = [] ∧
        s.handed.flatten = (exec (step config) {} before).accepted ∧
        s.accepted = (exec (step config) {} before).accepted ++ s.queue) := by
  intro s
  have hinv : Inv config s := inv_exec run
  refine ⟨hinv.kept hexpired, hinv.sized, (sendInv_exec run).count, fun hclosed => ?_⟩
  have hlooked : Shutdown.Looked s.shutdown := by
    rw [hclosed]
    trivial
  obtain ⟨before, after, hrun, hqueue, -, hhanded⟩ := handed_of_run run hexpired hlooked
  refine ⟨before, after, hrun, hqueue, hhanded, ?_⟩
  have hkept := hinv.kept hexpired
  rw [hhanded, batch_of_quiet (hinv.quiet (waited_of_looked hlooked)), hclosed] at hkept
  simpa [Shutdown.batch] using hkept.symm

/-- Batches of two, and three attempts. -/
def pairs : Config Nat where
  maxQueueSize := 8
  exportBatchSize := 2
  maxExportRetries := 3
  encodes _ := true

/-- Two events fill a batch of the worker; the third one is left to the other thread, which sends it twice. -/
def drained : List (Action Nat) :=
  [.start, .enqueue 1, .enqueue 2, .check, .get, .enqueue 3, .check, .get, .workerTurn .delivered, .shutdown, .check, .join, .drain,
    .drain, .drainTurn (.failed false), .drainTurn .delivered]

theorem exporter_conserves_drained :
    (exec (step pairs) {} drained).handed = [[1, 2], [3]] ∧ (exec (step pairs) {} drained).sends = [0, 1, 1] ∧
      ∃ before after, drained = before ++ .drain :: after ∧ (exec (step pairs) {} before).queue = [] ∧
        (exec (step pairs) {} drained).handed.flatten = (exec (step pairs) {} before).accepted ∧
        (exec (step pairs) {} drained).accepted = (exec (step pairs) {} before).accepted ++ (exec (step pairs) {} drained).queue :=
  ⟨by decide, by decide, (exporter_conserves pairs drained rfl).2.2.2 rfl⟩

/-- An event that is accepted after the last look at the queue is never handed over. -/
theorem exporter_leaves :
    let s := exec (step pairs) {} [.shutdown, .join, .drain, .enqueue 7]
    s.expired = false ∧ s.shutdown = .closed ∧ s.accepted = [7] ∧ s.handed.flatten ≠ s.accepted :=
  ⟨rfl, rfl, rfl, by decide⟩

end PromptRail.Exporter
