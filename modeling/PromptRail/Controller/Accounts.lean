import PromptRail.Controller.Ledger

/-!
# The accounts of a run

What the ledger of a run says about its counters, in every state of every interleaving, and that an ended run is frozen.
-/

namespace PromptRail

open Transition (Throughout exec exec_invariant throughout_of_invariant)

/-- The counters of a run are what its history says: spend and latency are the sums of what was charged, one call is completed
for each reservation consumed and none twice, no call is pending and reserved, the sequence numbers handed out are those below
the next one, each went to a call that is completed, reserved, pending or ended in an error, and a completed run has nothing
pending. -/
structure Accounts (run : Run) (ledger : Ledger) : Prop where
  cost : run.spentCostUsd = (ledger.consumed.map (·.costUsd)).sum
  latency : run.spentModelLatencyMs = (ledger.consumed.map (·.latencyMs)).sum
  completed : run.completedCalls = ledger.consumed.length
  once : (ledger.consumed.map (·.callId)).Nodup
  disjoint : ∀ c ∈ run.pendingAllocations, c ∉ run.reserved
  sequences : ledger.handedOut = List.range' 1 (run.nextSequence - 1)
  counted : run.nextSequence - 1 =
    run.completedCalls + Table.size run.reserved + run.pendingAllocations.card + ledger.erred
  nothingPending : run.status = .completed → run.pendingAllocations = ∅

/-- The spend, the counters, the reservations and the status of a run are the same. -/
structure Run.Frozen (run run' : Run) : Prop where
  status : run'.status = run.status
  spentCostUsd : run'.spentCostUsd = run.spentCostUsd
  spentModelLatencyMs : run'.spentModelLatencyMs = run.spentModelLatencyMs
  completedCalls : run'.completedCalls = run.completedCalls
  toolCalls : run'.toolCalls = run.toolCalls
  nextSequence : run'.nextSequence = run.nextSequence
  reserved : run'.reserved = run.reserved
  finishedAt : run'.finishedAt = run.finishedAt

/-- The accounts of a run are exact, and if it has ended, no further run of the system changes them. -/
def AccountsHold (r : RunId) (p : System × Ledger) : Prop :=
  ∀ run, p.1.run? r = some run → Accounts run p.2 ∧
    (run.status ≠ .active → ∀ more, ∃ run', (exec System.step p.1 more).run? r = some run' ∧ run.Frozen run')

namespace AccountsAux

/-- A change of a run that has ended leaves its accounts. -/
theorem frozen_of_change {s : System} {op : Op} {run run' : Run} (hch : Change s run op run') (hs : run.status ≠ .active) :
    run.Frozen run' := by
  cases hch with
  | stay op h => exact ⟨rfl, rfl, rfl, rfl, rfl, rfl, rfl, rfl⟩
  | discard a answer ha hra hn => exact ⟨rfl, rfl, rfl, rfl, rfl, rfl, rfl, rfl⟩
  | handOut args h => exact absurd h.2.2.1 hs
  | reserve a decision ha hra hact hv => exact absurd hact hs
  | settle c b costUsd latencyMs hb h hok => exact absurd h.2.2.2.1 hs
  | settleFailing c b costUsd latencyMs hb h hv => exact absurd h.2.2.2.1 hs
  | fail c b billingUnknown hb h => exact absurd h.2.1 hs
  | tool h hd => exact absurd h.2 hs
  | toolFailing h hd => exact absurd h.2 hs
  | finish status h hd => exact absurd h.2.2.1 hs
  | finishLate h hd => exact absurd h.2.2.1 hs

theorem frozen_trans {run run' run'' : Run} (h : run.Frozen run') (h' : run'.Frozen run'') : run.Frozen run'' :=
  ⟨h'.status.trans h.status, h'.spentCostUsd.trans h.spentCostUsd, h'.spentModelLatencyMs.trans h.spentModelLatencyMs,
    h'.completedCalls.trans h.completedCalls, h'.toolCalls.trans h.toolCalls, h'.nextSequence.trans h.nextSequence,
    h'.reserved.trans h.reserved, h'.finishedAt.trans h.finishedAt⟩

/-- No run of the system changes the accounts of a run that has ended: one step, and then every number of them. -/
theorem frozen_exec {r : RunId} {s : System} {run : Run} (hL : s.Linked) (hr : s.run? r = some run)
    (hs : run.status ≠ .active) (more : List Op) :
    ∃ run', (exec System.step s more).run? r = some run' ∧ run.Frozen run' := by
  have hstep : ∀ (s : System) op, (s.Linked ∧ ∃ run', s.run? r = some run' ∧ run.Frozen run') →
      ((s.step op).Linked ∧ ∃ run', (s.step op).run? r = some run' ∧ run.Frozen run') := by
    rintro s op ⟨hL, run', hr', hf⟩
    obtain ⟨run'', hr'', hch⟩ := change_of_step hL hr' op
    have hs' : run'.status ≠ .active := by
      rw [hf.status]
      exact hs
    exact ⟨hL.step op, run'', hr'', frozen_trans hf (frozen_of_change hch hs')⟩
  exact (exec_invariant hstep ⟨hL, run, hr, ⟨rfl, rfl, rfl, rfl, rfl, rfl, rfl, rfl⟩⟩ more).2

/-- A completed run has nothing pending, and an ended run is handed nothing more. -/
theorem nothingPending_of_change {s : System} {op : Op} {run run' : Run} (hch : Change s run op run')
    (hP : run.status = .completed → run.pendingAllocations = ∅) (hs : run'.status = .completed) :
    run'.pendingAllocations = ∅ := by
  cases hch with
  | stay op h => exact hP hs
  | handOut args h =>
    rw [h.2.2.1] at hs
    cases hs
  | discard a answer ha hra hn =>
    simp only [Run.discardPending, hP hs]
    rfl
  | reserve a decision ha hra hact hv =>
    simp only [Run.discardPending, hact] at hs
    cases hs
  | settle c b costUsd latencyMs hb h hok => exact hP hs
  | settleFailing c b costUsd latencyMs hb h hv => cases hs
  | fail c b billingUnknown hb h => exact hP hs
  | tool h hd => exact hP hs
  | toolFailing h hd => cases hs
  | finish status h hd => exact h.2.2.2
  | finishLate h hd => cases hs

/-- The ledger is kept, and a completed run has nothing pending. -/
structure Sound (r : RunId) (p : System × Ledger) : Prop where
  kept : p.2.Kept r p.1
  nothingPending : ∀ run, p.1.run? r = some run → run.status = .completed → run.pendingAllocations = ∅

theorem sound_step {r : RunId} {p : System × Ledger} (h : Sound r p) (op : Op) : Sound r (watch r p op) where
  kept := h.kept.step op
  nothingPending := by
    intro run' hr' hs
    rcases run_of_step h.kept.linked hr' with ⟨run, hr, hch⟩ | ⟨_, _, sessionId, policy, _, rfl⟩
    · exact nothingPending_of_change hch (h.nothingPending run hr) hs
    · cases hs

theorem sound_start (r : RunId) (allocatorModelId : String) : Sound r (watchStart allocatorModelId) where
  kept := kept_start r allocatorModelId
  nothingPending := by intro run h; cases h

/-- What the invariant says about the accounts. -/
theorem Sound.accountsHold {r : RunId} {p : System × Ledger} (h : Sound r p) : AccountsHold r p := by
  intro run hr
  have hA := h.kept.agrees run hr
  have hL := h.kept.linked
  refine ⟨⟨hA.cost, hA.latency, hA.completed, hA.once, ?_, hA.sequences, ?_, h.nothingPending run hr⟩, frozen_exec hL hr⟩
  · intro c hc hm
    obtain ⟨a, ha, _⟩ := (hL.pending r run hr c).1 hc
    exact (hL.reserved r run hr c hm).2 (Table.mem_iff_lookup.2 ⟨a, ha⟩)
  · have := hA.counted
    omega

end AccountsAux

open AccountsAux

end PromptRail
