import PromptRail.Controller.Reservations
import Mathlib.Tactic.Linarith

/-!
# The hard cost limit of an agent

Two readings of the limit. On the spend alone: a settlement compares it with the limit, a failed call and a finished run charge
without comparing, so those two decide whether a run that goes on or completes stays within it. On the spend together with the
open reservations: where no call is settled above its reservation, every interleaving stays within the limit, since the second
phase of an allocation reads the remaining amount again under the lock.
-/

namespace PromptRail

open Table (Dict total)
open Transition (Throughout Along throughout_iff_along throughout_of_along)

/-! ## The spend -/

/-- The spend of a run that has not failed is within its hard cost limit. -/
def SpendWithinLimit (r : RunId) (s : System) : Prop :=
  ∀ run limit, s.run? r = some run → run.policy.hardAgentCostLimitUsd = some limit → run.status ≠ .failed →
    run.spentCostUsd ≤ limit + costTolerance

/-- What the operation charges in full fits below the hard cost limit: the budget of a failed call whose billing is unknown,
and the open reservations of a run that completes in time. -/
def ChargesWithinLimit (r : RunId) (s : System) : Op → Prop
  | .failCall r' c true => ∀ run limit b, s.run? r = some run → run.policy.hardAgentCostLimitUsd = some limit →
      (Op.failCall r' c true).Acts s run → run.reserved.lookup c = some b → run.spentCostUsd + b.costUsd ≤ limit + costTolerance
  | .finishRun r' .completed => ∀ run limit, s.run? r = some run → run.policy.hardAgentCostLimitUsd = some limit →
      (Op.finishRun r' .completed).Acts s run → run.pastDeadline s.controller.now = false →
        run.spentCostUsd + run.reservedCost ≤ limit + costTolerance
  | _ => True

namespace CeilingAux

/-- A settlement that breaks no hard limit leaves the spend within the limit of the agent. -/
theorem settled_le {run : Run} {now : Int} {costUsd limit : ℚ} {latencyMs : Int} (h : ¬run.breaks now costUsd latencyMs)
    (hl : run.policy.hardAgentCostLimitUsd = some limit) : run.spentCostUsd + costUsd ≤ limit + costTolerance := by
  by_contra hlt
  exact h (Or.inr (Or.inr (Or.inl ⟨limit, hl, not_le.1 hlt⟩)))

/-- The spend after a change, of a run that has not failed. -/
theorem spend_of_change {r : RunId} {s : System} {op : Op} {run run' : Run} {limit : ℚ} (hr : s.run? r = some run)
    (hch : Change s run op run') (hP : run.status ≠ .failed → run.spentCostUsd ≤ limit + costTolerance)
    (hg : ChargesWithinLimit r s op) (hl : run.policy.hardAgentCostLimitUsd = some limit) (hs : run'.status ≠ .failed) :
    run'.spentCostUsd ≤ limit + costTolerance := by
  cases hch with
  | stay op h => exact hP hs
  | handOut args h => exact hP hs
  | discard a answer ha hra hn => exact hP hs
  | reserve a decision ha hra hact hv => exact hP hs
  | settle c b costUsd latencyMs hb h hok => exact settled_le hok hl
  | settleFailing c b costUsd latencyMs hb h hv => exact absurd rfl hs
  | fail c b billingUnknown hb h =>
    cases billingUnknown with
    | false => simpa [Run.settled] using hP hs
    | true => exact hg run limit b hr hl h hb
  | tool h hd => exact hP hs
  | toolFailing h hd => exact absurd rfl hs
  | finish status h hd =>
    cases status with
    | active => exact absurd rfl h.2.1
    | completed =>
      have hd' : run.pastDeadline s.controller.now = false := by simpa using hd
      exact hg run limit hr hl h hd'
    | failed => exact absurd rfl hs
  | finishLate h hd => exact absurd rfl hs

/-- A step keeps the spend within the limit exactly if what it charges in full fits. -/
theorem spend_step {r : RunId} {s : System} {op : Op} (hL : s.Linked) (hP : SpendWithinLimit r s) :
    SpendWithinLimit r (s.step op) ↔ ChargesWithinLimit r s op := by
  constructor
  · intro h
    cases op with
    | failCall r' c billingUnknown =>
      cases billingUnknown with
      | false => trivial
      | true =>
        intro run limit b hr hl hact hb
        obtain ⟨run', hr', hch⟩ := change_of_step hL hr (.failCall r' c true)
        cases hch with
        | stay op hn => exact absurd hact hn
        | fail c b' billingUnknown hb' ha =>
          rw [hb] at hb'
          obtain rfl := Option.some.inj hb'
          have hactive : run.status ≠ .failed := by rw [ha.2.1]; decide
          have hle := h _ limit hr' hl hactive
          exact hle
    | finishRun r' status =>
      cases status with
      | completed =>
        intro run limit hr hl hact hd
        obtain ⟨run', hr', hch⟩ := change_of_step hL hr (.finishRun r' .completed)
        cases hch with
        | stay op hn => exact absurd hact hn
        | finish status ha hd' =>
          have hle := h _ limit hr' hl (by simp [Run.ended])
          exact hle
        | finishLate ha hd' =>
          rw [hd] at hd'
          cases hd'
      | active => trivial
      | failed => trivial
    | _ => trivial
  · intro hg run' limit hr' hl hs
    rcases run_of_step hL hr' with ⟨run, hr, hch⟩ | ⟨_, _, sessionId, policy, _, rfl⟩
    · rw [hch.policy] at hl
      exact spend_of_change hr hch (hP run limit hr hl) hg hl hs
    · -- a run that is only now opened has spent nothing
      have hpos : 1 / 1000000 ≤ limit := policy.validate_optional_cost limit (Or.inl hl)
      simp only [Run.opened, costTolerance]
      linarith

theorem spend_start (r : RunId) (allocatorModelId : String) : SpendWithinLimit r (System.start allocatorModelId) := by
  intro run limit h
  cases h

end CeilingAux

open CeilingAux

/-- An agent that is active or completed has spent no more than its hard cost limit, over every run in which each failed call of
unknown billing and each completion charges no more than the limit leaves, and over no other. -/
theorem spend_within_limit_iff (r : RunId) (allocatorModelId : String) (ops : List Op) :
    Throughout System.step (SpendWithinLimit r) (System.start allocatorModelId) ops ↔
      Along System.step (ChargesWithinLimit r) (System.start allocatorModelId) ops :=
  throughout_iff_along (I := System.Linked) (fun _ op hL => hL.step op) (fun _ _ hL hP => spend_step hL hP)
    (ChangeAux.linked_start allocatorModelId) (spend_start r allocatorModelId) ops

/-- Two calls share a limit of one dollar evenly. The first is settled at ninety cents, and the second fails with its billing
unknown: the run goes on with one dollar forty spent. -/
theorem failed_call_exceeds_limit : ¬Throughout System.step (SpendWithinLimit 0) (System.start "gemma")
    (twoCalls 1 (1 / 2) oneDollar_valid halfDollar_valid ++ [.settleCall 0 1 (9 / 10) 100, .failCall 0 2 true]) := by
  intro h
  have hlast := h.last
  have hend : ((Transition.exec System.step (System.start "gemma") (twoCalls 1 (1 / 2) oneDollar_valid halfDollar_valid ++
      [.settleCall 0 1 (9 / 10) 100, .failCall 0 2 true])).run? 0).map
        (fun run => (run.policy.hardAgentCostLimitUsd, run.status, run.spentCostUsd)) =
          some (some 1, .active, 14 / 10) := by decide +kernel
  obtain ⟨run, hr, hrun⟩ := Option.map_eq_some_iff.1 hend
  obtain ⟨hl, hrest⟩ := Prod.mk.inj hrun
  obtain ⟨hs, hspent⟩ := Prod.mk.inj hrest
  have hle := hlast run 1 hr hl (by rw [hs]; decide)
  rw [hspent] at hle
  exact absurd hle (by decide +kernel)

/-! ## The spend and the open reservations -/

/-- The spend and the open reservations of a run are within its hard cost limit together. -/
def CommitmentWithinLimit (r : RunId) (s : System) : Prop :=
  ∀ run limit, s.run? r = some run → run.policy.hardAgentCostLimitUsd = some limit →
    run.spentCostUsd + run.reservedCost ≤ limit + costTolerance

/-- A settlement passes no more than the reserved cost of its call. -/
def SettlesWithinReserved (r : RunId) (s : System) : Op → Prop
  | .settleCall r' c costUsd _ => ∀ run b, s.run? r = some run → r' = r → run.reserved.lookup c = some b →
      costUsd ≤ b.costUsd
  | _ => True

/-- What the commitment rests on: no reservation is negative. -/
structure Committed (r : RunId) (s : System) : Prop where
  linked : s.Linked
  positive : ∀ run, s.run? r = some run → ∀ c b, run.reserved.lookup c = some b → 0 ≤ b.costUsd
  within : CommitmentWithinLimit r s

namespace CeilingAux

theorem reservedCost_erase {run : Run} {c : CallId} {b : CallBudget} (h : run.reserved.lookup c = some b) :
    run.reservedCost = b.costUsd + total (fun _ b => b.costUsd) (run.reserved.erase c) :=
  Table.total_erase (fun (_ : CallId) (b : CallBudget) => b.costUsd) h

/-- A settlement of at most the reserved cost does not raise the commitment. -/
theorem commitment_settled {run : Run} {c : CallId} {b : CallBudget} {costUsd : ℚ} (latencyMs : Int)
    (h : run.reserved.lookup c = some b) (hle : costUsd ≤ b.costUsd) :
    (run.settled c costUsd latencyMs).spentCostUsd + (run.settled c costUsd latencyMs).reservedCost ≤
      run.spentCostUsd + run.reservedCost := by
  rw [reservedCost_erase h]
  simp only [Run.settled, Run.reservedCost]
  linarith

/-- Charging every open reservation leaves the commitment as it is. -/
theorem commitment_charged (run : Run) :
    run.charged.spentCostUsd + run.charged.reservedCost = run.spentCostUsd + run.reservedCost := by
  simp [Run.charged, Run.reservedCost]

/-- An accepted decision fits what remains of the hard cost limit. -/
theorem cost_le_remaining {policy : OperatingPolicy} {decision : BudgetAllocationDecision} {remainingCost : Option ℚ}
    {remainingLatency : Option Int} {inputTokens : Int} {cache : CacheAnalysis} {remaining : ℚ}
    (h : validateDecision policy decision remainingCost remainingLatency inputTokens cache = .ok ())
    (hr : remainingCost = some remaining) : decision.costUsd ≤ remaining + costTolerance := by
  subst hr
  by_contra hlt
  have hany : (some remaining).any (fun remaining => decide (remaining + costTolerance < decision.costUsd)) = true := by
    simpa using hlt
  unfold validateDecision at h
  rw [if_pos hany] at h
  split_ifs at h

/-- The commitment after a change, and the sign of the reservations. -/
theorem commitment_of_change {r : RunId} {s : System} {op : Op} {run run' : Run} {limit : ℚ} (hr : s.run? r = some run)
    (hid : run.runId = r) (hch : Change s run op run') (hpos : ∀ c b, run.reserved.lookup c = some b → 0 ≤ b.costUsd)
    (hw : run.spentCostUsd + run.reservedCost ≤ limit + costTolerance) (hg : SettlesWithinReserved r s op)
    (hl : run.policy.hardAgentCostLimitUsd = some limit) (hnew : ∀ a, s.inFlight.lookup a.callId = some a →
      a.runId = r → a.callId ∉ run.reserved) :
    run'.spentCostUsd + run'.reservedCost ≤ limit + costTolerance := by
  cases hch with
  | stay op h => exact hw
  | handOut args h => exact hw
  | discard a answer ha hra hn => exact hw
  | reserve a decision ha hra hact hv =>
    have hle : decision.costUsd ≤ limit - run.spentCostUsd - run.reservedCost + costTolerance := by
      refine cost_le_remaining hv ?_
      simp [Run.remainingCost, hl]
    have htot : total (fun _ b => b.costUsd) (run.reserved.insert a.callId
        (a.budget s.controller.allocatorModelId decision)) = decision.costUsd + run.reservedCost :=
      Table.total_insert (fun _ b => b.costUsd) _ (hnew a ha (hra.trans hid))
    simp only [Run.reservedCost, Run.discardPending] at htot ⊢
    rw [htot]
    simp only [Run.reservedCost] at hle
    linarith
  | settle c b costUsd latencyMs hb h hok =>
    exact (commitment_settled latencyMs hb (hg run b hr hid hb)).trans hw
  | settleFailing c b costUsd latencyMs hb h hv =>
    exact (commitment_settled latencyMs hb (hg run b hr hid hb)).trans hw
  | fail c b billingUnknown hb h =>
    have hle : (if billingUnknown then b.costUsd else 0) ≤ b.costUsd := by
      split
      · exact le_rfl
      · exact hpos c b hb
    exact (commitment_settled _ hb hle).trans hw
  | tool h hd => exact hw
  | toolFailing h hd => exact hw
  | finish status h hd => exact (commitment_charged run).trans_le hw
  | finishLate h hd => exact (commitment_charged run).trans_le hw

/-- No change makes a negative reservation. -/
theorem positive_of_change {s : System} {op : Op} {run run' : Run} (hch : Change s run op run')
    (hpos : ∀ c b, run.reserved.lookup c = some b → 0 ≤ b.costUsd) :
    ∀ c b, run'.reserved.lookup c = some b → 0 ≤ b.costUsd := by
  have herase : ∀ {c c' : CallId} {b : CallBudget}, (run.reserved.erase c).lookup c' = some b → 0 ≤ b.costUsd := by
    intro c c' b h
    rw [Table.lookup_erase_eq] at h
    split at h
    · cases h
    · exact hpos c' b h
  intro c b h
  cases hch with
  | reserve a decision ha hra hact hv =>
    simp only [Table.lookup_insert_eq] at h
    split at h
    · obtain rfl := Option.some.inj h
      exact le_trans (by decide +kernel) decision.validate_decision_cost
    · exact hpos c b h
  | settle c' b' costUsd latencyMs hb ha hok => exact herase h
  | settleFailing c' b' costUsd latencyMs hb ha hv => exact herase h
  | fail c' b' billingUnknown hb ha => exact herase h
  | finish status ha hd => cases h
  | finishLate ha hd => cases h
  | stay op hn => exact hpos c b h
  | handOut args ha => exact hpos c b h
  | discard a answer ha hra hn => exact hpos c b h
  | tool ha hd => exact hpos c b h
  | toolFailing ha hd => exact hpos c b h

/-- A step that settles no more than was reserved keeps the commitment within the limit. -/
theorem committed_step {r : RunId} {s : System} {op : Op} (hC : Committed r s) (hg : SettlesWithinReserved r s op) :
    Committed r (s.step op) where
  linked := hC.linked.step op
  positive := by
    intro run' hr'
    rcases run_of_step hC.linked hr' with ⟨run, hr, hch⟩ | ⟨_, _, sessionId, policy, _, rfl⟩
    · exact positive_of_change hch (hC.positive run hr)
    · intro c b h
      cases h
  within := by
    intro run' limit hr' hl
    rcases run_of_step hC.linked hr' with ⟨run, hr, hch⟩ | ⟨_, _, sessionId, policy, _, rfl⟩
    · rw [hch.policy] at hl
      refine commitment_of_change hr (hC.linked.runId r run hr).1 hch (hC.positive run hr) (hC.within run limit hr hl) hg hl ?_
      intro a ha _ hm
      exact (hC.linked.reserved r run hr _ hm).2 (Table.mem_iff_lookup.2 ⟨a, ha⟩)
    · have hpos : 1 / 1000000 ≤ limit := policy.validate_optional_cost limit (Or.inl hl)
      simp only [Run.opened, Run.reservedCost, Table.total_empty, costTolerance]
      linarith

theorem committed_start (r : RunId) (allocatorModelId : String) : Committed r (System.start allocatorModelId) where
  linked := ChangeAux.linked_start allocatorModelId
  positive := by intro run h; cases h
  within := by intro run limit h; cases h

end CeilingAux

/-- Over every interleaving of allocations, failures, tools, completions and settlements of at most the reserved cost, the spend
and the open reservations of a run stay within its hard cost limit together. -/
theorem commitment_within_limit (r : RunId) (allocatorModelId : String) (ops : List Op)
    (h : Along System.step (SettlesWithinReserved r) (System.start allocatorModelId) ops) :
    Throughout System.step (CommitmentWithinLimit r) (System.start allocatorModelId) ops :=
  (throughout_of_along (fun _ _ hC hg => committed_step hC hg) (committed_start r allocatorModelId) h).mono
    fun _ hC => hC.within

/-- Two calls of fifty cents each under a limit of one dollar: one is settled at forty cents, and the other is charged in full. -/
theorem commitment_within_limit_two_calls : Throughout System.step (CommitmentWithinLimit 0) (System.start "gemma")
    (twoCalls 1 (1 / 2) oneDollar_valid halfDollar_valid ++ [.settleCall 0 1 (2 / 5) 100, .failCall 0 2 true]) := by
  refine commitment_within_limit 0 "gemma" _ ⟨trivial, trivial, trivial, trivial, trivial, ?_, trivial, trivial⟩
  intro run b hr _ hb
  have hcost : ((Transition.exec System.step (System.start "gemma")
      (twoCalls 1 (1 / 2) oneDollar_valid halfDollar_valid)).run? 0).bind
        (fun run => (run.reserved.lookup 1).map (·.costUsd)) = some (1 / 2) := by decide +kernel
  have hrun : (Transition.exec System.step (System.start "gemma")
      (twoCalls 1 (1 / 2) oneDollar_valid halfDollar_valid)).run? 0 = some run := hr
  rw [hrun, Option.bind_some, hb, Option.map_some, Option.some.injEq] at hcost
  rw [hcost]
  decide +kernel

end PromptRail
