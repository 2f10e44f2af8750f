import PromptRail.Controller.Changes
import Mathlib.Data.Finset.Card

/-!
# The ledger of one run

A history variable beside the system. It records what can be seen from outside of one run: which reservations appear in its
map and which disappear, what the operation that made one disappear charges for it, which sequence numbers are handed out, and
how many allocations that were handed one end in an error. `Ledger.Kept` is the invariant that ties the ledger to the state.
-/

namespace PromptRail

open Table (Dict total)

/-- A reservation that was consumed, and what was charged for it. -/
structure Consumption where
  callId : CallId
  costUsd : ℚ
  latencyMs : Int

/-- What an operation charges for a reservation it consumes: a settlement what it was passed, a failed call its full budget or
nothing, a finished run the full budget. -/
def Op.charge : Op → CallBudget → ℚ × Int
  | .settleCall _ _ costUsd latencyMs, _ => (costUsd, latencyMs)
  | .failCall _ _ true, b => (b.costUsd, b.latencyMs)
  | .finishRun _ _, b => (b.costUsd, b.latencyMs)
  | _, _ => (0, 0)

/-- The history of one run. -/
structure Ledger where
  authorised : List CallId := []
  consumed : List Consumption := []
  handedOut : List Nat := []
  erred : Nat := 0

/-- The reservations of a run. -/
def System.reservations (s : System) (r : RunId) : Dict CallId CallBudget :=
  match s.run? r with
  | some run => run.reserved
  | none => ∅

/-- The sequence number an operation hands out to an allocation of a run. -/
def System.handsOut (s : System) (r : RunId) : Op → List Nat
  | .allocateBegin r' args =>
    match (s.controller.allocateCallBegin r' args).1 with
    | .ok a => if a.runId = r then [a.sequence] else []
    | .error _ => []
  | _ => []

/-- The operation ends an allocation of a run that is in progress, in an error. -/
def System.endsInError (s : System) (r : RunId) : Op → Nat
  | .allocateEnd c answer =>
    match s.inFlight.lookup c with
    | some a =>
      match (s.controller.allocateCallEnd a answer).1 with
      | .ok _ => 0
      | .error _ => if a.runId = r then 1 else 0
    | none => 0
  | _ => 0

/-- What one operation adds to the history of a run. -/
def Ledger.observe (r : RunId) (ledger : Ledger) (s : System) (op : Op) (s' : System) : Ledger where
  authorised := ledger.authorised ++ (Table.gone (s'.reservations r) (s.reservations r)).map (·.1)
  consumed := ledger.consumed ++ (Table.gone (s.reservations r) (s'.reservations r)).map fun e =>
    ⟨e.1, (op.charge e.2).1, (op.charge e.2).2⟩
  handedOut := ledger.handedOut ++ s.handsOut r op
  erred := ledger.erred + s.endsInError r op

/-- The system with the ledger of a run beside it. -/
def watch (r : RunId) : System × Ledger → Op → System × Ledger := Transition.monitor System.step (Ledger.observe r)

/-- The system before any operation, with an empty ledger. -/
def watchStart (allocatorModelId : String) : System × Ledger := (System.start allocatorModelId, {})

/-! ## The invariant -/

/-- The ledger agrees with the run. -/
structure Ledger.Agrees (ledger : Ledger) (run : Run) : Prop where
  cost : run.spentCostUsd = (ledger.consumed.map (·.costUsd)).sum
  latency : run.spentModelLatencyMs = (ledger.consumed.map (·.latencyMs)).sum
  completed : run.completedCalls = ledger.consumed.length
  once : (ledger.consumed.map (·.callId)).Nodup
  authorised : ∀ c ∈ ledger.authorised, c ∈ run.reserved ∨ c ∈ ledger.consumed.map (·.callId)
  sequences : ledger.handedOut = List.range' 1 (run.nextSequence - 1)
  counted : run.nextSequence =
    1 + run.completedCalls + Table.size run.reserved + run.pendingAllocations.card + ledger.erred

/-- The ledger of a run agrees with it, and what it has recorded is never reserved again; without the run it is empty. -/
structure Ledger.Kept (r : RunId) (s : System) (ledger : Ledger) : Prop where
  linked : s.Linked
  agrees : ∀ run, s.run? r = some run → ledger.Agrees run
  spent : ∀ c ∈ ledger.consumed.map (·.callId), c < s.controller.uuid ∧ c ∉ s.reservations r ∧ c ∉ s.inFlight
  fresh : s.run? r = none → ledger = {}

open ChangeAux

namespace LedgerAux

theorem reservations_some {s : System} {r : RunId} {run : Run} (h : s.run? r = some run) : s.reservations r = run.reserved := by
  unfold System.reservations
  rw [h]

theorem reservations_none {s : System} {r : RunId} (h : s.run? r = none) : s.reservations r = ∅ := by
  unfold System.reservations
  rw [h]

/-! ## What the callers see -/

/-- An operation that does not act on the run hands out no sequence number of it. -/
theorem handsOut_of_not_acts {s : System} (hL : s.Linked) {r : RunId} {op : Op}
    (h : ∀ run, s.run? r = some run → ¬op.Acts s run) : s.handsOut r op = [] := by
  cases op with
  | allocateBegin r' args =>
    by_cases hact : ∃ run, s.run? r' = some run ∧ (Op.allocateBegin r' args).Acts s run
    · obtain ⟨run, hrun, hact⟩ := hact
      obtain ⟨rfl, _⟩ := hL.runId r' run hrun
      have hne : run.runId ≠ r := by
        rintro rfl
        exact h run hrun hact
      simp only [System.handsOut, begin_acts hrun hact]
      exact if_neg hne
    · obtain ⟨e, he⟩ := begin_refused fun run h => ⟨(hL.runId r' run h).1, fun ha => hact ⟨run, h, ha⟩⟩
      simp only [System.handsOut, he]
  | _ => rfl

/-- An operation that does not act on the run ends no allocation of it. -/
theorem endsInError_of_not_acts {s : System} (hL : s.Linked) {r : RunId} {op : Op}
    (h : ∀ run, s.run? r = some run → ¬op.Acts s run) : s.endsInError r op = 0 := by
  cases op with
  | allocateEnd c answer =>
    cases ha : s.inFlight.lookup c with
    | none => simp only [System.endsInError, ha]
    | some a =>
      have hne : a.runId ≠ r := by
        rintro rfl
        obtain ⟨_, _, run, hrun⟩ := hL.inFlight c a ha
        exact h run hrun ⟨a, ha, (hL.runId _ run hrun).1.symm⟩
      simp only [System.endsInError, ha]
      split
      · rfl
      · exact if_neg hne
  | _ => rfl

/-! ## What the ledger gains -/

/-- An operation that leaves the reservations, hands out no number and ends no allocation leaves the ledger. -/
theorem observe_quiet {r : RunId} {ledger : Ledger} {s s' : System} {op : Op}
    (hr : s'.reservations r = s.reservations r) (hh : s.handsOut r op = []) (he : s.endsInError r op = 0) :
    ledger.observe r s op s' = ledger := by
  simp [Ledger.observe, hr, hh, he]

/-- An operation that consumes one reservation. -/
theorem observe_consume {r : RunId} {ledger : Ledger} {s s' : System} {op : Op} {c : CallId} {b : CallBudget}
    (hb : (s.reservations r).lookup c = some b) (hr : s'.reservations r = (s.reservations r).erase c)
    (hh : s.handsOut r op = []) (he : s.endsInError r op = 0) :
    ledger.observe r s op s' =
      { ledger with consumed := ledger.consumed ++ [⟨c, (op.charge b).1, (op.charge b).2⟩] } := by
  simp [Ledger.observe, hr, hh, he, Table.gone_erase hb]

/-- An operation that consumes every reservation. -/
theorem observe_clear {r : RunId} {ledger : Ledger} {s s' : System} {op : Op} (hr : s'.reservations r = ∅)
    (hh : s.handsOut r op = []) (he : s.endsInError r op = 0) :
    ledger.observe r s op s' =
      { ledger with consumed := ledger.consumed ++
          (s.reservations r).entries.map fun e => ⟨e.1, (op.charge e.2).1, (op.charge e.2).2⟩ } := by
  simp [Ledger.observe, hr, hh, he]

/-! ## The ledger agrees after a change -/

/-- A run that ended agrees with the ledger as it did before. -/
theorem agrees_ended {ledger : Ledger} {run : Run} {status : RunStatus} {now : Int} (h : ledger.Agrees run) :
    ledger.Agrees (run.ended status now) :=
  ⟨h.cost, h.latency, h.completed, h.once, h.authorised, h.sequences, h.counted⟩

/-- One reservation is consumed. -/
theorem agrees_settled {ledger : Ledger} {run : Run} {c : CallId} {b : CallBudget} (h : ledger.Agrees run)
    (hb : run.reserved.lookup c = some b) (hc : c ∉ ledger.consumed.map (·.callId)) (costUsd : ℚ) (latencyMs : Int) :
    Ledger.Agrees { ledger with consumed := ledger.consumed ++ [⟨c, costUsd, latencyMs⟩] }
      (run.settled c costUsd latencyMs) where
  cost := by simp [Run.settled, h.cost]
  latency := by simp [Run.settled, h.latency]
  completed := by simp [Run.settled, h.completed]
  once := by
    rw [List.map_append, List.nodup_append]
    refine ⟨h.once, List.nodup_singleton _, ?_⟩
    intro x hx y hy hxy
    obtain rfl := List.mem_singleton.1 hy
    exact hc (hxy ▸ hx)
  authorised := by
    intro x hx
    simp only [Run.settled, List.map_append, List.mem_append, AList.mem_erase]
    by_cases hxc : x = c
    · exact Or.inr (Or.inr (by simp [hxc]))
    · exact (h.authorised x hx).imp (fun hm => ⟨hxc, hm⟩) Or.inl
  sequences := h.sequences
  counted := by
    have hsize := Table.size_erase hb
    have := h.counted
    simp only [Run.settled]
    omega

/-- Every reservation is consumed. -/
theorem agrees_charged {ledger : Ledger} {run : Run} (h : ledger.Agrees run)
    (hc : ∀ c ∈ ledger.consumed.map (·.callId), c ∉ run.reserved) :
    Ledger.Agrees { ledger with consumed := ledger.consumed ++
        run.reserved.entries.map fun e => ⟨e.1, e.2.costUsd, e.2.latencyMs⟩ } run.charged where
  cost := by simp [Run.charged, h.cost, Run.reservedCost, total, Function.comp_def]
  latency := by simp [Run.charged, h.latency, Run.reservedLatency, total, Function.comp_def]
  completed := by simp [Run.charged, h.completed, Table.size]
  once := by
    rw [List.map_append, List.map_map, List.nodup_append]
    refine ⟨h.once, run.reserved.nodupKeys, ?_⟩
    intro x hx y hy hxy
    exact hc x hx (hxy ▸ hy)
  authorised := by
    intro x hx
    rw [List.map_append, List.map_map, List.mem_append]
    exact Or.inr ((h.authorised x hx).symm)
  sequences := h.sequences
  counted := by
    have := h.counted
    simp only [Run.charged, Table.size_empty]
    omega

/-- A sequence number is handed out. -/
theorem agrees_handOut {ledger : Ledger} {run : Run} {c : CallId} (h : ledger.Agrees run) (hc : c ∉ run.pendingAllocations) :
    Ledger.Agrees { ledger with handedOut := ledger.handedOut ++ [run.nextSequence] }
      { run with nextSequence := run.nextSequence + 1, pendingAllocations := insert c run.pendingAllocations } where
  cost := h.cost
  latency := h.latency
  completed := h.completed
  once := h.once
  authorised := h.authorised
  sequences := by
    have hn : run.nextSequence = run.nextSequence - 1 + 1 := by
      have := h.counted
      omega
    have hlast : 1 + (run.nextSequence - 1) = run.nextSequence := by omega
    rw [h.sequences]
    simp only [Nat.add_sub_cancel]
    conv_rhs => rw [hn, List.range'_concat, Nat.one_mul, hlast]
  counted := by
    have := h.counted
    simp only [Finset.card_insert_of_notMem hc]
    omega

/-- An allocation in progress ends without a reservation. -/
theorem agrees_discard {ledger : Ledger} {run : Run} {c : CallId} (h : ledger.Agrees run) (hc : c ∈ run.pendingAllocations) :
    Ledger.Agrees { ledger with erred := ledger.erred + 1 } (run.discardPending c) where
  cost := h.cost
  latency := h.latency
  completed := h.completed
  once := h.once
  authorised := h.authorised
  sequences := h.sequences
  counted := by
    have := h.counted
    have hcard := Finset.card_erase_add_one hc
    simp only [Run.discardPending]
    omega

/-- An allocation in progress ends with a reservation. -/
theorem agrees_reserve {ledger : Ledger} {run : Run} {c : CallId} {b : CallBudget} (h : ledger.Agrees run)
    (hc : c ∈ run.pendingAllocations) (hn : c ∉ run.reserved) :
    Ledger.Agrees { ledger with authorised := ledger.authorised ++ [c] }
      { run.discardPending c with reserved := run.reserved.insert c b } where
  cost := h.cost
  latency := h.latency
  completed := h.completed
  once := h.once
  authorised := by
    intro x hx
    simp only [AList.mem_insert]
    rcases List.mem_append.1 hx with hx | hx
    · exact (h.authorised x hx).imp Or.inr id
    · exact Or.inl (Or.inl (List.mem_singleton.1 hx))
  sequences := h.sequences
  counted := by
    have := h.counted
    have hcard := Finset.card_erase_add_one hc
    have hsize := Table.size_insert b hn
    simp only [Run.discardPending]
    omega

/-- An operation on a stored run keeps the agreement: one case for each change. -/
theorem agrees_of_change {r : RunId} {s : System} {ledger : Ledger} (hk : ledger.Kept r s) {run run' : Run} {op : Op}
    (h : s.run? r = some run) (h' : (s.step op).run? r = some run') (hch : Change s run op run') :
    (ledger.observe r s op (s.step op)).Agrees run' := by
  have hA := hk.agrees run h
  obtain ⟨hid, _⟩ := hk.linked.runId r run h
  have hres : s.reservations r = run.reserved := reservations_some h
  have hres' : (s.step op).reservations r = run'.reserved := reservations_some h'
  have hspent : ∀ c ∈ ledger.consumed.map (·.callId), c ∉ run.reserved := by
    intro c hc
    rw [← hres]
    exact (hk.spent c hc).2.1
  -- a reservation that is open was never consumed
  have hopen : ∀ {c b}, run.reserved.lookup c = some b → c ∉ ledger.consumed.map (·.callId) :=
    fun hb hc => hspent _ hc (Table.mem_iff_lookup.2 ⟨_, hb⟩)
  cases hch with
  | stay op hn =>
    have hno : ∀ run₀, s.run? r = some run₀ → ¬op.Acts s run₀ := by
      intro run₀ h₀
      rw [h] at h₀
      obtain rfl := Option.some.inj h₀
      exact hn
    rw [observe_quiet (hres'.trans hres.symm) (handsOut_of_not_acts hk.linked hno) (endsInError_of_not_acts hk.linked hno)]
    exact hA
  | handOut args ha =>
    have hnew : s.controller.uuid ∉ run.pendingAllocations := by
      intro hm
      obtain ⟨a, hf, _⟩ := (hk.linked.pending r run h _).1 hm
      exact absurd (hk.linked.inFlight _ a hf).2.1 (Nat.lt_irrefl _)
    have hout : s.handsOut r (.allocateBegin run.runId args) = [run.nextSequence] := by
      subst hid
      simp only [System.handsOut, begin_acts h ha]
      exact if_pos rfl
    have hobs : ledger.observe r s (.allocateBegin run.runId args) (s.step (.allocateBegin run.runId args)) =
        { ledger with handedOut := ledger.handedOut ++ [run.nextSequence] } := by
      simp [Ledger.observe, hres, hres', hout, System.endsInError]
    rw [hobs]
    exact agrees_handOut hA hnew
  | discard a answer ha hr hn =>
    have hm : a.callId ∈ run.pendingAllocations := (hk.linked.pending r run h _).2 ⟨a, ha, hr.trans hid⟩
    have herr : s.endsInError r (.allocateEnd a.callId answer) = 1 := by
      obtain ⟨e, he⟩ := allocateCallEnd_error hn
      have hrun : s.controller.runs a.runId = some run := by
        rw [hr, hid]
        exact h
      simp only [System.endsInError, ha, GlobalController.allocateCallEnd, onRun_some hrun, he]
      exact if_pos (hr.trans hid)
    have hobs : ledger.observe r s (.allocateEnd a.callId answer) (s.step (.allocateEnd a.callId answer)) =
        { ledger with erred := ledger.erred + 1 } := by
      simp [Ledger.observe, hres, hres', herr, System.handsOut, Run.discardPending]
    rw [hobs]
    exact agrees_discard hA hm
  | reserve a decision ha hr hs hv =>
    have hm : a.callId ∈ run.pendingAllocations := (hk.linked.pending r run h _).2 ⟨a, ha, hr.trans hid⟩
    have hnew : a.callId ∉ run.reserved := fun hm =>
      (hk.linked.reserved r run h _ hm).2 (Table.mem_iff_lookup.2 ⟨a, ha⟩)
    have herr : s.endsInError r (.allocateEnd a.callId (some decision)) = 0 := by
      have hrun : s.controller.runs a.runId = some run := by
        rw [hr, hid]
        exact h
      simp only [System.endsInError, ha, GlobalController.allocateCallEnd, onRun_some hrun, allocateCallEnd_ok hs hv]
    have hobs : ledger.observe r s (.allocateEnd a.callId (some decision)) (s.step (.allocateEnd a.callId (some decision))) =
        { ledger with authorised := ledger.authorised ++ [a.callId] } := by
      simp [Ledger.observe, hres, hres', herr, System.handsOut, Table.insert_gone _ hnew]
    rw [hobs]
    exact agrees_reserve hA hm hnew
  | settle c b costUsd latencyMs hb ha hok =>
    rw [observe_consume (hres.symm ▸ hb) (hres'.trans (by rw [hres]; rfl)) rfl rfl]
    exact agrees_settled hA hb (hopen hb) costUsd latencyMs
  | settleFailing c b costUsd latencyMs hb ha hv =>
    rw [observe_consume (hres.symm ▸ hb) (hres'.trans (by rw [hres]; rfl)) rfl rfl]
    exact agrees_ended (agrees_settled hA hb (hopen hb) costUsd latencyMs)
  | fail c b billingUnknown hb ha =>
    rw [observe_consume (hres.symm ▸ hb) (hres'.trans (by rw [hres]; rfl)) rfl rfl]
    cases billingUnknown with
    | false => exact agrees_settled hA hb (hopen hb) 0 0
    | true => exact agrees_settled hA hb (hopen hb) b.costUsd b.latencyMs
  | tool ha hd =>
    rw [observe_quiet (hres'.trans hres.symm) rfl rfl]
    exact ⟨hA.cost, hA.latency, hA.completed, hA.once, hA.authorised, hA.sequences, hA.counted⟩
  | toolFailing ha hd =>
    rw [observe_quiet (hres'.trans hres.symm) rfl rfl]
    exact ⟨hA.cost, hA.latency, hA.completed, hA.once, hA.authorised, hA.sequences, hA.counted⟩
  | finish status ha hd =>
    rw [observe_clear hres' rfl rfl, hres]
    exact agrees_ended (agrees_charged hA hspent)
  | finishLate ha hd =>
    rw [observe_clear hres' rfl rfl, hres]
    exact agrees_ended (agrees_charged hA hspent)

/-- An operation keeps what is recorded from being reserved again. -/
theorem spent_step {r : RunId} {s : System} {ledger : Ledger} (hk : ledger.Kept r s) (op : Op) :
    ∀ c ∈ (ledger.observe r s op (s.step op)).consumed.map (·.callId),
      c < (s.step op).controller.uuid ∧ c ∉ (s.step op).reservations r ∧ c ∉ (s.step op).inFlight := by
  have hflight : ∀ c, c < s.controller.uuid → c ∉ s.inFlight → c ∉ (s.step op).inFlight := by
    intro c hlt hc hm
    rcases mem_inFlight_step hk.linked hm with hm | rfl
    · exact hc hm
    · exact absurd hlt (Nat.lt_irrefl _)
  intro c hc
  simp only [Ledger.observe, List.map_append, List.map_map, List.mem_append] at hc
  rcases hc with hc | hc
  · obtain ⟨hlt, hr, hf⟩ := hk.spent c hc
    refine ⟨lt_of_lt_of_le hlt (uuid_le_step s op), ?_, hflight c hlt hf⟩
    cases h' : (s.step op).run? r with
    | none =>
      rw [reservations_none h']
      exact AList.notMem_empty c
    | some run' =>
      rw [reservations_some h']
      intro hm
      rcases run_of_step hk.linked h' with ⟨run, h, hch⟩ | ⟨_, _, sessionId, policy, _, rfl⟩
      · rcases hch.mem_reserved hm with hm | ⟨a, answer, ha, _⟩
        · exact hr (reservations_some h ▸ hm)
        · exact hf (Table.mem_iff_lookup.2 ⟨a, ha⟩)
      · exact AList.notMem_empty c hm
  · -- a reservation that this operation consumes
    obtain ⟨e, he, rfl⟩ := List.mem_map.1 hc
    obtain ⟨hm, hn⟩ := List.mem_filter.1 he
    have hmem : e.1 ∈ s.reservations r := List.mem_keys_of_mem hm
    cases h : s.run? r with
    | none =>
      rw [reservations_none h] at hmem
      exact absurd hmem (AList.notMem_empty _)
    | some run =>
      rw [reservations_some h] at hmem
      obtain ⟨hlt, hf⟩ := hk.linked.reserved r run h _ hmem
      exact ⟨lt_of_lt_of_le hlt (uuid_le_step s op), by simpa using hn, hflight _ hlt hf⟩

/-- Without the run, an operation adds nothing to its ledger. -/
theorem observe_without {r : RunId} {s : System} {ledger : Ledger} (hk : ledger.Kept r s) (op : Op) (h : s.run? r = none) :
    ledger.observe r s op (s.step op) = ledger := by
  have hno : ∀ run, s.run? r = some run → ¬op.Acts s run := by
    intro run hr
    rw [h] at hr
    cases hr
  refine observe_quiet ?_ (handsOut_of_not_acts hk.linked hno) (endsInError_of_not_acts hk.linked hno)
  rw [reservations_none h]
  cases h' : (s.step op).run? r with
  | none => exact reservations_none h'
  | some run' =>
    rw [reservations_some h']
    rcases run_of_step hk.linked h' with ⟨run, hr, _⟩ | ⟨_, _, sessionId, policy, _, rfl⟩
    · rw [h] at hr
      cases hr
    · rfl

/-- The empty ledger agrees with a run that is only now opened. -/
theorem agrees_opened (r : RunId) (sessionId : PyText.Text) (policy : OperatingPolicy) (now : Int) :
    Ledger.Agrees {} (Run.opened r sessionId policy now) where
  cost := rfl
  latency := rfl
  completed := rfl
  once := List.nodup_nil
  authorised := by intro c hc; cases hc
  sequences := rfl
  counted := rfl

end LedgerAux

open LedgerAux

/-- Every operation keeps the ledger. -/
theorem Ledger.Kept.step {r : RunId} {s : System} {ledger : Ledger} (hk : ledger.Kept r s) (op : Op) :
    (ledger.observe r s op (s.step op)).Kept r (s.step op) where
  linked := hk.linked.step op
  agrees := by
    intro run' h'
    rcases run_of_step hk.linked h' with ⟨run, h, hch⟩ | ⟨h, _, sessionId, policy, _, rfl⟩
    · exact agrees_of_change hk h h' hch
    · rw [observe_without hk op h, hk.fresh h]
      exact agrees_opened _ _ _ _
  spent := spent_step hk op
  fresh := by
    intro h'
    cases h : s.run? r with
    | none => rw [observe_without hk op h, hk.fresh h]
    | some run =>
      obtain ⟨run', h''⟩ := run_stays hk.linked h op
      rw [h'] at h''
      cases h''

/-- The empty ledger is kept before any operation. -/
theorem kept_start (r : RunId) (allocatorModelId : String) : Ledger.Kept r (System.start allocatorModelId) {} where
  linked := linked_start allocatorModelId
  agrees := by intro run h; cases h
  spent := by intro c hc; cases hc
  fresh := fun _ => rfl

/-- The ledger is kept in every state of every run. -/
theorem kept_throughout (r : RunId) (allocatorModelId : String) (ops : List Op) :
    Transition.Throughout (watch r) (fun p => p.2.Kept r p.1) (watchStart allocatorModelId) ops :=
  Transition.throughout_of_invariant (I := fun p : System × Ledger => p.2.Kept r p.1) (fun _ op hk => hk.step op)
    (kept_start r allocatorModelId) ops

/-! ## Inputs of concrete runs -/

/-- The amounts of the examples are not below the least one. -/
theorem oneDollar_valid : (1 : ℚ) / 1000000 ≤ 1 := by decide +kernel

theorem halfDollar_valid : (1 : ℚ) / 1000000 ≤ 1 / 2 := by decide +kernel

theorem fortyCents_valid : (1 : ℚ) / 1000000 ≤ 2 / 5 := by decide +kernel

/-- A policy with a hard cost limit and a deadline of five seconds for the agent, and no other limit. -/
def limitPolicy (limit : ℚ) (h : 1 / 1000000 ≤ limit) : OperatingPolicy where
  hardAgentCostLimitUsd := some limit
  hardAgentLatencyLimitMs := some 5000
  validate_optional_cost := by
    rintro l (hl | hl)
    · obtain rfl := Option.some.inj hl
      exact h
    · cases hl
  validate_optional_latency := by
    rintro l (hl | hl)
    · obtain rfl := Option.some.inj hl
      decide
    · cases hl

/-- A decision that allocates an amount. -/
def plainDecision (costUsd : ℚ) (h : 1 / 1000000 ≤ costUsd) : BudgetAllocationDecision where
  costUsd := costUsd
  latencyMs := 100
  inputCostFraction := 1 / 2
  requiredContextTokens := 1
  reason := "enough for one answer"
  validate_decision_cost := h
  validate_decision_latency := by decide
  validate_input_fraction := by decide +kernel
  validate_required_context := by decide
  validate_importance_overrides := by decide
  validate_reason := by decide

/-- The arguments of a call with one token of input and one candidate. -/
def plainCall : CallArguments where
  task := "answer".toList
  inputTokens := 1
  predictedOutputTokens := 1
  cache :=
    { totalTokens := 1, toolTokens := 0, messageTokens := [1], prefixHash := none, cacheableMessageIndices := []
      protectedMessageIndices := [0], compactableMessageIndices := [], cacheableTokens := 0, protectedDynamicTokens := 1
      compactableTokens := 0 }
  candidates :=
    [{ modelId := "small"
       routes :=
        [{ routeId := "small-1", provider := "first", inputPricePerMillion := 1, outputPricePerMillion := 2, p95TtftMs := 10
           p95TotalLatencyMs := 20
           validate_price := ProviderRoute.readWritePrice_valid
           validate_route_duration := ProviderRoute.quickDuration_valid
           validate_latency_order := ProviderRoute.quickLatency_valid }]
       validate_routes := by simp }]

/-- A run is opened under a limit, and two calls of it are authorised at one amount each. -/
def twoCalls (limit costUsd : ℚ) (hl : 1 / 1000000 ≤ limit) (hc : 1 / 1000000 ≤ costUsd) : List Op :=
  [.startRun "session".toList (limitPolicy limit hl), .allocateBegin 0 plainCall, .allocateBegin 0 plainCall,
    .allocateEnd 1 (some (plainDecision costUsd hc)), .allocateEnd 2 (some (plainDecision costUsd hc))]

end PromptRail
