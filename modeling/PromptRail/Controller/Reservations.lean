import PromptRail.Controller.Ledger

/-!
# Reservations and the end of their run

Four operations end a run. `finish_run` charges what is still reserved; a settlement that breaks a hard limit and a tool
observed past the deadline do not look at the other reservations of the run. A run leaves no reservation behind exactly when
those two never end it under one.
-/

namespace PromptRail

open Transition (Throughout Along throughout_iff_along)

/-- Nothing of an ended run is left: its map of reservations is empty, and every call it authorised was consumed. -/
def NothingOutlives (r : RunId) (p : System × Ledger) : Prop :=
  ∀ run, p.1.run? r = some run → run.status ≠ .active →
    run.reserved = ∅ ∧ ∀ c ∈ p.2.authorised, c ∈ p.2.consumed.map (·.callId)

/-- A settlement that breaks a hard limit consumes the only reservation of the run, and a tool observed past the deadline finds
none. -/
def EndsAlone (r : RunId) (p : System × Ledger) : Op → Prop
  | .settleCall r' c costUsd latencyMs => ∀ run, p.1.run? r = some run →
      (Op.settleCall r' c costUsd latencyMs).Acts p.1 run → run.breaks p.1.controller.now costUsd latencyMs →
        ∀ c' ∈ run.reserved, c' = c
  | .observeTool r' => ∀ run, p.1.run? r = some run → (Op.observeTool r').Acts p.1 run →
      run.pastDeadline p.1.controller.now = true → run.reserved = ∅
  | _ => True

namespace ReservationsAux

/-- Where the ledger is kept, an empty map is all there is to check. -/
theorem nothingOutlives_iff {r : RunId} {p : System × Ledger} (hk : p.2.Kept r p.1) :
    NothingOutlives r p ↔ ∀ run, p.1.run? r = some run → run.status ≠ .active → run.reserved = ∅ := by
  constructor
  · intro h run hr hs
    exact (h run hr hs).1
  · intro h run hr hs
    have he := h run hr hs
    refine ⟨he, ?_⟩
    intro c hc
    rcases (hk.agrees run hr).authorised c hc with hm | hm
    · rw [he] at hm
      exact absurd hm (AList.notMem_empty c)
    · exact hm

theorem erase_eq_empty_iff {c : CallId} {run : Run} : run.reserved.erase c = ∅ ↔ ∀ c' ∈ run.reserved, c' = c := by
  constructor
  · intro h c' hc'
    by_contra hne
    have hm : c' ∈ run.reserved.erase c := AList.mem_erase.2 ⟨hne, hc'⟩
    rw [h] at hm
    exact AList.notMem_empty c' hm
  · intro h
    refine AList.ext ?_
    rw [AList.empty_entries]
    refine List.eq_nil_iff_forall_not_mem.2 ?_
    intro e he
    have hm : e.1 ∈ run.reserved.erase c := List.mem_keys_of_mem he
    rw [AList.mem_erase] at hm
    exact hm.1 (h _ hm.2)

/-- An ended run holds no reservation after a change, if it held none before and the change ends it alone. -/
theorem reserved_empty_of_change {r : RunId} {p : System × Ledger} {op : Op} {run run' : Run}
    (hr : p.1.run? r = some run) (hch : Change p.1 run op run') (hP : run.status ≠ .active → run.reserved = ∅)
    (hg : EndsAlone r p op) (hs : run'.status ≠ .active) : run'.reserved = ∅ := by
  cases hch with
  | stay op h => exact hP hs
  | handOut args h => exact absurd h.2.2.1 hs
  | discard a answer ha hra hn => exact hP hs
  | reserve a decision ha hra hact hv => exact absurd hact hs
  | settle c b costUsd latencyMs hb h hok => exact absurd h.2.2.2.1 hs
  | settleFailing c b costUsd latencyMs hb h hv => exact erase_eq_empty_iff.2 (hg run hr h hv)
  | fail c b billingUnknown hb h => exact absurd h.2.1 hs
  | tool h hd => exact absurd h.2 hs
  | toolFailing h hd => exact hg run hr h hd
  | finish status h hd => rfl
  | finishLate h hd => rfl

/-- A step keeps an ended run without reservations exactly if it ends the run alone. -/
theorem nothingOutlives_step {r : RunId} {p : System × Ledger} {op : Op} (hk : p.2.Kept r p.1) (hP : NothingOutlives r p) :
    NothingOutlives r (watch r p op) ↔ EndsAlone r p op := by
  have hk' : (watch r p op).2.Kept r (watch r p op).1 := hk.step op
  rw [nothingOutlives_iff hk] at hP
  rw [nothingOutlives_iff hk']
  constructor
  · intro h
    cases op with
    | settleCall r' c costUsd latencyMs =>
      intro run hr hact hbr
      obtain ⟨run', hr', hch⟩ := change_of_step hk.linked hr (.settleCall r' c costUsd latencyMs)
      cases hch with
      | stay op hn => exact absurd hact hn
      | settle c b costUsd latencyMs hb ha hok => exact absurd hbr hok
      | settleFailing c b costUsd latencyMs hb ha hv =>
        have he := h _ hr' (by simp [Run.ended])
        exact erase_eq_empty_iff.1 he
    | observeTool r' =>
      intro run hr hact hd
      obtain ⟨run', hr', hch⟩ := change_of_step hk.linked hr (.observeTool r')
      cases hch with
      | stay op hn => exact absurd hact hn
      | tool ha hd' =>
        rw [hd] at hd'
        cases hd'
      | toolFailing ha hd' =>
        have he := h _ hr' (by simp [Run.ended])
        exact he
    | _ => trivial
  · intro hg run' hr' hs
    rcases run_of_step hk.linked hr' with ⟨run, hr, hch⟩ | ⟨_, _, sessionId, policy, _, rfl⟩
    · exact reserved_empty_of_change hr hch (hP run hr) hg hs
    · exact absurd rfl hs

theorem nothingOutlives_start (r : RunId) (allocatorModelId : String) : NothingOutlives r (watchStart allocatorModelId) := by
  intro run h
  cases h

end ReservationsAux

open ReservationsAux

/-- No reservation outlives its run, over every interleaving in which no settlement and no tool observation ends the run under
another reservation, and over no other. -/
theorem no_reservation_outlives_iff (r : RunId) (allocatorModelId : String) (ops : List Op) :
    Throughout (watch r) (NothingOutlives r) (watchStart allocatorModelId) ops ↔
      Along (watch r) (EndsAlone r) (watchStart allocatorModelId) ops :=
  throughout_iff_along (I := fun p => p.2.Kept r p.1) (fun _ op hk => hk.step op) (fun _ _ hk hP => nothingOutlives_step hk hP)
    (kept_start r allocatorModelId) (nothingOutlives_start r allocatorModelId) ops

/-- Two calls are authorised under a limit of one dollar, and the first is settled at two dollars: the run fails, and the
reservation of the second stays in its map for good. -/
theorem overrun_strands_sibling : ¬Throughout (watch 0) (NothingOutlives 0) (watchStart "gemma")
    (twoCalls 1 (2 / 5) oneDollar_valid fortyCents_valid ++ [.settleCall 0 1 2 100]) := by
  intro h
  have hlast := h.last
  have hend : ((Transition.exec (watch 0) (watchStart "gemma")
      (twoCalls 1 (2 / 5) oneDollar_valid fortyCents_valid ++ [.settleCall 0 1 2 100])).1.run? 0).map
        (fun run => (run.status, run.reserved.keys)) = some (.failed, [2]) := by decide +kernel
  obtain ⟨run, hr, hrun⟩ := Option.map_eq_some_iff.1 hend
  obtain ⟨hs, hkeys⟩ := Prod.mk.inj hrun
  obtain ⟨he, _⟩ := hlast run hr (by rw [hs]; decide)
  rw [he] at hkeys
  cases hkeys

end PromptRail
