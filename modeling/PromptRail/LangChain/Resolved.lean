import PromptRail.LangChain.Middleware
import PromptRail.LangChain.NamedRoute
import PromptRail.Gateway.Release

/-!
# Every call is resolved once

A call belongs to the loop that it was allocated for, and its history is one of seven: the four places at which a loop can abandon it, and
the settlement, close it. A usage that `observe_model` refuses before it settles is the exception: `after_model` has taken the call from
the map by then, and nothing fails it.
-/

namespace PromptRail

open PyText (Text)
open Table (Dict)
open Transition (Throughout Along throughout_of_along)

namespace LangChain

open Gateway

/-- What the middleware makes of its calls. -/
structure ResolvesOnce (m : PromptRailMiddleware) : Prop where
  resolved : ∀ loop runId c, (m.loops loop).phase.AtRest → .allocated loop runId c ∈ m.history → ∃ e ∈ m.history, e.callId = c ∧ e.resolves
  once : ∀ c, (m.history.filter fun e => decide (e.callId = c) && e.resolves).length ≤ 1
  own : ∀ c usage, .settled c usage ∈ m.history → ∀ usage', .extracted c usage' ∈ m.history ↔ usage' = usage
  billing : ∀ c billingUnknown, .failed c billingUnknown ∈ m.history → (billingUnknown = false ↔ .invoked c ∉ m.history)
  released : ∀ loop runId c, .allocated loop runId c ∈ m.history → (∃ e ∈ m.history, e.callId = c ∧ e.resolves) →
    ¬Reserved m.gateway.system runId c
  pending : ∀ c, c ∈ m.pending ↔ ∃ loop, (m.loops loop).phase = .returned ∧ (m.loops loop).state.pendingCallId = some c

/-- A usage that the settlement of a call accepts: of its model and a provider of its plan, and with a cost that is one. -/
structure Settles (call : PreparedCall) (usage : ModelUsage) : Prop where
  model : usage.modelId = call.model.candidate.modelId
  provider : ∃ route ∈ call.provider.routes, route.provider = usage.provider
  cost : ∀ cost, usage.costUsd = some cost → ∃ x, cost = some x ∧ 0 ≤ x

/-- What the extractor returns for a call settles it. -/
def ExtractsForCall (m : PromptRailMiddleware) : Action → Prop
  | .turn loop (.extract (some usage)) => ∀ call, (m.loops loop).phase = .answered call → Settles call usage
  | _ => True

instance (call : PreparedCall) (usage : ModelUsage) : Decidable (Settles call usage) :=
  decidable_of_iff (usage.modelId = call.model.candidate.modelId ∧ (∃ route ∈ call.provider.routes, route.provider = usage.provider) ∧
      usage.costUsd.all fun cost => cost.any fun x => decide (0 ≤ x)) <| by
    constructor
    · rintro ⟨hmodel, hprovider, hcost⟩
      refine ⟨hmodel, hprovider, fun cost hreported => ?_⟩
      rw [hreported] at hcost
      obtain ⟨x, hx, hnonneg⟩ := (Option.any_eq_true _ _).1 hcost
      exact ⟨x, hx, of_decide_eq_true hnonneg⟩
    · rintro ⟨hmodel, hprovider, hcost⟩
      refine ⟨hmodel, hprovider, ?_⟩
      cases hreported : usage.costUsd with
      | none => rfl
      | some cost =>
        obtain ⟨x, rfl, hnonneg⟩ := hcost cost hreported
        exact decide_eq_true hnonneg

instance (m : PromptRailMiddleware) : ∀ action, Decidable (ExtractsForCall m action)
  | .turn loop (.extract (some usage)) =>
    match hphase : (m.loops loop).phase with
    | .answered call =>
      decidable_of_iff (Settles call usage) ⟨fun h _ hcall => Phase.answered.inj (hphase.symm.trans hcall) ▸ h, fun h => h call hphase⟩
    | .created | .idle | .allocating _ | .preparing _ | .prepared _ | .handling _ | .returned | .taken _ | .abandoned _ | .stopped
    | .finished => isTrue fun _ hcall => by rw [hphase] at hcall; cases hcall
  | .elapse _ | .turn _ (.beforeAgent _ _ _) | .turn _ .raise | .turn _ (.begin _) | .turn _ (.answer _) | .turn _ .interrupt
  | .turn _ (.prepare _ _) | .turn _ (.route _) | .turn _ (.handle _) | .turn _ (.extract none) | .turn _ .take | .turn _ .observe
  | .turn _ (.tool _) | .turn _ .afterAgent => isTrue trivial

namespace ResolvedAux

open ReleaseAux ChangeAux

variable {s s' : System} {r : RunId} {c : CallId} {op : Op}

/-! ## What an operation of one run leaves of the others -/

/-- The operation is one of a run, or of none that is stored. -/
def Own (s : System) (r : RunId) : Op → Prop
  | .elapse _ | .startRun _ _ => True
  | .allocateEnd c _ => ∀ a, s.inFlight.lookup c = some a → a.runId = r
  | .allocateBegin r' _ | .settleCall r' _ _ _ | .failCall r' _ _ | .observeTool r' | .finishRun r' _ => r' = r

/-- What an operation of a run leaves. -/
structure Leaves (s s' : System) (r : RunId) : Prop where
  linked : s'.Linked
  runs : ∀ r' run, r' ≠ r → s.run? r' = some run → s'.run? r' = some run
  known : ∀ r' run, s.run? r' = some run → ∃ run', s'.run? r' = some run'
  inFlight : ∀ a, a.runId ≠ r → s.inFlight.lookup a.callId = some a → s'.inFlight.lookup a.callId = some a
  spent : ∀ c, Spent s c → Spent s' c
  reserved : ∀ c r', Spent s c → Reserved s' r' c → Reserved s r' c

theorem leaves_refl (hL : s.Linked) (r : RunId) : Leaves s s r :=
  ⟨hL, fun _ _ _ h => h, fun _ run h => ⟨run, h⟩, fun _ _ h => h, fun _ h => h, fun _ _ _ h => h⟩

/-- A change that does not act leaves the run. -/
theorem change_stay {run run' : Run} (h : Change s run op run') (hacts : ¬op.Acts s run) : run' = run := by
  cases h with
  | stay => rfl
  | handOut args h => exact absurd h hacts
  | discard a answer ha hr => exact absurd ⟨a, ha, hr⟩ hacts
  | reserve a decision ha hr => exact absurd ⟨a, ha, hr⟩ hacts
  | settle c b costUsd latencyMs hb h => exact absurd h hacts
  | settleFailing c b costUsd latencyMs hb h => exact absurd h hacts
  | fail c b billingUnknown hb h => exact absurd h hacts
  | tool h => exact absurd h hacts
  | toolFailing h => exact absurd h hacts
  | finish status h => exact absurd h hacts
  | finishLate h => exact absurd h hacts

theorem not_acts_of_own {run : Run} (hown : Own s r op) (hne : run.runId ≠ r) : ¬op.Acts s run := by
  cases op with
  | elapse ms => exact id
  | startRun sessionId policy => exact id
  | allocateEnd c answer => exact fun ⟨a, ha, hrun⟩ => hne (hrun.symm.trans (hown a ha))
  | allocateBegin r' args => exact fun h => hne (h.1.symm.trans hown)
  | settleCall r' c costUsd latencyMs => exact fun h => hne (h.1.symm.trans hown)
  | failCall r' c billingUnknown => exact fun h => hne (h.1.symm.trans hown)
  | observeTool r' => exact fun h => hne (h.1.symm.trans hown)
  | finishRun r' status => exact fun h => hne (h.1.symm.trans hown)

theorem leaves_step (hL : s.Linked) (hown : Own s r op) : Leaves s (s.step op) r where
  linked := hL.step op
  runs r' run hne hrun := by
    obtain ⟨run', hrun', hchange⟩ := change_of_step hL hrun op
    rw [hrun', change_stay hchange (not_acts_of_own hown ((hL.runId r' run hrun).1.symm ▸ hne))]
  known r' run hrun := by
    obtain ⟨run', hrun', -⟩ := change_of_step hL hrun op
    exact ⟨run', hrun'⟩
  inFlight a hne ha := by
    refine inFlight_stays hL ha fun answer hop => hne ?_
    subst hop
    exact hown a ha
  spent c h := spent_step hL h op
  reserved c r' h := reserved_of_step hL h

/-! ## The history of a call -/

/-- What has become of a call. -/
inductive Life where
  | fresh
  | prepared
  | invoked
  | extracted (usage : ModelUsage)
  | settled (usage : ModelUsage)
  | failed (billingUnknown : Bool)

/-- The call is in the hands of its loop. -/
def Life.Open : Life → Prop
  | .prepared | .invoked | .extracted _ => True
  | _ => False

/-- The call is resolved. -/
def Life.Closed : Life → Prop
  | .settled _ | .failed _ => True
  | _ => False

/-- The events of a call. -/
def Life.events (loop : LoopId) (runId : RunId) (c : CallId) : Life → List CallEvent
  | .fresh => []
  | .prepared => [.allocated loop runId c]
  | .invoked => [.allocated loop runId c, .invoked c]
  | .extracted usage => [.allocated loop runId c, .invoked c, .extracted c usage]
  | .settled usage => [.allocated loop runId c, .invoked c, .extracted c usage, .settled c usage]
  | .failed false => [.allocated loop runId c, .failed c false]
  | .failed true => [.allocated loop runId c, .invoked c, .failed c true]

/-- What has happened to a call. -/
def about (m : PromptRailMiddleware) (c : CallId) : List CallEvent := m.history.filter fun e => decide (e.callId = c)

variable {m m' : PromptRailMiddleware} {loop : LoopId}

theorem mem_about {e : CallEvent} : e ∈ about m c ↔ e ∈ m.history ∧ e.callId = c := by
  simp [about]

/-- The call that a loop has in its hands. -/
def current (l : AgentLoop) : Option CallId :=
  match l.phase with
  | .preparing budget => some budget.callId
  | .prepared call | .handling call | .answered call => some call.budget.callId
  | .returned => l.state.pendingCallId
  | .taken pending => some pending.prepared.budget.callId
  | _ => none

/-- A loop has a call in its hands, and its run holds the reservation. -/
structure Custody (m : PromptRailMiddleware) (loop : LoopId) (budget : CallBudget) (life : Life) : Prop where
  runId : (m.loops loop).state.runId = some budget.runId
  reserved : ∃ run, m.gateway.system.run? budget.runId = some run ∧ run.status = .active ∧ budget.callId ∈ run.reserved
  events : about m budget.callId = life.events loop budget.runId budget.callId

/-- What holds of a loop in a phase. -/
def PhaseOk (m : PromptRailMiddleware) (loop : LoopId) : Phase → Prop
  | .created | .idle | .stopped | .finished => True
  | .allocating a | .abandoned a =>
    (m.loops loop).state.runId = some a.runId ∧ m.gateway.system.inFlight.lookup a.callId = some a
  | .preparing budget => Custody m loop budget .prepared
  | .prepared call => Custody m loop call.budget .prepared
  | .handling call | .answered call => Custody m loop call.budget .invoked
  | .returned => ∃ p, (m.loops loop).state.pendingCallId = some p.prepared.budget.callId ∧
    m.pending.lookup p.prepared.budget.callId = some p ∧ Custody m loop p.prepared.budget (.extracted p.usage) ∧ Settles p.prepared p.usage
  | .taken p => Custody m loop p.prepared.budget (.extracted p.usage) ∧ Settles p.prepared p.usage

/-- What holds of a call. -/
structure CallOk (m : PromptRailMiddleware) (c : CallId) (loop : LoopId) (runId : RunId) (life : Life) : Prop where
  events : about m c = life.events loop runId c
  spent : life ≠ .fresh → Spent m.gateway.system c
  inHand : life.Open → current (m.loops loop) = some c
  released : life.Closed → ¬Reserved m.gateway.system runId c

/-- What every run keeps. -/
structure Kept (m : PromptRailMiddleware) : Prop where
  linked : m.gateway.system.Linked
  known : ∀ loop runId, (m.loops loop).state.runId = some runId → ∃ run, m.gateway.system.run? runId = some run
  distinct : ∀ loop loop' runId, (m.loops loop).state.runId = some runId → (m.loops loop').state.runId = some runId → loop = loop'
  loop : ∀ loop, PhaseOk m loop (m.loops loop).phase
  call : ∀ c, ∃ loop runId life, CallOk m c loop runId life
  pending : ∀ c ∈ m.pending, ∃ loop, (m.loops loop).phase = .returned ∧ (m.loops loop).state.pendingCallId = some c

/-! ## What is kept says what becomes of the calls -/

theorem Life.of_allocated {loop' : LoopId} {runId runId' : RunId} {life : Life}
    (h : .allocated loop' runId' c ∈ life.events loop runId c) : loop' = loop ∧ runId' = runId ∧ life ≠ .fresh := by
  rcases life with _ | _ | _ | _ | _ | (_ | _) <;> simp [Life.events] at h ⊢ <;> exact h

theorem Life.closed_iff {runId : RunId} {life : Life} : (∃ e ∈ life.events loop runId c, e.resolves) ↔ life.Closed := by
  rcases life with _ | _ | _ | _ | _ | (_ | _) <;> simp [Life.events, Life.Closed, CallEvent.resolves]

theorem Life.open_or_closed {life : Life} (h : life ≠ .fresh) : life.Open ∨ life.Closed := by
  cases life with
  | fresh => exact absurd rfl h
  | prepared => exact Or.inl trivial
  | invoked => exact Or.inl trivial
  | extracted usage => exact Or.inl trivial
  | settled usage => exact Or.inr trivial
  | failed billingUnknown => exact Or.inr trivial

theorem resolves_iff : (∃ e ∈ m.history, e.callId = c ∧ e.resolves) ↔ ∃ e ∈ about m c, e.resolves := by
  simp only [mem_about, and_assoc]

theorem current_of_atRest {l : AgentLoop} (h : l.phase.AtRest) : current l = none := by
  unfold current
  cases hphase : l.phase <;> rw [hphase] at h <;> first | rfl | exact absurd h id

theorem resolvesOnce_of_kept (h : Kept m) : ResolvesOnce m where
  resolved loop runId c hrest hallocated := by
    obtain ⟨loop', runId', life, hc⟩ := h.call c
    have hmem : .allocated loop runId c ∈ about m c := mem_about.2 ⟨hallocated, rfl⟩
    rw [hc.events] at hmem
    obtain ⟨rfl, rfl, hfresh⟩ := Life.of_allocated hmem
    rcases Life.open_or_closed hfresh with hopen | hclosed
    · have hcurrent := hc.inHand hopen
      rw [current_of_atRest hrest] at hcurrent
      cases hcurrent
    · rw [resolves_iff, hc.events]
      exact Life.closed_iff.2 hclosed
  once c := by
    obtain ⟨loop, runId, life, hc⟩ := h.call c
    have hfilter : (m.history.filter fun e => decide (e.callId = c) && e.resolves) =
        (about m c).filter fun e => e.resolves := by
      rw [about, List.filter_filter]
      simp only [Bool.and_comm]
    rw [hfilter, hc.events]
    rcases life with _ | _ | _ | _ | _ | (_ | _) <;> simp [Life.events, CallEvent.resolves]
  own c usage hsettled usage' := by
    obtain ⟨loop, runId, life, hc⟩ := h.call c
    have hmem : .settled c usage ∈ about m c := mem_about.2 ⟨hsettled, rfl⟩
    have hiff : .extracted c usage' ∈ m.history ↔ .extracted c usage' ∈ about m c := by simp [mem_about, CallEvent.callId]
    rw [hc.events] at hmem hiff
    rw [hiff]
    rcases life with _ | _ | _ | _ | _ | (_ | _) <;> simp [Life.events] at hmem ⊢
    rw [hmem]
  billing c billingUnknown hfailed := by
    obtain ⟨loop, runId, life, hc⟩ := h.call c
    have hmem : .failed c billingUnknown ∈ about m c := mem_about.2 ⟨hfailed, rfl⟩
    have hiff : .invoked c ∈ m.history ↔ .invoked c ∈ about m c := by simp [mem_about, CallEvent.callId]
    rw [hc.events] at hmem hiff
    rw [hiff]
    rcases life with _ | _ | _ | _ | _ | (_ | _) <;> simp [Life.events] at hmem ⊢ <;> simp [hmem]
  released loop runId c hallocated hresolved := by
    obtain ⟨loop', runId', life, hc⟩ := h.call c
    have hmem : .allocated loop runId c ∈ about m c := mem_about.2 ⟨hallocated, rfl⟩
    rw [hc.events] at hmem
    obtain ⟨-, rfl, -⟩ := Life.of_allocated hmem
    rw [resolves_iff, hc.events] at hresolved
    exact hc.released (Life.closed_iff.1 hresolved)
  pending c := by
    refine ⟨h.pending c, fun ⟨loop, hphase, hstate⟩ => ?_⟩
    have hloop := h.loop loop
    rw [hphase] at hloop
    obtain ⟨p, hcall, hlookup, -⟩ := hloop
    obtain rfl := Option.some.inj (hstate.symm.trans hcall)
    exact AList.lookup_isSome.1 (by rw [hlookup]; rfl)

/-! ## A turn leaves the other loops -/

/-- A call in custody was handed out, so that its number is in flight no more. -/
theorem Custody.spent {budget : CallBudget} {life : Life} (h : Custody m loop budget life) (hL : m.gateway.system.Linked) :
    Spent m.gateway.system budget.callId := by
  obtain ⟨run, hrun, -, hreserved⟩ := h.reserved
  obtain ⟨hdrawn, hlanded⟩ := hL.reserved _ run hrun _ hreserved
  exact ⟨hdrawn, hlanded⟩

/-- The call that a loop has in its hands is in its custody. -/
theorem custody_of_current (h : Kept m) (hcurrent : current (m.loops loop) = some c) :
    ∃ budget life, budget.callId = c ∧ life ≠ .fresh ∧ life.Open ∧ Custody m loop budget life := by
  have hloop := h.loop loop
  unfold current at hcurrent
  cases hphase : (m.loops loop).phase with
  | preparing budget =>
    rw [hphase] at hloop hcurrent
    exact ⟨budget, .prepared, Option.some.inj hcurrent, nofun, trivial, hloop⟩
  | prepared call =>
    rw [hphase] at hloop hcurrent
    exact ⟨call.budget, .prepared, Option.some.inj hcurrent, nofun, trivial, hloop⟩
  | handling call =>
    rw [hphase] at hloop hcurrent
    exact ⟨call.budget, .invoked, Option.some.inj hcurrent, nofun, trivial, hloop⟩
  | answered call =>
    rw [hphase] at hloop hcurrent
    exact ⟨call.budget, .invoked, Option.some.inj hcurrent, nofun, trivial, hloop⟩
  | returned =>
    rw [hphase] at hloop hcurrent
    obtain ⟨p, hcall, -, hcustody, -⟩ := hloop
    exact ⟨p.prepared.budget, .extracted p.usage, Option.some.inj (hcall.symm.trans hcurrent), nofun, trivial, hcustody⟩
  | taken p =>
    rw [hphase] at hloop hcurrent
    exact ⟨p.prepared.budget, .extracted p.usage, Option.some.inj hcurrent, nofun, trivial, hloop.1⟩
  | _ =>
    rw [hphase] at hcurrent
    cases hcurrent

/-- Two loops have no call in common. -/
theorem current_distinct (h : Kept m) {loop' : LoopId} (hne : loop' ≠ loop) (hcurrent : current (m.loops loop) = some c) :
    current (m.loops loop') ≠ some c := by
  intro hcurrent'
  obtain ⟨budget, life, rfl, hfresh, hopen, hcustody⟩ := custody_of_current h hcurrent
  obtain ⟨budget', life', hsame, -, hopen', hcustody'⟩ := custody_of_current h hcurrent'
  have hallocated : .allocated loop' budget'.runId budget'.callId ∈ about m budget.callId := by
    rw [← hsame, hcustody'.events]
    rcases life' with _ | _ | _ | _ | _ | (_ | _) <;> simp [Life.events, Life.Open] at hopen' ⊢
  rw [hcustody.events, hsame] at hallocated
  exact hne (Life.of_allocated hallocated).1

/-- The run of a loop, or the next number where it has none. -/
def ownRun (m : PromptRailMiddleware) (loop : LoopId) : RunId :=
  (m.loops loop).state.runId.getD m.gateway.system.controller.uuid

theorem foreign_uuid (h : Kept m) (loop' : LoopId) : (m.loops loop').state.runId ≠ some m.gateway.system.controller.uuid := by
  intro hrun
  obtain ⟨run, hknown⟩ := h.known loop' _ hrun
  exact absurd (h.linked.runId _ run hknown).2 (lt_irrefl _)

theorem foreign_ownRun (h : Kept m) {loop' : LoopId} (hne : loop' ≠ loop) : (m.loops loop').state.runId ≠ some (ownRun m loop) := by
  unfold ownRun
  cases hrun : (m.loops loop).state.runId with
  | none => exact foreign_uuid h loop'
  | some runId => exact fun hrun' => hne (h.distinct loop' loop runId hrun' hrun)

/-- What a turn of a loop changes: its own run, its own phase, and one call at most. -/
structure Turn (m m' : PromptRailMiddleware) (loop : LoopId) (r : RunId) (own : Option CallId) : Prop where
  others : ∀ loop' ≠ loop, m'.loops loop' = m.loops loop'
  leaves : Leaves m.gateway.system m'.gateway.system r
  foreign : ∀ loop' ≠ loop, (m.loops loop').state.runId ≠ some r
  runId : ∀ r', (m'.loops loop).state.runId = some r' → r' = r ∧ ∃ run, m'.gateway.system.run? r' = some run
  about : ∀ c, own ≠ some c → about m' c = about m c
  current : ∀ c, current (m.loops loop) = some c → own = some c
  foreignCall : ∀ loop' ≠ loop, ∀ c, own = some c → ResolvedAux.current (m.loops loop') ≠ some c
  pending : ∀ c, own ≠ some c → m'.pending.lookup c = m.pending.lookup c

variable {own : Option CallId}

theorem Custody.frame {loop' : LoopId} {budget : CallBudget} {life : Life} (hturn : Turn m m' loop r own) (hne : loop' ≠ loop)
    (hcurrent : ResolvedAux.current (m.loops loop') = some budget.callId) (h : Custody m loop' budget life) :
    Custody m' loop' budget life where
  runId := by rw [hturn.others loop' hne, h.runId]
  reserved := by
    obtain ⟨run, hrun, hactive, hreserved⟩ := h.reserved
    have hother : budget.runId ≠ r := fun heq => hturn.foreign loop' hne (heq ▸ h.runId)
    exact ⟨run, hturn.leaves.runs _ run hother hrun, hactive, hreserved⟩
  events := by
    rw [hturn.about _ fun hown => hturn.foreignCall loop' hne _ hown hcurrent, h.events]

/-- What holds of a loop depends on its allocation, its call and what the map has of it. -/
theorem phaseOk_congr (hloop : m'.loops loop = m.loops loop)
    (hflight : ∀ a, (m.loops loop).state.runId = some a.runId → m.gateway.system.inFlight.lookup a.callId = some a →
      m'.gateway.system.inFlight.lookup a.callId = some a)
    (hcustody : ∀ budget life, ResolvedAux.current (m.loops loop) = some budget.callId → Custody m loop budget life →
      Custody m' loop budget life)
    (hlookup : ∀ c, ResolvedAux.current (m.loops loop) = some c → m'.pending.lookup c = m.pending.lookup c)
    (h : PhaseOk m loop (m.loops loop).phase) : PhaseOk m' loop (m'.loops loop).phase := by
  have hcurrent : ∀ {phase c}, (m.loops loop).phase = phase → ResolvedAux.current { m.loops loop with phase } = some c →
      ResolvedAux.current (m.loops loop) = some c := by
    intro phase c hphase hown
    rw [← hown, ← hphase]
  rw [hloop]
  cases hphase : (m.loops loop).phase with
  | created => trivial
  | idle => trivial
  | stopped => trivial
  | finished => trivial
  | allocating a =>
    rw [hphase] at h
    exact ⟨by rw [hloop]; exact h.1, hflight a h.1 h.2⟩
  | abandoned a =>
    rw [hphase] at h
    exact ⟨by rw [hloop]; exact h.1, hflight a h.1 h.2⟩
  | preparing budget =>
    rw [hphase] at h
    exact hcustody _ _ (hcurrent hphase rfl) h
  | prepared call =>
    rw [hphase] at h
    exact hcustody _ _ (hcurrent hphase rfl) h
  | handling call =>
    rw [hphase] at h
    exact hcustody _ _ (hcurrent hphase rfl) h
  | answered call =>
    rw [hphase] at h
    exact hcustody _ _ (hcurrent hphase rfl) h
  | returned =>
    rw [hphase] at h
    obtain ⟨p, hstate, hstored, hheld, hsettles⟩ := h
    have hown := hcurrent hphase hstate
    exact ⟨p, by rw [hloop, hstate], by rw [hlookup _ hown, hstored], hcustody _ _ hown hheld, hsettles⟩
  | taken p =>
    rw [hphase] at h
    exact ⟨hcustody _ _ (hcurrent hphase rfl) h.1, h.2⟩

theorem phaseOk_frame {loop' : LoopId} (hturn : Turn m m' loop r own) (hne : loop' ≠ loop)
    (h : PhaseOk m loop' (m.loops loop').phase) : PhaseOk m' loop' (m'.loops loop').phase := by
  refine phaseOk_congr (hturn.others loop' hne) (fun a hrun ha => ?_) (fun budget life hcurrent hheld => hheld.frame hturn hne hcurrent)
    (fun c hcurrent => hturn.pending c fun hown => hturn.foreignCall loop' hne c hown hcurrent) h
  exact hturn.leaves.inFlight a (fun heq => hturn.foreign loop' hne (heq ▸ hrun)) ha

/-- A turn keeps everything once it keeps its own loop and its own call. -/
theorem kept_turn (h : Kept m) (hturn : Turn m m' loop r own) (hloop : PhaseOk m' loop (m'.loops loop).phase)
    (hcall : ∀ c, own = some c → ∃ runId life, CallOk m' c loop runId life)
    (hpending : ∀ c, own = some c → c ∈ m'.pending → (m'.loops loop).phase = .returned ∧ (m'.loops loop).state.pendingCallId = some c) :
    Kept m' where
  linked := hturn.leaves.linked
  known loop' runId hrun := by
    by_cases hself : loop' = loop
    · subst hself
      exact (hturn.runId runId hrun).2
    · rw [hturn.others loop' hself] at hrun
      obtain ⟨run, hknown⟩ := h.known loop' runId hrun
      exact hturn.leaves.known runId run hknown
  distinct loop₁ loop₂ runId h₁ h₂ := by
    by_cases hself₁ : loop₁ = loop
    · by_cases hself₂ : loop₂ = loop
      · rw [hself₁, hself₂]
      · subst hself₁
        rw [hturn.others loop₂ hself₂, (hturn.runId runId h₁).1] at h₂
        exact absurd h₂ (hturn.foreign loop₂ hself₂)
    · rw [hturn.others loop₁ hself₁] at h₁
      by_cases hself₂ : loop₂ = loop
      · subst hself₂
        rw [(hturn.runId runId h₂).1] at h₁
        exact absurd h₁ (hturn.foreign loop₁ hself₁)
      · rw [hturn.others loop₂ hself₂] at h₂
        exact h.distinct loop₁ loop₂ runId h₁ h₂
  loop loop' := by
    by_cases hself : loop' = loop
    · rw [hself]
      exact hloop
    · exact phaseOk_frame hturn hself (h.loop loop')
  call c := by
    by_cases hown : own = some c
    · exact ⟨loop, hcall c hown⟩
    · obtain ⟨loop', runId, life, hc⟩ := h.call c
      refine ⟨loop', runId, life, by rw [hturn.about c hown, hc.events], fun hlife => hturn.leaves.spent c (hc.spent hlife),
        fun hopen => ?_, fun hclosed hreserved => ?_⟩
      · have hcurrent := hc.inHand hopen
        rw [hturn.others loop' fun hself => hown (hturn.current c (hself ▸ hcurrent)), hcurrent]
      · refine hc.released hclosed (hturn.leaves.reserved c runId (hc.spent ?_) hreserved)
        rintro rfl
        exact hclosed
  pending c hmem := by
    by_cases hown : own = some c
    · exact ⟨loop, hpending c hown hmem⟩
    · rw [← AList.lookup_isSome, hturn.pending c hown, AList.lookup_isSome] at hmem
      obtain ⟨loop', hphase, hstate⟩ := h.pending c hmem
      have hcurrent : ResolvedAux.current (m.loops loop') = some c := by
        unfold ResolvedAux.current
        rw [hphase, hstate]
      have hne : loop' ≠ loop := fun hself => hown (hturn.current c (hself ▸ hcurrent))
      exact ⟨loop', by rw [hturn.others loop' hne, hphase], by rw [hturn.others loop' hne, hstate]⟩

/-! ## Turns without a call -/

theorem ownRun_of_state {runId : RunId} (h : (m.loops loop).state.runId = some runId) : ownRun m loop = runId := by
  unfold ownRun
  rw [h, Option.getD_some]

/-- A loop without a call takes an operation of a run that no other loop has. -/
theorem kept_quiet (h : Kept m) (hnone : current (m.loops loop) = none) {g : PromptRailGateway} {l : AgentLoop}
    (hleaves : Leaves m.gateway.system g.system r) (hforeign : ∀ loop' ≠ loop, (m.loops loop').state.runId ≠ some r)
    (hrun : ∀ r', l.state.runId = some r' → r' = r ∧ ∃ run, g.system.run? r' = some run)
    (hphase : PhaseOk ({ m with gateway := g }.put loop l) loop l.phase) : Kept ({ m with gateway := g }.put loop l) := by
  have hself : ({ m with gateway := g }.put loop l).loops loop = l := Function.update_self ..
  have hturn : Turn m ({ m with gateway := g }.put loop l) loop r none :=
    { others := fun loop' hne => Function.update_of_ne hne ..
      leaves := hleaves
      foreign := hforeign
      runId := fun r' => by rw [hself]; exact hrun r'
      about := fun _ _ => rfl
      current := fun c hc => by rw [hnone] at hc; cases hc
      foreignCall := fun _ _ _ hc => by cases hc
      pending := fun _ _ => rfl }
  exact kept_turn h hturn (by rw [hself]; exact hphase) (fun c hc => by cases hc) (fun c hc => by cases hc)

/-- A loop that keeps its run keeps one that is known. -/
theorem runId_of_state (h : Kept m) (hleaves : Leaves m.gateway.system s' (ownRun m loop)) {l : AgentLoop}
    (hstate : l.state.runId = (m.loops loop).state.runId) (r' : RunId) (hr' : l.state.runId = some r') :
    r' = ownRun m loop ∧ ∃ run, s'.run? r' = some run := by
  rw [hstate] at hr'
  obtain ⟨run, hknown⟩ := h.known loop r' hr'
  exact ⟨(ownRun_of_state hr').symm, hleaves.known r' run hknown⟩

/-- A loop without a call moves on after an operation of its run. -/
theorem kept_move (h : Kept m) (hnone : current (m.loops loop) = none) {g : PromptRailGateway}
    (hleaves : Leaves m.gateway.system g.system (ownRun m loop)) {phase : Phase}
    (hphase : PhaseOk ({ m with gateway := g }.enter loop phase) loop phase) : Kept ({ m with gateway := g }.enter loop phase) := by
  exact kept_quiet h hnone hleaves (fun loop' hne => foreign_ownRun h hne) (runId_of_state h hleaves rfl) hphase

/-- A loop without a call stops. -/
theorem kept_stopped (h : Kept m) (hnone : current (m.loops loop) = none) : Kept (m.enter loop .stopped) :=
  kept_move h hnone (leaves_refl h.linked _) trivial

/-- `start_run` does nothing, or opens a run under the next number. -/
theorem startRun_cases (g : PromptRailGateway) (sessionId : Text) (candidates : List Routing.RouterCandidate)
    (synthesized : Except GatewayError Routing.RoutingPolicy) :
    (∃ e, (g.startRun sessionId candidates synthesized).1 = .error e ∧
      (g.startRun sessionId candidates synthesized).2.system = g.system) ∨
    ∃ snapshot policy, (g.startRun sessionId candidates synthesized).1 = .ok snapshot ∧
      snapshot.runId = g.system.controller.uuid ∧
      (g.startRun sessionId candidates synthesized).2.system = g.system.step (.startRun sessionId policy) ∧
      ∃ run, (g.system.step (.startRun sessionId policy)).run? snapshot.runId = some run := by
  unfold PromptRailGateway.startRun
  split
  · exact Or.inl ⟨_, rfl, rfl⟩
  split
  · exact Or.inl ⟨_, rfl, rfl⟩
  cases synthesized with
  | error e => exact Or.inl ⟨_, rfl, rfl⟩
  | ok policy =>
    dsimp only
    by_cases hblank : (PyText.strip sessionId).isEmpty = true
    · have hstart : g.system.controller.startRun sessionId policy.toOperatingPolicy =
          (.error (.valueError "session_id cannot be empty"), g.system.controller) := by
        unfold GlobalController.startRun
        rw [if_pos hblank]
      rw [hstart]
      exact Or.inl ⟨_, rfl, rfl⟩
    · obtain ⟨run, hid, hstart⟩ : ∃ run : Run, run.runId = g.system.controller.uuid ∧
          g.system.controller.startRun sessionId policy.toOperatingPolicy = (.ok run.snapshot,
            { g.system.controller with
              runs := Function.update g.system.controller.runs g.system.controller.uuid (some run)
              uuid := g.system.controller.uuid + 1 }) := by
        refine ⟨Run.opened g.system.controller.uuid sessionId policy.toOperatingPolicy g.system.controller.now, rfl, ?_⟩
        unfold GlobalController.startRun
        rw [if_neg hblank]
        rfl
      refine Or.inr ⟨run.snapshot, policy.toOperatingPolicy, by rw [hstart], hid, ?_, run, ?_⟩
      · simp only [System.step, System.perform, hstart]
      · simp only [System.step, System.perform, System.run?, hstart]
        rw [show run.snapshot.runId = g.system.controller.uuid from hid]
        exact Function.update_self ..

theorem kept_beforeAgent (h : Kept m) (hphase : (m.loops loop).phase = .created) (sessionId : Text)
    (candidates : List Routing.RouterCandidate) (synthesized : Except GatewayError Routing.RoutingPolicy) :
    Kept (m.beforeAgent loop sessionId candidates synthesized) := by
  have hnone := current_of_atRest (l := m.loops loop) (by rw [hphase]; trivial)
  unfold PromptRailMiddleware.beforeAgent
  rcases startRun_cases m.gateway sessionId candidates synthesized with ⟨e, hout, hsystem⟩ | ⟨snapshot, policy, hout, hid, hsystem, hrun⟩
  · dsimp only
    rw [hout]
    refine kept_move h hnone ?_ trivial
    rw [hsystem]
    exact leaves_refl h.linked _
  · dsimp only
    rw [hout]
    refine @kept_quiet m.gateway.system.controller.uuid m loop h hnone _ _ ?_ (fun loop' _ => foreign_uuid h loop') ?_ trivial
    · rw [hsystem]
      exact leaves_step h.linked trivial
    · intro r' hr'
      obtain rfl := Option.some.inj hr'
      exact ⟨hid, hsystem ▸ hrun⟩

theorem kept_begin (h : Kept m) (hphase : (m.loops loop).phase = .idle) (args : CallArguments) : Kept (m.begin loop args) := by
  have hnone := current_of_atRest (l := m.loops loop) (by rw [hphase]; trivial)
  unfold PromptRailMiddleware.begin
  cases hrun : (m.loops loop).state.runId with
  | none => exact kept_stopped h hnone
  | some runId =>
    have hleaves : Leaves m.gateway.system (m.gateway.system.step (.allocateBegin runId args)) (ownRun m loop) :=
      leaves_step h.linked (ownRun_of_state hrun).symm
    dsimp only
    rcases @perform_begin _ runId h.linked args with ⟨a, hout, rfl, ha⟩ | ⟨e, hout⟩
    · rw [hout]
      exact kept_move h hnone hleaves ⟨by simp [PromptRailMiddleware.enter, PromptRailMiddleware.put, hrun], ha⟩
    · rw [hout]
      exact kept_move h hnone hleaves trivial

theorem kept_tool (h : Kept m) (hphase : (m.loops loop).phase = .idle) (returns : Bool) : Kept (m.wrapToolCall loop returns) := by
  have hnone := current_of_atRest (l := m.loops loop) (by rw [hphase]; trivial)
  unfold PromptRailMiddleware.wrapToolCall
  cases hrun : (m.loops loop).state.runId with
  | none => exact kept_stopped h hnone
  | some runId =>
    have hleaves : Leaves m.gateway.system (m.gateway.observeTool runId).2.system (ownRun m loop) :=
      @leaves_step _ _ (.observeTool runId) h.linked (ownRun_of_state hrun).symm
    dsimp only
    split
    · exact kept_move h hnone hleaves trivial
    · exact kept_move h hnone hleaves trivial

theorem kept_afterAgent (h : Kept m) (hphase : (m.loops loop).phase = .idle) : Kept (m.afterAgent loop) := by
  have hnone := current_of_atRest (l := m.loops loop) (by rw [hphase]; trivial)
  unfold PromptRailMiddleware.afterAgent
  cases hrun : (m.loops loop).state.runId with
  | none => exact kept_stopped h hnone
  | some runId =>
    have hsystem : (m.gateway.finishRun runId true).2.system = m.gateway.system.step (.finishRun runId .completed) := by
      unfold PromptRailGateway.finishRun
      dsimp only
      split <;> rfl
    have hleaves : Leaves m.gateway.system (m.gateway.finishRun runId true).2.system (ownRun m loop) := by
      rw [hsystem]
      exact leaves_step h.linked (ownRun_of_state hrun).symm
    dsimp only
    split
    · exact kept_quiet h hnone hleaves (fun loop' hne => foreign_ownRun h hne) (fun r' hr' => by cases hr') trivial
    · exact kept_move h hnone hleaves trivial

theorem kept_interrupt (h : Kept m) {a : Allocation} (hphase : (m.loops loop).phase = .allocating a) :
    Kept (m.enter loop (.abandoned a)) := by
  have hloop := h.loop loop
  rw [hphase] at hloop
  refine kept_move h (by unfold current; rw [hphase]) (leaves_refl h.linked _) ⟨?_, hloop.2⟩
  simp [PromptRailMiddleware.enter, PromptRailMiddleware.put, hloop.1]

/-- The second phase of an allocation is an operation of its run. -/
theorem leaves_answer (h : Kept m) {a : Allocation} (hrun : (m.loops loop).state.runId = some a.runId)
    (ha : m.gateway.system.inFlight.lookup a.callId = some a) (answer : Option BudgetAllocationDecision) :
    Leaves m.gateway.system (m.gateway.system.step (.allocateEnd a.callId answer)) (ownRun m loop) := by
  refine leaves_step h.linked fun a' ha' => ?_
  obtain rfl := Option.some.inj (ha.symm.trans ha')
  exact (ownRun_of_state hrun).symm

theorem kept_answerLate (h : Kept m) {a : Allocation} (hphase : (m.loops loop).phase = .abandoned a)
    (answer : Option BudgetAllocationDecision) : Kept (m.answerLate loop a answer) := by
  have hloop := h.loop loop
  rw [hphase] at hloop
  exact kept_move h (by unfold current; rw [hphase]) (leaves_answer h hloop.1 hloop.2 answer) trivial

/-! ## Turns with a call -/

theorem Custody.callOk {budget : CallBudget} {life : Life} (h : Custody m loop budget life) (hL : m.gateway.system.Linked)
    (hopen : life.Open) (hcurrent : current (m.loops loop) = some budget.callId) :
    CallOk m budget.callId loop budget.runId life where
  events := h.events
  spent _ := h.spent hL
  inHand _ := hcurrent
  released hclosed := by
    cases life with
    | settled usage => exact absurd hopen id
    | failed billingUnknown => exact absurd hopen id
    | _ => exact absurd hclosed id

/-- The map holds no call that a loop still has, or has taken. -/
theorem not_pending (h : Kept m) (hcurrent : current (m.loops loop) = some c) (hphase : (m.loops loop).phase ≠ .returned) :
    c ∉ m.pending := by
  intro hmem
  obtain ⟨loop', hphase', hstate⟩ := h.pending c hmem
  have hcurrent' : current (m.loops loop') = some c := by
    unfold current
    rw [hphase', hstate]
  by_cases hself : loop' = loop
  · exact hphase (hself ▸ hphase')
  · exact current_distinct h hself hcurrent hcurrent'

theorem about_append {e : CallEvent} (hhistory : m'.history = m.history ++ [e]) (c : CallId) :
    about m' c = about m c ++ if e.callId = c then [e] else [] := by
  by_cases hc : e.callId = c
  · simp [about, hhistory, hc]
  · simp [about, hhistory, hc]

/-- A loop goes on with the call in its hands, and no operation of the controller. -/
theorem kept_hold (h : Kept m) {budget : CallBudget} {life : Life} (hcurrent : current (m.loops loop) = some budget.callId)
    (hothers : ∀ loop' ≠ loop, m'.loops loop' = m.loops loop') (hsystem : m'.gateway.system = m.gateway.system)
    (hstate : (m'.loops loop).state.runId = (m.loops loop).state.runId)
    (habout : ∀ c, budget.callId ≠ c → about m' c = about m c)
    (hlookup : ∀ c, budget.callId ≠ c → m'.pending.lookup c = m.pending.lookup c)
    (hcustody : Custody m' loop budget life) (hopen : life.Open) (hcurrent' : current (m'.loops loop) = some budget.callId)
    (hphase : PhaseOk m' loop (m'.loops loop).phase)
    (hpending : budget.callId ∈ m'.pending →
      (m'.loops loop).phase = .returned ∧ (m'.loops loop).state.pendingCallId = some budget.callId) : Kept m' := by
  have hleaves : Leaves m.gateway.system m'.gateway.system (ownRun m loop) := by
    rw [hsystem]
    exact leaves_refl h.linked _
  have hturn : Turn m m' loop (ownRun m loop) (some budget.callId) :=
    { others := hothers
      leaves := hleaves
      foreign := fun loop' hne => foreign_ownRun h hne
      runId := runId_of_state h hleaves hstate
      about := fun c hc => habout c fun heq => hc (heq ▸ rfl)
      current := fun c hc => by rw [← hc, hcurrent]
      foreignCall := fun loop' hne c hc => Option.some.inj hc ▸ current_distinct h hne hcurrent
      pending := fun c hc => hlookup c fun heq => hc (heq ▸ rfl) }
  refine kept_turn h hturn hphase (fun c hc => ?_) (fun c hc hmem => ?_)
  · obtain rfl := Option.some.inj hc
    exact ⟨budget.runId, life, hcustody.callOk hleaves.linked hopen hcurrent'⟩
  · obtain rfl := Option.some.inj hc
    exact hpending hmem

/-- A loop enters the next phase of its call. -/
theorem kept_phase (h : Kept m) {budget : CallBudget} {life : Life} {phase : Phase}
    (hcurrent : current (m.loops loop) = some budget.callId) (hreturned : (m.loops loop).phase ≠ .returned)
    (hcustody : Custody m loop budget life) (hopen : life.Open) (hphase : ∀ m', Custody m' loop budget life → PhaseOk m' loop phase)
    (hcurrent' : current { m.loops loop with phase } = some budget.callId) : Kept (m.enter loop phase) := by
  have hself : (m.enter loop phase).loops loop = { m.loops loop with phase } := Function.update_self ..
  have hcustody' : Custody (m.enter loop phase) loop budget life :=
    ⟨by rw [hself]; exact hcustody.runId, hcustody.reserved, hcustody.events⟩
  refine kept_hold h hcurrent (fun loop' hne => Function.update_of_ne hne ..) rfl (by rw [hself]) (fun _ _ => rfl) (fun _ _ => rfl)
    hcustody' hopen (by rw [hself]; exact hcurrent') (by rw [hself]; exact hphase _ hcustody') (fun hmem => ?_)
  have hmem' : budget.callId ∈ m.pending := hmem
  exact absurd hmem' (not_pending h hcurrent hreturned)

/-! ## Turns that resolve a call -/

theorem holds_iff {g : PromptRailGateway} {budget : CallBudget} :
    holds g budget = true ↔ Reserved g.system budget.runId budget.callId := by
  simp [holds, Reserved, Option.any_eq_true, AList.lookup_isSome]

/-- The operation resolves a call of a run that is active. -/
def Resolves (op : Op) (r : RunId) (c : CallId) : Prop :=
  (∃ billingUnknown, op = .failCall r c billingUnknown) ∨ ∃ cost latency, 0 ≤ cost ∧ 0 ≤ latency ∧ op = .settleCall r c cost latency

theorem not_reserved_of_resolves (hL : s.Linked) {run : Run} (hrun : s.run? r = some run) (hactive : run.status = .active)
    (hreserved : c ∈ run.reserved) (hop : Resolves op r c) : ¬Reserved (s.step op) r c := by
  rintro ⟨run', hrun', hc⟩
  obtain ⟨run'', hrun'', hchange⟩ := change_of_step hL hrun op
  obtain rfl := Option.some.inj (hrun'.symm.trans hrun'')
  have hid := (hL.runId r run hrun).1
  rcases hop with ⟨billingUnknown, rfl⟩ | ⟨cost, latency, hcost, hlatency, rfl⟩
  · cases hchange with
    | stay _ hacts => exact hacts ⟨hid.symm, hactive, hreserved⟩
    | fail _ b _ hb hacts => exact (AList.mem_erase.1 hc).1 rfl
  · cases hchange with
    | stay _ hacts => exact hacts ⟨hid.symm, hcost, hlatency, hactive, hreserved⟩
    | settle _ b _ _ hb hacts => exact (AList.mem_erase.1 hc).1 rfl
    | settleFailing _ b _ _ hb hacts => exact (AList.mem_erase.1 hc).1 rfl

theorem own_of_resolves (hop : Resolves op r c) : Own s r op := by
  rcases hop with ⟨billingUnknown, rfl⟩ | ⟨cost, latency, -, -, rfl⟩
  · rfl
  · rfl

/-- The gateway resolves a call, which its loop then leaves. -/
theorem kept_resolve (h : Kept m) {budget : CallBudget} {life life' : Life} {e : CallEvent} {g : PromptRailGateway} {l : AgentLoop}
    (hcurrent : current (m.loops loop) = some budget.callId) (hreturned : (m.loops loop).phase ≠ .returned)
    (hcustody : Custody m loop budget life) (hop : Resolves op budget.runId budget.callId)
    (hsystem : g.system = m.gateway.system.step op) (hevent : e.callId = budget.callId)
    (hlife : life.events loop budget.runId budget.callId ++ [e] = life'.events loop budget.runId budget.callId)
    (hclosed : life'.Closed) (hstate : l.state.runId = (m.loops loop).state.runId)
    (hphase : ∀ m', PhaseOk m' loop l.phase) : Kept ((m.resolve g budget e).put loop l) := by
  obtain ⟨run, hrun, hactive, hreserved⟩ := hcustody.reserved
  have hreleased := not_reserved_of_resolves h.linked hrun hactive hreserved hop
  rw [← hsystem] at hreleased
  have hhistory : ((m.resolve g budget e).put loop l).history = m.history ++ [e] := by
    have hbefore : holds m.gateway budget = true := holds_iff.2 ⟨run, hrun, hreserved⟩
    have hafter : holds g budget = false := Bool.eq_false_iff.2 fun hheld => hreleased (holds_iff.1 hheld)
    simp [PromptRailMiddleware.put, PromptRailMiddleware.resolve, hbefore, hafter]
  have hleaves : Leaves m.gateway.system g.system (ownRun m loop) := by
    rw [hsystem, ownRun_of_state hcustody.runId]
    exact leaves_step h.linked (own_of_resolves hop)
  have hself : ((m.resolve g budget e).put loop l).loops loop = l := Function.update_self ..
  have habout := about_append hhistory
  rw [hevent] at habout
  have hturn : Turn m ((m.resolve g budget e).put loop l) loop (ownRun m loop) (some budget.callId) :=
    { others := fun loop' hne => Function.update_of_ne hne ..
      leaves := hleaves
      foreign := fun loop' hne => foreign_ownRun h hne
      runId := runId_of_state h hleaves (by rw [hself, hstate])
      about := fun c hc => by
        have hne : budget.callId ≠ c := fun heq => hc (heq ▸ rfl)
        rw [habout, if_neg hne, List.append_nil]
      current := fun c hc => by rw [← hc, hcurrent]
      foreignCall := fun loop' hne c hc => Option.some.inj hc ▸ current_distinct h hne hcurrent
      pending := fun _ _ => rfl }
  refine kept_turn h hturn (by rw [hself]; exact hphase _) (fun c hc => ?_) (fun c hc hmem => ?_)
  · obtain rfl := Option.some.inj hc
    refine ⟨budget.runId, life', ?_, fun _ => hleaves.spent _ (hcustody.spent h.linked), fun hopen => ?_, fun _ => hreleased⟩
    · rw [habout, if_pos rfl, hcustody.events, hlife]
    · cases life' with
      | settled usage => exact absurd hopen id
      | failed billingUnknown => exact absurd hopen id
      | _ => exact absurd hclosed id
  · obtain rfl := Option.some.inj hc
    have hmem' : budget.callId ∈ m.pending := hmem
    exact absurd hmem' (not_pending h hcurrent hreturned)

/-- A call that its loop gives up is failed: with no billing before the handler is invoked, and with an unknown one after. -/
theorem kept_failCall (h : Kept m) {budget : CallBudget} {life : Life} {billingUnknown : Bool}
    (hcurrent : current (m.loops loop) = some budget.callId) (hreturned : (m.loops loop).phase ≠ .returned)
    (hcustody : Custody m loop budget life) (hlife : life = if billingUnknown then .invoked else .prepared) :
    Kept (m.failCall loop budget billingUnknown) := by
  unfold PromptRailMiddleware.failCall
  have hevents : life.events loop budget.runId budget.callId ++ [.failed budget.callId billingUnknown] =
      (Life.failed billingUnknown).events loop budget.runId budget.callId := by
    rw [hlife]
    cases billingUnknown <;> rfl
  exact kept_resolve h hcurrent hreturned hcustody (Or.inl ⟨billingUnknown, rfl⟩) rfl rfl hevents trivial rfl fun _ => trivial

/-! ## The turns of a call -/

/-- Nothing has happened to a call whose allocation is in progress. -/
theorem about_inFlight (h : Kept m) {a : Allocation} (ha : m.gateway.system.inFlight.lookup a.callId = some a) :
    about m a.callId = [] := by
  obtain ⟨loop, runId, life, hc⟩ := h.call a.callId
  cases life with
  | fresh => exact hc.events
  | _ => exact absurd (AList.lookup_isSome.1 (by rw [ha]; rfl)) (hc.spent nofun).landed

theorem kept_answer (h : Kept m) {a : Allocation} (hphase : (m.loops loop).phase = .allocating a)
    (answer : Option BudgetAllocationDecision) : Kept (m.answer loop a answer) := by
  have hloop := h.loop loop
  rw [hphase] at hloop
  obtain ⟨hstate, ha⟩ := hloop
  have hnone : current (m.loops loop) = none := by unfold current; rw [hphase]
  have hleaves := leaves_answer h hstate ha answer
  unfold PromptRailMiddleware.answer
  by_cases haccepted : Accepted m.gateway.system a answer
  swap
  · obtain ⟨⟨e, hout⟩, -⟩ := perform_end_refused h.linked ha haccepted
    dsimp only
    rw [hout]
    exact kept_move h hnone hleaves trivial
  obtain ⟨⟨budget, hout, hcall, hrun⟩, run, hafter, hactive, hreserved⟩ := perform_end_accepted h.linked ha haccepted
  dsimp only
  rw [hout]
  dsimp only
  generalize hm' : PromptRailMiddleware.enterAfter { m with gateway := { m.gateway with
    system := (m.gateway.system.perform (.allocateEnd a.callId answer)).2 } } loop (.preparing budget)
    (.allocated loop budget.runId budget.callId) = m'
  have hself : m'.loops loop = { m.loops loop with phase := .preparing budget } := by
    rw [← hm']
    exact Function.update_self ..
  have hothers : ∀ loop' ≠ loop, m'.loops loop' = m.loops loop' := by
    rw [← hm']
    exact fun loop' hne => Function.update_of_ne hne ..
  have hsystem : m'.gateway.system = m.gateway.system.step (.allocateEnd a.callId answer) := by rw [← hm']; rfl
  have hhistory : m'.history = m.history ++ [.allocated loop budget.runId budget.callId] := by rw [← hm']; rfl
  have habout : ∀ c, about m' c = about m c ++ if budget.callId = c then [.allocated loop budget.runId budget.callId] else [] :=
    about_append hhistory
  rw [← hsystem] at hleaves hafter
  have hcustody : Custody m' loop budget .prepared := by
    refine ⟨by rw [hself, hrun]; exact hstate, ⟨run, hrun ▸ hafter, hactive, hcall ▸ hreserved⟩, ?_⟩
    rw [habout, if_pos rfl, hcall, about_inFlight h ha]
    rfl
  have hturn : Turn m m' loop (ownRun m loop) (some a.callId) :=
    { others := hothers
      leaves := hleaves
      foreign := fun loop' hne => foreign_ownRun h hne
      runId := runId_of_state h hleaves (by rw [hself])
      about := fun c hc => by
        have hne : budget.callId ≠ c := fun heq => hc (by rw [← heq, hcall])
        rw [habout, if_neg hne, List.append_nil]
      current := fun c hc => by rw [hnone] at hc; cases hc
      foreignCall := fun loop' _ c hc hcurrent => by
        obtain rfl := Option.some.inj hc
        obtain ⟨budget', life, hsame, -, -, hcustody'⟩ := custody_of_current h hcurrent
        exact (hcustody'.spent h.linked).landed (hsame ▸ AList.lookup_isSome.1 (by rw [ha]; rfl))
      pending := fun _ _ => by rw [← hm']; rfl }
  refine kept_turn h hturn (by rw [hself]; exact hcustody) (fun c hc => ?_) (fun c hc hmem => ?_)
  · obtain rfl := Option.some.inj hc
    rw [← hcall]
    exact ⟨budget.runId, .prepared, hcustody.callOk hleaves.linked trivial (by rw [hself]; rfl)⟩
  · obtain rfl := Option.some.inj hc
    have hmem' : a.callId ∈ m.pending := by
      rw [← hm'] at hmem
      exact hmem
    obtain ⟨loop', hphase', hstate'⟩ := h.pending _ hmem'
    have hcurrent : current (m.loops loop') = some a.callId := by unfold current; rw [hphase', hstate']
    have hself' : loop' = loop := by
      by_contra hne
      exact hturn.foreignCall loop' hne _ rfl hcurrent
    rw [hself', hnone] at hcurrent
    cases hcurrent

/-- The budget of a prepared call is the one that the allocation answered, but for the context it requires. -/
theorem budget_of_prepareCall {env : Env} {plannerKept kept : Nat} {runs : RunId → Option RunConfiguration} {runId : RunId}
    {intent : Routing.CallIntent} {awaited : Awaited} {budget : CallBudget} {call : PreparedCall}
    (h : prepareCall env plannerKept kept runs runId intent { awaited with allocate := fun _ => .ok budget } = .ok call) :
    call.budget.runId = budget.runId ∧ call.budget.callId = budget.callId := by
  unfold prepareCall at h
  obtain ⟨configuration, -, h⟩ := Outcome.bind_ok h
  obtain ⟨prediction, -, h⟩ := Outcome.bind_ok h
  obtain ⟨cache, -, h⟩ := Outcome.bind_ok h
  obtain ⟨allocated, hallocated, h⟩ := Outcome.bind_ok h
  obtain rfl : budget = allocated := Except.ok.inj (FitsAux.of_ofPython hallocated)
  obtain ⟨scores, -, h⟩ := Outcome.bind_ok h
  obtain ⟨ranked, -, h⟩ := Outcome.bind_ok h
  split at h
  · cases h
  unfold finishPreparation at h
  obtain ⟨_, -, h⟩ := Outcome.bind_ok h
  obtain ⟨compaction, -, h⟩ := Outcome.bind_ok h
  obtain ⟨-, h⟩ := Outcome.check_ok_iff.1 h
  obtain ⟨provider, -, h⟩ := Outcome.bind_ok h
  cases h
  unfold raisedBudget
  dsimp only
  split <;> exact ⟨rfl, rfl⟩

theorem kept_prepare (h : Kept m) {budget : CallBudget} (hphase : (m.loops loop).phase = .preparing budget) (env : Env)
    (plannerKept kept : Nat) (intent : Routing.CallIntent) (awaited : Awaited) :
    Kept (m.prepare env plannerKept kept loop budget intent awaited) := by
  have hcustody := h.loop loop
  rw [hphase] at hcustody
  have hcurrent : current (m.loops loop) = some budget.callId := by unfold current; rw [hphase]
  have hreturned : (m.loops loop).phase ≠ .returned := by rw [hphase]; nofun
  unfold PromptRailMiddleware.prepare
  split
  · rename_i call hprepare
    obtain ⟨hrun, hcall⟩ := budget_of_prepareCall hprepare
    refine kept_phase h hcurrent hreturned hcustody trivial (fun m' hcustody' => ?_) (by rw [← hcall]; rfl)
    exact ⟨by rw [hrun]; exact hcustody'.runId, by rw [hrun, hcall]; exact hcustody'.reserved,
      by rw [hrun, hcall]; exact hcustody'.events⟩
  · exact kept_failCall h hcurrent hreturned hcustody rfl

/-- The history and the phase of a loop go on together. -/
theorem kept_enterAfter (h : Kept m) {budget : CallBudget} {life life' : Life} {phase : Phase} {e : CallEvent}
    (hcurrent : current (m.loops loop) = some budget.callId) (hreturned : (m.loops loop).phase ≠ .returned)
    (hcustody : Custody m loop budget life) (hevent : e.callId = budget.callId)
    (hlife : life.events loop budget.runId budget.callId ++ [e] = life'.events loop budget.runId budget.callId) (hopen : life'.Open)
    (hphase : ∀ m', Custody m' loop budget life' → PhaseOk m' loop phase)
    (hcurrent' : current { m.loops loop with phase } = some budget.callId) : Kept (m.enterAfter loop phase e) := by
  have hself : (m.enterAfter loop phase e).loops loop = { m.loops loop with phase } := Function.update_self ..
  have habout : ∀ c, about (m.enterAfter loop phase e) c = about m c ++ if e.callId = c then [e] else [] := about_append rfl
  have hcustody' : Custody (m.enterAfter loop phase e) loop budget life' :=
    ⟨by rw [hself]; exact hcustody.runId, hcustody.reserved, by rw [habout, if_pos hevent, hcustody.events, hlife]⟩
  refine kept_hold h hcurrent (fun loop' hne => Function.update_of_ne hne ..) rfl (by rw [hself]) (fun c hne => ?_) (fun _ _ => rfl)
    hcustody' hopen (by rw [hself]; exact hcurrent') (by rw [hself]; exact hphase _ hcustody') (fun hmem => ?_)
  · have hother : e.callId ≠ c := fun heq => hne (hevent.symm.trans heq)
    rw [habout, if_neg hother, List.append_nil]
  · have hmem' : budget.callId ∈ m.pending := hmem
    exact absurd hmem' (not_pending h hcurrent hreturned)

theorem kept_route (h : Kept m) {call : PreparedCall} (hphase : (m.loops loop).phase = .prepared call) :
    Kept (m.enterAfter loop (.handling call) (.invoked call.budget.callId)) ∧ Kept (m.failCall loop call.budget false) := by
  have hcustody := h.loop loop
  rw [hphase] at hcustody
  have hcurrent : current (m.loops loop) = some call.budget.callId := by unfold current; rw [hphase]
  have hreturned : (m.loops loop).phase ≠ .returned := by rw [hphase]; nofun
  refine ⟨?_, kept_failCall h hcurrent hreturned hcustody rfl⟩
  exact @kept_enterAfter _ _ h _ _ .invoked _ _ hcurrent hreturned hcustody rfl rfl trivial (fun _ hcustody' => hcustody') rfl

theorem kept_handle (h : Kept m) {call : PreparedCall} (hphase : (m.loops loop).phase = .handling call) :
    Kept (m.enter loop (.answered call)) ∧ Kept (m.failCall loop call.budget true) := by
  have hcustody := h.loop loop
  rw [hphase] at hcustody
  have hcurrent : current (m.loops loop) = some call.budget.callId := by unfold current; rw [hphase]
  have hreturned : (m.loops loop).phase ≠ .returned := by rw [hphase]; nofun
  exact ⟨kept_phase h hcurrent hreturned hcustody trivial (fun _ hcustody' => hcustody') rfl,
    kept_failCall h hcurrent hreturned hcustody rfl⟩

/-- The usage of a call is stored under its number, which no other call has. -/
theorem kept_extract (h : Kept m) {call : PreparedCall} (hphase : (m.loops loop).phase = .answered call) (usage : Option ModelUsage)
    (hsettles : ∀ u, usage = some u → Settles call u) : Kept (m.extract loop call usage) := by
  have hcustody := h.loop loop
  rw [hphase] at hcustody
  have hcurrent : current (m.loops loop) = some call.budget.callId := by unfold current; rw [hphase]
  have hreturned : (m.loops loop).phase ≠ .returned := by rw [hphase]; nofun
  cases usage with
  | none => exact kept_failCall h hcurrent hreturned hcustody rfl
  | some usage =>
    unfold PromptRailMiddleware.extract PromptRailMiddleware.storePending
    dsimp only
    rw [if_neg (not_pending h hcurrent hreturned)]
    generalize hm' : PromptRailMiddleware.put _ loop _ = m'
    have hself : m'.loops loop =
        { state := { (m.loops loop).state with pendingCallId := some call.budget.callId }, phase := .returned } := by
      rw [← hm']
      exact Function.update_self ..
    have hothers : ∀ loop' ≠ loop, m'.loops loop' = m.loops loop' := by
      rw [← hm']
      exact fun loop' hne => Function.update_of_ne hne ..
    have hhistory : m'.history = m.history ++ [.extracted call.budget.callId usage] := by rw [← hm']; rfl
    have hsystem : m'.gateway.system = m.gateway.system := by rw [← hm']; rfl
    have hmap : m'.pending = m.pending.insert call.budget.callId { prepared := call, usage } := by rw [← hm']; rfl
    have habout := about_append hhistory
    have hcustody' : Custody m' loop call.budget (.extracted usage) := by
      refine ⟨by rw [hself]; exact hcustody.runId, by rw [hsystem]; exact hcustody.reserved, ?_⟩
      rw [habout, show CallEvent.callId (.extracted call.budget.callId usage) = call.budget.callId from rfl, if_pos rfl, hcustody.events]
      rfl
    refine kept_hold h hcurrent hothers hsystem (by rw [hself]) (fun c hne => ?_) (fun c hne => ?_) hcustody' trivial (by rw [hself]; rfl)
      ?_ (fun _ => by rw [hself]; exact ⟨rfl, rfl⟩)
    · have hother : CallEvent.callId (.extracted call.budget.callId usage) ≠ c := hne
      rw [habout, if_neg hother, List.append_nil]
    · rw [hmap, AList.lookup_insert_ne hne.symm]
    · rw [hself]
      refine ⟨{ prepared := call, usage }, by rw [hself], ?_, hcustody', hsettles usage rfl⟩
      rw [hmap]
      exact AList.lookup_insert _

theorem kept_take (h : Kept m) (hphase : (m.loops loop).phase = .returned) : Kept (m.takePending loop) := by
  have hloop := h.loop loop
  rw [hphase] at hloop
  obtain ⟨p, hstate, hlookup, hcustody, hsettles⟩ := hloop
  have hcurrent : current (m.loops loop) = some p.prepared.budget.callId := by unfold current; rw [hphase, hstate]
  unfold PromptRailMiddleware.takePending
  rw [hstate]
  dsimp only
  rw [hlookup]
  dsimp only
  generalize hm' : PromptRailMiddleware.enter _ loop _ = m'
  have hself : m'.loops loop = { m.loops loop with phase := .taken p } := by
    rw [← hm']
    exact Function.update_self ..
  have hothers : ∀ loop' ≠ loop, m'.loops loop' = m.loops loop' := by
    rw [← hm']
    exact fun loop' hne => Function.update_of_ne hne ..
  have hsystem : m'.gateway.system = m.gateway.system := by rw [← hm']; rfl
  have hmap : m'.pending = m.pending.erase p.prepared.budget.callId := by rw [← hm']; rfl
  have habout : ∀ c, about m' c = about m c := fun c => by rw [← hm']; rfl
  have hcustody' : Custody m' loop p.prepared.budget (.extracted p.usage) :=
    ⟨by rw [hself]; exact hcustody.runId, by rw [hsystem]; exact hcustody.reserved, by rw [habout, hcustody.events]⟩
  refine kept_hold h hcurrent hothers hsystem (by rw [hself]) (fun c _ => habout c) (fun c hne => ?_) hcustody' trivial
    (by rw [hself]; rfl) (by rw [hself]; exact ⟨hcustody', hsettles⟩) (fun hmem => ?_)
  · rw [hmap, AList.lookup_erase_ne hne.symm]
  · rw [hmap, AList.mem_erase] at hmem
    exact absurd rfl hmem.1

/-- A usage that settles its call reaches the settlement, whatever the cache then does. -/
theorem observeModel_settles (env : Env) (g : PromptRailGateway) {call : PreparedCall} {usage : ModelUsage} (h : Settles call usage) :
    ∃ cost latency, 0 ≤ cost ∧ 0 ≤ latency ∧ (g.observeModel env call usage).2.system =
      g.system.step (.settleCall call.budget.runId call.budget.callId cost latency) := by
  obtain ⟨route, hroute, hprovider⟩ := h.provider
  unfold PromptRailGateway.observeModel
  rw [if_neg (not_not.2 h.model)]
  cases hfirst : call.provider.routes.find? fun route => route.provider = usage.provider with
  | none => exact absurd (List.find?_eq_none.1 hfirst route hroute) (by simp [hprovider])
  | some first =>
    obtain ⟨cost, hbilled, hcost⟩ : ∃ cost, usage.costUsd.getD (some (usageCost usage first)) = some cost ∧ 0 ≤ cost := by
      cases hreported : usage.costUsd with
      | none => exact ⟨_, rfl, usageCost_nonneg usage first⟩
      | some cost =>
        obtain ⟨x, rfl, hx⟩ := h.cost cost hreported
        exact ⟨x, rfl, hx⟩
    refine ⟨cost, usage.latencyMs + call.preparationLatencyMs, hcost, by omega, ?_⟩
    dsimp only
    unfold PromptRailGateway.observeOn
    rw [hbilled]
    dsimp only
    split
    · rfl
    · unfold PromptRailGateway.observeCache
      dsimp only
      split <;> rfl

theorem kept_observe (h : Kept m) {p : PendingModelCall} (hphase : (m.loops loop).phase = .taken p) (env : Env) :
    Kept (m.observe env loop p) := by
  have hloop := h.loop loop
  rw [hphase] at hloop
  obtain ⟨hcustody, hsettles⟩ := hloop
  have hcurrent : current (m.loops loop) = some p.prepared.budget.callId := by unfold current; rw [hphase]
  have hreturned : (m.loops loop).phase ≠ .returned := by rw [hphase]; nofun
  obtain ⟨cost, latency, hcost, hlatency, hsystem⟩ := observeModel_settles env m.gateway hsettles
  have hop : Resolves (.settleCall p.prepared.budget.runId p.prepared.budget.callId cost latency) p.prepared.budget.runId
      p.prepared.budget.callId := Or.inr ⟨cost, latency, hcost, hlatency, rfl⟩
  have hlife : (Life.extracted p.usage).events loop p.prepared.budget.runId p.prepared.budget.callId ++
      [.settled p.prepared.budget.callId p.usage] =
      (Life.settled p.usage).events loop p.prepared.budget.runId p.prepared.budget.callId := rfl
  unfold PromptRailMiddleware.observe
  dsimp only
  split
  · exact kept_resolve h hcurrent hreturned hcustody hop hsystem rfl hlife trivial rfl fun _ => trivial
  · exact kept_resolve h hcurrent hreturned hcustody hop hsystem rfl hlife trivial rfl fun _ => trivial

/-! ## What the extractor returns -/

theorem provider_mem {env : Env} {call : PreparedCall} {metadata : Json.Fields} {provider : String}
    (h : providerOf env call metadata = .ok provider) : ∃ route ∈ call.provider.routes, route.provider = provider := by
  unfold providerOf at h
  dsimp only at h
  split at h
  · cases h
  split at h
  · rename_i route _ hmatches
    split at h
    · cases h
    · obtain rfl := Except.ok.inj h
      exact ⟨route, NamedRouteAux.mem_of_routeMatches (by rw [hmatches]; exact List.mem_cons_self), rfl⟩
  · rename_i named _ _ hmatches
    obtain rfl := Except.ok.inj h
    have hmem : named ∈ providerMatches env call.provider.routes metadata := by rw [hmatches]; exact List.mem_cons_self
    obtain ⟨mapping, -, hkey⟩ := List.mem_flatMap.1 hmem
    obtain ⟨key, -, hbind⟩ := List.mem_filterMap.1 hkey
    obtain ⟨text, -, hfound⟩ := Option.bind_eq_some_iff.1 hbind
    obtain ⟨route, hroute, rfl⟩ := Option.map_eq_some_iff.1 hfound
    exact ⟨route, List.mem_of_find?_eq_some hroute, rfl⟩
  · split at h
    · rename_i route hroutes
      obtain rfl := Except.ok.inj h
      exact ⟨route, by rw [hroutes]; exact List.mem_cons_self, rfl⟩
    · cases h

theorem cost_nonneg {float : String → Option ℚ} {metadata : Json.Fields} {x : ℚ} (h : costOf float metadata = .ok (some x)) : 0 ≤ x := by
  unfold costOf at h
  split at h
  · cases h
  split at h
  · cases h
  · cases h
  · split at h
    · cases h
    · rename_i hnonneg
      obtain rfl := Option.some.inj (Except.ok.inj h)
      exact not_lt.1 hnonneg

/-! ## Every step -/

theorem kept_created (allocatorModelId : String) : Kept (.start allocatorModelId) where
  linked := linked_start allocatorModelId
  known loop runId hrun := by cases hrun
  distinct loop loop' runId hrun := by cases hrun
  loop loop := trivial
  call c := ⟨0, 0, .fresh, rfl, fun hfresh => absurd rfl hfresh, fun hopen => absurd hopen id, fun hclosed => absurd hclosed id⟩
  pending c hmem := absurd hmem (AList.notMem_empty c)

theorem kept_elapse (h : Kept m) (ms : Nat) :
    Kept { m with gateway := { m.gateway with system := m.gateway.system.step (.elapse ms) } } := by
  -- the clock moves in a turn of any loop, and of none
  have hleaves : Leaves m.gateway.system (m.gateway.system.step (.elapse ms)) (ownRun m 0) := leaves_step h.linked trivial
  refine ⟨hleaves.linked, fun loop runId hrun => ?_, h.distinct, fun loop => ?_, fun c => ?_, h.pending⟩
  · obtain ⟨run, hknown⟩ := h.known loop runId hrun
    exact hleaves.known runId run hknown
  · exact phaseOk_congr (m := m) rfl (fun a _ ha => ha) (fun budget life _ hheld => ⟨hheld.runId, hheld.reserved, hheld.events⟩)
      (fun c _ => rfl) (h.loop loop)
  · obtain ⟨loop, runId, life, hc⟩ := h.call c
    exact ⟨loop, runId, life, hc.events, fun hlife => hleaves.spent c (hc.spent hlife), hc.inHand, hc.released⟩

/-- A step keeps everything, if what the extractor returns settles the call. -/
theorem kept_step (env : Env) (plannerKept kept : Nat) (h : Kept m) {action : Action} (hgood : ExtractsForCall m action) :
    Kept (m.step env plannerKept kept action) := by
  cases action with
  | elapse ms => exact kept_elapse h ms
  | turn loop action =>
    unfold PromptRailMiddleware.step
    dsimp only
    unfold PromptRailMiddleware.turn
    split
    · exact kept_beforeAgent h ‹_› _ _ _
    · rename_i hphase
      exact kept_stopped h (by unfold current; rw [hphase])
    · exact kept_begin h ‹_› _
    · exact kept_tool h ‹_› _
    · exact kept_afterAgent h ‹_›
    · rename_i hphase
      exact kept_stopped h (by unfold current; rw [hphase])
    · exact kept_answer h ‹_› _
    · exact kept_interrupt h ‹_›
    · exact kept_answerLate h ‹_› _
    · exact kept_prepare h ‹_› env plannerKept kept _ _
    · rename_i budget hphase
      have hcustody := h.loop loop
      rw [hphase] at hcustody
      exact kept_failCall h (by unfold current; rw [hphase]) (by rw [hphase]; nofun) hcustody rfl
    · exact (kept_route h ‹_›).1
    · exact (kept_route h ‹_›).2
    · exact (kept_handle h ‹_›).1
    · exact (kept_handle h ‹_›).2
    · rename_i call usage hphase
      refine kept_extract h hphase usage fun u hu => ?_
      subst hu
      exact hgood call hphase
    · exact kept_take h ‹_›
    · exact kept_observe h ‹_› env
    · exact h

end ResolvedAux

open ResolvedAux

/-- The extractor of the middleware returns only what settles the call. -/
theorem settles_of_extractUsage {env : Env} {float : String → Option ℚ} {call : PreparedCall} {response : ModelResponse} {latencyMs : Nat}
    {usage : ModelUsage} (h : extractUsage env float call response latencyMs = .ok usage) : Settles call usage := by
  unfold extractUsage at h
  split at h
  · cases h
  obtain ⟨tokens, -, h⟩ := Outcome.bind_ok h
  obtain ⟨provider, hprovider, h⟩ := Outcome.bind_ok h
  obtain ⟨cost, hcost, h⟩ := Outcome.bind_ok h
  cases h
  refine ⟨rfl, provider_mem hprovider, fun reported hreported => ?_⟩
  obtain ⟨x, rfl, rfl⟩ := Option.map_eq_some_iff.1 hreported
  exact ⟨x, rfl, cost_nonneg hcost⟩

/-! ## Calls of two loops, and of one with a foreign usage -/

namespace ResolvedAux

open FitsAux (twoModels allocating)
open FloorAux (onlyRoute)
open RewrittenAux (followUpIntent followUpEnv oneRoute)

/-- A call of two hundred tokens. -/
def wideCall : CallArguments := { plainCall with inputTokens := 200, cache := { plainCall.cache with totalTokens := 200 } }

/-- A decision that requires 120 tokens of context. -/
def wideDecision : BudgetAllocationDecision :=
  { plainDecision 1 oneDollar_valid with requiredContextTokens := 120, validate_required_context := by decide }

/-- A usage of a provider. -/
def usageOf (provider : String) : ModelUsage where
  inputTokens := 130
  outputTokens := 5
  latencyMs := 15
  provider := provider
  modelId := "small"

/-- A loop up to the end of its first step. -/
def firstStep (loop : LoopId) (provider : String) : List Action :=
  [.turn loop (.beforeAgent "session".toList (oneRoute onlyRoute).candidates (.ok twoModels.policy)), .turn loop (.begin wideCall),
    .turn loop (.answer (some wideDecision)), .turn loop (.prepare followUpIntent allocating), .turn loop (.route true),
    .turn loop (.handle true), .turn loop (.extract (some (usageOf provider))), .turn loop .take, .turn loop .observe]

/-- Two loops in turn. -/
def inTurn : List Action := ((firstStep 0 "first").zip (firstStep 1 "first")).flatMap fun p => [p.1, p.2]

/-- A loop has stopped, and nothing has resolved its call. -/
def stranded (loop : LoopId) (runId : RunId) (c : CallId) (m : PromptRailMiddleware) : Bool :=
  (match (m.loops loop).phase with
    | .stopped => true
    | _ => false) &&
  (m.history.any fun e =>
    match e with
    | .allocated loop' runId' c' => loop' == loop && runId' == runId && c' == c
    | _ => false) &&
  m.history.all fun e => !e.resolves

theorem not_resolvesOnce_of_stranded {loop : LoopId} {runId : RunId} {c : CallId} {m : PromptRailMiddleware}
    (h : stranded loop runId c m = true) : ¬ResolvesOnce m := by
  intro honce
  rw [stranded, Bool.and_eq_true, Bool.and_eq_true] at h
  obtain ⟨⟨hstopped, hallocated⟩, hopen⟩ := h
  have hrest : (m.loops loop).phase.AtRest := by
    split at hstopped
    · rename_i hphase
      rw [hphase]
      trivial
    · cases hstopped
  obtain ⟨e, he, hevent⟩ := List.any_eq_true.1 hallocated
  split at hevent
  · simp only [Bool.and_eq_true, beq_iff_eq] at hevent
    obtain ⟨⟨rfl, rfl⟩, rfl⟩ := hevent
    obtain ⟨e', he', -, hresolves⟩ := honce.resolved _ _ _ hrest he
    simpa [hresolves] using List.all_eq_true.1 hopen e' he'
  · cases hevent

end ResolvedAux

open RewrittenAux (followUpEnv)

end LangChain

end PromptRail
