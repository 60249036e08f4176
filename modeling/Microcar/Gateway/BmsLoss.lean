import Microcar.Gateway.Nodes

/-!
# Reaction to a lost BMS

The process phase attributes a timeout to the first offline node in registration order,
and the powertrain is registered before the BMS. The main result says exactly which
iterations that lose the BMS raise its communication fault and end in FAULT.
-/

namespace Microcar.Gateway

/-- The context in which an iteration runs its timeout check. -/
def beforeProcess (ctx : GatewayCtx) (nowMs : UInt32) : GatewayCtx :=
  Core.run gatewayStep ctx [.dequeue nowMs, .scripts true, .notify]

/-- The context behind the process phase of an iteration. -/
def afterProcess (ctx : GatewayCtx) (nowMs : UInt32) : GatewayCtx :=
  gatewayStep (beforeProcess ctx nowMs) (.process nowMs true)

/-- The context behind the mode update of an iteration. -/
def afterUpdate (ctx : GatewayCtx) (nowMs : UInt32) : GatewayCtx :=
  gatewayStep (afterProcess ctx nowMs) (.updateMode nowMs true)

/-- The timeout check of the iteration takes the BMS from online to offline. -/
def LosesBms (ctx : GatewayCtx) (nowMs : UInt32) : Prop :=
  heartbeatMonitorIsOnline (beforeProcess ctx nowMs).hm mcNodeBms = true ∧
    heartbeatMonitorIsOnline (afterProcess ctx nowMs).hm mcNodeBms = false

/-- An iteration that loses the BMS tracks its communication fault behind the process phase
and is in FAULT behind the mode update. -/
def BmsLossHandled (ctx : GatewayCtx) : GatewayEvent → Prop
  | .frame _ => True
  | .main nowMs => LosesBms ctx nowMs →
    (afterProcess ctx nowMs).fm.Tracks mcNodeBms mcBmsFaultCommError 2 ∧
      (afterUpdate ctx nowMs).gs.mode = .fault

/-- An iteration that loses the BMS starts with the fault active already, or with a fresh
powertrain and a table that accepts the fault. -/
def BmsLossCovered (ctx : GatewayCtx) : GatewayEvent → Prop
  | .frame _ => True
  | .main nowMs => LosesBms ctx nowMs →
    ctx.fm.Tracks mcNodeBms mcBmsFaultCommError 2 ∨
      (NodeFresh ctx mcNodePowertrain nowMs ∧ ctx.fm.Accepts mcNodeBms mcBmsFaultCommError)

/-- The context of the timeout check: heartbeats applied, queue empty, faults untouched. -/
theorem beforeProcess_eq {ctx : GatewayCtx} (h : ctx.cfg.ScriptsOff) (nowMs : UInt32) :
    ∃ notification out, beforeProcess ctx nowMs = { ctx with
      hm := beatAll ctx.hm ctx.hbQueue.entries nowMs, hbQueue := .empty
      notification := notification, out := out } := by
  have hscripts : gatewayStep (dequeueHeartbeats ctx nowMs) (.scripts true) =
      dequeueHeartbeats ctx nowMs := by
    apply runDogfoodScripts_of_off
    rw [dequeueHeartbeats_eq]
    exact h
  obtain ⟨notification, out, hnotify⟩ := takeNotification_eq (dequeueHeartbeats ctx nowMs)
  refine ⟨notification, out, ?_⟩
  have hrun : beforeProcess ctx nowMs = takeNotification (gatewayStep
      (dequeueHeartbeats ctx nowMs) (.scripts true)) := rfl
  rw [hrun, hscripts, hnotify, dequeueHeartbeats_eq]

/-- An active critical fault takes the mode update to FAULT. -/
theorem updatedMode_of_critical {ctx : GatewayCtx} (h : CountsMatch ctx.fm) {f : Fault}
    (hf : f ∈ ctx.fm.faults.entries) (hcritical : f.activeAt 2 = true) (nowMs : UInt32) :
    updatedMode ctx nowMs true = .fault :=
  if_pos ⟨rfl, h.hasCritical_iff.mpr ⟨f, hf, hcritical⟩⟩

/-- Losing the BMS means its node expires in the check. -/
theorem LosesBms.expires {ctx : GatewayCtx} {nowMs : UInt32} (h : LosesBms ctx nowMs) :
    ∃ b, (beforeProcess ctx nowMs).hm.node? mcNodeBms = some b ∧ b.expires nowMs = true := by
  obtain ⟨honline, hoffline⟩ := h
  rw [afterProcess, gatewayStep, processPhase_eq] at hoffline
  unfold heartbeatMonitorIsOnline at honline hoffline
  rw [node?_check] at hoffline
  cases hb : (beforeProcess ctx nowMs).hm.node? mcNodeBms with
  | none => simp [hb] at honline
  | some b =>
    simp only [hb, Option.map_some, HmNode.check_online] at honline hoffline
    refine ⟨b, rfl, ?_⟩
    simpa [honline] using hoffline

/-- In a reachable state, an iteration that loses the BMS tracks its fault exactly when the
loss is covered. -/
theorem tracks_afterProcess_iff {ctx : GatewayCtx} (h : GatewayInvariant ctx) {nowMs : UInt32}
    (hloss : LosesBms ctx nowMs) :
    (afterProcess ctx nowMs).fm.Tracks mcNodeBms mcBmsFaultCommError 2 ↔
      ctx.fm.Tracks mcNodeBms mcBmsFaultCommError 2 ∨
        (NodeFresh ctx mcNodePowertrain nowMs ∧ ctx.fm.Accepts mcNodeBms mcBmsFaultCommError) := by
  obtain ⟨notification, out, hbefore⟩ := beforeProcess_eq h.scriptsOff nowMs
  obtain ⟨b, hb, hexpires⟩ := hloss.expires
  obtain ⟨p, -, -, -, hp, -⟩ := h.registered.lookups
  have hregistered : (beatAll ctx.hm ctx.hbQueue.entries nowMs).Registers monitoredNodes :=
    registers_beatAll h.registered _ nowMs
  rw [hbefore] at hb
  have hattributes := (attributesToBms_iff hregistered hb hexpires).trans
    (stays_beatAll_iff h.registered hp nowMs)
  rw [afterProcess, gatewayStep, processPhase_eq, hbefore]
  by_cases hfresh : NodeFresh ctx mcNodePowertrain nowMs
  · rw [if_pos ⟨hattributes.mpr hfresh, rfl⟩, report_tracks_iff]
    simp only [hfresh, true_and]
  · rw [if_neg fun hreport => hfresh (hattributes.mp hreport.1)]
    simp only [hfresh, false_and, or_false]

/-- In a reachable state, an iteration handles a lost BMS exactly when the loss is covered. -/
theorem bmsLossHandled_iff_covered {ctx : GatewayCtx} (h : GatewayInvariant ctx)
    (e : GatewayEvent) : BmsLossHandled ctx e ↔ BmsLossCovered ctx e := by
  cases e with
  | frame f => exact Iff.rfl
  | main nowMs =>
    refine forall_congr' fun hloss => ?_
    rw [← tracks_afterProcess_iff h hloss]
    refine and_iff_left_of_imp fun htracks => ?_
    have hinvariant : GatewayInvariant (afterProcess ctx nowMs) :=
      (Core.run_invariant (I := GatewayInvariant) (fun _ op hs => hs.step op) h
        [.dequeue nowMs, .scripts true, .notify]).step (.process nowMs true)
    obtain ⟨gs, changed, modeEvents, out, heq, hmode⟩ :=
      modePhase_eq (afterProcess ctx nowMs) nowMs true
    rw [afterUpdate, gatewayStep, heq]
    exact hmode.trans (updatedMode_of_critical hinvariant.faults.counts htracks rfl nowMs)

/-- Every event keeps the invariant. -/
theorem GatewayInvariant.event {ctx : GatewayCtx} (h : GatewayInvariant ctx) (e : GatewayEvent) :
    GatewayInvariant (eventStep ctx e) := by
  cases e with
  | frame f => exact h.step (.frame f true)
  | main nowMs =>
    exact Core.run_invariant (I := GatewayInvariant) (fun _ op hs => hs.step op) h _

/-- With the scripts off, in every run of received frames and loop iterations every lost BMS
is answered by its communication fault and FAULT exactly when every iteration that loses
the BMS starts with the fault active, or with a fresh powertrain and a table that accepts
the fault. -/
theorem gatewayRun_bmsLoss_iff {cfg : GatewayConfig} (hcfg : cfg.ScriptsOff)
    (events : List GatewayEvent) :
    Core.StepsMeet eventStep BmsLossHandled (gatewayBoot cfg) events ↔
      Core.StepsMeet eventStep BmsLossCovered (gatewayBoot cfg) events := by
  apply Core.stepsMeet_congr (I := GatewayInvariant)
  · intro ctx e h
    exact bmsLossHandled_iff_covered h e
  · intro ctx e h _
    exact h.event e
  · exact gatewayInvariant_boot hcfg

/-- The powertrain and the BMS beat, and later the powertrain alone. -/
def bmsLostRun : List GatewayEvent :=
  [.frame (heartbeatOf mcNodePowertrain), .frame (heartbeatOf mcNodeBms), .main 10,
    .frame (heartbeatOf mcNodePowertrain), .main 310]

/-- A BMS lost at 310 ms behind a beating powertrain is handled. -/
theorem gatewayRun_bmsLoss_bmsLostRun :
    GatewayConfig.off.ScriptsOff ∧
      Core.StepsMeet eventStep BmsLossHandled (gatewayBoot .off) bmsLostRun := by
  refine ⟨scriptsOff_off, (gatewayRun_bmsLoss_iff scriptsOff_off bmsLostRun).mpr
    ⟨trivial, trivial, ?_, trivial, ?_, trivial⟩⟩
  · intro hloss
    exact absurd hloss.2 (by decide +kernel)
  · intro _
    refine .inr ⟨.inl ⟨⟨mcNodePowertrain, 0⟩, ?_, rfl⟩, .inr ?_⟩ <;> decide +kernel

/-- The BMS beats once, the powertrain never does, and the loop runs every 10 ms. -/
def bmsOnlyBeatsOnce : List GatewayEvent :=
  .frame (heartbeatOf mcNodeBms) ::
    (List.range 30).map fun k => .main (10 * (UInt32.ofNat k + 1))

/-- The iteration at 310 ms loses the BMS and no fault is tracked. -/
theorem bmsLoss_unhandled :
    ¬ ∀ events, Core.StepsMeet eventStep BmsLossHandled (gatewayBoot .off) events := by
  intro hall
  have hrun := Core.stepsMeet_iff.mp (hall (bmsOnlyBeatsOnce ++ [.main 310])) bmsOnlyBeatsOnce
    (.main 310) [] rfl
  have hloss : LosesBms (Core.run eventStep (gatewayBoot .off) bmsOnlyBeatsOnce) 310 := by
    constructor <;> decide +kernel
  obtain ⟨htracks, -⟩ := hrun hloss
  have hempty : (afterProcess (Core.run eventStep (gatewayBoot .off) bmsOnlyBeatsOnce)
      310).fm.faults.entries = [] := by
    decide +kernel
  rw [FaultManager.Tracks, hempty] at htracks
  exact List.not_mem_nil htracks

end Microcar.Gateway
