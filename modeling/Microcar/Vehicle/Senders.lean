import Microcar.Dashboard.Firmware
import Microcar.Gateway.Emissions
import Microcar.Tools.DiagTool
import Microcar.Tools.OtaTool
import Microcar.Tools.Telematics
import Microcar.Vehicle.Bus

/-!
# Who sent a frame

A frame on the wire has no sender. Its identifier belongs to one ECU, and the heartbeats, which all
ECUs send under one identifier, name their node in the first byte. So the traffic of a bus falls
apart into what each ECU has sent, in order, as long as no two ECUs name the same node. The OTA tool
names that of the diagnostics tool.
-/

namespace Microcar.Vehicle

open Microcar.Core

/-- The ECUs with a firmware that sends. -/
inductive Ecu where
  | gateway
  | powertrain
  | bms
  | dashboard
  | diagnostics
  | telematics
  | otaTool
  deriving DecidableEq

namespace Ecu

/-- The node that the heartbeat of the firmware names. -/
def node : Ecu → UInt8
  | gateway => mcNodeGateway
  | powertrain => mcNodePowertrain
  | bms => mcNodeBms
  | dashboard => mcNodeDashboard
  | diagnostics => mcNodeDiagnostics
  | telematics => Tools.mcNodeTelematics
  | otaTool => Tools.mcNodeOtaTool

/-- The identifiers that are the ECU's own. -/
def ids : Ecu → List UInt32
  | gateway => [mcMsgVehicleMode, mcMsgDiagResponse]
  | powertrain => [mcMsgMotorCommand]
  | bms => [mcMsgBmsStatus, mcMsgBmsLimits, mcMsgBmsFault]
  | diagnostics => [mcMsgDiagRequest]
  | dashboard | telematics | otaTool => []

/-- A frame of the ECU: a heartbeat of its node, or a frame with an identifier of its own. -/
def Sends (ecu : Ecu) (f : McCanFrame) : Prop :=
  (∃ nowMs, f = heartbeatFrame ecu.node nowMs) ∨ f.id ∈ ecu.ids

/-- The log grows, by trace words and by frames of the ECU. -/
def Adds (ecu : Ecu) (out out' : List Emission) : Prop :=
  ∃ new, out' = out ++ new ∧ ∀ f, Emission.can f ∈ new → ecu.Sends f

variable {ecu : Ecu} {out out' out'' : List Emission}

/-- A log that stays as it is has nothing added. -/
theorem Adds.of_eq (h : out' = out) : ecu.Adds out out' := ⟨[], by simp [h], by simp⟩

/-- What two steps add is still one ECU's own. -/
theorem Adds.trans (h : ecu.Adds out out') (h' : ecu.Adds out' out'') : ecu.Adds out out'' := by
  obtain ⟨new, rfl, hnew⟩ := h
  obtain ⟨new', rfl, hnew'⟩ := h'
  refine ⟨new ++ new', List.append_assoc _ _ _, fun f hf => ?_⟩
  rcases List.mem_append.mp hf with hf | hf
  · exact hnew f hf
  · exact hnew' f hf

/-- What is added without a frame is the work of any ECU. -/
theorem Adds.of_quiet {new : List Emission} (hout : out' = out ++ new)
    (hquiet : new.filterMap Emission.frame? = []) : ecu.Adds out out' := by
  refine ⟨new, hout, fun f hf => ?_⟩
  have hframe : f ∈ new.filterMap Emission.frame? := List.mem_filterMap.mpr ⟨.can f, hf, rfl⟩
  rw [hquiet] at hframe
  exact absurd hframe List.not_mem_nil

/-- A trace word is no frame. -/
theorem Adds.trace (label : String) (value : UInt32) :
    ecu.Adds out (out ++ [.trace label value]) := .of_quiet rfl rfl

/-- An ECU may add a frame of its own. -/
theorem Adds.send {f : McCanFrame} (h : ecu.Sends f) : ecu.Adds out (out ++ [.can f]) := by
  refine ⟨_, rfl, fun g hg => ?_⟩
  obtain rfl := Emission.can.inj (List.mem_singleton.mp hg)
  exact h

/-- A run adds what its steps add. -/
theorem Adds.run {σ ε : Type} {step : σ → ε → σ} {log : σ → List Emission}
    (h : ∀ s e, ecu.Adds (log s) (log (step s e))) (s : σ) (evs : List ε) :
    ecu.Adds (log s) (log (Core.run step s evs)) := by
  induction evs using List.reverseRecOn with
  | nil => exact .of_eq rfl
  | append_singleton evs e ih =>
    rw [run_snoc]
    exact ih.trans (h _ e)

/-- What is in the log behind boot and run. -/
theorem Adds.sends (hboot : ∀ f, Emission.can f ∈ out → ecu.Sends f) (h : ecu.Adds out out')
    {f : McCanFrame} (hf : Emission.can f ∈ out') : ecu.Sends f := by
  obtain ⟨new, rfl, hnew⟩ := h
  rcases List.mem_append.mp hf with hf | hf
  · exact hboot f hf
  · exact hnew f hf

end Ecu

open Ecu (Adds)

/-! ### The firmware -/

section Gateway

open Gateway

/-- A step of the gateway sends heartbeats, modes and responses only. -/
theorem adds_gatewayStep (ctx : GatewayCtx) (op : GatewayOp) :
    Ecu.gateway.Adds ctx.out (gatewayStep ctx op).out := by
  by_cases hbeat : ∃ nowMs, op = .heartbeat nowMs
  · obtain ⟨nowMs, rfl⟩ := hbeat
    rw [gatewayStep, heartbeatPhase]
    split_ifs
    · exact Adds.send (.inl ⟨nowMs, rfl⟩)
    · exact .of_eq rfl
  · push Not at hbeat
    have hsilent : ∀ {msgId}, msgId ∉ Ecu.gateway.ids →
        Silent msgId ctx (gatewayStep ctx op) := by
      intro msgId hid
      rw [Ecu.ids, List.mem_cons, List.mem_singleton, not_or] at hid
      exact silent_gatewayStep hid.2 (fun _ => hbeat) fun hmode => absurd hmode hid.1
    have hother : mcMsgHeartbeat ∉ Ecu.gateway.ids := by decide
    obtain ⟨new, hout, -⟩ := hsilent hother
    refine ⟨new, hout, fun f hf => ?_⟩
    by_cases hid : f.id ∈ Ecu.gateway.ids
    · exact .inr hid
    · obtain ⟨new', hout', hnone⟩ := hsilent hid
      have hsame : new' = new := List.append_cancel_left (hout'.symm.trans hout)
      have hmem : f ∈ framesOf f.id new := mem_framesOf.mpr ⟨hf, rfl⟩
      rw [← hsame, hnone] at hmem
      exact absurd hmem List.not_mem_nil

end Gateway

section Powertrain

open Powertrain

/-- Timer callbacks send nothing. -/
theorem adds_timers (ctx : PowertrainCtx) (preempt : List UInt32) :
    Ecu.powertrain.Adds ctx.out (preempt.foldl watchdogTimerCb ctx).out := by
  refine ⟨timerTraces ctx.wd preempt, by rw [timers_eq], fun f hf => ?_⟩
  have hframe : f ∈ framesOf f.id (timerTraces ctx.wd preempt) := mem_framesOf.mpr ⟨hf, rfl⟩
  rw [framesOf_timerTraces] at hframe
  exact absurd hframe List.not_mem_nil

/-- An iteration sends its motor command and the heartbeat. -/
theorem adds_command (ctx : PowertrainCtx) (nowMs : UInt32) (preempt : Preemption) :
    Ecu.powertrain.Adds ctx.out (powertrainStep ctx (.command nowMs preempt)).out := by
  refine ⟨commandEmissions ctx nowMs preempt, by rw [powertrainStep, powertrainCommand_eq],
    fun f hf => ?_⟩
  have hframe : f ∈ framesOf f.id (commandEmissions ctx nowMs preempt) :=
    mem_framesOf.mpr ⟨hf, rfl⟩
  have hone {c : Prop} [Decidable c] {g : McCanFrame}
      (hmem : f ∈ framesOf f.id (if c then [.can g] else [])) : f = g := by
    split at hmem
    · exact Emission.can.inj (List.mem_singleton.mp (mem_framesOf.mp hmem).1)
    · exact absurd hmem List.not_mem_nil
  simp only [commandEmissions, framesOf_append, framesOf_timerTraces, framesOf_motorTraces,
    List.nil_append, List.append_nil] at hframe
  rcases List.mem_append.mp hframe with hmem | hmem
  · rw [hone hmem]
    exact .inr (by simp [Ecu.ids])
  · exact .inl ⟨nowMs, hone hmem⟩

/-- A step of the powertrain sends frames of the powertrain. -/
theorem adds_powertrainStep (ctx : PowertrainCtx) (op : PowertrainOp) :
    Ecu.powertrain.Adds ctx.out (powertrainStep ctx op).out := by
  cases op with
  | dispatch frame nowMs => exact .of_eq (dispatchFrame_out ctx frame.toMcCanFrame nowMs)
  | timer nowMs => exact adds_timers ctx [nowMs]
  | command nowMs preempt => exact adds_command ctx nowMs preempt

end Powertrain

section Bms

open Bms

/-- The BMS sends its own frames only. -/
theorem adds_bmsMain (ctx : BmsCtx) (it : BmsIteration) :
    Ecu.bms.Adds ctx.out (bmsMain ctx it).out := by
  obtain ⟨statuses, hout, hstatus⟩ := receive_out ctx it.frames
  have hreceived : Ecu.bms.Adds ctx.out (receive ctx it.frames).out := by
    refine ⟨statuses, hout, fun f hf => ?_⟩
    obtain ⟨g, hg, hid⟩ := hstatus _ hf
    obtain rfl := Emission.can.inj hg
    exact .inr (by simp [Ecu.ids, hid])
  have hlimits (c : BmsCtx) (nowMs : UInt32) : Ecu.bms.Adds c.out (publishLimits c nowMs).out := by
    unfold publishLimits
    split
    · exact Adds.send (.inr (by simp [Ecu.ids, sendBmsLimits]))
    · exact .of_eq rfl
  have hfault (c : BmsCtx) : Ecu.bms.Adds c.out (publishFault c).out := by
    unfold publishFault
    split
    · exact Adds.send (.inr (by simp [Ecu.ids, sendBmsFault]))
    · exact .of_eq rfl
  have hbeat (c : BmsCtx) (nowMs : UInt32) :
      Ecu.bms.Adds c.out (publishHeartbeat c nowMs).out := by
    unfold publishHeartbeat
    split
    · exact Adds.send (.inl ⟨nowMs, rfl⟩)
    · exact .of_eq rfl
  exact ((hreceived.trans (hlimits _ _)).trans (hfault _)).trans (hbeat _ _)

end Bms

section Dashboard

open Dashboard

/-- The display sends nothing at all. -/
theorem adds_displayUpdate (ctx : DashboardCtx) (nowMs : UInt32) (touches : List TouchEvent) :
    Ecu.dashboard.Adds ctx.out (displayUpdate ctx nowMs touches).out := by
  have htaken : Ecu.dashboard.Adds ctx.out (takeNotification ctx).out := by
    unfold takeNotification
    split
    · exact .of_eq rfl
    · dsimp only
      split
      · exact Adds.trace _ _
      · exact .of_eq rfl
  have hinit (c : DashboardCtx) : Ecu.dashboard.Adds c.out (initDisplay c).out := by
    unfold initDisplay
    split
    · exact .of_eq rfl
    · exact Adds.trace _ _
  have htouch (c : DashboardCtx) (ev : TouchEvent) :
      Ecu.dashboard.Adds c.out (pollTouch c ev).out := by
    unfold pollTouch
    split
    · exact Adds.trace _ _
    · exact .of_eq rfl
  have hrender (c : DashboardCtx) : Ecu.dashboard.Adds c.out (renderDisplay c nowMs).out := by
    unfold renderDisplay
    split <;> exact .of_eq rfl
  have htop (c : DashboardCtx) : Ecu.dashboard.Adds c.out (traceTopWarning c nowMs).out := by
    unfold traceTopWarning
    split
    · exact Adds.trace _ _
    · exact .of_eq rfl
  have htouches := Adds.run htouch (initDisplay (takeNotification ctx)) touches
  exact (((htaken.trans (hinit _)).trans htouches).trans (hrender _)).trans (htop _)

/-- The dashboard sends its own frames only. -/
theorem adds_dashboardStep (ctx : DashboardCtx) (op : DashboardOp) :
    Ecu.dashboard.Adds ctx.out (dashboardStep ctx op).out := by
  cases op with
  | dispatch frame =>
    refine .of_eq ?_
    rw [dashboardStep, dispatchFrame]
    unfold handlePlantSensors handleOtaStatus
    split_ifs <;> rfl
  | heartbeat nowMs =>
    rw [dashboardStep, publishHeartbeat]
    split
    · exact Adds.send (.inl ⟨nowMs, rfl⟩)
    · exact .of_eq rfl
  | display nowMs touches => exact adds_displayUpdate ctx nowMs touches

end Dashboard

section Tools

open Tools

/-- The diagnostics tool sends its own frames only. -/
theorem adds_diagnosticsToolMain (ctx : DiagToolCtx) (rx : List RxFrame) :
    Ecu.diagnostics.Adds ctx.out (diagnosticsToolMain ctx rx).out := by
  have hscript : Ecu.diagnostics.Adds ctx.out (scriptPhase ctx).out := by
    unfold scriptPhase
    dsimp only
    rw [playScript_eq ownFlags_toolScript, actAll_send]
    refine ⟨_, rfl, fun f hf => .inr ?_⟩
    obtain ⟨r, -, hr⟩ := List.mem_map.mp hf
    obtain rfl := Emission.can.inj hr
    simp [Ecu.ids, diagRequestFrame, mcFrameInit, McCanFrame.put]
  have hreceive (c : DiagToolCtx) (frame : RxFrame) :
      Ecu.diagnostics.Adds c.out (receivePhase c frame).out := by
    obtain ⟨new, hreceived, hquiet, -⟩ := receivePhase_out c frame
    exact .of_quiet (by rw [hreceived]) hquiet
  have hbeat (c : DiagToolCtx) : Ecu.diagnostics.Adds c.out (heartbeatPhase c).out := by
    unfold heartbeatPhase
    split
    · exact Adds.send (.inl ⟨c.scriptMs, rfl⟩)
    · exact .of_eq rfl
  have hreceived := Adds.run hreceive (scriptPhase ctx) rx
  exact (hscript.trans hreceived).trans (hbeat _)

/-- So does the telematics unit. -/
theorem adds_telematicsMain (ctx : TelemCtx) (io : TelemIo) :
    Ecu.telematics.Adds ctx.out (telematicsMain ctx io).out := by
  rw [telematicsMain_eq]
  refine ⟨_, rfl, fun f hf => .inl ?_⟩
  simp only [telemEmissions, List.mem_append, List.mem_map, List.mem_flatMap, List.mem_cons,
    List.not_mem_nil, reduceCtorEq, and_false, exists_false, or_false, false_or,
    Emission.can.injEq] at hf
  exact ⟨_, hf⟩

/-- So does the update tool. -/
theorem adds_otaToolMain (ctx : OtaToolCtx) (rx : List RxFrame) :
    Ecu.otaTool.Adds ctx.out (otaToolMain ctx rx).out := by
  obtain ⟨words, hout, hwords⟩ := foldl_traceCommand rx { ctx with
    uptimeMs := ctx.uptimeMs + otaHeartbeatPeriodMs
    tickCount := ctx.tickCount + 1 }
  have htraced : Ecu.otaTool.Adds ctx.out (rx.foldl traceCommand { ctx with
      uptimeMs := ctx.uptimeMs + otaHeartbeatPeriodMs
      tickCount := ctx.tickCount + 1 }).out := ⟨words, hout, fun f hf => absurd hf (hwords f)⟩
  exact (htraced.trans (Adds.send (.inl ⟨_, rfl⟩))).trans (Adds.trace _ _)

end Tools

/-! ### Logs -/

/-- The logs of an ECU's firmware: what it has emitted at some point of some run. -/
inductive Ecu.Logs : Ecu → List Emission → Prop
  | gateway (cfg : Gateway.GatewayConfig) (ops : List Gateway.GatewayOp) :
      Logs .gateway (run Gateway.gatewayStep (Gateway.gatewayBoot cfg) ops).out
  | powertrain (forceService forceCharging clampBug : Bool) (ops : List Powertrain.PowertrainOp) :
      Logs .powertrain (run Powertrain.powertrainStep
        (Powertrain.powertrainBoot forceService forceCharging clampBug) ops).out
  | bms (its : List Bms.BmsIteration) : Logs .bms (run Bms.bmsMain Bms.bmsBoot its).out
  | dashboard (framebuffer : Dashboard.Framebuffer) (ops : List Dashboard.DashboardOp) :
      Logs .dashboard (run Dashboard.dashboardStep (Dashboard.dashboardBoot framebuffer) ops).out
  | diagnostics (rxs : List (List RxFrame)) :
      Logs .diagnostics (run Tools.diagnosticsToolMain Tools.diagToolBoot rxs).out
  | telematics (registered : UInt32) (ios : List Tools.TelemIo) :
      Logs .telematics (Tools.telematicsRun registered ios).out
  | otaTool (rxs : List (List RxFrame)) :
      Logs .otaTool (run Tools.otaToolMain Tools.otaToolBoot rxs).out

/-- An ECU sends heartbeats of its node and frames with its own identifiers, and nothing else. -/
theorem Ecu.Logs.sends {ecu : Ecu} {out : List Emission} (h : ecu.Logs out) {f : McCanFrame}
    (hf : Emission.can f ∈ out) : ecu.Sends f := by
  have hbeat {first : List Emission} {nowMs : UInt32}
      (hfirst : first.filterMap Emission.frame? = [heartbeatFrame ecu.node nowMs]) :
      ∀ g, Emission.can g ∈ first → ecu.Sends g := by
    intro g hg
    have hframe : g ∈ first.filterMap Emission.frame? := List.mem_filterMap.mpr ⟨.can g, hg, rfl⟩
    rw [hfirst, List.mem_singleton] at hframe
    exact .inl ⟨nowMs, hframe⟩
  cases h with
  | gateway cfg ops => exact Adds.sends (hbeat rfl) (Adds.run adds_gatewayStep _ ops) hf
  | powertrain forceService forceCharging clampBug ops =>
    refine Adds.sends (@hbeat _ 0 ?_) (Adds.run adds_powertrainStep _ ops) hf
    cases forceService <;> cases forceCharging <;> cases clampBug <;> rfl
  | bms its => exact Adds.sends (hbeat rfl) (Adds.run adds_bmsMain _ its) hf
  | dashboard framebuffer ops =>
    exact Adds.sends (hbeat rfl) (Adds.run adds_dashboardStep _ ops) hf
  | diagnostics rxs => exact Adds.sends (hbeat rfl) (Adds.run adds_diagnosticsToolMain _ rxs) hf
  | telematics registered ios =>
    exact Adds.sends (hbeat rfl) (Adds.run adds_telematicsMain _ ios) hf
  | otaTool rxs => exact Adds.sends (hbeat rfl) (Adds.run adds_otaToolMain _ rxs) hf

/-! ### Traffic -/

/-- A wire frame that the ECU can have sent. -/
def Ecu.Claims (ecu : Ecu) (frame : BusFrame) : Prop :=
  frame.id ∈ ecu.ids ∨ frame.id = mcMsgHeartbeat ∧ frame.data.get 0 = ecu.node

/-- A frame in the log of an ECU is one that the ECU claims. -/
theorem Ecu.Logs.claims {ecu : Ecu} {out : List Emission} (h : ecu.Logs out) {frame : BusFrame}
    (hframe : frame ∈ framesSent out) : ecu.Claims frame := by
  obtain ⟨f, hf, hid, hdata⟩ := mem_framesSent hframe
  rcases h.sends hf with ⟨nowMs, rfl⟩ | hown
  · exact .inr ⟨hid, by rw [hdata]; rfl⟩
  · exact .inl (by rwa [hid])

/-- The two tools share their node, and no other two ECUs share anything. -/
theorem Ecu.Claims.eq_or {ecu ecu' : Ecu} {frame : BusFrame} (h : ecu.Claims frame)
    (h' : ecu'.Claims frame) :
    ecu = ecu' ∨ ecu = .diagnostics ∧ ecu' = .otaTool ∨ ecu = .otaTool ∧ ecu' = .diagnostics := by
  have hids : ecu = ecu' ∨ ∀ id ∈ ecu.ids, id ∉ ecu'.ids := by
    cases ecu <;> cases ecu' <;>
      simp [Ecu.ids, mcMsgVehicleMode, mcMsgDiagResponse, mcMsgMotorCommand, mcMsgBmsStatus,
        mcMsgBmsLimits, mcMsgBmsFault, mcMsgDiagRequest]
  have hnodes : ecu.node = ecu'.node → ecu = ecu' ∨
      ecu = .diagnostics ∧ ecu' = .otaTool ∨ ecu = .otaTool ∧ ecu' = .diagnostics := by
    cases ecu <;> cases ecu' <;> decide
  have hbeat (e : Ecu) : mcMsgHeartbeat ∉ e.ids := by
    cases e <;> decide
  rcases h with hown | ⟨hid, hnode⟩ <;> rcases h' with hown' | ⟨hid', hnode'⟩
  · exact .inl (hids.resolve_right fun hapart => hapart frame.id hown hown')
  · exact absurd (hid' ▸ hown) (hbeat ecu)
  · exact absurd (hid ▸ hown') (hbeat ecu')
  · exact hnodes (hnode.symm.trans hnode')

/-- The traffic of a bus with these ECUs on it: their frames, merged in some order. -/
structure Traffic (on : Ecu → Prop) (logs : Ecu → List Emission)
    (traffic : List (Ecu × BusFrame)) : Prop where
  /-- An ECU on the bus has not started yet, or is at some point of a run. -/
  running : ∀ ecu, logs ecu = [] ∨ on ecu ∧ ecu.Logs (logs ecu)
  /-- The bus keeps the frames of every ECU in order. -/
  merged : ∀ ecu, itemsOf traffic ecu = framesSent (logs ecu)

/-- A frame on the bus comes from an ECU that is switched on and claims it. -/
theorem Traffic.claims {on : Ecu → Prop} {logs : Ecu → List Emission}
    {traffic : List (Ecu × BusFrame)} (h : Traffic on logs traffic) {item : Ecu × BusFrame}
    (hitem : item ∈ traffic) : on item.1 ∧ item.1.Claims item.2 := by
  have hsent : item.2 ∈ framesSent (logs item.1) := by
    rw [← h.merged]
    exact mem_itemsOf.mpr hitem
  rcases h.running item.1 with hnone | ⟨hon, hlog⟩
  · rw [hnone] at hsent
    exact absurd hsent List.not_mem_nil
  · exact ⟨hon, hlog.claims hsent⟩

/-- The heartbeat that both tools send when they start. -/
def toolHeartbeat : BusFrame :=
  ⟨mcMsgHeartbeat, (heartbeatFrame mcNodeDiagnostics 0).data, mcHeartbeatMsgSize, by decide,
    by decide⟩

/-- What both tools have emitted before their loops. -/
def toolBootLogs : Ecu → List Emission
  | .diagnostics => Tools.diagToolBoot.out
  | .otaTool => Tools.otaToolBoot.out
  | _ => []

/-- Where both tools are on the bus, one frame can come from either. -/
theorem traffic_toolBoot {on : Ecu → Prop} (hdiagnostics : on .diagnostics)
    (hotaTool : on .otaTool) :
    Traffic on toolBootLogs [(.diagnostics, toolHeartbeat), (.otaTool, toolHeartbeat)] := by
  constructor
  · intro ecu
    cases ecu with
    | diagnostics => exact .inr ⟨hdiagnostics, .diagnostics []⟩
    | otaTool => exact .inr ⟨hotaTool, .otaTool []⟩
    | _ => exact .inl rfl
  · intro ecu
    cases ecu <;> rfl

/-- One table of senders reads all traffic right, unless both tools are on the bus. -/
theorem exists_sender_iff (on : Ecu → Prop) :
    (∃ sender : BusFrame → Option Ecu, ∀ logs traffic, Traffic on logs traffic →
        ∀ ecu, (traffic.map Prod.snd).filter (fun frame => sender frame = some ecu) =
          framesSent (logs ecu)) ↔
      ¬ (on .diagnostics ∧ on .otaTool) := by
  classical
  constructor
  · rintro ⟨sender, hsender⟩ ⟨hdiagnostics, hotaTool⟩
    have hsent (ecu : Ecu) (hecu : toolHeartbeat ∈ framesSent (toolBootLogs ecu)) :
        sender toolHeartbeat = some ecu := by
      rw [← hsender _ _ (traffic_toolBoot hdiagnostics hotaTool), List.mem_filter,
        decide_eq_true_iff] at hecu
      exact hecu.2
    have hboth := (hsent .diagnostics (List.mem_singleton.mpr rfl)).symm.trans
      (hsent .otaTool (List.mem_singleton.mpr rfl))
    simp at hboth
  · intro hone
    have hunique {ecu ecu' : Ecu} {frame : BusFrame} (h : on ecu ∧ ecu.Claims frame)
        (h' : on ecu' ∧ ecu'.Claims frame) : ecu = ecu' := by
      rcases h.2.eq_or h'.2 with hsame | ⟨rfl, rfl⟩ | ⟨rfl, rfl⟩
      · exact hsame
      · exact absurd ⟨h.1, h'.1⟩ hone
      · exact absurd ⟨h'.1, h.1⟩ hone
    refine ⟨fun frame => if h : ∃ ecu, on ecu ∧ ecu.Claims frame then some h.choose else none, ?_⟩
    intro logs traffic htraffic ecu
    rw [← htraffic.merged]
    refine filter_sender (fun item hitem => ?_) ecu
    have hclaims := htraffic.claims hitem
    have hexists : ∃ ecu, on ecu ∧ ecu.Claims item.2 := ⟨item.1, hclaims⟩
    rw [dif_pos hexists, hunique hexists.choose_spec hclaims]

end Microcar.Vehicle
