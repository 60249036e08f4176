import Microcar.Core.Run
import Microcar.Gateway.Scripts

/-!
# Tasks of the gateway firmware

The main loop of the gateway cut into its phases, the receive task and the fault
aggregator. Tasks of higher priority can run between two phases, so a run is any
sequence of the steps below; an undisturbed loop iteration is the list of its phases. The
loop is cut where it reads what the receive task writes: `old_mode` is read in front of the
mode update, and `send_vehicle_mode` reads the mode, waits for the mutex and then sends. A
wait of `update_vehicle_mode` for the mutex lies in front of all that the update reads of
the faults, the session and the mode.
-/

namespace Microcar.Gateway

/-- Let a test-bench or script enter DRIVE, `gateway_state_enter_drive`. -/
def enterDrive (ctx : GatewayCtx) : GatewayCtx :=
  { ctx with gs := gatewayStateEnterDrive ctx.gs }

/-- Collect the counters and raise the fault bit, the body of `fault_aggregator`. -/
def faultAggregator (ctx : GatewayCtx) (take : Bool) : GatewayCtx :=
  let critical : UInt8 := if take then ctx.fm.criticalCount else 0
  let warning : UInt8 := if take then ctx.fm.warningCount else 0
  let active : UInt8 := if take then faultManagerActiveCount ctx.fm else 0
  let ctx := ctx.trace "fault_aggregate"
    ((critical.toUInt32 <<< 16) ||| (warning.toUInt32 <<< 8) ||| active.toUInt32)
  if 0 < critical then ctx.setModeEvents 0x02 else ctx

/-- Apply the queued heartbeats, first phase of the loop. -/
def dequeueHeartbeats (ctx : GatewayCtx) (nowMs : UInt32) : GatewayCtx :=
  { ctx.hbQueue.entries.foldl (fun ctx ev => handleHeartbeat ctx nowMs ev) ctx with
    hbQueue := .empty }

/-- Trace a pending urgent fault notification. -/
def takeNotification (ctx : GatewayCtx) : GatewayCtx :=
  match ctx.notification with
  | some value => { ctx with notification := none }.trace "urgent_fault_notify" value
  | none => ctx

/-- Check for timeouts and report a lost BMS, the process phase of the loop. -/
def processPhase (ctx : GatewayCtx) (nowMs : UInt32) (take : Bool) : GatewayCtx :=
  let (hm, transitions) := heartbeatMonitorCheck ctx.hm nowMs
  let ctx := { ctx with hm := hm }
  if 0 < transitions then
    if heartbeatMonitorLastTransitionNode ctx.hm = mcNodeBms then
      reportFault ctx mcNodeBms mcBmsFaultCommError 2 take
    else ctx
  else ctx

/-- Update the vehicle mode; the returned mode is the mode field, `update_vehicle_mode`. -/
def updateVehicleMode (ctx : GatewayCtx) (nowMs : UInt32) (take : Bool) : GatewayCtx :=
  let ctx : GatewayCtx := { ctx with hm := (heartbeatMonitorCheck ctx.hm nowMs).1 }
  let allOnline := heartbeatMonitorAllOnline ctx.hm
  let bmsFault := take && faultManagerHasCritical ctx.fm
  let faultCount : UInt8 := if take then faultManagerActiveCount ctx.fm else 0
  if bmsFault = false ∧ ctx.diagSessionActive = true then
    { ctx with gs := { ctx.gs with
      mode := .service
      allNodesOnline := allOnline
      bmsFaultActive := bmsFault
      bmsLimpRequested := false
      activeFaultCount := faultCount } }
  else { ctx with gs := gatewayStateUpdate ctx.gs allOnline bmsFault false faultCount }

/-- The loop reads the mode in front of its update. -/
def readOldMode (ctx : GatewayCtx) : GatewayCtx := { ctx with oldMode := ctx.gs.mode }

/-- The mode update of the loop, with the announcement of a change and the check of the
event group. -/
def modePhase (ctx : GatewayCtx) (nowMs : UInt32) (take : Bool) : GatewayCtx :=
  let ctx := updateVehicleMode ctx nowMs take
  let changed := decide (ctx.gs.mode ≠ ctx.oldMode)
  let ctx := { ctx with modeChanged := changed }
  let ctx := if changed then ctx.announceMode else ctx
  if ctx.modeEvents &&& 0x01 ≠ 0 then
    let ctx := ctx.trace "mode_event_group" ctx.modeEvents
    { ctx with modeEvents := ctx.modeEvents &&& ~~~0x01 }
  else ctx

/-- The gateway heartbeat, `send_heartbeat`. -/
def sendHeartbeat (nowMs : UInt32) : McCanFrame := heartbeatFrame mcNodeGateway nowMs

/-- Send the periodic heartbeat, first of the broadcast phase. -/
def heartbeatPhase (ctx : GatewayCtx) (nowMs : UInt32) : GatewayCtx :=
  if nowMs % 100 = 0 then ctx.send (sendHeartbeat nowMs) else ctx

/-- The first line of `send_vehicle_mode`, where the mode has changed or is due: read the mode. -/
def readMode (ctx : GatewayCtx) (nowMs : UInt32) : GatewayCtx :=
  { ctx with
    modeRead := if ctx.modeChanged = true ∨ nowMs % 50 = 0 then some ctx.gs.mode else none
    faultCd := 0 }

/-- The critical section of `send_vehicle_mode`: look for a critical fault. -/
def readFaultCd (ctx : GatewayCtx) (take : Bool) : GatewayCtx :=
  match ctx.modeRead with
  | some _ => { ctx with faultCd := if take ∧ 0 < ctx.fm.criticalCount then 1 else 0 }
  | none => ctx

/-- The vehicle mode message that `send_vehicle_mode` builds from what it has read. -/
def sendVehicleMode (mode : McVehicleMode) (faultCd : UInt8) : McCanFrame :=
  mcFrameInit mcMsgVehicleMode mcNodeGateway mcVehicleModeMsgSize
    |>.put 0 mode.toByte
    |>.put 1 faultCd

/-- Build and send the vehicle mode message, last of the broadcast phase. -/
def sendMode (ctx : GatewayCtx) : GatewayCtx :=
  match ctx.modeRead with
  | some mode => { ctx.send (sendVehicleMode mode ctx.faultCd) with modeRead := none }
  | none => ctx

/-- The context after `gateway_init` and the boot part of `gateway_main`. -/
def gatewayBoot (cfg : GatewayConfig) : GatewayCtx :=
  let hm := heartbeatMonitorInit
  let hm := (heartbeatMonitorRegister hm mcNodePowertrain mcSafetyBmsHeartbeatTimeoutMs).1
  let hm := (heartbeatMonitorRegister hm mcNodeBms mcSafetyBmsHeartbeatTimeoutMs).1
  let hm := (heartbeatMonitorRegister hm mcNodeDashboard mcSafetyBmsHeartbeatTimeoutMs).1
  { gs := gatewayStateInit, hm := hm, fm := faultManagerInit, diagSessionActive := false,
    cfg := cfg, modeEvents := 0, hbQueue := .empty, notification := none, ota := Ota.mcOtaInit,
    otaInited := false, diagScript := ⟨0, 0⟩, chargingScript := ⟨0, 0⟩, otaScript := ⟨0, 0⟩,
    startdriveScript := ⟨0, 0⟩, oldMode := .off, modeChanged := false, modeRead := none,
    faultCd := 0,
    out := [.trace "gateway_mutex" 1, .trace "gateway_event_group" 1, .trace "gateway_queue" 1,
      .trace "gateway_can_sem" 1, .can (sendHeartbeat 0)] }

/-- One step of a gateway task; `take` is the outcome of its mutex takes. -/
inductive GatewayOp where
  /-- The receive task dispatches a frame. -/
  | frame (f : RxFrame) (take : Bool)
  /-- DRIVE is requested. -/
  | enterDrive
  /-- A period of the fault aggregator. -/
  | aggregate (take : Bool)
  /-- The loop drains the heartbeat queue. -/
  | dequeue (nowMs : UInt32)
  /-- The loop runs the enabled scripts. -/
  | scripts (take : Bool)
  /-- The loop takes a pending notification. -/
  | notify
  /-- The loop checks for timeouts. -/
  | process (nowMs : UInt32) (take : Bool)
  /-- The loop reads the mode that it will compare with. -/
  | readOldMode
  /-- The loop updates the vehicle mode. -/
  | updateMode (nowMs : UInt32) (take : Bool)
  /-- The loop sends a heartbeat that is due. -/
  | heartbeat (nowMs : UInt32)
  /-- The loop reads the mode for a frame that is due. -/
  | readMode (nowMs : UInt32)
  /-- The loop reads the fault flag for the frame. -/
  | readFaultCd (take : Bool)
  /-- The loop sends the frame. -/
  | sendMode
  deriving DecidableEq

/-- The effect of one step. -/
def gatewayStep (ctx : GatewayCtx) : GatewayOp → GatewayCtx
  | .frame f take => dispatchFrameInRx ctx f.toMcCanFrame take
  | .enterDrive => enterDrive ctx
  | .aggregate take => faultAggregator ctx take
  | .dequeue nowMs => dequeueHeartbeats ctx nowMs
  | .scripts take => runDogfoodScripts ctx take
  | .notify => takeNotification ctx
  | .process nowMs take => processPhase ctx nowMs take
  | .readOldMode => readOldMode ctx
  | .updateMode nowMs take => modePhase ctx nowMs take
  | .heartbeat nowMs => heartbeatPhase ctx nowMs
  | .readMode nowMs => readMode ctx nowMs
  | .readFaultCd take => readFaultCd ctx take
  | .sendMode => sendMode ctx

/-- An undisturbed iteration of the loop in `gateway_main`, every mutex take succeeding. -/
def gatewayMain (nowMs : UInt32) : List GatewayOp :=
  [.dequeue nowMs, .scripts true, .notify, .process nowMs true, .readOldMode,
    .updateMode nowMs true, .heartbeat nowMs, .readMode nowMs, .readFaultCd true, .sendMode]

/-- The events of an undisturbed run: a received frame, or a whole iteration of the loop. -/
inductive GatewayEvent where
  /-- The receive task dispatches a frame. -/
  | frame (f : RxFrame)
  /-- The loop runs one iteration. -/
  | main (nowMs : UInt32)
  deriving DecidableEq

/-- The effect of an event when every mutex take succeeds. -/
def eventStep (ctx : GatewayCtx) : GatewayEvent → GatewayCtx
  | .frame f => gatewayStep ctx (.frame f true)
  | .main nowMs => Core.run gatewayStep ctx (gatewayMain nowMs)

/-- Everything a step puts on the bus or into the trace. -/
def emitted (ctx : GatewayCtx) (op : GatewayOp) : List Emission :=
  (gatewayStep ctx op).out.drop ctx.out.length

end Microcar.Gateway
