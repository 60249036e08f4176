import Microcar.Gateway.FaultManager
import Microcar.Gateway.HeartbeatMonitor
import Microcar.Ota.Slot

/-!
# Context and frame handlers of the gateway firmware

The per-machine context of `gateway_ecu/src/main.c` and the handlers that the receive
task runs on a frame. Every take of the fault mutex can time out; its outcome is an
argument of the handler.
-/

namespace Microcar.Gateway

/-- Vehicle mode state machine data, `gateway_state_t`. -/
structure GatewayState where
  /-- Current vehicle mode. -/
  mode : McVehicleMode
  /-- All expected nodes are online. -/
  allNodesOnline : Bool
  /-- A critical fault is active. -/
  bmsFaultActive : Bool
  /-- The BMS requests limp mode. -/
  bmsLimpRequested : Bool
  /-- Number of active faults. -/
  activeFaultCount : UInt8
  /-- Initialisation has completed. -/
  booted : Bool
  deriving DecidableEq

/-- The state at boot, `gateway_state_init`. -/
def gatewayStateInit : GatewayState where
  mode := .off
  allNodesOnline := false
  bmsFaultActive := false
  bmsLimpRequested := false
  activeFaultCount := 0
  booted := true

/-- Take over the inputs and apply the shared transition, `gateway_state_update`. -/
def gatewayStateUpdate (gs : GatewayState) (allNodesOnline bmsFaultActive bmsLimpRequested : Bool)
    (faultCount : UInt8) : GatewayState :=
  { gs with
    mode := mcGatewayDetermineMode gs.mode allNodesOnline bmsFaultActive bmsLimpRequested
    allNodesOnline := allNodesOnline
    bmsFaultActive := bmsFaultActive
    bmsLimpRequested := bmsLimpRequested
    activeFaultCount := faultCount }

/-- READY is left for DRIVE, `gateway_state_enter_drive`. -/
def gatewayStateEnterDrive (gs : GatewayState) : GatewayState :=
  if gs.mode = .ready then { gs with mode := .drive } else gs

/-- A queued heartbeat, `hb_event_t`. -/
structure HbEvent where
  /-- Node that sent the heartbeat. -/
  sender : UInt8
  /-- Uptime it reported. -/
  uptimeMs : UInt32
  deriving DecidableEq, Repr

/-- Script and bug flags, set before the tasks are created. -/
structure GatewayConfig where
  /-- Run the diagnostics script. -/
  diagDogfoodScript : Bool
  /-- The diagnostics script injects a BMS fault. -/
  diagDogfoodInjectFault : Bool
  /-- Run the charging script. -/
  chargingDogfoodScript : Bool
  /-- Run the update script. -/
  otaDogfoodScript : Bool
  /-- Fault the update script injects. -/
  otaFaultMode : UInt8
  /-- Seeded bug: the update script ignores a bad checksum. -/
  otaCrcCheckBug : Bool
  /-- The diagnostics script injects a powertrain warning. -/
  diagExtraPtFault : Bool
  /-- Seeded bug: clearing codes clears every node. -/
  diagClearAllBug : Bool
  /-- Run the start-session-in-DRIVE script. -/
  diagStartdriveScript : Bool
  /-- Seeded bug: a session may start in DRIVE. -/
  diagStartsessionDriveBug : Bool
  deriving DecidableEq

/-- The zero-initialised flags. -/
def GatewayConfig.off : GatewayConfig where
  diagDogfoodScript := false
  diagDogfoodInjectFault := false
  chargingDogfoodScript := false
  otaDogfoodScript := false
  otaFaultMode := 0
  otaCrcCheckBug := false
  diagExtraPtFault := false
  diagClearAllBug := false
  diagStartdriveScript := false
  diagStartsessionDriveBug := false

/-- Progress of a script. -/
structure ScriptCursor where
  /-- Elapsed script time. -/
  ms : UInt32
  /-- Mask of the actions already taken. -/
  sent : UInt32
  deriving DecidableEq

/-- Length of the heartbeat queue. -/
def hbQueueLength : Nat := 16

/-- The context `gateway_ctx_t` with the pending task notification, the locals that the loop keeps
from one phase to the next and the log of everything the ECU emitted. The counting semaphore that
only feeds a trace task is left out. -/
structure GatewayCtx where
  /-- Vehicle mode state. -/
  gs : GatewayState
  /-- Heartbeat monitor. -/
  hm : HeartbeatMonitor
  /-- Fault manager. -/
  fm : FaultManager
  /-- A diagnostic session is open. -/
  diagSessionActive : Bool
  /-- Script and bug flags. -/
  cfg : GatewayConfig
  /-- Bits of the mode event group. -/
  modeEvents : UInt32
  /-- Heartbeats received and not yet processed. -/
  hbQueue : Core.Table HbEvent hbQueueLength
  /-- Pending urgent fault notification. -/
  notification : Option UInt32
  /-- Update slot state of the update script. -/
  ota : Ota.McOtaSlotState
  /-- The update slot state is initialised. -/
  otaInited : Bool
  /-- Cursor of the diagnostics script. -/
  diagScript : ScriptCursor
  /-- Cursor of the charging script. -/
  chargingScript : ScriptCursor
  /-- Cursor of the update script. -/
  otaScript : ScriptCursor
  /-- Cursor of the start-session-in-DRIVE script. -/
  startdriveScript : ScriptCursor
  /-- Local `old_mode` of the loop. -/
  oldMode : McVehicleMode
  /-- Local comparison `new_mode != old_mode` of the loop. -/
  modeChanged : Bool
  /-- Local `mode` of `send_vehicle_mode`, from its reading until the frame is sent. -/
  modeRead : Option McVehicleMode
  /-- Local `fault_cd` of `send_vehicle_mode`. -/
  faultCd : UInt8
  /-- Everything emitted so far. -/
  out : List Emission
  deriving DecidableEq

/-- What only the steps of the loop use. -/
def GatewayCtx.locals (ctx : GatewayCtx) : McVehicleMode × Bool × Option McVehicleMode × UInt8 :=
  (ctx.oldMode, ctx.modeChanged, ctx.modeRead, ctx.faultCd)

/-- Emit a trace word. -/
def GatewayCtx.trace (ctx : GatewayCtx) (label : String) (value : UInt32) : GatewayCtx :=
  { ctx with out := ctx.out ++ [.trace label value] }

/-- Put a frame on the bus. -/
def GatewayCtx.send (ctx : GatewayCtx) (frame : McCanFrame) : GatewayCtx :=
  { ctx with out := ctx.out ++ [.can frame] }

/-- Assign the vehicle mode. -/
def GatewayCtx.setMode (ctx : GatewayCtx) (mode : McVehicleMode) : GatewayCtx :=
  { ctx with gs := { ctx.gs with mode := mode } }

/-- Set bits of the mode event group, `xEventGroupSetBits`. -/
def GatewayCtx.setModeEvents (ctx : GatewayCtx) (bits : UInt32) : GatewayCtx :=
  { ctx with modeEvents := ctx.modeEvents ||| bits }

/-- Emit the current mode and raise the mode bit of the event group. -/
def GatewayCtx.announceMode (ctx : GatewayCtx) : GatewayCtx :=
  (ctx.trace "vehicle_mode" ctx.gs.mode.toByte.toUInt32).setModeEvents 0x01

/-- Apply a queued heartbeat, `handle_heartbeat`. -/
def handleHeartbeat (ctx : GatewayCtx) (nowMs : UInt32) (ev : HbEvent) : GatewayCtx :=
  { ctx with hm := heartbeatMonitorBeat ctx.hm ev.sender nowMs }

/-- Report a fault under the mutex. -/
def reportFault (ctx : GatewayCtx) (sourceNode faultCode severity : UInt8) (take : Bool) :
    GatewayCtx :=
  if take then { ctx with fm := (faultManagerReport ctx.fm sourceNode faultCode severity).1 }
  else ctx

/-- Report a BMS fault code and notify the loop of a critical one, `handle_bms_fault`. -/
def handleBmsFault (ctx : GatewayCtx) (frame : McCanFrame) (take : Bool) : GatewayCtx :=
  let faultCode := frame.data.get 0
  let severity := faultManagerBmsSeverity faultCode
  let ctx := reportFault ctx mcNodeBms faultCode severity take
  if take ∧ severity = 2 then
    { ctx with notification := ctx.notification.or (some faultCode.toUInt32) }
  else ctx

/-- Number of active faults and code of the first one, `first_active_dtc`. -/
def firstActiveDtc (ctx : GatewayCtx) (take : Bool) : UInt8 × UInt8 :=
  if take then
    (faultManagerActiveCount ctx.fm,
      ((ctx.fm.faults.entries.find? (·.active)).map (·.faultCode)).getD 0)
  else (0, 0)

/-- Diagnostic services. -/
def mcDiagStartSession : UInt8 := 1
/-- `MC_DIAG_READ_MODE`. -/
def mcDiagReadMode : UInt8 := 2
/-- `MC_DIAG_READ_DTCS`. -/
def mcDiagReadDtcs : UInt8 := 3
/-- `MC_DIAG_CLEAR_DTCS`. -/
def mcDiagClearDtcs : UInt8 := 4
/-- `MC_DIAG_ACTUATOR_TEST`. -/
def mcDiagActuatorTest : UInt8 := 6
/-- `MC_DIAG_END_SESSION`. -/
def mcDiagEndSession : UInt8 := 7

/-- Diagnostic response status. -/
def mcDiagOk : UInt8 := 0
/-- `MC_DIAG_REJECTED`. -/
def mcDiagRejected : UInt8 := 1
/-- `MC_DIAG_UNSUPPORTED`. -/
def mcDiagUnsupported : UInt8 := 2

/-- Status and values of a diagnostic response. -/
structure DiagReply where
  /-- Response status. -/
  status : UInt8
  /-- First value. -/
  value0 : UInt8
  /-- Second value. -/
  value1 : UInt8
  deriving DecidableEq

/-- The frame of a diagnostic response. -/
def diagResponseFrame (service requestId : UInt8) (reply : DiagReply) : McCanFrame :=
  mcFrameInit mcMsgDiagResponse mcNodeGateway mcDiagResponseMsgSize
    |>.put 0 mcNodeGateway
    |>.put 1 service
    |>.put 2 requestId
    |>.put 3 reply.status
    |>.put 4 reply.value0
    |>.put 5 reply.value1

/-- Trace and send a diagnostic response, `send_diag_response`. -/
def sendDiagResponse (ctx : GatewayCtx) (service requestId : UInt8) (reply : DiagReply) :
    GatewayCtx :=
  let head := (requestId.toUInt32 <<< 24) ||| (service.toUInt32 <<< 16)
  let ctx := ctx.trace "gateway_diag_response"
    (head ||| (reply.status.toUInt32 <<< 8) ||| reply.value0.toUInt32)
  let ctx := ctx.trace "gateway_diag_response_v1" (head ||| reply.value1.toUInt32)
  ctx.send (diagResponseFrame service requestId reply)

/-- Open a session and enter SERVICE, unless the vehicle is in DRIVE. -/
def startSession (ctx : GatewayCtx) : GatewayCtx × DiagReply :=
  if ctx.gs.mode = .drive ∧ ctx.cfg.diagStartsessionDriveBug = false then
    (ctx, ⟨mcDiagRejected, ctx.gs.mode.toByte, 0⟩)
  else
    let ctx := { ctx with diagSessionActive := true }.setMode .service
    ((ctx.trace "diag_session" 1).announceMode, ⟨mcDiagOk, ctx.gs.mode.toByte, 0⟩)

/-- Clear the codes of the BMS inside a session; a mutex timeout still answers OK. -/
def clearDtcs (ctx : GatewayCtx) (take : Bool) : GatewayCtx × DiagReply :=
  if ctx.diagSessionActive = false then (ctx, ⟨mcDiagRejected, 0, 0⟩)
  else if take then
    let fm := if ctx.cfg.diagClearAllBug then faultManagerClearAll ctx.fm
      else faultManagerClearNode ctx.fm mcNodeBms
    ({ ctx with fm := fm }, ⟨mcDiagOk, 0, 0⟩)
  else (ctx, ⟨mcDiagOk, 0, 0⟩)

/-- The service switch of `handle_diag_request`; LIVE_BMS is unsupported like every unknown
service. -/
def diagService (ctx : GatewayCtx) (service : UInt8) (take : Bool) : GatewayCtx × DiagReply :=
  if service = mcDiagStartSession then startSession ctx
  else if service = mcDiagEndSession then
    ({ ctx with diagSessionActive := false }.trace "diag_session" 0,
      ⟨mcDiagOk, ctx.gs.mode.toByte, 0⟩)
  else if service = mcDiagReadMode then (ctx, ⟨mcDiagOk, ctx.gs.mode.toByte, 0⟩)
  else if service = mcDiagReadDtcs then
    let (count, code) := firstActiveDtc ctx take
    (ctx, ⟨mcDiagOk, count, code⟩)
  else if service = mcDiagClearDtcs then clearDtcs ctx take
  else if service = mcDiagActuatorTest then
    (ctx, ⟨if ctx.diagSessionActive = true ∧ ctx.gs.mode ≠ .drive then mcDiagOk else mcDiagRejected,
      ctx.gs.mode.toByte, 0⟩)
  else (ctx, ⟨mcDiagUnsupported, 0, 0⟩)

/-- Serve and answer a diagnostic request, `handle_diag_request`. -/
def handleDiagRequest (ctx : GatewayCtx) (frame : McCanFrame) (take : Bool) : GatewayCtx :=
  if frame.len < mcDiagRequestMsgSize then ctx
  else
    let service := frame.data.get 1
    let (ctx, reply) := diagService ctx service take
    sendDiagResponse ctx service (frame.data.get 2) reply

/-- The heartbeat event of a frame. -/
def hbEventOf (frame : McCanFrame) : HbEvent where
  sender := frame.sender
  uptimeMs := ((frame.data.get 1).toUInt32 <<< 24) ||| ((frame.data.get 2).toUInt32 <<< 16) |||
    ((frame.data.get 3).toUInt32 <<< 8) ||| (frame.data.get 4).toUInt32

/-- Route a frame in the receive task, `dispatch_frame_in_rx`; a full queue drops a
heartbeat. -/
def dispatchFrameInRx (ctx : GatewayCtx) (frame : McCanFrame) (take : Bool) : GatewayCtx :=
  if frame.id = mcMsgHeartbeat then { ctx with hbQueue := ctx.hbQueue.push (hbEventOf frame) }
  else if frame.id = mcMsgBmsFault then handleBmsFault ctx frame take
  else if frame.id = mcMsgDiagRequest then handleDiagRequest ctx frame take
  else ctx

end Microcar.Gateway
