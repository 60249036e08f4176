import Microcar.Core.Run
import Microcar.Powertrain.Torque

/-!
# The powertrain firmware

The context of `powertrain_ecu/src/main.c`, its frame handlers, the watchdog timer
callback and the control loop. The loop is cut at the points where the timer task can
run to an effect: between two received frames, between receiving and computing, and behind
the torque computation at each reading of the enable flag and each frame that is sent. A
callback does not block and runs to its end. The sensor poll, deadline monitor and logger
tasks only emit trace words and are left out.
-/

namespace Microcar.Powertrain

/-- The context `powertrain_ctx_t`, with the log of everything the ECU emitted. -/
structure PowertrainCtx where
  /-- Torque controller. -/
  tc : TorqueController
  /-- Gateway watchdog. -/
  wd : WatchdogTask
  /-- Firmware variant that forces SERVICE mode. -/
  diagForceServiceMode : Bool
  /-- Firmware variant that forces CHARGING mode. -/
  chargingForceMode : Bool
  /-- Seeded bug that skips the SERVICE clamp. -/
  diagServiceClampBug : Bool
  /-- Free transmit mailboxes. -/
  canTxSlots : Nat
  /-- Everything emitted so far. -/
  out : List Emission
  deriving DecidableEq

/-- Append to the emission log. -/
def PowertrainCtx.emit (ctx : PowertrainCtx) (e : Emission) : PowertrainCtx :=
  { ctx with out := ctx.out ++ [e] }

/-- The software timer callback, `watchdog_timer_cb`. -/
def watchdogTimerCb (ctx : PowertrainCtx) (nowMs : UInt32) : PowertrainCtx :=
  let (wd, timeout) := watchdogCheck ctx.wd nowMs
  if timeout then
    { ctx with wd := wd, tc := { ctx.tc with motorEnable := false } }.emit
      (.trace "gateway_timeout" nowMs)
  else { ctx with wd := wd }.emit (.trace "watchdog_ok" nowMs)

/-- Store the driver input, `handle_driver_input`; the gear byte is optional. -/
def handleDriverInput (ctx : PowertrainCtx) (frame : McCanFrame) : PowertrainCtx :=
  let gear := if 3 ≤ frame.len then frame.data.get 2 else 0
  { ctx with tc := torqueControllerSetInput ctx.tc (frame.data.get 0) (frame.data.get 1) gear }

/-- Cast and store the vehicle mode, `handle_vehicle_mode`. -/
def handleVehicleMode (ctx : PowertrainCtx) (frame : McCanFrame) : PowertrainCtx :=
  { ctx with tc := torqueControllerSetMode ctx.tc (.ofByte (frame.data.get 0)) }

/-- Store the BMS limit, `handle_bms_limits`. -/
def handleBmsLimits (ctx : PowertrainCtx) (frame : McCanFrame) : PowertrainCtx :=
  { ctx with tc := torqueControllerSetBmsLimit ctx.tc (frame.data.get 0) }

/-- Feed the watchdog, `handle_gateway_heartbeat`. -/
def handleGatewayHeartbeat (ctx : PowertrainCtx) (nowMs : UInt32) : PowertrainCtx :=
  { ctx with wd := watchdogGatewayBeat ctx.wd nowMs }

/-- Route a received frame, `dispatch_frame`; `nowMs` is the tick read for heartbeats. -/
def dispatchFrame (ctx : PowertrainCtx) (frame : McCanFrame) (nowMs : UInt32) : PowertrainCtx :=
  if frame.id = mcMsgDriverInput then handleDriverInput ctx frame
  else if frame.id = mcMsgVehicleMode then handleVehicleMode ctx frame
  else if frame.id = mcMsgBmsLimits then handleBmsLimits ctx frame
  else if frame.id = mcMsgHeartbeat then
    if frame.sender = mcNodeGateway then handleGatewayHeartbeat ctx nowMs else ctx
  else ctx

/-- Send through a transmit mailbox that is given back at once, `can_tx_with_semaphore`. -/
def canTxWithSemaphore (ctx : PowertrainCtx) (frame : McCanFrame) : PowertrainCtx :=
  if 0 < ctx.canTxSlots then ctx.emit (.can frame) else ctx

/-- The powertrain heartbeat, `send_heartbeat`. -/
def sendHeartbeat (nowMs : UInt32) : McCanFrame := heartbeatFrame mcNodePowertrain nowMs

/-- The motor command for a computed torque, `send_motor_command`. -/
def sendMotorCommand (ctx : PowertrainCtx) (torque : Int8) : McCanFrame :=
  mcFrameInit mcMsgMotorCommand mcNodePowertrain mcMotorCommandMsgSize
    |>.put 0 torque.toUInt8
    |>.put 1 (if ctx.tc.motorEnable then 1 else 0)

/-- The mode overrides of the dogfood firmware variants. -/
def forceModes (ctx : PowertrainCtx) : PowertrainCtx :=
  let tc := if ctx.diagForceServiceMode then
      torqueControllerSetInput (torqueControllerSetMode ctx.tc .service) 80 0 0
    else ctx.tc
  let tc := if ctx.chargingForceMode then
      torqueControllerSetInput (torqueControllerSetMode tc .charging) 80 0 0
    else tc
  { ctx with tc := tc }

/-- The torque computation of the loop with the seeded SERVICE bug: the context and the
local `torque`. -/
def computeTorque (ctx : PowertrainCtx) : PowertrainCtx × Int8 :=
  let ctx := { ctx with tc := torqueControllerCompute ctx.tc }
  if ctx.diagServiceClampBug ∧ ctx.tc.vehicleMode = .service then
    ({ ctx with tc := { ctx.tc with motorEnable := true } }, ctx.tc.throttlePercent.toInt8)
  else (ctx, ctx.tc.outputTorque)

/-- The trace word of a motor command in SERVICE or CHARGING mode. -/
def motorCommandWord (ctx : PowertrainCtx) (torque : Int8) : UInt32 :=
  (torque.toUInt8.toUInt32 <<< 8) ||| (if ctx.tc.motorEnable then 1 else 0)

/-- The trace of the motor command in SERVICE and CHARGING mode. -/
def traceMotorCommand (ctx : PowertrainCtx) (torque : Int8) : PowertrainCtx :=
  let word := motorCommandWord ctx torque
  let ctx := if ctx.tc.vehicleMode = .service then ctx.emit (.trace "diag_motor_command" word)
    else ctx
  if ctx.tc.vehicleMode = .charging then ctx.emit (.trace "charging_motor_command" word) else ctx

/-- The timer callbacks that preempt one loop iteration behind its torque computation. -/
structure Preemption where
  /-- Before `send_motor_command` reads the enable flag. -/
  computed : List UInt32 := []
  /-- Behind it, before the trace word reads the flag. -/
  built : List UInt32 := []
  /-- Behind the trace, before `can_tx_with_semaphore` sends the motor command. -/
  traced : List UInt32 := []
  /-- Behind the motor command, before the heartbeat. -/
  sent : List UInt32 := []
  deriving DecidableEq

/-- The loop of `powertrain_main` behind its receive phase. -/
def powertrainCommand (ctx : PowertrainCtx) (nowMs : UInt32) (preempt : Preemption) :
    PowertrainCtx :=
  let (ctx, torque) := computeTorque (forceModes ctx)
  let ctx := preempt.computed.foldl watchdogTimerCb ctx
  let tx := sendMotorCommand ctx torque
  let ctx := preempt.built.foldl watchdogTimerCb ctx
  let ctx := traceMotorCommand ctx torque
  let ctx := preempt.traced.foldl watchdogTimerCb ctx
  let ctx := canTxWithSemaphore ctx tx
  let ctx := preempt.sent.foldl watchdogTimerCb ctx
  if nowMs % 100 = 0 then canTxWithSemaphore ctx (sendHeartbeat nowMs) else ctx

/-- The context after `powertrain_main` has booted, for the three firmware variant flags. -/
def powertrainBoot (forceService forceCharging clampBug : Bool) : PowertrainCtx :=
  (forceModes
    { tc := torqueControllerInit, wd := watchdogInit, diagForceServiceMode := forceService,
      chargingForceMode := forceCharging, diagServiceClampBug := clampBug, canTxSlots := 3,
      out := [] }).emit (.can (sendHeartbeat 0))

/-- One step of the powertrain ECU. -/
inductive PowertrainOp where
  /-- The receive loop dispatches one frame. -/
  | dispatch (frame : RxFrame) (nowMs : UInt32)
  /-- The watchdog timer fires between two steps of the main task. -/
  | timer (nowMs : UInt32)
  /-- The rest of a loop iteration, with the timer callbacks that preempt it. -/
  | command (nowMs : UInt32) (preempt : Preemption)
  deriving DecidableEq

/-- The effect of one step. -/
def powertrainStep (ctx : PowertrainCtx) : PowertrainOp → PowertrainCtx
  | .dispatch frame nowMs => dispatchFrame ctx frame.toMcCanFrame nowMs
  | .timer nowMs => watchdogTimerCb ctx nowMs
  | .command nowMs preempt => powertrainCommand ctx nowMs preempt

/-- The motor commands a step puts on the bus. -/
def motorCommands (ctx : PowertrainCtx) (op : PowertrainOp) : List McCanFrame :=
  framesOf mcMsgMotorCommand ((powertrainStep ctx op).out.drop ctx.out.length)

end Microcar.Powertrain
