import Microcar.Core.Bytes
import Microcar.Core.Run
import Microcar.Protocol.Modes

/-!
# The BMS firmware

State machine, torque limits and main loop of the battery management ECU. One loop
iteration drains the receive queue frame by frame and then publishes limits, a changed
fault code and a heartbeat. The calibration task only emits trace words and is left out.
-/

namespace Microcar.Bms

/-- State of the pack as last measured, `bms_state_t`; the charger flag is never read. -/
structure BmsState where
  /-- Current BMS state. -/
  state : McBmsState
  /-- Last temperature in tenths of a degree. -/
  tempCX10 : Int16
  /-- Last pack voltage in millivolts. -/
  voltageMv : UInt16
  /-- Last pack current in milliamperes. -/
  currentMa : Int16
  /-- State of charge in percent. -/
  socPercent : UInt8
  /-- Most recent fault code. -/
  faultCode : UInt8
  deriving DecidableEq

/-- The pack state at boot, `bms_state_init`. -/
def bmsStateInit : BmsState where
  state := .ok
  tempCX10 := 0
  voltageMv := 0
  currentMa := 0
  socPercent := 0
  faultCode := mcBmsFaultNone

/-- The state for a temperature, `bms_state_from_temp`. -/
def bmsStateFromTemp (tempCX10 : Int16) : McBmsState := mcBmsDetermineState tempCX10

/-- The fault code of a state, `bms_state_fault_code`. -/
def bmsStateFaultCode : McBmsState → UInt8
  | .criticalFault => mcBmsFaultOvertemp
  | .limpRequest => mcBmsFaultNone
  | .warnHot => mcBmsFaultNone
  | .ok => mcBmsFaultNone

/-- Store a measurement; the returned state is the state field, `bms_state_update`. -/
def bmsStateUpdate (_ : BmsState) (tempCX10 : Int16) (voltageMv : UInt16) (currentMa : Int16)
    (socPercent : UInt8) : BmsState where
  state := bmsStateFromTemp tempCX10
  tempCX10 := tempCX10
  voltageMv := voltageMv
  currentMa := currentMa
  socPercent := socPercent
  faultCode := bmsStateFaultCode (bmsStateFromTemp tempCX10)

/-- Torque limit and its reason, `bms_limits_t`. -/
structure BmsLimits where
  /-- Maximum torque percent, 255 for unlimited. -/
  maxTorquePercent : UInt8
  /-- Reason code. -/
  reason : UInt8
  deriving DecidableEq

/-- No limit at boot, `bms_limits_init`. -/
def bmsLimitsInit : BmsLimits := ⟨255, 0⟩

/-- The limit of a state, `bms_limits_compute`. -/
def bmsLimitsCompute : McBmsState → BmsLimits
  | .ok => ⟨255, 0⟩
  | .warnHot => ⟨255, 1⟩
  | .limpRequest => ⟨mcTorqueLimpMaxPercent, 2⟩
  | .criticalFault => ⟨mcTorqueFaultMaxPercent, 3⟩

/-- The context `bms_ctx_t` with the loop's own `last_fault_published` and the log of
everything the ECU emitted. -/
structure BmsCtx where
  /-- Measured state. -/
  bs : BmsState
  /-- Wrapping sequence number of the status message. -/
  seq : UInt8
  /-- Torque limit. -/
  bl : BmsLimits
  /-- Fault code of the last published fault frame. -/
  lastFaultPublished : UInt8
  /-- Everything emitted so far. -/
  out : List Emission
  deriving DecidableEq

/-- Put a frame on the bus. -/
def BmsCtx.send (ctx : BmsCtx) (frame : McCanFrame) : BmsCtx :=
  { ctx with out := ctx.out ++ [.can frame] }

/-- The readings of a plant sensor frame, in the order of its fields. -/
structure PlantReadings where
  /-- State of charge in percent. -/
  socPercent : UInt8
  /-- Pack voltage in millivolts. -/
  voltageMv : UInt16
  /-- Temperature in tenths of a degree. -/
  tempCX10 : Int16
  /-- Pack current in milliamperes. -/
  currentMa : Int16
  deriving DecidableEq

/-- The big-endian decoding at the head of `handle_plant_sensors`. -/
def decodePlantSensors (frame : McCanFrame) : PlantReadings where
  socPercent := frame.data.get 0
  voltageMv := Core.wordOfBytes (frame.data.get 1) (frame.data.get 2)
  tempCX10 := (Core.wordOfBytes (frame.data.get 3) (frame.data.get 4)).toInt16
  currentMa := (Core.wordOfBytes (frame.data.get 5) (frame.data.get 6)).toInt16

/-- The status message with its packed little-endian layout. -/
def bmsStatusFrame (r : PlantReadings) (seq : UInt8) : McCanFrame :=
  mcFrameInit mcMsgBmsStatus mcNodeBms mcBmsStatusMsgSize
    |>.put 0 (Core.loByte r.voltageMv)
    |>.put 1 (Core.hiByte r.voltageMv)
    |>.put 2 (Core.loByte r.currentMa.toUInt16)
    |>.put 3 (Core.hiByte r.currentMa.toUInt16)
    |>.put 4 (Core.loByte r.tempCX10.toUInt16)
    |>.put 5 (Core.hiByte r.tempCX10.toUInt16)
    |>.put 6 r.socPercent
    |>.put 7 seq

/-- Take over a plant sensor frame and answer with a status message,
`handle_plant_sensors`. -/
def handlePlantSensors (ctx : BmsCtx) (frame : McCanFrame) : BmsCtx :=
  if frame.len < 7 then ctx
  else
    let r := decodePlantSensors frame
    let oldState := ctx.bs.state
    let bs := bmsStateUpdate ctx.bs r.tempCX10 r.voltageMv r.currentMa r.socPercent
    let bl := bmsLimitsCompute bs.state
    let bs := if bs.state = .criticalFault ∧ oldState ≠ .criticalFault then
        { bs with faultCode := mcBmsFaultOvertemp }
      else bs
    let seq := ctx.seq + 1
    { ctx with bs := bs, bl := bl, seq := seq }.send (bmsStatusFrame r seq)

/-- Route a received frame, `dispatch_frame`. -/
def dispatchFrame (ctx : BmsCtx) (frame : McCanFrame) : BmsCtx :=
  if frame.id = mcMsgPlantSensors then handlePlantSensors ctx frame else ctx

/-- The BMS heartbeat, `send_heartbeat`. -/
def sendHeartbeat (nowMs : UInt32) : McCanFrame := heartbeatFrame mcNodeBms nowMs

/-- The limits message, `send_bms_limits`. -/
def sendBmsLimits (ctx : BmsCtx) : McCanFrame :=
  mcFrameInit mcMsgBmsLimits mcNodeBms mcBmsLimitsMsgSize
    |>.put 0 ctx.bl.maxTorquePercent
    |>.put 1 ctx.bl.reason

/-- The fault message, `send_bms_fault`. -/
def sendBmsFault (ctx : BmsCtx) : McCanFrame :=
  mcFrameInit mcMsgBmsFault mcNodeBms 1 |>.put 0 ctx.bs.faultCode

/-- Publish the limits every 50 ms. -/
def publishLimits (ctx : BmsCtx) (nowMs : UInt32) : BmsCtx :=
  if nowMs % 50 = 0 then ctx.send (sendBmsLimits ctx) else ctx

/-- Publish the fault code when it differs from the one published last. -/
def publishFault (ctx : BmsCtx) : BmsCtx :=
  if ctx.bs.faultCode ≠ ctx.lastFaultPublished then
    { ctx.send (sendBmsFault ctx) with lastFaultPublished := ctx.bs.faultCode }
  else ctx

/-- Publish the heartbeat every 100 ms. -/
def publishHeartbeat (ctx : BmsCtx) (nowMs : UInt32) : BmsCtx :=
  if nowMs % 100 = 0 then ctx.send (sendHeartbeat nowMs) else ctx

/-- The receive phase of the loop. -/
def receive (ctx : BmsCtx) (frames : List RxFrame) : BmsCtx :=
  Core.run (fun ctx frame => dispatchFrame ctx frame.toMcCanFrame) ctx frames

/-- One iteration of the loop in `bms_main`: the frames drained by its receive phase and
its tick. -/
structure BmsIteration where
  /-- Tick of the iteration. -/
  nowMs : UInt32
  /-- Frames drained by the receive phase. -/
  frames : List RxFrame
  deriving DecidableEq

/-- The effect of one loop iteration of `bms_main`. -/
def bmsMain (ctx : BmsCtx) (it : BmsIteration) : BmsCtx :=
  publishHeartbeat (publishFault (publishLimits (receive ctx it.frames) it.nowMs)) it.nowMs

/-- The context when the loop of `bms_main` starts. -/
def bmsBoot : BmsCtx :=
  { bs := bmsStateInit, seq := 0, bl := bmsLimitsInit, lastFaultPublished := mcBmsFaultNone,
    out := [.can (sendHeartbeat 0)] }

/-- Everything an iteration puts on the bus. -/
def published (ctx : BmsCtx) (it : BmsIteration) : List Emission :=
  (bmsMain ctx it).out.drop ctx.out.length

end Microcar.Bms
