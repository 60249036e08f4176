import Microcar.Core.Checked
import Microcar.Core.Lockstep
import Microcar.Powertrain.Torque
import Microcar.Protocol.Mirror

/-!
# The powertrain mirror of the state tests

Torque controller and watchdog of the state tests run against those of the firmware. The
firmware blocks torque in every mode but DRIVE and LIMP, the mirror only in FAULT; and the
mirror subtracts times with an overflow check where the firmware wraps. The two run in
lockstep exactly along the histories that touch neither difference.
-/

namespace Microcar.Powertrain.Mirror

open Microcar.Mirror (VehicleMode)

/-- The mirrored torque controller, `TorqueController`. -/
structure TorqueController where
  /-- Last throttle. -/
  throttlePercent : UInt8
  /-- Last brake. -/
  brakePressed : Bool
  /-- Last gear. -/
  gear : UInt8
  /-- Vehicle mode. -/
  vehicleMode : VehicleMode
  /-- Torque limit of the BMS, 255 for none. -/
  bmsTorqueLimit : UInt8
  /-- Last computed torque. -/
  outputTorque : Int8
  /-- Motor enable flag. -/
  motorEnable : Bool
  deriving DecidableEq

/-- The controller by default, `TorqueController::default`. -/
def TorqueController.default : TorqueController := ⟨0, false, 0, .off, 255, 0, true⟩

/-- Compute torque and motor enable, `TorqueController::compute`. -/
def TorqueController.compute (tc : TorqueController) : TorqueController :=
  if 100 < tc.throttlePercent then { tc with outputTorque := 0, motorEnable := false }
  else
    { tc with
      outputTorque := Microcar.Mirror.safetyClampTorque tc.throttlePercent.toInt8 tc.vehicleMode
        tc.brakePressed tc.bmsTorqueLimit
      motorEnable := tc.vehicleMode != .fault }

/-- The mirrored watchdog, `WatchdogTask`. -/
structure WatchdogTask where
  /-- Time of the last gateway heartbeat. -/
  lastGatewayBeatMs : UInt32
  /-- The gateway is communicating. -/
  gatewayOnline : Bool
  /-- The watchdog asked for torque to be disabled. -/
  torqueDisabled : Bool
  deriving DecidableEq

/-- The watchdog by default, `WatchdogTask::default`. -/
def WatchdogTask.default : WatchdogTask := ⟨0, false, true⟩

/-- Record a gateway heartbeat, `WatchdogTask::gateway_beat`. -/
def WatchdogTask.gatewayBeat (_ : WatchdogTask) (nowMs : UInt32) : WatchdogTask :=
  ⟨nowMs, true, false⟩

/-- Check for a silent gateway, `WatchdogTask::check`; the elapsed time must not run below
zero. -/
def WatchdogTask.check (wd : WatchdogTask) (nowMs : UInt32) : Option (WatchdogTask × Bool) :=
  if !wd.gatewayOnline then some ({ wd with torqueDisabled := true }, true)
  else do
    let elapsed ← Core.checkedSub32 nowMs wd.lastGatewayBeatMs
    if mcSafetyGatewayTimeoutMs ≤ elapsed then
      return ({ wd with gatewayOnline := false, torqueDisabled := true }, true)
    else return ({ wd with torqueDisabled := false }, false)

/-- A call of the powertrain logic. -/
inductive MirrorOp where
  /-- `set_input`; the mirror receives whether the brake byte is set. -/
  | setInput (throttle brake gear : UInt8)
  /-- `set_mode`, over the shared modes. -/
  | setMode (mode : VehicleMode)
  /-- `set_bms_limit`. -/
  | setBmsLimit (maxTorque : UInt8)
  /-- `compute`. -/
  | compute
  /-- `gateway_beat`. -/
  | gatewayBeat (nowMs : UInt32)
  /-- The watchdog's `check`. -/
  | check (nowMs : UInt32)

/-- Controller and watchdog of the firmware. -/
structure Firmware where
  /-- Torque controller. -/
  tc : Powertrain.TorqueController
  /-- Watchdog. -/
  wd : Powertrain.WatchdogTask

/-- Controller and watchdog of the mirror. -/
structure Model where
  /-- Torque controller. -/
  tc : TorqueController
  /-- Watchdog. -/
  wd : WatchdogTask

/-- The firmware under one call, with the result of a check. -/
def firmwareStep (c : Firmware) : MirrorOp → Firmware × Option Bool
  | .setInput throttle brake gear =>
    ({ c with tc := torqueControllerSetInput c.tc throttle brake gear }, none)
  | .setMode mode => ({ c with tc := torqueControllerSetMode c.tc mode.firmware }, none)
  | .setBmsLimit maxTorque => ({ c with tc := torqueControllerSetBmsLimit c.tc maxTorque }, none)
  | .compute => ({ c with tc := torqueControllerCompute c.tc }, none)
  | .gatewayBeat nowMs => ({ c with wd := watchdogGatewayBeat c.wd nowMs }, none)
  | .check nowMs =>
    let checked := watchdogCheck c.wd nowMs
    ({ c with wd := checked.1 }, some checked.2)

/-- The mirror under one call. -/
def modelStep (r : Model) : MirrorOp → Option (Model × Option Bool)
  | .setInput throttle brake gear =>
    some ({ r with tc := { r.tc with
      throttlePercent := throttle, brakePressed := brake != 0, gear := gear } }, none)
  | .setMode mode => some ({ r with tc := { r.tc with vehicleMode := mode } }, none)
  | .setBmsLimit maxTorque =>
    some ({ r with tc := { r.tc with bmsTorqueLimit := maxTorque } }, none)
  | .compute => some ({ r with tc := r.tc.compute }, none)
  | .gatewayBeat nowMs => some ({ r with wd := r.wd.gatewayBeat nowMs }, none)
  | .check nowMs => (r.wd.check nowMs).map fun checked =>
    ({ r with wd := checked.1 }, some checked.2)

/-- Firmware and mirror show the same torque, motor enable and gateway state. -/
structure SameOutputs (c : Firmware) (r : Model) : Prop where
  /-- Torque. -/
  torque : c.tc.outputTorque = r.tc.outputTorque
  /-- Motor enable. -/
  enable : c.tc.motorEnable = r.tc.motorEnable
  /-- Gateway online. -/
  online : c.wd.gatewayOnline = r.wd.gatewayOnline

/-- Firmware and mirror hold the same data, the watchdog's torque flag apart. -/
structure SameData (c : Firmware) (r : Model) : Prop where
  /-- The outputs are the same. -/
  outputs : SameOutputs c r
  /-- Throttle. -/
  throttle : c.tc.throttlePercent = r.tc.throttlePercent
  /-- Brake. -/
  brake : (c.tc.brakePressed != 0) = r.tc.brakePressed
  /-- Mode. -/
  mode : c.tc.vehicleMode = r.tc.vehicleMode.firmware
  /-- BMS limit. -/
  limit : c.tc.bmsTorqueLimit = r.tc.bmsTorqueLimit
  /-- Last beat of the gateway. -/
  lastBeat : c.wd.lastGatewayBeatMs = r.wd.lastGatewayBeatMs

/-- The call touches no difference: no torque is computed from a valid throttle in OFF, READY
or CHARGING, and no check of an online gateway lies before its last beat. -/
def OpCovered (c : Firmware) : MirrorOp → Prop
  | .compute => c.tc.throttlePercent ≤ 100 →
      c.tc.vehicleMode ≠ .off ∧ c.tc.vehicleMode ≠ .ready ∧ c.tc.vehicleMode ≠ .charging
  | .check nowMs => c.wd.gatewayOnline = true → c.wd.lastGatewayBeatMs ≤ nowMs
  | _ => True

/-- The smaller of two bytes, by the comparison the firmware makes. -/
theorem min_byte_eq (a b : UInt8) : min a b = if b < a then b else a := by
  show (if a ≤ b then a else b) = _
  by_cases h : a ≤ b
  · rw [if_pos h, if_neg (UInt8.not_lt.mpr h)]
  · rw [if_neg h, if_pos (UInt8.not_le.mp h)]

/-- The smaller of two torques, by the comparison the firmware makes. -/
theorem min_torque_eq (a b : Int8) : min a b = if b < a then b else a := by
  show (if a ≤ b then a else b) = _
  by_cases h : a ≤ b
  · rw [if_pos h, if_neg (Int8.not_lt.mpr h)]
  · rw [if_neg h, if_pos (Int8.not_le.mp h)]

/-- A torque cut at zero, by the comparison the firmware makes. -/
theorem max_torque_zero_eq (a : Int8) : max a 0 = if a < 0 then 0 else a := by
  show (if a ≤ 0 then 0 else a) = _
  by_cases h : a < 0
  · rw [if_pos h, if_pos (Int8.le_of_lt h)]
  · rw [if_neg h]
    split
    · rename_i hle
      exact Int8.le_antisymm (Int8.not_lt.mp h) hle
    · rfl

/-- The smaller of two bytes does not depend on their order. -/
theorem min_byte_comm (a b : UInt8) : min a b = min b a := by
  rw [min_byte_eq a b]
  show _ = if b ≤ a then b else a
  by_cases h : b < a
  · rw [if_pos h, if_pos (UInt8.le_of_lt h)]
  · rw [if_neg h]
    split
    · rename_i hle
      exact UInt8.le_antisymm (UInt8.not_lt.mp h) hle
    · rfl

/-- Both clamps cut at the same maximum where the firmware admits torque. -/
theorem effectiveMax_firmware {mode : VehicleMode} (hmode : mode = .drive ∨ mode = .limp)
    (limit : UInt8) :
    effectiveMax mode.firmware limit = Microcar.Mirror.effectiveMax mode limit := by
  rcases hmode with rfl | rfl
  · show (if limit < 100 then limit else 100) = min limit 100
    rw [min_byte_comm, min_byte_eq]
  · show (if limit < 25 then limit else 25) = min 25 limit
    rw [min_byte_eq]

/-- Both clamps agree where the firmware admits torque. -/
theorem safetyClampTorque_firmware {mode : VehicleMode} (hmode : mode = .drive ∨ mode = .limp)
    (requested : Int8) (brake limit : UInt8) :
    safetyClampTorque requested mode.firmware brake limit =
      Microcar.Mirror.safetyClampTorque requested mode (brake != 0) limit := by
  have hblocks : safetyModeBlocksTorque mode.firmware = false := by
    rcases hmode with rfl | rfl <;> rfl
  have hfault : mode ≠ .fault := by
    rcases hmode with rfl | rfl <;> exact fun h => nomatch h
  rw [safetyClampTorque, Microcar.Mirror.safetyClampTorque, safetyBrakeOverridesThrottle, hblocks,
    if_neg Bool.false_ne_true, if_neg hfault, min_torque_eq, max_torque_zero_eq,
    effectiveMax_firmware hmode]

/-- Both clamps block FAULT. -/
theorem safetyClampTorque_fault (requested : Int8) (brake limit : UInt8) :
    safetyClampTorque requested .fault brake limit =
      Microcar.Mirror.safetyClampTorque requested .fault (brake != 0) limit := by
  unfold safetyClampTorque Microcar.Mirror.safetyClampTorque safetyBrakeOverridesThrottle
  cases brake != 0 <;> rfl

/-- Both computations agree on a throttle above one hundred percent, in DRIVE, in LIMP and in
FAULT, and differ in the motor enable otherwise. -/
theorem SameData.compute_iff {c : Firmware} {r : Model} (h : SameData c r) :
    SameOutputs { c with tc := torqueControllerCompute c.tc } { r with tc := r.tc.compute } ↔
      OpCovered c .compute := by
  have hthrottle := h.throttle
  have hbrake := h.brake
  have hmode := h.mode
  have hlimit := h.limit
  unfold OpCovered torqueControllerCompute TorqueController.compute safetyThrottleInvalid
  rw [← hthrottle, ← hbrake, ← hlimit]
  by_cases hvalid : c.tc.throttlePercent ≤ 100
  · have hnot : ¬ 100 < c.tc.throttlePercent := UInt8.not_lt.mpr hvalid
    simp only [hnot, decide_false, Bool.false_eq_true, if_false, hvalid, true_implies]
    rw [hmode]
    cases hm : r.tc.vehicleMode with
    | drive | limp =>
      refine iff_of_true ⟨?_, rfl, h.outputs.online⟩ (by decide)
      exact safetyClampTorque_firmware (by decide) _ _ _
    | fault =>
      refine iff_of_true ⟨?_, rfl, h.outputs.online⟩ (by decide)
      exact safetyClampTorque_fault _ _ _
    | off | ready | charging =>
      exact iff_of_false (fun hsame => Bool.noConfusion hsame.enable) (by decide)
  · have hinvalid : 100 < c.tc.throttlePercent := UInt8.not_le.mp hvalid
    simp only [hinvalid, decide_true, if_true]
    exact iff_of_true ⟨rfl, rfl, h.outputs.online⟩ (fun hle => absurd hle hvalid)

/-- A computation changes the outputs only. -/
theorem SameData.compute {c : Firmware} {r : Model} (h : SameData c r)
    (hsame : SameOutputs { c with tc := torqueControllerCompute c.tc }
      { r with tc := r.tc.compute }) :
    SameData { c with tc := torqueControllerCompute c.tc } { r with tc := r.tc.compute } := by
  have hfirmware : ∃ torque enable, torqueControllerCompute c.tc =
      { c.tc with outputTorque := torque, motorEnable := enable } := by
    unfold torqueControllerCompute
    split <;> exact ⟨_, _, rfl⟩
  have hmodel : ∃ torque enable, r.tc.compute =
      { r.tc with outputTorque := torque, motorEnable := enable } := by
    unfold TorqueController.compute
    split <;> exact ⟨_, _, rfl⟩
  obtain ⟨torque, enable, hc⟩ := hfirmware
  obtain ⟨torque', enable', hr⟩ := hmodel
  rw [hc, hr] at hsame ⊢
  exact ⟨hsame, h.throttle, h.brake, h.mode, h.limit, h.lastBeat⟩

/-- The watchdog of the mirror with the data of the firmware's. -/
def mirroredWatchdog (wd : Powertrain.WatchdogTask) : WatchdogTask :=
  ⟨wd.lastGatewayBeatMs, wd.gatewayOnline, wd.torqueDisabled⟩

/-- A check of the mirror is the check of the firmware where the gateway is offline or its last
beat is not in the future. -/
theorem SameData.check_eq {c : Firmware} {r : Model} (h : SameData c r) {nowMs : UInt32}
    (hcovered : OpCovered c (.check nowMs)) :
    r.wd.check nowMs =
      some (mirroredWatchdog (watchdogCheck c.wd nowMs).1, (watchdogCheck c.wd nowMs).2) := by
  have honline := h.outputs.online
  have hbeat := h.lastBeat
  unfold WatchdogTask.check watchdogCheck
  rw [← honline, ← hbeat]
  cases hon : c.wd.gatewayOnline with
  | false =>
    simp only [Bool.not_false, if_true, mirroredWatchdog]
  | true =>
    have hle : c.wd.lastGatewayBeatMs ≤ nowMs := hcovered hon
    simp only [Bool.not_true, Bool.false_eq_true, if_false, Core.checkedSub32, hle, if_true,
      Option.bind_eq_bind, Option.bind_some, Option.pure_def]
    by_cases hlate : mcSafetyGatewayTimeoutMs ≤ nowMs - c.wd.lastGatewayBeatMs
    · simp only [hlate, if_true, mirroredWatchdog]
    · simp only [hlate, if_false, mirroredWatchdog]

/-- A check of an online gateway before its last beat stops the mirror. -/
theorem SameData.check_eq_none {c : Firmware} {r : Model} (h : SameData c r) {nowMs : UInt32}
    (hcovered : ¬ OpCovered c (.check nowMs)) : r.wd.check nowMs = none := by
  have honline := h.outputs.online
  have hbeat := h.lastBeat
  obtain ⟨hon, hle⟩ := Classical.not_imp.mp hcovered
  unfold WatchdogTask.check
  rw [← honline, ← hbeat, hon]
  simp only [Bool.not_true, Bool.false_eq_true, if_false, Core.checkedSub32, hle,
    Option.bind_eq_bind, Option.bind_none]

/-- Both checks agree, and the mirror does not stop, exactly when the check of an online
gateway does not lie before its last beat. -/
theorem SameData.check_iff {c : Firmware} {r : Model} (h : SameData c r) (nowMs : UInt32) :
    Core.StepAgrees firmwareStep modelStep SameOutputs c r (.check nowMs) ↔
      OpCovered c (.check nowMs) := by
  constructor
  · rintro ⟨r', hstep, -⟩
    by_contra hcovered
    rw [modelStep, h.check_eq_none hcovered] at hstep
    exact nomatch hstep
  · intro hcovered
    refine ⟨{ r with wd := mirroredWatchdog (watchdogCheck c.wd nowMs).1 }, ?_,
      h.outputs.torque, h.outputs.enable, rfl⟩
    rw [modelStep, h.check_eq hcovered]
    rfl

/-- A check that does not stop the mirror keeps the data the same. -/
theorem SameData.check {c : Firmware} {r r' : Model} (h : SameData c r) {nowMs : UInt32}
    {result : Option Bool} (hstep : modelStep r (.check nowMs) = some (r', result)) :
    SameData (firmwareStep c (.check nowMs)).1 r' := by
  by_cases hcovered : OpCovered c (.check nowMs)
  · rw [modelStep, h.check_eq hcovered, Option.map_some] at hstep
    obtain rfl := congrArg Prod.fst (Option.some.inj hstep)
    exact ⟨⟨h.outputs.torque, h.outputs.enable, rfl⟩, h.throttle, h.brake, h.mode, h.limit, rfl⟩
  · rw [modelStep, h.check_eq_none hcovered] at hstep
    exact nomatch hstep

/-- One call of related data agrees exactly when it touches no difference. -/
theorem SameData.agrees_iff (c : Firmware) (r : Model) (op : MirrorOp) (h : SameData c r) :
    Core.StepAgrees firmwareStep modelStep SameOutputs c r op ↔ OpCovered c op := by
  have houtputs := h.outputs
  cases op with
  | setInput | setMode | setBmsLimit =>
    exact iff_of_true ⟨_, rfl, houtputs.torque, houtputs.enable, houtputs.online⟩ trivial
  | gatewayBeat => exact iff_of_true ⟨_, rfl, houtputs.torque, houtputs.enable, rfl⟩ trivial
  | compute =>
    rw [← h.compute_iff]
    constructor
    · rintro ⟨r', hstep, hsame⟩
      obtain rfl := congrArg Prod.fst (Option.some.inj hstep)
      exact hsame
    · exact fun hsame => ⟨_, rfl, hsame⟩
  | check nowMs => exact h.check_iff nowMs

/-- An agreeing call keeps the data the same. -/
theorem SameData.next (c : Firmware) (r : Model) (op : MirrorOp) (r' : Model) (h : SameData c r)
    (hstep : modelStep r op = some (r', (firmwareStep c op).2))
    (hsame : SameOutputs (firmwareStep c op).1 r') : SameData (firmwareStep c op).1 r' := by
  cases op with
  | setInput throttle brake gear =>
    obtain rfl := congrArg Prod.fst (Option.some.inj hstep)
    exact ⟨hsame, rfl, rfl, h.mode, h.limit, h.lastBeat⟩
  | setMode mode =>
    obtain rfl := congrArg Prod.fst (Option.some.inj hstep)
    exact ⟨hsame, h.throttle, h.brake, rfl, h.limit, h.lastBeat⟩
  | setBmsLimit maxTorque =>
    obtain rfl := congrArg Prod.fst (Option.some.inj hstep)
    exact ⟨hsame, h.throttle, h.brake, h.mode, rfl, h.lastBeat⟩
  | gatewayBeat nowMs =>
    obtain rfl := congrArg Prod.fst (Option.some.inj hstep)
    exact ⟨hsame, h.throttle, h.brake, h.mode, h.limit, rfl⟩
  | compute =>
    obtain rfl := congrArg Prod.fst (Option.some.inj hstep)
    exact h.compute hsame
  | check nowMs => exact h.check hstep

/-- Firmware and mirror at boot. -/
def firmwareInit : Firmware := ⟨torqueControllerInit, watchdogInit⟩

/-- The mirror by default. -/
def modelDefault : Model := ⟨.default, .default⟩

/-- For every history of calls the mirror never stops and shows the torque, motor enable,
gateway state and check results of the firmware behind every call, exactly when no torque is
computed from a valid throttle in OFF, READY or CHARGING and no check of an online gateway
lies before its last beat. -/
theorem powertrain_mirror_lockstep_iff (ops : List MirrorOp) :
    Core.Lockstep firmwareStep modelStep SameOutputs firmwareInit modelDefault ops ↔
      Core.StepsMeet (fun c op => (firmwareStep c op).1) OpCovered firmwareInit ops :=
  Core.lockstep_iff SameData.agrees_iff SameData.next
    ⟨⟨rfl, rfl, rfl⟩, rfl, rfl, rfl, rfl, rfl⟩ ops

/-- In READY half throttle gives no torque in the firmware and fifty percent in the mirror. -/
theorem powertrain_mirror_differs_in_ready :
    ¬ Core.Lockstep firmwareStep modelStep SameOutputs firmwareInit modelDefault
      [.setMode .ready, .setInput 50 0 1, .compute] := by
  rintro ⟨r, hmode, -, r', hinput, -, r'', hcompute, hsame, -⟩
  obtain rfl := congrArg Prod.fst (Option.some.inj hmode)
  obtain rfl := congrArg Prod.fst (Option.some.inj hinput)
  obtain rfl := congrArg Prod.fst (Option.some.inj hcompute)
  exact absurd hsame.torque (by decide)

end Microcar.Powertrain.Mirror
