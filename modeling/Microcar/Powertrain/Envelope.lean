import Microcar.Powertrain.Command

/-!
# The safety envelope of the motor command

The controller inputs are the payload bytes received last for three message
identifiers, whatever else was received in between. Every motor command the loop
builds lies in the envelope that these bytes determine.
-/

namespace Microcar.Powertrain

/-- The frames a step receives. -/
def PowertrainOp.received : PowertrainOp → List RxFrame
  | .dispatch frame _ => [frame]
  | .timer _ => []
  | .command _ _ => []

/-- Payload byte `i` of the last received frame with an identifier, or the boot value. -/
def lastByte (msgId : UInt32) (i : Nat) (boot : UInt8) (ops : List PowertrainOp) : UInt8 :=
  match ((ops.flatMap PowertrainOp.received).filter fun f => f.id == msgId).getLast? with
  | some f => f.payload.getD i 0
  | none => boot

/-- The throttle received last. -/
def lastThrottle (ops : List PowertrainOp) : UInt8 := lastByte mcMsgDriverInput 0 0 ops

/-- The brake byte received last. -/
def lastBrake (ops : List PowertrainOp) : UInt8 := lastByte mcMsgDriverInput 1 0 ops

/-- The vehicle mode byte received last; the controller boots in mode OFF. -/
def lastMode (ops : List PowertrainOp) : UInt8 :=
  lastByte mcMsgVehicleMode 0 McVehicleMode.off.toByte ops

/-- The BMS limit received last; 255 stands for no limit. -/
def lastLimit (ops : List PowertrainOp) : UInt8 := lastByte mcMsgBmsLimits 0 255 ops

/-- Every received driver input carries throttle and brake. -/
def DriverInputsComplete (ops : List PowertrainOp) : Prop :=
  ∀ op ∈ ops, ∀ f ∈ op.received, f.id = mcMsgDriverInput → 2 ≤ f.len

instance (ops : List PowertrainOp) : Decidable (DriverInputsComplete ops) :=
  inferInstanceAs (Decidable (∀ op ∈ ops, ∀ f ∈ op.received, f.id = mcMsgDriverInput → 2 ≤ f.len))

/-- The torque byte of a motor command, read as the `int8_t` it was written from. -/
def commandTorque (f : McCanFrame) : Int := (f.data.get 0).toInt8.toInt

/-- The envelope of a motor command for given input bytes. -/
structure MotorEnvelope (throttle brake mode limit : UInt8) (f : McCanFrame) : Prop where
  /-- Torque is never negative. -/
  torque_nonneg : 0 ≤ commandTorque f
  /-- Torque is a percentage. -/
  torque_le : commandTorque f ≤ 100
  /-- The brake forces zero torque. -/
  torque_of_brake : brake ≠ 0 → commandTorque f = 0
  /-- Outside DRIVE and LIMP there is no torque and no enable. -/
  off_of_mode : mode ≠ McVehicleMode.drive.toByte → mode ≠ McVehicleMode.limp.toByte →
    commandTorque f = 0 ∧ f.data.get 1 = 0
  /-- LIMP caps the torque. -/
  torque_of_limp : mode = McVehicleMode.limp.toByte → commandTorque f ≤ 25
  /-- The BMS limit caps the torque. -/
  torque_le_limit : commandTorque f ≤ limit.toNat
  /-- An invalid throttle gives no torque and no enable. -/
  off_of_throttle : 100 < throttle → commandTorque f = 0 ∧ f.data.get 1 = 0
  /-- Otherwise the torque is the smallest of throttle, mode cap and BMS limit. -/
  torque_eq : brake = 0 → throttle ≤ 100 →
    mode = McVehicleMode.drive.toByte ∨ mode = McVehicleMode.limp.toByte →
    commandTorque f = (min throttle.toNat
      (min (if mode = McVehicleMode.limp.toByte then 25 else 100) limit.toNat) : Nat)

/-- The controller inputs are the bytes received last. -/
structure InputsReceived (ops : List PowertrainOp) (tc : TorqueController) : Prop where
  /-- The throttle is the last received one. -/
  throttle_eq : tc.throttlePercent = lastThrottle ops
  /-- The brake byte is the last received one. -/
  brake_eq : tc.brakePressed = lastBrake ops
  /-- The mode is the cast of the last received byte. -/
  mode_eq : tc.vehicleMode = .ofByte (lastMode ops)
  /-- The BMS limit is the last received one. -/
  limit_eq : tc.bmsTorqueLimit = lastLimit ops

/-- A dispatched frame becomes the last one for its identifier. -/
theorem lastByte_dispatch (msgId : UInt32) (i : Nat) (boot : UInt8) (ops : List PowertrainOp)
    (f : RxFrame) (nowMs : UInt32) :
    lastByte msgId i boot (ops ++ [.dispatch f nowMs]) =
      if f.id = msgId then f.payload.getD i 0 else lastByte msgId i boot ops := by
  simp only [lastByte, List.flatMap_append, List.flatMap_cons, List.flatMap_nil,
    PowertrainOp.received, List.append_nil, List.filter_append]
  by_cases hid : f.id = msgId
  · simp [hid]
  · simp [hid]

/-- A step that receives nothing leaves the last bytes alone. -/
theorem lastByte_quiet (msgId : UInt32) (i : Nat) (boot : UInt8) (ops : List PowertrainOp)
    {op : PowertrainOp} (hop : op.received = []) :
    lastByte msgId i boot (ops ++ [op]) = lastByte msgId i boot ops := by
  simp [lastByte, hop]

/-- A step that receives nothing and keeps the controller inputs keeps their history. -/
theorem InputsReceived.quiet {ops : List PowertrainOp} {tc tc' : TorqueController}
    (h : InputsReceived ops tc) {op : PowertrainOp} (hop : op.received = [])
    (hinputs : tc'.inputs = tc.inputs) : InputsReceived (ops ++ [op]) tc' := by
  simp only [TorqueController.inputs, Prod.mk.injEq] at hinputs
  obtain ⟨hthrottle, hbrake, hmode, hlimit⟩ := hinputs
  constructor
  · rw [hthrottle, h.throttle_eq]
    exact (lastByte_quiet _ _ _ ops hop).symm
  · rw [hbrake, h.brake_eq]
    exact (lastByte_quiet _ _ _ ops hop).symm
  · rw [hmode, h.mode_eq, lastMode, lastMode, lastByte_quiet _ _ _ ops hop]
  · rw [hlimit, h.limit_eq]
    exact (lastByte_quiet _ _ _ ops hop).symm

/-- The controller inputs after dispatching a frame: each input is read from the frames of
one identifier. -/
theorem dispatchFrame_inputs (ctx : PowertrainCtx) (f : McCanFrame) (nowMs : UInt32) :
    (dispatchFrame ctx f nowMs).tc.inputs =
      (if f.id = mcMsgDriverInput then f.data.get 0 else ctx.tc.throttlePercent,
        if f.id = mcMsgDriverInput then f.data.get 1 else ctx.tc.brakePressed,
        if f.id = mcMsgVehicleMode then .ofByte (f.data.get 0) else ctx.tc.vehicleMode,
        if f.id = mcMsgBmsLimits then f.data.get 0 else ctx.tc.bmsTorqueLimit) := by
  have hmode : mcMsgVehicleMode ≠ mcMsgDriverInput := by decide
  have hlimit : mcMsgBmsLimits ≠ mcMsgDriverInput := by decide
  have hlimit' : mcMsgBmsLimits ≠ mcMsgVehicleMode := by decide
  unfold dispatchFrame
  by_cases h1 : f.id = mcMsgDriverInput
  · simp [h1, hmode.symm, hlimit.symm, handleDriverInput, torqueControllerSetInput,
      TorqueController.inputs]
  · by_cases h2 : f.id = mcMsgVehicleMode
    · simp [h2, hmode, hlimit'.symm, handleVehicleMode, torqueControllerSetMode,
        TorqueController.inputs]
    · by_cases h3 : f.id = mcMsgBmsLimits
      · simp [h3, hlimit, hlimit', handleBmsLimits, torqueControllerSetBmsLimit,
          TorqueController.inputs]
      · simp only [h1, h2, h3, if_false]
        split_ifs <;> rfl

/-- Dispatching a frame stores its bytes and keeps the other inputs. -/
theorem InputsReceived.dispatch {ops : List PowertrainOp} {ctx : PowertrainCtx}
    (h : InputsReceived ops ctx.tc) (f : RxFrame) (nowMs : UInt32)
    (hlen : f.id = mcMsgDriverInput → 2 ≤ f.len) :
    InputsReceived (ops ++ [.dispatch f nowMs]) (dispatchFrame ctx f.toMcCanFrame nowMs).tc := by
  have hpos : 0 < f.len.toNat := f.len_pos
  have hfirst : f.payload.getD 0 0 = f.data.get 0 :=
    McCanFrame.payload_getD f.toMcCanFrame (i := 0) (by omega) hpos
  have hinputs := dispatchFrame_inputs ctx f.toMcCanFrame nowMs
  simp only [TorqueController.inputs, Prod.mk.injEq] at hinputs
  obtain ⟨hthrottle, hbrake, hmode, hlimit⟩ := hinputs
  constructor
  · rw [hthrottle, lastThrottle, lastByte_dispatch, hfirst, h.throttle_eq, lastThrottle]
  · rw [hbrake, lastBrake, lastByte_dispatch, h.brake_eq, lastBrake]
    split
    · rename_i hid
      have htwo : 2 ≤ f.len.toNat := hlen hid
      exact (McCanFrame.payload_getD f.toMcCanFrame (i := 1) (by omega) (by omega)).symm
    · rfl
  · rw [hmode, lastMode, lastByte_dispatch, hfirst, h.mode_eq, lastMode]
    split <;> rfl
  · rw [hlimit, lastLimit, lastByte_dispatch, hfirst, h.limit_eq, lastLimit]

/-- All firmware variant flags are off. -/
def PowertrainCtx.flagsOff (ctx : PowertrainCtx) : Prop :=
  ctx.diagForceServiceMode = false ∧ ctx.chargingForceMode = false ∧ ctx.diagServiceClampBug = false

/-- With the flags off the loop computes from the stored inputs. -/
theorem computeTorque_forceModes {ctx : PowertrainCtx} (h : ctx.flagsOff) :
    computeTorque (forceModes ctx) = ({ ctx with tc := torqueControllerCompute ctx.tc },
      (torqueControllerCompute ctx.tc).outputTorque) := by
  obtain ⟨hservice, hcharging, hbug⟩ := h
  have hforce : forceModes ctx = ctx := by
    unfold forceModes
    dsimp only
    rw [if_neg (by simp [hcharging]), if_neg (by simp [hservice])]
  rw [hforce, computeTorque_of_clampBug_off hbug]

/-- The torque computation keeps its inputs. -/
theorem torqueControllerCompute_inputs (tc : TorqueController) :
    (torqueControllerCompute tc).inputs = tc.inputs := by
  unfold torqueControllerCompute
  split <;> rfl

/-- A timer callback or a loop iteration keeps the controller inputs. -/
theorem powertrainStep_inputs {ctx : PowertrainCtx} (h : ctx.flagsOff) {op : PowertrainOp}
    (hop : op.received = []) : (powertrainStep ctx op).tc.inputs = ctx.tc.inputs := by
  cases op with
  | dispatch f nowMs => simp [PowertrainOp.received] at hop
  | timer nowMs =>
    rw [powertrainStep, watchdogTimerCb_eq]
    rfl
  | command nowMs preempt =>
    rw [powertrainStep, powertrainCommand_eq, timers_eq, computeTorque_forceModes h]
    exact torqueControllerCompute_inputs ctx.tc

/-- The flags stay off along every run. -/
theorem flagsOff_run (ops : List PowertrainOp) :
    (Core.run powertrainStep (powertrainBoot false false false) ops).flagsOff := by
  have hconfig := config_run (powertrainBoot false false false) ops
  simp only [PowertrainCtx.config, Prod.mk.injEq] at hconfig
  exact hconfig.2

/-- With complete driver inputs, the controller always holds the bytes received last. -/
theorem inputsReceived_run {ops : List PowertrainOp} (hlen : DriverInputsComplete ops) :
    InputsReceived ops (Core.run powertrainStep (powertrainBoot false false false) ops).tc := by
  induction ops using List.reverseRecOn with
  | nil => exact ⟨rfl, rfl, rfl, rfl⟩
  | append_singleton ops op ih =>
    have hprefix : DriverInputsComplete ops := fun op' hop' =>
      hlen op' (List.mem_append_left _ hop')
    have hlast := hlen op (by simp)
    rw [Core.run_snoc]
    cases op with
    | dispatch f nowMs =>
      exact (ih hprefix).dispatch f nowMs (hlast f (by simp [PowertrainOp.received]))
    | timer nowMs =>
      exact (ih hprefix).quiet rfl (powertrainStep_inputs (flagsOff_run ops) rfl)
    | command nowMs preempt =>
      exact (ih hprefix).quiet rfl (powertrainStep_inputs (flagsOff_run ops) rfl)

/-- The torque byte carries the computed torque through the casts. -/
theorem commandTorque_sendMotorCommand (ctx : PowertrainCtx) (torque : Int8) :
    commandTorque (sendMotorCommand ctx torque) = torque.toInt := by
  rw [commandTorque, sendMotorCommand_torque]
  simp

/-- Torque and mode are blocked exactly on the bytes that are neither DRIVE nor LIMP. -/
theorem safetyModeBlocksTorque_ofByte (b : UInt8) :
    safetyModeBlocksTorque (.ofByte b) = true ↔
      b ≠ McVehicleMode.drive.toByte ∧ b ≠ McVehicleMode.limp.toByte := by
  simp only [safetyModeBlocksTorque, Bool.and_eq_true, bne_iff_ne, ne_eq,
    McVehicleMode.ofByte_eq_drive_iff, McVehicleMode.ofByte_eq_limp_iff]
  rfl

/-- The mode cap in terms of the received byte. -/
theorem modeCap_ofByte (b : UInt8) :
    modeCap (.ofByte b) = if b = McVehicleMode.limp.toByte then 25 else 100 := by
  simp only [modeCap, McVehicleMode.ofByte_eq_limp_iff]
  rfl

/-- A frame whose torque is the computed one and whose enable byte is only ever lowered
lies in the envelope of the controller inputs. -/
theorem motorEnvelope_of_compute {tc : TorqueController} {mode : UInt8} {f : McCanFrame}
    (hmode : tc.vehicleMode = .ofByte mode)
    (htorque : commandTorque f = (torqueControllerCompute tc).outputTorque.toInt)
    (henable : (torqueControllerCompute tc).motorEnable = false → f.data.get 1 = 0) :
    MotorEnvelope tc.throttlePercent tc.brakePressed mode tc.bmsTorqueLimit f := by
  have hblocks := safetyModeBlocksTorque_ofByte mode
  rw [toInt_torqueControllerCompute, hmode, modeCap_ofByte] at htorque
  rw [motorEnable_torqueControllerCompute, hmode] at henable
  have hcap : (if mode = McVehicleMode.limp.toByte then 25 else 100) ≤ 100 := by
    split <;> omega
  by_cases hzero : 100 < tc.throttlePercent ∨ tc.brakePressed ≠ 0 ∨
      safetyModeBlocksTorque (.ofByte mode) = true
  · rw [if_pos hzero] at htorque
    refine ⟨by omega, by omega, fun _ => htorque, fun hd hl => ⟨htorque, ?_⟩, fun _ => by omega,
      by omega, fun ht => ⟨htorque, ?_⟩, ?_⟩
    · apply henable
      simp [hblocks.mpr ⟨hd, hl⟩]
    · apply henable
      simp [ht]
    · intro hbrake hthrottle hdriving
      rcases hzero with ht | hb | hm
      · exact absurd ht (UInt8.not_lt.mpr hthrottle)
      · exact absurd hbrake hb
      · obtain ⟨hd, hl⟩ := hblocks.mp hm
        rcases hdriving with h | h
        · exact absurd h hd
        · exact absurd h hl
  · rw [if_neg hzero] at htorque
    push Not at hzero
    obtain ⟨hthrottle, hbrake, hm⟩ := hzero
    have hvalid : tc.throttlePercent.toNat ≤ 100 := UInt8.not_lt.mp hthrottle
    refine ⟨by omega, by omega, fun hb => absurd hbrake hb, fun hd hl => ?_, fun hl => ?_,
      by omega, fun ht => absurd ht hthrottle, fun _ _ _ => htorque⟩
    · exact absurd (hblocks.mpr ⟨hd, hl⟩) hm
    · rw [if_pos hl] at htorque
      omega

/-- Along every history, each loop iteration builds exactly one motor command and it lies
in the envelope of the bytes received last. -/
theorem motorCommand_envelope {ops : List PowertrainOp} (hlen : DriverInputsComplete ops)
    (nowMs : UInt32) (preempt : Preemption) :
    ∃ f, motorCommands (Core.run powertrainStep (powertrainBoot false false false) ops)
        (.command nowMs preempt) = [f] ∧
      MotorEnvelope (lastThrottle ops) (lastBrake ops) (lastMode ops) (lastLimit ops) f := by
  have hflags := flagsOff_run ops
  have hconfig := config_run (powertrainBoot false false false) ops
  have hinputs := inputsReceived_run hlen
  generalize Core.run powertrainStep (powertrainBoot false false false) ops = ctx at *
  simp only [PowertrainCtx.config, Prod.mk.injEq] at hconfig
  have hslots : 0 < ctx.canTxSlots := by
    rw [hconfig.1]
    exact show 0 < 3 by omega
  refine ⟨_, motorCommands_command hslots nowMs preempt, ?_⟩
  rw [← hinputs.throttle_eq, ← hinputs.brake_eq, ← hinputs.limit_eq]
  rw [computeTorque_forceModes hflags]
  apply motorEnvelope_of_compute hinputs.mode_eq
  · exact commandTorque_sendMotorCommand _ _
  · intro hoff
    rw [sendMotorCommand_enable, timers_motorEnable_false hoff preempt.computed]
    rfl

/-- LIMP mode, throttle 80 and a BMS limit of 200 are received. -/
def limpRun : List PowertrainOp :=
  [.dispatch (.ofPayload mcMsgVehicleMode 3 [0]) 0,
    .dispatch (.ofPayload mcMsgDriverInput 80 [0, 0]) 0,
    .dispatch (.ofPayload mcMsgBmsLimits 200 [0]) 0]

/-- The envelope of the motor command behind the LIMP history. -/
theorem motorCommand_envelope_limpRun :
    DriverInputsComplete limpRun ∧
      ∃ f, motorCommands (Core.run powertrainStep (powertrainBoot false false false) limpRun)
          (.command 100 {}) = [f] ∧ MotorEnvelope 80 0 3 200 f := by
  have hlen : DriverInputsComplete limpRun := by decide +kernel
  exact ⟨hlen, motorCommand_envelope hlen 100 {}⟩

end Microcar.Powertrain
