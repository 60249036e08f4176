import Microcar.Core.Checked
import Microcar.Protocol.Modes

/-!
# Torque controller, safety rules and gateway watchdog

The three pure units of the powertrain firmware: the safety rules of `safety_rules.c`,
the torque controller that applies them, and the watchdog over the gateway heartbeat.
Torque is an `int8_t` that is reached by casts from unsigned bytes; the clamp is
characterised by its value as an integer.
-/

namespace Microcar.Powertrain

/-- The brake overrides the throttle, `safety_brake_overrides_throttle`. -/
def safetyBrakeOverridesThrottle (brakePressed : UInt8) : Bool := brakePressed != 0

/-- Torque is only allowed in DRIVE and LIMP, `safety_mode_blocks_torque`. -/
def safetyModeBlocksTorque (mode : McVehicleMode) : Bool := mode != .drive && mode != .limp

/-- The cap of LIMP mode, or 255 for no cap, `safety_limp_torque_cap`. -/
def safetyLimpTorqueCap (mode : McVehicleMode) : UInt8 :=
  if mode = .limp then mcTorqueLimpMaxPercent else 255

/-- A throttle above 100 percent is invalid, `safety_throttle_invalid`. -/
def safetyThrottleInvalid (throttlePercent : UInt8) : Bool := decide (100 < throttlePercent)

/-- The local `effective_max` of the clamp: full range, cut by LIMP and by the BMS. -/
def effectiveMax (mode : McVehicleMode) (bmsMaxTorque : UInt8) : UInt8 :=
  let limpCap := safetyLimpTorqueCap mode
  let modeMax : UInt8 := if limpCap < 100 then limpCap else 100
  if bmsMaxTorque < modeMax then bmsMaxTorque else modeMax

/-- All safety rules applied to a requested torque, `safety_clamp_torque`. -/
def safetyClampTorque (requestedTorque : Int8) (mode : McVehicleMode)
    (brakePressed bmsMaxTorque : UInt8) : Int8 :=
  if safetyBrakeOverridesThrottle brakePressed then 0
  else if safetyModeBlocksTorque mode then 0
  else
    let max := effectiveMax mode bmsMaxTorque
    let requested : Int8 := if requestedTorque < 0 then 0 else requestedTorque
    if max.toInt8 < requested then max.toInt8 else requested

/-- The largest torque a mode admits on its own. -/
def modeCap (mode : McVehicleMode) : Nat := if mode = .limp then 25 else 100

/-- The effective maximum is the smaller of the mode cap and the BMS limit. -/
theorem toNat_effectiveMax (mode : McVehicleMode) (limit : UInt8) :
    (effectiveMax mode limit).toNat = min (modeCap mode) limit.toNat := by
  have hcap : (if safetyLimpTorqueCap mode < 100 then safetyLimpTorqueCap mode else 100).toNat =
      modeCap mode := by
    by_cases hm : mode = .limp
    · simp [safetyLimpTorqueCap, modeCap, hm, mcTorqueLimpMaxPercent]
    · simp [safetyLimpTorqueCap, modeCap, hm]
  unfold effectiveMax
  dsimp only
  generalize (if safetyLimpTorqueCap mode < 100 then safetyLimpTorqueCap mode else 100) = modeMax
    at hcap ⊢
  split
  · rename_i hlt
    rw [UInt8.lt_iff_toNat_lt, hcap] at hlt
    omega
  · rename_i hlt
    rw [UInt8.lt_iff_toNat_lt, hcap] at hlt
    rw [hcap]
    omega

/-- The clamp in closed form: zero when braking or in a blocking mode, otherwise the
request cut to the mode cap and the BMS limit and never negative. -/
theorem toInt_safetyClampTorque (requested : Int8) (mode : McVehicleMode) (brake limit : UInt8) :
    (safetyClampTorque requested mode brake limit).toInt =
      if brake ≠ 0 ∨ safetyModeBlocksTorque mode = true then 0
      else max 0 (min requested.toInt (min (modeCap mode) limit.toNat : Nat)) := by
  have hmax := toNat_effectiveMax mode limit
  have hcap : modeCap mode ≤ 100 := by
    unfold modeCap
    split <;> omega
  have hcast := Core.toInt_toInt8_of_lt (b := effectiveMax mode limit) (by omega)
  rw [hmax] at hcast
  unfold safetyClampTorque
  by_cases hb : brake = 0
  · by_cases hm : safetyModeBlocksTorque mode = true
    · simp [hm]
    · simp only [safetyBrakeOverridesThrottle, hb, bne_self_eq_false, Bool.false_eq_true, hm,
        ite_false, ne_eq, not_true_eq_false, or_self, Int8.lt_iff_toInt_lt]
      have hz : (0 : Int8).toInt = 0 := rfl
      split_ifs with h1 h2 h3 <;> rw [hz] at h1 <;> omega
  · simp [safetyBrakeOverridesThrottle, hb]

/-- The signed cap of the shared clamp has the value of the unsigned one. -/
theorem toInt_sharedCap (mode : McVehicleMode) (limit : UInt8) :
    (if (limit.toNat : Int) <
        (if mode = .limp then mcTorqueLimpMaxPercent.toInt8 else (100 : Int8)).toInt
      then limit.toInt8
      else if mode = .limp then mcTorqueLimpMaxPercent.toInt8 else 100).toInt =
      (min (modeCap mode) limit.toNat : Nat) := by
  have hmode : (if mode = .limp then mcTorqueLimpMaxPercent.toInt8 else (100 : Int8)).toInt =
      modeCap mode := by
    unfold modeCap
    split <;> rfl
  have hcap : modeCap mode ≤ 100 := by
    unfold modeCap
    split <;> omega
  rw [hmode]
  split
  · rename_i hlower
    -- A limit below the cap is below 128, so that the cast keeps its value.
    rw [Core.toInt_toInt8_of_lt (by omega)]
    omega
  · rw [hmode]
    omega

/-- The shared clamp in closed form. -/
theorem toInt_mcSafetyClampTorque (requested : Int8) (mode : McVehicleMode)
    (brake limit : UInt8) :
    (mcSafetyClampTorque requested mode brake limit).toInt =
      if brake ≠ 0 ∨ mode ≠ .drive ∧ mode ≠ .limp then 0
      else max 0 (min requested.toInt (min (modeCap mode) limit.toNat : Nat)) := by
  have hcap := toInt_sharedCap mode limit
  have hzero : (0 : Int8).toInt = 0 := rfl
  unfold mcSafetyClampTorque
  by_cases hbrake : brake ≠ 0
  · rw [if_pos hbrake, if_pos (.inl hbrake), hzero]
  · by_cases hmode : mode ≠ .drive ∧ mode ≠ .limp
    · rw [if_neg hbrake, if_pos hmode, if_pos (.inr hmode), hzero]
    · rw [if_neg hbrake, if_neg hmode, if_neg (not_or.mpr ⟨hbrake, hmode⟩)]
      dsimp only
      generalize (if (limit.toNat : Int) < _ then limit.toInt8 else _) = cap at hcap ⊢
      simp only [Int8.lt_iff_toInt_lt]
      split_ifs with hnegative hover hover <;> rw [hzero] at hnegative <;> omega

/-- For every request, mode, brake and limit the two clamps return the same torque: zero when
braking or outside DRIVE and LIMP, otherwise the request cut to the cap of the mode and the
limit of the BMS and never negative. -/
theorem torqueClamps_agree (requested : Int8) (mode : McVehicleMode) (brake limit : UInt8) :
    mcSafetyClampTorque requested mode brake limit = safetyClampTorque requested mode brake limit ∧
      (safetyClampTorque requested mode brake limit).toInt =
        if brake ≠ 0 ∨ mode ≠ .drive ∧ mode ≠ .limp then 0
        else max 0 (min requested.toInt (min (modeCap mode) limit.toNat : Nat)) := by
  have hshared := toInt_mcSafetyClampTorque requested mode brake limit
  have hfirmware := toInt_safetyClampTorque requested mode brake limit
  simp only [safetyModeBlocksTorque, Bool.and_eq_true, bne_iff_ne] at hfirmware
  exact ⟨Int8.toInt_inj.mp (hshared.trans hfirmware.symm), hfirmware⟩

/-- Torque controller state, `torque_controller_t`. -/
structure TorqueController where
  /-- Last received throttle. -/
  throttlePercent : UInt8
  /-- Last received brake byte. -/
  brakePressed : UInt8
  /-- Last received gear. -/
  gear : UInt8
  /-- Vehicle mode received from the gateway. -/
  vehicleMode : McVehicleMode
  /-- BMS torque limit, 255 for none. -/
  bmsTorqueLimit : UInt8
  /-- Last computed torque. -/
  outputTorque : Int8
  /-- Motor enable flag. -/
  motorEnable : Bool
  deriving DecidableEq

/-- What the torque computation reads: throttle, brake, mode and BMS limit. -/
def TorqueController.inputs (tc : TorqueController) : UInt8 × UInt8 × McVehicleMode × UInt8 :=
  (tc.throttlePercent, tc.brakePressed, tc.vehicleMode, tc.bmsTorqueLimit)

/-- The controller at boot, `torque_controller_init`. -/
def torqueControllerInit : TorqueController where
  throttlePercent := 0
  brakePressed := 0
  gear := 0
  vehicleMode := .off
  bmsTorqueLimit := 255
  outputTorque := 0
  motorEnable := true

/-- Store a driver input, `torque_controller_set_input`. -/
def torqueControllerSetInput (tc : TorqueController) (throttle brake gear : UInt8) :
    TorqueController :=
  { tc with throttlePercent := throttle, brakePressed := brake, gear := gear }

/-- Store a vehicle mode, `torque_controller_set_mode`. -/
def torqueControllerSetMode (tc : TorqueController) (mode : McVehicleMode) : TorqueController :=
  { tc with vehicleMode := mode }

/-- Store a BMS limit, `torque_controller_set_bms_limit`. -/
def torqueControllerSetBmsLimit (tc : TorqueController) (maxTorque : UInt8) : TorqueController :=
  { tc with bmsTorqueLimit := maxTorque }

/-- Compute torque and motor enable; the returned torque is the output field,
`torque_controller_compute`. -/
def torqueControllerCompute (tc : TorqueController) : TorqueController :=
  if safetyThrottleInvalid tc.throttlePercent then
    { tc with outputTorque := 0, motorEnable := false }
  else
    { tc with
      outputTorque := safetyClampTorque tc.throttlePercent.toInt8 tc.vehicleMode tc.brakePressed
        tc.bmsTorqueLimit
      motorEnable := !safetyModeBlocksTorque tc.vehicleMode }

@[simp] theorem torqueControllerCompute_vehicleMode (tc : TorqueController) :
    (torqueControllerCompute tc).vehicleMode = tc.vehicleMode := by
  unfold torqueControllerCompute
  split <;> rfl

/-- The computed torque in closed form. -/
theorem toInt_torqueControllerCompute (tc : TorqueController) :
    (torqueControllerCompute tc).outputTorque.toInt =
      if 100 < tc.throttlePercent ∨ tc.brakePressed ≠ 0 ∨
          safetyModeBlocksTorque tc.vehicleMode = true then 0
      else (min tc.throttlePercent.toNat
        (min (modeCap tc.vehicleMode) tc.bmsTorqueLimit.toNat) : Nat) := by
  unfold torqueControllerCompute
  by_cases hinvalid : 100 < tc.throttlePercent
  · simp [safetyThrottleInvalid, hinvalid]
  · have hle : tc.throttlePercent.toNat ≤ 100 := by
      simpa [UInt8.lt_iff_toNat_lt] using hinvalid
    have hcast := Core.toInt_toInt8_of_lt (b := tc.throttlePercent) (by omega)
    simp only [safetyThrottleInvalid, hinvalid, decide_false, Bool.false_eq_true, ite_false,
      toInt_safetyClampTorque, hcast, false_or]
    split
    · rfl
    · omega

/-- The motor is enabled exactly on a valid throttle in a driving mode. -/
theorem motorEnable_torqueControllerCompute (tc : TorqueController) :
    (torqueControllerCompute tc).motorEnable =
      (!decide (100 < tc.throttlePercent) && !safetyModeBlocksTorque tc.vehicleMode) := by
  unfold torqueControllerCompute safetyThrottleInvalid
  by_cases hinvalid : 100 < tc.throttlePercent <;> simp [hinvalid]

/-- Watchdog state over the gateway heartbeat, `watchdog_task_t`. -/
structure WatchdogTask where
  /-- Time of the last gateway heartbeat. -/
  lastGatewayBeatMs : UInt32
  /-- The gateway is communicating. -/
  gatewayOnline : Bool
  /-- The watchdog asked for torque to be disabled. -/
  torqueDisabled : Bool
  deriving DecidableEq

/-- The watchdog at boot, `watchdog_init`. -/
def watchdogInit : WatchdogTask where
  lastGatewayBeatMs := 0
  gatewayOnline := false
  torqueDisabled := false

/-- Record a gateway heartbeat, `watchdog_gateway_beat`. -/
def watchdogGatewayBeat (_ : WatchdogTask) (nowMs : UInt32) : WatchdogTask where
  lastGatewayBeatMs := nowMs
  gatewayOnline := true
  torqueDisabled := false

/-- Check for a silent gateway; the flag is the return value, `watchdog_check`. -/
def watchdogCheck (wd : WatchdogTask) (nowMs : UInt32) : WatchdogTask × Bool :=
  if !wd.gatewayOnline then ({ wd with torqueDisabled := true }, true)
  else if mcSafetyGatewayTimeoutMs ≤ nowMs - wd.lastGatewayBeatMs then
    ({ wd with gatewayOnline := false, torqueDisabled := true }, true)
  else ({ wd with torqueDisabled := false }, false)

/-- A check that reports a timeout leaves the gateway marked offline. -/
theorem watchdogCheck_offline {wd : WatchdogTask} {nowMs : UInt32}
    (h : (watchdogCheck wd nowMs).2 = true) : (watchdogCheck wd nowMs).1.gatewayOnline = false := by
  unfold watchdogCheck at h ⊢
  split at h
  · rename_i hoff
    have hoff : wd.gatewayOnline = false := by simpa using hoff
    simp [hoff]
  · rename_i hon
    rw [if_neg hon]
    split at h
    · rename_i hlate
      simp [hlate]
    · simp at h

/-- With the gateway offline every check reports a timeout. -/
theorem watchdogCheck_of_offline {wd : WatchdogTask} (hoff : wd.gatewayOnline = false)
    (nowMs : UInt32) :
    watchdogCheck wd nowMs = ({ wd with torqueDisabled := true }, true) := by
  simp [watchdogCheck, hoff]

end Microcar.Powertrain
