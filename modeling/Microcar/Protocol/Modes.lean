import Microcar.Protocol.Frame

/-!
# Vehicle modes, BMS states and their shared transition functions

The enumerations of the message protocol and the pure functions of `microcar_protocol.c`: the
two that the gateway and the BMS firmware build on, and the shared torque clamp. A mode arrives at
the powertrain as a raw byte that is cast to the enumeration without a check, so the
mode type also holds the bytes outside it.
-/

namespace Microcar

/-- The type `mc_vehicle_mode_t`: the nine named modes, and every other byte a cast can produce. -/
inductive McVehicleMode where
  | off
  | ready
  | drive
  | limp
  | fault
  | charging
  | service
  | otaUpdate
  | transportMode
  /-- A byte outside the enumeration. -/
  | raw (b : UInt8) (h : 8 < b)
  deriving DecidableEq, Repr

namespace McVehicleMode

/-- The byte a mode is sent as. -/
def toByte : McVehicleMode → UInt8
  | .off => 0
  | .ready => 1
  | .drive => 2
  | .limp => 3
  | .fault => 4
  | .charging => 5
  | .service => 6
  | .otaUpdate => 7
  | .transportMode => 8
  | .raw b _ => b

/-- The cast of a received byte to the enumeration. -/
def ofByte (b : UInt8) : McVehicleMode :=
  if h : 8 < b then .raw b h
  else if b = 0 then .off
  else if b = 1 then .ready
  else if b = 2 then .drive
  else if b = 3 then .limp
  else if b = 4 then .fault
  else if b = 5 then .charging
  else if b = 6 then .service
  else if b = 7 then .otaUpdate
  else .transportMode

/-- A mode survives the trip over the bus. -/
@[simp] theorem ofByte_toByte (m : McVehicleMode) : ofByte m.toByte = m := by
  cases m with
  | raw b h => simp [toByte, ofByte, h]
  | _ => rfl

/-- A byte survives the cast. -/
@[simp] theorem toByte_ofByte (b : UInt8) : (ofByte b).toByte = b := by
  unfold ofByte
  by_cases h : 8 < b
  · rw [dif_pos h]
    rfl
  · rw [dif_neg h]
    by_cases h0 : b = 0
    · rw [if_pos h0, h0]
      rfl
    by_cases h1 : b = 1
    · rw [if_neg h0, if_pos h1, h1]
      rfl
    by_cases h2 : b = 2
    · rw [if_neg h0, if_neg h1, if_pos h2, h2]
      rfl
    by_cases h3 : b = 3
    · rw [if_neg h0, if_neg h1, if_neg h2, if_pos h3, h3]
      rfl
    by_cases h4 : b = 4
    · rw [if_neg h0, if_neg h1, if_neg h2, if_neg h3, if_pos h4, h4]
      rfl
    by_cases h5 : b = 5
    · rw [if_neg h0, if_neg h1, if_neg h2, if_neg h3, if_neg h4, if_pos h5, h5]
      rfl
    by_cases h6 : b = 6
    · rw [if_neg h0, if_neg h1, if_neg h2, if_neg h3, if_neg h4, if_neg h5, if_pos h6, h6]
      rfl
    by_cases h7 : b = 7
    · rw [if_neg h0, if_neg h1, if_neg h2, if_neg h3, if_neg h4, if_neg h5, if_neg h6, if_pos h7,
        h7]
      rfl
    rw [if_neg h0, if_neg h1, if_neg h2, if_neg h3, if_neg h4, if_neg h5, if_neg h6, if_neg h7]
    have height : b.toNat = 8 := by
      simp only [UInt8.lt_iff_toNat_lt, ← UInt8.toNat_inj, UInt8.reduceToNat] at *
      omega
    exact (UInt8.toNat_inj.mp height).symm

/-- A byte casts to a mode exactly when the mode is sent as it. -/
theorem ofByte_eq_iff (b : UInt8) (m : McVehicleMode) : ofByte b = m ↔ b = m.toByte := by
  constructor
  · rintro rfl
    rw [toByte_ofByte]
  · rintro rfl
    rw [ofByte_toByte]

/-- Only the byte 2 casts to DRIVE. -/
theorem ofByte_eq_drive_iff (b : UInt8) : ofByte b = .drive ↔ b = 2 := ofByte_eq_iff b .drive

/-- Only the byte 3 casts to LIMP. -/
theorem ofByte_eq_limp_iff (b : UInt8) : ofByte b = .limp ↔ b = 3 := ofByte_eq_iff b .limp

end McVehicleMode

/-- The type `mc_bms_state_t`. -/
inductive McBmsState where
  | ok
  | warnHot
  | limpRequest
  | criticalFault
  deriving DecidableEq, Repr

/-- BMS fault codes, `MC_BMS_FAULT_*`. -/
def mcBmsFaultNone : UInt8 := 0
/-- `MC_BMS_FAULT_OVERTEMP`. -/
def mcBmsFaultOvertemp : UInt8 := 1
/-- `MC_BMS_FAULT_OVERVOLTAGE`. -/
def mcBmsFaultOvervoltage : UInt8 := 2
/-- `MC_BMS_FAULT_UNDERVOLTAGE`. -/
def mcBmsFaultUndervoltage : UInt8 := 3
/-- `MC_BMS_FAULT_OVER_CURRENT`. -/
def mcBmsFaultOverCurrent : UInt8 := 4
/-- `MC_BMS_FAULT_COMM_ERROR`. -/
def mcBmsFaultCommError : UInt8 := 5

/-- Timing and torque constants of `microcar_safety.h`. -/
def mcSafetyGatewayTimeoutMs : UInt32 := 250
/-- `MC_SAFETY_BMS_HEARTBEAT_TIMEOUT_MS`. -/
def mcSafetyBmsHeartbeatTimeoutMs : UInt32 := 300
/-- `MC_TORQUE_LIMP_MAX_PERCENT`. -/
def mcTorqueLimpMaxPercent : UInt8 := 25
/-- `MC_TORQUE_FAULT_MAX_PERCENT`. -/
def mcTorqueFaultMaxPercent : UInt8 := 0

/-- Temperature thresholds of `microcar_safety.h`, in degrees Celsius. -/
def mcBmsTempWarn : Int16 := 60
/-- `MC_BMS_TEMP_LIMP`. -/
def mcBmsTempLimp : Int16 := 75
/-- `MC_BMS_TEMP_CRITICAL`. -/
def mcBmsTempCritical : Int16 := 90

/-- Classification of a pack temperature in tenths of a degree, `mc_bms_determine_state`. -/
def mcBmsDetermineState (tempCX10 : Int16) : McBmsState :=
  let tWarn : Int16 := mcBmsTempWarn * 10
  let tLimp : Int16 := mcBmsTempLimp * 10
  let tCritical : Int16 := mcBmsTempCritical * 10
  if tCritical ≤ tempCX10 then .criticalFault
  else if tLimp ≤ tempCX10 then .limpRequest
  else if tWarn ≤ tempCX10 then .warnHot
  else .ok

/-- A temperature is critical exactly from 90.0 degrees on. -/
theorem mcBmsDetermineState_eq_critical_iff (t : Int16) :
    mcBmsDetermineState t = .criticalFault ↔ 900 ≤ t.toInt := by
  have hbound : mcBmsTempCritical * 10 ≤ t ↔ 900 ≤ t.toInt := Int16.le_iff_toInt_le
  unfold mcBmsDetermineState
  rw [← hbound]
  dsimp only
  split_ifs with h <;> simp [h]

/-- Safety rules over a requested torque, `mc_safety_clamp_torque`. The caps are `int8_t`; the
limit of the BMS is promoted for the comparison and cast where it is the smaller. -/
def mcSafetyClampTorque (requestedTorque : Int8) (vehicleMode : McVehicleMode)
    (brakePressed bmsMaxTorque : UInt8) : Int8 :=
  if brakePressed ≠ 0 then 0
  else if vehicleMode ≠ .drive ∧ vehicleMode ≠ .limp then 0
  else
    let modeMax : Int8 := if vehicleMode = .limp then mcTorqueLimpMaxPercent.toInt8 else 100
    let effectiveMax : Int8 :=
      if (bmsMaxTorque.toNat : Int) < modeMax.toInt then bmsMaxTorque.toInt8 else modeMax
    let requested : Int8 := if requestedTorque < 0 then 0 else requestedTorque
    if effectiveMax < requested then effectiveMax else requested

/-- The vehicle mode transition, `mc_gateway_determine_mode`; its last argument
`powertrain_online` is not read. -/
def mcGatewayDetermineMode (currentMode : McVehicleMode)
    (allNodesOnline bmsFaultActive bmsLimpRequested : Bool) : McVehicleMode :=
  if currentMode = .fault then .fault
  else if bmsFaultActive then .fault
  else if currentMode = .charging then .charging
  else if currentMode = .otaUpdate then .otaUpdate
  else if bmsLimpRequested then .limp
  else
    match currentMode with
    | .off => if allNodesOnline then .ready else .off
    | .ready => if allNodesOnline then .ready else .off
    | .drive => if allNodesOnline then .drive else .ready
    | .limp => if allNodesOnline then .ready else .off
    | _ => .off

/-- The transition yields FAULT exactly from FAULT or on a critical fault. -/
theorem mcGatewayDetermineMode_eq_fault_iff (m : McVehicleMode) (online fault limp : Bool) :
    mcGatewayDetermineMode m online fault limp = .fault ↔ m = .fault ∨ fault = true := by
  unfold mcGatewayDetermineMode
  by_cases hm : m = .fault
  · simp only [hm, if_true, true_or]
  · rw [if_neg hm]
    cases fault with
    | true => simp only [if_true, or_true]
    | false =>
      refine iff_of_false ?_ (by simp only [hm, Bool.false_eq_true, or_self, not_false_eq_true])
      rw [if_neg Bool.false_ne_true]
      split
      · decide
      split
      · decide
      split
      · decide
      · cases online <;> cases m <;> exact fun h => nomatch h

/-- A sticky mode is left only for FAULT, and only on a critical fault. -/
theorem mcGatewayDetermineMode_sticky {m : McVehicleMode} (hm : m = .charging ∨ m = .otaUpdate)
    (online fault limp : Bool) :
    mcGatewayDetermineMode m online fault limp = if fault then .fault else m := by
  rcases hm with rfl | rfl <;> cases fault <;> simp [mcGatewayDetermineMode]

/-- Without a fault or a limp request, DRIVE is kept exactly while every node is online. -/
theorem mcGatewayDetermineMode_drive (online : Bool) :
    mcGatewayDetermineMode .drive online false false = if online then .drive else .ready := by
  cases online <;> rfl

/-- Without a fault or a limp request, SERVICE falls back to OFF. -/
theorem mcGatewayDetermineMode_service (online : Bool) :
    mcGatewayDetermineMode .service online false false = .off := rfl

end Microcar
