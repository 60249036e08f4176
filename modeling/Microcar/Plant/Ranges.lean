import Microcar.Plant.Exact

/-!
# The plant inside its ranges

The ranges that a tick of at most one second and a torque of at most one hundred percent keep.
Drag and cooling grow with the speed and the temperature, so both settle below the bounds
of their types.
-/

namespace Microcar.Plant

/-- Ranges of the vehicle: a settled speed and a torque of at most one hundred percent. -/
structure VehicleInRange (v : VehiclePlant) : Prop where
  /-- The speed settles below 1100 km/h. -/
  speed : v.speedKphX10.toNat ≤ 11000
  /-- The torque does not regenerate. -/
  torque_nonneg : 0 ≤ v.motorTorquePercent.toInt
  /-- The torque is a percentage. -/
  torque_le : v.motorTorquePercent.toInt ≤ 100

/-- The vehicle at rest is in range. -/
theorem vehicleInRange_new : VehicleInRange .new := ⟨by decide, by decide, by decide⟩

/-- The effective torque of a percentage is one. -/
theorem VehiclePlant.effectiveTorque_percent {v : VehiclePlant}
    (hnonneg : 0 ≤ v.motorTorquePercent.toInt) (hle : v.motorTorquePercent.toInt ≤ 100) :
    0 ≤ v.effectiveTorque ∧ v.effectiveTorque ≤ 100 := by
  unfold VehiclePlant.effectiveTorque
  split
  · decide
  · exact ⟨hnonneg, hle⟩

/-- Drag at high speed outweighs the acceleration of a tick, so the speed stays in range. -/
theorem speed_settles {speed torque dt : Int} (hspeed : 0 ≤ speed) (hmax : speed ≤ 11000)
    (htorque : 0 ≤ torque) (htorquemax : torque ≤ 100) (hdt : 0 ≤ dt) (hdtmax : dt ≤ 1000) :
    0 ≤ speed + torque * dt / 100 - speed * dt / 10000 ∧
      speed + torque * dt / 100 - speed * dt / 10000 ≤ 11000 := by
  obtain ⟨hpush, hpushmax⟩ := mul_bounds htorque htorquemax hdt (Int.le_refl dt)
  obtain ⟨hdrag, hdragmax⟩ := mul_bounds hspeed (Int.le_refl speed) hdt hdtmax
  refine ⟨by omega, ?_⟩
  by_cases hfast : 10000 ≤ speed
  · obtain ⟨-, hdragmin⟩ := mul_bounds (by decide) hfast hdt (Int.le_refl dt)
    omega
  · omega

/-- The vehicle behind a tick in range. -/
theorem VehiclePlant.step_eq {v : VehiclePlant} (h : VehicleInRange v) {dtMs : UInt32}
    (hdt : dtMs.toNat ≤ 1000) :
    ∃ speed : UInt16, v.step dtMs = some { v with speedKphX10 := speed } ∧
      (speed.toNat : Int) = v.speedKphX10.toNat + v.effectiveTorque * dtMs.toNat / 100 -
        v.speedKphX10.toNat * dtMs.toNat / 10000 ∧ speed.toNat ≤ 11000 := by
  have hspeed := h.speed
  obtain ⟨htorque, htorquemax⟩ :=
    VehiclePlant.effectiveTorque_percent h.torque_nonneg h.torque_le
  have hdt0 : (0 : Int) ≤ dtMs.toNat := by omega
  have hdt1 : (dtMs.toNat : Int) ≤ 1000 := by omega
  obtain ⟨hlow, hhigh⟩ := speed_settles (Int.natCast_nonneg v.speedKphX10.toNat) (by omega)
    htorque htorquemax hdt0 hdt1
  obtain ⟨hpush, hpushmax⟩ := mul_bounds htorque htorquemax hdt0 hdt1
  obtain ⟨hdrag, hdragmax⟩ := mul_bounds (a := v.speedKphX10.toNat) (m := 11000)
    (by omega) (by omega) hdt0 hdt1
  obtain ⟨speed, hstep, hvalue⟩ := VehiclePlant.stepExact_eq v dtMs (by omega)
    (by omega) (by omega) (by omega) (by rw [Int.tdiv_eq_ediv_of_nonneg hpush]; omega)
  rw [Int.tdiv_eq_ediv_of_nonneg hpush, Int.max_eq_left hlow] at hvalue
  exact ⟨speed, VehiclePlant.step_of_stepExact hstep, hvalue, by omega⟩

/-- Ranges of the battery: a charge of at most the whole capacity and a settled temperature. -/
structure BatteryInRange (b : BatteryModel) : Prop where
  /-- The charge is not negative. -/
  soc_nonneg : 0 ≤ b.socMilli
  /-- The charge is at most the capacity. -/
  soc_le : b.socMilli ≤ 100000
  /-- The temperature has a floor. -/
  temp_ge : 200 ≤ b.tempCX10.toInt
  /-- The temperature settles below 1035 °C. -/
  temp_le : b.tempCX10.toInt ≤ 10350

/-- The battery in its default state is in range. -/
theorem batteryInRange_new : BatteryInRange .new := ⟨by decide, by decide, by decide, by decide⟩

/-- Cooling far above ambient outweighs the heating of a tick, so the temperature stays in
range. -/
theorem temp_settles {temp : Int} (amps dt : Int) (htemp : 200 ≤ temp) (hmax : temp ≤ 10350)
    (hamps : 0 ≤ amps) (hampsmax : amps ≤ 50) (hdt : 0 ≤ dt) (hdtmax : dt ≤ 1000) :
    max (temp + amps * amps * dt / 25000 - max (temp - 250) 0 * dt / 100000) 200 ≤ 10350 := by
  obtain ⟨hsquare, hsquaremax⟩ := mul_bounds hamps hampsmax hamps hampsmax
  obtain ⟨hheat, hheatmax⟩ := mul_bounds hsquare hsquaremax hdt (Int.le_refl dt)
  by_cases hhot : 10250 ≤ temp
  · have habove : max (temp - 250) 0 = temp - 250 := by omega
    obtain ⟨-, hcool⟩ := mul_bounds (a := 10000) (b := dt) (m := temp - 250) (by decide) (by omega)
      hdt (Int.le_refl dt)
    rw [habove]
    omega
  · obtain ⟨hcool, -⟩ := mul_bounds (a := max (temp - 250) 0) (by omega) (Int.le_refl _) hdt hdtmax
    omega

/-- The battery behind a tick in range. -/
theorem BatteryModel.step_eq {b : BatteryModel} (h : BatteryInRange b) {torque : Int8}
    (htorque : 0 ≤ torque.toInt) (htorquemax : torque.toInt ≤ 100) {dtMs : UInt32}
    (hdt : dtMs.toNat ≤ 1000) :
    ∃ b', b.step torque dtMs = some b' ∧ BatteryTick b torque.toInt dtMs.toNat b' ∧
      BatteryInRange b' := by
  have habs : (torque.toInt.natAbs : Int) = torque.toInt := Int.natAbs_of_nonneg htorque
  have hsettled := temp_settles (torque.toInt * 500 / 1000) dtMs.toNat h.temp_ge h.temp_le
    (by omega) (by omega) (by omega) (by omega)
  obtain ⟨b', hstep, htick⟩ := BatteryModel.stepExact_eq h.soc_nonneg h.soc_le torque dtMs
    (by rw [habs]; omega)
  rw [habs] at htick
  have hmilli := htick.socMilli
  have hmillimax := h.soc_le
  have hdrop : 0 ≤ torque.toInt * 500 * dtMs.toNat := Int.mul_nonneg (by omega) (by omega)
  refine ⟨b', BatteryModel.step_of_stepExact hstep, htick, ⟨by omega, by omega, ?_, ?_⟩⟩
  · rw [htick.temp]
    exact Int.le_max_right _ _
  · rw [htick.temp]
    exact hsettled

end Microcar.Plant
