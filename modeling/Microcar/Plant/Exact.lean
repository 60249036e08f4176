import Microcar.Plant.Model

/-!
# The plant with exact casts

The steps of the plant once more, where a cast stops at a value that it would change, as a
checked operation does at an overflow. A step that does not stop computes what the plant
computes; it stops exactly where the plant overflows or wraps around.
-/

namespace Microcar.Plant

/-- The step of the vehicle with exact casts. -/
def VehiclePlant.stepExact (v : VehiclePlant) (dtMs : UInt32) : Option VehiclePlant := do
  let dt ← Core.checkedInt 32 dtMs.toNat
  let push ← Core.checkedInt 32 (v.effectiveTorque * dt)
  let drag ← Core.checkedInt 32 (v.speedKphX10.toNat * dt)
  let newSpeed ← Core.checkedNat 16 (max (Core.saturateInt 32 (Core.saturateInt 32
    (v.speedKphX10.toNat + push.tdiv 100) - drag.tdiv 10000)) 0)
  return { v with speedKphX10 := .ofNat newSpeed }

/-- The voltage with exact casts. -/
def BatteryModel.calcVoltageExact (b : BatteryModel) : Option UInt16 := do
  let product ← Core.checkedNat 32 (b.nominalVoltageMv.toNat * b.socPercent.toNat)
  let voltageMv ← Core.checkedNat 16 ((product / 100 - b.currentMa.toInt.natAbs / 10 : Nat) : Int)
  return .ofNat voltageMv

/-- The rounded state of charge with an exact cast. -/
def socPercentOfExact (socMilli : Int) : Option UInt8 := do
  let rounded := (← Core.checkedInt 64 (socMilli + 500)).tdiv 1000
  let socPercent ← Core.checkedNat 8 (min rounded 100)
  return .ofNat socPercent

/-- The temperature behind a tick with an exact cast. -/
def heatedTempExact (tempCX10 : Int16) (iAmps dt : Int) : Option Int16 := do
  let temp := tempCX10.toInt
  let square ← Core.checkedInt 64 (iAmps * iAmps)
  let heatRise := (← Core.checkedInt 64 (square * dt)).tdiv 25000
  let aboveAmbient := max (← Core.checkedInt 64 (temp - 250)) 0
  let cooling := (← Core.checkedInt 64 (aboveAmbient * dt)).tdiv 100000
  let newTemp := max (Core.saturateInt 64 (Core.saturateInt 64 (temp + heatRise) - cooling)) 200
  let tempCX10 ← Core.checkedInt 16 newTemp
  return .ofInt tempCX10

/-- Store the voltage that follows from charge and current, with exact casts. -/
def BatteryModel.withVoltageExact (b : BatteryModel) : Option BatteryModel := do
  let voltageMv ← b.calcVoltageExact
  return { b with voltageMv := voltageMv }

/-- The step of the battery with exact casts. -/
def BatteryModel.stepExact (b : BatteryModel) (torquePercent : Int8) (dtMs : UInt32) :
    Option BatteryModel := do
  let currentMa ← Core.checkedInt 64 (torquePercent.toInt.natAbs * 500)
  let current32 ← Core.checkedInt 32 currentMa
  let drop ← socDeltaMilli currentMa dtMs.toNat
  let socPercent ← socPercentOfExact (max (Core.saturateInt 64 (b.socMilli - drop)) 0)
  let tempCX10 ← heatedTempExact b.tempCX10 (currentMa.tdiv 1000) dtMs.toNat
  BatteryModel.withVoltageExact { b with
    currentMa := .ofInt current32
    socMilli := max (Core.saturateInt 64 (b.socMilli - drop)) 0
    socPercent := socPercent
    tempCX10 := tempCX10 }

/-- Vehicle and battery with exact casts. -/
def MicrocarPlant.advanceExact (p : MicrocarPlant) : Option MicrocarPlant := do
  let vehicle ← p.vehicle.stepExact p.tickMs
  let battery ← p.battery.stepExact vehicle.motorTorquePercent p.tickMs
  return { p with vehicle := vehicle, battery := battery }

/-- A step of the vehicle that does not stop is the step of the plant. -/
theorem VehiclePlant.step_of_stepExact {v v' : VehiclePlant} {dtMs : UInt32}
    (h : v.stepExact dtMs = some v') : v.step dtMs = some v' := by
  simp only [VehiclePlant.stepExact, Option.bind_eq_bind, Option.bind_eq_some_iff,
    Option.pure_def] at h
  obtain ⟨dt, hdt, push, hpush, drag, hdrag, speed, hspeed, hv⟩ := h
  obtain ⟨rfl, -, hlt⟩ := Core.checkedInt_eq_some hdt
  have hsmall : dtMs.toNat < 2147483648 := by
    have hbound : (2 : Int) ^ (32 - 1) = 2147483648 := rfl
    omega
  simp only [VehiclePlant.step, Core.toInt_toInt32_of_lt hsmall, hpush, hdrag,
    Option.bind_eq_bind, Option.bind_some, Option.pure_def]
  rw [← hv, (Core.checkedNat_eq_some hspeed).1]

theorem BatteryModel.calcVoltage_of_exact {b : BatteryModel} {voltage : UInt16}
    (h : b.calcVoltageExact = some voltage) : b.calcVoltage = voltage := by
  simp only [BatteryModel.calcVoltageExact, Option.bind_eq_bind, Option.bind_eq_some_iff,
    Option.pure_def, Option.some.injEq] at h
  obtain ⟨product, hproduct, v, hv, rfl⟩ := h
  rw [(Core.checkedNat_eq_some hv).1, (Core.checkedNat_eq_some hproduct).1]
  rfl

theorem socPercentOf_of_exact {socMilli : Int} {soc : UInt8}
    (h : socPercentOfExact socMilli = some soc) : socPercentOf socMilli = some soc := by
  simp only [socPercentOfExact, Option.bind_eq_bind, Option.bind_eq_some_iff, Option.pure_def] at h
  obtain ⟨sum, hsum, percent, hpercent, hsoc⟩ := h
  simp only [socPercentOf, hsum, Option.bind_eq_bind, Option.bind_some, Option.pure_def]
  rw [← hsoc, (Core.checkedNat_eq_some hpercent).1]

theorem heatedTemp_of_exact {tempCX10 temp : Int16} {iAmps dt : Int}
    (h : heatedTempExact tempCX10 iAmps dt = some temp) :
    heatedTemp tempCX10 iAmps dt = some temp := by
  simp only [heatedTempExact, Option.bind_eq_bind, Option.bind_eq_some_iff, Option.pure_def] at h
  obtain ⟨square, hsquare, heat, hheat, above, habove, cool, hcool, new, hnew, htemp⟩ := h
  obtain ⟨rfl, -⟩ := Core.checkedInt_eq_some habove
  simp only [heatedTemp, hsquare, hheat, hcool, Option.bind_eq_bind, Option.bind_some,
    Option.pure_def]
  rw [← htemp, (Core.checkedInt_eq_some hnew).1]

/-- A step of the battery that does not stop is the step of the plant. -/
theorem BatteryModel.step_of_stepExact {b b' : BatteryModel} {torque : Int8} {dtMs : UInt32}
    (h : b.stepExact torque dtMs = some b') : b.step torque dtMs = some b' := by
  simp only [BatteryModel.stepExact, Option.bind_eq_bind, Option.bind_eq_some_iff] at h
  obtain ⟨current, hcurrent, current32, hcurrent32, drop, hdrop, soc, hsoc, temp, htemp, hb⟩ := h
  simp only [BatteryModel.withVoltageExact, Option.bind_eq_bind, Option.bind_eq_some_iff,
    Option.pure_def] at hb
  obtain ⟨voltage, hvoltage, hb⟩ := hb
  obtain ⟨rfl, -⟩ := Core.checkedInt_eq_some hcurrent
  obtain ⟨rfl, -⟩ := Core.checkedInt_eq_some hcurrent32
  simp only [BatteryModel.step, hdrop, socPercentOf_of_exact hsoc, heatedTemp_of_exact htemp,
    Option.bind_eq_bind, Option.bind_some, Option.pure_def, BatteryModel.settle,
    BatteryModel.calcVoltage_of_exact hvoltage]
  exact hb

/-- Vehicle and battery step one after the other. -/
theorem MicrocarPlant.advanceExact_eq {p : MicrocarPlant} {vehicle : VehiclePlant}
    {battery : BatteryModel} (hvehicle : p.vehicle.stepExact p.tickMs = some vehicle)
    (hbattery : p.battery.stepExact vehicle.motorTorquePercent p.tickMs = some battery) :
    p.advanceExact = some { p with vehicle := vehicle, battery := battery } := by
  rw [MicrocarPlant.advanceExact, hvehicle, Option.bind_eq_bind, Option.bind_some, hbattery,
    Option.bind_eq_bind, Option.bind_some, Option.pure_def]

/-- A step that does not stop is the step of the plant. -/
theorem MicrocarPlant.advance_of_advanceExact {p p' : MicrocarPlant}
    (h : p.advanceExact = some p') : p.advance = some p' := by
  simp only [MicrocarPlant.advanceExact, Option.bind_eq_bind, Option.bind_eq_some_iff,
    Option.pure_def] at h
  obtain ⟨vehicle, hvehicle, battery, hbattery, hp⟩ := h
  rw [MicrocarPlant.advance, VehiclePlant.step_of_stepExact hvehicle, Option.bind_eq_bind,
    Option.bind_some, BatteryModel.step_of_stepExact hbattery, Option.bind_eq_bind,
    Option.bind_some]
  exact hp

/-! ### Closed forms -/

/-- A product of two bounded factors is bounded. -/
theorem mul_bounds {a b m n : Int} (ha : 0 ≤ a) (ham : a ≤ m) (hb : 0 ≤ b) (hbn : b ≤ n) :
    0 ≤ a * b ∧ a * b ≤ m * n :=
  ⟨Int.mul_nonneg ha hb, Int.mul_le_mul ham hbn hb (Int.le_trans ha ham)⟩

/-- The vehicle behind a tick whose products and new speed fit. -/
theorem VehiclePlant.stepExact_eq (v : VehiclePlant) (dtMs : UInt32)
    (hdt : dtMs.toNat < 2147483648) (hpush : -2147483648 ≤ v.effectiveTorque * dtMs.toNat)
    (hpushmax : v.effectiveTorque * dtMs.toNat ≤ 2147483647)
    (hdrag : (v.speedKphX10.toNat : Int) * dtMs.toNat ≤ 2147483647)
    (hfits : v.speedKphX10.toNat + (v.effectiveTorque * dtMs.toNat).tdiv 100 -
      v.speedKphX10.toNat * dtMs.toNat / 10000 ≤ 65535) :
    ∃ speed : UInt16, v.stepExact dtMs = some { v with speedKphX10 := speed } ∧
      (speed.toNat : Int) = max (v.speedKphX10.toNat + (v.effectiveTorque * dtMs.toNat).tdiv 100 -
        v.speedKphX10.toNat * dtMs.toNat / 10000) 0 := by
  have hspeed : v.speedKphX10.toNat < 65536 := v.speedKphX10.toNat_lt
  have hdrag0 : (0 : Int) ≤ v.speedKphX10.toNat * dtMs.toNat :=
    Int.mul_nonneg (Int.natCast_nonneg _) (Int.natCast_nonneg _)
  have hdelta := Core.tdiv_bounds (v.effectiveTorque * dtMs.toNat) (d := 100) (by decide)
  generalize hpushed : (v.effectiveTorque * dtMs.toNat).tdiv 100 = delta at hfits hdelta ⊢
  have hword : Core.checkedNat 16 (max (v.speedKphX10.toNat + delta -
      v.speedKphX10.toNat * dtMs.toNat / 10000) 0) = some (max (v.speedKphX10.toNat + delta -
        v.speedKphX10.toNat * dtMs.toNat / 10000) 0).toNat :=
    Core.checkedNat_16 (Int.le_max_right _ _) (by omega)
  have hfits' : (max (v.speedKphX10.toNat + delta -
      v.speedKphX10.toNat * dtMs.toNat / 10000) 0).toNat < UInt16.size := by
    have hsize : UInt16.size = 65536 := rfl
    omega
  refine ⟨.ofNat (max (v.speedKphX10.toNat + delta -
    v.speedKphX10.toNat * dtMs.toNat / 10000) 0).toNat, ?_, ?_⟩
  · have hcast := Core.checkedInt_32 (x := dtMs.toNat) (by omega) (by omega)
    have hdragged := Core.checkedInt_32 (x := v.speedKphX10.toNat * dtMs.toNat) (by omega) hdrag
    rw [VehiclePlant.stepExact, hcast, Option.bind_eq_bind, Option.bind_some,
      Core.checkedInt_32 hpush hpushmax, Option.bind_some, hpushed, hdragged, Option.bind_some,
      Int.tdiv_eq_ediv_of_nonneg hdrag0,
      Core.saturateInt_32 (x := v.speedKphX10.toNat + _) (by omega) (by omega),
      Core.saturateInt_32 (by omega) (by omega), hword, Option.bind_eq_bind, Option.bind_some,
      Option.pure_def]
  · rw [UInt16.toNat_ofNat_of_lt' hfits']
    omega

/-- The charge of a tick in range. -/
theorem socDeltaMilli_eq (currentMa dt : Int) (hcurrent : 0 ≤ currentMa) (hdt : 0 ≤ dt)
    (hmax : currentMa * dt ≤ 9000000000000000) :
    socDeltaMilli currentMa dt = some (currentMa * dt * 1000 / 180000000) := by
  have hcharge : 0 ≤ currentMa * dt := Int.mul_nonneg hcurrent hdt
  have hcapacity : 3600 * capacityMah = 180000000 := rfl
  rw [socDeltaMilli, Core.checkedInt_64 (by omega) (by omega), Option.bind_eq_bind,
    Option.bind_some, Core.checkedInt_64 (by omega) (by omega), Option.bind_some,
    Option.pure_def, hcapacity, Int.tdiv_eq_ediv_of_nonneg (by omega)]

/-- The rounded state of charge of a battery in range. -/
theorem socPercentOfExact_eq (socMilli : Int) (hlow : 0 ≤ socMilli) (hhigh : socMilli ≤ 100000) :
    ∃ soc, socPercentOfExact socMilli = some soc ∧
      (soc.toNat : Int) = (socMilli + 500) / 1000 := by
  have hrounded := Core.checkedNat_8 (x := min ((socMilli + 500) / 1000) 100) (by omega) (by omega)
  have hstep : socPercentOfExact socMilli =
      some (.ofNat (min ((socMilli + 500) / 1000) 100).toNat) := by
    rw [socPercentOfExact, Core.checkedInt_64 (by omega) (by omega), Option.bind_eq_bind,
      Option.bind_some, Int.tdiv_eq_ediv_of_nonneg (by omega)]
    simp only [hrounded, Option.bind_eq_bind, Option.bind_some, Option.pure_def]
  refine ⟨_, hstep, ?_⟩
  have hpercent : (min ((socMilli + 500) / 1000) 100).toNat < UInt8.size := by
    have hsize : UInt8.size = 256 := rfl
    omega
  rw [UInt8.toNat_ofNat_of_lt' hpercent]
  omega

/-- The temperature behind a tick, if it fits. -/
theorem heatedTempExact_eq (tempCX10 : Int16) (iAmps dt : Int) (hamps : 0 ≤ iAmps)
    (hmax : iAmps ≤ 64) (hdt : 0 ≤ dt) (hdtmax : dt < 4294967296)
    (hfits : tempCX10.toInt + iAmps * iAmps * dt / 25000 -
      max (tempCX10.toInt - 250) 0 * dt / 100000 ≤ 32767) :
    heatedTempExact tempCX10 iAmps dt = some (.ofInt (max (tempCX10.toInt +
      iAmps * iAmps * dt / 25000 - max (tempCX10.toInt - 250) 0 * dt / 100000) 200)) := by
  have hlow := tempCX10.le_toInt
  have hhigh := tempCX10.toInt_lt
  obtain ⟨hsquare, hsquaremax⟩ := mul_bounds hamps hmax hamps hmax
  obtain ⟨hheat, hheatmax⟩ := mul_bounds hsquare hsquaremax hdt (Int.le_of_lt hdtmax)
  obtain ⟨hcool, hcoolmax⟩ := mul_bounds (a := max (tempCX10.toInt - 250) 0) (m := 32768)
    (by omega) (by omega) hdt (Int.le_of_lt hdtmax)
  have hchecked1 := Core.checkedInt_64 (x := iAmps * iAmps) (by omega) (by omega)
  have hchecked2 := Core.checkedInt_64 (x := iAmps * iAmps * dt) (by omega) (by omega)
  have hchecked3 := Core.checkedInt_64 (x := tempCX10.toInt - 250) (by omega) (by omega)
  have hchecked4 := Core.checkedInt_64 (x := max (tempCX10.toInt - 250) 0 * dt) (by omega)
    (by omega)
  have hword : Core.checkedInt 16 (max (tempCX10.toInt + iAmps * iAmps * dt / 25000 -
      max (tempCX10.toInt - 250) 0 * dt / 100000) 200) = some (max (tempCX10.toInt +
        iAmps * iAmps * dt / 25000 - max (tempCX10.toInt - 250) 0 * dt / 100000) 200) :=
    Core.checkedInt_16 (by omega) (by omega)
  simp only [heatedTempExact, hchecked1, hchecked2, hchecked3, hchecked4, Option.bind_eq_bind,
    Option.bind_some, Option.pure_def, Int.tdiv_eq_ediv_of_nonneg hheat,
    Int.tdiv_eq_ediv_of_nonneg hcool]
  rw [Core.saturateInt_64 (x := tempCX10.toInt + _) (by omega) (by omega),
    Core.saturateInt_64 (by omega) (by omega), hword, Option.bind_some]

/-- What a tick of the battery does in range, in exact arithmetic. -/
structure BatteryTick (b : BatteryModel) (torque dt : Int) (b' : BatteryModel) : Prop where
  /-- Half an ampere for each percent of torque. -/
  current : b'.currentMa.toInt = torque * 500
  /-- The charge drawn at a capacity of 50 Ah. -/
  socMilli : b'.socMilli = max (b.socMilli - torque * 500 * dt * 1000 / 180000000) 0
  /-- The charge in percent is rounded. -/
  socPercent : (b'.socPercent.toNat : Int) = (b'.socMilli + 500) / 1000
  /-- Heating against cooling. -/
  temp : b'.tempCX10.toInt =
    max (b.tempCX10.toInt + torque * 500 / 1000 * (torque * 500 / 1000) * dt / 25000 -
      max (b.tempCX10.toInt - 250) 0 * dt / 100000) 200
  /-- Voltage from the charge, less the sag under the current. -/
  voltage : (b'.voltageMv.toNat : Int) =
    max (b.nominalVoltageMv.toNat * b'.socPercent.toNat / 100 - torque * 500 / 10) 0
  /-- The nominal voltage is fixed. -/
  nominal : b'.nominalVoltageMv = b.nominalVoltageMv

/-- The voltage of a battery whose charge is a percentage. -/
theorem BatteryModel.toNat_calcVoltage {b : BatteryModel} (hsoc : b.socPercent.toNat ≤ 100)
    {current : Int} (hcurrent : b.currentMa.toInt = current) (hnonneg : 0 ≤ current) :
    (b.calcVoltage.toNat : Int) =
      max (b.nominalVoltageMv.toNat * b.socPercent.toNat / 100 - current / 10) 0 := by
  have hnominal : b.nominalVoltageMv.toNat < 65536 := b.nominalVoltageMv.toNat_lt
  have hproduct : b.nominalVoltageMv.toNat * b.socPercent.toNat ≤ b.nominalVoltageMv.toNat * 100 :=
    Nat.mul_le_mul_left _ hsoc
  have hfits : b.nominalVoltageMv.toNat * b.socPercent.toNat / 100 - current.natAbs / 10 <
      UInt16.size := by
    have hsize : UInt16.size = 65536 := rfl
    omega
  rw [BatteryModel.calcVoltage, hcurrent, UInt16.toNat_ofNat_of_lt' hfits]
  omega

/-- The voltage of a battery whose charge is a percentage fits. -/
theorem BatteryModel.withVoltageExact_eq {b : BatteryModel} (hsoc : b.socPercent.toNat ≤ 100) :
    b.withVoltageExact = some { b with voltageMv := b.calcVoltage } := by
  have hnominal : b.nominalVoltageMv.toNat < 65536 := b.nominalVoltageMv.toNat_lt
  have hproduct : b.nominalVoltageMv.toNat * b.socPercent.toNat ≤ b.nominalVoltageMv.toNat * 100 :=
    Nat.mul_le_mul_left _ hsoc
  have hproduct32 : Core.checkedNat 32 (b.nominalVoltageMv.toNat * b.socPercent.toNat) =
      some (b.nominalVoltageMv.toNat * b.socPercent.toNat) :=
    if_pos ⟨by omega, by omega⟩
  have hword := Core.checkedNat_16 (x := ((b.nominalVoltageMv.toNat * b.socPercent.toNat / 100 -
    b.currentMa.toInt.natAbs / 10 : Nat) : Int)) (by omega) (by omega)
  have hvoltage : b.calcVoltageExact = some b.calcVoltage := by
    rw [BatteryModel.calcVoltageExact, hproduct32, Option.bind_eq_bind, Option.bind_some, hword,
      Option.bind_some, Option.pure_def, Int.toNat_natCast, BatteryModel.calcVoltage]
  rw [BatteryModel.withVoltageExact, hvoltage, Option.bind_eq_bind, Option.bind_some,
    Option.pure_def]

/-- The battery behind a tick whose new temperature fits. -/
theorem BatteryModel.stepExact_eq {b : BatteryModel} (hsoc : 0 ≤ b.socMilli)
    (hsocmax : b.socMilli ≤ 100000) (torque : Int8) (dtMs : UInt32)
    (hfits : b.tempCX10.toInt + torque.toInt.natAbs * 500 / 1000 *
      (torque.toInt.natAbs * 500 / 1000) * dtMs.toNat / 25000 -
      max (b.tempCX10.toInt - 250) 0 * dtMs.toNat / 100000 ≤ 32767) :
    ∃ b', b.stepExact torque dtMs = some b' ∧
      BatteryTick b torque.toInt.natAbs dtMs.toNat b' := by
  have hlow := torque.le_toInt
  have hhigh := torque.toInt_lt
  have hdt : (dtMs.toNat : Int) < 4294967296 := by exact_mod_cast dtMs.toNat_lt
  generalize habs : (torque.toInt.natAbs : Int) = push at hfits ⊢
  have hpush : 0 ≤ push ∧ push ≤ 128 := by omega
  obtain ⟨hcharge, hchargemax⟩ := mul_bounds (a := push * 500) (b := dtMs.toNat) (m := 64000)
    (by omega) (by omega) (Int.natCast_nonneg _) (Int.le_of_lt hdt)
  have hdrop := socDeltaMilli_eq (push * 500) dtMs.toNat (by omega)
    (Int.natCast_nonneg _) (by omega)
  obtain ⟨soc, hsocpercent, hpercent⟩ := socPercentOfExact_eq
    (max (b.socMilli - push * 500 * dtMs.toNat * 1000 / 180000000) 0) (by omega)
    (by omega)
  have hheated := heatedTempExact_eq b.tempCX10 (push * 500 / 1000) dtMs.toNat (by omega)
    (by omega) (Int.natCast_nonneg _) hdt hfits
  have htempmax : max (b.tempCX10.toInt + push * 500 / 1000 * (push * 500 / 1000) * dtMs.toNat /
      25000 - max (b.tempCX10.toInt - 250) 0 * dtMs.toNat / 100000) 200 ≤ 32767 := by omega
  generalize htemp : max (b.tempCX10.toInt + push * 500 / 1000 * (push * 500 / 1000) * dtMs.toNat /
    25000 - max (b.tempCX10.toInt - 250) 0 * dtMs.toNat / 100000) 200 = temp at htempmax hheated
  have hcurrentcast : (Int32.ofInt (push * 500)).toInt = push * 500 :=
    Int32.toInt_ofInt_of_le (by omega) (by omega)
  have htempcast : (Int16.ofInt temp).toInt = temp := Int16.toInt_ofInt_of_le (by omega) (by omega)
  have hstep : b.stepExact torque dtMs = BatteryModel.withVoltageExact { b with
      currentMa := .ofInt (push * 500)
      socMilli := max (b.socMilli - push * 500 * dtMs.toNat * 1000 / 180000000) 0
      socPercent := soc
      tempCX10 := .ofInt temp } := by
    rw [BatteryModel.stepExact, habs, Core.checkedInt_64 (by omega) (by omega),
      Option.bind_eq_bind, Option.bind_some, Core.checkedInt_32 (by omega) (by omega),
      Option.bind_eq_bind, Option.bind_some, hdrop, Option.bind_eq_bind, Option.bind_some,
      Core.saturateInt_64 (by omega) (by omega), hsocpercent, Option.bind_some,
      Int.tdiv_eq_ediv_of_nonneg (by omega), hheated, Option.bind_some]
  have hsoc100 : soc.toNat ≤ 100 := by omega
  refine ⟨_, hstep.trans (BatteryModel.withVoltageExact_eq hsoc100),
    ⟨hcurrentcast, rfl, hpercent, htempcast.trans htemp.symm, ?_, rfl⟩⟩
  exact BatteryModel.toNat_calcVoltage hsoc100 hcurrentcast (by omega)

end Microcar.Plant
