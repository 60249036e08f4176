import Microcar.Core.Lockstep
import Microcar.Plant.Ranges

/-!
# The replica of the plant in the trace checker

The trace checker generates its golden traces with a replica of the plant in unbounded
integers. Both models are driven by the same inputs and ticks. The replica drops the motor
torque when the brake is pressed, the plant only ignores it for the speed, so the two differ
exactly at the ticks under brake and throttle.
-/

namespace Microcar.Plant

/-- The replica, `MicrocarPlantSimple`. -/
structure MicrocarPlantSimple where
  /-- Speed in 0.1 km/h. -/
  speedKphX10 : Int
  /-- State of charge in percent. -/
  socPercent : Int
  /-- State of charge in milli-percent. -/
  socMilli : Int
  /-- Pack temperature in 0.1 °C. -/
  tempCX10 : Int
  /-- Pack voltage in millivolts. -/
  voltageMv : Int
  /-- Pack current in milliamps. -/
  currentMa : Int
  /-- Throttle percent of the last driver input. -/
  throttlePercent : Int
  /-- Brake of the last driver input. -/
  brakePressed : Bool
  /-- Motor torque percent. -/
  motorTorque : Int
  /-- Nominal voltage in millivolts. -/
  nominalVoltageMv : Int
  deriving DecidableEq, Repr

/-- The replica at rest, `MicrocarPlantSimple.__init__`. -/
def MicrocarPlantSimple.new : MicrocarPlantSimple :=
  ⟨0, 80, 80000, 250, 48000, 0, 0, false, 0, 48000⟩

/-- Store the inputs of the driver; the brake drops the motor torque,
`MicrocarPlantSimple.set_driver_input`. -/
def MicrocarPlantSimple.setDriverInput (s : MicrocarPlantSimple) (throttle : Int) (brake : Bool) :
    MicrocarPlantSimple :=
  { s with
    throttlePercent := throttle
    brakePressed := brake
    motorTorque := if brake then 0 else throttle }

/-- Advance the replica by one tick, `MicrocarPlantSimple.step`. -/
def MicrocarPlantSimple.step (s : MicrocarPlantSimple) (dt : Int) : MicrocarPlantSimple :=
  let delta := (s.motorTorque * dt).fdiv 100
  let drag := (s.speedKphX10 * dt).fdiv 10000
  let newSpeed := s.speedKphX10 + delta - drag
  let currentMa := |s.motorTorque| * 500
  let socDrop := (currentMa * dt * 1000).fdiv (3600 * 50000)
  let socMilli := max 0 (s.socMilli - socDrop)
  let socPercent := min 100 ((socMilli + 500).fdiv 1000)
  let iAmps := currentMa.fdiv 1000
  let heatRise := (iAmps * iAmps * dt).fdiv 25000
  let aboveAmbient := max 0 (s.tempCX10 - 250)
  let cooling := (aboveAmbient * dt).fdiv 100000
  let newTemp := s.tempCX10 + heatRise - cooling
  let sag := |currentMa|.fdiv 10
  { s with
    speedKphX10 := max 0 newSpeed
    currentMa := currentMa
    socMilli := socMilli
    socPercent := socPercent
    tempCX10 := max 200 newTemp
    voltageMv := max 0 ((s.nominalVoltageMv * socPercent).fdiv 100 - sag) }

/-- A driver input with a throttle in percent. -/
structure DriverInput where
  /-- Throttle position. -/
  throttlePercent : UInt8
  /-- The brake pedal is pressed. -/
  brakePressed : Bool
  /-- The throttle is a percentage. -/
  throttle_le : throttlePercent.toNat ≤ 100

/-- One event of the two plants. -/
inductive PlantEvent where
  /-- A driver input takes effect. -/
  | input (d : DriverInput)
  /-- One tick passes. -/
  | step

/-- The replica under one event. -/
def replicaStep (dtMs : UInt32) (s : MicrocarPlantSimple) : PlantEvent → MicrocarPlantSimple × Unit
  | .input d => (s.setDriverInput d.throttlePercent.toNat d.brakePressed, ())
  | .step => (s.step dtMs.toNat, ())

/-- The plant under one event. -/
def plantStep (p : MicrocarPlant) : PlantEvent → Option (MicrocarPlant × Unit)
  | .input d => some (p.applyInput d.throttlePercent d.brakePressed, ())
  | .step => p.advance.map fun p' => (p', ())

/-- The two plants have the same readings. -/
structure SameReadings (s : MicrocarPlantSimple) (p : MicrocarPlant) : Prop where
  /-- Speed. -/
  speed : s.speedKphX10 = p.vehicle.speedKphX10.toNat
  /-- State of charge in percent. -/
  socPercent : s.socPercent = p.battery.socPercent.toNat
  /-- State of charge in milli-percent. -/
  socMilli : s.socMilli = p.battery.socMilli
  /-- Temperature. -/
  temp : s.tempCX10 = p.battery.tempCX10.toInt
  /-- Voltage. -/
  voltage : s.voltageMv = p.battery.voltageMv.toNat
  /-- Current. -/
  current : s.currentMa = p.battery.currentMa.toInt

/-- A tick passes under brake and throttle. -/
def BrakesUnderThrottle (s : MicrocarPlantSimple) (e : PlantEvent) : Prop :=
  e = .step ∧ s.brakePressed = true ∧ 0 < s.throttlePercent

/-- What relates the two plants along a common history: equal readings and inputs, a replica
torque that is the plant's torque behind the brake, and a plant in range. -/
structure Twins (dtMs : UInt32) (s : MicrocarPlantSimple) (p : MicrocarPlant) : Prop where
  /-- The readings are equal. -/
  same : SameReadings s p
  /-- The throttle is the plant's motor torque. -/
  throttle : s.throttlePercent = p.vehicle.motorTorquePercent.toInt
  /-- The brake is the same. -/
  brake : s.brakePressed = p.vehicle.brakePressed
  /-- The replica stores the torque behind the brake. -/
  torque : s.motorTorque = p.vehicle.effectiveTorque
  /-- The vehicle is in range. -/
  vehicle : VehicleInRange p.vehicle
  /-- The battery is in range. -/
  battery : BatteryInRange p.battery
  /-- The nominal voltage is the same. -/
  nominal : s.nominalVoltageMv = p.battery.nominalVoltageMv.toNat
  /-- The tick is the common one. -/
  tick : p.tickMs = dtMs

/-- The torque of a driver input. -/
theorem DriverInput.toInt_torque (d : DriverInput) :
    d.throttlePercent.toInt8.toInt = d.throttlePercent.toNat :=
  Core.toInt_toInt8_of_lt (Nat.lt_of_le_of_lt d.throttle_le (by decide))

/-- A driver input keeps the plants related. -/
theorem Twins.input {dtMs : UInt32} {s : MicrocarPlantSimple} {p : MicrocarPlant}
    (h : Twins dtMs s p) (d : DriverInput) :
    Twins dtMs (s.setDriverInput d.throttlePercent.toNat d.brakePressed)
      (p.applyInput d.throttlePercent d.brakePressed) where
  same := ⟨h.same.speed, h.same.socPercent, h.same.socMilli, h.same.temp, h.same.voltage,
    h.same.current⟩
  throttle := d.toInt_torque.symm
  brake := rfl
  torque := by
    show (if d.brakePressed then (0 : Int) else d.throttlePercent.toNat) =
      if d.brakePressed then 0 else d.throttlePercent.toInt8.toInt
    rw [d.toInt_torque]
  vehicle := by
    have hle := d.throttle_le
    have htorque := d.toInt_torque
    refine ⟨h.vehicle.speed, ?_, ?_⟩
    · show 0 ≤ d.throttlePercent.toInt8.toInt
      omega
    · show d.throttlePercent.toInt8.toInt ≤ 100
      omega
  battery := h.battery
  nominal := h.nominal
  tick := h.tick

/-- The plants at rest are related. -/
theorem twins_new (dtMs : UInt32) : Twins dtMs .new (.new dtMs) where
  same := ⟨rfl, rfl, rfl, rfl, rfl, rfl⟩
  throttle := rfl
  brake := rfl
  torque := rfl
  vehicle := vehicleInRange_new
  battery := batteryInRange_new
  nominal := rfl
  tick := rfl

/-- A tick of the plant in range, with what vehicle and battery do in exact arithmetic. -/
theorem Twins.advance {dtMs : UInt32} {s : MicrocarPlantSimple} {p : MicrocarPlant}
    (h : Twins dtMs s p) (hdt : dtMs.toNat ≤ 1000) :
    ∃ speed battery, p.advance = some { p with
        vehicle := { p.vehicle with speedKphX10 := speed }, battery := battery } ∧
      (speed.toNat : Int) = p.vehicle.speedKphX10.toNat +
        p.vehicle.effectiveTorque * dtMs.toNat / 100 -
          p.vehicle.speedKphX10.toNat * dtMs.toNat / 10000 ∧
      speed.toNat ≤ 11000 ∧
      BatteryTick p.battery p.vehicle.motorTorquePercent.toInt dtMs.toNat battery ∧
      BatteryInRange battery := by
  obtain ⟨speed, hvehicle, hspeed, hmax⟩ := VehiclePlant.step_eq h.vehicle hdt
  obtain ⟨battery, hbattery, htick, hrange⟩ :=
    BatteryModel.step_eq h.battery h.vehicle.torque_nonneg h.vehicle.torque_le hdt
  refine ⟨speed, battery, ?_, hspeed, hmax, htick, hrange⟩
  rw [MicrocarPlant.advance, h.tick, hvehicle, Option.bind_eq_bind, Option.bind_some, hbattery]
  rfl

/-- Where the torque of the plant is the replica's, a tick leaves equal readings. -/
theorem SameReadings.step {s : MicrocarPlantSimple} {p : MicrocarPlant} (h : SameReadings s p)
    {dt torque : Int} {speed : UInt16} {battery : BatteryModel} (htorque : s.motorTorque = torque)
    (hnonneg : 0 ≤ torque)
    (hnominal : s.nominalVoltageMv = p.battery.nominalVoltageMv.toNat)
    (hspeed : (speed.toNat : Int) = p.vehicle.speedKphX10.toNat + torque * dt / 100 -
      p.vehicle.speedKphX10.toNat * dt / 10000)
    (hbattery : BatteryTick p.battery torque dt battery) (hrange : BatteryInRange battery) :
    SameReadings (s.step dt) { p with
      vehicle := { p.vehicle with speedKphX10 := speed }, battery := battery } := by
  have habs : |torque| = torque := abs_of_nonneg hnonneg
  have hcurrent : |torque * 500| = torque * 500 := abs_of_nonneg (by omega)
  have hmilli : (s.step dt).socMilli = battery.socMilli := by
    rw [hbattery.socMilli, ← h.socMilli]
    simp only [MicrocarPlantSimple.step, htorque, habs]
    rw [Int.fdiv_eq_ediv_of_nonneg _ (by decide)]
    omega
  have hpercent : (s.step dt).socPercent = battery.socPercent.toNat := by
    have hmax := hrange.soc_le
    have heq : (s.step dt).socPercent = min 100 (((s.step dt).socMilli + 500).fdiv 1000) := rfl
    rw [heq, hbattery.socPercent, hmilli, Int.fdiv_eq_ediv_of_nonneg _ (by decide)]
    omega
  refine ⟨?_, hpercent, hmilli, ?_, ?_, ?_⟩
  · show (s.step dt).speedKphX10 = speed.toNat
    rw [← h.speed] at hspeed
    simp only [MicrocarPlantSimple.step, htorque]
    rw [Int.fdiv_eq_ediv_of_nonneg _ (by decide), Int.fdiv_eq_ediv_of_nonneg _ (by decide)]
    omega
  · show (s.step dt).tempCX10 = battery.tempCX10.toInt
    rw [hbattery.temp, ← h.temp]
    simp only [MicrocarPlantSimple.step, htorque, habs]
    rw [Int.fdiv_eq_ediv_of_nonneg _ (by decide), Int.fdiv_eq_ediv_of_nonneg _ (by decide),
      Int.fdiv_eq_ediv_of_nonneg _ (by decide), max_comm 0, max_comm 200]
  · have heq : (s.step dt).voltageMv = max 0 ((s.nominalVoltageMv * (s.step dt).socPercent).fdiv 100
        - |(s.step dt).currentMa|.fdiv 10) := rfl
    have hcurrent' : (s.step dt).currentMa = torque * 500 := by
      simp only [MicrocarPlantSimple.step, htorque, habs]
    show (s.step dt).voltageMv = battery.voltageMv.toNat
    rw [heq, hbattery.voltage, hpercent, hcurrent', hcurrent, hnominal,
      Int.fdiv_eq_ediv_of_nonneg _ (by decide), Int.fdiv_eq_ediv_of_nonneg _ (by decide), max_comm]
  · show (s.step dt).currentMa = battery.currentMa.toInt
    rw [hbattery.current]
    simp only [MicrocarPlantSimple.step, htorque, habs]

/-- A tick of related plants leaves equal readings exactly when it does not pass under brake
and throttle. -/
theorem Twins.step_iff {dtMs : UInt32} {s : MicrocarPlantSimple} {p : MicrocarPlant}
    (h : Twins dtMs s p) {speed : UInt16} {battery : BatteryModel}
    (hspeed : (speed.toNat : Int) = p.vehicle.speedKphX10.toNat +
      p.vehicle.effectiveTorque * dtMs.toNat / 100 -
        p.vehicle.speedKphX10.toNat * dtMs.toNat / 10000)
    (hbattery : BatteryTick p.battery p.vehicle.motorTorquePercent.toInt dtMs.toNat battery)
    (hrange : BatteryInRange battery) :
    SameReadings (s.step dtMs.toNat) { p with
        vehicle := { p.vehicle with speedKphX10 := speed }, battery := battery } ↔
      ¬ BrakesUnderThrottle s .step := by
  have hnonneg := h.vehicle.torque_nonneg
  by_cases hbrake : p.vehicle.brakePressed = true ∧ 0 < p.vehicle.motorTorquePercent.toInt
  · have heffective : p.vehicle.effectiveTorque = 0 := if_pos hbrake.1
    refine iff_of_false (fun hsame => ?_) (fun hnot => hnot ⟨rfl, ?_, ?_⟩)
    · have hcurrent : |s.motorTorque| * 500 = battery.currentMa.toInt := hsame.current
      rw [hbattery.current, h.torque, heffective] at hcurrent
      have hpositive := hbrake.2
      simp only [abs_zero] at hcurrent
      omega
    · rw [h.brake]
      exact hbrake.1
    · rw [h.throttle]
      exact hbrake.2
  · have heffective : p.vehicle.effectiveTorque = p.vehicle.motorTorquePercent.toInt := by
      unfold VehiclePlant.effectiveTorque
      split
      · rename_i hpressed
        have hzero : ¬ 0 < p.vehicle.motorTorquePercent.toInt := fun hpos => hbrake ⟨hpressed, hpos⟩
        omega
      · rfl
    refine iff_of_true ?_ fun hboth => hbrake ?_
    · rw [heffective] at hspeed
      exact h.same.step (h.torque.trans heffective) hnonneg h.nominal hspeed hbattery hrange
    · rw [← h.brake, ← h.throttle]
      exact hboth.2

/-- A tick of related plants that leaves equal readings keeps them related. -/
theorem Twins.step {dtMs : UInt32} {s : MicrocarPlantSimple} {p : MicrocarPlant}
    (h : Twins dtMs s p) {speed : UInt16} {battery : BatteryModel} {torque dt : Int}
    (hmax : speed.toNat ≤ 11000) (hbattery : BatteryTick p.battery torque dt battery)
    (hrange : BatteryInRange battery)
    (hsame : SameReadings (s.step dtMs.toNat) { p with
      vehicle := { p.vehicle with speedKphX10 := speed }, battery := battery }) :
    Twins dtMs (s.step dtMs.toNat) { p with
      vehicle := { p.vehicle with speedKphX10 := speed }, battery := battery } where
  same := hsame
  throttle := h.throttle
  brake := h.brake
  torque := h.torque
  vehicle := ⟨hmax, h.vehicle.torque_nonneg, h.vehicle.torque_le⟩
  battery := hrange
  nominal := by
    show s.nominalVoltageMv = battery.nominalVoltageMv.toNat
    rw [hbattery.nominal, h.nominal]
  tick := h.tick

/-- One event of related plants: they agree exactly when it is no tick under brake and
throttle. -/
theorem Twins.agrees_iff {dtMs : UInt32} (hdt : dtMs.toNat ≤ 1000) (s : MicrocarPlantSimple)
    (p : MicrocarPlant) (e : PlantEvent) (h : Twins dtMs s p) :
    Core.StepAgrees (replicaStep dtMs) plantStep SameReadings s p e ↔
      ¬ BrakesUnderThrottle s e := by
  cases e with
  | input d =>
    refine iff_of_true ⟨_, rfl, (h.input d).same⟩ ?_
    rintro ⟨hstep, -⟩
    exact absurd hstep (by simp)
  | step =>
    obtain ⟨speed, battery, hadvance, hspeed, -, hbattery, hrange⟩ := h.advance hdt
    rw [← h.step_iff hspeed hbattery hrange]
    constructor
    · rintro ⟨p', hstep, hsame⟩
      simp only [plantStep, hadvance, Option.map_some, Option.some.injEq, Prod.mk.injEq,
        and_true] at hstep
      exact hstep ▸ hsame
    · intro hsame
      refine ⟨_, ?_, hsame⟩
      rw [plantStep, hadvance]
      rfl

/-- Related plants that agree behind an event are related behind it. -/
theorem Twins.next {dtMs : UInt32} (hdt : dtMs.toNat ≤ 1000) (s : MicrocarPlantSimple)
    (p : MicrocarPlant) (e : PlantEvent) (p' : MicrocarPlant) (h : Twins dtMs s p)
    (hstep : plantStep p e = some (p', (replicaStep dtMs s e).2))
    (hsame : SameReadings (replicaStep dtMs s e).1 p') :
    Twins dtMs (replicaStep dtMs s e).1 p' := by
  cases e with
  | input d =>
    simp only [plantStep, Option.some.injEq, Prod.mk.injEq, and_true] at hstep
    exact hstep ▸ h.input d
  | step =>
    obtain ⟨speed, battery, hadvance, -, hmax, hbattery, hrange⟩ := h.advance hdt
    simp only [plantStep, hadvance, Option.map_some, Option.some.injEq, Prod.mk.injEq,
      and_true] at hstep
    subst hstep
    exact h.step hmax hbattery hrange hsame

/-- For every tick of one to a thousand milliseconds and every history of inputs and ticks, the
replica and the plant have equal readings behind every event, and the plant never overflows,
exactly when no tick passes under brake and throttle. -/
theorem replica_equals_plant_iff {dtMs : UInt32} (hdt : 1 ≤ dtMs.toNat ∧ dtMs.toNat ≤ 1000)
    (evs : List PlantEvent) :
    Core.Lockstep (replicaStep dtMs) plantStep SameReadings .new (.new dtMs) evs ↔
      Core.StepsMeet (fun s e => (replicaStep dtMs s e).1)
        (fun s e => ¬ BrakesUnderThrottle s e) .new evs :=
  Core.lockstep_iff (Twins.agrees_iff hdt.2) (Twins.next hdt.2) (twins_new dtMs) evs

/-- Full throttle without brake. -/
def fullThrottle : DriverInput := ⟨100, false, by decide⟩

/-- Full throttle under the brake. -/
def brakedThrottle : DriverInput := ⟨100, true, by decide⟩

/-- An acceleration at the default tick runs in lockstep. -/
theorem replica_equals_plant_accelerating :
    Core.Lockstep (replicaStep 10) plantStep SameReadings .new (.new 10)
      [.input fullThrottle, .step, .step] := by
  refine (replica_equals_plant_iff ⟨by decide, by decide⟩ _).mpr ⟨?_, ?_, ?_, trivial⟩
  · exact fun h => absurd h.1 (by simp)
  · exact fun h => absurd h.2.1 (by decide)
  · exact fun h => absurd h.2.1 (by decide)

/-- Under brake and throttle the replica draws no current and the plant draws fifty amps. -/
theorem replica_differs_under_brake :
    ¬ Core.Lockstep (replicaStep 10) plantStep SameReadings .new (.new 10)
      [.input brakedThrottle, .step] := by
  rintro ⟨p, hinput, -, p', hstep, hsame, -⟩
  have hp : (MicrocarPlant.new 10).applyInput 100 true = p :=
    congrArg Prod.fst (Option.some.inj hinput)
  have hcurrent : (plantStep ((MicrocarPlant.new 10).applyInput 100 true) .step).map
      (·.1.battery.currentMa) = some 50000 := by decide +kernel
  rw [hp, hstep, Option.map_some, Option.some.injEq] at hcurrent
  have hreplica : (0 : Int) = p'.battery.currentMa.toInt := hsame.current
  rw [hcurrent] at hreplica
  exact absurd hreplica (by decide)

end Microcar.Plant
