import Microcar.Core.Checked

/-!
# Vehicle and battery of the plant

The integer models that the plant advances by one tick: speed from torque and drag, and
state of charge, temperature and voltage of the pack from its current. An operation that
overflows stops the plant, which is the missing value; casts wrap and divisions truncate.
-/

namespace Microcar.Plant

/-- Vehicle dynamics, `VehiclePlant`. -/
structure VehiclePlant where
  /-- Speed in 0.1 km/h. -/
  speedKphX10 : UInt16
  /-- Throttle percent of the last driver input. -/
  throttlePercent : UInt8
  /-- Brake of the last driver input. -/
  brakePressed : Bool
  /-- Motor torque percent, negative for regeneration. -/
  motorTorquePercent : Int8
  deriving DecidableEq, Repr

/-- The vehicle at rest, `VehiclePlant::new`. -/
def VehiclePlant.new : VehiclePlant := ⟨0, 0, false, 0⟩

/-- Torque that accelerates the vehicle: the brake wins over the motor, `effective_torque`. -/
def VehiclePlant.effectiveTorque (v : VehiclePlant) : Int :=
  if v.brakePressed then 0 else v.motorTorquePercent.toInt

/-- Advance the vehicle by one tick, `VehiclePlant::step`. -/
def VehiclePlant.step (v : VehiclePlant) (dtMs : UInt32) : Option VehiclePlant := do
  let speed : Int := v.speedKphX10.toNat
  let dt := dtMs.toInt32.toInt
  let delta := (← Core.checkedInt 32 (v.effectiveTorque * dt)).tdiv 100
  let drag := (← Core.checkedInt 32 (speed * dt)).tdiv 10000
  let newSpeed := max (Core.saturateInt 32 (Core.saturateInt 32 (speed + delta) - drag)) 0
  return { v with speedKphX10 := .ofNat newSpeed.toNat }

/-- Store the inputs of the driver, `VehiclePlant::set_driver_input`. -/
def VehiclePlant.setDriverInput (v : VehiclePlant) (throttlePercent : UInt8)
    (brakePressed : Bool) : VehiclePlant :=
  { v with throttlePercent := throttlePercent, brakePressed := brakePressed }

/-- Store the motor torque, `VehiclePlant::set_motor_torque`. -/
def VehiclePlant.setMotorTorque (v : VehiclePlant) (torquePercent : Int8) : VehiclePlant :=
  { v with motorTorquePercent := torquePercent }

/-- The battery pack, `BatteryModel`. -/
structure BatteryModel where
  /-- State of charge in percent. -/
  socPercent : UInt8
  /-- State of charge in milli-percent. -/
  socMilli : Int
  /-- Pack temperature in 0.1 °C. -/
  tempCX10 : Int16
  /-- Pack voltage in millivolts. -/
  voltageMv : UInt16
  /-- Pack current in milliamps, positive for discharge. -/
  currentMa : Int32
  /-- Nominal voltage in millivolts. -/
  nominalVoltageMv : UInt16
  deriving DecidableEq, Repr

/-- The battery in its default state, `BatteryModel::new`. -/
def BatteryModel.new : BatteryModel := ⟨80, 80000, 250, 48000, 0, 48000⟩

/-- Voltage from state of charge and current, `BatteryModel::calc_voltage`; the difference
saturates at zero. -/
def BatteryModel.calcVoltage (b : BatteryModel) : UInt16 :=
  let sag := b.currentMa.toInt.natAbs / 10
  .ofNat (b.nominalVoltageMv.toNat * b.socPercent.toNat / 100 - sag)

/-- Capacity of the pack in milliamp hours, `capacity_mah`. -/
def capacityMah : Int := 50000

/-- Charge that a current moves in a tick, in milli-percent of the capacity. -/
def socDeltaMilli (currentMa dt : Int) : Option Int := do
  let charge ← Core.checkedInt 64 ((← Core.checkedInt 64 (currentMa * dt)) * 1000)
  return charge.tdiv (3600 * capacityMah)

/-- State of charge in percent, rounded from milli-percent. -/
def socPercentOf (socMilli : Int) : Option UInt8 := do
  let rounded := (← Core.checkedInt 64 (socMilli + 500)).tdiv 1000
  return .ofNat (min rounded 100).toNat

/-- Temperature behind a tick: heating by the squared current in amps against the passive
cooling above ambient, with a floor of 20 °C. -/
def heatedTemp (tempCX10 : Int16) (iAmps dt : Int) : Option Int16 := do
  let temp := tempCX10.toInt
  let square ← Core.checkedInt 64 (iAmps * iAmps)
  let heatRise := (← Core.checkedInt 64 (square * dt)).tdiv 25000
  let aboveAmbient := max (temp - 250) 0
  let cooling := (← Core.checkedInt 64 (aboveAmbient * dt)).tdiv 100000
  let newTemp := max (Core.saturateInt 64 (Core.saturateInt 64 (temp + heatRise) - cooling)) 200
  return .ofInt newTemp

/-- The battery behind a tick: the new quantities, and the voltage that follows from them. -/
def BatteryModel.settle (b : BatteryModel) (currentMa : Int32) (socMilli : Int)
    (socPercent : UInt8) (tempCX10 : Int16) : BatteryModel :=
  let settled := { b with
    currentMa := currentMa
    socMilli := socMilli
    socPercent := socPercent
    tempCX10 := tempCX10 }
  { settled with voltageMv := settled.calcVoltage }

/-- Advance the battery by one tick under a motor torque, `BatteryModel::step`. -/
def BatteryModel.step (b : BatteryModel) (torquePercent : Int8) (dtMs : UInt32) :
    Option BatteryModel := do
  let dt : Int := dtMs.toNat
  let currentMa : Int := torquePercent.toInt.natAbs * 500
  let socMilli := max (Core.saturateInt 64 (b.socMilli - (← socDeltaMilli currentMa dt))) 0
  let socPercent ← socPercentOf socMilli
  let tempCX10 ← heatedTemp b.tempCX10 (currentMa.tdiv 1000) dt
  return b.settle (.ofInt currentMa) socMilli socPercent tempCX10

/-- Advance the battery by one tick under a signed current,
`BatteryModel::step_with_current`. -/
def BatteryModel.stepWithCurrent (b : BatteryModel) (currentMa : Int32) (dtMs : UInt32) :
    Option BatteryModel := do
  let dt : Int := dtMs.toNat
  let current := currentMa.toInt
  let socMilli ← Core.checkedInt 64 (b.socMilli - (← socDeltaMilli current dt))
  let socMilli := max 0 (min socMilli 100000)
  let socPercent ← socPercentOf socMilli
  let tempCX10 ← heatedTemp b.tempCX10 ((current.natAbs : Int).tdiv 1000) dt
  return b.settle currentMa socMilli socPercent tempCX10

/-- Current saturated for the payload, `BatteryModel::current_ma_i16`. -/
def BatteryModel.currentMaI16 (b : BatteryModel) : Int16 :=
  .ofInt (max (-32768) (min b.currentMa.toInt 32767))

/-- Vehicle and battery with the tick of the plant, `MicrocarPlant`. -/
structure MicrocarPlant where
  /-- Vehicle dynamics. -/
  vehicle : VehiclePlant
  /-- Battery pack. -/
  battery : BatteryModel
  /-- Tick in milliseconds. -/
  tickMs : UInt32
  deriving DecidableEq, Repr

/-- The plant at rest, `MicrocarPlant::new`. -/
def MicrocarPlant.new (tickMs : UInt32) : MicrocarPlant := ⟨.new, .new, tickMs⟩

/-- Apply a due driver input; the throttle is mapped to the motor torque. -/
def MicrocarPlant.applyInput (p : MicrocarPlant) (throttlePercent : UInt8)
    (brakePressed : Bool) : MicrocarPlant :=
  let vehicle := p.vehicle.setDriverInput throttlePercent brakePressed
  { p with vehicle := vehicle.setMotorTorque throttlePercent.toInt8 }

/-- Advance vehicle and battery by one tick, the middle part of `do_step`. -/
def MicrocarPlant.advance (p : MicrocarPlant) : Option MicrocarPlant := do
  let vehicle ← p.vehicle.step p.tickMs
  let battery ← p.battery.step vehicle.motorTorquePercent p.tickMs
  return { p with vehicle := vehicle, battery := battery }

/-- What the plant publishes of its state, `SensorReadings`. -/
structure SensorReadings where
  /-- Wheel speed in 0.1 km/h. -/
  wheelSpeedKphX10 : UInt16
  /-- Pack voltage in millivolts. -/
  packVoltageMv : UInt16
  /-- Pack current in milliamps. -/
  packCurrentMa : Int16
  /-- Pack temperature in 0.1 °C. -/
  packTempCX10 : Int16
  /-- State of charge in percent. -/
  socPercent : UInt8
  deriving DecidableEq, Repr

/-- The readings of vehicle and battery, `SensorReadings::from_plant`. -/
def SensorReadings.fromPlant (vehicle : VehiclePlant) (battery : BatteryModel) :
    SensorReadings where
  wheelSpeedKphX10 := vehicle.speedKphX10
  packVoltageMv := battery.voltageMv
  packCurrentMa := battery.currentMaI16
  packTempCX10 := battery.tempCX10
  socPercent := battery.socPercent

end Microcar.Plant
