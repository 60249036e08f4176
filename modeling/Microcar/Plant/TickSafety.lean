import Mathlib.Tactic.Ring
import Microcar.Core.Run
import Microcar.Plant.Replica

/-!
# Which ticks keep the plant in range

Speed settles where drag meets the push of a tick, and temperature where cooling meets heating.
With the default tick both stay far inside their types for every throttle byte and every
injected temperature. With other ticks a percentage of throttle is safe up to the tick at which
one step already reaches a speed whose product with the tick overflows.
-/

namespace Microcar.Plant

/-! ### Equilibria -/

/-- Speed stays below the larger of its equilibrium and the push of one tick. -/
theorem speed_le_equilibrium (speed : Int) {torque : Int} (dt : Int) (hspeed : 0 ≤ speed)
    (hmax : speed ≤ max 10000 dt) (htorquemax : torque ≤ 100) (hdt : 0 ≤ dt) :
    speed + torque * dt / 100 - speed * dt / 10000 ≤ max 10000 dt := by
  have hpush : torque * dt ≤ 100 * dt := Int.mul_le_mul_of_nonneg_right htorquemax hdt
  by_cases hslow : dt ≤ 10000
  · -- below the equilibrium the missing drag is at most the missing speed
    have hgap : 0 ≤ (10000 - speed) * (10000 - dt) := Int.mul_nonneg (by omega) (by omega)
    have hexpand : (10000 - speed) * (10000 - dt) =
        100000000 - 10000 * speed - 10000 * dt + speed * dt := by ring
    omega
  · have hdrag : speed * 10000 ≤ speed * dt := Int.mul_le_mul_of_nonneg_left (by omega) hspeed
    omega

/-- Temperature stays below its equilibrium at the heaviest current. -/
theorem temp_le_equilibrium {temp : Int} (amps dt : Int) (htemp : temp ≤ 10250) (hamps : 0 ≤ amps)
    (hampsmax : amps ≤ 50) (hdt : 0 ≤ dt) (hdtmax : dt ≤ 100000) :
    temp + amps * amps * dt / 25000 - max (temp - 250) 0 * dt / 100000 ≤ 10250 := by
  obtain ⟨hsquare, hsquaremax⟩ := mul_bounds hamps hampsmax hamps hampsmax
  obtain ⟨-, hheatmax⟩ := mul_bounds hsquare hsquaremax hdt (Int.le_refl dt)
  by_cases hwarm : 250 ≤ temp
  · have habove : max (temp - 250) 0 = temp - 250 := by omega
    have hgap : 0 ≤ (10250 - temp) * (100000 - dt) := Int.mul_nonneg (by omega) (by omega)
    have hexpand : (10250 - temp) * (100000 - dt) =
        1000000000 - 100000 * (temp - 250) - 10000 * dt + (temp - 250) * dt := by ring
    rw [habove]
    omega
  · have habove : max (temp - 250) 0 = 0 := by omega
    rw [habove]
    omega

/-! ### The default tick -/

/-- A call of the plant: a driver input takes effect, a temperature fault is injected or a tick
passes. -/
inductive PlantCall where
  /-- A driver input with any throttle byte. -/
  | input (throttlePercent : UInt8) (brakePressed : Bool)
  /-- The temperature that `force_temperature` stores. -/
  | forceTemperature (tempCX10 : Int16)
  /-- One tick. -/
  | step
  deriving DecidableEq

/-- The call injects a temperature. -/
def PlantCall.isFault : PlantCall → Bool
  | .forceTemperature _ => true
  | _ => false

/-- Store an injected temperature, `BatteryModel::force_temperature`; the product of degrees and
ten is already saturated to its type. -/
def BatteryModel.forceTemperature (b : BatteryModel) (tempCX10 : Int16) : BatteryModel :=
  { b with tempCX10 := tempCX10 }

/-- The plant under a call. -/
def plantCall (p : MicrocarPlant) : PlantCall → Option MicrocarPlant
  | .input throttlePercent brakePressed => some (p.applyInput throttlePercent brakePressed)
  | .forceTemperature tempCX10 => some { p with battery := p.battery.forceTemperature tempCX10 }
  | .step => p.advance

/-- The plant with exact casts under a call. -/
def plantCallExact (p : MicrocarPlant) : PlantCall → Option MicrocarPlant
  | .step => p.advanceExact
  | call => plantCall p call

/-- A call that does not stop with exact casts is the call of the plant. -/
theorem plantCall_of_exact (p : MicrocarPlant) (call : PlantCall) (p' : MicrocarPlant)
    (h : plantCallExact p call = some p') : plantCall p call = some p' := by
  cases call with
  | input throttlePercent brakePressed => exact h
  | forceTemperature tempCX10 => exact h
  | step => exact MicrocarPlant.advance_of_advanceExact h

/-- Ranges of the plant with the default tick. -/
structure DefaultTickRange (p : MicrocarPlant) : Prop where
  /-- The tick is ten milliseconds. -/
  tick : p.tickMs = 10
  /-- Speed settles at 1200 km/h. -/
  speed : p.vehicle.speedKphX10.toNat ≤ 12000
  /-- The charge is not negative. -/
  soc_nonneg : 0 ≤ p.battery.socMilli
  /-- The charge is at most the capacity. -/
  soc_le : p.battery.socMilli ≤ 100000
  /-- The percentage is the rounded charge. -/
  socPercent : (p.battery.socPercent.toNat : Int) = (p.battery.socMilli + 500) / 1000
  /-- The nominal voltage is fixed. -/
  nominal : p.battery.nominalVoltageMv = 48000
  /-- The voltage is at most the nominal one. -/
  voltage : p.battery.voltageMv.toNat ≤ 48000

theorem defaultTickRange_new : DefaultTickRange (.new 10) :=
  ⟨rfl, by decide, by decide, by decide, by decide, rfl, by decide⟩

/-- What a default tick does to a plant in range. -/
structure DefaultTick (p p' : MicrocarPlant) : Prop where
  /-- The plant stays in range. -/
  range : DefaultTickRange p'
  /-- The charge does not grow. -/
  soc : p'.battery.socMilli ≤ p.battery.socMilli
  /-- The temperature has a floor. -/
  temp_ge : 200 ≤ p'.battery.tempCX10.toInt
  /-- The temperature does not pass its equilibrium. -/
  temp_le : p.battery.tempCX10.toInt ≤ 10250 → p'.battery.tempCX10.toInt ≤ 10250

/-- The vehicle behind a default tick. -/
theorem VehiclePlant.stepExact_default {v : VehiclePlant} (h : v.speedKphX10.toNat ≤ 12000) :
    ∃ speed : UInt16, v.stepExact 10 = some { v with speedKphX10 := speed } ∧
      speed.toNat ≤ 12000 := by
  have htorque : -128 ≤ v.effectiveTorque ∧ v.effectiveTorque ≤ 127 := by
    unfold VehiclePlant.effectiveTorque
    split
    · decide
    · exact ⟨v.motorTorquePercent.le_toInt, Int.le_of_lt_add_one v.motorTorquePercent.toInt_lt⟩
  have hdt : ((10 : UInt32).toNat : Int) = 10 := rfl
  have hdelta : (v.effectiveTorque * 10).tdiv 100 ≤ 12 := by grind
  obtain ⟨speed, hstep, hvalue⟩ := VehiclePlant.stepExact_eq v 10 (by decide)
    (by rw [hdt]; omega) (by rw [hdt]; omega) (by rw [hdt]; omega) (by rw [hdt]; omega)
  rw [hdt] at hvalue
  exact ⟨speed, hstep, by omega⟩

/-- A default tick keeps the plant in range. -/
theorem MicrocarPlant.advanceExact_default {p : MicrocarPlant} (h : DefaultTickRange p) :
    ∃ p', p.advanceExact = some p' ∧ DefaultTick p p' := by
  obtain ⟨speed, hvehicle, hspeed⟩ := VehiclePlant.stepExact_default h.speed
  have hlow := p.vehicle.motorTorquePercent.le_toInt
  have hhigh := p.vehicle.motorTorquePercent.toInt_lt
  have htemp := p.battery.tempCX10.le_toInt
  have htempmax := p.battery.tempCX10.toInt_lt
  have hdt : ((10 : UInt32).toNat : Int) = 10 := rfl
  generalize hpush : (p.vehicle.motorTorquePercent.toInt.natAbs : Int) = push
  have hpushmax : 0 ≤ push ∧ push ≤ 128 := by omega
  obtain ⟨hsquare, hsquaremax⟩ := mul_bounds (a := push * 500 / 1000) (m := 64)
    (b := push * 500 / 1000) (n := 64) (by omega) (by omega) (by omega) (by omega)
  obtain ⟨battery, hbattery, htick⟩ := BatteryModel.stepExact_eq h.soc_nonneg h.soc_le
    p.vehicle.motorTorquePercent 10 (by rw [hpush, hdt]; omega)
  rw [hpush, hdt] at htick
  have hsoc := htick.socMilli
  have hmilli := h.soc_nonneg
  have hmillimax := h.soc_le
  have hnominal : p.battery.nominalVoltageMv.toNat = 48000 := congrArg UInt16.toNat h.nominal
  have hpercent := htick.socPercent
  have hproduct : (48000 : Int) * battery.socPercent.toNat ≤ 48000 * 100 := by omega
  have hvoltage := htick.voltage
  have htemp' := htick.temp
  refine ⟨{ p with vehicle := { p.vehicle with speedKphX10 := speed }, battery := battery }, ?_,
    ⟨⟨h.tick, hspeed, ?_, ?_, hpercent, htick.nominal.trans h.nominal, ?_⟩, ?_, ?_, ?_⟩⟩
  · exact MicrocarPlant.advanceExact_eq (by rw [h.tick, hvehicle]) (by rw [h.tick]; exact hbattery)
  · show 0 ≤ battery.socMilli
    omega
  · show battery.socMilli ≤ 100000
    omega
  · show battery.voltageMv.toNat ≤ 48000
    rw [hnominal] at hvoltage
    omega
  · show battery.socMilli ≤ p.battery.socMilli
    omega
  · show 200 ≤ battery.tempCX10.toInt
    omega
  · intro hcool
    show battery.tempCX10.toInt ≤ 10250
    omega

/-- What holds of the plant behind a sequence of calls from a plant in range. -/
structure DefaultTickHistory (start : MicrocarPlant) (calls : List PlantCall)
    (p : MicrocarPlant) : Prop where
  /-- The plant is in range. -/
  range : DefaultTickRange p
  /-- The charge has not grown. -/
  soc : p.battery.socMilli ≤ start.battery.socMilli
  /-- Behind a tick the temperature has a floor. -/
  temp_ge : ∀ before, calls = before ++ [.step] → 200 ≤ p.battery.tempCX10.toInt
  /-- Without a fault the temperature does not pass its equilibrium. -/
  temp_le : start.battery.tempCX10.toInt ≤ 10250 → (∀ call ∈ calls, call.isFault = false) →
    p.battery.tempCX10.toInt ≤ 10250

/-- Every call extends the history, and none stops. -/
theorem DefaultTickHistory.next {start p : MicrocarPlant} {calls : List PlantCall}
    (h : DefaultTickHistory start calls p) (call : PlantCall) :
    ∃ p', plantCallExact p call = some p' ∧ DefaultTickHistory start (calls ++ [call]) p' := by
  have hquiet : (∀ c ∈ calls ++ [call], c.isFault = false) → ∀ c ∈ calls, c.isFault = false :=
    fun hall c hc => hall c (List.mem_append_left _ hc)
  have hlast : call ≠ .step → ∀ before, calls ++ [call] ≠ before ++ [.step] := by
    intro hne before heq
    exact hne (List.append_inj_right' heq rfl |> List.head_eq_of_cons_eq)
  cases call with
  | input throttlePercent brakePressed =>
    refine ⟨p.applyInput throttlePercent brakePressed, rfl, ⟨?_, h.soc, ?_, ?_⟩⟩
    · exact ⟨h.range.tick, h.range.speed, h.range.soc_nonneg, h.range.soc_le, h.range.socPercent,
        h.range.nominal, h.range.voltage⟩
    · exact fun before heq => absurd heq (hlast nofun before)
    · exact fun hstart hall => h.temp_le hstart (hquiet hall)
  | forceTemperature tempCX10 =>
    refine ⟨{ p with battery := p.battery.forceTemperature tempCX10 }, rfl, ⟨?_, h.soc, ?_, ?_⟩⟩
    · exact ⟨h.range.tick, h.range.speed, h.range.soc_nonneg, h.range.soc_le, h.range.socPercent,
        h.range.nominal, h.range.voltage⟩
    · exact fun before heq => absurd heq (hlast nofun before)
    · exact fun _ hall => nomatch hall _ List.mem_concat_self
  | step =>
    obtain ⟨p', hstep, htick⟩ := MicrocarPlant.advanceExact_default h.range
    refine ⟨p', hstep, ⟨htick.range, Int.le_trans htick.soc h.soc, fun _ _ => htick.temp_ge, ?_⟩⟩
    exact fun hstart hall => htick.temp_le (h.temp_le hstart (hquiet hall))

/-- The history of a plant in range, from any such plant. -/
theorem defaultTickHistory_run {start : MicrocarPlant} (h : DefaultTickRange start)
    (calls : List PlantCall) :
    ∃ p, Core.runPartial plantCallExact start calls = some p ∧
      DefaultTickHistory start calls p := by
  refine Core.runPartial_history_invariant ?_ (fun _ _ call hp => hp.next call) calls
  exact ⟨h, Int.le_refl _, fun before heq => absurd heq (by simp), fun hstart _ => hstart⟩

/-- With the default tick, no sequence of driver inputs, temperature faults and ticks overflows
or changes a value in a cast, and all quantities stay in range. -/
theorem defaultTick_stays_in_range (calls : List PlantCall) :
    ∃ p, Core.runPartial plantCallExact (.new 10) calls = some p ∧
      Core.runPartial plantCall (.new 10) calls = some p ∧
      p.vehicle.speedKphX10.toNat ≤ 12000 ∧
      (∀ before, calls = before ++ [.step] → 200 ≤ p.battery.tempCX10.toInt) ∧
      ((∀ call ∈ calls, call.isFault = false) → p.battery.tempCX10.toInt ≤ 10250) ∧
      p.battery.socPercent.toNat ≤ 100 ∧
      (∀ before after q, calls = before ++ after →
        Core.runPartial plantCall (.new 10) before = some q →
          p.battery.socPercent.toNat ≤ q.battery.socPercent.toNat) ∧
      p.battery.voltageMv.toNat ≤ 48000 := by
  obtain ⟨p, hrun, h⟩ := defaultTickHistory_run defaultTickRange_new calls
  have hsoc := h.range.socPercent
  have hmax := h.range.soc_le
  refine ⟨p, hrun, Core.runPartial_of_imp plantCall_of_exact hrun, h.range.speed, h.temp_ge,
    h.temp_le (by decide), by omega, ?_, h.range.voltage⟩
  rintro before after q rfl hq
  obtain ⟨mid, hmid, hbefore⟩ := defaultTickHistory_run defaultTickRange_new before
  obtain rfl : mid = q := Option.some.inj
    ((Core.runPartial_of_imp plantCall_of_exact hmid).symm.trans hq)
  obtain ⟨p', hrest, hafter⟩ := defaultTickHistory_run hbefore.range after
  rw [Core.runPartial_append, hmid, Option.bind_some, hrest] at hrun
  obtain rfl : p' = p := Option.some.inj hrun
  have hsocMid := hbefore.range.socPercent
  have hless := hafter.soc
  omega

/-! ### Any tick -/

/-- The plant that `main` attaches for a tick of the scenario. -/
def plantOfScenario (tickMs : UInt64) : MicrocarPlant := .new tickMs.toUInt32

/-- The same with an exact cast. -/
def plantOfScenarioExact (tickMs : UInt64) : Option MicrocarPlant := do
  let tick ← Core.checkedNat 32 tickMs.toNat
  return .new (.ofNat tick)

/-- The plant under an event. -/
def plantEvent (p : MicrocarPlant) : PlantEvent → Option MicrocarPlant
  | .input d => some (p.applyInput d.throttlePercent d.brakePressed)
  | .step => p.advance

/-- The plant with exact casts under an event. -/
def plantEventExact (p : MicrocarPlant) : PlantEvent → Option MicrocarPlant
  | .input d => some (p.applyInput d.throttlePercent d.brakePressed)
  | .step => p.advanceExact

/-- A run of the plant for a tick of the scenario. -/
def scenarioRun (tickMs : UInt64) (evs : List PlantEvent) : Option MicrocarPlant :=
  Core.runPartial plantEvent (plantOfScenario tickMs) evs

/-- A run of the plant with exact casts for a tick of the scenario. -/
def scenarioRunExact (tickMs : UInt64) (evs : List PlantEvent) : Option MicrocarPlant := do
  let p ← plantOfScenarioExact tickMs
  Core.runPartial plantEventExact p evs

/-- A run that does not stop with exact casts is the run of the plant. -/
theorem scenarioRun_of_exact {tickMs : UInt64} {evs : List PlantEvent} {p : MicrocarPlant}
    (h : scenarioRunExact tickMs evs = some p) : scenarioRun tickMs evs = some p := by
  simp only [scenarioRunExact, plantOfScenarioExact, Option.bind_eq_bind, Option.bind_eq_some_iff,
    Option.pure_def, Option.some.injEq] at h
  obtain ⟨start, ⟨tick, htick, rfl⟩, hrun⟩ := h
  obtain ⟨rfl, -⟩ := Core.checkedNat_eq_some htick
  refine Core.runPartial_of_imp ?_ hrun
  intro q ev q' hq
  cases ev with
  | input d => exact hq
  | step => exact MicrocarPlant.advance_of_advanceExact hq

/-- The largest tick whose square fits the arithmetic of the vehicle. -/
def maxSafeTickMs : Nat := 46340

/-- Ranges of the plant with a tick that is safe. -/
structure SafeTickRange (tickMs : UInt32) (p : MicrocarPlant) : Prop where
  /-- The tick is the given one. -/
  tick : p.tickMs = tickMs
  /-- Speed stays below its equilibrium and the push of one tick. -/
  speed : p.vehicle.speedKphX10.toNat ≤ max 10000 tickMs.toNat
  /-- The torque does not regenerate. -/
  torque_nonneg : 0 ≤ p.vehicle.motorTorquePercent.toInt
  /-- The torque is a percentage. -/
  torque_le : p.vehicle.motorTorquePercent.toInt ≤ 100
  /-- The charge is not negative. -/
  soc_nonneg : 0 ≤ p.battery.socMilli
  /-- The charge is at most the capacity. -/
  soc_le : p.battery.socMilli ≤ 100000
  /-- The temperature does not pass its equilibrium. -/
  temp_le : p.battery.tempCX10.toInt ≤ 10250

/-- The vehicle behind a safe tick. -/
theorem VehiclePlant.stepExact_safe {tickMs : UInt32} (htick : tickMs.toNat ≤ maxSafeTickMs)
    {v : VehiclePlant} (hspeed : v.speedKphX10.toNat ≤ max 10000 tickMs.toNat)
    (htorque : 0 ≤ v.motorTorquePercent.toInt) (htorquemax : v.motorTorquePercent.toInt ≤ 100) :
    ∃ speed : UInt16, v.stepExact tickMs = some { v with speedKphX10 := speed } ∧
      speed.toNat ≤ max 10000 tickMs.toNat := by
  have hsafe : tickMs.toNat ≤ 46340 := htick
  obtain ⟨hpush, hpushmax⟩ := VehiclePlant.effectiveTorque_percent htorque htorquemax
  obtain ⟨hpushed, hpushedmax⟩ := mul_bounds (b := tickMs.toNat) (n := 46340) hpush hpushmax
    (Int.natCast_nonneg _) (by omega)
  obtain ⟨hdrag, hdragmax⟩ := mul_bounds (a := v.speedKphX10.toNat) (b := tickMs.toNat)
    (m := 46340) (n := 46340) (Int.natCast_nonneg _) (by omega) (Int.natCast_nonneg _) (by omega)
  have hequilibrium := speed_le_equilibrium v.speedKphX10.toNat tickMs.toNat
    (Int.natCast_nonneg _) (by omega) hpushmax (Int.natCast_nonneg _)
  obtain ⟨speed, hstep, hvalue⟩ := VehiclePlant.stepExact_eq v tickMs (by omega)
    (by omega) (by omega) (by omega) (by rw [Int.tdiv_eq_ediv_of_nonneg hpushed]; omega)
  rw [Int.tdiv_eq_ediv_of_nonneg hpushed] at hvalue
  exact ⟨speed, hstep, by omega⟩

/-- A safe tick keeps the plant in range. -/
theorem SafeTickRange.advanceExact {tickMs : UInt32} (htick : tickMs.toNat ≤ maxSafeTickMs)
    {p : MicrocarPlant} (h : SafeTickRange tickMs p) :
    ∃ p', p.advanceExact = some p' ∧ SafeTickRange tickMs p' := by
  have hsafe : tickMs.toNat ≤ 46340 := htick
  obtain ⟨speed, hvehicle, hspeed⟩ := VehiclePlant.stepExact_safe htick h.speed h.torque_nonneg
    h.torque_le
  have habs : (p.vehicle.motorTorquePercent.toInt.natAbs : Int) =
      p.vehicle.motorTorquePercent.toInt := Int.natAbs_of_nonneg h.torque_nonneg
  have htorque := h.torque_nonneg
  have htorquemax := h.torque_le
  have hequilibrium := temp_le_equilibrium (p.vehicle.motorTorquePercent.toInt * 500 / 1000)
    tickMs.toNat h.temp_le (by omega) (by omega) (Int.natCast_nonneg _) (by omega)
  obtain ⟨battery, hbattery, hstep⟩ := BatteryModel.stepExact_eq h.soc_nonneg h.soc_le
    p.vehicle.motorTorquePercent tickMs (by rw [habs]; omega)
  rw [habs] at hstep
  have hsoc := hstep.socMilli
  have hsocmax := h.soc_le
  have htemp := hstep.temp
  have hdrop : 0 ≤ p.vehicle.motorTorquePercent.toInt * 500 * tickMs.toNat :=
    Int.mul_nonneg (by omega) (Int.natCast_nonneg _)
  refine ⟨{ p with vehicle := { p.vehicle with speedKphX10 := speed }, battery := battery }, ?_,
    ⟨h.tick, hspeed, htorque, htorquemax, ?_, ?_, ?_⟩⟩
  · exact MicrocarPlant.advanceExact_eq (by rw [h.tick, hvehicle]) (by rw [h.tick]; exact hbattery)
  · show 0 ≤ battery.socMilli
    omega
  · show battery.socMilli ≤ 100000
    omega
  · show battery.tempCX10.toInt ≤ 10250
    omega

/-- A driver input keeps the plant in range. -/
theorem SafeTickRange.input {tickMs : UInt32} {p : MicrocarPlant} (h : SafeTickRange tickMs p)
    (d : DriverInput) :
    SafeTickRange tickMs (p.applyInput d.throttlePercent d.brakePressed) := by
  have htorque := d.toInt_torque
  have hle := d.throttle_le
  refine ⟨h.tick, h.speed, ?_, ?_, h.soc_nonneg, h.soc_le, h.temp_le⟩
  · show 0 ≤ d.throttlePercent.toInt8.toInt
    omega
  · show d.throttlePercent.toInt8.toInt ≤ 100
    omega

theorem safeTickRange_new (tickMs : UInt32) : SafeTickRange tickMs (.new tickMs) where
  tick := rfl
  speed := Nat.zero_le _
  torque_nonneg := vehicleInRange_new.torque_nonneg
  torque_le := vehicleInRange_new.torque_le
  soc_nonneg := batteryInRange_new.soc_nonneg
  soc_le := batteryInRange_new.soc_le
  temp_le := (by decide : BatteryModel.new.tempCX10.toInt ≤ 10250)

/-- No run stops with a safe tick. -/
theorem safeTick_run (tickMs : UInt32) (htick : tickMs.toNat ≤ maxSafeTickMs)
    (evs : List PlantEvent) :
    ∃ p, Core.runPartial plantEventExact (.new tickMs) evs = some p := by
  have hstep : ∀ (_ : List PlantEvent) (p : MicrocarPlant) (ev : PlantEvent),
      SafeTickRange tickMs p → ∃ p', plantEventExact p ev = some p' ∧ SafeTickRange tickMs p' := by
    intro _ p ev hp
    cases ev with
    | input d => exact ⟨_, rfl, hp.input d⟩
    | step => exact hp.advanceExact htick
  obtain ⟨p, hrun, -⟩ := Core.runPartial_history_invariant
    (R := fun _ p => SafeTickRange tickMs p) (safeTickRange_new tickMs) hstep evs
  exact ⟨p, hrun⟩

/-- What a step of the vehicle that does not stop has computed. -/
theorem VehiclePlant.stepExact_eq_some {v v' : VehiclePlant} {dtMs : UInt32}
    (h : v.stepExact dtMs = some v') :
    (v.speedKphX10.toNat : Int) * dtMs.toNat < 2147483648 ∧
      ∃ n : Nat, n < 65536 ∧ v' = { v with speedKphX10 := .ofNat n } ∧
        (n : Int) = max (Core.saturateInt 32 (Core.saturateInt 32 (v.speedKphX10.toNat +
          (v.effectiveTorque * dtMs.toNat).tdiv 100) -
            ((v.speedKphX10.toNat : Int) * dtMs.toNat).tdiv 10000)) 0 ∧
        v.effectiveTorque * dtMs.toNat < 2147483648 := by
  simp only [VehiclePlant.stepExact, Option.bind_eq_bind, Option.bind_eq_some_iff,
    Option.pure_def] at h
  obtain ⟨dt, hdt, push, hpush, drag, hdrag, n, hn, hv⟩ := h
  obtain ⟨rfl, -⟩ := Core.checkedInt_eq_some hdt
  obtain ⟨rfl, -, hpushmax⟩ := Core.checkedInt_eq_some hpush
  obtain ⟨rfl, -, hdragmax⟩ := Core.checkedInt_eq_some hdrag
  obtain ⟨hvalue, hlow, hhigh⟩ := Core.checkedNat_eq_some hn
  refine ⟨hdragmax, n, by omega, (Option.some.inj hv).symm, ?_, hpushmax⟩
  rw [hvalue, Int.toNat_of_nonneg hlow]

/-- From rest, a step at full throttle that does not stop reaches a speed equal to the tick. -/
theorem stepExact_from_rest {v v' : VehiclePlant} {dtMs : UInt32}
    (hspeed : v.speedKphX10 = 0) (htorque : v.effectiveTorque = 100)
    (h : v.stepExact dtMs = some v') : v'.speedKphX10.toNat = dtMs.toNat := by
  obtain ⟨-, n, hn, rfl, hvalue, hpush⟩ := VehiclePlant.stepExact_eq_some h
  have hzero : (v.speedKphX10.toNat : Int) = 0 := by rw [hspeed]; rfl
  rw [htorque] at hvalue hpush
  have hdelta : ((100 : Int) * dtMs.toNat).tdiv 100 = dtMs.toNat :=
    Int.mul_tdiv_cancel_left _ (by decide)
  rw [hzero, hdelta, Int.zero_mul, Int.zero_tdiv, Int.zero_add, Int.sub_zero,
    Core.saturateInt_32 (x := dtMs.toNat) (by omega) (by omega),
    Core.saturateInt_32 (by omega) (by omega)] at hvalue
  show (UInt16.ofNat n).toNat = dtMs.toNat
  rw [UInt16.toNat_ofNat_of_lt' hn]
  omega

/-- The vehicle of a step that does not stop. -/
theorem MicrocarPlant.stepExact_of_advanceExact {p p' : MicrocarPlant}
    (h : p.advanceExact = some p') :
    p.vehicle.stepExact p.tickMs = some p'.vehicle ∧ p'.tickMs = p.tickMs := by
  simp only [MicrocarPlant.advanceExact, Option.bind_eq_bind, Option.bind_eq_some_iff,
    Option.pure_def] at h
  obtain ⟨vehicle, hvehicle, battery, -, hp⟩ := h
  obtain rfl := Option.some.inj hp
  exact ⟨hvehicle, rfl⟩

/-- Two ticks at full throttle stop with every tick that is not safe. -/
theorem fullThrottle_stops {tickMs : UInt32} (htick : maxSafeTickMs < tickMs.toNat) :
    Core.runPartial plantEventExact (.new tickMs) [.input fullThrottle, .step, .step] = none := by
  have hunsafe : 46340 < tickMs.toNat := htick
  rw [Option.eq_none_iff_forall_not_mem]
  intro p hp
  rw [Core.runPartial_cons, plantEventExact, Option.bind_some, Core.runPartial_cons] at hp
  obtain ⟨p1, hfirst, hrest⟩ := Option.bind_eq_some_iff.mp hp
  rw [Core.runPartial_cons] at hrest
  obtain ⟨p2, hsecond, -⟩ := Option.bind_eq_some_iff.mp hrest
  obtain ⟨hstep, htick1⟩ := MicrocarPlant.stepExact_of_advanceExact hfirst
  obtain ⟨hstep', -⟩ := MicrocarPlant.stepExact_of_advanceExact hsecond
  have hspeed : p1.vehicle.speedKphX10.toNat = tickMs.toNat :=
    stepExact_from_rest rfl rfl hstep
  have htick2 : p1.tickMs = tickMs := htick1
  obtain ⟨hdrag, -⟩ := VehiclePlant.stepExact_eq_some hstep'
  rw [hspeed, htick2] at hdrag
  have hsquare : (46341 : Int) * 46341 ≤ tickMs.toNat * tickMs.toNat :=
    Int.mul_le_mul (by omega) (by omega) (by decide) (by omega)
  omega

/-- The ticks of a scenario that keep the plant from overflowing and from changing a value in a
cast, for every sequence of driver inputs with a percentage of throttle, are those up to the
largest safe one. -/
theorem tick_safe_iff (tickMs : UInt64) :
    (∀ evs : List PlantEvent, ∃ p, scenarioRunExact tickMs evs = some p ∧
        scenarioRun tickMs evs = some p) ↔ tickMs.toNat ≤ maxSafeTickMs := by
  constructor
  · intro hall
    obtain ⟨p, hp, -⟩ := hall [.input fullThrottle, .step, .step]
    simp only [scenarioRunExact, plantOfScenarioExact, Option.bind_eq_bind,
      Option.bind_eq_some_iff, Option.pure_def, Option.some.injEq] at hp
    obtain ⟨start, ⟨tick, htick, rfl⟩, hrun⟩ := hp
    obtain ⟨rfl, -, hfits⟩ := Core.checkedNat_eq_some htick
    have hword : (UInt32.ofNat (tickMs.toNat : Int).toNat).toNat = tickMs.toNat := by
      rw [Int.toNat_natCast, UInt32.toNat_ofNat']
      omega
    by_contra hunsafe
    rw [fullThrottle_stops (by rw [hword]; omega)] at hrun
    exact nomatch hrun
  · intro hsafe evs
    have hsmall : tickMs.toNat ≤ 46340 := hsafe
    have hcast : plantOfScenarioExact tickMs = some (.new (.ofNat tickMs.toNat)) := by
      rw [plantOfScenarioExact, Core.checkedNat, if_pos ⟨by omega, by omega⟩, Int.toNat_natCast]
      rfl
    have hword : (UInt32.ofNat tickMs.toNat).toNat = tickMs.toNat := by
      rw [UInt32.toNat_ofNat']
      omega
    obtain ⟨p, hrun⟩ := safeTick_run (.ofNat tickMs.toNat) (by rw [hword]; exact hsafe) evs
    have hexact : scenarioRunExact tickMs evs = some p := by
      rw [scenarioRunExact, hcast, Option.bind_eq_bind, Option.bind_some, hrun]
    exact ⟨p, hexact, scenarioRun_of_exact hexact⟩

/-- With a tick of 70 seconds, one tick at full throttle changes the speed in its cast: 70000
is stored as 4464. -/
theorem longTick_wraps_speed :
    ¬ (∃ p, scenarioRunExact 70000 [.input fullThrottle, .step] = some p) ∧
      (scenarioRun 70000 [.input fullThrottle, .step]).map (·.vehicle.speedKphX10) = some 4464 := by
  have hstops : scenarioRunExact 70000 [.input fullThrottle, .step] = none := by decide
  refine ⟨fun ⟨p, hp⟩ => ?_, by decide⟩
  rw [hstops] at hp
  exact nomatch hp

end Microcar.Plant
