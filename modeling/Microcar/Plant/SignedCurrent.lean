import Microcar.Core.Run
import Microcar.Plant.Exact

/-!
# The pack under a signed current

The battery has two step functions, one under a motor torque and one under a signed current.
Where the state of charge is in range they agree on the current that a torque draws, for every
tick. Under arbitrary currents the charge stays in range and follows the sign of the current;
the temperature is narrowed to 16 bits behind the heating, and wraps exactly where the heat of
a tick exceeds what is left below the largest `i16`.
-/

namespace Microcar.Plant

/-- Heating and cooling of a tick whose products fit. -/
theorem heatedTemp_eq (tempCX10 : Int16) {iAmps : Int} (dt : Int) (hsquare : 0 ≤ iAmps * iAmps)
    (hsquaremax : iAmps * iAmps ≤ 9000000000000000000) (hheat : 0 ≤ iAmps * iAmps * dt)
    (hheatmax : iAmps * iAmps * dt ≤ 9000000000000000000) (hdt : 0 ≤ dt)
    (hdtmax : dt < 4294967296) :
    heatedTemp tempCX10 iAmps dt = some (.ofInt (max (tempCX10.toInt +
      iAmps * iAmps * dt / 25000 - max (tempCX10.toInt - 250) 0 * dt / 100000) 200)) := by
  have hlow := tempCX10.le_toInt
  have hhigh := tempCX10.toInt_lt
  obtain ⟨hcool, hcoolmax⟩ := mul_bounds (a := max (tempCX10.toInt - 250) 0) (m := 32768)
    (by omega) (by omega) hdt (Int.le_of_lt hdtmax)
  have hchecked1 := Core.checkedInt_64 (x := iAmps * iAmps) (by omega) (by omega)
  have hchecked2 := Core.checkedInt_64 (x := iAmps * iAmps * dt) (by omega) (by omega)
  have hchecked3 := Core.checkedInt_64 (x := max (tempCX10.toInt - 250) 0 * dt) (by omega)
    (by omega)
  simp only [heatedTemp, hchecked1, hchecked2, hchecked3, Option.bind_eq_bind, Option.bind_some,
    Option.pure_def, Int.tdiv_eq_ediv_of_nonneg hheat, Int.tdiv_eq_ediv_of_nonneg hcool]
  rw [Core.saturateInt_64 (x := tempCX10.toInt + _) (by omega) (by omega),
    Core.saturateInt_64 (by omega) (by omega)]

/-- The rounded state of charge of a battery in range. -/
theorem socPercentOf_eq (socMilli : Int) (hlow : 0 ≤ socMilli) (hhigh : socMilli ≤ 100000) :
    ∃ soc, socPercentOf socMilli = some soc ∧ (soc.toNat : Int) = (socMilli + 500) / 1000 := by
  obtain ⟨soc, hexact, hpercent⟩ := socPercentOfExact_eq socMilli hlow hhigh
  exact ⟨soc, socPercentOf_of_exact hexact, hpercent⟩

/-- A tick under a signed current from its parts. -/
theorem BatteryModel.stepWithCurrent_eq {b : BatteryModel} {currentMa : Int32} {dtMs : UInt32}
    {drop : Int} {soc : UInt8} {temp : Int16}
    (hdelta : socDeltaMilli currentMa.toInt dtMs.toNat = some drop)
    (hlow : -9000000000000000000 ≤ b.socMilli - drop)
    (hhigh : b.socMilli - drop ≤ 9000000000000000000)
    (hsoc : socPercentOf (max 0 (min (b.socMilli - drop) 100000)) = some soc)
    (hheated : heatedTemp b.tempCX10 ((currentMa.toInt.natAbs : Int) / 1000) dtMs.toNat =
      some temp) :
    b.stepWithCurrent currentMa dtMs =
      some (b.settle currentMa (max 0 (min (b.socMilli - drop) 100000)) soc temp) := by
  simp only [BatteryModel.stepWithCurrent, hdelta, Option.bind_eq_bind, Option.bind_some]
  rw [Core.checkedInt_64 (by omega) (by omega), Option.bind_some, hsoc, Option.bind_some,
    Int.tdiv_eq_ediv_of_nonneg (Int.natCast_nonneg _), hheated, Option.bind_some,
    Option.pure_def]

/-! ### The two step functions -/

/-- No product of a tick overflows under the currents that a torque draws, however long the
tick. -/
theorem torqueTick_parts (tempCX10 : Int16) {current : Int} (hcurrent : 0 ≤ current)
    (hcurrentmax : current ≤ 64000) (dtMs : UInt32) :
    ∃ drop temp, socDeltaMilli current dtMs.toNat = some drop ∧ 0 ≤ drop ∧ drop ≤ 1600000000 ∧
      heatedTemp tempCX10 (current / 1000) dtMs.toNat = some temp := by
  have hdt : (dtMs.toNat : Int) < 4294967296 := by exact_mod_cast dtMs.toNat_lt
  obtain ⟨hcharge, hchargemax⟩ := mul_bounds hcurrent hcurrentmax (Int.natCast_nonneg dtMs.toNat)
    (Int.le_of_lt hdt)
  obtain ⟨hsquare, hsquaremax⟩ := mul_bounds (a := current / 1000) (b := current / 1000) (m := 64)
    (n := 64) (by omega) (by omega) (by omega) (by omega)
  obtain ⟨hheat, hheatmax⟩ := mul_bounds hsquare hsquaremax (Int.natCast_nonneg dtMs.toNat)
    (Int.le_of_lt hdt)
  exact ⟨_, _, socDeltaMilli_eq current dtMs.toNat hcurrent (Int.natCast_nonneg _) (by omega),
    by omega, by omega,
    heatedTemp_eq tempCX10 _ hsquare (by omega) hheat (by omega) (Int.natCast_nonneg _) hdt⟩

/-- A tick under a torque and one under the current it draws do not overflow and lead to the
same battery. -/
theorem batterySteps_agree {b : BatteryModel} (hlow : 0 ≤ b.socMilli) (hhigh : b.socMilli ≤ 100000)
    (torquePercent : Int8) (dtMs : UInt32) :
    ∃ b', b.step torquePercent dtMs = some b' ∧
      b.stepWithCurrent (.ofInt (500 * torquePercent.toInt.natAbs)) dtMs = some b' := by
  have htorque := torquePercent.le_toInt
  have htorquemax := torquePercent.toInt_lt
  have hnatAbs : (torquePercent.toInt.natAbs : Int) * 500 = 500 * torquePercent.toInt.natAbs :=
    Int.mul_comm _ _
  generalize hcurrent : (500 * torquePercent.toInt.natAbs : Int) = current at hnatAbs ⊢
  have hcurrent0 : 0 ≤ current := by omega
  have hcast : (Int32.ofInt current).toInt = current :=
    Int32.toInt_ofInt_of_le (by omega) (by omega)
  have habs : (current.natAbs : Int) = current := Int.natAbs_of_nonneg hcurrent0
  obtain ⟨drop, temp, hdelta, hdrop, hdropmax, hheated⟩ :=
    torqueTick_parts b.tempCX10 hcurrent0 (by omega) dtMs
  -- discharging cannot exceed the upper clamp, so both clamps agree
  have hclamped : max 0 (min (b.socMilli - drop) 100000) = max (b.socMilli - drop) 0 := by omega
  obtain ⟨soc, hsoc, -⟩ := socPercentOf_eq (max (b.socMilli - drop) 0) (by omega) (by omega)
  refine ⟨b.settle (.ofInt current) (max (b.socMilli - drop) 0) soc temp, ?_, ?_⟩
  · simp only [BatteryModel.step, hnatAbs, hdelta, Option.bind_eq_bind, Option.bind_some]
    rw [Core.saturateInt_64 (by omega) (by omega), hsoc, Option.bind_some,
      Int.tdiv_eq_ediv_of_nonneg hcurrent0, hheated, Option.bind_some, Option.pure_def]
  · rw [← hclamped] at hsoc ⊢
    refine BatteryModel.stepWithCurrent_eq ?_ (by omega) (by omega) hsoc ?_
    · rw [hcast]
      exact hdelta
    · rw [hcast, habs]
      exact hheated

/-- The extreme torque over the longest tick. -/
theorem batterySteps_agree_extreme :
    ∃ b', BatteryModel.new.step (-128) 4294967295 = some b' ∧
      BatteryModel.new.stepWithCurrent (.ofInt (500 * (-128 : Int8).toInt.natAbs)) 4294967295 =
        some b' :=
  batterySteps_agree (by decide) (by decide) (-128) 4294967295

/-! ### Ticks of 10 ms under any current -/

/-- The tick of 10 ms under a signed current. -/
def currentTick (b : BatteryModel) (currentMa : Int32) : Option BatteryModel :=
  b.stepWithCurrent currentMa 10

/-- Rise of the temperature in such a tick: a unit for each 2500 squared amperes. -/
def tickRise (currentMa : Int32) : Int :=
  (currentMa.toInt.natAbs : Int) / 1000 * ((currentMa.toInt.natAbs : Int) / 1000) / 2500

/-- Passive cooling in such a tick. -/
def tickCooling (tempCX10 : Int16) : Int := max (tempCX10.toInt - 250) 0 / 10000

/-- What a tick does to a battery in range; only the temperature can wrap. -/
structure CurrentTick (b : BatteryModel) (currentMa : Int32) (b' : BatteryModel) : Prop where
  /-- The charge is clamped to 0..100 percent. -/
  socMilli : b'.socMilli =
    max 0 (min (b.socMilli - (currentMa.toInt * 10 * 1000).tdiv 180000000) 100000)
  /-- The charge in percent is rounded. -/
  socPercent : (b'.socPercent.toNat : Int) = (b'.socMilli + 500) / 1000
  /-- Heating against cooling, narrowed to 16 bits. -/
  temp : b'.tempCX10 =
    .ofInt (max (b.tempCX10.toInt + tickRise currentMa - tickCooling b.tempCX10) 200)

/-- A tick does not overflow, whatever the current. -/
theorem currentTick_eq {b : BatteryModel} (hlow : 0 ≤ b.socMilli) (hhigh : b.socMilli ≤ 100000)
    (currentMa : Int32) : ∃ b', currentTick b currentMa = some b' ∧ CurrentTick b currentMa b' := by
  have hcurrent := currentMa.le_toInt
  have hcurrentmax := currentMa.toInt_lt
  have hcapacity : 3600 * capacityMah = 180000000 := rfl
  have hdelta : socDeltaMilli currentMa.toInt 10 =
      some ((currentMa.toInt * 10 * 1000).tdiv 180000000) := by
    rw [socDeltaMilli, Core.checkedInt_64 (by omega) (by omega), Option.bind_eq_bind,
      Option.bind_some, Core.checkedInt_64 (by omega) (by omega), Option.bind_some,
      Option.pure_def, hcapacity]
  have hdrop := Core.tdiv_bounds (currentMa.toInt * 10 * 1000) (d := 180000000) (by decide)
  generalize hdropped : (currentMa.toInt * 10 * 1000).tdiv 180000000 = drop at hdelta hdrop
  obtain ⟨soc, hsoc, hpercent⟩ := socPercentOf_eq
    (max 0 (min (b.socMilli - drop) 100000)) (by omega) (by omega)
  obtain ⟨hsquare, hsquaremax⟩ := mul_bounds (a := (currentMa.toInt.natAbs : Int) / 1000)
    (b := (currentMa.toInt.natAbs : Int) / 1000) (m := 2147484) (n := 2147484) (by omega)
    (by omega) (by omega) (by omega)
  -- the squared current stays far below the i64 limit; only the narrowing can lose a value
  have hheated := heatedTemp_eq b.tempCX10 10 hsquare (by omega) (by omega) (by omega)
    (by decide) (by decide)
  have htemp : max (b.tempCX10.toInt + (currentMa.toInt.natAbs : Int) / 1000 *
      ((currentMa.toInt.natAbs : Int) / 1000) * 10 / 25000 -
        max (b.tempCX10.toInt - 250) 0 * 10 / 100000) 200 =
      max (b.tempCX10.toInt + tickRise currentMa - tickCooling b.tempCX10) 200 := by
    unfold tickRise tickCooling
    omega
  rw [htemp] at hheated
  refine ⟨b.settle currentMa (max 0 (min (b.socMilli - drop) 100000)) soc (.ofInt (max
    (b.tempCX10.toInt + tickRise currentMa - tickCooling b.tempCX10) 200)), ?_, ?_⟩
  · exact BatteryModel.stepWithCurrent_eq hdelta (by omega) (by omega) hsoc hheated
  · exact ⟨by rw [hdropped]; rfl, hpercent, rfl⟩

/-- The states a pack starts in. -/
structure PackInRange (b : BatteryModel) : Prop where
  /-- The charge is not negative. -/
  soc_nonneg : 0 ≤ b.socMilli
  /-- The charge is at most 100 percent. -/
  soc_le : b.socMilli ≤ 100000
  /-- The temperature is not below its floor. -/
  temp_ge : 200 ≤ b.tempCX10.toInt

/-- A tick keeps the pack in range: it does not overflow, the charge stays a percentage and
follows the sign of the current, and the temperature does not wrap. -/
def StaysInRange (b : BatteryModel) (currentMa : Int32) : Prop :=
  ∃ b', currentTick b currentMa = some b' ∧ b'.socPercent.toNat ≤ 100 ∧
    b'.tempCX10.toInt =
      max (b.tempCX10.toInt + tickRise currentMa - tickCooling b.tempCX10) 200 ∧
    200 ≤ b'.tempCX10.toInt ∧
    (tickCooling b.tempCX10 ≤ tickRise currentMa → b.tempCX10.toInt ≤ b'.tempCX10.toInt) ∧
    (currentMa.toInt ≤ 0 → b.socMilli ≤ b'.socMilli ∧
      (b.socMilli + 500) / 1000 ≤ b'.socPercent.toNat) ∧
    (0 ≤ currentMa.toInt → b'.socMilli ≤ b.socMilli ∧
      b'.socPercent.toNat ≤ (b.socMilli + 500) / 1000)

/-- The heat of a tick fits between the temperature, less its cooling, and the largest `i16`. -/
def HeatFits (b : BatteryModel) (currentMa : Int32) : Prop :=
  tickRise currentMa ≤ 32767 - b.tempCX10.toInt + tickCooling b.tempCX10

instance decidableHeatFits (b : BatteryModel) (currentMa : Int32) :
    Decidable (HeatFits b currentMa) :=
  inferInstanceAs (Decidable
    (tickRise currentMa ≤ 32767 - b.tempCX10.toInt + tickCooling b.tempCX10))

/-- A tick of a pack in range keeps it in range exactly when its heat fits. -/
theorem staysInRange_iff {b : BatteryModel} (h : PackInRange b) (currentMa : Int32) :
    StaysInRange b currentMa ↔ HeatFits b currentMa := by
  obtain ⟨hlow, hhigh, htemp⟩ := h
  obtain ⟨b', htick, hsoc, hpercent, hnarrowed⟩ := currentTick_eq hlow hhigh currentMa
  have hmax := b'.tempCX10.toInt_lt
  have hdrop := Core.tdiv_bounds (currentMa.toInt * 10 * 1000) (d := 180000000) (by decide)
  unfold HeatFits
  constructor
  · rintro ⟨b'', htick', -, hexact, -⟩
    obtain rfl : b' = b'' := Option.some.inj (htick.symm.trans htick')
    omega
  · intro hfits
    have hexact : b'.tempCX10.toInt =
        max (b.tempCX10.toInt + tickRise currentMa - tickCooling b.tempCX10) 200 := by
      rw [hnarrowed]
      exact Int16.toInt_ofInt_of_le (by omega) (by omega)
    refine ⟨b', htick, by omega, hexact, by omega, by omega, ?_, ?_⟩
    · intro hcharging
      have hgain : 0 ≤ (-(currentMa.toInt * 10 * 1000)).tdiv 180000000 :=
        Int.tdiv_nonneg (by omega) (by decide)
      rw [Int.neg_tdiv] at hgain
      omega
    · intro hdischarging
      have hloss : 0 ≤ (currentMa.toInt * 10 * 1000).tdiv 180000000 :=
        Int.tdiv_nonneg (by omega) (by decide)
      omega

/-- A tick leaves a pack whose temperature did not wrap in range. -/
theorem PackInRange.tick {b b' : BatteryModel} {currentMa : Int32} (h : PackInRange b)
    (hstays : StaysInRange b currentMa) (htick : currentTick b currentMa = some b') :
    PackInRange b' := by
  obtain ⟨b'', htick', hsoc, -⟩ := currentTick_eq h.soc_nonneg h.soc_le currentMa
  obtain ⟨c, hc, -, -, hfloor, -⟩ := hstays
  obtain rfl : b'' = b' := Option.some.inj (htick'.symm.trans htick)
  obtain rfl : c = b'' := Option.some.inj (hc.symm.trans htick)
  exact ⟨by omega, by omega, hfloor⟩

/-- From every state in range and under every sequence of currents, all ticks keep the pack in
range exactly when the heat of each of them fits. -/
theorem currentTicks_stay_in_range_iff {b : BatteryModel} (h : PackInRange b)
    (currents : List Int32) :
    Core.PartialStepsMeet currentTick StaysInRange b currents ↔
      Core.PartialStepsMeet currentTick HeatFits b currents :=
  Core.partialStepsMeet_congr (fun _ currentMa hb => staysInRange_iff hb currentMa)
    (fun _ _ _ hb hstays htick => hb.tick hstays htick) h currents

/-- A discharge of 150 A followed by a charge of 60 A. -/
theorem currentTicks_stay_in_range_new :
    PackInRange .new ∧ Core.PartialStepsMeet currentTick StaysInRange .new [150000, -60000] := by
  have hrange : PackInRange .new := ⟨by decide, by decide, by decide⟩
  have hfits : Core.PartialStepsMeet currentTick HeatFits .new [150000, -60000] := by
    refine ⟨by decide, fun b hb => ⟨?_, fun _ _ => trivial⟩⟩
    obtain ⟨b', htick, -, -, htemp⟩ := currentTick_eq hrange.soc_nonneg hrange.soc_le 150000
    obtain rfl : b' = b := Option.some.inj (htick.symm.trans hb)
    rw [HeatFits, htemp]
    decide
  exact ⟨hrange, (currentTicks_stay_in_range_iff hrange _).mpr hfits⟩

/-- A tick of 10 kA heats a new pack past the largest `i16`: its temperature reads far below
the floor. -/
theorem largeCurrent_wraps :
    PackInRange .new ∧ ¬ Core.PartialStepsMeet currentTick StaysInRange .new [10000000] ∧
      (currentTick .new 10000000).map (·.tempCX10) = some (-25286) := by
  have hrange : PackInRange .new := ⟨by decide, by decide, by decide⟩
  have hwraps : ¬ HeatFits .new 10000000 := by decide
  exact ⟨hrange, fun h => hwraps ((staysInRange_iff hrange _).mp h.1), by decide⟩

end Microcar.Plant
