import Mathlib.Algebra.BigOperators.Group.List.Basic
import Mathlib.Algebra.Order.Field.Rat
import Mathlib.Tactic.FieldSimp
import Mathlib.Tactic.Linarith
import Mathlib.Tactic.Ring
import Microcar.Core.Run
import Microcar.Plant.Exact

/-!
# State of charge over histories

Every call of the battery moves a truncated number of milli-percent. Over a history the
truncated amounts add up, so the remainders of all calls are lost; and the divisor of a call is
a tenth of the one its derivation gives for a pack of 50 Ah. Where no clamp takes part, both
effects are exact functions of the charges of the calls.
-/

namespace Microcar.Plant

/-- A battery with a given state of charge and temperature, `BatteryModel::with_state`. -/
def BatteryModel.withState (socPercent : UInt8) (tempCX10 : Int16) : BatteryModel :=
  let b : BatteryModel := { BatteryModel.new with
    socPercent := socPercent
    socMilli := socPercent.toNat * 1000
    tempCX10 := tempCX10 }
  { b with voltageMv := b.calcVoltage }

/-- A call that advances the battery. -/
inductive BatteryCall where
  /-- A tick under a motor torque, `step`. -/
  | torque (torquePercent : Int8) (dtMs : UInt32)
  /-- A tick under a signed current, `step_with_current`. -/
  | current (currentMa : Int32) (dtMs : UInt32)
  deriving DecidableEq

/-- The battery behind a call. -/
def BatteryCall.apply (b : BatteryModel) : BatteryCall → Option BatteryModel
  | .torque torquePercent dtMs => b.step torquePercent dtMs
  | .current currentMa dtMs => b.stepWithCurrent currentMa dtMs

/-- The current of a call in milliamps. -/
def BatteryCall.currentMa : BatteryCall → Int
  | .torque torquePercent _ => torquePercent.toInt.natAbs * 500
  | .current currentMa _ => currentMa.toInt

/-- The duration of a call in milliseconds. -/
def BatteryCall.dtMs : BatteryCall → UInt32
  | .torque _ dtMs => dtMs
  | .current _ dtMs => dtMs

/-- The same call over another duration. -/
def BatteryCall.lasting (dtMs : UInt32) : BatteryCall → BatteryCall
  | .torque torquePercent _ => .torque torquePercent dtMs
  | .current currentMa _ => .current currentMa dtMs

/-- The charge of a call in milliamp milliseconds. -/
def BatteryCall.charge (c : BatteryCall) : Int := c.currentMa * c.dtMs.toNat

/-- The milli-percent that a call takes from the state of charge. -/
def BatteryCall.drop (c : BatteryCall) : Int := (c.charge * 1000).tdiv (3600 * capacityMah)

/-- No clamp takes part in a call: a torque cannot empty the pack, and a current can neither
empty nor overfill it. -/
def BatteryCall.Unclamped (socMilli : Int) : BatteryCall → Prop
  | .torque t dtMs => 0 ≤ socMilli - (BatteryCall.torque t dtMs).drop
  | .current i dtMs => 0 ≤ socMilli - (BatteryCall.current i dtMs).drop ∧
      socMilli - (BatteryCall.current i dtMs).drop ≤ 100000

/-- No clamp takes part along a history. -/
def UnclampedAlong : Int → List BatteryCall → Prop
  | _, [] => True
  | socMilli, c :: calls => c.Unclamped socMilli ∧ UnclampedAlong (socMilli - c.drop) calls

instance decidableUnclamped (socMilli : Int) : (c : BatteryCall) → Decidable (c.Unclamped socMilli)
  | .torque t dtMs =>
    inferInstanceAs (Decidable (0 ≤ socMilli - (BatteryCall.torque t dtMs).drop))
  | .current i dtMs =>
    inferInstanceAs (Decidable (0 ≤ socMilli - (BatteryCall.current i dtMs).drop ∧
      socMilli - (BatteryCall.current i dtMs).drop ≤ 100000))

instance decidableUnclampedAlong :
    (socMilli : Int) → (calls : List BatteryCall) → Decidable (UnclampedAlong socMilli calls)
  | _, [] => .isTrue trivial
  | socMilli, c :: calls =>
    @instDecidableAnd _ _ _ (decidableUnclampedAlong (socMilli - c.drop) calls)

/-- The battery behind a history. -/
def batteryRun (b : BatteryModel) (calls : List BatteryCall) : Option BatteryModel :=
  Core.runPartial BatteryCall.apply b calls

/-- The charge that `new` and `with_state` store and every call keeps. -/
structure SocInRange (b : BatteryModel) : Prop where
  /-- The charge is not negative. -/
  nonneg : 0 ≤ b.socMilli
  /-- The charge is at most that of the largest percentage byte. -/
  le : b.socMilli ≤ 255000

theorem socInRange_new : SocInRange .new := ⟨by decide, by decide⟩

theorem socInRange_withState (socPercent : UInt8) (tempCX10 : Int16) :
    SocInRange (.withState socPercent tempCX10) := by
  have hsoc : socPercent.toNat < 256 := socPercent.toNat_lt
  have hmilli : (BatteryModel.withState socPercent tempCX10).socMilli = socPercent.toNat * 1000 :=
    rfl
  exact ⟨by omega, by omega⟩

/-- The thousands in the conversion cancel. -/
theorem BatteryCall.drop_eq (c : BatteryCall) : c.drop = c.charge.tdiv 180000 := by
  have hcapacity : 3600 * capacityMah = 180000 * 1000 := rfl
  rw [BatteryCall.drop, hcapacity, Int.mul_tdiv_mul_of_pos_left _ _ (by decide)]

/-- A charge whose drop is bounded is bounded. -/
theorem BatteryCall.charge_bounds {c : BatteryCall} {m : Int} (hlow : -m ≤ c.drop)
    (hhigh : c.drop ≤ m) : -(180000 * (m + 1)) ≤ c.charge ∧ c.charge < 180000 * (m + 1) := by
  have hbounds := Core.tdiv_bounds c.charge (d := 180000) (by decide)
  rw [c.drop_eq] at hlow hhigh
  omega

/-- The charge of a call whose products fit. -/
theorem socDeltaMilli_eq_drop {c : BatteryCall} (hlow : -9000000000000000 ≤ c.charge)
    (hhigh : c.charge ≤ 9000000000000000) :
    socDeltaMilli c.currentMa c.dtMs.toNat = some c.drop := by
  have hcharge : c.currentMa * c.dtMs.toNat = c.charge := rfl
  rw [socDeltaMilli, hcharge, Core.checkedInt_64 (by omega) (by omega), Option.bind_eq_bind,
    Option.bind_some, Core.checkedInt_64 (by omega) (by omega), Option.bind_some,
    Option.pure_def, BatteryCall.drop]

/-- The rounded state of charge of a battery in range. -/
theorem socPercentOf_isSome {socMilli : Int} (hlow : 0 ≤ socMilli) (hhigh : socMilli ≤ 255000) :
    ∃ soc, socPercentOf socMilli = some soc := by
  rw [socPercentOf, Core.checkedInt_64 (by omega) (by omega)]
  exact ⟨_, rfl⟩

/-- Heating does not overflow where the charge of the call is bounded. -/
theorem heatedTemp_isSome (tempCX10 : Int16) {iAmps dt : Int} (hamps : 0 ≤ iAmps)
    (hampsmax : iAmps ≤ 2147484) (hdt : 0 ≤ dt) (hdtmax : dt < 4294967296)
    (hcharge : iAmps * dt ≤ 1000000000) : ∃ temp, heatedTemp tempCX10 iAmps dt = some temp := by
  have hlow := tempCX10.le_toInt
  have hhigh := tempCX10.toInt_lt
  obtain ⟨hsquare, hsquaremax⟩ := mul_bounds hamps hampsmax hamps hampsmax
  obtain ⟨hheat, hheatmax⟩ := mul_bounds hamps hampsmax (Int.mul_nonneg hamps hdt) hcharge
  obtain ⟨hcool, hcoolmax⟩ := mul_bounds (a := max (tempCX10.toInt - 250) 0) (m := 32768)
    (by omega) (by omega) hdt (Int.le_of_lt hdtmax)
  rw [← Int.mul_assoc] at hheat hheatmax
  have hchecked1 := Core.checkedInt_64 (x := iAmps * iAmps) (by omega) (by omega)
  have hchecked2 := Core.checkedInt_64 (x := iAmps * iAmps * dt) (by omega) (by omega)
  have hchecked3 := Core.checkedInt_64 (x := max (tempCX10.toInt - 250) 0 * dt) (by omega)
    (by omega)
  simp only [heatedTemp, hchecked1, hchecked2, hchecked3, Option.bind_eq_bind, Option.bind_some]
  exact ⟨_, rfl⟩

/-- A call whose charge is bounded heats the pack without an overflow. -/
theorem BatteryCall.heats (c : BatteryCall) (tempCX10 : Int16)
    (hlow : -(180000 * 255001) ≤ c.charge) (hhigh : c.charge < 180000 * 255001)
    (hcurrent : c.currentMa.natAbs ≤ 2147483648) :
    ∃ temp, heatedTemp tempCX10 ((c.currentMa.natAbs : Int).tdiv 1000) c.dtMs.toNat =
      some temp := by
  have hdt : (c.dtMs.toNat : Int) < 4294967296 := by exact_mod_cast c.dtMs.toNat_lt
  have hcharge : (c.currentMa.natAbs : Int) * c.dtMs.toNat = c.charge.natAbs := by
    rw [BatteryCall.charge, Int.natAbs_mul, Int.natAbs_natCast, Int.natCast_mul]
  rw [Int.tdiv_eq_ediv_of_nonneg (Int.natCast_nonneg _)]
  have hscaled : (c.currentMa.natAbs : Int) / 1000 * 1000 * c.dtMs.toNat ≤
      c.currentMa.natAbs * c.dtMs.toNat :=
    Int.mul_le_mul_of_nonneg_right (by omega) (Int.natCast_nonneg _)
  rw [hcharge, Int.mul_right_comm] at hscaled
  exact heatedTemp_isSome tempCX10 (by omega) (by omega) (Int.natCast_nonneg _) hdt (by omega)

/-- The battery behind a tick under a torque that does not empty it. -/
theorem BatteryModel.step_unclamped {b : BatteryModel} (hb : SocInRange b) {torque : Int8}
    {dtMs : UInt32} (h : (BatteryCall.torque torque dtMs).Unclamped b.socMilli) :
    ∃ b', b.step torque dtMs = some b' ∧
      b'.socMilli = b.socMilli - (BatteryCall.torque torque dtMs).drop ∧ SocInRange b' := by
  have htorque := torque.le_toInt
  have htorquemax := torque.toInt_lt
  have hsoc := hb.nonneg
  have hsocmax := hb.le
  have hkept : 0 ≤ b.socMilli - (BatteryCall.torque torque dtMs).drop := h
  have hcurrent : (BatteryCall.torque torque dtMs).currentMa = torque.toInt.natAbs * 500 := rfl
  have hcharge : 0 ≤ (BatteryCall.torque torque dtMs).charge :=
    Int.mul_nonneg (by omega) (Int.natCast_nonneg _)
  have hdrop : 0 ≤ (BatteryCall.torque torque dtMs).drop := by
    rw [BatteryCall.drop_eq]
    exact Int.tdiv_nonneg hcharge (by decide)
  obtain ⟨hlow, hhigh⟩ := BatteryCall.charge_bounds (c := .torque torque dtMs) (m := 255000)
    (by omega) (by omega)
  have hdelta : socDeltaMilli (torque.toInt.natAbs * 500) dtMs.toNat =
      some (BatteryCall.torque torque dtMs).drop :=
    socDeltaMilli_eq_drop (c := .torque torque dtMs) (by omega) (by omega)
  have habs : ((BatteryCall.torque torque dtMs).currentMa.natAbs : Int) =
      torque.toInt.natAbs * 500 := by omega
  obtain ⟨temp, hheated⟩ : ∃ temp, heatedTemp b.tempCX10
      ((torque.toInt.natAbs * 500 : Int).tdiv 1000) dtMs.toNat = some temp := by
    rw [← habs]
    exact (BatteryCall.torque torque dtMs).heats b.tempCX10 hlow hhigh (by omega)
  obtain ⟨soc, hpercent⟩ := socPercentOf_isSome hkept (by omega)
  refine ⟨b.settle (.ofInt (torque.toInt.natAbs * 500))
    (b.socMilli - (BatteryCall.torque torque dtMs).drop) soc temp, ?_, rfl, ⟨hkept, ?_⟩⟩
  · simp only [BatteryModel.step, hdelta, hheated, Option.bind_eq_bind, Option.bind_some,
      Option.pure_def]
    rw [Core.saturateInt_64 (by omega) (by omega), Int.max_eq_left hkept, hpercent,
      Option.bind_some]
  · show b.socMilli - (BatteryCall.torque torque dtMs).drop ≤ 255000
    omega

/-- The battery behind a tick under a current that neither empties nor overfills it. -/
theorem BatteryModel.stepWithCurrent_unclamped {b : BatteryModel} (hb : SocInRange b)
    {current : Int32} {dtMs : UInt32}
    (h : (BatteryCall.current current dtMs).Unclamped b.socMilli) :
    ∃ b', b.stepWithCurrent current dtMs = some b' ∧
      b'.socMilli = b.socMilli - (BatteryCall.current current dtMs).drop ∧ SocInRange b' := by
  have hcurrent := current.le_toInt
  have hcurrentmax := current.toInt_lt
  have hsoc := hb.nonneg
  have hsocmax := hb.le
  obtain ⟨hkept, hkeptmax⟩ := h
  obtain ⟨hlow, hhigh⟩ := BatteryCall.charge_bounds (c := .current current dtMs) (m := 255000)
    (by omega) (by omega)
  have hmA : (BatteryCall.current current dtMs).currentMa = current.toInt := rfl
  have hdelta : socDeltaMilli current.toInt dtMs.toNat =
      some (BatteryCall.current current dtMs).drop :=
    socDeltaMilli_eq_drop (c := .current current dtMs) (by omega) (by omega)
  obtain ⟨temp, hheated⟩ : ∃ temp, heatedTemp b.tempCX10 ((current.toInt.natAbs : Int).tdiv 1000)
      dtMs.toNat = some temp :=
    (BatteryCall.current current dtMs).heats b.tempCX10 hlow hhigh (by omega)
  obtain ⟨soc, hpercent⟩ := socPercentOf_isSome hkept (by omega)
  refine ⟨b.settle current (b.socMilli - (BatteryCall.current current dtMs).drop) soc temp, ?_, rfl,
    ⟨hkept, ?_⟩⟩
  · simp only [BatteryModel.stepWithCurrent, hdelta, hheated, Option.bind_eq_bind, Option.bind_some,
      Option.pure_def]
    rw [Core.checkedInt_64 (by omega) (by omega), Option.bind_some, Int.min_eq_left hkeptmax,
      Int.max_eq_right hkept, hpercent, Option.bind_some]
  · show b.socMilli - (BatteryCall.current current dtMs).drop ≤ 255000
    omega

/-- The battery behind a call that no clamp takes part in. -/
theorem BatteryCall.apply_unclamped {b : BatteryModel} (hb : SocInRange b) {c : BatteryCall}
    (h : c.Unclamped b.socMilli) :
    ∃ b', c.apply b = some b' ∧ b'.socMilli = b.socMilli - c.drop ∧ SocInRange b' := by
  cases c with
  | torque torquePercent dtMs => exact BatteryModel.step_unclamped hb h
  | current currentMa dtMs => exact BatteryModel.stepWithCurrent_unclamped hb h

/-- The battery behind a history that no clamp takes part in. -/
theorem batteryRun_unclamped {b : BatteryModel} (hb : SocInRange b) {calls : List BatteryCall}
    (h : UnclampedAlong b.socMilli calls) :
    ∃ b', batteryRun b calls = some b' ∧
      b'.socMilli = b.socMilli - (calls.map BatteryCall.drop).sum ∧ SocInRange b' := by
  induction calls generalizing b with
  | nil => exact ⟨b, rfl, by simp, hb⟩
  | cons c calls ih =>
    obtain ⟨mid, hcall, hmid, hrange⟩ := BatteryCall.apply_unclamped hb h.1
    have hrest : UnclampedAlong mid.socMilli calls := by
      rw [hmid]
      exact h.2
    obtain ⟨b', hrun, hsoc, hb'⟩ := ih hrange hrest
    refine ⟨b', ?_, ?_, hb'⟩
    · rw [batteryRun, Core.runPartial_cons, hcall]
      exact hrun
    · rw [hsoc, hmid, List.map_cons, List.sum_cons]
      omega

/-! ### Step size -/

/-- What truncating every part loses against truncating the whole. -/
theorem tdiv_split_iff (a : Int) (n : Nat) :
    |n * a.tdiv 180000 - (n * a).tdiv 180000| ≤ 1 ↔ n * (a.natAbs % 180000) < 360000 := by
  have hsplit (m : Nat) : (n * m / 180000 : Nat) =
      n * (m / 180000) + n * (m % 180000) / 180000 := by
    have hmod : n * m = n * (m % 180000) + 180000 * (n * (m / 180000)) := by
      conv => lhs; rw [← Nat.mod_add_div m 180000]
      ring
    rw [hmod, Nat.add_mul_div_left _ _ (by decide), Nat.add_comm]
  have hnat (m : Nat) : |(n : Int) * (m : Int).tdiv 180000 - ((n : Int) * m).tdiv 180000| ≤ 1 ↔
      n * (m % 180000) < 360000 := by
    have hpart : (m : Int).tdiv 180000 = (m / 180000 : Nat) := (Int.ofNat_tdiv m 180000).symm
    have hwhole : ((n : Int) * m).tdiv 180000 = (n * m / 180000 : Nat) := by
      rw [← Int.natCast_mul]
      exact (Int.ofNat_tdiv (n * m) 180000).symm
    rw [hpart, hwhole, hsplit m, Int.natCast_add, Int.natCast_mul, abs_le]
    omega
  rcases Int.natAbs_eq a with ha | ha
  · rw [ha, hnat, Int.natAbs_natCast]
  · rw [ha, Int.neg_tdiv, Int.mul_neg, Int.mul_neg, Int.neg_tdiv, Int.natAbs_neg,
      Int.natAbs_natCast, ← hnat]
    rw [← abs_neg]
    congr! 2
    ring

/-- A call over a multiple of its duration carries the multiple of its charge. -/
theorem BatteryCall.charge_lasting {c : BatteryCall} {n : Nat} {totalMs : UInt32}
    (htotal : totalMs.toNat = n * c.dtMs.toNat) : (c.lasting totalMs).charge = n * c.charge := by
  have hdt : (c.lasting totalMs).dtMs = totalMs := by cases c <;> rfl
  have hcurrent : (c.lasting totalMs).currentMa = c.currentMa := by cases c <;> rfl
  rw [BatteryCall.charge, BatteryCall.charge, hdt, hcurrent, htotal, Int.natCast_mul]
  ring

/-- Where no clamp takes part, a number of equal calls changes the charge by the same amount,
within a milli-percent, as one call over their whole duration exactly when the remainders they
lose make up less than two milli-percent. -/
theorem stepSize_independent_iff {b : BatteryModel} (hb : SocInRange b) (c : BatteryCall) (n : Nat)
    {totalMs : UInt32} (htotal : totalMs.toNat = n * c.dtMs.toNat)
    (hmany : UnclampedAlong b.socMilli (List.replicate n c))
    (hone : (c.lasting totalMs).Unclamped b.socMilli) :
    (∃ many one, batteryRun b (List.replicate n c) = some many ∧
        (c.lasting totalMs).apply b = some one ∧
        |(many.socMilli - b.socMilli) - (one.socMilli - b.socMilli)| ≤ 1) ↔
      n * (c.charge.natAbs % 180000) < 360000 := by
  obtain ⟨many, hrun, hmanySoc, -⟩ := batteryRun_unclamped hb hmany
  obtain ⟨one, hcall, honeSoc, -⟩ := BatteryCall.apply_unclamped hb hone
  rw [List.map_replicate, List.sum_replicate, nsmul_eq_mul, BatteryCall.drop_eq] at hmanySoc
  rw [BatteryCall.drop_eq, BatteryCall.charge_lasting htotal] at honeSoc
  have hdiff : (many.socMilli - b.socMilli) - (one.socMilli - b.socMilli) =
      -(n * c.charge.tdiv 180000 - (n * c.charge).tdiv 180000) := by
    rw [hmanySoc, honeSoc]
    ring
  rw [← tdiv_split_iff]
  constructor
  · rintro ⟨many', one', hrun', hcall', herror⟩
    obtain rfl : many = many' := Option.some.inj (hrun.symm.trans hrun')
    obtain rfl : one = one' := Option.some.inj (hcall.symm.trans hcall')
    rw [hdiff, abs_neg] at herror
    exact herror
  · intro herror
    refine ⟨many, one, hrun, hcall, ?_⟩
    rw [hdiff, abs_neg]
    exact herror

/-- Two seconds of 36 A in ten steps: the charge of a step divides without a remainder. -/
def evenSteps : BatteryCall := .current 36000 200

theorem stepSize_independent_evenSteps :
    ∃ many one, batteryRun .new (List.replicate 10 evenSteps) = some many ∧
      (evenSteps.lasting 2000).apply .new = some one ∧
      |(many.socMilli - BatteryModel.new.socMilli) - (one.socMilli - BatteryModel.new.socMilli)| ≤
        1 :=
  (stepSize_independent_iff socInRange_new evenSteps 10
    (by decide : (2000 : UInt32).toNat = _) (by decide) (by decide)).mpr (by decide)

/-- Four seconds of 100 mA: as four steps they are lost, as one step they take two
milli-percent. -/
theorem smallCurrent_is_lost :
    ¬ ∃ many one, batteryRun .new (List.replicate 4 (.current 100 1000)) = some many ∧
      BatteryCall.apply .new (.current 100 4000) = some one ∧
      |(many.socMilli - BatteryModel.new.socMilli) - (one.socMilli - BatteryModel.new.socMilli)| ≤
        1 := by
  have hmany : (batteryRun .new (List.replicate 4 (.current 100 1000))).map (·.socMilli) =
      some 80000 := by decide
  have hone : (BatteryCall.apply .new (.current 100 4000)).map (·.socMilli) = some 79998 := by
    decide
  rintro ⟨many, one, hrun, hcall, herror⟩
  rw [hrun, Option.map_some, Option.some.injEq] at hmany
  rw [hcall, Option.map_some, Option.some.injEq] at hone
  rw [hmany, hone] at herror
  exact absurd herror (by decide)

/-! ### Capacity -/

/-- The drop over a history that the derivation for a pack of 50 Ah gives. -/
def documentedDrop (calls : List BatteryCall) : ℚ :=
  (calls.map fun c => (c.charge : ℚ) / 1800000).sum

/-- The charge falls over a history as the derivation says, within one milli-percent a call. -/
def FollowsCapacity (before after : BatteryModel) (calls : List BatteryCall) : Prop :=
  |((before.socMilli - after.socMilli : Int) : ℚ) - documentedDrop calls| ≤ calls.length

/-- The distance to the derivation, in whole numbers. -/
theorem abs_sub_div_le_iff (drop charge : Int) (n : Nat) :
    |(drop : ℚ) - (charge : ℚ) / 1800000| ≤ n ↔ |1800000 * drop - charge| ≤ 1800000 * n := by
  have hscale : (drop : ℚ) - (charge : ℚ) / 1800000 =
      ((1800000 * drop - charge : Int) : ℚ) / 1800000 := by
    push_cast
    field_simp
  generalize 1800000 * drop - charge = error at hscale ⊢
  have hlow : -(n : ℚ) * 1800000 ≤ error ↔ -(1800000 * (n : Int)) ≤ error := by
    rw [← Int.cast_le (R := ℚ)]
    push_cast
    rw [neg_mul, mul_comm]
  have hhigh : (error : ℚ) ≤ n * 1800000 ↔ error ≤ 1800000 * (n : Int) := by
    rw [← Int.cast_le (R := ℚ)]
    push_cast
    rw [mul_comm]
  rw [hscale, abs_le, abs_le, le_div_iff₀ (by norm_num), div_le_iff₀ (by norm_num), hlow, hhigh]

/-- A call keeps to the derivation exactly when it takes less than two milli-percent. -/
theorem drop_near_iff (c : BatteryCall) :
    |1800000 * c.drop - c.charge| ≤ 1800000 ↔ c.charge.natAbs < 360000 := by
  rw [c.drop_eq, abs_le]
  rcases Int.natAbs_eq c.charge with h | h
  · have hdrop : c.charge.tdiv 180000 = c.charge / 180000 :=
      Int.tdiv_eq_ediv_of_nonneg (by omega)
    rw [hdrop]
    omega
  · have hdrop : c.charge.tdiv 180000 = -((-c.charge) / 180000) := by
      rw [← Int.tdiv_eq_ediv_of_nonneg (by omega), Int.neg_tdiv, Int.neg_neg]
    rw [hdrop]
    omega

/-- Over a history the distances of the calls add up at most. -/
theorem sum_drop_near {calls : List BatteryCall}
    (h : ∀ c ∈ calls, c.charge.natAbs < 360000) :
    |1800000 * (calls.map BatteryCall.drop).sum - (calls.map BatteryCall.charge).sum| ≤
      1800000 * calls.length := by
  induction calls with
  | nil => simp
  | cons c calls ih =>
    have hcall := (drop_near_iff c).mpr (h c List.mem_cons_self)
    have hrest := ih fun c' hc' => h c' (List.mem_cons_of_mem c hc')
    rw [List.map_cons, List.sum_cons, List.map_cons, List.sum_cons, List.length_cons]
    rw [abs_le] at hcall hrest ⊢
    push_cast
    omega

theorem documentedDrop_eq (calls : List BatteryCall) :
    documentedDrop calls = ((calls.map BatteryCall.charge).sum : Int) / 1800000 := by
  unfold documentedDrop
  induction calls with
  | nil => simp
  | cons c calls ih =>
    rw [List.map_cons, List.sum_cons, ih, List.map_cons, List.sum_cons, Int.cast_add, add_div]

/-- The charge follows the capacity over a history exactly when its drop does. -/
theorem followsCapacity_iff {before after : BatteryModel} {calls : List BatteryCall}
    (h : after.socMilli = before.socMilli - (calls.map BatteryCall.drop).sum) :
    FollowsCapacity before after calls ↔
      |1800000 * (calls.map BatteryCall.drop).sum - (calls.map BatteryCall.charge).sum| ≤
        1800000 * calls.length := by
  have hdrop : before.socMilli - after.socMilli = (calls.map BatteryCall.drop).sum := by omega
  rw [FollowsCapacity, hdrop, documentedDrop_eq, abs_sub_div_le_iff]

/-- No clamp takes part along the parts of a history. -/
theorem unclampedAlong_append {socMilli : Int} {first rest : List BatteryCall}
    (h : UnclampedAlong socMilli (first ++ rest)) :
    UnclampedAlong socMilli first ∧
      UnclampedAlong (socMilli - (first.map BatteryCall.drop).sum) rest := by
  induction first generalizing socMilli with
  | nil => exact ⟨trivial, by simpa using h⟩
  | cons c first ih =>
    obtain ⟨hfirst, hrest⟩ := ih h.2
    rw [List.map_cons, List.sum_cons, ← Int.sub_sub]
    exact ⟨⟨h.1, hfirst⟩, hrest⟩

/-- The two ends of a stretch of a history that no clamp takes part in. -/
theorem batteryRun_stretch {b : BatteryModel} (hb : SocInRange b)
    {first stretch last : List BatteryCall}
    (h : UnclampedAlong b.socMilli (first ++ stretch ++ last)) :
    ∃ before after, batteryRun b first = some before ∧ batteryRun before stretch = some after ∧
      after.socMilli = before.socMilli - (stretch.map BatteryCall.drop).sum := by
  obtain ⟨hfirst, hrest⟩ := unclampedAlong_append (unclampedAlong_append h).1
  obtain ⟨before, hrun, hsoc, hrange⟩ := batteryRun_unclamped hb hfirst
  rw [← hsoc] at hrest
  obtain ⟨after, hrun', hsoc', -⟩ := batteryRun_unclamped hrange hrest
  exact ⟨before, after, hrun, hrun', hsoc'⟩

/-- Along a history that no clamp takes part in, the charge follows the documented capacity over
every stretch of calls exactly when every call carries less than 360000 mA ms. -/
theorem soc_follows_capacity_iff {b : BatteryModel} (hb : SocInRange b) {calls : List BatteryCall}
    (h : UnclampedAlong b.socMilli calls) :
    (∀ first stretch last, calls = first ++ stretch ++ last →
      ∃ before after, batteryRun b first = some before ∧
        batteryRun before stretch = some after ∧ FollowsCapacity before after stretch) ↔
      ∀ c ∈ calls, c.charge.natAbs < 360000 := by
  constructor
  · -- a stretch of one call already shows whether the call keeps to the derivation
    intro hall c hc
    obtain ⟨first, last, hsplit⟩ := List.append_of_mem hc
    have hcut : calls = first ++ [c] ++ last := by rw [hsplit, List.append_cons]
    obtain ⟨before, after, hrun, hrun', hfollows⟩ := hall first [c] last hcut
    rw [hcut] at h
    obtain ⟨before', after', hfirst, hstretch, hsoc⟩ := batteryRun_stretch hb h
    obtain rfl : before = before' := Option.some.inj (hrun.symm.trans hfirst)
    obtain rfl : after = after' := Option.some.inj (hrun'.symm.trans hstretch)
    rw [followsCapacity_iff hsoc, List.map_singleton, List.sum_singleton, List.map_singleton,
      List.sum_singleton] at hfollows
    exact (drop_near_iff c).mp hfollows
  · rintro hsmall first stretch last rfl
    obtain ⟨before, after, hrun, hrun', hsoc⟩ := batteryRun_stretch hb h
    refine ⟨before, after, hrun, hrun', (followsCapacity_iff hsoc).mpr (sum_drop_near ?_)⟩
    intro c hc
    exact hsmall c (List.mem_append_left _ (List.mem_append_right _ hc))

/-- Ten default ticks at 60 percent of torque, 300000 mA ms each. -/
theorem soc_follows_capacity_cruising :
    ∃ before after, batteryRun .new [] = some before ∧
      batteryRun before (List.replicate 10 (.torque 60 10)) = some after ∧
      FollowsCapacity before after (List.replicate 10 (.torque 60 10)) :=
  (soc_follows_capacity_iff socInRange_new
    (by decide : UnclampedAlong _ (List.replicate 10 (.torque 60 10)))).mpr (by decide) [] _ [] rfl

/-- One second at full torque takes 277 milli-percent, ten times what the derivation gives. -/
theorem fullTorque_drains_tenfold :
    UnclampedAlong BatteryModel.new.socMilli [.torque 100 1000] ∧
      ∃ after, batteryRun .new [.torque 100 1000] = some after ∧
        BatteryModel.new.socMilli - after.socMilli = 277 ∧
        ¬ FollowsCapacity .new after [.torque 100 1000] := by
  have hunclamped : UnclampedAlong BatteryModel.new.socMilli [.torque 100 1000] := by decide
  obtain ⟨after, hrun, hsoc, -⟩ := batteryRun_unclamped socInRange_new hunclamped
  have hdrop : ([BatteryCall.torque 100 1000].map BatteryCall.drop).sum = 277 := by decide
  refine ⟨hunclamped, after, hrun, by omega, ?_⟩
  rw [followsCapacity_iff hsoc]
  decide

end Microcar.Plant
