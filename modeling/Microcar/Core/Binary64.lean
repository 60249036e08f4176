import Mathlib.Algebra.Order.Floor.Ring
import Mathlib.Algebra.Order.Ring.Rat
import Mathlib.Data.Int.Log
import Mathlib.Data.Rat.Floor
import Mathlib.Tactic.Linarith
import Mathlib.Tactic.NormNum
import Mathlib.Tactic.Positivity

/-!
# Rounding to binary64

The result of an exact operation on floating-point numbers is rounded to the nearest number
with a significand of 53 bits, ties to even. Finite numbers are rationals; the spacing of
the numbers around a value follows from its binary logarithm, down to the subnormal ones.
-/

namespace Microcar.Core

/-- The nearest integer, ties to even. -/
def roundEven (x : ℚ) : ℤ :=
  let low := ⌊x⌋
  if x - low < 1 / 2 then low
  else if 1 / 2 < x - low then low + 1
  else if low % 2 = 0 then low
  else low + 1

/-- Spacing of the binary64 numbers around a value. -/
def ulp64 (x : ℚ) : ℚ := 2 ^ max (Int.log 2 |x| - 52) (-1074)

/-- The nearest binary64 number to a value in range. -/
def round64 (x : ℚ) : ℚ := roundEven (x / ulp64 x) * ulp64 x

/-- An integer is its own nearest integer. -/
theorem roundEven_intCast (n : ℤ) : roundEven n = n := by
  unfold roundEven
  dsimp only
  rw [Int.floor_intCast, sub_self, if_pos (by norm_num)]

/-- The nearest integer is at most one half away. -/
theorem abs_roundEven_sub_le (x : ℚ) : |(roundEven x : ℚ) - x| ≤ 1 / 2 := by
  have hlow := Int.floor_le x
  have hhigh := Int.lt_floor_add_one x
  unfold roundEven
  dsimp only
  rw [abs_le]
  split_ifs with hbelow habove heven
  · constructor <;> linarith
  · push_cast
    constructor <;> linarith
  · constructor <;> linarith
  · push_cast
    constructor <;> linarith

/-- Numbers are spaced apart. -/
theorem ulp64_pos (x : ℚ) : 0 < ulp64 x := zpow_pos (by norm_num) _

/-- Rounding moves a value by at most half the spacing. -/
theorem abs_round64_sub_le (x : ℚ) : |round64 x - x| ≤ ulp64 x / 2 := by
  have hpos := ulp64_pos x
  have hround := abs_roundEven_sub_le (x / ulp64 x)
  have hscale : round64 x - x = ((roundEven (x / ulp64 x) : ℚ) - x / ulp64 x) * ulp64 x := by
    rw [round64, sub_mul, div_mul_cancel₀ x hpos.ne']
  rw [hscale, abs_mul, abs_of_pos hpos]
  calc |(roundEven (x / ulp64 x) : ℚ) - x / ulp64 x| * ulp64 x
      ≤ 1 / 2 * ulp64 x := mul_le_mul_of_nonneg_right hround hpos.le
    _ = ulp64 x / 2 := by ring

/-- Below a power of two the spacing is bounded. -/
theorem ulp64_le {x : ℚ} {k : ℕ} (hx : |x| < 2 ^ k) : ulp64 x ≤ 2 ^ ((k : ℤ) - 52) := by
  have hlog : Int.log 2 |x| ≤ k := by
    rcases eq_or_ne x 0 with rfl | hne
    · rw [abs_zero, Int.log_zero_right]
      exact Int.natCast_nonneg k
    · have hbelow : |x| < ((2 : ℕ) : ℚ) ^ (k : ℤ) := by
        rw [zpow_natCast]
        exact_mod_cast hx
      exact ((Int.lt_zpow_iff_log_lt Nat.one_lt_two (abs_pos.mpr hne)).mp hbelow).le
  apply zpow_le_zpow_right₀ (by norm_num)
  omega

/-- The spacing around a natural number of at most 53 bits is a power of one half. -/
theorem ulp64_natCast {n : ℕ} (hn : n < 2 ^ 53) : ∃ j : ℕ, ulp64 n = (2 ^ j)⁻¹ := by
  have hlog : Nat.log 2 n ≤ 52 := Nat.lt_succ_iff.mp (Nat.log_lt_of_lt_pow' (by decide) hn)
  refine ⟨52 - Nat.log 2 n, ?_⟩
  have hexponent : max ((Nat.log 2 n : ℤ) - 52) (-1074) = -((52 - Nat.log 2 n : ℕ) : ℤ) := by omega
  rw [ulp64, Nat.abs_cast, Int.log_natCast, hexponent, zpow_neg, zpow_natCast]

/-- A natural number of at most 53 bits is kept. -/
theorem round64_natCast {n : ℕ} (hn : n < 2 ^ 53) : round64 n = n := by
  obtain ⟨j, hulp⟩ := ulp64_natCast hn
  have hinteger : (n : ℚ) / ulp64 n = ((n * 2 ^ j : ℤ) : ℚ) := by
    rw [hulp, div_inv_eq_mul]
    push_cast
    rfl
  rw [round64, hinteger, roundEven_intCast, ← hinteger, div_mul_cancel₀ _ (ulp64_pos _).ne']

example : round64 (1 / 10) = 3602879701896397 / 36028797018963968 := by decide +kernel

/-- Rounding a quotient does not cross an integer that the quotient is well away from: a tenth
of a small natural number exceeds a natural number after rounding exactly when it does
before. -/
theorem lt_round64_div_ten_iff {n k : ℕ} (hn : n < 2 ^ 16) :
    (k : ℚ) < round64 (n / 10) ↔ 10 * k < n := by
  have hn' : (n : ℚ) < 2 ^ 16 := by exact_mod_cast hn
  have hnonneg : (0 : ℚ) ≤ n := Nat.cast_nonneg n
  have hsmall : |(n : ℚ) / 10| < 2 ^ 16 := by
    rw [abs_of_nonneg (by linarith)]
    linarith
  have hulp := ulp64_le hsmall
  have hround := abs_le.mp (abs_round64_sub_le ((n : ℚ) / 10))
  have htiny : (2 : ℚ) ^ (((16 : ℕ) : ℤ) - 52) ≤ 1 / 100 := by norm_num
  rcases lt_trichotomy (10 * k) n with hlt | heq | hgt
  · refine iff_of_true ?_ hlt
    have hlt' : (10 : ℚ) * k + 1 ≤ n := by exact_mod_cast hlt
    linarith
  · have hexact : (n : ℚ) / 10 = k := by
      rw [← heq]
      push_cast
      linarith
    refine iff_of_false ?_ (by omega)
    rw [hexact, round64_natCast (by omega)]
    exact lt_irrefl _
  · refine iff_of_false ?_ (by omega)
    have hgt' : (n : ℚ) + 1 ≤ 10 * k := by exact_mod_cast hgt
    linarith

end Microcar.Core
