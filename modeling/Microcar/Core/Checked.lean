import Mathlib.Data.Int.Notation
import Mathlib.Data.Nat.Notation
import Mathlib.Order.Lattice
import Mathlib.Algebra.Order.Ring.Int

/-!
# Checked and saturating machine arithmetic

Arithmetic as a language with overflow checks performs it: an operation whose exact result
does not fit its type stops the program, which is the missing value. Saturating operations
replace such a result by the nearest bound.
-/

namespace Microcar.Core

/-- The exact result of a signed operation, if it fits the width. -/
def checkedInt (bits : Nat) (x : Int) : Option Int :=
  if -2 ^ (bits - 1) ≤ x ∧ x < 2 ^ (bits - 1) then some x else none

/-- The exact result of a signed operation, or the bound it runs over. -/
def saturateInt (bits : Nat) (x : Int) : Int :=
  max (-2 ^ (bits - 1)) (min x (2 ^ (bits - 1) - 1))

/-- The exact value of an unsigned word, if it fits the width. -/
def checkedNat (bits : Nat) (x : Int) : Option Nat :=
  if 0 ≤ x ∧ x < 2 ^ bits then some x.toNat else none

theorem checkedInt_eq_some {bits : Nat} {x y : Int} (h : checkedInt bits x = some y) :
    y = x ∧ -2 ^ (bits - 1) ≤ x ∧ x < 2 ^ (bits - 1) := by
  unfold checkedInt at h
  split at h
  · rename_i hfits
    exact ⟨(Option.some.inj h).symm, hfits⟩
  · exact nomatch h

theorem checkedNat_eq_some {bits : Nat} {x : Int} {n : Nat} (h : checkedNat bits x = some n) :
    n = x.toNat ∧ 0 ≤ x ∧ x < 2 ^ bits := by
  unfold checkedNat at h
  split at h
  · rename_i hfits
    exact ⟨(Option.some.inj h).symm, hfits⟩
  · exact nomatch h

/-- A result of 32 bits that fits is kept. -/
theorem checkedInt_32 {x : Int} (hlow : -2147483648 ≤ x) (hhigh : x ≤ 2147483647) :
    checkedInt 32 x = some x :=
  if_pos ⟨hlow, Int.lt_of_le_of_lt hhigh (by decide)⟩

/-- A result of 64 bits that fits is kept. -/
theorem checkedInt_64 {x : Int} (hlow : -9223372036854775808 ≤ x)
    (hhigh : x ≤ 9223372036854775807) : checkedInt 64 x = some x :=
  if_pos ⟨hlow, Int.lt_of_le_of_lt hhigh (by decide)⟩

/-- A result of 16 bits that fits is kept. -/
theorem checkedInt_16 {x : Int} (hlow : -32768 ≤ x) (hhigh : x ≤ 32767) :
    checkedInt 16 x = some x :=
  if_pos ⟨hlow, Int.lt_of_le_of_lt hhigh (by decide)⟩

/-- An unsigned value of 16 bits that fits is kept. -/
theorem checkedNat_16 {x : Int} (hlow : 0 ≤ x) (hhigh : x ≤ 65535) :
    checkedNat 16 x = some x.toNat :=
  if_pos ⟨hlow, Int.lt_of_le_of_lt hhigh (by decide)⟩

/-- An unsigned value of 8 bits that fits is kept. -/
theorem checkedNat_8 {x : Int} (hlow : 0 ≤ x) (hhigh : x ≤ 255) : checkedNat 8 x = some x.toNat :=
  if_pos ⟨hlow, Int.lt_of_le_of_lt hhigh (by decide)⟩

/-- A saturating result of 32 bits that fits is kept. -/
theorem saturateInt_32 {x : Int} (hlow : -2147483648 ≤ x) (hhigh : x ≤ 2147483647) :
    saturateInt 32 x = x := by
  have hbound : (2 : Int) ^ (32 - 1) = 2147483648 := rfl
  rw [saturateInt, hbound]
  omega

/-- A saturating result of 64 bits that fits is kept. -/
theorem saturateInt_64 {x : Int} (hlow : -9223372036854775808 ≤ x)
    (hhigh : x ≤ 9223372036854775807) : saturateInt 64 x = x := by
  have hbound : (2 : Int) ^ (64 - 1) = 9223372036854775808 := rfl
  rw [saturateInt, hbound]
  omega

/-- A division that truncates lies within one above the one that rounds down. -/
theorem tdiv_bounds (x : Int) {d : Int} (hd : 0 < d) : x / d ≤ x.tdiv d ∧ x.tdiv d ≤ x / d + 1 := by
  rw [Int.tdiv_eq_ediv, Int.sign_eq_one_of_pos hd]
  split
  · omega
  · omega

/-- The difference of two unsigned words, if it does not run below zero. -/
def checkedSub32 (a b : UInt32) : Option UInt32 := if b ≤ a then some (a - b) else none

/-- The successor of a byte, if it does not run over. -/
def checkedSucc8 (a : UInt8) : Option UInt8 := if a = 255 then none else some (a + 1)

/-- The predecessor of a byte, if it does not run below zero. -/
def checkedPred8 (a : UInt8) : Option UInt8 := if a = 0 then none else some (a - 1)

/-- A cast to the signed byte keeps a small value. -/
theorem toInt_toInt8_of_lt {b : UInt8} (h : b.toNat < 128) : b.toInt8.toInt = b.toNat := by
  have hbits : b.toInt8.toInt = b.toBitVec.toInt := rfl
  rw [hbits, BitVec.toInt_eq_toNat_of_lt]
  · rfl
  · show 2 * b.toNat < 2 ^ 8
    omega

/-- A cast to the signed word keeps a small value. -/
theorem toInt_toInt32_of_lt {w : UInt32} (h : w.toNat < 2147483648) :
    w.toInt32.toInt = w.toNat := by
  have hbits : w.toInt32.toInt = w.toBitVec.toInt := rfl
  rw [hbits, BitVec.toInt_eq_toNat_of_lt]
  · rfl
  · show 2 * w.toNat < 2 ^ 32
    omega

end Microcar.Core
