import Mathlib.Data.List.Basic
import Mathlib.Algebra.Order.Group.Nat

/-!
# Numerals

Reading a positional numeral back from the digits that `Nat.toDigits` writes, in any base up to
sixteen and with leading zeros.
-/

namespace Microcar.Core

/-- The value of a digit, letters in either case. -/
def digitValue (c : Char) : Option Nat :=
  if 0x30 ≤ c.toNat ∧ c.toNat ≤ 0x39 then some (c.toNat - 0x30)
  else if 0x41 ≤ c.toNat ∧ c.toNat ≤ 0x46 then some (c.toNat - 0x37)
  else if 0x61 ≤ c.toNat ∧ c.toNat ≤ 0x66 then some (c.toNat - 0x57)
  else none

/-- The value of a digit of the base. -/
def digitOf (base : Nat) (c : Char) : Option Nat :=
  (digitValue c).filter (· < base)

/-- The number that the digits stand for behind a leading part of value `acc`. -/
def numeral (base acc : Nat) : List Char → Option Nat
  | [] => some acc
  | c :: rest =>
    match digitOf base c with
    | some d => numeral base (acc * base + d) rest
    | none => none

variable {base acc n d : Nat}

/-- A digit is read as it is written. -/
theorem digitOf_digitChar (hbase : base ≤ 16) (hd : d < base) :
    digitOf base d.digitChar = some d := by
  have hvalue : ∀ d < 16, digitValue d.digitChar = some d := by decide
  rw [digitOf, hvalue d (by omega), Option.filter_some, if_pos (by simpa using hd)]

/-- The first digit goes into the accumulator. -/
theorem numeral_cons {c : Char} (h : digitOf base c = some d) (rest : List Char) :
    numeral base acc (c :: rest) = numeral base (acc * base + d) rest := by
  rw [numeral, h]

/-- Digits behind others go on from their value. -/
theorem numeral_append (before after : List Char) :
    numeral base acc (before ++ after) =
      (numeral base acc before).bind fun value => numeral base value after := by
  induction before generalizing acc with
  | nil => rfl
  | cons c before ih =>
    rw [List.cons_append, numeral, numeral]
    cases digitOf base c with
    | none => rfl
    | some d => exact ih

/-- What `Nat.toDigits` writes is read back. -/
theorem numeral_toDigits (hbase : 2 ≤ base) (hle : base ≤ 16) (n : Nat) :
    numeral base 0 (Nat.toDigits base n) = some n := by
  induction n using Nat.strong_induction_on with
  | _ n ih =>
    rw [Nat.toDigits_eq_if (by omega)]
    split
    · rename_i hlt
      rw [numeral_cons (digitOf_digitChar hle hlt), Nat.zero_mul, Nat.zero_add, numeral]
    · rename_i hge
      have hdiv : n / base < n := Nat.div_lt_self (by omega) (by omega)
      rw [numeral_append, ih _ hdiv, Option.bind_some,
        numeral_cons (digitOf_digitChar hle (Nat.mod_lt n (by omega))), Nat.mul_comm,
        Nat.div_add_mod, numeral]

/-- Leading zeros do not count. -/
theorem numeral_replicate_zero (hbase : 0 < base) (width : Nat) (text : List Char) :
    numeral base 0 (List.replicate width '0' ++ text) = numeral base 0 text := by
  induction width with
  | zero => rfl
  | succ width ih =>
    have hzero : digitOf base '0' = some 0 := by
      rw [digitOf, show digitValue '0' = some 0 from rfl, Option.filter_some,
        if_pos (by simpa using hbase)]
    rw [List.replicate_succ, List.cons_append, numeral_cons hzero, Nat.zero_mul]
    exact ih

/-- A number in a base, padded with zeros to a width. -/
def padded (base width n : Nat) : List Char := (Nat.toDigits base n).leftpad width '0'

/-- A padded numeral has the value it was made from. -/
theorem numeral_padded (hbase : 2 ≤ base) (hle : base ≤ 16) (width n : Nat) :
    numeral base 0 (padded base width n) = some n := by
  rw [padded, List.leftpad, numeral_replicate_zero (by omega), numeral_toDigits hbase hle]

/-- Numerals padded to one width are different for different numbers. -/
theorem padded_injective (hbase : 2 ≤ base) (hle : base ≤ 16) (width : Nat) :
    Function.Injective (padded base width) := by
  intro a b h
  apply Option.some.inj
  rw [← numeral_padded hbase hle width a, ← numeral_padded hbase hle width b, h]

/-- An integer in decimal digits, negative ones behind a minus sign. -/
def decimal (n : Int) : List Char :=
  if n < 0 then '-' :: Nat.toDigits 10 n.natAbs else Nat.toDigits 10 n.natAbs

/-- A negative decimal is the digits behind a sign. -/
theorem decimal_neg {n : Nat} (h : 0 < n) : decimal (-(n : Int)) = '-' :: Nat.toDigits 10 n := by
  rw [decimal, if_pos (by omega), Int.natAbs_neg, Int.natAbs_natCast]

/-- A decimal that is not negative is the digits. -/
theorem decimal_natCast (n : Nat) : decimal (n : Int) = Nat.toDigits 10 n := by
  rw [decimal, if_neg (by omega), Int.natAbs_natCast]

/-- The characters of a decimal number. -/
theorem mem_decimal {n : Int} {c : Char} (h : c ∈ decimal n) : c = '-' ∨ c.isDigit = true := by
  have hdigits : ∀ m : Nat, c ∈ Nat.toDigits 10 m → c.isDigit = true :=
    fun m hm => Nat.isDigit_of_mem_toDigits (by omega) (by omega) hm
  rw [decimal] at h
  split at h
  · rcases List.mem_cons.mp h with rfl | h
    · exact .inl rfl
    · exact .inr (hdigits _ h)
  · exact .inr (hdigits _ h)

/-- A decimal holds only digits and a sign. -/
theorem not_mem_decimal {c : Char} (hminus : c ≠ '-') (hdigit : c.isDigit = false) (n : Int) :
    c ∉ decimal n := by
  intro h
  rcases mem_decimal h with h | h
  · exact hminus h
  · rw [hdigit] at h
    exact Bool.false_ne_true h

end Microcar.Core
