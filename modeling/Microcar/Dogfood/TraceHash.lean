import Microcar.Core.Mixing
import Microcar.Core.Numerals
import Microcar.Core.Words

/-!
# Trace hashing

`trace_hash` is the 64-bit FNV-1a hash of the lines with a newline between two of them, written
in sixteen hex digits. Each of its steps is injective in the state and in the byte.
-/

namespace Microcar.Dogfood

open Microcar.Core

/-- Where FNV-1a starts. -/
def fnvOffsetBasis : UInt64 := 0xcbf29ce484222325

/-- What FNV-1a multiplies by. -/
def fnvPrime : UInt64 := 0x00000100000001b3

/-- One byte of the hash input: `hash ^= byte; hash = hash.wrapping_mul(FNV_PRIME)`. -/
def absorb (hash : UInt64) (byte : UInt8) : UInt64 := (hash ^^^ byte.toUInt64) * fnvPrime

/-- One line with its index: the separator goes in front of every line but the first. -/
def absorbLine (hash : UInt64) (line : String × Nat) : UInt64 :=
  (utf8 line.1).foldl absorb (if 0 < line.2 then absorb hash 0x0A else hash)

/-- The hash of a trace in sixteen hexadecimal digits. -/
def traceHash (lines : List String) : String :=
  String.ofList (padded 16 16 (lines.zipIdx.foldl absorbLine fnvOffsetBasis).toNat)

/-- The lines as one stream of bytes, joined by newlines. -/
def joined (lines : List String) : List UInt8 := unwords 0x0A (lines.map utf8)

theorem fnvPrime_mul_inverse : fnvPrime * 0xce965057aff6957b = 1 := by decide

theorem absorb_state_injective (byte : UInt8) : Function.Injective (absorb · byte) :=
  (mul_right_injective_of_inverse fnvPrime_mul_inverse).comp (xor_right_injective byte.toUInt64)

theorem absorb_byte_injective (hash : UInt64) : Function.Injective (absorb hash) := by
  have hwiden : Function.Injective UInt8.toUInt64 := by
    intro a b h
    apply UInt8.toNat_inj.mp
    rw [← UInt8.toNat_toUInt64, ← UInt8.toNat_toUInt64, h]
  exact (mul_right_injective_of_inverse fnvPrime_mul_inverse).comp
    ((xor_left_injective hash).comp hwiden)

/-- Behind the first line every line brings its separator along. -/
theorem foldl_absorbLine_succ (lines : List String) (hash : UInt64) (idx : Nat) :
    (lines.zipIdx (idx + 1)).foldl absorbLine hash =
      ((lines.map utf8).flatMap (0x0A :: ·)).foldl absorb hash := by
  induction lines generalizing hash idx with
  | nil => rfl
  | cons line lines ih =>
    rw [List.zipIdx_cons, List.foldl_cons, ih, List.map_cons, List.flatMap_cons,
      List.foldl_append, List.foldl_cons, absorbLine, if_pos (Nat.succ_pos idx)]

/-- The hash is taken over the joined stream. -/
theorem foldl_absorbLine (lines : List String) (hash : UInt64) :
    lines.zipIdx.foldl absorbLine hash = (joined lines).foldl absorb hash := by
  rcases lines with _ | ⟨line, lines⟩
  · rfl
  · rw [List.zipIdx_cons, List.foldl_cons, foldl_absorbLine_succ, joined, List.map_cons,
      unwords_cons, List.foldl_append, absorbLine, if_neg (Nat.lt_irrefl 0)]

/-- The rendering shows every bit of the state. -/
theorem traceHash_eq_iff (xs ys : List String) :
    traceHash xs = traceHash ys ↔
      (joined xs).foldl absorb fnvOffsetBasis = (joined ys).foldl absorb fnvOffsetBasis := by
  rw [traceHash, traceHash, String.ofList_inj, foldl_absorbLine, foldl_absorbLine,
    (padded_injective (by omega) (by omega) 16).eq_iff, UInt64.toNat_inj]

/-- Traces whose joined streams differ in one byte have different hashes. -/
theorem traceHash_ne_of_one_byte {xs ys : List String}
    (hlen : (joined xs).length = (joined ys).length)
    (hdiff : ∃! i : Nat, (joined xs)[i]? ≠ (joined ys)[i]?) : traceHash xs ≠ traceHash ys := by
  rw [Ne, traceHash_eq_iff]
  exact foldl_ne_of_one_difference absorb_state_injective absorb_byte_injective _ hlen hdiff

/-- A line boundary against a content byte. -/
theorem traceHash_ne_boundary :
    traceHash [String.ofList ['a'], String.ofList ['b']] ≠
      traceHash [String.ofList ['a', 'x', 'b']] := by
  have hxs : joined [String.ofList ['a'], String.ofList ['b']] = [0x61, 0x0A, 0x62] := by
    simp only [joined, List.map_cons, utf8_ofList]
    rfl
  have hys : joined [String.ofList ['a', 'x', 'b']] = [0x61, 0x78, 0x62] := by
    simp only [joined, List.map_cons, utf8_ofList]
    rfl
  apply traceHash_ne_of_one_byte
  · rw [hxs, hys]
    rfl
  · rw [hxs, hys]
    refine ⟨1, by decide, fun i hi => ?_⟩
    rcases i with _ | _ | _ | i
    · exact absurd rfl hi
    · rfl
    · exact absurd rfl hi
    · exact absurd rfl hi

end Microcar.Dogfood
