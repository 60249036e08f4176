import Mathlib.Data.Finset.Card
import Mathlib.Data.Finset.Range
import Mathlib.Data.Nat.Bitwise

/-!
# Words of two and four bytes

Composition and decomposition of words into bytes, as the casts and shifts of C do it.
Signed words travel as the unsigned word with the same bits.
-/

namespace Microcar.Core

/-- The word with the given high and low byte. -/
def wordOfBytes (hi lo : UInt8) : UInt16 := (hi.toUInt16 <<< 8) ||| lo.toUInt16

/-- The high byte of a word. -/
def hiByte (w : UInt16) : UInt8 := (w >>> 8).toUInt8

/-- The low byte of a word. -/
def loByte (w : UInt16) : UInt8 := w.toUInt8

/-- The value of a composed word. -/
theorem toNat_wordOfBytes (hi lo : UInt8) :
    (wordOfBytes hi lo).toNat = hi.toNat * 256 + lo.toNat := by
  have hhi : hi.toNat < 256 := hi.toNat_lt
  have hlo : lo.toNat < 2 ^ 8 := lo.toNat_lt
  have hor := Nat.shiftLeft_add_eq_or_of_lt hlo hi.toNat
  have hshift : hi.toNat <<< 8 = hi.toNat * 256 := Nat.shiftLeft_eq _ _
  have hsmall : hi.toNat * 256 % 65536 = hi.toNat * 256 := Nat.mod_eq_of_lt (by omega)
  rw [hshift] at hor
  simp [wordOfBytes, hshift, hsmall, hor]

/-- A word is recovered from its two bytes. -/
theorem wordOfBytes_hiByte_loByte (w : UInt16) : wordOfBytes (hiByte w) (loByte w) = w := by
  have hw : w.toNat < 65536 := w.toNat_lt
  apply UInt16.toNat_inj.mp
  rw [toNat_wordOfBytes]
  have hhi : (hiByte w).toNat = w.toNat / 256 := by
    simp [hiByte, Nat.shiftRight_eq_div_pow]
    omega
  have hlo : (loByte w).toNat = w.toNat % 256 := by
    simp [loByte]
  omega

/-- Two words of two bytes are equal exactly when their bytes are. -/
theorem wordOfBytes_inj {hi lo hi' lo' : UInt8} :
    wordOfBytes hi lo = wordOfBytes hi' lo' ↔ hi = hi' ∧ lo = lo' := by
  rw [← UInt16.toNat_inj, toNat_wordOfBytes, toNat_wordOfBytes, ← UInt8.toNat_inj,
    ← UInt8.toNat_inj]
  have hlo : lo.toNat < 256 := lo.toNat_lt
  have hlo' : lo'.toNat < 256 := lo'.toNat_lt
  omega

/-- A signed word and the unsigned word with the same bits. -/
theorem toInt_eq_toNat_toUInt16 (t : Int16) :
    t.toInt = if t.toUInt16.toNat < 32768 then (t.toUInt16.toNat : Int)
      else (t.toUInt16.toNat : Int) - 65536 := by
  have hbits : t.toInt = t.toBitVec.toInt := rfl
  have hword : t.toUInt16.toNat = t.toBitVec.toNat := rfl
  rw [hbits, hword, BitVec.toInt_eq_toNat_cond]
  split <;> split <;> omega

/-- The word of four bytes, highest first. -/
def dwordOfBytes (b3 b2 b1 b0 : UInt8) : UInt32 :=
  (b3.toUInt32 <<< 24) ||| (b2.toUInt32 <<< 16) ||| (b1.toUInt32 <<< 8) ||| b0.toUInt32

/-- The value of a word composed of four bytes. -/
theorem toNat_dwordOfBytes (b3 b2 b1 b0 : UInt8) :
    (dwordOfBytes b3 b2 b1 b0).toNat =
      b3.toNat * 2 ^ 24 + b2.toNat * 2 ^ 16 + b1.toNat * 2 ^ 8 + b0.toNat := by
  have h3 : b3.toNat < 256 := b3.toNat_lt
  have h2 : b2.toNat < 256 := b2.toNat_lt
  have h1 : b1.toNat < 256 := b1.toNat_lt
  have h0 : b0.toNat < 256 := b0.toNat_lt
  have hor1 := Nat.shiftLeft_add_eq_or_of_lt (show b0.toNat < 2 ^ 8 by omega) b1.toNat
  have hor2 := Nat.shiftLeft_add_eq_or_of_lt
    (show b1.toNat <<< 8 + b0.toNat < 2 ^ 16 by rw [Nat.shiftLeft_eq]; omega) b2.toNat
  have hor3 := Nat.shiftLeft_add_eq_or_of_lt
    (show b2.toNat <<< 16 + (b1.toNat <<< 8 + b0.toNat) < 2 ^ 24 by
      rw [Nat.shiftLeft_eq, Nat.shiftLeft_eq]; omega) b3.toNat
  have hbits : (dwordOfBytes b3 b2 b1 b0).toNat =
      b3.toNat <<< 24 ||| (b2.toNat <<< 16 ||| (b1.toNat <<< 8 ||| b0.toNat)) := by
    have hmod3 : b3.toNat <<< 24 % 4294967296 = b3.toNat <<< 24 := by
      rw [Nat.shiftLeft_eq]
      omega
    have hmod2 : b2.toNat <<< 16 % 4294967296 = b2.toNat <<< 16 := by
      rw [Nat.shiftLeft_eq]
      omega
    have hmod1 : b1.toNat <<< 8 % 4294967296 = b1.toNat <<< 8 := by
      rw [Nat.shiftLeft_eq]
      omega
    simp [dwordOfBytes, hmod3, hmod2, hmod1, Nat.or_assoc]
  rw [hbits, ← hor1, ← hor2, ← hor3, Nat.shiftLeft_eq, Nat.shiftLeft_eq, Nat.shiftLeft_eq]
  omega

/-- Two words of four bytes are equal exactly when their bytes are. -/
theorem dwordOfBytes_inj {b3 b2 b1 b0 c3 c2 c1 c0 : UInt8} :
    dwordOfBytes b3 b2 b1 b0 = dwordOfBytes c3 c2 c1 c0 ↔
      b3 = c3 ∧ b2 = c2 ∧ b1 = c1 ∧ b0 = c0 := by
  rw [← UInt32.toNat_inj, toNat_dwordOfBytes, toNat_dwordOfBytes, ← UInt8.toNat_inj,
    ← UInt8.toNat_inj, ← UInt8.toNat_inj, ← UInt8.toNat_inj]
  have hb2 : b2.toNat < 256 := b2.toNat_lt
  have hb1 : b1.toNat < 256 := b1.toNat_lt
  have hb0 : b0.toNat < 256 := b0.toNat_lt
  have hc2 : c2.toNat < 256 := c2.toNat_lt
  have hc1 : c1.toNat < 256 := c1.toNat_lt
  have hc0 : c0.toNat < 256 := c0.toNat_lt
  omega

/-- The value of the byte above a shift. -/
theorem toNat_shiftRight_toUInt8 (w k : UInt32) (hk : k.toNat < 32) :
    (w >>> k).toUInt8.toNat = w.toNat / 2 ^ k.toNat % 256 := by
  simp [Nat.shiftRight_eq_div_pow, Nat.mod_eq_of_lt hk]

/-- A word is recovered from its four bytes. -/
theorem dwordOfBytes_shifts (w : UInt32) :
    dwordOfBytes (w >>> 24).toUInt8 (w >>> 16).toUInt8 (w >>> 8).toUInt8 w.toUInt8 = w := by
  have hw : w.toNat < 2 ^ 32 := w.toNat_lt
  have h3 : (w >>> 24).toUInt8.toNat = w.toNat / 2 ^ 24 % 256 :=
    toNat_shiftRight_toUInt8 w 24 (by decide)
  have h2 : (w >>> 16).toUInt8.toNat = w.toNat / 2 ^ 16 % 256 :=
    toNat_shiftRight_toUInt8 w 16 (by decide)
  have h1 : (w >>> 8).toUInt8.toNat = w.toNat / 2 ^ 8 % 256 :=
    toNat_shiftRight_toUInt8 w 8 (by decide)
  have h0 : w.toUInt8.toNat = w.toNat % 256 := UInt32.toNat_toUInt8 w
  apply UInt32.toNat_inj.mp
  rw [toNat_dwordOfBytes, h3, h2, h1, h0]
  omega

/-- A list of fewer than 256 bytes misses one. -/
theorem exists_byte_not_mem {l : List UInt8} (h : l.length < 256) : ∃ b, b ∉ l := by
  by_contra hall
  have hall' : ∀ b, b ∈ l := fun b => not_not.mp fun hb => hall ⟨b, hb⟩
  have hsub : Finset.range 256 ⊆ (l.map UInt8.toNat).toFinset := by
    intro n hn
    rw [List.mem_toFinset, List.mem_map]
    refine ⟨UInt8.ofNat n, hall' _, ?_⟩
    exact UInt8.toNat_ofNat_of_lt' (Finset.mem_range.mp hn)
  have hcard := Finset.card_le_card hsub
  have hlist := List.toFinset_card_le (l.map UInt8.toNat)
  rw [Finset.card_range] at hcard
  rw [List.length_map] at hlist
  omega

end Microcar.Core
