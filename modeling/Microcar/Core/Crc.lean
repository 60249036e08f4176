import Mathlib.Algebra.Field.ZMod
import Mathlib.Algebra.Polynomial.Div
import Mathlib.Algebra.Polynomial.FieldDivision
import Mathlib.RingTheory.AdjoinRoot
import Microcar.Core.Bytes

/-!
# Reflected cyclic redundancy checks

A reflected register holds a remainder over GF(2) with its highest coefficient in the lowest
bit. Shifting it multiplies by `X`, and feeding bytes computes the remainder of the message
polynomial. A generator with a constant term makes every shift invertible, so no change of the
message that fits into the register escapes the check.
-/

namespace Microcar.Core

open Polynomial

variable {w n : Nat}

/-- Shift out the lowest bit; if it was set, subtract the generator. -/
def crcShift (g s : BitVec w) : BitVec w := if s.getLsbD 0 then s >>> 1 ^^^ g else s >>> 1

/-- Feed a byte: its bits enter at the low end and are shifted out one by one. -/
def crcByte (g s : BitVec w) (b : BitVec n) : BitVec w := (crcShift g)^[n] (s ^^^ b.setWidth w)

/-- Feed a message. -/
def crcRun (g s : BitVec w) (data : List (BitVec n)) : BitVec w := data.foldl (crcByte g) s

/-- A message in two parts. -/
theorem crcRun_append (g s : BitVec w) (front back : List (BitVec n)) :
    crcRun g s (front ++ back) = crcRun g (crcRun g s front) back :=
  List.foldl_append

/-! ### Polynomials over GF(2) -/

/-- The polynomial of a register: the highest bit is the constant term. -/
noncomputable def registerPoly (s : BitVec w) : (ZMod 2)[X] :=
  ∑ i ∈ Finset.range w, if s.getMsbD i then X ^ i else 0

/-- The register of a polynomial of degree below the width. -/
noncomputable def polyRegister (w : Nat) (p : (ZMod 2)[X]) : BitVec w :=
  Function.invFun registerPoly p

/-- The polynomial of a generator; its highest term has no bit. -/
noncomputable def generatorPoly (g : BitVec w) : (ZMod 2)[X] := X ^ w + registerPoly g

/-- The polynomial of a message: bytes in order, the lowest bit of each first. -/
noncomputable def messagePoly : List (BitVec n) → (ZMod 2)[X]
  | [] => 0
  | b :: data => registerPoly b * X ^ (n * data.length) + messagePoly data

/-- The coefficients are the bits, the most significant one first. -/
@[simp]
theorem coeff_registerPoly (s : BitVec w) (i : Nat) :
    (registerPoly s).coeff i = if s.getMsbD i then 1 else 0 := by
  have hterm : ∀ j, (if s.getMsbD j then X ^ j else 0 : (ZMod 2)[X]).coeff i =
      if i = j then (if s.getMsbD i then 1 else 0) else 0 := by
    intro j
    split
    · rename_i hj
      rw [coeff_X_pow]
      split
      · rename_i hij
        rw [hij, if_pos hj]
      · rfl
    · rename_i hj
      split
      · rename_i hij
        rw [hij, if_neg hj, coeff_zero]
      · exact coeff_zero i
  rw [registerPoly, finsetSum_coeff, Finset.sum_congr rfl fun j _ => hterm j, Finset.sum_ite_eq]
  split
  · rfl
  · rename_i hi
    rw [s.getMsbD_of_ge i (by simpa using hi)]
    rfl

/-- A register is determined by its polynomial. -/
theorem registerPoly_injective : Function.Injective (registerPoly (w := w)) := by
  intro s t h
  apply BitVec.eq_of_getMsbD_eq
  intro i _
  have hcoeff := congrArg (fun p => coeff p i) h
  simp only [coeff_registerPoly] at hcoeff
  cases hs : s.getMsbD i <;> cases ht : t.getMsbD i <;> simp_all

/-- And is read back from it. -/
theorem polyRegister_registerPoly (s : BitVec w) : polyRegister w (registerPoly s) = s :=
  Function.leftInverse_invFun registerPoly_injective s

/-- The difference of two registers is their sum. -/
theorem registerPoly_xor (s t : BitVec w) :
    registerPoly (s ^^^ t) = registerPoly s + registerPoly t := by
  ext i
  rw [coeff_add, coeff_registerPoly, coeff_registerPoly, coeff_registerPoly, BitVec.getMsbD_xor]
  cases s.getMsbD i <;> cases t.getMsbD i <;> decide

/-- The polynomial of a register has a degree below its width. -/
theorem degree_registerPoly_lt (s : BitVec w) : (registerPoly s).degree < w := by
  rw [degree_lt_iff_coeff_zero]
  intro i hi
  rw [coeff_registerPoly, s.getMsbD_of_ge i hi]
  rfl

/-- The generator is monic. -/
theorem monic_generatorPoly (g : BitVec w) : (generatorPoly g).Monic :=
  monic_X_pow_add (degree_registerPoly_lt g)

/-- Its degree is the width of the register. -/
theorem degree_generatorPoly (g : BitVec w) : (generatorPoly g).degree = w := by
  rw [generatorPoly, degree_add_eq_left_of_degree_lt, degree_X_pow]
  rw [degree_X_pow]
  exact degree_registerPoly_lt g

/-! ### Feeding is multiplication in the quotient -/

/-- The residue class of a register. -/
noncomputable def residue (g s : BitVec w) : AdjoinRoot (generatorPoly g) :=
  AdjoinRoot.mk (generatorPoly g) (registerPoly s)

/-- A register is the remainder of every polynomial in its class. -/
theorem registerPoly_eq_modByMonic {g s : BitVec w} {p : (ZMod 2)[X]}
    (h : residue g s = AdjoinRoot.mk (generatorPoly g) p) :
    registerPoly s = p %ₘ generatorPoly g := by
  obtain ⟨q, hq⟩ := AdjoinRoot.mk_eq_mk.mp h.symm
  have hdegree : (registerPoly s).degree < (generatorPoly g).degree := by
    rw [degree_generatorPoly]
    exact degree_registerPoly_lt s
  refine (div_modByMonic_unique q (registerPoly s) (monic_generatorPoly g) ⟨?_, hdegree⟩).2.symm
  rw [← hq, add_sub_cancel]

/-- A register is determined by its residue. -/
theorem residue_injective (g : BitVec w) : Function.Injective (residue g) := by
  intro s t h
  apply registerPoly_injective
  rw [registerPoly_eq_modByMonic h, ← registerPoly_eq_modByMonic (g := g) (s := t) rfl]

/-- Residues add up. -/
theorem residue_xor (g s t : BitVec w) : residue g (s ^^^ t) = residue g s + residue g t := by
  rw [residue, registerPoly_xor, map_add]
  rfl

/-- The bit that a shift to the right drops is the highest coefficient. -/
theorem X_mul_registerPoly (s : BitVec w) :
    X * registerPoly s = registerPoly (s >>> 1) + if s.getLsbD 0 then X ^ w else 0 := by
  have hlow : s.getLsbD 0 = (decide (0 < w) && s.getMsbD (w - 1)) := by
    rw [BitVec.getLsbD_eq_getMsbD, Nat.sub_zero]
  ext i
  cases i with
  | zero =>
    rw [coeff_X_mul_zero, coeff_add, coeff_registerPoly, BitVec.getMsbD_ushiftRight, hlow]
    rcases Nat.eq_zero_or_pos w with hw | hw
    · simp [hw]
    · simp [apply_ite (fun p : (ZMod 2)[X] => p.coeff 0), coeff_X_pow, Nat.ne_of_lt hw]
  | succ i =>
    rw [coeff_X_mul, coeff_add, coeff_registerPoly, coeff_registerPoly,
      BitVec.getMsbD_ushiftRight, hlow, apply_ite (fun p : (ZMod 2)[X] => p.coeff (i + 1)),
      coeff_X_pow, coeff_zero, Nat.add_sub_cancel]
    rcases Nat.lt_trichotomy (i + 1) w with hi | hi | hi
    · simp [hi, Nat.ne_of_lt hi]
    · simp [← hi]
    · simp [s.getMsbD_of_ge i (by omega), Nat.ne_of_gt hi]

/-- A shift multiplies by `X` modulo the generator. -/
theorem residue_crcShift (g s : BitVec w) :
    residue g (crcShift g s) = AdjoinRoot.root (generatorPoly g) * residue g s := by
  have hproduct : AdjoinRoot.root (generatorPoly g) * residue g s = residue g (s >>> 1) +
      AdjoinRoot.mk (generatorPoly g) (if s.getLsbD 0 then X ^ w else 0) := by
    rw [residue, ← AdjoinRoot.mk_X, ← map_mul, X_mul_registerPoly, map_add]
    rfl
  rw [hproduct, crcShift]
  split
  · rw [residue_xor]
    congr 1
    -- the generator is zero in the quotient, and minus is plus
    apply AdjoinRoot.mk_eq_mk.mpr
    rw [CharTwo.sub_eq_add, add_comm]
    exact dvd_refl (generatorPoly g)
  · rw [map_zero, add_zero]

/-- Any number of shifts. -/
theorem residue_iterate_crcShift (g : BitVec w) (k : Nat) (s : BitVec w) :
    residue g ((crcShift g)^[k] s) = AdjoinRoot.root (generatorPoly g) ^ k * residue g s := by
  induction k with
  | zero => rw [Function.iterate_zero, id_eq, pow_zero, one_mul]
  | succ k ih =>
    rw [Function.iterate_succ_apply', residue_crcShift, ih, ← mul_assoc, ← pow_succ']

/-- A byte in the low end of the register is divided by the missing powers. -/
theorem X_pow_mul_registerPoly_setWidth (b : BitVec n) (hn : n ≤ w) :
    X ^ n * registerPoly (b.setWidth w) = X ^ w * registerPoly b := by
  ext i
  rw [coeff_X_pow_mul', coeff_X_pow_mul', coeff_registerPoly, coeff_registerPoly,
    BitVec.getMsbD_setWidth]
  by_cases hi : w ≤ i
  · rw [if_pos hi, if_pos (by omega), show i - n + n - w = i - w by omega]
    simp [show w - n ≤ i - n by omega]
  · rw [if_neg hi]
    by_cases hni : n ≤ i
    · simp [hni, hi]
    · rw [if_neg hni]

/-- Feeding a byte appends it to the message. -/
theorem residue_crcByte (g s : BitVec w) (b : BitVec n) (hn : n ≤ w) :
    residue g (crcByte g s b) = AdjoinRoot.root (generatorPoly g) ^ n * residue g s +
      AdjoinRoot.mk (generatorPoly g) (X ^ w * registerPoly b) := by
  rw [crcByte, residue_iterate_crcShift, residue_xor, mul_add,
    ← X_pow_mul_registerPoly_setWidth b hn, map_mul, map_pow, AdjoinRoot.mk_X]
  rfl

/-- The register behind a message holds the start value and the message, shifted past each
other. -/
theorem residue_crcRun (g : BitVec w) (hn : n ≤ w) (data : List (BitVec n)) (s : BitVec w) :
    residue g (crcRun g s data) = AdjoinRoot.mk (generatorPoly g)
      (X ^ (n * data.length) * registerPoly s + X ^ w * messagePoly data) := by
  induction data generalizing s with
  | nil =>
    rw [messagePoly, List.length_nil, Nat.mul_zero, pow_zero, one_mul, mul_zero, add_zero]
    rfl
  | cons b data ih =>
    have hbyte : residue g (crcByte g s b) = AdjoinRoot.mk (generatorPoly g)
        (X ^ n * registerPoly s + X ^ w * registerPoly b) := by
      rw [residue_crcByte g s b hn, map_add, map_mul, map_pow, AdjoinRoot.mk_X]
      rfl
    have hpoly : X ^ (n * (b :: data).length) * registerPoly s + X ^ w * messagePoly (b :: data) =
        X ^ (n * data.length) * (X ^ n * registerPoly s + X ^ w * registerPoly b) +
          X ^ w * messagePoly data := by
      rw [List.length_cons, messagePoly]
      ring
    calc residue g (crcRun g (crcByte g s b) data)
        = AdjoinRoot.mk (generatorPoly g) (X ^ (n * data.length)) * residue g (crcByte g s b) +
            AdjoinRoot.mk (generatorPoly g) (X ^ w * messagePoly data) := by
          rw [ih, map_add, map_mul]
          rfl
      _ = AdjoinRoot.mk (generatorPoly g) (X ^ (n * (b :: data).length) * registerPoly s +
            X ^ w * messagePoly (b :: data)) := by
          rw [hbyte, ← map_mul, ← map_add, hpoly]

/-- The register behind a message is the remainder of its polynomial. -/
theorem registerPoly_crcRun (g s : BitVec w) (hn : n ≤ w) (data : List (BitVec n)) :
    registerPoly (crcRun g s data) =
      (X ^ (n * data.length) * registerPoly s + X ^ w * messagePoly data) %ₘ generatorPoly g :=
  registerPoly_eq_modByMonic (residue_crcRun g hn data s)

/-! ### Detection -/

/-- A generator with a constant term has no factor `X`. -/
theorem isUnit_root {g : BitVec w} (hg : g.getMsbD 0 = true) :
    IsUnit (AdjoinRoot.root (generatorPoly g)) := by
  have hpos : 0 < w := by
    by_contra hw
    rw [g.getMsbD_of_ge 0 (by omega)] at hg
    cases hg
  have hconstant : (generatorPoly g).coeff 0 = 1 := by
    rw [generatorPoly, coeff_add, coeff_registerPoly, hg, coeff_X_pow, if_neg (by omega)]
    rfl
  have hnotdvd : ¬ X ∣ generatorPoly g := by
    rw [X_dvd_iff, hconstant]
    exact one_ne_zero
  obtain ⟨a, b, hab⟩ := irreducible_X.coprime_iff_not_dvd.mpr hnotdvd
  have hinverse := congrArg (AdjoinRoot.mk (generatorPoly g)) hab
  rw [map_add, map_mul, map_mul, AdjoinRoot.mk_self, mul_zero, add_zero, AdjoinRoot.mk_X,
    map_one] at hinverse
  exact IsUnit.of_mul_eq_one_right _ hinverse

/-- A common tail does not hide a difference of the registers before it. -/
theorem crcRun_state_injective {g : BitVec w} (hg : g.getMsbD 0 = true) (hn : n ≤ w)
    (data : List (BitVec n)) : Function.Injective fun s => crcRun g s data := by
  intro s t h
  apply residue_injective g
  have hrun : residue g (crcRun g s data) = residue g (crcRun g t data) := congrArg (residue g) h
  rw [residue_crcRun g hn, residue_crcRun g hn, map_add, map_add, add_left_inj, map_mul, map_mul,
    map_pow, AdjoinRoot.mk_X] at hrun
  exact ((isUnit_root hg).pow _).mul_left_cancel hrun

/-- The polynomial of a message has a degree below its number of bits. -/
theorem degree_messagePoly_lt (data : List (BitVec n)) :
    (messagePoly data).degree < (n * data.length : Nat) := by
  rw [degree_lt_iff_coeff_zero]
  induction data with
  | nil =>
    intro i _
    exact coeff_zero i
  | cons b data ih =>
    intro i hi
    rw [List.length_cons, Nat.mul_succ] at hi
    rw [messagePoly, coeff_add, ih i (by omega), coeff_mul_X_pow', if_pos (by omega),
      coeff_registerPoly, b.getMsbD_of_ge _ (by omega)]
    rfl

/-- Messages of equal length have different polynomials. -/
theorem messagePoly_injective {data data' : List (BitVec n)}
    (hlength : data.length = data'.length) (h : messagePoly data = messagePoly data') :
    data = data' := by
  induction data generalizing data' with
  | nil => exact (List.length_eq_zero_iff.mp hlength.symm).symm
  | cons b data ih =>
    obtain _ | ⟨b', data'⟩ := data'
    · cases hlength
    · have hlength' : data.length = data'.length := Nat.succ.inj hlength
      have hsplit : ∀ (c : BitVec n) (rest : List (BitVec n)), rest.length = data.length →
          messagePoly (c :: rest) /ₘ X ^ (n * data.length) = registerPoly c ∧
            messagePoly (c :: rest) %ₘ X ^ (n * data.length) = messagePoly rest := by
        intro c rest hrest
        refine div_modByMonic_unique _ _ (monic_X_pow _) ⟨?_, ?_⟩
        · rw [messagePoly, hrest]
          ring
        · rw [degree_X_pow, ← hrest]
          exact degree_messagePoly_lt rest
      obtain ⟨hb, hdata⟩ := hsplit b data rfl
      obtain ⟨hb', hdata'⟩ := hsplit b' data' hlength'.symm
      rw [h] at hb hdata
      rw [registerPoly_injective (hb.symm.trans hb'), ih hlength' (hdata.symm.trans hdata')]

/-- Messages of equal length that fit into the register lead to different registers. -/
theorem crcRun_burst {g : BitVec w} (hg : g.getMsbD 0 = true) (hn : n ≤ w) {s : BitVec w}
    {data data' : List (BitVec n)} (hlength : data.length = data'.length)
    (hfit : n * data.length ≤ w) (h : crcRun g s data = crcRun g s data') : data = data' := by
  apply messagePoly_injective hlength
  have hrun : residue g (crcRun g s data) = residue g (crcRun g s data') := congrArg (residue g) h
  rw [residue_crcRun g hn, residue_crcRun g hn, hlength, map_add, map_add, add_right_inj, map_mul,
    map_mul, map_pow, AdjoinRoot.mk_X] at hrun
  have hdvd := AdjoinRoot.mk_eq_mk.mp (((isUnit_root hg).pow _).mul_left_cancel hrun)
  have hsmall : ∀ d : List (BitVec n), d.length = data.length → (messagePoly d).degree < w := by
    intro d hd
    refine (degree_messagePoly_lt d).trans_le ?_
    rw [hd]
    exact_mod_cast hfit
  by_contra hne
  refine (monic_generatorPoly g).not_dvd_of_degree_lt (sub_ne_zero.mpr hne) ?_ hdvd
  rw [degree_generatorPoly]
  exact (degree_sub_le _ _).trans_lt (max_lt (hsmall data rfl) (hsmall data' hlength.symm))

/-- A change inside a window that fits into the register leads to another register, whatever
surrounds the window. -/
theorem crcRun_window {g : BitVec w} (hg : g.getMsbD 0 = true) (hn : n ≤ w) {s : BitVec w}
    {front window window' back : List (BitVec n)} (hlength : window.length = window'.length)
    (hfit : n * window.length ≤ w)
    (h : crcRun g s (front ++ window ++ back) = crcRun g s (front ++ window' ++ back)) :
    window = window' := by
  rw [crcRun_append, crcRun_append, crcRun_append, crcRun_append] at h
  exact crcRun_burst hg hn hlength hfit (crcRun_state_injective hg hn back h)

/-! ### Messages with their check word -/

/-- The bits behind others have the larger powers. -/
theorem registerPoly_append {m : Nat} (s : BitVec w) (t : BitVec m) :
    registerPoly (s ++ t) = registerPoly s + X ^ w * registerPoly t := by
  ext i
  rw [coeff_add, coeff_registerPoly, coeff_registerPoly, coeff_X_pow_mul', coeff_registerPoly,
    BitVec.getMsbD_append]
  by_cases hi : w ≤ i
  · rw [if_pos hi, if_pos hi, s.getMsbD_of_ge i hi]
    simp
  · rw [if_neg hi, if_neg hi, add_zero]

/-- A register in two parts, as a number. -/
theorem toNat_append_eq_add {m : Nat} (s : BitVec w) (t : BitVec m) :
    (s ++ t).toNat = s.toNat * 2 ^ m + t.toNat := by
  rw [BitVec.toNat_append, ← Nat.shiftLeft_add_eq_or_of_lt t.isLt, Nat.shiftLeft_eq]

/-- A word sent lowest byte first is a message of its own polynomial. -/
theorem registerPoly_dwordOfBytes (b3 b2 b1 b0 : UInt8) :
    registerPoly (dwordOfBytes b3 b2 b1 b0).toBitVec =
      messagePoly ([b0, b1, b2, b3].map UInt8.toBitVec) := by
  have happend : (dwordOfBytes b3 b2 b1 b0).toBitVec =
      b3.toBitVec ++ b2.toBitVec ++ b1.toBitVec ++ b0.toBitVec := by
    apply BitVec.eq_of_toNat_eq
    rw [toNat_append_eq_add, toNat_append_eq_add, toNat_append_eq_add, UInt32.toNat_toBitVec,
      toNat_dwordOfBytes]
    simp only [UInt8.toNat_toBitVec]
    omega
  rw [happend, registerPoly_append, registerPoly_append, registerPoly_append]
  simp only [List.map_cons, List.map_nil, messagePoly, List.length_cons, List.length_nil]
  ring

/-- Behind a message and its check word, the inverted register, the register no longer depends
on the message. -/
theorem residue_crcRun_check {g s mask : BitVec w} (hn : n ≤ w) {data check : List (BitVec n)}
    (hlength : n * check.length = w)
    (hcheck : messagePoly check = registerPoly (crcRun g s data ^^^ mask)) :
    residue g (crcRun g s (data ++ check)) =
      AdjoinRoot.mk (generatorPoly g) (X ^ w * registerPoly mask) := by
  rw [crcRun_append, residue_crcRun g hn, hlength, ← mul_add, hcheck, registerPoly_xor,
    ← add_assoc, CharTwo.add_self_eq_zero, zero_add]

end Microcar.Core
