import Mathlib.Data.List.Basic
import Mathlib.Logic.Function.Basic

/-!
# Mixing steps

A hash absorbs a stream byte by byte. Where the step is injective in the state for every byte
and injective in the byte for every state, streams that differ in one place end in different
states.
-/

namespace Microcar.Core

universe u v

variable {σ : Type u} {β : Type v} {step : σ → β → σ}

/-- If every step is injective in the state, so is the whole fold. -/
theorem foldl_injective (hstate : ∀ b, Function.Injective (step · b)) (bytes : List β) :
    Function.Injective fun s => bytes.foldl step s := by
  induction bytes with
  | nil => exact Function.injective_id
  | cons b bytes ih => exact ih.comp (hstate b)

/-- Streams that differ at a place and agree behind it part for good. -/
theorem foldl_ne (hstate : ∀ b, Function.Injective (step · b))
    (hbyte : ∀ s, Function.Injective (step s)) (s : σ) (before after : List β) {a b : β}
    (hne : a ≠ b) :
    (before ++ a :: after).foldl step s ≠ (before ++ b :: after).foldl step s := by
  rw [List.foldl_append, List.foldl_append, List.foldl_cons, List.foldl_cons]
  intro h
  exact hne (hbyte _ (foldl_injective hstate after h))

/-- Streams of one length with exactly one place where they differ. -/
theorem exists_one_difference {xs ys : List β} (hlen : xs.length = ys.length)
    (hdiff : ∃! i : Nat, xs[i]? ≠ ys[i]?) :
    ∃ before a b after, xs = before ++ a :: after ∧ ys = before ++ b :: after ∧ a ≠ b := by
  induction xs generalizing ys with
  | nil =>
    obtain ⟨i, hi, -⟩ := hdiff
    rw [List.eq_nil_of_length_eq_zero hlen.symm] at hi
    exact absurd rfl hi
  | cons x xs ih =>
    rcases ys with _ | ⟨y, ys⟩
    · simp at hlen
    · obtain ⟨i, hi, hunique⟩ := hdiff
      by_cases hxy : x = y
      · subst hxy
        rcases i with _ | i
        · exact absurd rfl hi
        · obtain ⟨before, a, b, after, rfl, rfl, hne⟩ :=
            ih (Nat.succ.inj hlen) ⟨i, hi, fun j hj => Nat.succ.inj (hunique (j + 1) hj)⟩
          exact ⟨x :: before, a, b, after, rfl, rfl, hne⟩
      · have htail : xs = ys := by
          apply List.ext_getElem?
          intro j
          by_contra hj
          have h₀ : 0 = i := hunique 0 (by simpa using hxy)
          have h₁ : j + 1 = i := hunique (j + 1) hj
          omega
        exact ⟨[], x, y, xs, rfl, by rw [htail]; rfl, hxy⟩

/-- Two lists that differ in one place are mixed to different states. -/
theorem foldl_ne_of_one_difference (hstate : ∀ b, Function.Injective (step · b))
    (hbyte : ∀ s, Function.Injective (step s)) (s : σ) {xs ys : List β}
    (hlen : xs.length = ys.length) (hdiff : ∃! i : Nat, xs[i]? ≠ ys[i]?) :
    xs.foldl step s ≠ ys.foldl step s := by
  obtain ⟨before, a, b, after, rfl, rfl, hne⟩ := exists_one_difference hlen hdiff
  exact foldl_ne hstate hbyte s before after hne

/-- A multiplication that has an inverse factor loses nothing. -/
theorem mul_right_injective_of_inverse {factor inverse : UInt64} (h : factor * inverse = 1) :
    Function.Injective (· * factor) := by
  intro a b hab
  have hmul : a * factor * inverse = b * factor * inverse := congrArg (· * inverse) hab
  rwa [UInt64.mul_assoc, UInt64.mul_assoc, h, UInt64.mul_one, UInt64.mul_one] at hmul

/-- The exclusive or with a mask loses nothing. -/
theorem xor_left_injective (mask : UInt64) : Function.Injective (mask ^^^ ·) := by
  intro a b h
  have hxor : mask ^^^ (mask ^^^ a) = mask ^^^ (mask ^^^ b) := congrArg (mask ^^^ ·) h
  simpa [← UInt64.xor_assoc] using hxor

/-- Nor does it from the other side. -/
theorem xor_right_injective (mask : UInt64) : Function.Injective (· ^^^ mask) := by
  intro a b h
  apply xor_left_injective mask
  simpa [UInt64.xor_comm mask] using h

end Microcar.Core
