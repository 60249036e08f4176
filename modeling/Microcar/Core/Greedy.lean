import Mathlib.Data.List.Forall2

/-!
# Greedy embeddings

A scan looks for the entries of one list in another, each behind the match of the one before it,
and takes the first match that it meets. It never goes back, and still finds a place for all the
entries whenever there is one.
-/

namespace Microcar.Core

open List

universe u v

variable {α : Type u} {β : Type v}

/-- Whether an iterator has a match, and what is left of it behind the first one. -/
def anyNext (p : β → Bool) : List β → Bool × List β
  | [] => (false, [])
  | b :: rest => if p b then (true, rest) else anyNext p rest

/-- Whether each entry has a match in what the entries before it left of one iterator. -/
def allNext (test : α → β → Bool) : List β → List α → Bool
  | _, [] => true
  | it, a :: want =>
    match anyNext (test a) it with
    | (true, rest) => allNext test rest want
    | (false, _) => false

section Scan

variable {test : α → β → Bool} {a : α} {b : β}

/-- A match takes the wanted item off. -/
theorem allNext_of_match (h : test a b = true) (l : List β) (want : List α) :
    allNext test (b :: l) (a :: want) = allNext test l want := by
  rw [allNext, anyNext, if_pos h]

/-- Where there is no match the item is still wanted. -/
theorem allNext_of_not_match (h : ¬test a b = true) (l : List β) (want : List α) :
    allNext test (b :: l) (a :: want) = allNext test l (a :: want) := by
  rw [allNext, anyNext, if_neg h, allNext]

end Scan

section Embedding

variable {R : α → β → Prop} {a : α} {b : β} {want : List α} {l : List β}

/-- What embeds with an entry in front embeds without it. -/
theorem sublistForall₂_of_cons (h : SublistForall₂ R (a :: want) l) : SublistForall₂ R want l := by
  obtain ⟨found, hall, hsub⟩ := sublistForall₂_iff.mp h
  obtain ⟨b, rest, -, hrest, rfl⟩ := forall₂_cons_left_iff.mp hall
  exact sublistForall₂_iff.mpr ⟨rest, hrest, sublist_of_cons_sublist hsub⟩

/-- The exchange: an entry that matches the head may be placed there, since the entries behind it
embed in the tail wherever it was placed before. -/
theorem sublistForall₂_cons_iff_of_match (h : R a b) :
    SublistForall₂ R (a :: want) (b :: l) ↔ SublistForall₂ R want l := by
  constructor
  · intro hembed
    cases hembed with
    | cons _ hrest => exact hrest
    | cons_right hlater => exact sublistForall₂_of_cons hlater
  · exact .cons h

/-- An element that does not match can be left out. -/
theorem sublistForall₂_cons_iff_of_not_match (h : ¬R a b) :
    SublistForall₂ R (a :: want) (b :: l) ↔ SublistForall₂ R (a :: want) l := by
  constructor
  · intro hembed
    cases hembed with
    | cons hab _ => exact absurd hab h
    | cons_right hlater => exact hlater
  · exact .cons_right

end Embedding

/-- The scan finds an embedding exactly if there is one. -/
theorem allNext_iff {test : α → β → Bool} {l : List β} {want : List α} :
    allNext test l want = true ↔ SublistForall₂ (fun a b => test a b = true) want l := by
  induction l generalizing want with
  | nil =>
    cases want with
    | nil => exact iff_of_true rfl .nil
    | cons a want =>
      apply iff_of_false
      · simp [allNext, anyNext]
      · rintro ⟨⟩
  | cons b l ih =>
    cases want with
    | nil => exact iff_of_true rfl .nil
    | cons a want =>
      by_cases h : test a b = true
      · rw [allNext_of_match h, ih]
        symm
        apply sublistForall₂_cons_iff_of_match
        exact h
      · rw [allNext_of_not_match h, ih]
        symm
        apply sublistForall₂_cons_iff_of_not_match
        exact h

/-- For equality the scan decides sublists. -/
theorem allNext_eq_iff_sublist [DecidableEq α] {l want : List α} :
    allNext (fun w h => h == w) l want = true ↔ want <+ l := by
  have heq : (fun w h : α => (h == w) = true) = Eq := by
    ext w h
    rw [beq_iff_eq, eq_comm]
  rw [allNext_iff, heq, sublistForall₂_iff, forall₂_eq_eq_eq]
  constructor
  · rintro ⟨_, rfl, hsub⟩
    exact hsub
  · exact fun hsub => ⟨want, rfl, hsub⟩

end Microcar.Core
