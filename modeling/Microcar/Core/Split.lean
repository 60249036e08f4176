import Mathlib.Data.List.DropRight
import Mathlib.Data.List.Infix

/-!
# Cutting a text at a separator

A text cut at the first place where a separator stands, and a text without the characters that
a predicate names at its ends.
-/

namespace Microcar.Core

universe u

variable {α : Type u}

section Split

variable [BEq α] [LawfulBEq α]

/-- The text before and behind the first occurrence of the separator. -/
def splitFirst (sep : List α) : List α → Option (List α × List α)
  | [] => if sep.isEmpty then some ([], []) else none
  | a :: rest =>
    if sep.isPrefixOf (a :: rest) then some ([], (a :: rest).drop sep.length)
    else (splitFirst sep rest).map fun cut => (a :: cut.1, cut.2)

theorem splitFirst_cons_of_ne {c a : α} (h : c ≠ a) (sep rest : List α) :
    splitFirst (c :: sep) (a :: rest) =
      (splitFirst (c :: sep) rest).map fun cut => (a :: cut.1, cut.2) := by
  have hprefix : (c :: sep).isPrefixOf (a :: rest) = false := by simp [List.isPrefixOf, h]
  rw [splitFirst, hprefix, if_neg Bool.false_ne_true]

/-- Half of a separator of two characters is passed over. -/
theorem splitFirst_half {c d a : α} (h : d ≠ a) (rest : List α) :
    splitFirst [c, d] (c :: a :: rest) =
      (splitFirst [c, d] (a :: rest)).map fun cut => (c :: cut.1, cut.2) := by
  have hprefix : [c, d].isPrefixOf (c :: a :: rest) = false := by simp [List.isPrefixOf, h]
  rw [splitFirst, hprefix, if_neg Bool.false_ne_true]

/-- The separator stands nowhere if its first character does not occur. -/
theorem splitFirst_of_not_mem {c : α} {text : List α} (h : c ∉ text) (sep : List α) :
    splitFirst (c :: sep) text = none := by
  induction text with
  | nil => rfl
  | cons a text ih =>
    obtain ⟨hne, hmem⟩ := not_or.mp (mt List.mem_cons.mpr h)
    rw [splitFirst_cons_of_ne hne, ih hmem]
    rfl

/-- What stands in front without the separator's first character is passed over. -/
theorem splitFirst_append {c : α} {before : List α} (h : c ∉ before) (sep rest : List α) :
    splitFirst (c :: sep) (before ++ rest) =
      (splitFirst (c :: sep) rest).map fun cut => (before ++ cut.1, cut.2) := by
  induction before with
  | nil => simp
  | cons a before ih =>
    obtain ⟨hne, hmem⟩ := not_or.mp (mt List.mem_cons.mpr h)
    rw [List.cons_append, splitFirst_cons_of_ne hne, ih hmem, Option.map_map]
    rfl

/-- The separator at the head of a text. -/
theorem splitFirst_self {sep : List α} (hne : sep ≠ []) (rest : List α) :
    splitFirst sep (sep ++ rest) = some ([], rest) := by
  obtain ⟨a, sep, rfl⟩ := List.exists_cons_of_ne_nil hne
  have hprefix : (a :: sep).isPrefixOf (a :: sep ++ rest) = true := by
    rw [List.isPrefixOf_iff_prefix]
    exact List.prefix_append _ _
  rw [List.cons_append] at hprefix ⊢
  rw [splitFirst, hprefix, if_pos rfl, ← List.cons_append, List.drop_left]

end Split

section Strip

variable {p : α → Bool}

/-- The text without the characters of the predicate at either end. -/
def strip (p : α → Bool) (text : List α) : List α := (text.dropWhile p).rdropWhile p

/-- A text that neither begins nor ends with such a character stays as it is. -/
theorem strip_eq_self {text : List α} (hhead : ∀ a ∈ text.head?, p a = false)
    (hlast : ∀ a ∈ text.getLast?, p a = false) : strip p text = text := by
  have hdrop : text.dropWhile p = text := by
    rcases text with _ | ⟨a, text⟩
    · rfl
    · rw [List.dropWhile_cons_of_neg (by simp [hhead a rfl])]
  rw [strip, hdrop, List.rdropWhile_eq_self_iff]
  intro hne hp
  have := hlast (text.getLast hne) (List.getLast?_eq_getLast_of_ne_nil hne)
  rw [this] at hp
  exact Bool.false_ne_true hp

theorem strip_cons {a : α} (h : p a = true) (text : List α) :
    strip p (a :: text) = strip p text := by
  rw [strip, List.dropWhile_cons_of_pos h, strip]

/-- A character of the predicate behind the text is dropped. -/
theorem strip_concat {text : List α} {a : α} (h : p a = true)
    (hhead : ∀ b ∈ text.head?, p b = false) (hlast : ∀ b ∈ text.getLast?, p b = false)
    (hne : text ≠ []) :
    strip p (text ++ [a]) = text := by
  obtain ⟨b, text, rfl⟩ := List.exists_cons_of_ne_nil hne
  have hb : p b = false := hhead b rfl
  have hself := strip_eq_self hhead hlast
  rw [strip, List.dropWhile_cons_of_neg (by simp [hb])] at hself
  rw [strip, List.cons_append, List.dropWhile_cons_of_neg (by simp [hb]), ← List.cons_append,
    List.rdropWhile_concat_pos _ _ _ h, hself]

end Strip

end Microcar.Core
