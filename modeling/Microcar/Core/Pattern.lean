import Mathlib.Data.List.Infix
import Mathlib.Data.List.Basic

/-!
# Ordered patterns

Texts matched against an ordered table of patterns: the first pattern that passes the test
decides. Texts are compared byte by byte in their UTF-8 encoding.
-/

namespace Microcar.Core

universe u v

/-- The bytes of a text. -/
def utf8 (text : String) : List UInt8 := text.toUTF8.data.toList

/-- The pattern stands somewhere in the text. -/
def contains (text pattern : String) : Bool := decide (utf8 pattern <:+: utf8 text)

/-- The text begins with the pattern. -/
def startsWith (text pattern : String) : Bool := (utf8 pattern).isPrefixOf (utf8 text)

variable {α : Type u} {β : Type v} {test : String → Bool}

/-- The value of the first entry whose pattern passes the test. -/
def firstMatch (test : String → Bool) (table : List (String × α)) : Option α :=
  (table.find? fun entry => test entry.1).map Prod.snd

/-- The pattern of the deciding entry is the first of all patterns to pass. -/
theorem firstMatch_eq_some {table : List (String × α)} {a : α}
    (h : firstMatch test table = some a) :
    ∃ pattern, (pattern, a) ∈ table ∧ (table.map Prod.fst).find? test = some pattern := by
  obtain ⟨⟨pattern, b⟩, hfind, rfl⟩ := Option.map_eq_some_iff.mp h
  refine ⟨pattern, List.mem_of_find?_eq_some hfind, ?_⟩
  rw [List.find?_map]
  exact congrArg (Option.map Prod.fst) hfind

theorem firstMatch_eq_none {table : List (String × α)} :
    firstMatch test table = none ↔ ∀ pattern ∈ table.map Prod.fst, test pattern = false := by
  rw [firstMatch, Option.map_eq_none_iff, List.find?_eq_none, List.forall_mem_map]
  exact forall₂_congr fun _ _ => (Bool.not_eq_true _).to_iff

/-- A table without a pattern of its own matches nothing that the other table does not. -/
theorem firstMatch_eq_none_of_subset {table : List (String × α)} {other : List (String × β)}
    (hsubset : other.map Prod.fst ⊆ table.map Prod.fst) (h : firstMatch test table = none) :
    firstMatch test other = none :=
  firstMatch_eq_none.mpr fun pattern hpattern =>
    firstMatch_eq_none.mp h pattern (hsubset hpattern)

end Microcar.Core
