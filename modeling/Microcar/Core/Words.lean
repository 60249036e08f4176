import Mathlib.Data.List.Basic
import Mathlib.Data.List.Infix
import Mathlib.Data.List.Flatten
import Mathlib.Data.List.TakeWhile
import Microcar.Core.Pattern

/-!
# Words of a text

A text is cut at the characters that a predicate calls separators. The words are the maximal
nonempty runs between them. The second half relates the characters of a text to its UTF-8 bytes.
-/

namespace Microcar.Core

universe u

section Words

variable {α : Type u} {sep : α → Bool}

/-- The maximal nonempty runs of a text without a separator. -/
def words (sep : α → Bool) (text : List α) : List (List α) :=
  (text.splitOnP sep).filter fun word => !word.isEmpty

/-- A word on its own: nonempty and without a separator. -/
def IsWord (sep : α → Bool) (word : List α) : Prop := word ≠ [] ∧ ∀ a ∈ word, sep a = false

@[simp] theorem words_nil : words sep [] = [] := rfl

/-- A separator splits the words in front of it from those behind it. -/
theorem words_append_cons (before after : List α) {s : α} (hs : sep s = true) :
    words sep (before ++ s :: after) = words sep before ++ words sep after := by
  rw [words, List.splitOnP_append_cons before after hs, List.filter_append]
  rfl

/-- A leading separator makes no word. -/
theorem words_cons_sep {s : α} (hs : sep s = true) (text : List α) :
    words sep (s :: text) = words sep text := by
  simpa using words_append_cons [] text hs

/-- A word has one word, itself. -/
theorem words_of_isWord {word : List α} (h : IsWord sep word) : words sep word = [word] := by
  rw [words, List.splitOnP_eq_singleton h.2]
  simp [h.1]

/-- A text in front of a separator loses its leading word, or is empty. -/
theorem words_isWord_cons {word : List α} (h : IsWord sep word) {s : α} (hs : sep s = true)
    (after : List α) : words sep (word ++ s :: after) = word :: words sep after := by
  rw [words_append_cons word after hs, words_of_isWord h]
  rfl

/-- A nonempty text without separators at its head begins with a word. -/
theorem words_append_of_isWord {word rest : List α} (h : IsWord sep word)
    (hrest : rest = [] ∨ ∃ s after, rest = s :: after ∧ sep s = true) :
    words sep (word ++ rest) = word :: words sep rest := by
  rcases hrest with rfl | ⟨s, after, rfl, hs⟩
  · rw [List.append_nil, words_of_isWord h, words_nil]
  · rw [words_isWord_cons h hs, words_cons_sep hs]

/-- A text splits into separators, one word and the rest behind it. -/
theorem words_cons_not_sep {a : α} (ha : sep a = false) (text : List α) :
    words sep (a :: text) =
      (a :: text.takeWhile (!sep ·)) :: words sep (text.dropWhile (!sep ·)) := by
  have hword : IsWord sep (a :: text.takeWhile (!sep ·)) := by
    refine ⟨List.cons_ne_nil _ _, fun b hb => ?_⟩
    rcases List.mem_cons.mp hb with rfl | hb
    · exact ha
    · simpa using List.mem_takeWhile_imp hb
  conv_lhs => rw [← List.takeWhile_append_dropWhile (p := (!sep ·)) (l := text)]
  rw [← List.cons_append]
  apply words_append_of_isWord hword
  rcases hdrop : text.dropWhile (!sep ·) with _ | ⟨s, after⟩
  · exact .inl rfl
  · refine .inr ⟨s, after, rfl, ?_⟩
    have hhead := List.head?_dropWhile_not (!sep ·) text
    rw [hdrop] at hhead
    simpa using hhead

/-- The words of a text are words. -/
theorem isWord_of_mem_words {text word : List α} (h : word ∈ words sep text) :
    IsWord sep word := by
  induction hn : text.length using Nat.strong_induction_on generalizing text with
  | _ n ih =>
    rcases text with _ | ⟨a, text⟩
    · simp at h
    · rcases hsep : sep a with _ | _
      · rw [words_cons_not_sep hsep] at h
        rcases List.mem_cons.mp h with rfl | h
        · refine ⟨List.cons_ne_nil _ _, fun b hb => ?_⟩
          rcases List.mem_cons.mp hb with rfl | hb
          · exact hsep
          · simpa using List.mem_takeWhile_imp hb
        · apply ih _ _ h rfl
          have := (List.dropWhile_suffix (!sep ·) (l := text)).length_le
          simp only [List.length_cons] at hn
          omega
      · rw [words_cons_sep hsep] at h
        apply ih _ _ h rfl
        simp only [List.length_cons] at hn
        omega

/-- The words hold every character that is no separator, in order. -/
theorem flatten_words (text : List α) : (words sep text).flatten = text.filter (!sep ·) := by
  have hfilter : ∀ pieces : List (List α),
      (pieces.filter fun word => !word.isEmpty).flatten = pieces.flatten := by
    intro pieces
    induction pieces with
    | nil => rfl
    | cons piece pieces ih => cases piece <;> simpa using ih
  rw [words, hfilter]
  induction text with
  | nil => rfl
  | cons a text ih =>
    rcases hsep : sep a with _ | _
    · rw [List.splitOnP_cons_eq_if_modifyHead, hsep, List.filter_cons_of_pos (by simp [hsep]),
        ← ih]
      rcases hsplit : text.splitOnP sep with _ | ⟨piece, pieces⟩
      · exact absurd hsplit (List.splitOnP_ne_nil sep text)
      · rfl
    · rw [List.splitOnP_cons_eq_if_modifyHead, hsep, List.filter_cons_of_neg (by simp [hsep]),
        ← ih]
      rfl

/-- One separator between two words, none at either end. -/
def unwords (s : α) (ws : List (List α)) : List α := [s].intercalate ws

/-- Each further word stands behind a separator. -/
theorem unwords_cons (s : α) (word : List α) (ws : List (List α)) :
    unwords s (word :: ws) = word ++ ws.flatMap (s :: ·) := by
  induction ws generalizing word with
  | nil => simp [unwords]
  | cons next ws ih =>
    rw [unwords, List.intercalate_cons_cons, ← unwords, ih next]
    simp

/-- Joined words hold the separator and what the words hold. -/
theorem mem_unwords {s c : α} {ws : List (List α)} (h : c ∈ unwords s ws) :
    c = s ∨ ∃ word ∈ ws, c ∈ word := by
  rcases ws with _ | ⟨word, ws⟩
  · exact absurd h (by simp [unwords])
  · rw [unwords_cons, List.mem_append, List.mem_flatMap] at h
    rcases h with h | ⟨next, hnext, h⟩
    · exact .inr ⟨word, by simp, h⟩
    · rcases List.mem_cons.mp h with rfl | h
      · exact .inl rfl
      · exact .inr ⟨next, by simp [hnext], h⟩

/-- A filter that drops the separator sees the words in a row. -/
theorem filter_unwords {p : α → Bool} {s : α} (hs : p s = false) (ws : List (List α)) :
    (unwords s ws).filter p = ws.flatten.filter p := by
  have hspace : ∀ ws : List (List α),
      (ws.flatMap (s :: ·)).filter p = ws.flatten.filter p := by
    intro ws
    induction ws with
    | nil => rfl
    | cons word ws ih =>
      rw [List.flatMap_cons, List.flatten_cons, List.filter_append, List.filter_append, ih,
        List.filter_cons_of_neg (by simp [hs])]
  rcases ws with _ | ⟨word, ws⟩
  · rfl
  · rw [unwords_cons, List.flatten_cons, List.filter_append, List.filter_append, hspace]

/-- Cutting what was joined gives the words back. -/
theorem words_unwords {s : α} (hs : sep s = true) {ws : List (List α)}
    (h : ∀ word ∈ ws, IsWord sep word) : words sep (unwords s ws) = ws := by
  rcases ws with _ | ⟨word, ws⟩
  · rfl
  · rw [unwords_cons]
    induction ws generalizing word with
    | nil => simpa using words_of_isWord (h word (by simp))
    | cons next ws ih =>
      rw [List.flatMap_cons, List.cons_append, words_isWord_cons (h word (by simp)) hs,
        ih next fun w hw => h w (by simp [List.mem_cons.mp hw])]

end Words

section Bytes

/-- A byte read as a character of its own. -/
def latin1 (byte : UInt8) : Char := Char.ofNat byte.toNat

/-- The character of a byte has its number. -/
theorem toNat_latin1 (byte : UInt8) : (latin1 byte).toNat = byte.toNat := by
  have hlt : byte.toNat < 256 := byte.toNat_lt
  have hvalid : byte.toNat.isValidChar := Or.inl (by omega)
  rw [latin1, Char.ofNat, dif_pos hvalid]
  rfl

/-- The bytes of a text are the encodings of its characters, one after another. -/
theorem utf8_eq_flatMap (text : String) :
    utf8 text = text.toList.flatMap String.utf8EncodeChar := by
  rw [utf8, String.toUTF8_eq_toByteArray, ← String.utf8Encode_toList, List.utf8Encode]
  simp

/-- A string is encoded character by character. -/
theorem utf8_ofList (text : List Char) :
    utf8 (String.ofList text) = text.flatMap String.utf8EncodeChar := by
  rw [utf8_eq_flatMap, String.toList_ofList]

/-- A character with one byte in UTF-8. -/
def isAscii (c : Char) : Bool := c.toNat < 0x80

/-- An ASCII character is encoded by the byte of its number. -/
theorem map_latin1_utf8EncodeChar {c : Char} (h : isAscii c = true) :
    (String.utf8EncodeChar c).map latin1 = [c] := by
  have hlt : c.val.toNat < 0x80 := by simpa [isAscii] using h
  rw [String.utf8EncodeChar, if_pos (by omega)]
  have hbyte : (UInt8.ofNat c.val.toNat).toNat = c.toNat := by
    rw [UInt8.toNat_ofNat']
    exact Nat.mod_eq_of_lt (by omega)
  rw [List.map_singleton, latin1, hbyte, Char.ofNat_toNat]

/-- An ASCII text is read back from its bytes, one by one. -/
theorem map_latin1_utf8_ofList {text : List Char} (h : ∀ c ∈ text, isAscii c = true) :
    (utf8 (String.ofList text)).map latin1 = text := by
  rw [utf8_ofList]
  induction text with
  | nil => rfl
  | cons c text ih =>
    rw [List.flatMap_cons, List.map_append, map_latin1_utf8EncodeChar (h c (by simp)),
      ih fun d hd => h d (by simp [hd])]
    rfl

/-- A character beyond ASCII begins with a byte from `0xC2` on, and only bytes from `0x80` on
follow. -/
theorem utf8EncodeChar_not_ascii {c : Char} (h : isAscii c = false) :
    ∃ lead tail, String.utf8EncodeChar c = lead :: tail ∧ 0xC2 ≤ lead.toNat ∧ tail ≠ [] ∧
      ∀ byte ∈ tail, 0x80 ≤ byte.toNat := by
  have hge : 0x80 ≤ c.val.toNat := by simpa [isAscii] using h
  have hmax : c.val.toNat < 0x110000 := by
    have := c.valid
    rcases this with h | h <;> omega
  rw [String.utf8EncodeChar, if_neg (by omega)]
  by_cases h2 : c.val.toNat ≤ 0x7ff
  · rw [if_pos h2]
    refine ⟨_, _, rfl, ?_, by simp, ?_⟩
    · simp only [UInt8.toNat_ofNat']
      omega
    · simp only [List.mem_singleton, forall_eq, UInt8.toNat_ofNat']
      omega
  · rw [if_neg h2]
    by_cases h3 : c.val.toNat ≤ 0xffff
    · rw [if_pos h3]
      refine ⟨_, _, rfl, ?_, by simp, ?_⟩
      · simp only [UInt8.toNat_ofNat']
        omega
      · simp only [List.mem_cons, List.not_mem_nil, or_false, forall_eq_or_imp, forall_eq,
          UInt8.toNat_ofNat']
        omega
    · rw [if_neg h3]
      refine ⟨_, _, rfl, ?_, by simp, ?_⟩
      · simp only [UInt8.toNat_ofNat']
        omega
      · simp only [List.mem_cons, List.not_mem_nil, or_false, forall_eq_or_imp, forall_eq,
          UInt8.toNat_ofNat']
        omega

/-- Beyond ASCII and below 256 there are two bytes: a lead, `0xC2` or `0xC3`, and the rest. -/
theorem utf8EncodeChar_latin {c : Char} (h : isAscii c = false) (hlt : c.toNat < 0x100) :
    String.utf8EncodeChar c =
      [UInt8.ofNat (c.toNat / 64 + 0xC0), UInt8.ofNat (c.toNat % 64 + 0x80)] := by
  have hge : 0x80 ≤ c.val.toNat := by simpa [isAscii] using h
  have hval : c.val.toNat < 0x100 := hlt
  rw [String.utf8EncodeChar, if_neg (by omega), if_pos (by omega),
    Nat.mod_eq_of_lt (by omega : c.val.toNat / 64 < 0x20)]
  rfl

end Bytes
end Microcar.Core
