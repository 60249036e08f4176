import Microcar.Core.Words

/-!
# Trace normalization

`trace_hash.rs` rewrites every line of a trace before hashing it. Whitespace is collapsed on the
characters of the line. The pointer scrubber then walks over the bytes of what is left and pushes
each byte it keeps as a character of its own.
-/

namespace Microcar.Dogfood

open Microcar.Core

/-- `char::is_whitespace`: the code points with the Unicode property `White_Space`. -/
def isWhitespace (ch : Char) : Bool :=
  (9 ≤ ch.toNat && ch.toNat ≤ 13) || ch.toNat == 0x20 || ch.toNat == 0x85 || ch.toNat == 0xA0 ||
    ch.toNat == 0x1680 || (0x2000 ≤ ch.toNat && ch.toNat ≤ 0x200A) || ch.toNat == 0x2028 ||
    ch.toNat == 0x2029 || ch.toNat == 0x202F || ch.toNat == 0x205F || ch.toNat == 0x3000

/-- `u8::is_ascii_hexdigit`. -/
def isAsciiHexdigit (byte : UInt8) : Bool :=
  (0x30 ≤ byte.toNat && byte.toNat ≤ 0x39) || (0x41 ≤ byte.toNat && byte.toNat ≤ 0x46) ||
    (0x61 ≤ byte.toNat && byte.toNat ≤ 0x66)

/-- The text pushed for a pointer. -/
def pointerMark : List Char := ['0', 'x', 'P', 'T', 'R']

/-- Bytes of the pointer at the head, `j - i` in the source; 0 where no pointer starts. -/
def pointerLen : List UInt8 → Nat
  | zero :: x :: rest =>
    if zero.toNat = 0x30 ∧ (x.toNat = 0x78 ∨ x.toNat = 0x58) then
      let hexLen := (rest.takeWhile isAsciiHexdigit).length
      if 8 ≤ hexLen then hexLen + 2 else 0
    else 0
  | _ => 0

/-- The loop of `scrub_pointers`. A match moves the index behind it, so the bytes that it covers
are passed over. -/
def scrubFrom : Nat → List UInt8 → List Char
  | _, [] => []
  | skip + 1, _ :: rest => scrubFrom skip rest
  | 0, byte :: rest =>
    match pointerLen (byte :: rest) with
    | 0 => latin1 byte :: scrubFrom 0 rest
    | len + 1 => pointerMark ++ scrubFrom len rest

/-- Replace the pointers of a line, byte by byte. -/
def scrubPointers (s : String) : String := String.ofList (scrubFrom 0 (utf8 s))

/-- The variables of the loop of `normalize_line`. -/
structure Collapse where
  collapsed : List Char := []
  prevWs : Bool := false

/-- One character of `collapse`. -/
def Collapse.step (s : Collapse) (ch : Char) : Collapse :=
  if isWhitespace ch then
    if s.collapsed.isEmpty then s else { s with prevWs := true }
  else if s.prevWs then
    { collapsed := s.collapsed ++ [' ', ch], prevWs := false }
  else
    { s with collapsed := s.collapsed ++ [ch] }

/-- The first half of `normalize_line`. -/
def collapse (line : String) : String :=
  String.ofList (line.toList.foldl Collapse.step {}).collapsed

/-- A line without its blanks and pointers. -/
def normalizeLine (line : String) : String := scrubPointers (collapse line)

/-- Every line for itself. -/
def normalizeTrace (lines : List String) : List String := lines.map normalizeLine

/-! ### Whitespace -/

theorem isWhitespace_space : isWhitespace ' ' = true := rfl

/-- Once something is collected, the loop appends the rest of the running word and then each
further word behind one space. -/
theorem Collapse.foldl_step (text collapsed : List Char) (hne : collapsed ≠ []) :
    (text.foldl Collapse.step ⟨collapsed, true⟩).collapsed =
        collapsed ++ (words isWhitespace text).flatMap (' ' :: ·) ∧
      (text.foldl Collapse.step ⟨collapsed, false⟩).collapsed =
        collapsed ++ text.takeWhile (!isWhitespace ·) ++
          (words isWhitespace (text.dropWhile (!isWhitespace ·))).flatMap (' ' :: ·) := by
  have hempty : collapsed.isEmpty = false := by simpa using hne
  induction text generalizing collapsed with
  | nil => simp
  | cons ch text ih =>
    rcases hws : isWhitespace ch with _ | _
    · constructor
      · rw [List.foldl_cons, words_cons_not_sep hws]
        have hstep : Collapse.step ⟨collapsed, true⟩ ch = ⟨collapsed ++ [' ', ch], false⟩ := by
          simp [Collapse.step, hws]
        rw [hstep, (ih (collapsed ++ [' ', ch]) (by simp) (by simp)).2]
        simp
      · have hstep : Collapse.step ⟨collapsed, false⟩ ch = ⟨collapsed ++ [ch], false⟩ := by
          simp [Collapse.step, hws]
        rw [List.foldl_cons, hstep, (ih (collapsed ++ [ch]) (by simp) (by simp)).2,
          List.takeWhile_cons_of_pos (by simp [hws]), List.dropWhile_cons_of_pos (by simp [hws])]
        simp
    · have hstep : ∀ ws, Collapse.step ⟨collapsed, ws⟩ ch = ⟨collapsed, true⟩ := by
        simp [Collapse.step, hws, hempty]
      constructor
      · rw [List.foldl_cons, hstep, (ih collapsed hne hempty).1, words_cons_sep hws]
      · rw [List.foldl_cons, hstep, (ih collapsed hne hempty).1,
          List.takeWhile_cons_of_neg (by simp [hws]), List.dropWhile_cons_of_neg (by simp [hws]),
          words_cons_sep hws, List.append_nil]

/-- The first pass joins the words of the line. -/
theorem collapse_eq (line : String) :
    collapse line = String.ofList (unwords ' ' (words isWhitespace line.toList)) := by
  rw [collapse]
  congr 1
  induction line.toList with
  | nil => rfl
  | cons ch text ih =>
    rcases hws : isWhitespace ch with _ | _
    · have hstep : Collapse.step {} ch = ⟨[ch], false⟩ := by simp [Collapse.step, hws]
      rw [List.foldl_cons, hstep, (Collapse.foldl_step text [ch] (by simp)).2,
        words_cons_not_sep hws, unwords_cons]
      simp
    · have hstep : Collapse.step {} ch = {} := by simp [Collapse.step, hws]
      rw [List.foldl_cons, hstep, words_cons_sep hws, ih]

end Microcar.Dogfood
