import Microcar.Core.JsonGrammar

/-!
# The JSON emitter

`json.rs` writes values with an indentation of two spaces and one item to a line. Whatever it
writes is a JSON text for the value written, and for no other.
-/

namespace Microcar.Dogfood

open Microcar.Core JsonGrammar

/-- A JSON value. Object key order is preserved. -/
inductive Json where
  | null
  | bool (b : Bool)
  /-- Integer-valued number. -/
  | int (n : Int64)
  /-- Unsigned integer-valued number. -/
  | uint (n : BitVec 128)
  | str (s : String)
  | arr (items : List Json)
  | obj (fields : List (String × Json))

/-- What `write_escaped` pushes for a character. -/
def escaped (ch : Char) : List Char :=
  match ch with
  | '"' => ['\\', '"']
  | '\\' => ['\\', '\\']
  | '\n' => ['\\', 'n']
  | '\r' => ['\\', 'r']
  | '\t' => ['\\', 't']
  | '\x08' => ['\\', 'b']
  | '\x0c' => ['\\', 'f']
  | c => if c.toNat < 0x20 then '\\' :: 'u' :: padded 16 4 c.toNat else [c]

/-- A string in quotes. -/
def writeEscaped (s : String) : List Char := '"' :: (s.toList.flatMap escaped ++ ['"'])

/-- Two blanks for each level. -/
def pushIndent (level : Nat) : List Char := (List.replicate level [' ', ' ']).flatten

mutual

/-- The text that `write` appends. -/
def Json.write (indent : Nat) : Json → List Char
  | .null => ['n', 'u', 'l', 'l']
  | .bool b => if b then ['t', 'r', 'u', 'e'] else ['f', 'a', 'l', 's', 'e']
  | .int n => decimal n.toInt
  | .uint n => decimal n.toNat
  | .str s => writeEscaped s
  | .arr items =>
    if items.isEmpty then ['[', ']']
    else '[' :: '\n' :: (writeItems (indent + 1) items ++ pushIndent indent ++ [']'])
  | .obj fields =>
    if fields.isEmpty then ['{', '}']
    else '{' :: '\n' :: (writeFields (indent + 1) fields ++ pushIndent indent ++ ['}'])

/-- The loop over the items of an array. -/
def Json.writeItems (indent : Nat) : List Json → List Char
  | [] => []
  | item :: rest =>
    pushIndent indent ++ item.write indent ++ (if rest.isEmpty then [] else [',']) ++
      '\n' :: writeItems indent rest

/-- The loop over the fields of an object. -/
def Json.writeFields (indent : Nat) : List (String × Json) → List Char
  | [] => []
  | (k, v) :: rest =>
    pushIndent indent ++ writeEscaped k ++ [':', ' '] ++ v.write indent ++
      (if rest.isEmpty then [] else [',']) ++ '\n' :: writeFields indent rest

end

/-- Serialize with 2-space indentation and a trailing newline. -/
def Json.toPretty (j : Json) : String := String.ofList (j.write 0 ++ ['\n'])

mutual

/-- The value that the emitter is to write. Numbers of both types count by their value. -/
def Json.tree : Json → Value
  | .null => .null
  | .bool b => .bool b
  | .int n => .num n.toInt
  | .uint n => .num n.toNat
  | .str s => .str s
  | .arr items => .arr (treeItems items)
  | .obj fields => .obj (treeFields fields)

/-- The values of an array. -/
def Json.treeItems : List Json → List Value
  | [] => []
  | item :: rest => item.tree :: treeItems rest

/-- The fields of an object, in order. -/
def Json.treeFields : List (String × Json) → List (String × Value)
  | [] => []
  | (k, v) :: rest => (k, v.tree) :: treeFields rest

end

/-! ### Tokens -/

/-- A control character is escaped by four digits. -/
theorem length_padded (n : Nat) (h : n < 0x20) : (padded 16 4 n).length = 4 := by
  have hlen : (Nat.toDigits 16 n).length ≤ 4 :=
    (Nat.length_toDigits_le_iff (by omega) (by omega)).mpr (by omega)
  rw [padded, List.leftpad, List.length_append, List.length_replicate]
  omega

/-- The digits of a number are digits. -/
theorem isDigit_toDigits (n : Nat) : ∀ c ∈ Nat.toDigits 10 n, isDigit c = true := by
  intro c hc
  have hdigit := Nat.isDigit_of_mem_toDigits (by omega) (by omega) hc
  simp only [Char.isDigit, Bool.and_eq_true, decide_eq_true_eq, ge_iff_le, UInt32.le_iff_toNat_le]
    at hdigit
  simp only [isDigit, Bool.and_eq_true, decide_eq_true_eq]
  exact hdigit

/-- They denote the number. -/
theorem digits_toDigits (n : Nat) : Digits (Nat.toDigits 10 n) n :=
  ⟨Nat.toDigits_ne_nil, isDigit_toDigits n, numeral_toDigits (by omega) (by omega) n⟩

/-- Only zero is written with a leading zero. -/
theorem head_toDigits (n : Nat) (h : (Nat.toDigits 10 n).head? = some '0') :
    Nat.toDigits 10 n = ['0'] := by
  induction n using Nat.strong_induction_on with
  | _ n ih =>
    rw [Nat.toDigits_eq_if (by omega)] at h ⊢
    split at h
    · rename_i hlt
      rw [if_pos hlt]
      rw [List.head?_cons, Option.some.injEq] at h
      rw [h]
    · rename_i hge
      -- the leading digits are those of a positive number
      rw [List.head?_append_of_ne_nil _ Nat.toDigits_ne_nil] at h
      have hzero := ih (n / 10) (by omega) h
      have hvalue := @numeral_toDigits 10 (by omega) (by omega) (n / 10)
      rw [hzero] at hvalue
      have hdiv : n / 10 = 0 := (Option.some.inj hvalue).symm
      omega

/-- They have no leading zero, so they are an integer part. -/
theorem intPart_toDigits (n : Nat) : IntPart (Nat.toDigits 10 n) n :=
  ⟨digits_toDigits n, head_toDigits n⟩

/-- With a sign in front they are a number. -/
theorem number_toDigits {minus : List Char} {sign : ℤ} (h : Minus minus sign) (n : Nat) :
    Number (minus ++ Nat.toDigits 10 n) (sign * n) :=
  ⟨minus, Nat.toDigits 10 n, [], [], sign, n, 0, 0, 0, by simp, h, intPart_toDigits n,
    .inl ⟨rfl, rfl, rfl⟩, .inl ⟨rfl, rfl⟩, by simp⟩

/-- A decimal is the number it shows. -/
theorem number_decimal (n : Int) : Number (decimal n) n := by
  by_cases hneg : n < 0
  · obtain ⟨k, rfl⟩ : ∃ k : ℕ, n = -(k : ℤ) := ⟨n.natAbs, by omega⟩
    rw [decimal, if_pos hneg, Int.natAbs_neg, Int.natAbs_natCast]
    have hnum := number_toDigits (.inr ⟨rfl, rfl⟩) k
    simpa using hnum
  · obtain ⟨k, rfl⟩ : ∃ k : ℕ, n = (k : ℤ) := ⟨n.natAbs, by omega⟩
    rw [decimal, if_neg hneg, Int.natAbs_natCast]
    have hnum := number_toDigits (.inl ⟨rfl, rfl⟩) k
    simpa using hnum

/-- An escaped character is read back. -/
theorem chars_escaped {ch : Char} {input s rest : List Char} (h : Chars input s rest) :
    Chars (escaped ch ++ input) (ch :: s) rest := by
  unfold escaped
  split
  · exact Chars.escape rfl h
  · exact Chars.escape rfl h
  · exact Chars.escape rfl h
  · exact Chars.escape rfl h
  · exact Chars.escape rfl h
  · exact Chars.escape rfl h
  · exact Chars.escape rfl h
  · rename_i hquote hslash _ _ _ _ _
    split
    · rename_i hlt
      have hchars := Chars.unicode (length_padded ch.toNat hlt)
        (numeral_padded (by omega) (by omega) 4 ch.toNat) (by simp [isSurrogate]; omega) h
      rwa [Char.ofNat_toNat] at hchars
    · exact Chars.plain (by omega) (fun hc => hquote hc) (fun hc => hslash hc) h

/-- The escaped characters of a string read as the string. -/
theorem chars_flatMap_escaped (s rest : List Char) :
    Chars (s.flatMap escaped ++ '"' :: rest) s rest := by
  induction s with
  | nil => exact Chars.close
  | cons ch s ih =>
    rw [List.flatMap_cons, List.append_assoc]
    exact chars_escaped ih

/-- A written string opens with a quote and reads as the string. -/
theorem chars_writeEscaped (s : String) (rest : List Char) :
    ∃ key, writeEscaped s ++ rest = '"' :: key ∧ Chars key s.toList rest := by
  refine ⟨s.toList.flatMap escaped ++ '"' :: rest, ?_, chars_flatMap_escaped _ _⟩
  rw [writeEscaped, List.cons_append, List.append_assoc, List.singleton_append]

/-- An indentation is blank. -/
theorem blank_pushIndent (level : Nat) : Blank (pushIndent level) := by
  intro c hc
  obtain ⟨l, hl, hcl⟩ := List.mem_flatten.mp hc
  rw [List.eq_of_mem_replicate hl] at hcl
  simp only [List.mem_cons, List.not_mem_nil, or_false, or_self] at hcl
  rw [hcl]
  rfl

/-! ### Values -/

mutual

/-- What the emitter writes for a value is read as that value. -/
theorem reads_write (indent : Nat) (rest : List Char) :
    ∀ j : Json, Reads (.value j.tree) (j.write indent ++ rest) rest
  | .null => Reads.null
  | .bool true => Reads.trueLit
  | .bool false => Reads.falseLit
  | .int n => by
    rw [Json.tree, Json.write]
    exact Reads.num (number_decimal n.toInt)
  | .uint n => by
    rw [Json.tree, Json.write]
    exact Reads.num (number_decimal (n.toNat : ℤ))
  | .str s => by
    obtain ⟨key, hkey, hchars⟩ := chars_writeEscaped s rest
    rw [Json.tree, Json.write, hkey]
    have hreads := Reads.str hchars
    rwa [String.ofList_toList] at hreads
  | .arr [] => @Reads.emptyArr [] rest blank_nil
  | .arr (item :: items) => by
    rw [Json.tree, Json.write, List.isEmpty_cons, if_neg Bool.false_ne_true]
    have hitems := reads_writeItems (indent + 1) rest (pushIndent indent) ['\n']
      (blank_pushIndent indent) blank_nil.newline item items
    simpa using Reads.arr hitems
  | .obj [] => @Reads.emptyObj [] rest blank_nil
  | .obj ((k, v) :: fields) => by
    rw [Json.tree, Json.write, List.isEmpty_cons, if_neg Bool.false_ne_true]
    have hfields := reads_writeFields (indent + 1) rest (pushIndent indent) ['\n']
      (blank_pushIndent indent) blank_nil.newline k v fields
    simpa using Reads.obj hfields
termination_by j => sizeOf j

/-- The written items of an array read as the items, by the values inside. -/
theorem reads_writeItems (indent : Nat) (rest close before : List Char) (hclose : Blank close)
    (hbefore : Blank before) : ∀ (item : Json) (items : List Json),
      Reads (.elements (Json.treeItems (item :: items)))
        (before ++ (Json.writeItems indent (item :: items) ++ close ++ ']' :: rest)) rest
  | item, [] => by
    have hitem := reads_write indent ('\n' :: close ++ ']' :: rest) item
    have hreads := Reads.lastElement (hbefore.append (blank_pushIndent indent)) hclose.newline hitem
    simpa [Json.treeItems, Json.writeItems] using hreads
  | item, next :: items => by
    have hitem := reads_write indent (',' :: ('\n' :: (Json.writeItems indent (next :: items) ++
      close ++ ']' :: rest))) item
    have hmore := reads_writeItems indent rest close ['\n'] hclose blank_nil.newline next items
    have hreads := Reads.element (hbefore.append (blank_pushIndent indent)) blank_nil hitem hmore
    rw [Json.treeItems, Json.writeItems]
    simpa using hreads
termination_by item items => sizeOf item + sizeOf items

/-- The written fields of an object read as the fields, by the values inside. -/
theorem reads_writeFields (indent : Nat) (rest close before : List Char) (hclose : Blank close)
    (hbefore : Blank before) : ∀ (k : String) (v : Json) (fields : List (String × Json)),
      Reads (.members (Json.treeFields ((k, v) :: fields)))
        (before ++ (Json.writeFields indent ((k, v) :: fields) ++ close ++ '}' :: rest)) rest
  | k, v, [] => by
    have hvalue := reads_write indent ('\n' :: close ++ '}' :: rest) v
    obtain ⟨key, hkey, hchars⟩ := chars_writeEscaped k
      (':' :: ' ' :: (v.write indent ++ ('\n' :: close ++ '}' :: rest)))
    have hreads := Reads.lastMember (hbefore.append (blank_pushIndent indent)) blank_nil
      blank_space hclose.newline hchars hvalue
    rw [← hkey, String.ofList_toList] at hreads
    simpa [Json.treeFields, Json.writeFields] using hreads
  | k, v, (k', v') :: fields => by
    have hvalue := reads_write indent (',' :: ('\n' :: (Json.writeFields indent
      ((k', v') :: fields) ++ close ++ '}' :: rest))) v
    obtain ⟨key, hkey, hchars⟩ := chars_writeEscaped k (':' :: ' ' :: (v.write indent ++
      (',' :: ('\n' :: (Json.writeFields indent ((k', v') :: fields) ++ close ++ '}' :: rest)))))
    have hmore := reads_writeFields indent rest close ['\n'] hclose blank_nil.newline k' v' fields
    have hreads := Reads.member (hbefore.append (blank_pushIndent indent)) blank_nil
      blank_space blank_nil hchars hvalue hmore
    rw [← hkey, String.ofList_toList] at hreads
    rw [Json.treeFields, Json.writeFields]
    simpa using hreads
termination_by _ v fields => sizeOf v + sizeOf fields

end

/-- The emitter writes a JSON text. It stands for the value written and for no other, so values
with one text agree up to the type of their numbers. -/
theorem toPretty_correct (j : Json) :
    Text j.toPretty.toList j.tree ∧ (∀ v, Text j.toPretty.toList v → v = j.tree) ∧
      ∀ other : Json, j.toPretty = other.toPretty → j.tree = other.tree := by
  have htext : ∀ j : Json, Text j.toPretty.toList j.tree := by
    intro j
    refine ⟨[], j.write 0 ++ ['\n'], ['\n'], ?_, blank_nil, reads_write 0 ['\n'] j,
      blank_nil.newline⟩
    rw [Json.toPretty, String.toList_ofList, List.nil_append]
  refine ⟨htext j, fun v hv => hv.unique (htext j), fun other heq => ?_⟩
  apply (htext j).unique
  rw [heq]
  exact htext other

end Microcar.Dogfood
