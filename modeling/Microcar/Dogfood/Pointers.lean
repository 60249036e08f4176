import Microcar.Dogfood.Normalize

/-!
# Replaced pointers

What it means to replace the pointers of a text, as a relation between the text and the result.
The scrubber of the source computes it for the text it takes the bytes for. The relation is a
function, it leaves no pointer behind, and texts around a character that no pointer contains are
rewritten independently.
-/

namespace Microcar.Dogfood

open Microcar.Core


/-- A hex digit, in either case. -/
def isHexDigit (c : Char) : Bool :=
  (0x30 ≤ c.toNat && c.toNat ≤ 0x39) || (0x41 ≤ c.toNat && c.toNat ≤ 0x46) ||
    (0x61 ≤ c.toNat && c.toNat ≤ 0x66)

/-- A pointer starts at the head: `0x` or `0X` and at least eight hex digits. -/
def PointerAt (text : List Char) : Prop :=
  ∃ x digits rest, text = '0' :: x :: (digits ++ rest) ∧ (x = 'x' ∨ x = 'X') ∧
    (∀ d ∈ digits, isHexDigit d = true) ∧ 8 ≤ digits.length

/-- `out` is `text` with the pointers replaced: scanning from the left, a pointer is replaced
together with all hex digits that follow, and every other character is kept. -/
inductive Scrubbed : List Char → List Char → Prop
  | nil : Scrubbed [] []
  | pointer {x : Char} {digits rest out : List Char} (hx : x = 'x' ∨ x = 'X')
      (hdigits : ∀ d ∈ digits, isHexDigit d = true) (hlen : 8 ≤ digits.length)
      (hmax : ∀ d ∈ rest.head?, isHexDigit d = false) (h : Scrubbed rest out) :
      Scrubbed ('0' :: x :: (digits ++ rest)) (pointerMark ++ out)
  | keep {c : Char} {rest out : List Char} (hno : ¬ PointerAt (c :: rest))
      (h : Scrubbed rest out) : Scrubbed (c :: rest) (c :: out)

/-- A byte is a hex digit when its character is. -/
theorem isAsciiHexdigit_eq (byte : UInt8) : isAsciiHexdigit byte = isHexDigit (latin1 byte) := by
  rw [isAsciiHexdigit, isHexDigit, toNat_latin1]

/-- A byte is a character when the numbers agree. -/
theorem latin1_eq_iff {byte : UInt8} {c : Char} : latin1 byte = c ↔ byte.toNat = c.toNat := by
  rw [← toNat_latin1, Char.toNat_inj]

/-- Behind a run of hex digits stands none. -/
theorem head?_dropWhile_hex (text : List Char) :
    ∀ d ∈ (text.dropWhile isHexDigit).head?, isHexDigit d = false := by
  intro d hd
  have h := List.head?_dropWhile_not isHexDigit text
  rw [Option.mem_def.mp hd] at h
  simpa using h

/-- The run of hex digits, in bytes and in characters. -/
theorem map_takeWhile_hex (bytes : List UInt8) :
    (bytes.takeWhile isAsciiHexdigit).map latin1 = (bytes.map latin1).takeWhile isHexDigit := by
  rw [List.takeWhile_map, funext isAsciiHexdigit_eq]
  rfl

/-- What stands behind it, in bytes and in characters. -/
theorem map_dropWhile_hex (bytes : List UInt8) :
    (bytes.dropWhile isAsciiHexdigit).map latin1 = (bytes.map latin1).dropWhile isHexDigit := by
  rw [List.dropWhile_map, funext isAsciiHexdigit_eq]
  rfl

/-- The digits of a pointer at the head are part of the run that the source counts. -/
theorem pointerAt_iff {zero x : Char} {rest : List Char} :
    PointerAt (zero :: x :: rest) ↔
      zero = '0' ∧ (x = 'x' ∨ x = 'X') ∧ 8 ≤ (rest.takeWhile isHexDigit).length := by
  constructor
  · rintro ⟨y, digits, tail, heq, hy, hdigits, hlen⟩
    obtain ⟨rfl, rfl, rfl⟩ : zero = '0' ∧ x = y ∧ rest = digits ++ tail := by
      simpa using heq
    refine ⟨rfl, hy, ?_⟩
    rw [List.takeWhile_append_of_pos hdigits, List.length_append]
    omega
  · rintro ⟨rfl, hx, hlen⟩
    exact ⟨x, rest.takeWhile isHexDigit, rest.dropWhile isHexDigit,
      by rw [List.takeWhile_append_dropWhile], hx, fun d hd => List.mem_takeWhile_imp hd, hlen⟩

/-- A pointer has more than one character. -/
theorem not_pointerAt_short {text : List Char} (h : text.length < 2) : ¬ PointerAt text := by
  rintro ⟨x, digits, rest, rfl, -⟩
  simp only [List.length_cons] at h
  omega

/-- What `pointerLen` returns: 0 exactly where no pointer starts, else the covered bytes. -/
theorem pointerLen_spec (bytes : List UInt8) :
    (pointerLen bytes = 0 ∧ ¬ PointerAt (bytes.map latin1)) ∨
      ∃ zero x rest, bytes = zero :: x :: rest ∧ latin1 zero = '0' ∧
        (latin1 x = 'x' ∨ latin1 x = 'X') ∧
        8 ≤ (rest.takeWhile isAsciiHexdigit).length ∧
        pointerLen bytes = (rest.takeWhile isAsciiHexdigit).length + 2 := by
  rcases bytes with _ | ⟨zero, _ | ⟨x, rest⟩⟩
  · exact .inl ⟨rfl, not_pointerAt_short (by simp)⟩
  · exact .inl ⟨rfl, not_pointerAt_short (by simp)⟩
  · have hhead : (zero.toNat = 0x30 ∧ (x.toNat = 0x78 ∨ x.toNat = 0x58)) ↔
        (latin1 zero = '0' ∧ (latin1 x = 'x' ∨ latin1 x = 'X')) := by
      rw [latin1_eq_iff, latin1_eq_iff, latin1_eq_iff]
      rfl
    have hrun : ((rest.map latin1).takeWhile isHexDigit).length =
        (rest.takeWhile isAsciiHexdigit).length := by
      rw [← map_takeWhile_hex, List.length_map]
    rw [pointerLen, List.map_cons, List.map_cons, pointerAt_iff, hrun]
    by_cases h : zero.toNat = 0x30 ∧ (x.toNat = 0x78 ∨ x.toNat = 0x58)
    · rw [if_pos h]
      by_cases hlen : 8 ≤ (rest.takeWhile isAsciiHexdigit).length
      · refine .inr ⟨zero, x, rest, rfl, (hhead.mp h).1, (hhead.mp h).2, hlen, ?_⟩
        rw [if_pos hlen]
      · exact .inl ⟨if_neg hlen, fun hp => hlen hp.2.2⟩
    · exact .inl ⟨if_neg h, fun hp => h (hhead.mpr ⟨hp.1, hp.2.1⟩)⟩

/-- The bytes of a pointer that has been replaced are passed over. -/
theorem scrubFrom_skip (skip : Nat) (bytes : List UInt8) :
    scrubFrom skip bytes = scrubFrom 0 (bytes.drop skip) := by
  induction bytes generalizing skip with
  | nil => cases skip <;> rfl
  | cons byte rest ih =>
    cases skip with
    | zero => rfl
    | succ skip => exact ih skip

/-- The scrubber replaces the pointers of the text that it takes the bytes for. -/
theorem scrubbed_scrubFrom (bytes : List UInt8) :
    Scrubbed (bytes.map latin1) (scrubFrom 0 bytes) := by
  induction hn : bytes.length using Nat.strong_induction_on generalizing bytes with
  | _ n ih =>
    rcases bytes with _ | ⟨byte, rest⟩
    · exact Scrubbed.nil
    · simp only [List.length_cons] at hn
      rcases pointerLen_spec (byte :: rest) with ⟨hlen, hno⟩ |
        ⟨zero, x, tail, heq, hzero, hx, hrun, hlen⟩
      · rw [scrubFrom, hlen]
        exact Scrubbed.keep hno (ih _ (by omega) rest rfl)
      · obtain ⟨rfl, rfl⟩ := List.cons.inj heq
        rw [scrubFrom, hlen]
        -- the covered bytes are `x` and the digits
        change Scrubbed _ (pointerMark ++ scrubFrom ((tail.takeWhile isAsciiHexdigit).length + 1)
          (x :: tail))
        rw [scrubFrom, scrubFrom_skip, List.map_cons, List.map_cons, hzero]
        have hdrop : tail.drop (tail.takeWhile isAsciiHexdigit).length =
            tail.dropWhile isAsciiHexdigit := by
          have h := @List.drop_left _ (tail.takeWhile isAsciiHexdigit)
            (tail.dropWhile isAsciiHexdigit)
          rwa [List.takeWhile_append_dropWhile] at h
        have hsplit : tail.map latin1 = (tail.map latin1).takeWhile isHexDigit ++
            (tail.dropWhile isAsciiHexdigit).map latin1 := by
          rw [← map_takeWhile_hex, ← List.map_append, List.takeWhile_append_dropWhile]
        rw [hdrop, hsplit]
        refine Scrubbed.pointer hx (fun d hd => List.mem_takeWhile_imp hd) ?_ ?_ ?_
        · rwa [← map_takeWhile_hex, List.length_map]
        · rw [map_dropWhile_hex]
          exact head?_dropWhile_hex _
        · have hle := (List.dropWhile_suffix isAsciiHexdigit (l := tail)).length_le
          simp only [List.length_cons] at hn
          exact ih _ (by omega) _ rfl

/-- An `x` is no hex digit. -/
theorem not_hex_of_x {x : Char} (hx : x = 'x' ∨ x = 'X') : isHexDigit x = false := by
  rcases hx with rfl | rfl <;> rfl

/-- Nor is it a zero. -/
theorem ne_zero_of_x {x : Char} (hx : x = 'x' ∨ x = 'X') : x ≠ '0' := by
  rcases hx with rfl | rfl <;> simp

/-- A pointer starts with a zero. -/
theorem not_pointerAt_of_ne {c : Char} (hc : c ≠ '0') (rest : List Char) :
    ¬ PointerAt (c :: rest) := by
  rintro ⟨x, digits, tail, heq, -⟩
  exact hc (List.cons.inj heq).1

/-- Behind the digits of a maximal run a pointer has no further choice. -/
theorem takeWhile_hex_append {digits rest : List Char}
    (hdigits : ∀ d ∈ digits, isHexDigit d = true)
    (hmax : ∀ d ∈ rest.head?, isHexDigit d = false) :
    (digits ++ rest).takeWhile isHexDigit = digits ∧
      (digits ++ rest).dropWhile isHexDigit = rest := by
  rw [List.takeWhile_append_of_pos hdigits, List.dropWhile_append_of_pos hdigits]
  rcases rest with _ | ⟨d, rest⟩
  · simp
  · simp [hmax d rfl]

/-- A pointer at the head is replaced. -/
theorem Scrubbed.pointer_inv {x : Char} {digits rest out : List Char}
    (h : Scrubbed ('0' :: x :: (digits ++ rest)) out) (hx : x = 'x' ∨ x = 'X')
    (hdigits : ∀ d ∈ digits, isHexDigit d = true) (hlen : 8 ≤ digits.length)
    (hmax : ∀ d ∈ rest.head?, isHexDigit d = false) :
    ∃ tail, out = pointerMark ++ tail ∧ Scrubbed rest tail := by
  generalize htext : '0' :: x :: (digits ++ rest) = text at h
  cases h with
  | nil => simp at htext
  | pointer hx' hdigits' hlen' hmax' h =>
    have heq := (List.cons.inj (List.cons.inj htext).2).2
    have h₁ := (takeWhile_hex_append hdigits hmax).2
    rw [heq, (takeWhile_hex_append hdigits' hmax').2] at h₁
    exact ⟨_, rfl, h₁ ▸ h⟩
  | keep hno h =>
    exact absurd ⟨x, digits, rest, htext.symm, hx, hdigits, hlen⟩ hno

/-- Where no pointer starts, the character is kept. -/
theorem Scrubbed.keep_inv {c : Char} {rest out : List Char} (h : Scrubbed (c :: rest) out)
    (hno : ¬ PointerAt (c :: rest)) : ∃ tail, out = c :: tail ∧ Scrubbed rest tail := by
  cases h with
  | pointer hx hdigits hlen _ _ => exact absurd ⟨_, _, _, rfl, hx, hdigits, hlen⟩ hno
  | keep _ h => exact ⟨_, rfl, h⟩

/-- A text is scrubbed in one way. -/
theorem Scrubbed.unique {text out₁ out₂ : List Char} (h₁ : Scrubbed text out₁)
    (h₂ : Scrubbed text out₂) : out₁ = out₂ := by
  induction h₁ generalizing out₂ with
  | nil => cases h₂; rfl
  | pointer hx hdigits hlen hmax _ ih =>
    obtain ⟨tail, rfl, htail⟩ := h₂.pointer_inv hx hdigits hlen hmax
    rw [ih htail]
  | keep hno _ ih =>
    obtain ⟨tail, rfl, htail⟩ := h₂.keep_inv hno
    rw [ih htail]

/-- A character of a scrubbed text comes from the text or from the mark. -/
theorem Scrubbed.mem {text out : List Char} (h : Scrubbed text out) {c : Char} (hc : c ∈ out) :
    c ∈ text ∨ c ∈ pointerMark := by
  induction h with
  | nil => simp at hc
  | pointer _ _ _ _ _ ih =>
    rcases List.mem_append.mp hc with hc | hc
    · exact .inr hc
    · rcases ih hc with h | h
      · exact .inl (by simp [h])
      · exact .inr h
  | keep _ _ ih =>
    rcases List.mem_cons.mp hc with rfl | hc
    · exact .inl (by simp)
    · exact (ih hc).imp_left (List.mem_cons_of_mem _)

/-- Scrubbing leaves no text empty. -/
theorem Scrubbed.ne_nil {text out : List Char} (h : Scrubbed text out) (hne : text ≠ []) :
    out ≠ [] := by
  cases h with
  | nil => exact hne
  | pointer => simp [pointerMark]
  | keep => simp

/-- No pointer reaches over a character that no pointer contains. -/
theorem pointerAt_of_append {before after : List Char} {c : Char} (hne : before ≠ [])
    (hc : isHexDigit c = false) (hx : c ≠ 'x') (hX : c ≠ 'X')
    (h : PointerAt (before ++ c :: after)) : PointerAt before := by
  rcases before with _ | ⟨zero, _ | ⟨x, rest⟩⟩
  · exact absurd rfl hne
  · obtain ⟨-, h, -⟩ := pointerAt_iff.mp h
    exact absurd h (by simp [hx, hX])
  · rw [List.cons_append, List.cons_append, pointerAt_iff, List.takeWhile_append] at h
    rw [pointerAt_iff]
    refine ⟨h.1, h.2.1, le_trans h.2.2 ?_⟩
    split
    · rename_i hall
      simp [hc, hall]
    · exact le_rfl

/-- Text on both sides of such a character is scrubbed separately. -/
theorem Scrubbed.append_barrier {before after out₁ out₂ : List Char} {c : Char}
    (hc : isHexDigit c = false) (hx : c ≠ 'x') (hX : c ≠ 'X')
    (h₁ : Scrubbed before out₁) (h₂ : Scrubbed after out₂) :
    Scrubbed (before ++ c :: after) (out₁ ++ c :: out₂) := by
  induction h₁ with
  | nil =>
    refine Scrubbed.keep (not_pointerAt_of_ne ?_ after) h₂
    rintro rfl
    exact absurd hc (by decide)
  | @pointer x digits rest out hx' hdigits hlen hmax _ ih =>
    rw [List.cons_append, List.cons_append, List.append_assoc, List.append_assoc]
    refine Scrubbed.pointer hx' hdigits hlen ?_ ih
    rcases rest with _ | ⟨d, rest⟩
    · simpa using hc
    · exact hmax
  | keep hno _ ih =>
    exact Scrubbed.keep (fun h => hno (pointerAt_of_append (by simp) hc hx hX h)) ih

/-- Digits at the head of the output stand at the head of the text. -/
theorem Scrubbed.digits_prefix {text out : List Char} (h : Scrubbed text out)
    {digits : List Char} (hdigits : ∀ d ∈ digits, isHexDigit d = true) (hpre : digits <+: out) :
    digits <+: text := by
  induction h generalizing digits with
  | nil => exact hpre
  | pointer =>
    -- the mark begins with one digit, and so does the pointer
    rcases digits with _ | ⟨d, _ | ⟨e, digits⟩⟩
    · exact List.nil_prefix
    · obtain ⟨rfl, -⟩ := List.cons_prefix_cons.mp hpre
      exact List.cons_prefix_cons.mpr ⟨rfl, List.nil_prefix⟩
    · obtain ⟨-, hrest⟩ := List.cons_prefix_cons.mp hpre
      obtain ⟨rfl, -⟩ := List.cons_prefix_cons.mp hrest
      exact absurd (hdigits 'x' (by simp)) (by simp [not_hex_of_x])
  | keep _ _ ih =>
    rcases digits with _ | ⟨d, digits⟩
    · exact List.nil_prefix
    · obtain ⟨rfl, hrest⟩ := List.cons_prefix_cons.mp hpre
      exact List.cons_prefix_cons.mpr ⟨rfl, ih (fun e he => hdigits e (by simp [he])) hrest⟩

/-- Digits at the head of the text stay at the head of the output. -/
theorem Scrubbed.prefix_digits {digits rest out : List Char}
    (h : Scrubbed (digits ++ rest) out) (hdigits : ∀ d ∈ digits, isHexDigit d = true) :
    digits <+: out := by
  induction digits generalizing out with
  | nil => exact List.nil_prefix
  | cons d digits ih =>
    generalize htext : d :: digits ++ rest = text at h
    cases h with
    | nil => simp at htext
    | @pointer x digits' rest' out' hx _ _ _ _ =>
      obtain ⟨rfl, htail⟩ := List.cons.inj htext
      rcases digits with _ | ⟨e, digits⟩
      · exact ⟨'x' :: 'P' :: 'T' :: 'R' :: out', rfl⟩
      · obtain ⟨rfl, -⟩ := List.cons.inj htail
        exact absurd (hdigits e (by simp)) (by simp [not_hex_of_x hx])
    | keep _ h =>
      obtain ⟨rfl, rfl⟩ := List.cons.inj htext
      exact List.cons_prefix_cons.mpr ⟨rfl, ih h fun e he => hdigits e (by simp [he])⟩

/-- No position of the text starts a pointer. -/
def PointerFree (text : List Char) : Prop := ∀ suffix, suffix <:+ text → ¬ PointerAt suffix

/-- A text is free of pointers if none starts at its head and the rest is free. -/
theorem pointerFree_cons {c : Char} {text : List Char} :
    PointerFree (c :: text) ↔ ¬ PointerAt (c :: text) ∧ PointerFree text := by
  constructor
  · intro h
    exact ⟨h _ List.suffix_rfl, fun s hs => h s (hs.trans (List.suffix_cons c text))⟩
  · rintro ⟨hhead, htail⟩ s hs
    rcases List.suffix_cons_iff.mp hs with rfl | hs
    · exact hhead
    · exact htail s hs

/-- A text without pointers is left as it is. -/
theorem scrubbed_self {text : List Char} (h : PointerFree text) : Scrubbed text text := by
  induction text with
  | nil => exact Scrubbed.nil
  | cons c text ih =>
    obtain ⟨hhead, htail⟩ := pointerFree_cons.mp h
    exact Scrubbed.keep hhead (ih htail)

/-- Scrubbing leaves no pointer, not even where a kept `0x` meets digits that were put
together. -/
theorem Scrubbed.pointerFree {text out : List Char} (h : Scrubbed text out) :
    PointerFree out := by
  induction h with
  | nil =>
    intro s hs
    rw [List.suffix_nil.mp hs]
    exact not_pointerAt_short (by simp)
  | @pointer _ _ _ out _ _ _ _ _ ih =>
    change PointerFree ('0' :: 'x' :: 'P' :: 'T' :: 'R' :: out)
    simp only [pointerFree_cons]
    refine ⟨fun hat => ?_, not_pointerAt_of_ne (by simp) _, not_pointerAt_of_ne (by simp) _,
      not_pointerAt_of_ne (by simp) _, not_pointerAt_of_ne (by simp) _, ih⟩
    -- the `P` behind the `0x` is no digit
    obtain ⟨-, -, hrun⟩ := pointerAt_iff.mp hat
    simp [isHexDigit] at hrun
  | @keep c rest out hno hrest ih =>
    refine pointerFree_cons.mpr ⟨?_, ih⟩
    rintro ⟨x, digits, tail, heq, hx, hdigits, hlen⟩
    obtain ⟨rfl, rfl⟩ := List.cons.inj heq
    -- the `x` behind it was kept, and so were the digits
    generalize hout : x :: (digits ++ tail) = out at hrest
    cases hrest with
    | nil => simp at hout
    | pointer => exact ne_zero_of_x hx (List.cons.inj hout).1
    | keep _ hrest =>
      obtain ⟨rfl, rfl⟩ := List.cons.inj hout
      obtain ⟨rest', rfl⟩ := hrest.digits_prefix hdigits (List.prefix_append digits tail)
      exact hno ⟨x, digits, rest', rfl, hx, hdigits, hlen⟩

/-- Scrubbing twice is scrubbing once. -/
theorem Scrubbed.idem {text out : List Char} (h : Scrubbed text out) : Scrubbed out out :=
  scrubbed_self h.pointerFree

/-! ### Short literals -/

/-- A `0` behind the text is a digit of a pointer that starts in it: the scan from the left ends in
a pointer, or in one that the `0` makes long enough. -/
inductive Covers : List Char → Prop
  | ends {y : Char} {digits : List Char} (hy : y = 'x' ∨ y = 'X')
      (hdigits : ∀ d ∈ digits, isHexDigit d = true) (hlen : 7 ≤ digits.length) :
      Covers ('0' :: y :: digits)
  | pointer {y : Char} {digits rest : List Char} (hy : y = 'x' ∨ y = 'X')
      (hdigits : ∀ d ∈ digits, isHexDigit d = true) (hlen : 8 ≤ digits.length)
      (hmax : ∀ d ∈ rest.head?, isHexDigit d = false) (h : Covers rest) :
      Covers ('0' :: y :: (digits ++ rest))
  | keep {c : Char} {rest : List Char} (hno : ¬ PointerAt (c :: rest)) (h : Covers rest) :
      Covers (c :: rest)

section ShortLiteral

variable {x : Char} {digits after : List Char}

/-- A literal behind a text makes a pointer at its head only by the `0` that it adds to it. -/
theorem ends_of_pointerAt {text : List Char} (hne : text ≠ []) (hx : x = 'x' ∨ x = 'X')
    (hno : ¬ PointerAt text) (hat : PointerAt (text ++ '0' :: x :: (digits ++ after))) :
    ∃ y run, text = '0' :: y :: run ∧ (y = 'x' ∨ y = 'X') ∧
      (∀ d ∈ run, isHexDigit d = true) ∧ 7 ≤ run.length := by
  rcases text with _ | ⟨c, _ | ⟨y, rest⟩⟩
  · exact absurd rfl hne
  · obtain ⟨-, hzero, -⟩ := pointerAt_iff.mp hat
    exact absurd rfl (ne_zero_of_x hzero)
  · rw [pointerAt_iff] at hno
    rw [List.cons_append, List.cons_append, pointerAt_iff, List.takeWhile_append] at hat
    obtain ⟨rfl, hy, hrun⟩ := hat
    split at hrun
    · rename_i hall
      -- the digits run up to the literal and take its `0`
      refine ⟨y, rest, rfl, hy, ?_, ?_⟩
      · rw [← List.takeWhile_eq_self_iff]
        exact List.Sublist.eq_of_length (List.takeWhile_sublist _) hall
      · rw [List.takeWhile_cons_of_pos rfl,
          List.takeWhile_cons_of_neg (by simp [not_hex_of_x hx]), List.length_append,
          List.length_singleton] at hrun
        omega
    · exact absurd ⟨rfl, hy, hrun⟩ hno

/-- A hex literal of fewer than eight digits stays, unless a pointer takes its `0`. -/
theorem Scrubbed.short_literal {before out₁ : List Char} (h₁ : Scrubbed before out₁)
    (hcover : ¬ Covers before) {out : List Char} (hx : x = 'x' ∨ x = 'X')
    (hdigits : ∀ d ∈ digits, isHexDigit d = true) (hlen : digits.length < 8)
    (hmax : ∀ d ∈ after.head?, isHexDigit d = false)
    (h : Scrubbed (before ++ '0' :: x :: (digits ++ after)) out) :
    out₁ ++ '0' :: x :: digits <+: out := by
  induction h₁ generalizing out with
  | nil =>
    have hno : ¬ PointerAt ('0' :: x :: (digits ++ after)) := by
      rw [pointerAt_iff, (takeWhile_hex_append hdigits hmax).1]
      omega
    obtain ⟨tail, rfl, hzero⟩ := h.keep_inv hno
    obtain ⟨tail', rfl, htail⟩ := hzero.keep_inv (not_pointerAt_of_ne (ne_zero_of_x hx) _)
    obtain ⟨rest, rfl⟩ := htail.prefix_digits hdigits
    exact ⟨rest, rfl⟩
  | @pointer y digits' rest out' hy hdigits' hlen' hmax' _ ih =>
    rcases rest with _ | ⟨d, rest⟩
    · refine absurd (Covers.ends hy hdigits' (by omega)) ?_
      rwa [List.append_nil] at hcover
    · rw [List.cons_append, List.cons_append, List.append_assoc] at h
      obtain ⟨tail, rfl, htail⟩ := h.pointer_inv hy hdigits' hlen' (by simpa using hmax')
      rw [List.append_assoc]
      refine List.prefix_append_right_inj _ |>.mpr (ih (fun hrest => hcover ?_) htail)
      exact Covers.pointer hy hdigits' hlen' hmax' hrest
  | @keep c rest out' hno _ ih =>
    have hno' : ¬ PointerAt (c :: rest ++ '0' :: x :: (digits ++ after)) := by
      intro hat
      obtain ⟨y, run, heq, hy, hrun, hseven⟩ := ends_of_pointerAt (by simp) hx hno hat
      exact hcover (heq ▸ Covers.ends hy hrun hseven)
    obtain ⟨tail, rfl, htail⟩ := h.keep_inv hno'
    exact List.cons_prefix_cons.mpr ⟨rfl, ih (fun hrest => hcover (hrest.keep hno)) htail⟩

/-- Where the text is all of the pointer that takes the `0`, the mark and the `x` stand next to
each other. -/
theorem Scrubbed.literal_altered {y : Char} {run out₁ out : List Char}
    (hy : y = 'x' ∨ y = 'X') (hrun : ∀ d ∈ run, isHexDigit d = true) (hseven : 7 ≤ run.length)
    (hx : x = 'x' ∨ x = 'X') (h₁ : Scrubbed ('0' :: y :: run) out₁)
    (h : Scrubbed ('0' :: y :: run ++ '0' :: x :: (digits ++ after)) out) :
    ¬ out₁ ++ '0' :: x :: digits <+: out := by
  have hsplit : '0' :: y :: run ++ '0' :: x :: (digits ++ after) =
      '0' :: y :: ((run ++ ['0']) ++ x :: (digits ++ after)) := by
    simp
  rw [hsplit] at h
  have hdigits : ∀ d ∈ run ++ ['0'], isHexDigit d = true := by
    intro d hd
    rcases List.mem_append.mp hd with hd | hd
    · exact hrun d hd
    · rw [List.mem_singleton.mp hd]
      rfl
  obtain ⟨tail, rfl, htail⟩ := h.pointer_inv hy hdigits (by simp; omega)
    (by simpa using not_hex_of_x hx)
  obtain ⟨tail', rfl, -⟩ := htail.keep_inv (not_pointerAt_of_ne (ne_zero_of_x hx) _)
  intro hprefix
  by_cases hat : PointerAt ('0' :: y :: run)
  · -- the text is a pointer by itself, so its mark stands in front of the `0` here
    obtain ⟨-, -, height⟩ := pointerAt_iff.mp hat
    rw [List.takeWhile_eq_self_iff.mpr hrun] at height
    rw [← List.append_nil run] at h₁
    obtain ⟨rest, rfl, hrest⟩ := h₁.pointer_inv hy hrun height (by simp)
    rw [hrest.unique Scrubbed.nil, List.append_nil, List.prefix_append_right_inj] at hprefix
    exact ne_zero_of_x hx (List.cons_prefix_cons.mp hprefix).1.symm
  · -- it is kept, and its first digit stands where the mark has its `P`
    obtain ⟨rest, rfl, hrest⟩ := h₁.keep_inv hat
    obtain ⟨rest', rfl, hrest'⟩ := hrest.keep_inv (not_pointerAt_of_ne (ne_zero_of_x hy) _)
    rcases run with _ | ⟨d, run⟩
    · exact absurd hseven (by simp)
    · rw [← List.append_nil (d :: run)] at hrest'
      obtain ⟨more, rfl⟩ := hrest'.prefix_digits hrun
      obtain ⟨-, hprefix⟩ := List.cons_prefix_cons.mp hprefix
      obtain ⟨-, hprefix⟩ := List.cons_prefix_cons.mp hprefix
      obtain ⟨rfl, -⟩ := List.cons_prefix_cons.mp hprefix
      exact absurd (hrun 'P' (by simp)) (by decide)

/-- The literal stays exactly if no pointer takes its `0`. -/
theorem Scrubbed.short_literal_iff {before out₁ : List Char} (h₁ : Scrubbed before out₁)
    {out : List Char} (hx : x = 'x' ∨ x = 'X') (hdigits : ∀ d ∈ digits, isHexDigit d = true)
    (hlen : digits.length < 8) (hmax : ∀ d ∈ after.head?, isHexDigit d = false)
    (h : Scrubbed (before ++ '0' :: x :: (digits ++ after)) out) :
    out₁ ++ '0' :: x :: digits <+: out ↔ ¬ Covers before := by
  refine ⟨fun hkept hcover => ?_, fun hcover => h₁.short_literal hcover hx hdigits hlen hmax h⟩
  induction hcover generalizing out₁ out with
  | ends hy hrun hseven => exact Scrubbed.literal_altered hy hrun hseven hx h₁ h hkept
  | @pointer y run rest hy hrun height hmax' hrest ih =>
    obtain ⟨tail₁, rfl, htail₁⟩ := h₁.pointer_inv hy hrun height hmax'
    rw [List.cons_append, List.cons_append, List.append_assoc] at h
    rcases rest with _ | ⟨d, rest⟩
    · cases hrest
    · obtain ⟨tail, rfl, htail⟩ := h.pointer_inv hy hrun height (by simpa using hmax')
      rw [List.append_assoc, List.prefix_append_right_inj] at hkept
      exact ih htail₁ htail hkept
  | @keep c rest hno _ ih =>
    by_cases hat : PointerAt (c :: rest ++ '0' :: x :: (digits ++ after))
    · obtain ⟨y, run, heq, hy, hrun, hseven⟩ := ends_of_pointerAt (by simp) hx hno hat
      rw [heq] at h₁ h
      exact Scrubbed.literal_altered hy hrun hseven hx h₁ h hkept
    · obtain ⟨tail₁, rfl, htail₁⟩ := h₁.keep_inv hno
      obtain ⟨tail, rfl, htail⟩ := h.keep_inv hat
      exact ih htail₁ htail (List.cons_prefix_cons.mp hkept).2

end ShortLiteral

end Microcar.Dogfood
