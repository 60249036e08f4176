import Microcar.Dogfood.Pointers

/-!
# Normalizing twice

On a line whose words are ASCII, normalization is the list of its words, each scrubbed, and a
second pass finds the same words. Any other character reaches the scrubber as two or more bytes.
Each of them comes back as a character beyond ASCII, and a second pass takes it apart again.
-/

namespace Microcar.Dogfood

open Microcar.Core

/-! ### Scrubbed words -/

/-- Every text can be scrubbed. -/
theorem exists_scrubbed (text : List Char) : ∃ out, Scrubbed text out := by
  induction hn : text.length using Nat.strong_induction_on generalizing text with
  | _ n ih =>
    rcases text with _ | ⟨c, rest⟩
    · exact ⟨[], Scrubbed.nil⟩
    · simp only [List.length_cons] at hn
      by_cases hat : PointerAt (c :: rest)
      · rcases rest with _ | ⟨x, rest⟩
        · exact absurd hat (not_pointerAt_short (by simp))
        · obtain ⟨rfl, hx, hrun⟩ := pointerAt_iff.mp hat
          have hle := (List.dropWhile_suffix isHexDigit (l := rest)).length_le
          simp only [List.length_cons] at hn
          obtain ⟨out, hout⟩ := ih _ (by omega) (rest.dropWhile isHexDigit) rfl
          refine ⟨pointerMark ++ out, ?_⟩
          rw [← List.takeWhile_append_dropWhile (p := isHexDigit) (l := rest)]
          exact Scrubbed.pointer hx (fun d hd => List.mem_takeWhile_imp hd) hrun
            (head?_dropWhile_hex rest) hout
      · obtain ⟨out, hout⟩ := ih _ (by omega) rest rfl
        exact ⟨c :: out, Scrubbed.keep hat hout⟩

/-- The text with its pointers replaced. -/
noncomputable def scrub (text : List Char) : List Char := (exists_scrubbed text).choose

/-- The scrubber scrubs. -/
theorem scrubbed_scrub (text : List Char) : Scrubbed text (scrub text) :=
  (exists_scrubbed text).choose_spec

/-- There is one scrubbed text. -/
theorem scrub_eq {text out : List Char} (h : Scrubbed text out) : scrub text = out :=
  (scrubbed_scrub text).unique h

/-- A line whose words are ASCII. -/
def AsciiWords (line : String) : Prop :=
  ∀ c ∈ line.toList, isWhitespace c = false → isAscii c = true

/-- The line with its pointers scrubbed, word by word. -/
noncomputable def scrubbedWords (line : String) : List (List Char) :=
  (words isWhitespace line.toList).map scrub

/-- The mark of a pointer is ASCII without whitespace. -/
theorem of_mem_pointerMark : ∀ c ∈ pointerMark, isWhitespace c = false ∧ isAscii c = true := by
  simp [pointerMark, isWhitespace, isAscii]

/-- A scrubbed word is a word: neither empty nor with whitespace. -/
theorem isWord_scrub {word : List Char} (h : IsWord isWhitespace word) :
    IsWord isWhitespace (scrub word) := by
  refine ⟨(scrubbed_scrub word).ne_nil h.1, fun c hc => ?_⟩
  rcases (scrubbed_scrub word).mem hc with hc | hc
  · exact h.2 c hc
  · exact (of_mem_pointerMark c hc).1

/-- So is each scrubbed word of a line. -/
theorem isWord_of_mem_scrubbedWords {line : String} {word : List Char}
    (h : word ∈ scrubbedWords line) : IsWord isWhitespace word := by
  obtain ⟨token, htoken, rfl⟩ := List.mem_map.mp h
  exact isWord_scrub (isWord_of_mem_words htoken)

/-- A pointer never goes over a blank, so words are scrubbed one by one. -/
theorem scrub_unwords (ws : List (List Char)) :
    scrub (unwords ' ' ws) = unwords ' ' (ws.map scrub) := by
  rcases ws with _ | ⟨word, ws⟩
  · exact scrub_eq Scrubbed.nil
  · rw [List.map_cons, unwords_cons, unwords_cons]
    apply scrub_eq
    induction ws generalizing word with
    | nil => simpa using scrubbed_scrub word
    | cons next ws ih =>
      exact Scrubbed.append_barrier rfl (by decide) (by decide) (scrubbed_scrub word) (ih next)

/-- The characters of a word are characters of the text. -/
theorem mem_of_mem_words {text word : List Char} (h : word ∈ words isWhitespace text) {c : Char}
    (hc : c ∈ word) : c ∈ text ∧ isWhitespace c = false := by
  have hmem : c ∈ (words isWhitespace text).flatten := List.mem_flatten_of_mem h hc
  rw [flatten_words] at hmem
  simpa using List.mem_filter.mp hmem

/-- The scrubber sees the words as they are. -/
theorem normalizeLine_eq {line : String} (h : AsciiWords line) :
    normalizeLine line = String.ofList (unwords ' ' (scrubbedWords line)) := by
  have hascii : ∀ c ∈ unwords ' ' (words isWhitespace line.toList), isAscii c = true := by
    intro c hc
    rcases mem_unwords hc with rfl | ⟨word, hword, hc⟩
    · rfl
    · obtain ⟨hline, hws⟩ := mem_of_mem_words hword hc
      exact h c hline hws
  rw [normalizeLine, scrubPointers, collapse_eq]
  congr 1
  have hscrub := scrubbed_scrubFrom
    (utf8 (String.ofList (unwords ' ' (words isWhitespace line.toList))))
  rw [map_latin1_utf8_ofList hascii] at hscrub
  rw [← scrub_eq hscrub, scrub_unwords]
  rfl

/-- The normalized line has the scrubbed words for its words. -/
theorem words_normalizeLine {line : String} (h : AsciiWords line) :
    words isWhitespace (normalizeLine line).toList = scrubbedWords line := by
  rw [normalizeLine_eq h, String.toList_ofList]
  exact words_unwords isWhitespace_space fun word hword => isWord_of_mem_scrubbedWords hword

/-- ASCII words are normalized to ASCII words. -/
theorem asciiWords_normalizeLine {line : String} (h : AsciiWords line) :
    AsciiWords (normalizeLine line) := by
  intro c hc hws
  rw [normalizeLine_eq h, String.toList_ofList] at hc
  rcases mem_unwords hc with rfl | ⟨word, hword, hc⟩
  · rfl
  · obtain ⟨token, htoken, rfl⟩ := List.mem_map.mp hword
    rcases (scrubbed_scrub token).mem hc with hc | hc
    · obtain ⟨hline, hws⟩ := mem_of_mem_words htoken hc
      exact h c hline hws
    · exact (of_mem_pointerMark c hc).2

/-- The words of a normalized line are scrubbed already. -/
theorem scrubbedWords_normalizeLine {line : String} (h : AsciiWords line) :
    scrubbedWords (normalizeLine line) = scrubbedWords line := by
  rw [scrubbedWords, words_normalizeLine h, scrubbedWords, List.map_map]
  apply List.map_congr_left
  intro word _
  exact scrub_eq (scrubbed_scrub word).idem

/-- On ASCII words a second pass changes nothing. -/
theorem normalizeLine_idem {line : String} (h : AsciiWords line) :
    normalizeLine (normalizeLine line) = normalizeLine line := by
  rw [normalizeLine_eq (asciiWords_normalizeLine h), scrubbedWords_normalizeLine h,
    normalizeLine_eq h]

/-- On ASCII words two lines are normalized alike exactly if their scrubbed words agree. -/
theorem normalizeLine_inj {line other : String} (h : AsciiWords line) (h' : AsciiWords other) :
    normalizeLine line = normalizeLine other ↔ scrubbedWords line = scrubbedWords other := by
  constructor
  · intro heq
    rw [← words_normalizeLine h, ← words_normalizeLine h', heq]
  · intro heq
    rw [normalizeLine_eq h, normalizeLine_eq h', heq]

/-- An ASCII line. -/
def AsciiLine (line : String) : Prop := ∀ c ∈ line.toList, isAscii c = true

/-- An ASCII line has ASCII words. -/
theorem AsciiLine.asciiWords {line : String} (h : AsciiLine line) : AsciiWords line :=
  fun c hc _ => h c hc

/-- Normalization of an ASCII line erases padding and pointers and nothing else. A short hex
literal stays exactly if its `0` is no digit of the pointer in front of it. -/
theorem normalizeLine_ascii {line : String} (h : AsciiLine line) :
    normalizeLine line =
        String.ofList (unwords ' ' ((words isWhitespace line.toList).map scrub)) ∧
      (∀ token ∈ words isWhitespace line.toList, Scrubbed token (scrub token)) ∧
      (∀ other, AsciiLine other →
        (normalizeLine line = normalizeLine other ↔
          (words isWhitespace line.toList).map scrub =
            (words isWhitespace other.toList).map scrub)) ∧
      (∀ token ∈ words isWhitespace line.toList, ∀ before x digits after,
        token = before ++ '0' :: x :: (digits ++ after) → (x = 'x' ∨ x = 'X') →
        (∀ d ∈ digits, isHexDigit d = true) → digits.length < 8 →
        (∀ d ∈ after.head?, isHexDigit d = false) →
        (scrub before ++ '0' :: x :: digits <+: scrub token ↔ ¬ Covers before)) ∧
      normalizeLine (normalizeLine line) = normalizeLine line := by
  refine ⟨normalizeLine_eq h.asciiWords, fun token _ => scrubbed_scrub token,
    fun other hother => normalizeLine_inj h.asciiWords hother.asciiWords, ?_,
    normalizeLine_idem h.asciiWords⟩
  rintro token - before x digits after rfl hx hdigits hlen hmax
  exact (scrubbed_scrub before).short_literal_iff hx hdigits hlen hmax (scrubbed_scrub _)

/-- A padded pointer behind a name. -/
theorem normalizeLine_ascii_pointer :
    normalizeLine (String.ofList
        [' ', 'p', ' ', ' ', '0', 'X', '7', 'F', '8', 'a', '3', 'c', '0', '0', '1']) =
      String.ofList ['p', ' ', '0', 'x', 'P', 'T', 'R'] := by
  have hline : AsciiLine (String.ofList
      [' ', 'p', ' ', ' ', '0', 'X', '7', 'F', '8', 'a', '3', 'c', '0', '0', '1']) := by
    rw [AsciiLine, String.toList_ofList]
    exact List.all_eq_true.mp rfl
  have hname : scrub ['p'] = ['p'] := scrub_eq (scrubbed_scrubFrom [0x70])
  have hpointer : scrub ['0', 'X', '7', 'F', '8', 'a', '3', 'c', '0', '0', '1'] = pointerMark :=
    scrub_eq (scrubbed_scrubFrom [0x30, 0x58, 0x37, 0x46, 0x38, 0x61, 0x33, 0x63, 0x30, 0x30,
      0x31])
  have hwords : words isWhitespace
      [' ', 'p', ' ', ' ', '0', 'X', '7', 'F', '8', 'a', '3', 'c', '0', '0', '1'] =
        [['p'], ['0', 'X', '7', 'F', '8', 'a', '3', 'c', '0', '0', '1']] := by
    decide
  rw [(normalizeLine_ascii hline).1, String.toList_ofList, hwords, List.map_cons, List.map_cons,
    hname, hpointer]
  rfl

/-- A pointer with a short literal right behind it takes the `0` of the literal. -/
theorem shortLiteral_altered :
    normalizeLine "id=0xDEADBEEF0x101" = "id=0xPTRx101" ∧
      ¬ ∀ line, AsciiLine line → ∀ token ∈ words isWhitespace line.toList,
        ∀ before x digits after, token = before ++ '0' :: x :: (digits ++ after) →
          (x = 'x' ∨ x = 'X') → (∀ d ∈ digits, isHexDigit d = true) → digits.length < 8 →
          (∀ d ∈ after.head?, isHexDigit d = false) →
          scrub before ++ '0' :: x :: digits <+: scrub token := by
  refine ⟨by decide, fun h => ?_⟩
  have hline : AsciiLine "id=0xDEADBEEF0x101" := List.all_eq_true.mp rfl
  have hword : "id=0xDEADBEEF0x101".toList ∈ words isWhitespace "id=0xDEADBEEF0x101".toList := by
    decide
  have hkept := h _ hline _ hword ("id=0xDEADBEEF".toList) 'x' ['1', '0', '1'] [] (by decide)
    (.inl rfl) (List.all_eq_true.mp rfl) (by decide) (by simp)
  have hbefore : scrub "id=0xDEADBEEF".toList = "id=0xPTR".toList :=
    scrub_eq (scrubbed_scrubFrom (utf8 "id=0xDEADBEEF"))
  have hafter : scrub "id=0xDEADBEEF0x101".toList = "id=0xPTRx101".toList :=
    scrub_eq (scrubbed_scrubFrom (utf8 "id=0xDEADBEEF0x101"))
  rw [hbefore, hafter] at hkept
  exact absurd hkept (by decide)

/-! ### Characters beyond ASCII -/

/-- The characters that a pass takes apart: beyond ASCII and no whitespace. -/
def beyond (text : List Char) : List Char :=
  text.filter fun c => !isWhitespace c && !isAscii c

/-- The words are ASCII exactly if no character lies beyond. -/
theorem asciiWords_iff (line : String) : AsciiWords line ↔ beyond line.toList = [] := by
  simp only [AsciiWords, beyond, List.filter_eq_nil_iff, Bool.and_eq_true, Bool.not_eq_true',
    not_and, Bool.not_eq_false]

/-- The bytes of a character, each as a character. -/
def encoded (c : Char) : List Char := (String.utf8EncodeChar c).map latin1

/-- Scrubbing leaves the characters beyond ASCII as they are. -/
theorem Scrubbed.filter_not_ascii {text out : List Char} (h : Scrubbed text out) :
    out.filter (!isAscii ·) = text.filter (!isAscii ·) := by
  induction h with
  | nil => rfl
  | @pointer x digits rest out hx hdigits _ _ _ ih =>
    have hmark : pointerMark.filter (!isAscii ·) = [] := by decide
    have hhex : ∀ d, isHexDigit d = true → isAscii d = true := by
      intro d
      simp only [isHexDigit, isAscii, Bool.or_eq_true, Bool.and_eq_true, decide_eq_true_eq]
      omega
    have hdig : digits.filter (!isAscii ·) = [] := by
      rw [List.filter_eq_nil_iff]
      intro d hd
      simp [hhex d (hdigits d hd)]
    have hx' : isAscii x = true := by rcases hx with rfl | rfl <;> rfl
    rw [List.filter_append, hmark, ih, List.filter_cons_of_neg (by simp [isAscii]),
      List.filter_cons_of_neg (by simp [hx']), List.filter_append, hdig]
  | keep _ _ ih => rw [List.filter_cons, List.filter_cons, ih]

/-- A byte is an ASCII character below `0x80`. -/
theorem isAscii_latin1 (byte : UInt8) : isAscii (latin1 byte) = decide (byte.toNat < 0x80) := by
  rw [isAscii, toNat_latin1]

/-- An ASCII character is its own byte. -/
theorem encoded_ascii {c : Char} (h : isAscii c = true) : encoded c = [c] :=
  map_latin1_utf8EncodeChar h

/-- Every byte of a character beyond ASCII comes back as a character beyond ASCII. -/
theorem encoded_not_ascii {c : Char} (h : isAscii c = false) :
    ∃ lead tail, encoded c = lead :: tail ∧ 0xC2 ≤ lead.toNat ∧
      (encoded c).filter (!isAscii ·) = encoded c := by
  obtain ⟨lead, tail, heq, hlead, -, htail⟩ := utf8EncodeChar_not_ascii h
  refine ⟨latin1 lead, tail.map latin1, by rw [encoded, heq]; rfl, by rwa [toNat_latin1], ?_⟩
  rw [List.filter_eq_self, encoded, heq]
  intro d hd
  obtain ⟨byte, hbyte, rfl⟩ := List.mem_map.mp hd
  rw [isAscii_latin1]
  rcases List.mem_cons.mp hbyte with rfl | hbyte
  · simp
    omega
  · have := htail byte hbyte
    simp
    omega

/-- Beyond ASCII are the bytes of the characters beyond ASCII. -/
theorem filter_flatMap_encoded (text : List Char) :
    (text.flatMap encoded).filter (!isAscii ·) =
      (text.filter (!isAscii ·)).flatMap encoded := by
  induction text with
  | nil => rfl
  | cons c text ih =>
    rw [List.flatMap_cons, List.filter_append, ih]
    rcases hc : isAscii c with _ | _
    · obtain ⟨_, _, _, _, hfilter⟩ := encoded_not_ascii hc
      rw [hfilter, List.filter_cons_of_pos (by simp [hc]), List.flatMap_cons]
    · rw [encoded_ascii hc, List.filter_cons_of_neg (by simp [hc]),
        List.filter_cons_of_neg (by simp [hc])]
      rfl

/-- What a pass makes of the characters beyond ASCII: their bytes, one character each. -/
theorem filter_normalizeLine (line : String) :
    (normalizeLine line).toList.filter (!isAscii ·) =
      (beyond line.toList).flatMap encoded := by
  have hscrub := scrubbed_scrubFrom (utf8 (collapse line))
  have hcollapsed : (unwords ' ' (words isWhitespace line.toList)).filter (!isAscii ·) =
      beyond line.toList := by
    rw [filter_unwords (by rfl), flatten_words, List.filter_filter, beyond]
    apply List.filter_congr
    intro c _
    exact Bool.and_comm _ _
  rw [normalizeLine, scrubPointers, String.toList_ofList, hscrub.filter_not_ascii, collapse_eq,
    utf8_ofList, List.map_flatMap]
  change (List.flatMap encoded _).filter _ = _
  rw [filter_flatMap_encoded, hcollapsed]

/-- The characters beyond, in two steps. -/
theorem beyond_eq (text : List Char) :
    beyond text = (text.filter (!isAscii ·)).filter (!isWhitespace ·) := by
  rw [List.filter_filter, beyond]

/-- The first byte of a character beyond ASCII is no whitespace. -/
theorem isWhitespace_of_lead {c : Char} (h : 0xC2 ≤ c.toNat) (hlt : c.toNat < 0x100) :
    isWhitespace c = false := by
  simp only [isWhitespace, Bool.or_eq_false_iff, Bool.and_eq_false_iff, decide_eq_false_iff_not,
    beq_eq_false_iff_ne]
  omega

/-- A pass keeps characters beyond ASCII: the first byte of each is no whitespace. -/
theorem encoded_beyond {c : Char} (h : isAscii c = false) :
    ∃ lead tail, encoded c = lead :: tail ∧ 0xC2 ≤ lead.toNat ∧
      (encoded c).filter (!isWhitespace ·) = lead :: tail.filter (!isWhitespace ·) := by
  obtain ⟨lead, tail, heq, hlead, -⟩ := encoded_not_ascii h
  have hlt : lead.toNat < 0x100 := by
    have hmem : lead ∈ encoded c := by simp [heq]
    obtain ⟨byte, _, rfl⟩ := List.mem_map.mp hmem
    rw [toNat_latin1]
    exact byte.toNat_lt
  refine ⟨lead, tail, heq, hlead, ?_⟩
  rw [heq, List.filter_cons_of_pos (by simp [isWhitespace_of_lead hlead hlt])]

/-- Each character beyond ASCII leaves one byte or more beyond it. -/
theorem length_filter_encoded (text : List Char) (h : ∀ c ∈ text, isAscii c = false) :
    text.length ≤ ((text.flatMap encoded).filter (!isWhitespace ·)).length := by
  induction text with
  | nil => simp
  | cons c text ih =>
    obtain ⟨lead, tail, -, -, hfilter⟩ := encoded_beyond (h c (by simp))
    have htext := ih fun d hd => h d (by simp [hd])
    rw [List.flatMap_cons, List.filter_append, hfilter, List.length_append, List.length_cons,
      List.length_cons]
    omega

/-- Characters beyond ASCII are not ASCII. -/
theorem isAscii_of_mem_beyond {text : List Char} {c : Char} (h : c ∈ beyond text) :
    isAscii c = false := by
  have := (List.mem_filter.mp h).2
  simp only [Bool.and_eq_true, Bool.not_eq_true'] at this
  exact this.2

/-- The characters beyond ASCII after a pass, in terms of those before it. -/
theorem beyond_normalizeLine (line : String) :
    beyond (normalizeLine line).toList =
      ((beyond line.toList).flatMap encoded).filter (!isWhitespace ·) := by
  rw [beyond_eq, filter_normalizeLine]

/-- Characters of a normalized line beyond ASCII are single bytes. -/
theorem lt_of_mem_beyond_normalizeLine {line : String} {c : Char}
    (h : c ∈ beyond (normalizeLine line).toList) : c.toNat < 0x100 := by
  rw [beyond_normalizeLine] at h
  obtain ⟨d, _, hc⟩ := List.mem_flatMap.mp (List.mem_filter.mp h).1
  obtain ⟨byte, _, rfl⟩ := List.mem_map.mp hc
  rw [toNat_latin1]
  exact byte.toNat_lt

/-- A line with a character beyond ASCII does not survive the second pass: if it did, the first
such character of the normalized line would be `0xC3`, which stands for two of them. -/
theorem normalizeLine_idem_iff (line : String) :
    normalizeLine (normalizeLine line) = normalizeLine line ↔ AsciiWords line := by
  refine ⟨fun hidem => ?_, normalizeLine_idem⟩
  rw [asciiWords_iff]
  by_contra hne
  -- the characters of the normalized line reproduce themselves
  have hfix := beyond_normalizeLine (normalizeLine line)
  rw [hidem] at hfix
  rcases hbeyond : beyond (normalizeLine line).toList with _ | ⟨c, rest⟩
  · obtain ⟨d, text, hd⟩ := List.exists_cons_of_ne_nil hne
    have hlen := length_filter_encoded (beyond line.toList)
      fun e he => isAscii_of_mem_beyond he
    rw [← beyond_normalizeLine, hbeyond, hd] at hlen
    simp at hlen
  · have hmem : c ∈ beyond (normalizeLine line).toList := by simp [hbeyond]
    have hc := isAscii_of_mem_beyond hmem
    have hlt := lt_of_mem_beyond_normalizeLine hmem
    have hge : 0x80 ≤ c.toNat := by simpa [isAscii] using hc
    have hbytes : encoded c = [latin1 (UInt8.ofNat (c.toNat / 64 + 0xC0)),
        latin1 (UInt8.ofNat (c.toNat % 64 + 0x80))] := by
      rw [encoded, utf8EncodeChar_latin hc hlt]
      rfl
    obtain ⟨lead, tail, hencoded, -, hfilter⟩ := encoded_beyond hc
    obtain ⟨rfl, rfl⟩ := List.cons.inj (hencoded.symm.trans hbytes)
    rw [hbeyond, List.flatMap_cons, List.filter_append, hfilter] at hfix
    obtain ⟨hlead, htail⟩ := List.cons.inj hfix
    have hval : c.toNat = 0xC3 := by
      have h := congrArg Char.toNat hlead
      rw [toNat_latin1, UInt8.toNat_ofNat'] at h
      omega
    have hrest := length_filter_encoded rest
      fun e he => isAscii_of_mem_beyond (by rw [hbeyond]; simp [he])
    have hpair : [latin1 (UInt8.ofNat (c.toNat % 64 + 0x80))].filter (!isWhitespace ·) =
        [latin1 0x83] := by
      rw [hval]
      rfl
    have hcount : rest.length = ([latin1 (UInt8.ofNat (c.toNat % 64 + 0x80))].filter
        (!isWhitespace ·) ++ (rest.flatMap encoded).filter (!isWhitespace ·)).length :=
      congrArg List.length htail
    rw [hpair, List.length_append, List.length_singleton] at hcount
    omega

/-- Normalization is idempotent exactly on the traces whose words are ASCII. -/
theorem normalizeTrace_idem_iff (lines : List String) :
    normalizeTrace (normalizeTrace lines) = normalizeTrace lines ↔
      ∀ line ∈ lines, ∀ c ∈ line.toList, isWhitespace c = false → isAscii c = true := by
  rw [normalizeTrace, normalizeTrace, List.map_map, List.map_inj_left]
  exact forall₂_congr fun line _ => normalizeLine_idem_iff line

/-- One accented letter. -/
theorem normalizeTrace_not_idem :
    ¬ ∀ lines, normalizeTrace (normalizeTrace lines) = normalizeTrace lines := by
  intro h
  have hline := List.map_inj_left.mp ((List.map_map ..).symm.trans (h [String.ofList ['é']]))
    (String.ofList ['é']) (by simp)
  have hascii := (normalizeLine_idem_iff _).mp hline 'é' (by simp) (by decide)
  exact absurd hascii (by decide)

end Microcar.Dogfood
