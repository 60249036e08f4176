import Mathlib.Algebra.Order.Field.Rat
import Mathlib.Data.List.TakeWhile
import Microcar.Core.Numerals

/-!
# The JSON grammar

The grammar of RFC 8259 over characters. A rule relates the input to what it reads and to what is
left of the input. The grammar is unambiguous: a text stands for at most one value.
-/

namespace Microcar.Core.JsonGrammar

/-- A JSON value. A number is the rational that it denotes, an object keeps its members in
order. -/
inductive Value where
  | null
  | bool (b : Bool)
  | num (q : ℚ)
  | str (s : String)
  | arr (items : List Value)
  | obj (members : List (String × Value))

/-! ### Tokens -/

/-- Insignificant whitespace. -/
def isBlank (c : Char) : Bool := c = ' ' || c = '\t' || c = '\n' || c = '\r'

/-- Nothing but blanks. -/
def Blank (text : List Char) : Prop := ∀ c ∈ text, isBlank c = true

/-- The empty text is blank. -/
theorem blank_nil : Blank [] := fun _ h => absurd h List.not_mem_nil

/-- Two blanks are blank together. -/
theorem Blank.append {text more : List Char} (h : Blank text) (h' : Blank more) :
    Blank (text ++ more) :=
  fun c hc => (List.mem_append.mp hc).elim (h c) (h' c)

/-- A line break is blank. -/
theorem Blank.newline {text : List Char} (h : Blank text) : Blank ('\n' :: text) := by
  intro c hc
  rcases List.mem_cons.mp hc with rfl | hc
  · rfl
  · exact h c hc

/-- A space is blank. -/
theorem blank_space : Blank [' '] := by
  intro c hc
  rw [List.mem_singleton.mp hc]
  rfl

/-- A decimal digit. -/
def isDigit (c : Char) : Bool := 0x30 ≤ c.toNat && c.toNat ≤ 0x39

/-- Decimal digits and the number that they stand for. -/
def Digits (text : List Char) (n : Nat) : Prop :=
  text ≠ [] ∧ (∀ c ∈ text, isDigit c = true) ∧ numeral 10 0 text = some n

/-- The integer part: no leading zeros. -/
def IntPart (text : List Char) (n : Nat) : Prop :=
  Digits text n ∧ (text.head? = some '0' → text = ['0'])

/-- The fraction, with its number of digits. -/
def Fraction (text : List Char) (n width : Nat) : Prop :=
  (text = [] ∧ n = 0 ∧ width = 0) ∨
    ∃ digits, text = '.' :: digits ∧ Digits digits n ∧ width = digits.length

/-- The sign of an exponent. -/
def ExponentSign (text : List Char) (sign : ℤ) : Prop :=
  (text = [] ∧ sign = 1) ∨ (text = ['+'] ∧ sign = 1) ∨ (text = ['-'] ∧ sign = -1)

/-- The exponent of a number, with its sign; none is zero. -/
def Exponent (text : List Char) (e : ℤ) : Prop :=
  (text = [] ∧ e = 0) ∨
    ∃ letter sign s digits n, text = letter :: (sign ++ digits) ∧
      (letter = 'e' ∨ letter = 'E') ∧ ExponentSign sign s ∧ Digits digits n ∧ e = s * n

/-- An optional minus sign. -/
def Minus (text : List Char) (sign : ℤ) : Prop :=
  (text = [] ∧ sign = 1) ∨ (text = ['-'] ∧ sign = -1)

/-- A number, and what it is worth. -/
def Number (text : List Char) (q : ℚ) : Prop :=
  ∃ minus int frac exp sign n m width e, text = minus ++ (int ++ (frac ++ exp)) ∧
    Minus minus sign ∧ IntPart int n ∧ Fraction frac m width ∧ Exponent exp e ∧
    q = sign * (n + m / 10 ^ width) * 10 ^ e

/-- The character that a two-character escape stands for. -/
def escapeChar (c : Char) : Option Char :=
  match c with
  | '"' => some '"'
  | '\\' => some '\\'
  | '/' => some '/'
  | 'b' => some '\x08'
  | 'f' => some '\x0c'
  | 'n' => some '\n'
  | 'r' => some '\r'
  | 't' => some '\t'
  | _ => none

/-- A code unit that is half of a pair. -/
def isSurrogate (unit : Nat) : Bool := 0xD800 ≤ unit && unit ≤ 0xDFFF

/-- The rest of a string behind its opening quotation mark. An escaped lone surrogate stands for
no character, so it has no value. -/
inductive Chars : List Char → List Char → List Char → Prop
  | close {rest : List Char} : Chars ('"' :: rest) [] rest
  | plain {c : Char} {input s rest : List Char} (hc : 0x20 ≤ c.toNat) (hquote : c ≠ '"')
      (hslash : c ≠ '\\') (h : Chars input s rest) : Chars (c :: input) (c :: s) rest
  | escape {e c : Char} {input s rest : List Char} (hc : escapeChar e = some c)
      (h : Chars input s rest) : Chars ('\\' :: e :: input) (c :: s) rest
  | unicode {hex input s rest : List Char} {unit : Nat} (hlen : hex.length = 4)
      (hunit : numeral 16 0 hex = some unit) (hchar : isSurrogate unit = false)
      (h : Chars input s rest) :
      Chars ('\\' :: 'u' :: (hex ++ input)) (Char.ofNat unit :: s) rest
  | pair {high low input s rest : List Char} {lead trail : Nat} (hhigh : high.length = 4)
      (hlow : low.length = 4) (hlead : numeral 16 0 high = some lead)
      (htrail : numeral 16 0 low = some trail) (hl : 0xD800 ≤ lead ∧ lead ≤ 0xDBFF)
      (ht : 0xDC00 ≤ trail ∧ trail ≤ 0xDFFF) (h : Chars input s rest) :
      Chars ('\\' :: 'u' :: (high ++ '\\' :: 'u' :: (low ++ input)))
        (Char.ofNat (0x10000 + (lead - 0xD800) * 0x400 + (trail - 0xDC00)) :: s) rest

/-! ### Values -/

/-- What a rule reads: a value, or the items or members up to the closing bracket. -/
inductive Phrase where
  | value (v : Value)
  | elements (items : List Value)
  | members (fields : List (String × Value))

/-- The text begins with the phrase, and the rest is left. -/
inductive Reads : Phrase → List Char → List Char → Prop
  | null {rest : List Char} : Reads (.value .null) ('n' :: 'u' :: 'l' :: 'l' :: rest) rest
  | trueLit {rest : List Char} :
      Reads (.value (.bool true)) ('t' :: 'r' :: 'u' :: 'e' :: rest) rest
  | falseLit {rest : List Char} :
      Reads (.value (.bool false)) ('f' :: 'a' :: 'l' :: 's' :: 'e' :: rest) rest
  | num {text rest : List Char} {q : ℚ} (h : Number text q) :
      Reads (.value (.num q)) (text ++ rest) rest
  | str {input s rest : List Char} (h : Chars input s rest) :
      Reads (.value (.str (String.ofList s))) ('"' :: input) rest
  | emptyArr {blank rest : List Char} (hblank : Blank blank) :
      Reads (.value (.arr [])) ('[' :: (blank ++ ']' :: rest)) rest
  | arr {input rest : List Char} {items : List Value} (h : Reads (.elements items) input rest) :
      Reads (.value (.arr items)) ('[' :: input) rest
  | emptyObj {blank rest : List Char} (hblank : Blank blank) :
      Reads (.value (.obj [])) ('{' :: (blank ++ '}' :: rest)) rest
  | obj {input rest : List Char} {fields : List (String × Value)}
      (h : Reads (.members fields) input rest) :
      Reads (.value (.obj fields)) ('{' :: input) rest
  | lastElement {before after input rest : List Char} {v : Value} (hbefore : Blank before)
      (hafter : Blank after) (h : Reads (.value v) input (after ++ ']' :: rest)) :
      Reads (.elements [v]) (before ++ input) rest
  | element {before after input more rest : List Char} {v : Value} {items : List Value}
      (hbefore : Blank before) (hafter : Blank after)
      (h : Reads (.value v) input (after ++ ',' :: more))
      (hmore : Reads (.elements items) more rest) :
      Reads (.elements (v :: items)) (before ++ input) rest
  | lastMember {before colon value after key s input rest : List Char} {v : Value}
      (hbefore : Blank before) (hcolon : Blank colon) (hvalue : Blank value)
      (hafter : Blank after) (hkey : Chars key s (colon ++ ':' :: (value ++ input)))
      (h : Reads (.value v) input (after ++ '}' :: rest)) :
      Reads (.members [(String.ofList s, v)]) (before ++ '"' :: key) rest
  | member {before colon value after key s input more rest : List Char} {v : Value}
      {fields : List (String × Value)} (hbefore : Blank before) (hcolon : Blank colon)
      (hvalue : Blank value) (hafter : Blank after)
      (hkey : Chars key s (colon ++ ':' :: (value ++ input)))
      (h : Reads (.value v) input (after ++ ',' :: more))
      (hmore : Reads (.members fields) more rest) :
      Reads (.members ((String.ofList s, v) :: fields)) (before ++ '"' :: key) rest

/-- A JSON text: a value between whitespace. -/
def Text (text : List Char) (v : Value) : Prop :=
  ∃ before input after, text = before ++ input ∧ Blank before ∧
    Reads (.value v) input after ∧ Blank after

/-! ### Unambiguity -/

/-- Two ways to cut a text behind a run of characters are one. -/
theorem run_unique {p : Char → Bool} {run run' rest rest' : List Char}
    (heq : run ++ rest = run' ++ rest') (hrun : ∀ c ∈ run, p c = true)
    (hrun' : ∀ c ∈ run', p c = true) (hrest : ∀ c ∈ rest.head?, p c = false)
    (hrest' : ∀ c ∈ rest'.head?, p c = false) : run = run' ∧ rest = rest' := by
  have hnil : ∀ {l : List Char}, (∀ c ∈ l.head?, p c = false) → l.takeWhile p = [] := by
    intro l hl
    rcases l with _ | ⟨c, l⟩
    · rfl
    · rw [List.takeWhile_cons_of_neg (by simp [hl c rfl])]
  have htake := congrArg (List.takeWhile p) heq
  rw [List.takeWhile_append_of_pos hrun, List.takeWhile_append_of_pos hrun', hnil hrest,
    hnil hrest', List.append_nil, List.append_nil] at htake
  subst htake
  exact ⟨rfl, List.append_cancel_left heq⟩

/-- Digits denote one number. -/
theorem Digits.unique {text : List Char} {n m : Nat} (h : Digits text n) (h' : Digits text m) :
    n = m :=
  Option.some.inj (h.2.2.symm.trans h'.2.2)

/-- Digits begin with a digit, which is none of the other characters of a number. -/
theorem Digits.head {text : List Char} {n : Nat} (h : Digits text n) (rest : List Char)
    {p : Char → Bool} (hp : ∀ c, isDigit c = true → p c = false) :
    ∀ c ∈ (text ++ rest).head?, p c = false := by
  obtain ⟨d, ds, rfl⟩ := List.exists_cons_of_ne_nil h.1
  intro c hc
  rw [← Option.some.inj hc]
  exact hp d (h.2.1 d (by simp))

/-- A sign. -/
def isSign (c : Char) : Bool := c = '+' || c = '-'

/-- A digit is no sign. -/
theorem not_sign_of_digit (c : Char) (h : isDigit c = true) : isSign c = false := by
  rw [isSign, Bool.or_eq_false_iff, decide_eq_false_iff_not, decide_eq_false_iff_not]
  constructor
  · rintro rfl
    exact absurd h (by decide)
  · rintro rfl
    exact absurd h (by decide)

/-- The sign of an exponent is made of signs. -/
theorem ExponentSign.isSign {text : List Char} {s : ℤ} (h : ExponentSign text s) :
    ∀ c ∈ text, isSign c = true := by
  rcases h with ⟨rfl, -⟩ | ⟨rfl, -⟩ | ⟨rfl, -⟩
  · simp
  · simp [JsonGrammar.isSign]
  · simp [JsonGrammar.isSign]

/-- It denotes one sign. -/
theorem ExponentSign.unique {text : List Char} {s s' : ℤ} (h : ExponentSign text s)
    (h' : ExponentSign text s') : s = s' := by
  rcases h with ⟨rfl, rfl⟩ | ⟨rfl, rfl⟩ | ⟨rfl, rfl⟩
  all_goals simpa [ExponentSign, eq_comm] using h'

/-- A minus is a sign. -/
theorem Minus.isSign {text : List Char} {s : ℤ} (h : Minus text s) :
    ∀ c ∈ text, isSign c = true := by
  rcases h with ⟨rfl, -⟩ | ⟨rfl, -⟩
  · simp
  · simp [JsonGrammar.isSign]

/-- It denotes one sign. -/
theorem Minus.unique {text : List Char} {s s' : ℤ} (h : Minus text s) (h' : Minus text s') :
    s = s' := by
  rcases h with ⟨rfl, rfl⟩ | ⟨rfl, rfl⟩
  all_goals simpa [Minus, eq_comm] using h'

/-- An exponent denotes one number. -/
theorem Exponent.unique {text : List Char} {e e' : ℤ} (h : Exponent text e)
    (h' : Exponent text e') : e = e' := by
  rcases h with ⟨rfl, rfl⟩ | ⟨letter, sign, s, digits, n, rfl, -, hsign, hdigits, rfl⟩
  · rcases h' with ⟨-, rfl⟩ | ⟨_, _, _, _, _, heq, -⟩
    · rfl
    · simp at heq
  · rcases h' with ⟨heq, -⟩ | ⟨letter', sign', s', digits', n', heq, -, hsign', hdigits', rfl⟩
    · simp at heq
    · have hrest := hdigits.head [] not_sign_of_digit
      have hrest' := hdigits'.head [] not_sign_of_digit
      rw [List.append_nil] at hrest hrest'
      obtain ⟨rfl, rfl⟩ := run_unique (List.cons.inj heq).2 hsign.isSign hsign'.isSign hrest hrest'
      rw [hsign.unique hsign', hdigits.unique hdigits']

/-- Behind the integer part stands no digit. -/
theorem not_digit_head {frac exp : List Char} {m width : Nat} {e : ℤ}
    (hfrac : Fraction frac m width) (hexp : Exponent exp e) :
    (∀ c ∈ (frac ++ exp).head?, isDigit c = false) ∧ ∀ c ∈ exp.head?, isDigit c = false := by
  have hhead : ∀ c ∈ exp.head?, isDigit c = false := by
    rcases hexp with ⟨rfl, -⟩ | ⟨letter, sign, s, digits, n, rfl, hletter, -⟩
    · simp
    · intro c hc
      rw [← Option.some.inj hc]
      rcases hletter with rfl | rfl <;> rfl
  refine ⟨?_, hhead⟩
  rcases hfrac with ⟨rfl, -⟩ | ⟨digits, rfl, -⟩
  · exact hhead
  · intro c hc
    rw [← Option.some.inj hc]
    rfl

/-- An exponent does not begin with a point. -/
theorem point_ne_exponent {exp digits : List Char} {e : ℤ} (h : Exponent exp e) :
    exp ≠ '.' :: digits := by
  rcases h with ⟨rfl, -⟩ | ⟨letter, sign, s, ds, n, rfl, hletter, -⟩
  · simp
  · rintro heq
    obtain ⟨rfl, -⟩ := List.cons.inj heq
    simp at hletter

/-- A fraction ends where the exponent begins, and denotes one number. -/
theorem Fraction.unique {frac frac' exp exp' : List Char} {m m' width width' : Nat} {e e' : ℤ}
    (heq : frac ++ exp = frac' ++ exp') (h : Fraction frac m width)
    (h' : Fraction frac' m' width') (hexp : Exponent exp e) (hexp' : Exponent exp' e') :
    m = m' ∧ width = width' ∧ exp = exp' := by
  have hhead := (not_digit_head h hexp).2
  have hhead' := (not_digit_head h' hexp').2
  rcases h with ⟨rfl, rfl, rfl⟩ | ⟨digits, rfl, hdigits, rfl⟩ <;>
    rcases h' with ⟨rfl, rfl, rfl⟩ | ⟨digits', rfl, hdigits', rfl⟩
  · exact ⟨rfl, rfl, heq⟩
  · exact absurd heq (point_ne_exponent hexp)
  · exact absurd heq.symm (point_ne_exponent hexp')
  · obtain ⟨rfl, rfl⟩ := run_unique (List.cons.inj heq).2 hdigits.2.1 hdigits'.2.1 hhead hhead'
    exact ⟨hdigits.unique hdigits', rfl, rfl⟩

/-- A text is a number in one way. -/
theorem Number.unique {text : List Char} {q q' : ℚ} (h : Number text q) (h' : Number text q') :
    q = q' := by
  obtain ⟨minus, int, frac, exp, sign, n, m, width, e, rfl, hminus, hwhole, hfrac, hexp, rfl⟩ := h
  obtain ⟨minus', int', frac', exp', sign', n', m', width', e', heq, hminus', hwhole', hfrac',
    hexp', rfl⟩ := h'
  obtain ⟨rfl, hrest⟩ := run_unique heq hminus.isSign hminus'.isSign
    (hwhole.1.head _ not_sign_of_digit) (hwhole'.1.head _ not_sign_of_digit)
  obtain ⟨rfl, htail⟩ := run_unique hrest hwhole.1.2.1 hwhole'.1.2.1
    (not_digit_head hfrac hexp).1 (not_digit_head hfrac' hexp').1
  obtain ⟨rfl, rfl, rfl⟩ := Fraction.unique htail hfrac hfrac' hexp hexp'
  rw [hminus.unique hminus', hwhole.1.unique hwhole'.1, hexp.unique hexp']

/-- The characters of numbers. -/
def isNumberChar (c : Char) : Bool := isDigit c || isSign c || c = '.' || c = 'e' || c = 'E'

/-- What stands behind a number does not continue it. -/
def Ends (rest : List Char) : Prop := ∀ c ∈ rest.head?, isNumberChar c = false

/-- Numbers are made of number characters. -/
theorem Number.chars {text : List Char} {q : ℚ} (h : Number text q) :
    ∀ c ∈ text, isNumberChar c = true := by
  have hdigit : ∀ c, isDigit c = true → isNumberChar c = true := by
    intro c hc
    simp [isNumberChar, hc]
  have hsign : ∀ c, isSign c = true → isNumberChar c = true := by
    intro c hc
    simp [isNumberChar, hc]
  obtain ⟨minus, int, frac, exp, sign, n, m, width, e, rfl, hminus, hwhole, hfrac, hexp, -⟩ := h
  intro c hc
  simp only [List.mem_append] at hc
  rcases hc with hc | hc | hc | hc
  · exact hsign c (hminus.isSign c hc)
  · exact hdigit c (hwhole.1.2.1 c hc)
  · rcases hfrac with ⟨rfl, -⟩ | ⟨digits, rfl, hdigits, -⟩
    · simp at hc
    · rcases List.mem_cons.mp hc with rfl | hc
      · rfl
      · exact hdigit c (hdigits.2.1 c hc)
  · rcases hexp with ⟨rfl, -⟩ | ⟨letter, s, _, digits, _, rfl, hletter, hs, hdigits, -⟩
    · simp at hc
    · rcases List.mem_cons.mp hc with rfl | hc
      · rcases hletter with rfl | rfl <;> rfl
      · rcases List.mem_append.mp hc with hc | hc
        · exact hsign c (hs.isSign c hc)
        · exact hdigit c (hdigits.2.1 c hc)

/-- A number is not empty. -/
theorem Number.ne_nil {text : List Char} {q : ℚ} (h : Number text q) : text ≠ [] := by
  obtain ⟨minus, int, frac, exp, sign, n, m, width, e, rfl, -, hwhole, -⟩ := h
  simp [hwhole.1.1]

/-- A leading surrogate is a surrogate. -/
theorem isSurrogate_of_lead {unit : Nat} (h : 0xD800 ≤ unit ∧ unit ≤ 0xDBFF) :
    isSurrogate unit = true := by
  simp only [isSurrogate, Bool.and_eq_true, decide_eq_true_eq]
  omega

/-- A string is read in one way. -/
theorem Chars.unique {input s s' rest rest' : List Char} (h : Chars input s rest)
    (h' : Chars input s' rest') : s = s' ∧ rest = rest' := by
  induction h generalizing s' with
  | close =>
    cases h' with
    | close => exact ⟨rfl, rfl⟩
    | plain _ hquote _ _ => exact absurd rfl hquote
  | plain hc hquote hslash _ ih =>
    cases h' with
    | close => exact absurd rfl hquote
    | plain _ _ _ h' =>
      obtain ⟨rfl, rfl⟩ := ih h'
      exact ⟨rfl, rfl⟩
    | escape => exact absurd rfl hslash
    | unicode => exact absurd rfl hslash
    | pair => exact absurd rfl hslash
  | escape hc _ ih =>
    cases h' with
    | plain _ _ hslash _ => exact absurd rfl hslash
    | escape hc' h' =>
      obtain ⟨rfl, rfl⟩ := ih h'
      exact ⟨by rw [Option.some.inj (hc.symm.trans hc')], rfl⟩
    | unicode => simp [escapeChar] at hc
    | pair => simp [escapeChar] at hc
  | @unicode hex input s rest unit hlen hunit hchar _ ih =>
    generalize htext : '\\' :: 'u' :: (hex ++ input) = text at h'
    cases h' with
    | close => simp at htext
    | plain _ _ hslash _ => exact absurd (List.cons.inj htext).1.symm hslash
    | escape hc' _ =>
      obtain ⟨-, htail⟩ := List.cons.inj htext
      rw [← (List.cons.inj htail).1] at hc'
      simp [escapeChar] at hc'
    | unicode hlen' hunit' _ h' =>
      obtain ⟨-, htail⟩ := List.cons.inj htext
      obtain ⟨rfl, rfl⟩ := List.append_inj (List.cons.inj htail).2 (hlen.trans hlen'.symm)
      obtain ⟨rfl, rfl⟩ := ih h'
      exact ⟨by rw [Option.some.inj (hunit.symm.trans hunit')], rfl⟩
    | pair hhigh' _ hlead' _ hl' _ _ =>
      -- an escape that stands for a character is no half of a pair
      obtain ⟨-, htail⟩ := List.cons.inj htext
      obtain ⟨rfl, -⟩ := List.append_inj (List.cons.inj htail).2 (hlen.trans hhigh'.symm)
      rw [← Option.some.inj (hunit.symm.trans hlead')] at hl'
      exact absurd (isSurrogate_of_lead hl') (by simp [hchar])
  | @pair high low input s rest lead trail hhigh hlow hlead htrail hl ht _ ih =>
    generalize htext : '\\' :: 'u' :: (high ++ '\\' :: 'u' :: (low ++ input)) = text at h'
    cases h' with
    | close => simp at htext
    | plain _ _ hslash _ => exact absurd (List.cons.inj htext).1.symm hslash
    | escape hc' _ =>
      obtain ⟨-, htail⟩ := List.cons.inj htext
      rw [← (List.cons.inj htail).1] at hc'
      simp [escapeChar] at hc'
    | unicode hlen' hunit' hchar' _ =>
      obtain ⟨-, htail⟩ := List.cons.inj htext
      obtain ⟨rfl, -⟩ := List.append_inj (List.cons.inj htail).2 (hhigh.trans hlen'.symm)
      rw [Option.some.inj (hlead.symm.trans hunit')] at hl
      exact absurd (isSurrogate_of_lead hl) (by simp [hchar'])
    | pair hhigh' hlow' hlead' htrail' _ _ h' =>
      obtain ⟨-, htail⟩ := List.cons.inj htext
      obtain ⟨rfl, hsecond⟩ := List.append_inj (List.cons.inj htail).2 (hhigh.trans hhigh'.symm)
      obtain ⟨rfl, rfl⟩ := List.append_inj (List.cons.inj (List.cons.inj hsecond).2).2
        (hlow.trans hlow'.symm)
      obtain ⟨rfl, rfl⟩ := ih h'
      refine ⟨?_, rfl⟩
      rw [Option.some.inj (hlead.symm.trans hlead'), Option.some.inj (htrail.symm.trans htrail')]

/-- A number begins with a number character, whatever follows it. -/
theorem Number.head {text rest tail : List Char} {q : ℚ} {c : Char} (h : Number text q)
    (heq : text ++ rest = c :: tail) : isNumberChar c = true := by
  obtain ⟨d, ds, rfl⟩ := List.exists_cons_of_ne_nil h.ne_nil
  rw [← (List.cons.inj heq).1]
  exact h.chars d (by simp)

/-- Blanks are no number characters. -/
theorem not_numberChar_of_blank (c : Char) (h : isBlank c = true) : isNumberChar c = false := by
  simp only [isBlank, Bool.or_eq_true, decide_eq_true_eq] at h
  rcases h with ((rfl | rfl) | rfl) | rfl <;> rfl

/-- A number ends in front of a blank or of a character like a comma. -/
theorem ends_of_blank {blank rest : List Char} {c : Char} (hblank : Blank blank)
    (hc : isNumberChar c = false) : Ends (blank ++ c :: rest) := by
  intro d hd
  rcases blank with _ | ⟨b, blank⟩
  · rwa [← Option.some.inj hd]
  · rw [← Option.some.inj hd]
    exact not_numberChar_of_blank b (hblank b (by simp))

/-- Two ways to cut a text behind whitespace are one. -/
theorem blank_unique {blank blank' rest rest' : List Char} (heq : blank ++ rest = blank' ++ rest')
    (hblank : Blank blank) (hblank' : Blank blank') (hrest : ∀ c ∈ rest.head?, isBlank c = false)
    (hrest' : ∀ c ∈ rest'.head?, isBlank c = false) : rest = rest' :=
  (run_unique heq hblank hblank' hrest hrest').2

/-- A text that begins with a mark does not begin with a blank. -/
theorem head_cons {c : Char} (hc : isBlank c = false) (rest : List Char) :
    ∀ d ∈ (c :: rest).head?, isBlank d = false := by
  intro d hd
  rwa [← Option.some.inj hd]

/-- Nor are there two ways to find the next character behind it. -/
theorem next_unique {blank blank' rest rest' : List Char} {c c' : Char}
    (heq : blank ++ c :: rest = blank' ++ c' :: rest') (hblank : Blank blank)
    (hblank' : Blank blank') (hc : isBlank c = false) (hc' : isBlank c' = false) :
    c = c' ∧ rest = rest' :=
  List.cons.inj (blank_unique heq hblank hblank' (head_cons hc rest) (head_cons hc' rest'))

/-- A value does not begin with whitespace. -/
theorem Reads.head {v : Value} {input rest : List Char} (h : Reads (.value v) input rest) :
    ∀ c ∈ input.head?, isBlank c = false := by
  cases h with
  | @num text _ q hnum =>
    obtain ⟨d, ds, rfl⟩ := List.exists_cons_of_ne_nil hnum.ne_nil
    apply head_cons
    have hchar := hnum.chars d (by simp)
    by_contra hblank
    rw [not_numberChar_of_blank d (by simpa using hblank)] at hchar
    exact Bool.false_ne_true hchar
  | _ => exact head_cons rfl _

/-- Items begin with a value. -/
theorem Reads.elements_inv {items : List Value} {input rest : List Char}
    (h : Reads (.elements items) input rest) :
    ∃ before text v rest', input = before ++ text ∧ Blank before ∧
      Reads (.value v) text rest' := by
  cases h with
  | lastElement hbefore _ h => exact ⟨_, _, _, _, rfl, hbefore, h⟩
  | element hbefore _ h _ => exact ⟨_, _, _, _, rfl, hbefore, h⟩

/-- Members begin with a string. -/
theorem Reads.members_inv {fields : List (String × Value)} {input rest : List Char}
    (h : Reads (.members fields) input rest) :
    ∃ before key, input = before ++ '"' :: key ∧ Blank before := by
  cases h with
  | lastMember hbefore => exact ⟨_, _, rfl, hbefore⟩
  | member hbefore => exact ⟨_, _, rfl, hbefore⟩

/-- No value begins with a closing bracket. -/
theorem Reads.not_close {v : Value} {input rest tail : List Char}
    (h : Reads (.value v) input rest) : input ≠ ']' :: tail := by
  intro htext
  cases h with
  | num hnum => exact absurd (hnum.head htext) (by decide)
  | _ => simp at htext

/-- An empty array has no items. -/
theorem not_elements {items : List Value} {blank rest rest' : List Char} (hblank : Blank blank) :
    ¬ Reads (.elements items) (blank ++ ']' :: rest) rest' := by
  intro h
  obtain ⟨before, text, v, _, heq, hbefore, hvalue⟩ := h.elements_inv
  exact hvalue.not_close (blank_unique heq hblank hbefore (head_cons rfl _) hvalue.head).symm

/-- An empty object has no members. -/
theorem not_members {fields : List (String × Value)} {blank rest rest' : List Char}
    (hblank : Blank blank) : ¬ Reads (.members fields) (blank ++ '}' :: rest) rest' := by
  intro h
  obtain ⟨before, key, heq, hbefore⟩ := h.members_inv
  exact absurd (next_unique heq hblank hbefore rfl rfl).1 (by decide)

/-- The name of a member and the input behind its colon. -/
theorem member_unique {before before' key key' colon colon' value value' : List Char}
    {s s' input input' : List Char} (heq : before ++ '"' :: key = before' ++ '"' :: key')
    (hbefore : Blank before) (hbefore' : Blank before') (hcolon : Blank colon)
    (hcolon' : Blank colon') (hvalue : Blank value) (hvalue' : Blank value')
    (hkey : Chars key s (colon ++ ':' :: (value ++ input)))
    (hkey' : Chars key' s' (colon' ++ ':' :: (value' ++ input')))
    (hinput : ∀ c ∈ input.head?, isBlank c = false)
    (hinput' : ∀ c ∈ input'.head?, isBlank c = false) : s = s' ∧ input = input' := by
  rw [← (next_unique heq hbefore hbefore' rfl rfl).2] at hkey'
  obtain ⟨rfl, hrest⟩ := hkey.unique hkey'
  have htail := (next_unique hrest hcolon hcolon' rfl rfl).2
  exact ⟨rfl, blank_unique htail hvalue hvalue' hinput hinput'⟩

/-- What is read from an input, where a number ends at the end of its digits. -/
def Determined : Phrase → List Char → List Char → Prop
  | .value v, input, rest => Ends rest → ∀ v' rest', Reads (.value v') input rest' → Ends rest' →
      v = v' ∧ rest = rest'
  | .elements items, input, rest => ∀ items' rest', Reads (.elements items') input rest' →
      items = items' ∧ rest = rest'
  | .members fields, input, rest => ∀ fields' rest', Reads (.members fields') input rest' →
      fields = fields' ∧ rest = rest'

/-- Every input is read in one way, whatever the phrase. -/
theorem Reads.determined {phrase : Phrase} {input rest : List Char}
    (h : Reads phrase input rest) : Determined phrase input rest := by
  induction h with
  | @null rest =>
    intro _ v' rest' h' _
    generalize htext : 'n' :: 'u' :: 'l' :: 'l' :: rest = text at h'
    cases h' with
    | null => simpa using htext
    | num hnum => exact absurd (hnum.head htext.symm) (by decide)
    | _ => simp at htext
  | @trueLit rest =>
    intro _ v' rest' h' _
    generalize htext : 't' :: 'r' :: 'u' :: 'e' :: rest = text at h'
    cases h' with
    | trueLit => simpa using htext
    | num hnum => exact absurd (hnum.head htext.symm) (by decide)
    | _ => simp at htext
  | @falseLit rest =>
    intro _ v' rest' h' _
    generalize htext : 'f' :: 'a' :: 'l' :: 's' :: 'e' :: rest = text at h'
    cases h' with
    | falseLit => simpa using htext
    | num hnum => exact absurd (hnum.head htext.symm) (by decide)
    | _ => simp at htext
  | @num text rest q hnum =>
    intro hends v' rest' h' hends'
    generalize htext : text ++ rest = input at h'
    cases h' with
    | num hnum' =>
      obtain ⟨rfl, rfl⟩ := run_unique htext hnum.chars hnum'.chars hends hends'
      exact ⟨by rw [hnum.unique hnum'], rfl⟩
    | _ => exact absurd (hnum.head htext) (by decide)
  | @str input s rest hchars =>
    intro _ v' rest' h' _
    generalize htext : '"' :: input = text at h'
    cases h' with
    | str hchars' =>
      obtain ⟨-, rfl⟩ := List.cons.inj htext
      obtain ⟨rfl, rfl⟩ := hchars.unique hchars'
      exact ⟨rfl, rfl⟩
    | num hnum => exact absurd (hnum.head htext.symm) (by decide)
    | _ => simp at htext
  | @emptyArr blank rest hblank =>
    intro _ v' rest' h' _
    generalize htext : '[' :: (blank ++ ']' :: rest) = text at h'
    cases h' with
    | emptyArr hblank' =>
      exact ⟨rfl, (next_unique (List.cons.inj htext).2 hblank hblank' rfl rfl).2⟩
    | arr h' =>
      rw [← (List.cons.inj htext).2] at h'
      exact absurd h' (not_elements hblank)
    | num hnum => exact absurd (hnum.head htext.symm) (by decide)
    | _ => simp at htext
  | @arr input rest items h ih =>
    intro _ v' rest' h' _
    generalize htext : '[' :: input = text at h'
    cases h' with
    | emptyArr hblank =>
      rw [(List.cons.inj htext).2] at h
      exact absurd h (not_elements hblank)
    | arr h' =>
      rw [← (List.cons.inj htext).2] at h'
      obtain ⟨rfl, rfl⟩ := ih _ _ h'
      exact ⟨rfl, rfl⟩
    | num hnum => exact absurd (hnum.head htext.symm) (by decide)
    | _ => simp at htext
  | @emptyObj blank rest hblank =>
    intro _ v' rest' h' _
    generalize htext : '{' :: (blank ++ '}' :: rest) = text at h'
    cases h' with
    | emptyObj hblank' =>
      exact ⟨rfl, (next_unique (List.cons.inj htext).2 hblank hblank' rfl rfl).2⟩
    | obj h' =>
      rw [← (List.cons.inj htext).2] at h'
      exact absurd h' (not_members hblank)
    | num hnum => exact absurd (hnum.head htext.symm) (by decide)
    | _ => simp at htext
  | @obj input rest fields h ih =>
    intro _ v' rest' h' _
    generalize htext : '{' :: input = text at h'
    cases h' with
    | emptyObj hblank =>
      rw [(List.cons.inj htext).2] at h
      exact absurd h (not_members hblank)
    | obj h' =>
      rw [← (List.cons.inj htext).2] at h'
      obtain ⟨rfl, rfl⟩ := ih _ _ h'
      exact ⟨rfl, rfl⟩
    | num hnum => exact absurd (hnum.head htext.symm) (by decide)
    | _ => simp at htext
  | @lastElement before after input rest v hbefore hafter h ih =>
    intro items' rest' h'
    generalize htext : before ++ input = text at h'
    cases h' with
    | lastElement hbefore' hafter' h' =>
      have hinput := blank_unique htext hbefore hbefore' h.head h'.head
      rw [← hinput] at h'
      obtain ⟨rfl, hrest⟩ := ih (ends_of_blank hafter rfl) _ _ h' (ends_of_blank hafter' rfl)
      exact ⟨rfl, (next_unique hrest hafter hafter' rfl rfl).2⟩
    | element hbefore' hafter' h' _ =>
      have hinput := blank_unique htext hbefore hbefore' h.head h'.head
      rw [← hinput] at h'
      obtain ⟨-, hrest⟩ := ih (ends_of_blank hafter rfl) _ _ h' (ends_of_blank hafter' rfl)
      exact absurd (next_unique hrest hafter hafter' rfl rfl).1 (by decide)
  | @element before after input more rest v items hbefore hafter h hmore ih ihmore =>
    intro items' rest' h'
    generalize htext : before ++ input = text at h'
    cases h' with
    | lastElement hbefore' hafter' h' =>
      have hinput := blank_unique htext hbefore hbefore' h.head h'.head
      rw [← hinput] at h'
      obtain ⟨-, hrest⟩ := ih (ends_of_blank hafter rfl) _ _ h' (ends_of_blank hafter' rfl)
      exact absurd (next_unique hrest hafter hafter' rfl rfl).1 (by decide)
    | element hbefore' hafter' h' hmore' =>
      have hinput := blank_unique htext hbefore hbefore' h.head h'.head
      rw [← hinput] at h'
      obtain ⟨rfl, hrest⟩ := ih (ends_of_blank hafter rfl) _ _ h' (ends_of_blank hafter' rfl)
      rw [← (next_unique hrest hafter hafter' rfl rfl).2] at hmore'
      obtain ⟨rfl, rfl⟩ := ihmore _ _ hmore'
      exact ⟨rfl, rfl⟩
  | @lastMember before _ _ after key s input rest v hbefore hcolon hvalue hafter hkey h ih =>
    intro fields' rest' h'
    generalize htext : before ++ '"' :: key = text at h'
    cases h' with
    | lastMember hbefore' hcolon' hvalue' hafter' hkey' h' =>
      obtain ⟨rfl, rfl⟩ := member_unique htext hbefore hbefore' hcolon hcolon' hvalue hvalue'
        hkey hkey' h.head h'.head
      obtain ⟨rfl, hrest⟩ := ih (ends_of_blank hafter rfl) _ _ h' (ends_of_blank hafter' rfl)
      exact ⟨rfl, (next_unique hrest hafter hafter' rfl rfl).2⟩
    | member hbefore' hcolon' hvalue' hafter' hkey' h' _ =>
      obtain ⟨-, rfl⟩ := member_unique htext hbefore hbefore' hcolon hcolon' hvalue hvalue'
        hkey hkey' h.head h'.head
      obtain ⟨-, hrest⟩ := ih (ends_of_blank hafter rfl) _ _ h' (ends_of_blank hafter' rfl)
      exact absurd (next_unique hrest hafter hafter' rfl rfl).1 (by decide)
  | @member before _ _ after key s input more rest v fields hbefore hcolon hvalue hafter hkey h
      hmore ih ihmore =>
    intro fields' rest' h'
    generalize htext : before ++ '"' :: key = text at h'
    cases h' with
    | lastMember hbefore' hcolon' hvalue' hafter' hkey' h' =>
      obtain ⟨-, rfl⟩ := member_unique htext hbefore hbefore' hcolon hcolon' hvalue hvalue'
        hkey hkey' h.head h'.head
      obtain ⟨-, hrest⟩ := ih (ends_of_blank hafter rfl) _ _ h' (ends_of_blank hafter' rfl)
      exact absurd (next_unique hrest hafter hafter' rfl rfl).1 (by decide)
    | member hbefore' hcolon' hvalue' hafter' hkey' h' hmore' =>
      obtain ⟨rfl, rfl⟩ := member_unique htext hbefore hbefore' hcolon hcolon' hvalue hvalue'
        hkey hkey' h.head h'.head
      obtain ⟨rfl, hrest⟩ := ih (ends_of_blank hafter rfl) _ _ h' (ends_of_blank hafter' rfl)
      rw [← (next_unique hrest hafter hafter' rfl rfl).2] at hmore'
      obtain ⟨rfl, rfl⟩ := ihmore _ _ hmore'
      exact ⟨rfl, rfl⟩

/-- Whitespace alone does not continue a number. -/
theorem Blank.ends {text : List Char} (h : Blank text) : Ends text := by
  intro c hc
  exact not_numberChar_of_blank c (h c (List.mem_of_mem_head? hc))

/-- A text stands for at most one value. -/
theorem Text.unique {text : List Char} {v v' : Value} (h : Text text v) (h' : Text text v') :
    v = v' := by
  obtain ⟨before, input, after, rfl, hbefore, hreads, hafter⟩ := h
  obtain ⟨before', input', after', heq, hbefore', hreads', hafter'⟩ := h'
  obtain rfl := blank_unique heq hbefore hbefore' hreads.head hreads'.head
  exact (hreads.determined hafter.ends _ _ hreads' hafter'.ends).1

end Microcar.Core.JsonGrammar
