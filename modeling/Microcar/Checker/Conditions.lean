import Mathlib.Algebra.Order.Group.Int
import Microcar.Core.Numerals
import Microcar.Core.Split

/-!
# Conditions on trace events

`check_assertions.py` evaluates the condition of an assertion on the dictionary of a trace event.
It looks for the operators as substrings in a fixed order and resolves the left side as a path
through nested dictionaries. A leading event type is a key like any other, and events have no
such key.
-/

namespace Microcar.Checker

open Microcar.Core

/-- A value of a trace event. Numbers are integers. -/
inductive PyValue where
  | none
  | bool (b : Bool)
  | int (n : Int)
  | str (s : String)
  | list (items : List PyValue)
  | dict (entries : List (String × PyValue))

/-- `str.isspace` for one character. -/
def isSpace (c : Char) : Bool :=
  (9 ≤ c.toNat && c.toNat ≤ 13) || (0x1C ≤ c.toNat && c.toNat ≤ 0x20) || c.toNat == 0x85 ||
    c.toNat == 0xA0 || c.toNat == 0x1680 || (0x2000 ≤ c.toNat && c.toNat ≤ 0x200A) ||
    c.toNat == 0x2028 || c.toNat == 0x2029 || c.toNat == 0x202F || c.toNat == 0x205F ||
    c.toNat == 0x3000

/-- `int(text)`: an optional sign and digits, single underscores between them, whitespace
around. -/
def intOfText (text : List Char) : Option Int :=
  let body := strip isSpace text
  let negative := body.head? = some '-'
  let digits := if negative ∨ body.head? = some '+' then body.tail else body
  let groups := digits.splitOnP (· == '_')
  if groups.any List.isEmpty then none
  else (numeral 10 0 groups.flatten).map fun n => if negative then -(n : Int) else n

/-- `int(value)`, where it raises no error. -/
def pyInt : PyValue → Option Int
  | .int n => some n
  | .bool b => some (if b then 1 else 0)
  | .str s => intOfText s.toList
  | _ => none

section Text

-- `repr` of a string, whose quotes and escapes depend on the tables of Unicode.
variable (reprStr : String → String)

mutual

/-- `repr(value)`. -/
def pyRepr : PyValue → String
  | .none => "None"
  | .bool b => if b then "True" else "False"
  | .int n => String.ofList (decimal n)
  | .str s => reprStr s
  | .list items => "[" ++ ", ".intercalate (reprItems items) ++ "]"
  | .dict entries => "\x7b" ++ ", ".intercalate (reprEntries entries) ++ "\x7d"

/-- The items of a list, each as `repr` shows it. -/
def reprItems : List PyValue → List String
  | [] => []
  | item :: rest => pyRepr item :: reprItems rest

/-- The entries of a dictionary, each as `repr` shows it. -/
def reprEntries : List (String × PyValue) → List String
  | [] => []
  | (key, value) :: rest => (reprStr key ++ ": " ++ pyRepr value) :: reprEntries rest

end

/-- `str(value)`. -/
def pyStr : PyValue → String
  | .str s => s
  | value => pyRepr reprStr value

/-- `value.get(key)` for each part in turn, `None` where there is no dictionary. -/
def resolveFrom : PyValue → List (List Char) → PyValue
  | value, [] => value
  | .dict entries, part :: rest =>
    resolveFrom ((entries.lookup (String.ofList part)).getD .none) rest
  | _, _ :: _ => .none

/-- `_resolve_field`: a dotted path from the event. -/
def resolveField (path : List Char) (event : PyValue) : PyValue :=
  resolveFrom event (path.splitOnP (· == '.'))

/-- An ordering condition: both sides as integers, false where one of them is none. -/
def compareInts (holds : Int → Int → Bool) (event : PyValue) (left right : List Char) : Bool :=
  match intOfText right with
  | some bound =>
    match pyInt (resolveField (strip isSpace left) event) with
    | some n => holds n bound
    | none => false
  | none => false

/-- An equality: both sides as text, the right one without quotes. -/
def compareTexts (event : PyValue) (left right : List Char) : Bool :=
  pyStr reprStr (resolveField (strip isSpace left) event) ==
    String.ofList (strip (fun c => c == '\'' || c == '"') (strip isSpace right))

/-- The operators are looked for in this order. -/
def evaluateCondition (condition : String) (event : PyValue) : Bool :=
  if condition = "" then true
  else
    let cond := strip isSpace condition.toList
    match splitFirst ['=', '='] cond with
    | some (left, right) => compareTexts reprStr event left right
    | none =>
      match splitFirst ['<', '='] cond with
      | some (left, right) => compareInts (fun a b => a ≤ b) event left right
      | none =>
        match splitFirst ['>', '='] cond with
        | some (left, right) => compareInts (fun a b => a ≥ b) event left right
        | none =>
          match (if cond.head? = some '<' then none else splitFirst ['<'] cond) with
          | some (left, right) => compareInts (fun a b => a < b) event left right
          | none =>
            match (if cond.head? = some '>' then none else splitFirst ['>'] cond) with
            | some (left, right) => compareInts (fun a b => a > b) event left right
            | none => false

end Text

/-! ### Integers as text -/

/-- A decimal holds no whitespace. -/
theorem not_isSpace_of_mem_decimal {v : Int} {c : Char} (h : c ∈ decimal v) :
    isSpace c = false := by
  rcases mem_decimal h with rfl | hdigit
  · rfl
  · have hrange : 0x30 ≤ c.toNat ∧ c.toNat ≤ 0x39 := by
      simp only [Char.isDigit, Bool.and_eq_true, decide_eq_true_eq, ge_iff_le,
        UInt32.le_iff_toNat_le] at hdigit
      exact hdigit
    simp only [isSpace, Bool.or_eq_false_iff, Bool.and_eq_false_iff, decide_eq_false_iff_not,
      beq_eq_false_iff_ne]
    omega

/-- A decimal is not empty. -/
theorem decimal_ne_nil (v : Int) : decimal v ≠ [] := by
  rw [decimal]
  split
  · simp
  · exact Nat.toDigits_ne_nil

/-- Nothing is stripped from a decimal. -/
theorem strip_decimal {p : Char → Bool} {v : Int} (h : ∀ c ∈ decimal v, p c = false) :
    strip p (decimal v) = decimal v := by
  apply strip_eq_self
  · exact fun c hc => h c (List.mem_of_mem_head? hc)
  · exact fun c hc => h c (List.mem_of_getLast? hc)

/-- Plain digits are one group, and its value is the number. -/
theorem intOfText_toDigits (digits : List Char) (n : Nat) (h : digits = Nat.toDigits 10 n) :
    digits.splitOnP (· == '_') = [digits] ∧ numeral 10 0 digits = some n := by
  subst h
  refine ⟨List.splitOnP_eq_singleton fun c hc => ?_, numeral_toDigits (by omega) (by omega) n⟩
  rw [← decimal_natCast] at hc
  have hne : c ≠ '_' := fun heq => not_mem_decimal (by decide) rfl (n : Int) (heq ▸ hc)
  simpa using hne

/-- The text of an integer is read as that integer. -/
theorem intOfText_decimal (v : Int) : intOfText (decimal v) = some v := by
  have hstrip : strip isSpace (decimal v) = decimal v :=
    strip_decimal fun c hc => not_isSpace_of_mem_decimal hc
  rw [intOfText, hstrip]
  by_cases hneg : v < 0
  · obtain ⟨n, hpos, rfl⟩ : ∃ n : Nat, 0 < n ∧ v = -(n : Int) := ⟨v.natAbs, by omega, by omega⟩
    obtain ⟨hgroups, hvalue⟩ := intOfText_toDigits _ n rfl
    simp [decimal_neg hpos, hgroups, hvalue, Nat.toDigits_ne_nil]
  · obtain ⟨n, rfl⟩ : ∃ n : Nat, v = (n : Int) := ⟨v.natAbs, by omega⟩
    obtain ⟨hgroups, hvalue⟩ := intOfText_toDigits _ n rfl
    have hhead : (Nat.toDigits 10 n).head? ≠ some '-' ∧ (Nat.toDigits 10 n).head? ≠ some '+' := by
      constructor
      · intro hc
        have := Nat.isDigit_of_mem_toDigits (by omega) (by omega) (List.mem_of_mem_head? hc)
        exact absurd this (by decide)
      · intro hc
        have := Nat.isDigit_of_mem_toDigits (by omega) (by omega) (List.mem_of_mem_head? hc)
        exact absurd this (by decide)
    simp [decimal_natCast, hgroups, hvalue, Nat.toDigits_ne_nil, hhead]

/-- Decimals of different integers differ. -/
theorem decimal_injective : Function.Injective decimal := by
  intro a b h
  apply Option.some.inj
  rw [← intOfText_decimal a, ← intOfText_decimal b, h]

/-! ### Conditions with one operator -/

/-- The comparison operators of conditions. -/
inductive CompareOp where
  | eq
  | le
  | ge
  | lt
  | gt
  deriving DecidableEq

/-- The operator as a condition spells it. -/
def CompareOp.text : CompareOp → List Char
  | .eq => ['=', '=']
  | .le => ['<', '=']
  | .ge => ['>', '=']
  | .lt => ['<']
  | .gt => ['>']

/-- The comparison of two integers. -/
def CompareOp.Holds (a b : Int) : CompareOp → Prop
  | .eq => a = b
  | .le => a ≤ b
  | .ge => a ≥ b
  | .lt => a < b
  | .gt => a > b

/-- `path op v`, as conditions are written. -/
def conditionText (path : List Char) (op : CompareOp) (v : Int) : String :=
  String.ofList (path ++ ' ' :: (op.text ++ ' ' :: decimal v))

/-- A character of a field or event name: no dot, space or operator character. -/
def isNameChar (c : Char) : Bool :=
  c != '.' && !isSpace c && c != '=' && c != '<' && c != '>'

/-- How the value on the left compares with an integer on the right. -/
def Compares (reprStr : String → String) (value : PyValue) (v : Int) (op : CompareOp) : Prop :=
  match op with
  | .eq => pyStr reprStr value = String.ofList (decimal v)
  | _ => ∃ n, pyInt value = some n ∧ op.Holds n v

/-- A text without operator characters. -/
def Plain (text : List Char) : Prop := '=' ∉ text ∧ '<' ∉ text ∧ '>' ∉ text

/-- The right side of a condition holds no operator. -/
theorem plain_tail (v : Int) : Plain (' ' :: decimal v) := by
  have hnot : ∀ c : Char, c ≠ ' ' → c ≠ '-' → c.isDigit = false → c ∉ ' ' :: decimal v := by
    intro c hspace hminus hdigit hmem
    rcases List.mem_cons.mp hmem with h | h
    · exact hspace h
    · exact not_mem_decimal hminus hdigit v h
  exact ⟨hnot '=' (by decide) (by decide) rfl, hnot '<' (by decide) (by decide) rfl,
    hnot '>' (by decide) (by decide) rfl⟩

section Search

variable {lead : List Char} (v : Int)

/-- An operator is found where it stands. -/
theorem splitFirst_text (hlead : Plain lead) (op : CompareOp) :
    splitFirst op.text (lead ++ (op.text ++ ' ' :: decimal v)) =
      some (lead, ' ' :: decimal v) := by
  have htext : op.text ≠ [] := by cases op <;> simp [CompareOp.text]
  have hself := splitFirst_self htext (' ' :: decimal v)
  cases op with
  | eq | le | ge | lt | gt =>
    rw [CompareOp.text] at hself ⊢
    rw [splitFirst_append (by first | exact hlead.1 | exact hlead.2.1 | exact hlead.2.2), hself]
    simp

/-- An operator is not found where its first character does not occur. -/
theorem splitFirst_absent {c : Char} {op : CompareOp} (hlead : c ∉ lead) (hop : c ∉ op.text)
    (htail : c ∉ ' ' :: decimal v) (sep : List Char) :
    splitFirst (c :: sep) (lead ++ (op.text ++ ' ' :: decimal v)) = none := by
  apply splitFirst_of_not_mem
  intro hmem
  rcases List.mem_append.mp hmem with h | h
  · exact hlead h
  · rcases List.mem_append.mp h with h | h
    · exact hop h
    · exact htail h

/-- Nor where it is followed by something else than the second character. -/
theorem splitFirst_other {c : Char} (before : List Char) (hlead : c ∉ lead) (hbefore : c ∉ before)
    (htail : c ∉ ' ' :: decimal v) :
    splitFirst [c, '='] (lead ++ (before ++ c :: ' ' :: decimal v)) = none := by
  rw [splitFirst_append hlead, splitFirst_append hbefore, splitFirst_half (by decide),
    splitFirst_of_not_mem htail]
  rfl

/-- Another operator with an equality sign in it is no equality. -/
theorem splitFirst_eq_none (hlead : Plain lead) {op : CompareOp} (hop : op ≠ .eq) :
    splitFirst ['=', '='] (lead ++ (op.text ++ ' ' :: decimal v)) = none := by
  have htail := (plain_tail v).1
  cases op with
  | eq => exact absurd rfl hop
  | le => exact splitFirst_other v ['<'] hlead.1 (by decide) htail
  | ge => exact splitFirst_other v ['>'] hlead.1 (by decide) htail
  | lt => exact splitFirst_absent v hlead.1 (by decide) htail _
  | gt => exact splitFirst_absent v hlead.1 (by decide) htail _

/-- `<=` is found in no other ordering. -/
theorem splitFirst_le_none (hlead : Plain lead) {op : CompareOp}
    (hop : op = .ge ∨ op = .lt ∨ op = .gt) :
    splitFirst ['<', '='] (lead ++ (op.text ++ ' ' :: decimal v)) = none := by
  have htail := (plain_tail v).2.1
  rcases hop with rfl | rfl | rfl
  · exact splitFirst_absent v hlead.2.1 (by decide) htail _
  · exact splitFirst_other v [] hlead.2.1 List.not_mem_nil htail
  · exact splitFirst_absent v hlead.2.1 (by decide) htail _

/-- `>=` is found in no strict ordering. -/
theorem splitFirst_ge_none (hlead : Plain lead) {op : CompareOp} (hop : op = .lt ∨ op = .gt) :
    splitFirst ['>', '='] (lead ++ (op.text ++ ' ' :: decimal v)) = none := by
  have htail := (plain_tail v).2.2
  rcases hop with rfl | rfl
  · exact splitFirst_absent v hlead.2.2 (by decide) htail _
  · exact splitFirst_other v [] hlead.2.2 List.not_mem_nil htail

/-- `<` is not found in a condition with `>`. -/
theorem splitFirst_lt_none (hlead : Plain lead) :
    splitFirst ['<'] (lead ++ (CompareOp.gt.text ++ ' ' :: decimal v)) = none :=
  splitFirst_absent v hlead.2.1 (by decide) (plain_tail v).2.1 _

/-- `>` is not found in a condition with `<`. -/
theorem splitFirst_gt_none (hlead : Plain lead) :
    splitFirst ['>'] (lead ++ (CompareOp.lt.text ++ ' ' :: decimal v)) = none :=
  splitFirst_absent v hlead.2.2 (by decide) (plain_tail v).2.2 _

end Search

section Evaluate

variable (reprStr : String → String) (event : PyValue) (v : Int)

/-- An equality compares the text of the field with the decimal. -/
theorem compareTexts_decimal (lead : List Char) :
    compareTexts reprStr event lead (' ' :: decimal v) = true ↔
      Compares reprStr (resolveField (strip isSpace lead) event) v .eq := by
  have hright : strip isSpace (' ' :: decimal v) = decimal v := by
    rw [strip_cons (by decide)]
    exact strip_decimal fun c hc => not_isSpace_of_mem_decimal hc
  have hquotes : strip (fun c => c == '\'' || c == '"') (decimal v) = decimal v := by
    apply strip_decimal
    intro c hc
    have hsingle : c ≠ '\'' := fun h => not_mem_decimal (by decide) rfl v (h ▸ hc)
    have hdouble : c ≠ '"' := fun h => not_mem_decimal (by decide) rfl v (h ▸ hc)
    simp [hsingle, hdouble]
  rw [compareTexts, hright, hquotes, beq_iff_eq, Compares]

/-- An ordering compares the field with the integer, if the field is one. -/
theorem compareInts_decimal (holds : Int → Int → Bool) (lead : List Char) :
    compareInts holds event lead (' ' :: decimal v) = true ↔
      ∃ n, pyInt (resolveField (strip isSpace lead) event) = some n ∧ holds n v = true := by
  have hright : intOfText (' ' :: decimal v) = some v := by
    rw [← intOfText_decimal v, intOfText, intOfText, strip_cons (by decide)]
  rw [compareInts, hright]
  cases pyInt (resolveField (strip isSpace lead) event) with
  | none => simp
  | some n => simp

/-- A strict ordering is not evaluated when it stands at the head of the condition. -/
theorem evaluateCondition_of_strip {condition : String} {lead : List Char} {op : CompareOp}
    (hne : condition ≠ "") (hlead : Plain lead)
    (hstrip : strip isSpace condition.toList = lead ++ (op.text ++ ' ' :: decimal v)) :
    evaluateCondition reprStr condition event = true ↔
      (lead = [] → op ≠ .lt ∧ op ≠ .gt) ∧
        Compares reprStr (resolveField (strip isSpace lead) event) v op := by
  have htext := splitFirst_text v hlead op
  have hhead : ∀ c ∈ lead.head?, c ≠ '<' ∧ c ≠ '>' := by
    intro c hc
    have hmem := List.mem_of_mem_head? hc
    exact ⟨fun h => hlead.2.1 (h ▸ hmem), fun h => hlead.2.2 (h ▸ hmem)⟩
  rw [evaluateCondition, if_neg hne]
  simp only [hstrip]
  cases op with
  | eq =>
    rw [CompareOp.text] at htext ⊢
    rw [htext]
    simpa using compareTexts_decimal reprStr event v lead
  | le =>
    rw [splitFirst_eq_none v hlead (by simp)]
    rw [CompareOp.text] at htext ⊢
    rw [htext]
    simpa [Compares, CompareOp.Holds] using compareInts_decimal event v (fun a b => a ≤ b) lead
  | ge =>
    rw [splitFirst_eq_none v hlead (by simp), splitFirst_le_none v hlead (.inl rfl)]
    rw [CompareOp.text] at htext ⊢
    rw [htext]
    simpa [Compares, CompareOp.Holds] using compareInts_decimal event v (fun a b => a ≥ b) lead
  | lt =>
    rw [splitFirst_eq_none v hlead (by simp), splitFirst_le_none v hlead (.inr (.inl rfl)),
      splitFirst_ge_none v hlead (.inl rfl), splitFirst_gt_none v hlead]
    rw [CompareOp.text] at htext ⊢
    rw [htext]
    rcases lead with _ | ⟨c, lead⟩
    · simp
    · have hc : c ≠ '<' := (hhead c rfl).1
      simpa [hc, Compares, CompareOp.Holds] using
        compareInts_decimal event v (fun a b => a < b) (c :: lead)
  | gt =>
    rw [splitFirst_eq_none v hlead (by simp), splitFirst_le_none v hlead (.inr (.inr rfl)),
      splitFirst_ge_none v hlead (.inr rfl), splitFirst_lt_none v hlead, ite_self]
    rw [CompareOp.text] at htext ⊢
    rw [htext]
    rcases lead with _ | ⟨c, lead⟩
    · simp
    · have hc : c ≠ '>' := (hhead c rfl).2
      simpa [hc, Compares, CompareOp.Holds] using
        compareInts_decimal event v (fun a b => a > b) (c :: lead)

/-- A condition ends with the decimal. -/
theorem getLast?_text (lead : List Char) (op : CompareOp) :
    (lead ++ (op.text ++ ' ' :: decimal v)).getLast? = (decimal v).getLast? := by
  have hsplit : lead ++ (op.text ++ ' ' :: decimal v) =
      (lead ++ op.text ++ [' ']) ++ decimal v := by simp
  rw [hsplit, List.getLast?_append_of_ne_nil _ (decimal_ne_nil v)]

/-- A condition compares the value at its path with its integer. -/
theorem evaluateCondition_text {path : List Char} {op : CompareOp} (hplain : Plain path)
    (hspace : ∀ c ∈ path, isSpace c = false) :
    evaluateCondition reprStr (conditionText path op v) event = true ↔
      (path = [] → op ≠ .lt ∧ op ≠ .gt) ∧
        Compares reprStr (resolveField path event) v op := by
  have hne : conditionText path op v ≠ "" := by
    intro h
    have := congrArg String.toList h
    simp [conditionText] at this
  have hlast : ∀ lead : List Char, ∀ c ∈ (lead ++ (op.text ++ ' ' :: decimal v)).getLast?,
      isSpace c = false := by
    intro lead c hc
    rw [getLast?_text] at hc
    exact not_isSpace_of_mem_decimal (List.mem_of_getLast? hc)
  rcases path with _ | ⟨b, rest⟩
  · have hstrip : strip isSpace (conditionText [] op v).toList =
        [] ++ (op.text ++ ' ' :: decimal v) := by
      rw [conditionText, String.toList_ofList, List.nil_append, List.nil_append,
        strip_cons (by decide)]
      apply strip_eq_self _ (hlast [])
      cases op <;> simp [CompareOp.text, isSpace]
    exact evaluateCondition_of_strip reprStr event v hne hplain hstrip
  · have hhead : ∀ c ∈ (b :: rest).head?, isSpace c = false :=
      fun c hc => hspace c (List.mem_of_mem_head? hc)
    have hstrip : strip isSpace (conditionText (b :: rest) op v).toList =
        ((b :: rest) ++ [' ']) ++ (op.text ++ ' ' :: decimal v) := by
      rw [conditionText, String.toList_ofList, List.append_cons]
      exact strip_eq_self hhead (hlast _)
    have hplain' : Plain ((b :: rest) ++ [' ']) := by
      simpa [Plain] using hplain
    have hpath : strip isSpace ((b :: rest) ++ [' ']) = b :: rest :=
      strip_concat (by decide) hhead (fun c hc => hspace c (List.mem_of_getLast? hc)) (by simp)
    rw [evaluateCondition_of_strip reprStr event v hne hplain' hstrip, hpath]
    simp

end Evaluate

/-! ### Conditions that name the event type -/

/-- The value of a field in the dictionary that an event has under a key. -/
def nestedField (entries : List (String × PyValue)) (key field : String) : PyValue :=
  match entries.lookup key with
  | some (.dict inner) => (inner.lookup field).getD .none
  | _ => .none

/-- What a character of a name is not. -/
theorem isNameChar_iff {c : Char} :
    isNameChar c = true ↔ c ≠ '.' ∧ isSpace c = false ∧ c ≠ '=' ∧ c ≠ '<' ∧ c ≠ '>' := by
  simp [isNameChar, and_assoc]

/-- A name holds no operator. -/
theorem plain_of_name {name : List Char} (h : ∀ c ∈ name, isNameChar c = true) : Plain name := by
  refine ⟨fun hc => ?_, fun hc => ?_, fun hc => ?_⟩
  all_goals have := isNameChar_iff.mp (h _ hc)
  · exact this.2.2.1 rfl
  · exact this.2.2.2.1 rfl
  · exact this.2.2.2.2 rfl

/-- A name is one part of a path. -/
theorem splitOnP_name {name : List Char} (h : ∀ c ∈ name, isNameChar c = true) :
    name.splitOnP (· == '.') = [name] := by
  apply List.splitOnP_eq_singleton
  intro c hc
  simpa using (isNameChar_iff.mp (h c hc)).1

/-- A name on its own is looked up in the event. -/
theorem resolveField_name {name : List Char} (h : ∀ c ∈ name, isNameChar c = true)
    (entries : List (String × PyValue)) :
    resolveField name (.dict entries) = (entries.lookup (String.ofList name)).getD .none := by
  rw [resolveField, splitOnP_name h, resolveFrom, resolveFrom]

/-- A dotted path goes through a dictionary of the event. -/
theorem resolveField_dotted {key field : List Char} (hkey : ∀ c ∈ key, isNameChar c = true)
    (hfield : ∀ c ∈ field, isNameChar c = true) (entries : List (String × PyValue)) :
    resolveField (key ++ '.' :: field) (.dict entries) =
      nestedField entries (String.ofList key) (String.ofList field) := by
  have hsplit : (key ++ '.' :: field).splitOnP (· == '.') = [key, field] := by
    rw [List.splitOnP_append_cons key field (by simp), splitOnP_name hkey, splitOnP_name hfield]
    rfl
  rw [resolveField, hsplit, resolveFrom, nestedField]
  cases entries.lookup (String.ofList key) with
  | none => simp [resolveFrom]
  | some value => cases value <;> simp [resolveFrom]

section Typed

variable (reprStr : String → String) {key field : List Char} (op : CompareOp) (v : Int)

/-- With an integer on the left every comparison is that of integers. -/
theorem compares_int (x : Int) : Compares reprStr (.int x) v op ↔ op.Holds x v := by
  cases op with
  | eq =>
    have htext : pyStr reprStr (.int x) = String.ofList (decimal x) := by rw [pyStr, pyRepr]; simp
    rw [Compares, htext, CompareOp.Holds, String.ofList_inj, decimal_injective.eq_iff]
  | le | ge | lt | gt => simp [Compares, pyInt]

/-- A condition on a field compares the field. -/
theorem evaluateCondition_field (hfield : ∀ c ∈ field, isNameChar c = true)
    {entries : List (String × PyValue)} {x : Int}
    (hx : entries.lookup (String.ofList field) = some (.int x)) :
    evaluateCondition reprStr (conditionText field op v) (.dict entries) = true ↔
      (field = [] → op ≠ .lt ∧ op ≠ .gt) ∧ op.Holds x v := by
  rw [evaluateCondition_text reprStr _ v (plain_of_name hfield)
    fun c hc => (isNameChar_iff.mp (hfield c hc)).2.1, resolveField_name hfield, hx,
    Option.getD_some, compares_int]

/-- With a name in front it compares a field of the dictionary under that name. -/
theorem evaluateCondition_dotted (hkey : ∀ c ∈ key, isNameChar c = true)
    (hfield : ∀ c ∈ field, isNameChar c = true) (entries : List (String × PyValue)) :
    evaluateCondition reprStr (conditionText (key ++ '.' :: field) op v) (.dict entries) = true ↔
      Compares reprStr (nestedField entries (String.ofList key) (String.ofList field)) v op := by
  have hplain : Plain (key ++ '.' :: field) := by
    have := plain_of_name hkey
    have := plain_of_name hfield
    simp_all [Plain]
  have hspace : ∀ c ∈ key ++ '.' :: field, isSpace c = false := by
    intro c hc
    rcases List.mem_append.mp hc with hc | hc
    · exact (isNameChar_iff.mp (hkey c hc)).2.1
    · rcases List.mem_cons.mp hc with rfl | hc
      · rfl
      · exact (isNameChar_iff.mp (hfield c hc)).2.1
  rw [evaluateCondition_text reprStr _ v hplain hspace, resolveField_dotted hkey hfield]
  simp

/-- What the documentation of conditions says of one that names the type of the event: it is the
condition without the type, and the comparison of the field. -/
def TypedCondition (entries : List (String × PyValue)) (key field : List Char) (x : Int) : Prop :=
  evaluateCondition reprStr (conditionText (key ++ '.' :: field) op v) (.dict entries) =
      evaluateCondition reprStr (conditionText field op v) (.dict entries) ∧
    (evaluateCondition reprStr (conditionText (key ++ '.' :: field) op v) (.dict entries) = true ↔
      op.Holds x v)

/-- The type is looked up as a field of the event, whether or not it is the event's type. The
condition is right where it is false of the event's field and of the field found there, or true of
both. A strict ordering of the field with the empty name is no condition at all. -/
theorem typedCondition_iff (hkey : ∀ c ∈ key, isNameChar c = true)
    (hfield : ∀ c ∈ field, isNameChar c = true) {entries : List (String × PyValue)} {x : Int}
    (hx : entries.lookup (String.ofList field) = some (.int x)) :
    TypedCondition reprStr op v entries key field x ↔
      (¬op.Holds x v ∧
          ¬Compares reprStr (nestedField entries (String.ofList key) (String.ofList field)) v op) ∨
        (op.Holds x v ∧
          Compares reprStr (nestedField entries (String.ofList key) (String.ofList field)) v op ∧
          (field = [] → op ≠ .lt ∧ op ≠ .gt)) := by
  rw [TypedCondition, Bool.eq_iff_iff, evaluateCondition_dotted reprStr op v hkey hfield,
    evaluateCondition_field reprStr op v hfield hx]
  tauto

/-- A field that is not found compares with no integer. -/
theorem not_compares_none : ¬Compares reprStr .none v op := by
  cases op with
  | eq =>
    intro h
    have htext : String.ofList (decimal v) = "None" := h.symm
    have hmem : 'N' ∈ decimal v := by
      rw [← String.toList_ofList (l := decimal v), htext]
      decide
    exact not_mem_decimal (by decide) rfl v hmem
  | le | ge | lt | gt => simp [Compares, pyInt]

end Typed

/-- A motor command of no torque, as it stands in a trace. -/
def motorCommand : List (String × PyValue) :=
  [("machine", .int 2), ("at", .int 10000), ("event", .str "motor_command"), ("torque", .int 0)]

/-- The documented condition `motor_command.torque == 0` is false of it. -/
theorem motorCommand_typed :
    motorCommand.lookup "event" = some (.str "motor_command") ∧
      motorCommand.lookup "torque" = some (.int 0) ∧
      ¬TypedCondition (fun s => "'" ++ s ++ "'") .eq 0 motorCommand
        "motor_command".toList "torque".toList 0 := by
  refine ⟨rfl, rfl, fun ⟨_, htyped⟩ => ?_⟩
  rw [evaluateCondition_dotted _ _ _ (List.all_eq_true.mp rfl) (List.all_eq_true.mp rfl)] at htyped
  exact not_compares_none _ _ _ (htyped.mpr rfl)

/-- The condition `motor_command.torque < 0` on the motor command. -/
theorem typedCondition_motorCommand :
    TypedCondition (fun s => "'" ++ s ++ "'") .lt 0 motorCommand
        "motor_command".toList "torque".toList 0 ↔
      (¬CompareOp.lt.Holds 0 0 ∧
          ¬Compares (fun s => "'" ++ s ++ "'") (nestedField motorCommand
            (String.ofList "motor_command".toList) (String.ofList "torque".toList)) 0 .lt) ∨
        (CompareOp.lt.Holds 0 0 ∧
          Compares (fun s => "'" ++ s ++ "'") (nestedField motorCommand
            (String.ofList "motor_command".toList) (String.ofList "torque".toList)) 0 .lt ∧
          ("torque".toList = [] → CompareOp.lt ≠ .lt ∧ CompareOp.lt ≠ .gt)) :=
  typedCondition_iff _ _ _ (List.all_eq_true.mp rfl) (List.all_eq_true.mp rfl) rfl

end Microcar.Checker
