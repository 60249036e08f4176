import Mathlib.Data.List.Basic
import Mathlib.Data.List.Nodup

/-!
# Fixed-capacity tables

A statically sized array together with its fill count. Only the filled prefix is
observable, so a table is a list whose length is bounded by the capacity; the bound
travels with the value. The two scans used over such arrays are the update of the
first matching entry and the update of every entry.
-/

namespace Microcar.Core

universe u v

/-- Update the first entry that satisfies the test, as a scan with an early return does. -/
def modifyFirst {α : Type u} (p : α → Bool) (f : α → α) : List α → List α
  | [] => []
  | a :: l => if p a then f a :: l else a :: modifyFirst p f l

/-- A scan skips what does not match and stops at its first match. -/
theorem modifyFirst_append_cons {α : Type u} {p : α → Bool} (f : α → α) {before : List α} {a : α}
    (after : List α) (hbefore : ∀ b ∈ before, p b = false) (ha : p a = true) :
    modifyFirst p f (before ++ a :: after) = before ++ f a :: after := by
  induction before with
  | nil => simp [modifyFirst, ha]
  | cons b before ih =>
    have hb : p b = false := hbefore b (by simp)
    have hrest := ih fun c hc => hbefore c (List.mem_cons_of_mem b hc)
    simp [modifyFirst, hb, hrest]

@[simp] theorem length_modifyFirst {α : Type u} (p : α → Bool) (f : α → α) (l : List α) :
    (modifyFirst p f l).length = l.length := by
  induction l with
  | nil => rfl
  | cons a l ih =>
    by_cases ha : p a = true <;> simp [modifyFirst, ha, ih]

/-- A projection that the update keeps at every match is unchanged along the list. -/
theorem map_modifyFirst {α : Type u} {β : Type v} {p : α → Bool} {f : α → α} {g : α → β}
    (h : ∀ a, p a = true → g (f a) = g a) (l : List α) :
    (modifyFirst p f l).map g = l.map g := by
  induction l with
  | nil => rfl
  | cons a l ih =>
    by_cases ha : p a = true <;> simp [modifyFirst, ha, ih, h a]

/-- A scan whose update changes no match changes nothing. -/
theorem modifyFirst_eq_self {α : Type u} {p : α → Bool} {f : α → α} {l : List α}
    (h : ∀ a ∈ l, p a = true → f a = a) : modifyFirst p f l = l := by
  induction l with
  | nil => rfl
  | cons a l ih =>
    by_cases ha : p a = true
    · rw [modifyFirst, if_pos ha, h a List.mem_cons_self ha]
    · rw [modifyFirst, if_neg ha, ih fun b hb => h b (List.mem_cons_of_mem a hb)]

/-- A scan goes on behind a cut as it would without it. -/
theorem take_modifyFirst {α : Type u} (p : α → Bool) (f : α → α) (n : Nat) (l : List α) :
    (modifyFirst p f l).take n = modifyFirst p f (l.take n) := by
  induction l generalizing n with
  | nil => rw [modifyFirst, List.take_nil, modifyFirst]
  | cons a l ih =>
    cases n with
    | zero => rfl
    | succ n =>
      rw [List.take_succ_cons, modifyFirst, modifyFirst]
      split_ifs
      · exact List.take_succ_cons
      · rw [List.take_succ_cons, ih]

/-- An entry behind a scan was there before or is an updated match. -/
theorem mem_modifyFirst {α : Type u} {p : α → Bool} {f : α → α} {l : List α} {b : α}
    (h : b ∈ modifyFirst p f l) : b ∈ l ∨ ∃ a ∈ l, p a = true ∧ b = f a := by
  induction l with
  | nil => exact .inl h
  | cons a l ih =>
    by_cases ha : p a = true
    · rw [modifyFirst, if_pos ha] at h
      rcases List.mem_cons.mp h with rfl | hb
      · exact .inr ⟨a, List.mem_cons_self, ha, rfl⟩
      · exact .inl (List.mem_cons_of_mem a hb)
    · rw [modifyFirst, if_neg ha] at h
      rcases List.mem_cons.mp h with rfl | hb
      · exact .inl List.mem_cons_self
      · rcases ih hb with hold | ⟨c, hc, hpc, hbc⟩
        · exact .inl (List.mem_cons_of_mem a hold)
        · exact .inr ⟨c, List.mem_cons_of_mem a hc, hpc, hbc⟩

/-- Where the keys are distinct and a match is decided by its key, the first match is the only
one. -/
theorem modifyFirst_eq_map {α : Type u} {β : Type v} {p : α → Bool} {key : α → β}
    (hkey : ∀ a b, p a = true → (p b = true ↔ key b = key a)) (f : α → α) {l : List α}
    (hdistinct : (l.map key).Nodup) :
    modifyFirst p f l = l.map fun a => if p a then f a else a := by
  induction l with
  | nil => rfl
  | cons a l ih =>
    obtain ⟨hnotin, hrest⟩ := List.nodup_cons.mp hdistinct
    by_cases ha : p a = true
    · have hid : l.map (fun b => if p b then f b else b) = l.map id := by
        apply List.map_congr_left
        intro b hb
        rw [if_neg fun hpb => hnotin (List.mem_map.mpr ⟨b, hb, (hkey a b ha).mp hpb⟩)]
        rfl
      rw [modifyFirst, if_pos ha, List.map_cons, if_pos ha, hid, List.map_id]
    · rw [modifyFirst, if_neg ha, List.map_cons, if_neg ha, ih hrest]

/-- A filled prefix of an array with capacity `cap`. -/
structure Table (α : Type u) (cap : Nat) where
  /-- The entries below the fill count, in index order. -/
  entries : List α
  /-- The fill count never exceeds the array. -/
  length_le : entries.length ≤ cap
  deriving DecidableEq

namespace Table

/-- The zero-initialised array. -/
def empty {α : Type u} {cap : Nat} : Table α cap := ⟨[], Nat.zero_le cap⟩

/-- The fill count has reached the capacity. -/
def isFull {α : Type u} {cap : Nat} (t : Table α cap) : Bool := decide (cap ≤ t.entries.length)

/-- Write behind the filled prefix; a full array is left as it is. -/
def push {α : Type u} {cap : Nat} (t : Table α cap) (a : α) : Table α cap :=
  if h : t.entries.length < cap then ⟨t.entries ++ [a], by simpa [Nat.succ_le_iff] using h⟩ else t

/-- Rewrite every entry. -/
def map {α : Type u} {cap : Nat} (t : Table α cap) (f : α → α) : Table α cap :=
  ⟨t.entries.map f, by simpa using t.length_le⟩

/-- Rewrite the first matching entry. -/
def modify {α : Type u} {cap : Nat} (t : Table α cap) (p : α → Bool) (f : α → α) : Table α cap :=
  ⟨modifyFirst p f t.entries, by simpa using t.length_le⟩

@[simp] theorem entries_map {α : Type u} {cap : Nat} (t : Table α cap) (f : α → α) :
    (t.map f).entries = t.entries.map f := rfl

@[simp] theorem entries_modify {α : Type u} {cap : Nat} (t : Table α cap) (p : α → Bool)
    (f : α → α) : (t.modify p f).entries = modifyFirst p f t.entries := rfl

/-- A full table does not take another entry. -/
theorem entries_push {α : Type u} {cap : Nat} (t : Table α cap) (a : α) :
    (t.push a).entries = if t.isFull then t.entries else t.entries ++ [a] := by
  unfold push isFull
  by_cases h : t.entries.length < cap
  · simp [h]
  · simp [h, Nat.le_of_not_lt h]

/-- A push onto a table that holds the beginning of a list leaves it the beginning of the longer
list. -/
theorem entries_push_take {α : Type u} {cap : Nat} {t : Table α cap} {l : List α}
    (h : t.entries = l.take cap) (a : α) : (t.push a).entries = (l ++ [a]).take cap := by
  have hlength : t.entries.length = min cap l.length := by rw [h, List.length_take]
  rw [entries_push]
  by_cases hfull : t.isFull = true
  · have hcap : cap ≤ l.length := by
      have hle : cap ≤ t.entries.length := of_decide_eq_true hfull
      omega
    rw [if_pos hfull, h, List.take_append_of_le_length hcap]
  · have hroom : l.length < cap := by
      have hlt : ¬ cap ≤ t.entries.length := fun hle => hfull (decide_eq_true hle)
      omega
    have hlonger : (l ++ [a]).length ≤ cap := by
      rw [List.length_append]
      exact hroom
    rw [if_neg hfull, h, List.take_of_length_le (Nat.le_of_lt hroom),
      List.take_of_length_le hlonger]

end Table

end Microcar.Core
