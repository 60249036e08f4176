import Mathlib.Data.List.Sort
import Mathlib.Order.Defs.LinearOrder

/-!
# Sorting by a key

Stable sorting of a list by a key: elements of equal key keep their order. Sorting once more
behind an append inserts the new element behind its equals, and sorting commutes with the choice
of elements. A sorted list splits at every bound.
-/

namespace Microcar.Core

universe u v

variable {α : Type u} {κ : Type v} [LinearOrder κ] {key : α → κ}

/-- The list in the order of a key; equal keys keep their order. -/
def sortByKey (key : α → κ) (l : List α) : List α :=
  l.insertionSort fun a b => key a ≤ key b

/-- The list is in the order of a key. -/
def SortedByKey (key : α → κ) (l : List α) : Prop := l.Pairwise fun a b => key a ≤ key b

theorem perm_sortByKey (key : α → κ) (l : List α) : (sortByKey key l).Perm l :=
  List.perm_insertionSort _ l

theorem sortedByKey_sortByKey (key : α → κ) (l : List α) : SortedByKey key (sortByKey key l) := by
  have htotal : Std.Total fun a b : α => key a ≤ key b := ⟨fun a b => le_total (key a) (key b)⟩
  have htrans : IsTrans α fun a b => key a ≤ key b := ⟨fun _ _ _ => le_trans⟩
  exact List.pairwise_insertionSort _ l

/-- A sorted list is left as it is. -/
theorem SortedByKey.sortByKey_eq {l : List α} (h : SortedByKey key l) : sortByKey key l = l :=
  List.Pairwise.insertionSort_eq h

/-- Insert an element behind those that are not above it. -/
def insertLast (key : α → κ) (a : α) : List α → List α
  | [] => [a]
  | b :: l => if key b ≤ key a then b :: insertLast key a l else a :: b :: l

/-- Inserting before one's equals and behind one's equals commute. -/
theorem orderedInsert_insertLast (a b : α) (l : List α) :
    (insertLast key a l).orderedInsert (fun x y => key x ≤ key y) b =
      insertLast key a (l.orderedInsert (fun x y => key x ≤ key y) b) := by
  induction l with
  | nil =>
    by_cases hba : key b ≤ key a
    · simp [insertLast, hba]
    · simp [insertLast, hba]
  | cons c l ih =>
    by_cases hca : key c ≤ key a
    · by_cases hbc : key b ≤ key c
      · simp [insertLast, hca, hbc, le_trans hbc hca]
      · simp [insertLast, hca, hbc, ih]
    · by_cases hbc : key b ≤ key c
      · by_cases hba : key b ≤ key a
        · simp [insertLast, hca, hbc, hba]
        · simp [insertLast, hca, hbc, hba]
      · have hba : ¬ key b ≤ key a := fun h => hbc (le_trans h (le_of_lt (not_le.mp hca)))
        simp [insertLast, hca, hbc, hba]

/-- Sorting behind an append inserts the new element behind its equals. -/
theorem sortByKey_snoc (l : List α) (a : α) :
    sortByKey key (l ++ [a]) = insertLast key a (sortByKey key l) := by
  induction l with
  | nil => rfl
  | cons b l ih =>
    show (sortByKey key (l ++ [a])).orderedInsert _ b = _
    rw [ih, orderedInsert_insertLast]
    rfl

/-- An element not below a first part is inserted into the rest. -/
theorem insertLast_append {a : α} {first rest : List α} (h : ∀ b ∈ first, key b ≤ key a) :
    insertLast key a (first ++ rest) = first ++ insertLast key a rest := by
  induction first with
  | nil => rfl
  | cons b first ih =>
    rw [List.cons_append, insertLast, if_pos (h b List.mem_cons_self),
      ih fun c hc => h c (List.mem_cons_of_mem b hc), List.cons_append]

/-- In a sorted list the first element that passes a test is the least that does. -/
theorem SortedByKey.find?_le {l : List α} (h : SortedByKey key l) {p : α → Bool} {first : α}
    (hfind : l.find? p = some first) {a : α} (ha : a ∈ l) (hp : p a = true) :
    key first ≤ key a := by
  obtain ⟨-, before, after, rfl, hbefore⟩ := List.find?_eq_some_iff_append.mp hfind
  rcases List.mem_append.mp ha with ha | ha
  · exact absurd hp (by simpa using hbefore a ha)
  · rcases List.mem_cons.mp ha with rfl | ha
    · exact le_rfl
    · exact (List.pairwise_cons.mp (List.pairwise_append.mp h).2.1).1 a ha

/-- A sorted list splits at a bound. -/
theorem SortedByKey.split {l : List α} (h : SortedByKey key l) (n : κ) :
    l.filter (fun a => key a ≤ n) ++ l.filter (fun a => ¬ key a ≤ n) = l := by
  induction l with
  | nil => rfl
  | cons a l ih =>
    obtain ⟨hhead, htail⟩ := List.pairwise_cons.mp h
    by_cases ha : key a ≤ n
    · rw [List.filter_cons_of_pos (by simpa using ha), List.filter_cons_of_neg (by simpa using ha),
        List.cons_append, ih htail]
    · have hnone : ∀ b ∈ l, ¬ key b ≤ n := fun b hb hbn => ha (le_trans (hhead b hb) hbn)
      have hnil : l.filter (fun b => key b ≤ n) = [] :=
        List.filter_eq_nil_iff.mpr fun b hb => by simpa using hnone b hb
      have hall : l.filter (fun b => ¬ key b ≤ n) = l :=
        List.filter_eq_self.mpr fun b hb => by simpa using hnone b hb
      rw [List.filter_cons_of_neg (by simpa using ha), List.filter_cons_of_pos (by simpa using ha),
        hnil, hall, List.nil_append]

/-- The leading elements up to a bound, behind any number of such elements. -/
theorem SortedByKey.takeWhile_drop {l : List α} (h : SortedByKey key l) {n : κ} {k : Nat}
    (hk : k ≤ (l.filter fun a => key a ≤ n).length) :
    (l.drop k).takeWhile (fun a => key a ≤ n) = (l.filter fun a => key a ≤ n).drop k := by
  have hsplit := h.split n
  rw [← hsplit, List.drop_append_of_le_length hk, hsplit]
  have hlow : ∀ a ∈ (l.filter fun a => key a ≤ n).drop k, decide (key a ≤ n) = true :=
    fun a ha => (List.mem_filter.mp (List.mem_of_mem_drop ha)).2
  rw [List.takeWhile_append_of_pos hlow]
  have hrest : (l.filter fun a => ¬ key a ≤ n).takeWhile (fun a => key a ≤ n) = [] := by
    cases hhigh : l.filter fun a => ¬ key a ≤ n with
    | nil => rfl
    | cons a rest =>
      have ha : a ∈ l.filter fun a => ¬ key a ≤ n := by rw [hhigh]; exact List.mem_cons_self
      exact List.takeWhile_cons_of_neg (by simpa using (List.mem_filter.mp ha).2)
  rw [hrest, List.append_nil]

/-- Sorting commutes with inserting and choosing. -/
theorem filter_orderedInsert (p : α → Bool) (a : α) {l : List α} (h : SortedByKey key l) :
    (l.orderedInsert (fun x y => key x ≤ key y) a).filter p =
      if p a then (l.filter p).orderedInsert (fun x y => key x ≤ key y) a else l.filter p := by
  induction l with
  | nil => cases hp : p a <;> simp [hp]
  | cons b l ih =>
    obtain ⟨hhead, htail⟩ := List.pairwise_cons.mp h
    by_cases hab : key a ≤ key b
    · rw [List.orderedInsert_cons, if_pos hab]
      cases hp : p a with
      | false => simp [hp]
      | true =>
        -- every remaining element is not below the inserted one
        have hall : ∀ c ∈ (b :: l).filter p, key a ≤ key c := by
          intro c hc
          rcases List.mem_cons.mp (List.mem_filter.mp hc).1 with rfl | hmem
          · exact hab
          · exact le_trans hab (hhead c hmem)
        rw [List.filter_cons_of_pos hp, if_pos rfl]
        cases hfilter : (b :: l).filter p with
        | nil => rfl
        | cons c rest =>
          rw [List.orderedInsert_cons, if_pos]
          exact hall c (by rw [hfilter]; exact List.mem_cons_self)
    · rw [List.orderedInsert_cons, if_neg hab]
      cases hb : p b with
      | false => rw [List.filter_cons_of_neg (by simp [hb]), ih htail,
          List.filter_cons_of_neg (by simp [hb])]
      | true =>
        rw [List.filter_cons_of_pos hb, ih htail, List.filter_cons_of_pos hb]
        cases hp : p a with
        | false => rfl
        | true => rw [if_pos rfl, if_pos rfl, List.orderedInsert_cons, if_neg hab]

/-- Sorting commutes with the choice of elements. -/
theorem filter_sortByKey (p : α → Bool) (l : List α) :
    (sortByKey key l).filter p = sortByKey key (l.filter p) := by
  induction l with
  | nil => rfl
  | cons a l ih =>
    show ((sortByKey key l).orderedInsert _ a).filter p = _
    rw [filter_orderedInsert p a (sortedByKey_sortByKey key l), ih]
    cases hp : p a with
    | false => rw [List.filter_cons_of_neg (by simp [hp])]; rfl
    | true => rw [List.filter_cons_of_pos hp]; rfl

end Microcar.Core
