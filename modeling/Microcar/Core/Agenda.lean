import Mathlib.Data.List.Count
import Mathlib.Data.List.Perm.Basic
import Mathlib.Order.Lattice
import Microcar.Core.StableSort

/-!
# Agendas

An agenda holds elements that wait for their arrival. It goes from one time to the next and
delivers what has arrived by then, so an element is delivered at its arrival exactly when no step
passes over it. An agenda that looks at its first pending element alone comes to the arrival of
another one only if nothing was queued before that arrives later.
-/

namespace Microcar.Core

universe u v

/-- The pending elements at a time, with the record of what was queued and of what was delivered
when. -/
structure Agenda (α : Type u) (τ : Type v) where
  now : τ
  pending : List α
  queued : List α
  delivered : List (τ × α)

namespace Agenda

variable {α : Type u} {τ : Type v} [LinearOrder τ] (arrival : α → τ)

/-- Go to a time and deliver what has arrived. Elements are queued before the delivery and
behind it. -/
def advance (a : Agenda α τ) (t : τ) (before after : List α) : Agenda α τ where
  now := t
  pending := ((a.pending ++ before).filter fun x => t < arrival x) ++ after
  queued := a.queued ++ before ++ after
  delivered := a.delivered ++ ((a.pending ++ before).filter fun x => arrival x ≤ t).map (Prod.mk t)

/-- Every delivery took place at the arrival of its element. -/
def Punctual (a : Agenda α τ) : Prop := ∀ d ∈ a.delivered, d.1 = arrival d.2

section Steps

variable {arrival} {a : Agenda α τ} {t : τ} {before after : List α}

/-- A step is punctual if it passes over no pending element. -/
theorem punctual_advance_iff (hbefore : ∀ x ∈ before, t < arrival x) :
    (a.advance arrival t before after).Punctual arrival ↔
      a.Punctual arrival ∧ ∀ x ∈ a.pending, t ≤ arrival x := by
  constructor
  · intro h
    refine ⟨fun d hd => h d (List.mem_append_left _ hd), fun x hx => ?_⟩
    by_contra hlate
    have hdue : x ∈ (a.pending ++ before).filter fun x => arrival x ≤ t :=
      List.mem_filter.mpr ⟨List.mem_append_left _ hx, by simpa using (not_le.mp hlate).le⟩
    have := h (t, x) (List.mem_append_right _ (List.mem_map_of_mem hdue))
    exact hlate (le_of_eq this)
  · rintro ⟨hold, hpending⟩ d hd
    rcases List.mem_append.mp hd with hd | hd
    · exact hold d hd
    · obtain ⟨x, hx, rfl⟩ := List.mem_map.mp hd
      obtain ⟨hmem, harrived⟩ := List.mem_filter.mp hx
      rw [decide_eq_true_eq] at harrived
      rcases List.mem_append.mp hmem with hmem | hmem
      · exact le_antisymm (hpending x hmem) harrived
      · exact absurd harrived (not_le.mpr (hbefore x hmem))

variable [DecidableEq α]

variable (arrival) in
/-- What was queued is pending or delivered, and what is pending has yet to arrive. -/
structure Accounted (a : Agenda α τ) : Prop where
  count : ∀ x, a.queued.count x = a.pending.count x + (a.delivered.map Prod.snd).count x
  later : ∀ x ∈ a.pending, a.now < arrival x

theorem Accounted.advance (h : a.Accounted arrival) (hafter : ∀ x ∈ after, t < arrival x) :
    (a.advance arrival t before after).Accounted arrival where
  count x := by
    have hsplit : ((a.pending ++ before).filter fun x => arrival x ≤ t).count x +
        ((a.pending ++ before).filter fun x => t < arrival x).count x =
          a.pending.count x + before.count x := by
      have hperm := (List.filter_append_perm (fun x => decide (arrival x ≤ t))
        (a.pending ++ before)).count_eq x
      simpa only [List.count_append, ← decide_not, not_le] using hperm
    have hold := h.count x
    simp only [Agenda.advance, List.count_append, List.map_append, List.map_map,
      Function.comp_def, List.map_id'] at hsplit ⊢
    omega
  later x hx := by
    rcases List.mem_append.mp hx with hx | hx
    · exact of_decide_eq_true (List.mem_filter.mp hx).2
    · exact hafter x hx

/-- On a punctual agenda an element that has arrived was delivered as often as it was queued, and
at its arrival. -/
theorem Accounted.count_delivered (h : a.Accounted arrival) (hpunctual : a.Punctual arrival) {x : α}
    (hx : arrival x ≤ a.now) : a.delivered.count (arrival x, x) = a.queued.count x := by
  have hpending : a.pending.count x = 0 :=
    List.count_eq_zero_of_not_mem fun hmem => absurd (h.later x hmem) (not_lt.mpr hx)
  rw [h.count x, hpending, Nat.zero_add, List.count, List.count, List.countP_map]
  apply List.countP_congr
  intro d hd
  have hd := hpunctual d hd
  constructor
  · intro heq
    simp only [beq_iff_eq] at heq
    simp [heq]
  · intro heq
    simp only [Function.comp_apply, beq_iff_eq] at heq ⊢
    rw [← heq, ← hd]

end Steps

/-! ### The order of queueing -/

/-- The pending elements are the queued ones that have yet to arrive, in the order of their
queueing. -/
def InOrder (a : Agenda α τ) : Prop := a.pending = a.queued.filter fun x => a.now < arrival x

/-- Of the queued elements that arrive no earlier than a time, the one queued first arrives
then. -/
def FirstAt (queued : List α) (t : τ) : Prop :=
  ∃ x, queued.find? (fun y => t ≤ arrival y) = some x ∧ arrival x = t

section Order

variable {arrival} {a : Agenda α τ} {t : τ} {before after queued : List α}

/-- A step forward keeps the order. -/
theorem InOrder.advance (h : a.InOrder arrival) (hforward : a.now ≤ t)
    (hafter : ∀ x ∈ after, t < arrival x) : (a.advance arrival t before after).InOrder arrival := by
  have hkept : a.pending.filter (fun x => t < arrival x) =
      a.queued.filter fun x => t < arrival x := by
    rw [h, List.filter_filter]
    apply List.filter_congr
    intro x _
    by_cases hx : t < arrival x
    · simp [hx, hforward.trans_lt hx]
    · simp [hx]
  have hnew : after.filter (fun x => t < arrival x) = after :=
    List.filter_eq_self.mpr fun x hx => decide_eq_true (hafter x hx)
  have hqueued : (a.queued ++ before ++ after).filter (fun x => t < arrival x) =
      a.queued.filter (fun x => t < arrival x) ++ before.filter (fun x => t < arrival x) ++
        after := by
    rw [List.filter_append, List.filter_append, hnew]
  have hpending : (a.pending ++ before).filter (fun x => t < arrival x) =
      a.queued.filter (fun x => t < arrival x) ++ before.filter (fun x => t < arrival x) := by
    rw [List.filter_append, hkept]
  rw [InOrder, Agenda.advance]
  dsimp only
  rw [hqueued, hpending]

/-- The first element that passes a test is the first that passes a stronger one, if it does. -/
theorem find?_of_imp {p q : α → Bool} (himp : ∀ x, q x = true → p x = true) {l : List α} {x : α}
    (hfind : l.find? p = some x) (hx : q x = true) : l.find? q = some x := by
  obtain ⟨-, front, rest, rfl, hfront⟩ := List.find?_eq_some_iff_append.mp hfind
  refine List.find?_eq_some_iff_append.mpr ⟨hx, front, rest, rfl, fun y hy => ?_⟩
  have hnot := hfront y hy
  rw [Bool.not_eq_true'] at hnot ⊢
  exact Bool.eq_false_iff.mpr fun hpass => Bool.eq_false_iff.mp hnot (himp y hpass)

/-- What is queued later does not change which element was first. -/
theorem FirstAt.append (h : FirstAt arrival queued t) (more : List α) :
    FirstAt arrival (queued ++ more) t := by
  obtain ⟨x, hfind, hx⟩ := h
  exact ⟨x, by rw [List.find?_append, hfind, Option.some_or], hx⟩

/-- Behind an element that arrives then nothing is first any more. -/
theorem FirstAt.of_append {more : List α} (h : FirstAt arrival (queued ++ more) t) {x : α}
    (hx : x ∈ queued) (harrival : t ≤ arrival x) : FirstAt arrival queued t := by
  obtain ⟨y, hfind, hy⟩ := h
  obtain ⟨z, hz⟩ : ∃ z, queued.find? (fun y => t ≤ arrival y) = some z :=
    Option.isSome_iff_exists.mp (List.find?_isSome.mpr ⟨x, hx, decide_eq_true harrival⟩)
  rw [List.find?_append, hz, Option.some_or] at hfind
  exact ⟨y, hz.trans hfind, hy⟩

/-- The first pending element is the first at its arrival. -/
theorem InOrder.firstAt_head (h : a.InOrder arrival) {x : α} (hx : x ∈ a.pending.head?) :
    FirstAt arrival a.queued (arrival x) := by
  rw [h, Option.mem_def, List.head?_filter] at hx
  have hpassed := List.find?_some hx
  have hlater : a.now < arrival x := of_decide_eq_true hpassed
  refine ⟨x, find?_of_imp (fun y hy => ?_) hx (decide_eq_true le_rfl), rfl⟩
  exact decide_eq_true (hlater.trans_le (of_decide_eq_true hy))

/-- Up to a time that lies ahead and has its first element, the first pending element arrives. -/
theorem InOrder.head_le (h : a.InOrder arrival) (hahead : a.now < t)
    (hfirst : FirstAt arrival a.queued t) : ∃ x ∈ a.pending.head?, arrival x ≤ t := by
  obtain ⟨y, hfind, hy⟩ := hfirst
  obtain ⟨x, hx⟩ : ∃ x, a.queued.find? (fun x => a.now < arrival x) = some x := by
    have hmem := List.mem_of_find?_eq_some hfind
    refine Option.isSome_iff_exists.mp (List.find?_isSome.mpr ⟨y, hmem, ?_⟩)
    exact decide_eq_true (hy ▸ hahead)
  refine ⟨x, by rw [h, Option.mem_def, List.head?_filter, hx], ?_⟩
  by_contra hlate
  have hsame : a.queued.find? (fun y => t ≤ arrival y) = some x :=
    find?_of_imp (fun z hz => decide_eq_true (hahead.trans_le (of_decide_eq_true hz))) hx
      (decide_eq_true (not_le.mp hlate).le)
  obtain rfl := Option.some.inj (hfind.symm.trans hsame)
  exact hlate hy.le

/-- Where elements are queued in the order of their arrival, each is the first at its arrival. -/
theorem firstAt_of_sorted (h : SortedByKey arrival queued) {x : α} (hx : x ∈ queued) :
    FirstAt arrival queued (arrival x) := by
  obtain ⟨y, hfind⟩ : ∃ y, queued.find? (fun y => arrival x ≤ arrival y) = some y :=
    Option.isSome_iff_exists.mp (List.find?_isSome.mpr ⟨x, hx, decide_eq_true le_rfl⟩)
  have hpassed := List.find?_some hfind
  exact ⟨y, hfind, le_antisymm (h.find?_le hfind hx (decide_eq_true le_rfl))
    (of_decide_eq_true hpassed)⟩

end Order

end Agenda

end Microcar.Core
