import Mathlib.Data.List.Basic

/-!
# First-in first-out links

A link carries items from its writers to one reader. Published items queue in flight
and are delivered to the reader's inbox one at a time, in publication order and after
any delay. The reader takes the oldest item of its inbox or drains it whole. Facts about
single items are kept by every operation. Where items of different kinds may overtake each other
in flight, the order within a kind is kept, and no item of a kind is lost or doubled.
-/

namespace Microcar.Core

universe u v

/-- Items in flight towards a reader, and items delivered to it but not yet read. -/
structure Link (α : Type u) (β : Type v) where
  /-- Published and not yet delivered, oldest first. -/
  inFlight : List α
  /-- Delivered and not yet read, oldest first. -/
  inbox : List β

/-- Queue items behind those in flight. -/
def Link.publish {α : Type u} {β : Type v} (l : Link α β) (items : List α) : Link α β :=
  { l with inFlight := l.inFlight ++ items }

/-- Deliver the oldest item in flight, as the reader receives it. -/
def Link.deliver {α : Type u} {β : Type v} (l : Link α β) (receive : α → β) : Link α β :=
  match l.inFlight with
  | [] => l
  | a :: rest => { inFlight := rest, inbox := l.inbox ++ [receive a] }

/-- Remove the oldest delivered item. -/
def Link.pop {α : Type u} {β : Type v} (l : Link α β) : Link α β :=
  { l with inbox := l.inbox.tail }

/-- Empty the inbox. -/
def Link.drain {α : Type u} {β : Type v} (l : Link α β) : Link α β := { l with inbox := [] }

/-- Every item in flight and every delivered item has its property. -/
structure Link.All {α : Type u} {β : Type v} (P : α → Prop) (Q : β → Prop) (l : Link α β) :
    Prop where
  /-- Items in flight. -/
  inFlight : ∀ a ∈ l.inFlight, P a
  /-- Delivered items. -/
  inbox : ∀ b ∈ l.inbox, Q b

/-- Published items keep the invariant if they meet it. -/
theorem Link.All.publish {α : Type u} {β : Type v} {P : α → Prop} {Q : β → Prop} {l : Link α β}
    (h : l.All P Q) {items : List α} (hitems : ∀ a ∈ items, P a) : (l.publish items).All P Q := by
  refine ⟨?_, h.inbox⟩
  intro a ha
  rcases List.mem_append.mp ha with ha | ha
  · exact h.inFlight a ha
  · exact hitems a ha

/-- A delivery keeps the invariant if reception carries it over. -/
theorem Link.All.deliver {α : Type u} {β : Type v} {P : α → Prop} {Q : β → Prop} {l : Link α β}
    (h : l.All P Q) {receive : α → β} (hreceive : ∀ a, P a → Q (receive a)) :
    (l.deliver receive).All P Q := by
  obtain ⟨hflight, hinbox⟩ := h
  unfold Link.deliver
  split
  · exact ⟨hflight, hinbox⟩
  · rename_i a rest hcons
    rw [hcons] at hflight
    refine ⟨fun b hb => hflight b (List.mem_cons_of_mem a hb), ?_⟩
    intro b hb
    rcases List.mem_append.mp hb with hb | hb
    · exact hinbox b hb
    · rw [List.mem_singleton.mp hb]
      exact hreceive a (hflight a List.mem_cons_self)

/-- Taking the oldest item keeps it. -/
theorem Link.All.pop {α : Type u} {β : Type v} {P : α → Prop} {Q : β → Prop} {l : Link α β}
    (h : l.All P Q) : l.pop.All P Q :=
  ⟨h.inFlight, fun b hb => h.inbox b (List.mem_of_mem_tail hb)⟩

/-- So does taking all of them. -/
theorem Link.All.drain {α : Type u} {β : Type v} {P : α → Prop} {Q : β → Prop} {l : Link α β}
    (h : l.All P Q) : l.drain.All P Q := ⟨h.inFlight, by simp [Link.drain]⟩

/-! ### Overtaking -/

section Overtaking

universe w x

variable {α : Type u} {β : Type v} {κ : Type w} {γ : Type x} [DecidableEq κ] {kind : α → κ}
  {receive : α → β} {sent : α → Option γ} {read : β → Option γ} {l : Link α β}

/-- Deliver the `i`-th item in flight, unless an older one of its kind is still in flight. -/
def Link.deliverAt (kind : α → κ) (receive : α → β) (i : Nat) (l : Link α β) : Link α β :=
  match l.inFlight[i]? with
  | none => l
  | some a =>
    if (l.inFlight.take i).all fun b => kind b ≠ kind a then
      { inFlight := l.inFlight.eraseIdx i, inbox := l.inbox ++ [receive a] }
    else l

/-- The messages on a link that have a meaning to its reader, oldest first. -/
def Link.pending (sent : α → Option γ) (read : β → Option γ) (l : Link α β) : List γ :=
  l.inbox.filterMap read ++ l.inFlight.filterMap sent

/-- Meaningful items are read as they were sent, and are of one kind. -/
structure Faithful (kind : α → κ) (receive : α → β) (sent : α → Option γ) (read : β → Option γ) :
    Prop where
  read : ∀ a, read (receive a) = sent a
  kind : ∀ a b, sent a ≠ none → sent b ≠ none → kind a = kind b

/-- Published items are pending behind all the others. -/
theorem Link.pending_publish (l : Link α β) (items : List α) :
    (l.publish items).pending sent read = l.pending sent read ++ items.filterMap sent := by
  rw [pending, pending, publish, List.filterMap_append, List.append_assoc]

/-- A delivery neither loses nor doubles a message, and keeps their order. -/
theorem Faithful.pending_deliverAt (h : Faithful kind receive sent read) (i : Nat) (l : Link α β) :
    (l.deliverAt kind receive i).pending sent read = l.pending sent read := by
  unfold Link.deliverAt
  split
  case h_1 => rfl
  case h_2 a hitem =>
    split
    case isFalse => rfl
    case isTrue holder =>
      obtain ⟨hi, rfl⟩ := List.getElem?_eq_some_iff.mp hitem
      have hsplit : l.inFlight =
          l.inFlight.take i ++ l.inFlight[i] :: l.inFlight.drop (i + 1) := by
        rw [← List.drop_eq_getElem_cons hi, List.take_append_drop]
      have hpast : (sent l.inFlight[i]).toList ++ (l.inFlight.take i).filterMap sent =
          (l.inFlight.take i).filterMap sent ++ (sent l.inFlight[i]).toList := by
        by_cases hmeaning : sent l.inFlight[i] = none
        · rw [hmeaning, Option.toList_none, List.nil_append, List.append_nil]
        · have hnone : (l.inFlight.take i).filterMap sent = [] := by
            rw [List.filterMap_eq_nil_iff]
            intro b hb
            by_contra hmeaning'
            have hother := of_decide_eq_true (List.all_eq_true.mp holder b hb)
            exact hother (h.kind b _ hmeaning' hmeaning)
          rw [hnone, List.nil_append, List.append_nil]
      have hflight : l.inFlight.filterMap sent =
          (sent l.inFlight[i]).toList ++ (l.inFlight.eraseIdx i).filterMap sent := by
        rw [List.eraseIdx_eq_take_drop_succ, List.filterMap_append, ← List.append_assoc, hpast,
          List.append_assoc]
        conv_lhs => rw [hsplit, List.filterMap_append, List.filterMap_cons]
        cases sent l.inFlight[i] <;> rfl
      rw [Link.pending, Link.pending, hflight, List.filterMap_append, List.append_assoc]
      dsimp only
      rw [List.filterMap_cons, h.read]
      cases sent l.inFlight[i] <;> rfl

/-- The oldest delivered message comes before the others. -/
theorem Link.pending_pop (l : Link α β) :
    l.pending sent read = (l.inbox.head?.bind read).toList ++ l.pop.pending sent read := by
  obtain ⟨inFlight, inbox⟩ := l
  cases inbox with
  | nil => rfl
  | cons b rest =>
    rw [pending, pending, pop]
    dsimp only
    rw [List.filterMap_cons, List.head?_cons, Option.bind_some, List.tail_cons]
    cases read b <;> rfl

end Overtaking

/-! ### Several senders -/

section Senders

variable {ι : Type u} {β : Type v} [DecidableEq ι]

/-- The items of one sender among those of all, in order. -/
def itemsOf (traffic : List (ι × β)) (i : ι) : List β :=
  (traffic.filter fun item => item.1 = i).map Prod.snd

/-- The items of one sender are its items in the traffic. -/
theorem mem_itemsOf {traffic : List (ι × β)} {i : ι} {b : β} :
    b ∈ itemsOf traffic i ↔ (i, b) ∈ traffic := by
  simp [itemsOf]

/-- Items that tell their senders can be sorted by sender without the senders' marks. -/
theorem filter_sender {traffic : List (ι × β)} {sender : β → Option ι}
    (hsender : ∀ item ∈ traffic, sender item.2 = some item.1) (i : ι) :
    (traffic.map Prod.snd).filter (fun b => sender b = some i) = itemsOf traffic i := by
  rw [itemsOf, List.filter_map]
  congr 1
  apply List.filter_congr
  intro item hitem
  simp only [Function.comp_apply, hsender item hitem, Option.some_inj]

end Senders

end Microcar.Core
