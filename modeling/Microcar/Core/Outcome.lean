import Microcar.Core.Run
import Mathlib.Data.UInt
import Mathlib.Data.List.Basic

/-!
# Outcomes of fallible code

Code that can return early with an error, and that stops the program when it reads behind the
end of a slice or overflows a counter. A triple says of such code that it does not stop, and what
holds if it returns a value; the rules follow the code from one statement to the next.
-/

namespace Microcar.Core

universe u v w

/-- How a call ends. -/
inductive Outcome (ε : Type u) (α : Type v) where
  /-- The call returns a value. -/
  | ok (a : α)
  /-- The call returns an error. -/
  | err (e : ε)
  /-- The program stops. -/
  | panic
  deriving DecidableEq, Repr

namespace Outcome

variable {ε : Type u} {α β : Type v} {σ : Type v} {τ : Type w}

/-- Continue with the returned value. -/
def bind (m : Outcome ε α) (f : α → Outcome ε β) : Outcome ε β :=
  match m with
  | ok a => f a
  | err e => err e
  | panic => panic

instance : Monad (Outcome ε) where
  pure := ok
  bind := bind

instance : LawfulMonad (Outcome ε) := by
  refine LawfulMonad.mk' _ ?_ (fun _ _ => rfl) ?_
  · intro _ m
    cases m <;> rfl
  · intro _ _ _ m f g
    cases m <;> rfl

/-- Return the error if the condition holds. -/
def refuse (c : Prop) [Decidable c] (e : ε) : Outcome ε PUnit := if c then err e else ok ⟨⟩

/-- Read a slice at an index that is taken to be within bounds. -/
def index (l : List α) (i : Nat) : Outcome ε α :=
  match l[i]? with
  | some a => ok a
  | none => panic

/-- Increment a byte that is taken to be below its bound. -/
def increment (b : UInt8) : Outcome ε UInt8 := if b = 255 then panic else ok (b + 1)

/-- The code does not stop the program, and what it returns satisfies the condition. -/
def Returns (P : α → Prop) : Outcome ε α → Prop
  | ok a => P a
  | err _ => True
  | panic => False

section Values

variable {m : Outcome ε α} {f : α → Outcome ε β} {c : Prop} [Decidable c] {e : ε} {l : List α}
  {i : Nat} {a : α} {b : β}

/-- A sequence succeeds when both parts do. -/
theorem bind_eq_ok : m >>= f = ok b ↔ ∃ a, m = ok a ∧ f a = ok b := by
  cases m with
  | ok a =>
    constructor
    · intro h
      exact ⟨a, rfl, h⟩
    · rintro ⟨_, ha, h⟩
      cases ha
      exact h
  | err e =>
    constructor
    · intro h
      exact nomatch h
    · rintro ⟨_, ha, _⟩
      exact nomatch ha
  | panic =>
    constructor
    · intro h
      exact nomatch h
    · rintro ⟨_, ha, _⟩
      exact nomatch ha

/-- A refusal passes where its condition does not hold. -/
theorem refuse_eq_ok {u : PUnit} : refuse c e = ok u ↔ ¬ c := by
  by_cases hc : c
  · simp [refuse, hc]
  · simp [refuse, hc]

/-- Indexing succeeds where there is an entry. -/
theorem index_eq_ok : (index l i : Outcome ε α) = ok a ↔ l[i]? = some a := by
  unfold index
  cases l[i]? with
  | none => simp
  | some x => simp

/-- An increment succeeds below the largest byte. -/
theorem increment_eq_ok {b d : UInt8} :
    (increment b : Outcome ε UInt8) = ok d ↔ b ≠ 255 ∧ d = b + 1 := by
  by_cases hb : b = 255
  · simp [increment, hb]
  · simp [increment, hb, eq_comm]

end Values

section Rules

variable {P : α → Prop} {Q : β → Prop} {m : Outcome ε α} {f : α → Outcome ε β}

/-- What returns does not panic. -/
theorem Returns.ne_panic (h : Returns P m) : m ≠ panic := by
  rintro rfl
  exact h

/-- What is known of the result may be weakened. -/
theorem Returns.mono {P' : α → Prop} (h : Returns P m) (himp : ∀ a, P a → P' a) :
    Returns P' m := by
  cases m with
  | ok a => exact himp a h
  | err e => trivial
  | panic => exact h

/-- What returns under a condition does not stop. -/
theorem Returns.total (h : Returns P m) : Returns (fun _ => True) m := h.mono fun _ _ => trivial

/-- A sequence returns if both parts do. -/
theorem Returns.bind (h : Returns P m) (hf : ∀ a, P a → Returns Q (f a)) :
    Returns Q (m >>= f) := by
  cases m with
  | ok a => exact hf a h
  | err e => trivial
  | panic => exact h

/-- Behind an early return its condition is known to fail. -/
theorem Returns.refuse {c : Prop} [Decidable c] (e : ε) : Returns (fun _ => ¬ c) (refuse c e) := by
  by_cases hc : c
  · simp only [Outcome.refuse, if_pos hc]
    trivial
  · simp only [Outcome.refuse, if_neg hc]
    exact hc

/-- A read within bounds returns the element. -/
theorem Returns.index {l : List α} {i : Nat} (h : i < l.length) :
    Returns (fun a => l[i]? = some a) (index l i : Outcome ε α) := by
  unfold Outcome.index
  rw [List.getElem?_eq_getElem h]
  exact rfl

/-- An increment below the bound returns the next byte. -/
theorem Returns.increment {b : UInt8} (h : b ≠ 255) :
    Returns (fun d => d = b + 1) (increment b : Outcome ε UInt8) := by
  rw [Outcome.increment, if_neg h]
  exact rfl

/-- A loop over a list does not stop if no iteration does. -/
theorem Returns.foldlM {step : σ → τ → Outcome ε σ} {l : List τ}
    (hstep : ∀ s, ∀ a ∈ l, Returns (fun _ => True) (step s a)) (s : σ) :
    Returns (fun _ => True) (l.foldlM step s) := by
  induction l generalizing s with
  | nil => trivial
  | cons a l ih =>
    rw [List.foldlM_cons]
    refine (hstep s a List.mem_cons_self).bind fun t _ => ?_
    exact ih (fun s b hb => hstep s b (List.mem_cons_of_mem a hb)) t

/-- A loop that only checks its elements does not stop if no check does. -/
theorem Returns.forM {check : τ → Outcome ε PUnit} {l : List τ}
    (hcheck : ∀ a ∈ l, Returns (fun _ => True) (check a)) :
    Returns (fun _ => True) (l.forM check) := by
  induction l with
  | nil => trivial
  | cons a l ih =>
    change Returns _ (check a >>= fun _ => l.forM check)
    refine (hcheck a List.mem_cons_self).bind fun _ _ => ?_
    exact ih fun b hb => hcheck b (List.mem_cons_of_mem a hb)

end Rules

section Loops

variable {l : List τ}

/-- A loop that only checks its elements passes when every check does. -/
theorem forM_eq_ok {check : τ → Outcome ε PUnit} :
    l.forM check = ok ⟨⟩ ↔ ∀ a ∈ l, check a = ok ⟨⟩ := by
  induction l with
  | nil => exact iff_of_true rfl (List.forall_mem_nil _)
  | cons a l ih =>
    rw [List.forall_mem_cons, ← ih]
    refine bind_eq_ok.trans ⟨?_, fun h => ⟨⟨⟩, h⟩⟩
    rintro ⟨_, h⟩
    exact h

/-- A loop whose state is a trail of the elements behind it passes when every element meets its
demand on those before it. -/
theorem exists_foldlM_eq_ok_iff {step : σ → τ → Outcome ε σ} {R : List τ → σ → Prop}
    {G : List τ → τ → Prop} {s : σ} (hinit : R [] s)
    (hstep : ∀ before t, ∀ a ∈ l, R before t → ((∃ t', step t a = ok t') ↔ G before a))
    (hkeep : ∀ before t t', ∀ a ∈ l, R before t → step t a = ok t' → R (before ++ [a]) t') :
    (∃ t, l.foldlM step s = ok t) ↔
      ∀ before a after, l = before ++ a :: after → G before a := by
  -- the trail of the state behind every part of the list is kept along the induction
  suffices h : (∀ t, l.foldlM step s = ok t → R l t) ∧ ((∃ t, l.foldlM step s = ok t) ↔
      ∀ before a after, l = before ++ a :: after → G before a) from h.2
  induction l using List.reverseRecOn with
  | nil =>
    refine ⟨?_, iff_of_true ⟨s, rfl⟩ (by simp)⟩
    rintro t ht
    rw [← ok.inj ht]
    exact hinit
  | append_singleton l a ih =>
    have hmem : ∀ b ∈ l, b ∈ l ++ [a] := fun b hb => List.mem_append_left _ hb
    have hlast : a ∈ l ++ [a] := List.mem_append_right _ List.mem_cons_self
    obtain ⟨htrail, hpass⟩ := ih (fun before t b hb => hstep before t b (hmem b hb))
      fun before t t' b hb => hkeep before t t' b (hmem b hb)
    have hsplit (t' : σ) : (l ++ [a]).foldlM step s = ok t' ↔
        ∃ t, l.foldlM step s = ok t ∧ step t a = ok t' := by
      rw [List.foldlM_append, bind_eq_ok]
      simp only [List.foldlM_cons, List.foldlM_nil, bind_pure]
    refine ⟨fun t' h => ?_, ?_⟩
    · obtain ⟨t, ht, hnext⟩ := (hsplit t').mp h
      exact hkeep l t t' a hlast (htrail t ht) hnext
    · rw [forall_cut_snoc_iff, ← hpass]
      constructor
      · rintro ⟨t', h⟩
        obtain ⟨t, ht, hnext⟩ := (hsplit t').mp h
        exact ⟨⟨t, ht⟩, (hstep l t a hlast (htrail t ht)).mp ⟨t', hnext⟩⟩
      · rintro ⟨⟨t, ht⟩, hdemand⟩
        obtain ⟨t', hnext⟩ := (hstep l t a hlast (htrail t ht)).mpr hdemand
        exact ⟨t', (hsplit t').mpr ⟨t, ht, hnext⟩⟩

end Loops

end Outcome

end Microcar.Core
