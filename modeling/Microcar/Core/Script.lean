import Mathlib.Data.List.Basic
import Mathlib.Data.List.Pairwise

/-!
# Scripts of one-shot actions

A script lists actions, each with the time from which it is due and a flag of its own. It is played
once in every period. An action is taken when the clock has reached its time, and its flag is then
recorded in a mask that keeps it from being taken again. The clock is a machine word and may wrap;
the flags and the clock together still implement a plain schedule, in which an action is taken in
the one period that its time falls into.
-/

namespace Microcar.Core

universe u v

section Play

variable {α : Type u} {σ : Type v} (due flag : α → UInt32) (act : α → σ → σ)

/-- Take an action whose time has come, unless its flag is recorded. -/
def takeDue (ms : UInt32) (s : σ × UInt32) (a : α) : σ × UInt32 :=
  if due a ≤ ms ∧ s.2 &&& flag a = 0 then (act a s.1, s.2 ||| flag a) else s

/-- One period of a script. -/
def playScript (ms : UInt32) (script : List α) (s : σ × UInt32) : σ × UInt32 :=
  script.foldl (takeDue due flag act ms) s

/-- The actions one after the other. -/
def actAll (actions : List α) (s : σ) : σ := actions.foldl (fun s a => act a s) s

/-- The mask behind the actions. -/
def recordAll (actions : List α) (sent : UInt32) : UInt32 :=
  actions.foldl (fun sent a => sent ||| flag a) sent

/-- Every action has a flag of its own. -/
structure OwnFlags (script : List α) : Prop where
  nonzero : ∀ a ∈ script, flag a ≠ 0
  apart : script.Pairwise fun a b => flag a &&& flag b = 0

@[simp] theorem actAll_nil (s : σ) : actAll act [] s = s := rfl

@[simp] theorem actAll_cons (a : α) (actions : List α) (s : σ) :
    actAll act (a :: actions) s = actAll act actions (act a s) := rfl

/-- The actions of two lists are taken in turn. -/
theorem actAll_append (first rest : List α) (s : σ) :
    actAll act (first ++ rest) s = actAll act rest (actAll act first s) := List.foldl_append

variable {due flag act}

/-- What every action keeps, their sequence keeps. -/
theorem actAll_invariant {I : σ → Prop} {actions : List α}
    (hact : ∀ a ∈ actions, ∀ s, I s → I (act a s)) {s : σ} (hs : I s) :
    I (actAll act actions s) := by
  induction actions generalizing s with
  | nil => exact hs
  | cons a actions ih =>
    exact ih (fun b hb => hact b (List.mem_cons_of_mem a hb)) (hact a List.mem_cons_self s hs)

/-- A function that no action depends on comes out of their sequence. -/
theorem actAll_comm {actions : List α} {f : σ → σ}
    (hact : ∀ a ∈ actions, ∀ s, f (act a s) = act a (f s)) (s : σ) :
    f (actAll act actions s) = actAll act actions (f s) := by
  induction actions generalizing s with
  | nil => rfl
  | cons a actions ih =>
    rw [actAll_cons, actAll_cons, ih (fun b hb => hact b (List.mem_cons_of_mem a hb)),
      hact a List.mem_cons_self]

/-- Flags are masked one by one. -/
theorem or_and_distrib (x y z : UInt32) : (x ||| y) &&& z = (x &&& z) ||| (y &&& z) := by
  apply UInt32.toNat_inj.mp
  simp [Nat.and_or_distrib_right]

/-- Recording a flag does not show in a flag apart from it. -/
theorem or_and_of_apart {sent f g : UInt32} (h : f &&& g = 0) :
    (sent ||| f) &&& g = sent &&& g := by
  rw [or_and_distrib, h, UInt32.or_zero]

/-- The flag of an action is recorded if it was before, or if an action was taken that shares a
bit with it. -/
theorem recordAll_and_eq_zero_iff {actions : List α} {sent f : UInt32} :
    recordAll flag actions sent &&& f = 0 ↔
      sent &&& f = 0 ∧ ∀ a ∈ actions, flag a &&& f = 0 := by
  induction actions generalizing sent with
  | nil => simp [recordAll]
  | cons a actions ih =>
    have hsplit : (sent ||| flag a) &&& f = 0 ↔ sent &&& f = 0 ∧ flag a &&& f = 0 := by
      rw [or_and_distrib, UInt32.or_eq_zero_iff]
    have hrest := @ih (sent ||| flag a)
    rw [hsplit, and_assoc] at hrest
    rw [List.forall_mem_cons]
    exact hrest

/-- One period takes the actions that are due and not recorded, in the order of the script. -/
theorem playScript_eq {script : List α} (hflags : OwnFlags flag script) (ms : UInt32) (s : σ)
    (sent : UInt32) :
    playScript due flag act ms script (s, sent) =
      (actAll act (script.filter fun a => due a ≤ ms ∧ sent &&& flag a = 0) s,
        recordAll flag (script.filter fun a => due a ≤ ms ∧ sent &&& flag a = 0) sent) := by
  induction script generalizing s sent with
  | nil => rfl
  | cons a script ih =>
    obtain ⟨hapart, hrest⟩ := List.pairwise_cons.mp hflags.apart
    have hflags' : OwnFlags flag script :=
      ⟨fun b hb => hflags.nonzero b (List.mem_cons_of_mem a hb), hrest⟩
    by_cases htaken : due a ≤ ms ∧ sent &&& flag a = 0
    · have hsame : script.filter (fun b => due b ≤ ms ∧ (sent ||| flag a) &&& flag b = 0) =
          script.filter (fun b => due b ≤ ms ∧ sent &&& flag b = 0) := by
        apply List.filter_congr
        intro b hb
        rw [or_and_of_apart (hapart b hb)]
      have hstep : takeDue due flag act ms (s, sent) a = (act a s, sent ||| flag a) := if_pos htaken
      rw [playScript, List.foldl_cons, hstep, List.filter_cons_of_pos (by simpa using htaken)]
      have hplay := ih hflags' (act a s) (sent ||| flag a)
      rw [hsame] at hplay
      exact hplay
    · have hstep : takeDue due flag act ms (s, sent) a = (s, sent) := if_neg htaken
      rw [playScript, List.foldl_cons, hstep, List.filter_cons_of_neg (by simpa using htaken)]
      exact ih hflags' s sent

end Play

/-! ### Schedules -/

section Schedule

variable {α : Type u} {σ : Type v} {due flag : α → UInt32} {act : α → σ → σ}

/-- The actions whose time falls into the period behind `n` periods of length `d`. -/
def falling (due : α → UInt32) (d n : Nat) (script : List α) : List α :=
  script.filter fun a => d * n < (due a).toNat ∧ (due a).toNat ≤ d * (n + 1)

/-- The actions whose time has come after `n` periods. -/
def dueBy (due : α → UInt32) (d n : Nat) (script : List α) : List α :=
  script.filter fun a => (due a).toNat ≤ d * n

/-- What is due in two scripts in turn. -/
theorem falling_append (d n : Nat) (first rest : List α) :
    falling due d n (first ++ rest) = falling due d n first ++ falling due d n rest :=
  List.filter_append ..

/-- An action is due in the period that its time falls into. -/
theorem mem_falling {d n : Nat} {script : List α} {a : α} :
    a ∈ falling due d n script ↔
      a ∈ script ∧ d * n < (due a).toNat ∧ (due a).toNat ≤ d * (n + 1) := by
  rw [falling, List.mem_filter, decide_eq_true_iff]

/-- The time of an action falls into one period. -/
theorem existsUnique_falling {d : Nat} (hd : 0 < d) {script : List α} {a : α} (ha : a ∈ script)
    (hpos : 0 < (due a).toNat) : ∃! n, a ∈ falling due d n script := by
  obtain ⟨t, ht⟩ : ∃ t, (due a).toNat = t + 1 := ⟨_, (Nat.succ_pred_eq_of_pos hpos).symm⟩
  have hfloor := Nat.div_add_mod t d
  have hrest := Nat.mod_lt t hd
  refine ⟨t / d, mem_falling.mpr ?_, fun n hn => ?_⟩
  · rw [ht, Nat.mul_succ]
    exact ⟨ha, by omega, by omega⟩
  · obtain ⟨-, hopen, hcome⟩ := mem_falling.mp hn
    rw [ht] at hopen hcome
    have hlow : d * n ≤ t := Nat.lt_succ_iff.mp hopen
    have hhigh : t < d * (n + 1) := hcome
    exact (Nat.div_eq_of_lt_le (by rwa [Nat.mul_comm]) (by rwa [Nat.mul_comm])).symm

/-- A script lists its actions in the order of their times. -/
def InOrder (due : α → UInt32) (script : List α) : Prop :=
  script.Pairwise fun a b => due a ≤ due b

/-- The clock and the mask of a script behind `n` periods: the flags recorded are those of the
actions whose time has come. -/
structure Played (due flag : α → UInt32) (d n : Nat) (script : List α) (ms sent : UInt32) :
    Prop where
  ms : ms = UInt32.ofNat (d * n)
  sent : ∀ a ∈ script, sent &&& flag a = 0 ↔ d * n < (due a).toNat

/-- What a script needs of its times: none is zero, and the clock does not wrap in the period that
one falls into. -/
structure Reachable (due : α → UInt32) (d : Nat) (script : List α) : Prop where
  pos : ∀ a ∈ script, 0 < (due a).toNat
  fits : ∀ a ∈ script, (due a).toNat + d ≤ UInt32.size

/-- Before the first period nothing has been played. -/
theorem Played.start {d : Nat} {script : List α} (h : Reachable due d script) :
    Played due flag d 0 script 0 0 where
  ms := by rw [Nat.mul_zero]; rfl
  sent a ha := by simp [h.pos a ha]

/-- Actions with the same times and flags are played alike. -/
theorem Played.congr {d n : Nat} {script script' : List α} {ms sent : UInt32}
    (h : Played due flag d n script ms sent)
    (hsame : script'.map (fun a => (due a, flag a)) = script.map fun a => (due a, flag a)) :
    Played due flag d n script' ms sent := by
  refine ⟨h.ms, fun a ha => ?_⟩
  have hmem : (due a, flag a) ∈ script.map fun a => (due a, flag a) := by
    rw [← hsame]
    exact List.mem_map_of_mem ha
  obtain ⟨b, hb, heq⟩ := List.mem_map.mp hmem
  obtain ⟨hdue, hflag⟩ := Prod.mk.inj heq
  rw [← hdue, ← hflag]
  exact h.sent b hb

/-- A period takes the actions that fall into it. -/
theorem Played.step {d n : Nat} {script : List α} {ms sent : UInt32}
    (h : Played due flag d n script ms sent) (hflags : OwnFlags flag script)
    (htimes : Reachable due d script) (s : σ) :
    playScript due flag act (ms + UInt32.ofNat d) script (s, sent) =
        (actAll act (falling due d n script) s, recordAll flag (falling due d n script) sent) ∧
      Played due flag d (n + 1) script (ms + UInt32.ofNat d)
        (recordAll flag (falling due d n script) sent) := by
  have hclock : ms + UInt32.ofNat d = UInt32.ofNat (d * (n + 1)) := by
    rw [h.ms, ← UInt32.ofNat_add, Nat.mul_succ]
  have hfalling : script.filter
      (fun a => due a ≤ ms + UInt32.ofNat d ∧ sent &&& flag a = 0) = falling due d n script := by
    apply List.filter_congr
    intro a ha
    have hfits : (due a).toNat + d ≤ 2 ^ 32 := htimes.fits a ha
    rw [decide_eq_decide, h.sent a ha, and_comm]
    apply and_congr_right
    intro hopen
    have hsmall : d * (n + 1) < 2 ^ 32 := by
      rw [Nat.mul_succ]
      omega
    rw [hclock, UInt32.le_iff_toNat_le, UInt32.toNat_ofNat', Nat.mod_eq_of_lt hsmall]
  refine ⟨?_, hclock, fun a ha => ?_⟩
  · rw [playScript_eq hflags, hfalling]
  · rw [recordAll_and_eq_zero_iff, h.sent a ha]
    constructor
    · rintro ⟨hopen, hapart⟩
      by_contra hpast
      have hmem : a ∈ falling due d n script :=
        List.mem_filter.mpr ⟨ha, decide_eq_true ⟨hopen, Nat.not_lt.mp hpast⟩⟩
      have hself := hapart a hmem
      rw [UInt32.and_self] at hself
      exact hflags.nonzero a ha hself
    · intro hlater
      have hopen : d * n < (due a).toNat := by
        rw [Nat.mul_succ] at hlater
        omega
      refine ⟨hopen, fun b hb => ?_⟩
      obtain ⟨hbmem, hbdue⟩ := List.mem_filter.mp hb
      have hne : b ≠ a := by
        rintro rfl
        have hbdue := of_decide_eq_true hbdue
        omega
      have hsymm : Std.Symm fun a b => flag a &&& flag b = 0 :=
        ⟨fun a b hab => (UInt32.and_comm _ _).trans hab⟩
      exact hflags.apart.forall hbmem ha hne

/-- The actions due after a period are those due before it and those that fall into it. -/
theorem dueBy_succ {script : List α} (h : InOrder due script) (d n : Nat) :
    dueBy due d (n + 1) script = dueBy due d n script ++ falling due d n script := by
  induction script with
  | nil => rfl
  | cons a script ih =>
    obtain ⟨hfirst, hrest⟩ := List.pairwise_cons.mp h
    have hstep : d * n ≤ d * (n + 1) := Nat.mul_le_mul_left d n.le_succ
    have ih := ih hrest
    unfold dueBy falling at ih ⊢
    by_cases hold : (due a).toNat ≤ d * n
    · rw [List.filter_cons_of_pos (by simpa using Nat.le_trans hold hstep),
        List.filter_cons_of_pos (by simpa using hold), List.filter_cons_of_neg (by simp; omega), ih]
      rfl
    · have hnone : ∀ b ∈ a :: script, ¬ (due b).toNat ≤ d * n := by
        intro b hb
        rcases List.mem_cons.mp hb with rfl | hb
        · exact hold
        · have hle : (due a).toNat ≤ (due b).toNat := UInt32.le_iff_toNat_le.mp (hfirst b hb)
          omega
      have hempty : (a :: script).filter (fun b => (due b).toNat ≤ d * n) = [] := by
        rw [List.filter_eq_nil_iff]
        simpa using hnone
      rw [hempty, List.nil_append]
      apply List.filter_congr
      intro b hb
      simp [Nat.not_le.mp (hnone b hb)]

end Schedule

end Microcar.Core
