import Microcar.Core.Run

/-!
# Timeouts over a wrapping clock

Real time is a natural number and a device reads it modulo `2 ^ 32`. A monitor hears beats
from several sources and is checked from time to time; it keeps the reading of the last beat
of a source and whether the source is online. Readings are compared by their wrapping
difference, which is the elapsed time as long as an online source was seen alive less than
one turn of the clock ago. Checks that are close enough together keep it that way for runs of
any length.
-/

namespace Microcar.Core

universe u

/-- What the wrapping counter of a device shows at a real time. -/
def clockAt (t : Nat) : UInt32 := .ofNat t

/-- Readings less than one turn of the counter apart differ by the elapsed time. -/
theorem toNat_clockAt_sub {t u : Nat} (hle : u ≤ t) (hlt : t - u < 4294967296) :
    (clockAt t - clockAt u).toNat = t - u := by
  have hsize : 2 ^ 32 = 4294967296 := rfl
  rw [UInt32.toNat_sub, clockAt, clockAt, UInt32.toNat_ofNat', UInt32.toNat_ofNat', hsize]
  omega

/-- A call of a monitor at a real time. -/
inductive TimedCall (ι : Type u) where
  /-- A source gives a sign of life. -/
  | beat (source : ι) (time : Nat)
  /-- Timeouts are checked. -/
  | check (time : Nat)
  deriving DecidableEq, Repr

/-- The real time of the latest call and of the latest check; the start counts as a check. -/
structure CallClock where
  /-- Real time of the latest call. -/
  now : Nat
  /-- Real time of the latest check. -/
  lastCheck : Nat

/-- The clock behind a call. -/
def CallClock.advance {ι : Type u} (c : CallClock) : TimedCall ι → CallClock
  | .beat _ time => { c with now := time }
  | .check time => ⟨time, time⟩

/-- The call does not go back in time, and a check comes less than `gap` behind the one
before it. -/
def CallClock.Allows {ι : Type u} (gap : Nat) (c : CallClock) : TimedCall ι → Prop
  | .beat _ time => c.now ≤ time
  | .check time => c.now ≤ time ∧ time - c.lastCheck < gap

/-- The clock behind a sequence of calls from real time zero. -/
def callClock {ι : Type u} (calls : List (TimedCall ι)) : CallClock :=
  run CallClock.advance ⟨0, 0⟩ calls

/-- Calls at non-decreasing real times from zero, with checks less than `gap` apart. -/
def Timely {ι : Type u} (gap : Nat) (calls : List (TimedCall ι)) : Prop :=
  StepsMeet CallClock.advance (CallClock.Allows gap) ⟨0, 0⟩ calls

theorem timely_snoc {ι : Type u} {gap : Nat} {calls : List (TimedCall ι)} {call : TimedCall ι} :
    Timely gap (calls ++ [call]) ↔ Timely gap calls ∧ (callClock calls).Allows gap call := by
  unfold Timely callClock
  rw [stepsMeet_iff, stepsMeet_iff, forall_cut_snoc_iff]

/-- The calls before a cut are timely. -/
theorem Timely.of_append {ι : Type u} {gap : Nat} {before after : List (TimedCall ι)}
    (h : Timely gap (before ++ after)) : Timely gap before := by
  unfold Timely at h ⊢
  rw [stepsMeet_iff] at h ⊢
  rintro first call last rfl
  exact h first call (last ++ after) (by simp)

/-- The latest check is not later than the latest call. -/
theorem callClock_lastCheck_le {ι : Type u} {gap : Nat} {calls : List (TimedCall ι)}
    (h : Timely gap calls) : (callClock calls).lastCheck ≤ (callClock calls).now := by
  refine StepsMeet.run_invariant (I := fun c : CallClock => c.lastCheck ≤ c.now) ?_ h
    (Nat.le_refl 0)
  intro c call hc hallows
  cases call with
  | beat source time => exact Nat.le_trans hc hallows
  | check time => exact Nat.le_refl time

/-- The time of a beat of the source. -/
def TimedCall.beatOf {ι : Type u} [DecidableEq ι] (source : ι) : TimedCall ι → Option Nat
  | .beat other time => if other = source then some time else none
  | .check _ => none

/-- Real time of the last beat of a source. -/
def lastBeat {ι : Type u} [DecidableEq ι] (source : ι) (calls : List (TimedCall ι)) : Option Nat :=
  (calls.filterMap (TimedCall.beatOf source)).getLast?

@[simp] theorem lastBeat_nil {ι : Type u} [DecidableEq ι] (source : ι) :
    lastBeat source [] = none := rfl

theorem lastBeat_snoc {ι : Type u} [DecidableEq ι] (source : ι) (calls : List (TimedCall ι))
    (call : TimedCall ι) :
    lastBeat source (calls ++ [call]) = (call.beatOf source).or (lastBeat source calls) :=
  getLast?_filterMap_snoc _ calls call

/-- What a monitor with the given timeout keeps of a source: its flag and the reading of its
last beat, at a clock and for a real time of the last beat. -/
structure Tracks (timeout : Nat) (c : CallClock) (beat : Option Nat) (isOnline : Bool)
    (last : UInt32) : Prop where
  /-- The last beat is not in the future. -/
  past : ∀ t, beat = some t → t ≤ c.now
  /-- An online source has beaten, and was alive at the latest check if it had beaten by then. -/
  online : isOnline = true →
    ∃ t, beat = some t ∧ last = clockAt t ∧ (c.lastCheck ≤ t ∨ c.lastCheck - t < timeout)
  /-- An offline source has not beaten, or had timed out by the latest check. -/
  offline : isOnline = false → ∀ t, beat = some t → timeout ≤ c.lastCheck - t

/-- Nothing is known of a source that has not beaten. -/
theorem Tracks.silent (timeout : Nat) (c : CallClock) (last : UInt32) :
    Tracks timeout c none false last :=
  ⟨nofun, nofun, fun _ => nofun⟩

/-- A beat is tracked. -/
theorem Tracks.beat {time : Nat} {c : CallClock} (hclock : c.lastCheck ≤ c.now)
    (htime : c.now ≤ time) (timeout : Nat) :
    Tracks timeout { c with now := time } (some time) true (clockAt time) where
  past _ ht := Nat.le_of_eq (Option.some.inj ht).symm
  online _ := ⟨time, rfl, rfl, .inl (Nat.le_trans hclock htime)⟩
  offline h := nomatch h

/-- The beat of another source changes nothing. -/
theorem Tracks.later {timeout time : Nat} {c : CallClock} {beat : Option Nat} {online : Bool}
    {last : UInt32} (h : Tracks timeout c beat online last) (htime : c.now ≤ time) :
    Tracks timeout { c with now := time } beat online last where
  past t ht := Nat.le_trans (h.past t ht) htime
  online := h.online
  offline := h.offline

/-- A source is alive at a real time. -/
def Alive (timeout time : Nat) (beat : Option Nat) : Prop := ∃ t, beat = some t ∧ time - t < timeout

/-- At a check that is allowed, the wrapping difference tells whether an online source is
alive. -/
theorem Tracks.elapsed_iff {timeout : UInt32} {gap time : Nat} {c : CallClock}
    {beat : Option Nat} {last : UInt32} (h : Tracks timeout.toNat c beat true last)
    (hgap : gap + timeout.toNat ≤ 4294967296) (htime : c.now ≤ time)
    (hnear : time - c.lastCheck < gap) :
    timeout ≤ clockAt time - last ↔ ¬ Alive timeout.toNat time beat := by
  obtain ⟨t, rfl, rfl, hseen⟩ := h.online rfl
  have hpast := h.past t rfl
  have helapsed : (clockAt time - clockAt t).toNat = time - t :=
    toNat_clockAt_sub (by omega) (by omega)
  rw [UInt32.le_iff_toNat_le, helapsed, Alive]
  simp only [Option.some.injEq, exists_eq_left', Nat.not_lt]

/-- Behind a check that is allowed, a source is online exactly when it is alive. -/
theorem Tracks.check_iff {timeout : UInt32} {gap time : Nat} {c : CallClock} {beat : Option Nat}
    {online : Bool} {last : UInt32} (h : Tracks timeout.toNat c beat online last)
    (hgap : gap + timeout.toNat ≤ 4294967296) (htime : c.now ≤ time)
    (hnear : time - c.lastCheck < gap) (hclock : c.lastCheck ≤ c.now) :
    online = true ∧ ¬ timeout ≤ clockAt time - last ↔ Alive timeout.toNat time beat := by
  cases online with
  | true =>
    rw [h.elapsed_iff hgap htime hnear, Classical.not_not]
    exact and_iff_right rfl
  | false =>
    -- an offline source had timed out by the latest check and has only grown older
    refine iff_of_false (fun hon => nomatch hon.1) ?_
    rintro ⟨t, rfl, halive⟩
    have hold := h.offline rfl t rfl
    omega

/-- A check that is allowed keeps track of the source. -/
theorem Tracks.check {timeout : UInt32} {gap time : Nat} {c : CallClock} {beat : Option Nat}
    {online online' : Bool} {last : UInt32} (h : Tracks timeout.toNat c beat online last)
    (hgap : gap + timeout.toNat ≤ 4294967296) (htime : c.now ≤ time)
    (hnear : time - c.lastCheck < gap) (hclock : c.lastCheck ≤ c.now)
    (honline : online' = true ↔ online = true ∧ ¬ timeout ≤ clockAt time - last) :
    Tracks timeout.toNat ⟨time, time⟩ beat online' last := by
  rw [h.check_iff hgap htime hnear hclock] at honline
  refine ⟨fun t ht => Nat.le_trans (h.past t ht) htime, ?_, ?_⟩
  · intro hon
    obtain ⟨t, hbeat, halive⟩ := honline.mp hon
    cases online with
    | true =>
      obtain ⟨t', hbeat', hlast, -⟩ := h.online rfl
      obtain rfl : t' = t := Option.some.inj (hbeat'.symm.trans hbeat)
      exact ⟨t', hbeat, hlast, .inr halive⟩
    | false =>
      have hold := h.offline rfl t hbeat
      omega
  · intro hoff t hbeat
    by_contra hlt
    have hon := honline.mpr ⟨t, hbeat, Nat.lt_of_not_le hlt⟩
    rw [hoff] at hon
    exact nomatch hon

end Microcar.Core
