import Mathlib.Data.List.Chain
import Microcar.Core.Keyed
import Microcar.Core.Numerals
import Microcar.Dogfood.Normalize

/-!
# The clock invariant

`VirtualTimeMonotonic` reads the trace once and keeps, for every machine, the first time of the
current segment and the last time seen. The check is exact for a statement about each machine's
times alone, so the interleaving of the machines does not matter.
-/

namespace Microcar.Dogfood

open Microcar.Core

/-- Outcome of a single invariant check. -/
inductive CheckStatus where
  | pass
  | fail
  | skipped
  deriving DecidableEq, Repr

/-- Result of evaluating one invariant against one run. -/
structure InvariantResult where
  name : String
  status : CheckStatus
  message : String

/-- `str::parse::<u64>`: an optional plus sign and at least one digit, within 64 bits. -/
def parseU64 (text : List Char) : Option Nat :=
  let digits := if text.head? = some '+' then text.tail else text
  if digits.isEmpty then none else (numeral 10 0 digits).filter (· < 2 ^ 64)

/-- The `[machine.N]` prefix and the virtual time, the second token. -/
def parseMachineTime (line : String) : Option (String × Nat) :=
  let trimmed := line.toList.dropWhile isWhitespace
  if ['[', 'm', 'a', 'c', 'h', 'i', 'n', 'e', '.'].isPrefixOf trimmed then
    match words isWhitespace trimmed with
    | machine :: time :: _ => (parseU64 time).map fun time => (String.ofList machine, time)
    | _ => none
  else none

/-- The pair kept for a machine: `(segment_start, last_seen)`. -/
structure Segment where
  segStart : Nat
  last : Nat
  deriving DecidableEq, Repr

/-- The variables of the loop of `check`. -/
structure ClockState where
  state : List (String × Segment) := []
  checked : Nat := 0
  segments : Nat := 0

namespace VirtualTimeMonotonic

/-- The name under which the invariant reports. -/
def name : String := "VirtualTimeMonotonic"

/-- The result of a backwards step. -/
def wentBackward (machine : String) (seg : Segment) (time : Nat) (line : String) :
    InvariantResult :=
  let segStart := seg.segStart
  let last := seg.last
  { name
    status := .fail
    message := s!"virtual time went backward for {machine} within a segment " ++
      s!"(seg_start={segStart}): {last} -> {time} in line: {line}" }

/-- One turn of the loop, with the early return. -/
def step (s : ClockState) (line : String) : Except InvariantResult ClockState :=
  match parseMachineTime line with
  | none => .ok s
  | some (machine, time) =>
    match s.state.lookup machine with
    | none =>
      .ok { state := assign machine ⟨time, time⟩ s.state, checked := s.checked + 1,
            segments := s.segments + 1 }
    | some seg =>
      if seg.last ≤ time then
        .ok { s with state := assign machine { seg with last := time } s.state,
                     checked := s.checked + 1 }
      else if time ≤ seg.segStart then
        .ok { state := assign machine ⟨time, time⟩ s.state, checked := s.checked + 1,
              segments := s.segments + 1 }
      else .error (wentBackward machine seg time line)

/-- The invariant on a trace: the times of its lines never go back. -/
def check (trace : List String) : InvariantResult :=
  match trace.foldlM step {} with
  | .error result => result
  | .ok s =>
    if s.checked = 0 then
      { name, status := .skipped,
        message := "no parseable '[machine.N] <time> ...' lines in trace" }
    else
      let checked := s.checked
      let machines := s.state.length
      let segments := s.segments
      { name
        status := .pass
        message := s!"{checked} timed lines across {machines} machine(s) / {segments} " ++
          "segment(s), non-decreasing within every segment" }

end VirtualTimeMonotonic

/-! ### Segmented times -/

/-- The times of a machine, in order. -/
def timesOf (machine : String) (trace : List String) : List Nat :=
  project machine (trace.filterMap parseMachineTime)

/-- The later segment starts strictly below the last time of the earlier one, and at or below
its start. -/
def FollowsBelow (earlier later : List Nat) : Prop :=
  ∃ start ∈ earlier.head?, ∃ last ∈ earlier.getLast?, ∃ first ∈ later.head?,
    first < last ∧ first ≤ start

/-- A segment: some times, none below the one before it. -/
def IsSegment (times : List Nat) : Prop := times ≠ [] ∧ times.IsChain (· ≤ ·)

/-- The times split into consecutive segments, each below the one before it. -/
def Segmented (times : List Nat) : Prop :=
  ∃ segments : List (List Nat), times = segments.flatten ∧
    (∀ segment ∈ segments, IsSegment segment) ∧ segments.IsChain FollowsBelow

/-- What the check does with a time of a machine that it keeps this for. -/
def nextSegment : Option Segment → Nat → Option (Option Segment)
  | none, time => some (some ⟨time, time⟩)
  | some seg, time =>
    if seg.last ≤ time then some (some { seg with last := time })
    else if time ≤ seg.segStart then some (some ⟨time, time⟩)
    else none

/-- The rest of the times continues the current segment and splits behind it. -/
def SegmentedFrom (current times : List Nat) : Prop :=
  ∃ rest segments, times = rest ++ segments.flatten ∧ (current ++ rest).IsChain (· ≤ ·) ∧
    (∀ segment ∈ segments, IsSegment segment) ∧
    ((current ++ rest) :: segments).IsChain FollowsBelow

/-- The current segment, with the pair that the check keeps of it. -/
def Current (seg : Segment) (current : List Nat) : Prop :=
  current.IsChain (· ≤ ·) ∧ current.head? = some seg.segStart ∧ current.getLast? = some seg.last

/-- A segment has a time. -/
theorem Current.ne_nil {seg : Segment} {current : List Nat} (h : Current seg current) :
    current ≠ [] := by
  rintro rfl
  simp [Current] at h

/-- One time is a segment. -/
theorem current_singleton (time : Nat) : Current ⟨time, time⟩ [time] := by
  simp [Current]

/-- A time that is not earlier continues the segment. -/
theorem Current.snoc {seg : Segment} {current : List Nat} (h : Current seg current) {time : Nat}
    (hle : seg.last ≤ time) : Current { seg with last := time } (current ++ [time]) := by
  obtain ⟨hchain, hhead, hlast⟩ := h
  refine ⟨List.isChain_append.mpr ⟨hchain, by simp, ?_⟩, ?_, by simp⟩
  · intro last hmem first hfirst
    rw [hlast, Option.mem_some_iff] at hmem
    rw [List.head?_cons, Option.mem_some_iff] at hfirst
    omega
  · rw [List.head?_append, hhead]
    rfl

/-- Behind the last time nothing is left to split. -/
theorem segmentedFrom_nil {seg : Segment} {current : List Nat} (h : Current seg current) :
    SegmentedFrom current [] := by
  refine ⟨[], [], rfl, ?_, by simp, by simp⟩
  rw [List.append_nil]
  exact h.1

/-- The next time either continues the current segment or starts one below it. -/
theorem segmentedFrom_cons {seg : Segment} {current : List Nat} (h : Current seg current)
    (time : Nat) (times : List Nat) :
    SegmentedFrom current (time :: times) ↔
      (seg.last ≤ time ∧ SegmentedFrom (current ++ [time]) times) ∨
        (time < seg.last ∧ time ≤ seg.segStart ∧ SegmentedFrom [time] times) := by
  obtain ⟨hcurrent, hhead, hlast⟩ := h
  constructor
  · rintro ⟨_ | ⟨first, rest⟩, segments, heq, hchain, hsegments, hfollows⟩
    · rcases segments with _ | ⟨segment, segments⟩
      · simp at heq
      · -- the next segment is not empty, so it begins with this time
        rcases segment with _ | ⟨first, segment⟩
        · exact absurd rfl (hsegments [] (by simp)).1
        · obtain ⟨rfl, htimes⟩ := List.cons.inj heq
          rw [List.append_nil, List.isChain_cons_cons] at hfollows
          obtain ⟨⟨start, hstart, last, hmem, first, hfirst, hlt, hle⟩, hrest⟩ := hfollows
          rw [hhead, Option.mem_some_iff] at hstart
          rw [hlast, Option.mem_some_iff] at hmem
          rw [List.head?_cons, Option.mem_some_iff] at hfirst
          subst hstart hmem hfirst
          exact .inr ⟨hlt, hle, segment, segments, htimes,
            (hsegments (time :: segment) (by simp)).2,
            fun s hs => hsegments s (by simp [hs]), hrest⟩
    · obtain ⟨rfl, htimes⟩ := List.cons.inj heq
      refine .inl ⟨?_, rest, segments, htimes, by simpa using hchain, hsegments,
        by simpa using hfollows⟩
      exact (List.isChain_append.mp hchain).2.2 seg.last (by simp [hlast]) time (by simp)
  · rintro (⟨-, rest, segments, rfl, hchain, hsegments, hfollows⟩ |
      ⟨hlt, hle, rest, segments, rfl, hchain, hsegments, hfollows⟩)
    · exact ⟨time :: rest, segments, rfl, by simpa using hchain, hsegments, by simpa using hfollows⟩
    · refine ⟨[], ([time] ++ rest) :: segments, rfl, by simpa using hcurrent, ?_, ?_⟩
      · intro segment hmem
        rcases List.mem_cons.mp hmem with rfl | hmem
        · exact ⟨by simp, hchain⟩
        · exact hsegments segment hmem
      · rw [List.append_nil, List.isChain_cons_cons]
        exact ⟨⟨seg.segStart, hhead, seg.last, hlast, time, rfl, hlt, hle⟩, hfollows⟩

/-- The check follows the segments of one machine. -/
theorem segmentedFrom_iff {seg : Segment} {current : List Nat} (h : Current seg current)
    (times : List Nat) :
    SegmentedFrom current times ↔ (times.foldlM nextSegment (some seg)).isSome := by
  induction times generalizing seg current with
  | nil => simpa using segmentedFrom_nil h
  | cons time times ih =>
    rw [segmentedFrom_cons h, List.foldlM_cons]
    by_cases hle : seg.last ≤ time
    · have hnext : nextSegment (some seg) time = some (some { seg with last := time }) := by
        rw [nextSegment, if_pos hle]
      rw [hnext, ih (h.snoc hle)]
      constructor
      · rintro (⟨-, hrest⟩ | ⟨hlt, -⟩)
        · exact hrest
        · omega
      · exact fun hrest => .inl ⟨hle, hrest⟩
    · by_cases hreset : time ≤ seg.segStart
      · have hnext : nextSegment (some seg) time = some (some ⟨time, time⟩) := by
          rw [nextSegment, if_neg hle, if_pos hreset]
        rw [hnext, ih (current_singleton time)]
        constructor
        · rintro (⟨hge, -⟩ | ⟨-, -, hrest⟩)
          · omega
          · exact hrest
        · exact fun hrest => .inr ⟨by omega, hreset, hrest⟩
      · have hnext : nextSegment (some seg) time = none := by
          rw [nextSegment, if_neg hle, if_neg hreset]
        rw [hnext]
        constructor
        · rintro (⟨hge, -⟩ | ⟨-, hlow, -⟩)
          · omega
          · omega
        · intro hnone
          exact absurd hnone Bool.false_ne_true

/-- The times of one machine split into segments exactly when the check accepts them. -/
theorem segmented_iff (times : List Nat) :
    Segmented times ↔ (times.foldlM nextSegment none).isSome := by
  rcases times with _ | ⟨time, times⟩
  · exact ⟨fun _ => rfl, fun _ => ⟨[], rfl, by simp, by simp⟩⟩
  · rw [List.foldlM_cons]
    change _ ↔ (times.foldlM nextSegment (some ⟨time, time⟩)).isSome
    rw [← segmentedFrom_iff (current_singleton time)]
    constructor
    · rintro ⟨segments, heq, hsegments, hfollows⟩
      rcases segments with _ | ⟨_ | ⟨first, rest⟩, segments⟩
      · simp at heq
      · exact absurd rfl (hsegments [] (by simp)).1
      · obtain ⟨rfl, htimes⟩ := List.cons.inj heq
        exact ⟨rest, segments, htimes, (hsegments (time :: rest) (by simp)).2,
          fun s hs => hsegments s (by simp [hs]), hfollows⟩
    · rintro ⟨rest, segments, rfl, hchain, hsegments, hfollows⟩
      refine ⟨([time] ++ rest) :: segments, rfl, ?_, hfollows⟩
      intro segment hmem
      rcases List.mem_cons.mp hmem with rfl | hmem
      · exact ⟨by simp, hchain⟩
      · exact hsegments segment hmem

/-! ### The check -/

namespace VirtualTimeMonotonic

/-- What one turn does to a parsed line, in terms of the pair kept for its machine. -/
theorem step_parsed {line machine : String} {time : Nat}
    (hparse : parseMachineTime line = some (machine, time)) (s : ClockState) :
    (∃ next s', nextSegment (s.state.lookup machine) time = some next ∧ step s line = .ok s' ∧
        (fun m => s'.state.lookup m) = Function.update (fun m => s.state.lookup m) machine next ∧
        s'.checked = s.checked + 1) ∨
      (nextSegment (s.state.lookup machine) time = none ∧
        ∃ result, step s line = .error result ∧ result.status = .fail) := by
  rcases hlookup : s.state.lookup machine with _ | seg
  · have hstep : step s line = .ok ⟨assign machine ⟨time, time⟩ s.state, s.checked + 1,
        s.segments + 1⟩ := by
      simp only [step, hparse, hlookup]
    exact .inl ⟨some ⟨time, time⟩, _, rfl, hstep, lookup_assign machine _ s.state, rfl⟩
  · by_cases hle : seg.last ≤ time
    · have hstep : step s line = .ok ⟨assign machine { seg with last := time } s.state,
          s.checked + 1, s.segments⟩ := by
        simp only [step, hparse, hlookup, if_pos hle]
      exact .inl ⟨some { seg with last := time }, _, by rw [nextSegment, if_pos hle], hstep,
        lookup_assign machine _ s.state, rfl⟩
    · by_cases hreset : time ≤ seg.segStart
      · have hstep : step s line = .ok ⟨assign machine ⟨time, time⟩ s.state, s.checked + 1,
            s.segments + 1⟩ := by
          simp only [step, hparse, hlookup, if_neg hle, if_pos hreset]
        exact .inl ⟨some ⟨time, time⟩, _, by rw [nextSegment, if_neg hle, if_pos hreset], hstep,
          lookup_assign machine _ s.state, rfl⟩
      · have hstep : step s line = .error (wentBackward machine seg time line) := by
          simp only [step, hparse, hlookup, if_neg hle, if_neg hreset]
        exact .inr ⟨by rw [nextSegment, if_neg hle, if_neg hreset], _, hstep, rfl⟩

/-- The loop is the keyed monitor over the parsed lines. -/
theorem foldlM_step (trace : List String) (s : ClockState) :
    (∃ s', trace.foldlM step s = .ok s' ∧
        ((trace.filterMap parseMachineTime).foldlM (keyedStep nextSegment)
          fun m => s.state.lookup m).isSome ∧
        s'.checked = s.checked + (trace.filterMap parseMachineTime).length) ∨
      ((∃ result, trace.foldlM step s = .error result ∧ result.status = .fail) ∧
        ¬ ((trace.filterMap parseMachineTime).foldlM (keyedStep nextSegment)
          fun m => s.state.lookup m).isSome ∧
        trace.filterMap parseMachineTime ≠ []) := by
  induction trace generalizing s with
  | nil => exact .inl ⟨s, rfl, rfl, rfl⟩
  | cons line trace ih =>
    rcases hparse : parseMachineTime line with _ | ⟨machine, time⟩
    · have hstep : step s line = .ok s := by simp only [step, hparse]
      rw [List.foldlM_cons, hstep, List.filterMap_cons_none hparse]
      exact ih s
    · rw [List.foldlM_cons, List.filterMap_cons_some hparse, List.foldlM_cons]
      rcases step_parsed hparse s with ⟨next, s', hnext, hstep, hlookup, hchecked⟩ |
        ⟨hnext, result, hstep, hfail⟩
      · have hkeyed : keyedStep nextSegment (fun m => s.state.lookup m) (machine, time) =
            some fun m => s'.state.lookup m := by
          rw [keyedStep, hnext, hlookup]
          rfl
        rw [hstep, hkeyed]
        rcases ih s' with ⟨s'', hrun, hsome, hcount⟩ | ⟨hrun, hnone, -⟩
        · refine .inl ⟨s'', hrun, hsome, ?_⟩
          rw [hcount, hchecked, List.length_cons]
          omega
        · exact .inr ⟨hrun, hnone, List.cons_ne_nil _ _⟩
      · have hkeyed : keyedStep nextSegment (fun m => s.state.lookup m) (machine, time) = none := by
          rw [keyedStep, hnext]
          rfl
        rw [hstep, hkeyed]
        exact .inr ⟨⟨result, rfl, hfail⟩, Bool.false_ne_true, List.cons_ne_nil _ _⟩

/-- The status in terms of the times of the machines. -/
theorem check_status (trace : List String) :
    (check trace).status =
      if trace.filterMap parseMachineTime = [] then .skipped
      else if ((trace.filterMap parseMachineTime).foldlM (keyedStep nextSegment)
        fun _ => none).isSome then .pass
      else .fail := by
  have hstart : (fun m => ({} : ClockState).state.lookup m) = fun _ => none := rfl
  have hloop := foldlM_step trace {}
  rw [hstart] at hloop
  rcases hloop with ⟨s, hrun, hsome, hcount⟩ | ⟨⟨result, hrun, hfail⟩, hnone, hne⟩
  · rw [check, hrun]
    simp only [Nat.zero_add] at hcount
    by_cases hempty : trace.filterMap parseMachineTime = []
    · rw [if_pos hempty]
      simp only [hcount, hempty, List.length_nil, if_pos]
    · have hpos : s.checked ≠ 0 := by
        rw [hcount, Ne, List.length_eq_zero_iff]
        exact hempty
      rw [if_neg hempty, if_pos hsome]
      simp only [if_neg hpos]
  · rw [check, hrun, if_neg hne, if_neg hnone]
    exact hfail

/-- When the check is skipped and when it passes. -/
theorem choice_iff (p q : Prop) [Decidable p] [Decidable q] :
    ((if p then CheckStatus.skipped else if q then .pass else .fail) = .skipped ↔ p) ∧
      ((if p then CheckStatus.skipped else if q then .pass else .fail) = .pass ↔ ¬ p ∧ q) := by
  by_cases hp : p
  · simp [hp]
  · by_cases hq : q
    · simp [hp, hq]
    · simp [hp, hq]

/-- The fold over all machines accepts the times of each. -/
theorem accepts_iff (trace : List String) :
    ((trace.filterMap parseMachineTime).foldlM (keyedStep nextSegment) fun _ => none).isSome ↔
      ∀ machine, Segmented (timesOf machine trace) := by
  rw [foldlM_keyedStep]
  exact forall_congr' fun machine => (segmented_iff _).symm

/-- The clock check is exact, and it does not depend on how the machines are interleaved. -/
theorem check_exact (trace : List String) :
    ((check trace).status = .skipped ↔ ∀ line ∈ trace, parseMachineTime line = none) ∧
      ((check trace).status = .pass ↔ (∃ line ∈ trace, parseMachineTime line ≠ none) ∧
        ∀ machine, Segmented (timesOf machine trace)) ∧
      ∀ other : List String, (∀ machine, timesOf machine trace = timesOf machine other) →
        (check trace).status = (check other).status := by
  have hskip : trace.filterMap parseMachineTime = [] ↔
      ∀ line ∈ trace, parseMachineTime line = none := List.filterMap_eq_nil_iff
  refine ⟨?_, ?_, ?_⟩
  · rw [check_status, ← hskip]
    exact (choice_iff _ _).1
  · have hparsed : (∃ line ∈ trace, parseMachineTime line ≠ none) ↔
        trace.filterMap parseMachineTime ≠ [] := by
      rw [Ne, hskip, not_forall₂]
      exact exists_congr fun line => exists_prop.symm
    rw [check_status, hparsed, ← accepts_iff]
    exact (choice_iff _ _).2
  · intro other hother
    have hempty : trace.filterMap parseMachineTime = [] ↔
        other.filterMap parseMachineTime = [] := by
      constructor
      · intro h
        apply eq_nil_of_project
        intro machine
        rw [← timesOf, ← hother machine, timesOf, h, project_nil]
      · intro h
        apply eq_nil_of_project
        intro machine
        rw [← timesOf, hother machine, timesOf, h, project_nil]
    have haccepts := (accepts_iff trace).trans
      ((forall_congr' fun machine => by rw [hother machine]).trans (accepts_iff other).symm)
    rw [check_status, check_status]
    simp only [hempty, haccepts]

end VirtualTimeMonotonic

end Microcar.Dogfood
