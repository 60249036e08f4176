import Mathlib.Data.List.Basic
import Microcar.Checker.Conditions

/-!
# Assertions of a scenario

`check_assert_sections` runs every `[[assert]]` of a scenario over a trace. An assertion names a
trigger, the event that has to follow, a window of time and a condition. A trigger that no event
of the asserted type follows is passed over, where the checks of expected events and of the
safety rules fail.
-/

namespace Microcar.Checker

open Microcar.Core

/-- An event of a trace. Where it has a time it is a number of ticks. -/
structure TraceEvent where
  fields : List (String × PyValue)
  at_int : ∀ value, fields.lookup "at" = some value → ∃ n, value = .int n

/-- `event.get("at", 0)`. -/
def TraceEvent.time (event : TraceEvent) : Int :=
  match event.fields.lookup "at" with
  | some (.int n) => n
  | _ => 0

/-- `event.get("event") == type`. -/
def TraceEvent.hasType (event : TraceEvent) (type : String) : Bool :=
  match event.fields.lookup "event" with
  | some (.str s) => s == type
  | _ => false

/-- An `[[assert]]` section. -/
structure Assertion where
  name : Option String := none
  condition : String := ""
  afterEvent : String := ""
  withinMs : Int := 0
  event : String := ""

/-- The window in ticks, if there is one. -/
def Assertion.withinTicks (assertion : Assertion) : Option Int :=
  if assertion.withinMs = 0 then none else some (assertion.withinMs * 1000)

/-- Without a trigger type every event is a trigger. -/
def Assertion.triggers (assertion : Assertion) (events : List TraceEvent) : List TraceEvent :=
  if assertion.afterEvent = "" then events
  else events.filter fun event => event.hasType assertion.afterEvent

/-- The events of the asserted type in the window of a trigger. -/
def Assertion.candidates (assertion : Assertion) (events : List TraceEvent)
    (trigger : TraceEvent) : List TraceEvent :=
  events.filter fun event =>
    event.hasType assertion.event &&
      match assertion.withinTicks with
      | none => true
      | some ticks => trigger.time ≤ event.time && event.time ≤ trigger.time + ticks

section Check

variable (reprStr : String → String) (events : List TraceEvent)

/-- The event meets the condition of the assertion. -/
def Assertion.meets (assertion : Assertion) (event : TraceEvent) : Bool :=
  evaluateCondition reprStr assertion.condition (.dict event.fields)

/-- The trigger has candidates and none of them meets the condition. -/
def Assertion.fails (assertion : Assertion) (trigger : TraceEvent) : Bool :=
  let candidates := assertion.candidates events trigger
  !candidates.any (assertion.meets reprStr) && !candidates.isEmpty

/-- The body of the loop over the assertions: the text of the failure, or `none`. -/
def checkAssert (i : Nat) (assertion : Assertion) : Option String :=
  let name := assertion.name.getD s!"assert#{i}"
  let triggers := assertion.triggers events
  if triggers.isEmpty then
    some s!"  assert #{i} ({name}): no trigger events '{assertion.afterEvent}' found"
  else
    (triggers.find? (assertion.fails reprStr events)).map fun trigger =>
      s!"  assert #{i} ({name}): condition '{assertion.condition}' not met after " ++
        s!"'{assertion.afterEvent}' at t=" ++ String.ofList (decimal trigger.time)

/-- How many assertions passed, and what is said of those that failed. -/
structure Tally where
  passed : Nat := 0
  failures : List String := []

/-- Count one assertion. -/
def Tally.add (tally : Tally) : Option String → Tally
  | none => { tally with passed := tally.passed + 1 }
  | some detail => { tally with failures := tally.failures ++ [detail] }

/-- The tally of a list of assertions, each with the number it has in its file. -/
def tally (asserts : List (Assertion × Nat)) : Tally :=
  asserts.foldl
    (fun (found : Tally) assertion =>
      found.add (checkAssert reprStr events assertion.2 assertion.1))
    ⟨0, []⟩

/-- How many assertions passed, how many there are, and what is said of those that failed. -/
def checkAssertSections (asserts : List Assertion) : Nat × Nat × List String :=
  let result := tally reprStr events (asserts.zipIdx 1)
  (result.passed, asserts.length, result.failures)

end Check

/-! ### Counting -/

section Count

variable (reprStr : String → String) (events : List TraceEvent)

/-- One more assertion is counted, or its failure reported. -/
theorem checkAssertSections_concat (asserts : List Assertion) (assertion : Assertion) :
    checkAssertSections reprStr events (asserts ++ [assertion]) =
      match checkAssert reprStr events (asserts.length + 1) assertion with
      | none => ((checkAssertSections reprStr events asserts).1 + 1, asserts.length + 1,
          (checkAssertSections reprStr events asserts).2.2)
      | some detail => ((checkAssertSections reprStr events asserts).1, asserts.length + 1,
          (checkAssertSections reprStr events asserts).2.2 ++ [detail]) := by
  have htally : tally reprStr events ((asserts ++ [assertion]).zipIdx 1) =
      (tally reprStr events (asserts.zipIdx 1)).add
        (checkAssert reprStr events (asserts.length + 1) assertion) := by
    rw [List.zipIdx_append, tally, List.foldl_append, ← tally, Nat.add_comm 1]
    rfl
  rw [checkAssertSections, htally, List.length_append, List.length_singleton]
  cases checkAssert reprStr events (asserts.length + 1) assertion with
  | none => rfl
  | some detail => rfl

/-- Every assertion is counted or reported. -/
theorem checkAssertSections_total (asserts : List Assertion) :
    (checkAssertSections reprStr events asserts).1 +
      (checkAssertSections reprStr events asserts).2.2.length = asserts.length := by
  induction asserts using List.reverseRecOn with
  | nil => rfl
  | append_singleton asserts assertion ih =>
    rw [checkAssertSections_concat, List.length_append, List.length_singleton]
    cases checkAssert reprStr events (asserts.length + 1) assertion with
    | none =>
      simp only
      omega
    | some detail =>
      simp only [List.length_append, List.length_singleton]
      omega

/-- The scenario's first assertions pass one more with this one than without. -/
def Counted (asserts : List Assertion) (i : Nat) : Prop :=
  (checkAssertSections reprStr events (asserts.take (i + 1))).1 =
    (checkAssertSections reprStr events (asserts.take i)).1 + 1

/-- An assertion passes where it has triggers and none of them fails. -/
theorem checkAssert_eq_none_iff {i : Nat} {assertion : Assertion} :
    checkAssert reprStr events i assertion = none ↔
      assertion.triggers events ≠ [] ∧
        ∀ trigger ∈ assertion.triggers events,
          assertion.fails reprStr events trigger = false := by
  rw [checkAssert]
  split
  next hnil => simp [List.isEmpty_iff.mp hnil]
  next hnil =>
    rw [List.isEmpty_iff] at hnil
    simp [hnil]

/-- An assertion is counted unless it has no trigger, or a trigger with candidates of which none
meets the condition. -/
theorem counted_iff {asserts : List Assertion} {i : Nat} {assertion : Assertion}
    (h : asserts[i]? = some assertion) :
    Counted reprStr events asserts i ↔
      assertion.triggers events ≠ [] ∧
        ∀ trigger ∈ assertion.triggers events,
          assertion.fails reprStr events trigger = false := by
  rw [Counted, List.take_add_one, h, Option.toList_some, checkAssertSections_concat,
    ← checkAssert_eq_none_iff (i := (asserts.take i).length + 1)]
  cases checkAssert reprStr events ((asserts.take i).length + 1) assertion with
  | none => simp
  | some detail => simp

end Count

/-! ### What a passed assertion says -/

/-- The event answers the trigger: it is of the asserted type and, if there is a window, in it. -/
def Assertion.Answers (assertion : Assertion) (trigger event : TraceEvent) : Prop :=
  event.hasType assertion.event = true ∧
    (assertion.withinMs ≠ 0 →
      trigger.time ≤ event.time ∧ event.time ≤ trigger.time + assertion.withinMs * 1000)

/-- The candidates are the events that answer the trigger. -/
theorem Assertion.mem_candidates {assertion : Assertion} {events : List TraceEvent}
    {trigger event : TraceEvent} :
    event ∈ assertion.candidates events trigger ↔
      event ∈ events ∧ assertion.Answers trigger event := by
  rw [candidates, List.mem_filter, Bool.and_eq_true, Answers, withinTicks]
  by_cases h : assertion.withinMs = 0
  · simp [h]
  · simp [h]

section Gate

variable (reprStr : String → String) (events : List TraceEvent)

/-- There is a trigger, and every trigger is answered by an event that meets the condition. -/
def Assertion.Verified (assertion : Assertion) : Prop :=
  assertion.triggers events ≠ [] ∧
    ∀ trigger ∈ assertion.triggers events, ∃ event ∈ events,
      assertion.Answers trigger event ∧ assertion.meets reprStr event = true

/-- Only verified assertions are counted as passed. -/
def GateSound (asserts : List Assertion) : Prop :=
  ∀ i assertion, asserts[i]? = some assertion → Counted reprStr events asserts i →
    assertion.Verified reprStr events

/-- A trigger fails where it has answers and none of them meets the condition. -/
theorem Assertion.fails_eq_true_iff {assertion : Assertion} {trigger : TraceEvent} :
    assertion.fails reprStr events trigger = true ↔
      (∃ event ∈ events, assertion.Answers trigger event) ∧
        ∀ event ∈ events, assertion.Answers trigger event →
          assertion.meets reprStr event = false := by
  rw [fails, Bool.and_eq_true, Bool.not_eq_true', Bool.not_eq_true', List.any_eq_false,
    List.isEmpty_eq_false_iff_exists_mem, and_comm]
  simp only [mem_candidates, and_imp, Bool.not_eq_true]

/-- The gate is vacuous exactly for an assertion whose triggers all pass while one of them is
followed by no event of the asserted type. -/
theorem gateSound_iff (asserts : List Assertion) :
    GateSound reprStr events asserts ↔
      ∀ assertion ∈ asserts,
        assertion.triggers events = [] ∨
          (∀ trigger ∈ assertion.triggers events, ∃ event ∈ events,
            assertion.Answers trigger event) ∨
          ∃ trigger ∈ assertion.triggers events,
            (∃ event ∈ events, assertion.Answers trigger event) ∧
              ∀ event ∈ events, assertion.Answers trigger event →
                assertion.meets reprStr event = false := by
  constructor
  · intro hsound assertion hmem
    obtain ⟨i, hi⟩ := List.mem_iff_getElem?.mp hmem
    have himp := hsound i assertion hi
    rw [counted_iff reprStr events hi] at himp
    by_cases htriggers : assertion.triggers events = []
    · exact .inl htriggers
    · by_cases hfails : ∃ trigger ∈ assertion.triggers events,
          assertion.fails reprStr events trigger = true
      · obtain ⟨trigger, hmem, hfails⟩ := hfails
        exact .inr (.inr ⟨trigger, hmem, (Assertion.fails_eq_true_iff reprStr events).mp hfails⟩)
      · push Not at hfails
        have hverified := himp ⟨htriggers, fun trigger hmem => by simpa using hfails trigger hmem⟩
        refine .inr (.inl fun trigger hmem => ?_)
        obtain ⟨event, hevent, hanswers, -⟩ := hverified.2 trigger hmem
        exact ⟨event, hevent, hanswers⟩
  · intro hall i assertion hi hcounted
    rw [counted_iff reprStr events hi] at hcounted
    obtain ⟨htriggers, hpass⟩ := hcounted
    have hnofail : ∀ trigger ∈ assertion.triggers events,
        ¬((∃ event ∈ events, assertion.Answers trigger event) ∧
          ∀ event ∈ events, assertion.Answers trigger event →
            assertion.meets reprStr event = false) := by
      intro trigger hmem h
      rw [← Assertion.fails_eq_true_iff, hpass trigger hmem] at h
      exact Bool.false_ne_true h
    refine ⟨htriggers, fun trigger hmem => ?_⟩
    rcases hall assertion (List.mem_of_getElem? hi) with hnil | hanswered | ⟨failing, hf, hfails⟩
    · exact absurd hnil htriggers
    · have hexists := hnofail trigger hmem
      push Not at hexists
      obtain ⟨event, hevent, hanswers, hmeets⟩ := hexists (hanswered trigger hmem)
      exact ⟨event, hevent, hanswers, by simpa using hmeets⟩
    · exact absurd hfails (hnofail failing hf)

end Gate

/-- A brake event that no motor command follows. -/
def lonelyBrake : TraceEvent where
  fields := [("machine", .int 2), ("at", .int 10000), ("event", .str "brake")]
  at_int _ h := ⟨10000, (Option.some.inj h).symm⟩

/-- No torque within 100 ms of the brake. -/
def brakeStopsMotor : Assertion :=
  { name := some "S1", condition := "torque == 0", afterEvent := "brake", withinMs := 100,
    event := "motor_command" }

/-- The assertion passes on a trace without any motor command. -/
theorem brakeStopsMotor_vacuous :
    ¬GateSound (fun s => "'" ++ s ++ "'") [lonelyBrake] [brakeStopsMotor] := by
  intro hsound
  have hcounted : Counted (fun s => "'" ++ s ++ "'") [lonelyBrake] [brakeStopsMotor] 0 := by
    rfl
  obtain ⟨-, hall⟩ := hsound 0 brakeStopsMotor rfl hcounted
  have htrigger : lonelyBrake ∈ brakeStopsMotor.triggers [lonelyBrake] := by
    apply List.mem_filter.mpr
    exact ⟨List.mem_singleton_self _, rfl⟩
  obtain ⟨event, hevent, hanswers, -⟩ := hall lonelyBrake htrigger
  rw [List.mem_singleton.mp hevent] at hanswers
  exact Bool.false_ne_true hanswers.1

end Microcar.Checker
