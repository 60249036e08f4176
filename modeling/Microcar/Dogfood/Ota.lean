import Microcar.Core.Greedy
import Microcar.Dogfood.DiagTrace

/-!
# The OTA lane

The lane holds the expectations of a scenario against the words that the gateway traced. A state
sequence is looked for in the traced states by one pass over them, and that pass finds it exactly
if it can be had from them by leaving states out.
-/

namespace Microcar.Dogfood

open Microcar.Core

/-- What a scenario of the lane may expect. -/
inductive Expectation where
  | stateSequence (want : List UInt32)
  | crcOk
  | crcBad
  | healthy
  | rolledBack
  | activeSlot (want : UInt32)

/-- The verdict on one expectation. -/
structure OtaCheck where
  name : String
  passed : Bool
  detail : String

/-- The verdict on one scenario. -/
structure OtaScenarioResult where
  name : String
  passed : Bool
  runError : Option String
  checks : List OtaCheck

/-- The `ota_state` values of a machine, in order. -/
def stateValues (trace : List UserTrace) (machine : Nat) : List UInt32 :=
  (trace.filter fun e => e.machine == machine && e.label == "ota_state").map UserTrace.value

/-- A machine has traced this value under a label. -/
def anyValue (trace : List UserTrace) (machine : Nat) (label : String) (want : UInt32) : Bool :=
  trace.any fun e => e.machine == machine && e.label == label && e.value == want

/-- The last value that a machine has traced under a label. -/
def lastValue (trace : List UserTrace) (machine : Nat) (label : String) : Option UInt32 :=
  ((trace.filter fun e => e.machine == machine && e.label == label).map UserTrace.value).getLast?

/-- `want.iter().all(|w| it.any(|h| h == w))`, with one iterator over the values. -/
def isSubsequence (values want : List UInt32) : Bool := allNext (fun w h => h == w) values want

/-- A vector as `{:?}` writes it. -/
def debugVec (values : List UInt32) : String :=
  "[" ++ ", ".intercalate (values.map toString) ++ "]"

/-- The check of an expectation that the gateway traced a flag. -/
def flagCheck (trace : List UserTrace) (name label seen missing : String) : OtaCheck :=
  let passed := anyValue trace nodeGateway label 1
  ⟨name, passed, if passed then seen else missing⟩

/-- The check of one expectation. -/
def evaluate (trace : List UserTrace) : Expectation → OtaCheck
  | .stateSequence want =>
    let values := stateValues trace nodeGateway
    let passed := !want.isEmpty && isSubsequence values want
    { name := "state-sequence"
      passed := passed
      detail :=
        if passed then
          "OTA states stepped through the expected sequence " ++ debugVec want ++ " (traced " ++
            debugVec values ++ ")"
        else
          "expected ota_state subsequence " ++ debugVec want ++ "; traced " ++ debugVec values }
  | .crcOk =>
    flagCheck trace "crc-ok" "ota_crc_ok" "image CRC/signature verified (ota_crc_ok=1)"
      "expected an ota_crc_ok=1 trace event; saw none"
  | .crcBad =>
    let sawBad := anyValue trace nodeGateway "ota_crc_ok" 0
    let sawOk := anyValue trace nodeGateway "ota_crc_ok" 1
    let passed := sawBad && !sawOk
    { name := "crc-bad"
      passed := passed
      detail :=
        if passed then "corrupt image failed verification (ota_crc_ok=0, never ota_crc_ok=1)"
        else if sawOk then "expected a failed CRC but saw an ota_crc_ok=1 (image verified)"
        else "expected an ota_crc_ok=0 trace event; saw none" }
  | .healthy =>
    flagCheck trace "healthy" "ota_boot_result"
      "new slot booted healthy and update committed (ota_boot_result=1)"
      "expected an ota_boot_result=1 trace event; saw none"
  | .rolledBack =>
    flagCheck trace "rolled-back" "ota_rollback"
      "update aborted and reverted to the previous good slot (ota_rollback=1)"
      "expected an ota_rollback=1 trace event; saw none"
  | .activeSlot want =>
    let value := lastValue trace nodeGateway "ota_active_slot"
    let passed := value == some want
    { name := "active-slot"
      passed := passed
      detail :=
        match value with
        | some v =>
          if passed then "bootloader active slot is " ++ toString v ++ " (as expected)"
          else "expected active slot " ++ toString want ++ "; traced " ++ toString v
        | none =>
          "expected an ota_active_slot=" ++ toString want ++ " trace event; saw none" }

/-- A file without directives asks for a healthy end, as `parse_expectations` ends. -/
def orHealthy (directives : List Expectation) : List Expectation :=
  if directives.isEmpty then [.healthy] else directives

/-- The end of `run_ota_scenario`, behind a run that passed and a file that was read. -/
def runOtaScenario (name : String) (directives : List Expectation) (trace : List UserTrace) :
    OtaScenarioResult :=
  let checks := (orHealthy directives).map (evaluate trace)
  { name := name
    passed := !checks.isEmpty && checks.all OtaCheck.passed
    runError := none
    checks := checks }

/-! ### The state sequence -/

/-- One pass over the traced states decides whether the wanted ones can be had from them by
deleting entries, and so does the check of a state sequence, which is not empty. -/
theorem isSubsequence_exact :
    (∀ values want : List UInt32, isSubsequence values want = true ↔ want.Sublist values) ∧
      ∀ (trace : List UserTrace) (want : List UInt32),
        (evaluate trace (.stateSequence want)).passed = true ↔
          want ≠ [] ∧ want.Sublist (stateValues trace nodeGateway) := by
  have hexact : ∀ values want : List UInt32,
      isSubsequence values want = true ↔ want.Sublist values :=
    fun values want => allNext_eq_iff_sublist
  refine ⟨hexact, fun trace want => ?_⟩
  rw [evaluate, Bool.and_eq_true, hexact]
  exact and_congr_left' (by simp)

/-! ### What the checks say -/

/-- The gateway traced a value under a label. -/
def Traced (trace : List UserTrace) (label : String) (value : UInt32) : Prop :=
  ⟨nodeGateway, label, value⟩ ∈ trace

/-- It is the last value that the gateway traced there. -/
def LastTraced (trace : List UserTrace) (label : String) (value : UInt32) : Prop :=
  ∃ before after, trace = before ++ ⟨nodeGateway, label, value⟩ :: after ∧
    ∀ e ∈ after, e.machine = nodeGateway → e.label ≠ label

/-- What an expectation says of a trace. -/
def Expectation.Holds (trace : List UserTrace) : Expectation → Prop
  | stateSequence want => want ≠ [] ∧ want.Sublist (stateValues trace nodeGateway)
  | crcOk => Traced trace "ota_crc_ok" 1
  | crcBad => Traced trace "ota_crc_ok" 0 ∧ ¬Traced trace "ota_crc_ok" 1
  | healthy => Traced trace "ota_boot_result" 1
  | rolledBack => Traced trace "ota_rollback" 1
  | activeSlot want => LastTraced trace "ota_active_slot" want

theorem anyValue_iff {trace : List UserTrace} {label : String} {value : UInt32} :
    anyValue trace nodeGateway label value = true ↔ Traced trace label value := by
  rw [anyValue, List.any_eq_true]
  constructor
  · rintro ⟨⟨machine, label', value'⟩, hmem, hentry⟩
    simp only [Bool.and_eq_true, beq_iff_eq] at hentry
    obtain ⟨⟨rfl, rfl⟩, rfl⟩ := hentry
    exact hmem
  · exact fun hmem => ⟨_, hmem, by simp⟩

theorem lastValue_iff {trace : List UserTrace} {label : String} {value : UInt32} :
    lastValue trace nodeGateway label = some value ↔ LastTraced trace label value := by
  rw [lastValue, List.getLast?_map, List.getLast?_filter, Option.map_eq_some_iff]
  constructor
  · rintro ⟨⟨machine, label', value⟩, hfind, rfl⟩
    obtain ⟨hentry, later, earlier, hsplit, hlater⟩ := List.find?_eq_some_iff_append.mp hfind
    simp only [Bool.and_eq_true, beq_iff_eq] at hentry
    obtain ⟨rfl, rfl⟩ := hentry
    refine ⟨earlier.reverse, later.reverse, ?_, fun e he hmachine hlabel => ?_⟩
    · simpa using congrArg List.reverse hsplit
    · have hskipped := hlater e (List.mem_reverse.mp he)
      simp [hmachine, hlabel] at hskipped
  · rintro ⟨before, after, rfl, hafter⟩
    refine ⟨⟨nodeGateway, label, value⟩,
      List.find?_eq_some_iff_append.mpr ⟨?_, after.reverse, before.reverse, ?_, ?_⟩, rfl⟩
    · simp
    · simp
    · intro e he
      have hother := hafter e (List.mem_reverse.mp he)
      by_cases hmachine : e.machine = nodeGateway
      · simp [hother hmachine]
      · simp [hmachine]

theorem flagCheck_passed_iff (trace : List UserTrace) (name label seen missing : String) :
    (flagCheck trace name label seen missing).passed = true ↔ Traced trace label 1 :=
  anyValue_iff

/-- A check passes exactly if the trace is as expected. -/
theorem evaluate_passed_iff (trace : List UserTrace) (exp : Expectation) :
    (evaluate trace exp).passed = true ↔ exp.Holds trace := by
  cases exp with
  | stateSequence want =>
    rw [evaluate, Expectation.Holds, Bool.and_eq_true, isSubsequence, allNext_eq_iff_sublist]
    exact and_congr_left' (by simp)
  | crcOk => exact flagCheck_passed_iff trace _ _ _ _
  | crcBad =>
    rw [evaluate, Expectation.Holds, Bool.and_eq_true, Bool.not_eq_true', ← Bool.not_eq_true,
      anyValue_iff, anyValue_iff]
  | healthy => exact flagCheck_passed_iff trace _ _ _ _
  | rolledBack => exact flagCheck_passed_iff trace _ _ _ _
  | activeSlot want =>
    rw [evaluate, Expectation.Holds, ← lastValue_iff]
    exact beq_iff_eq

/-- A scenario passes exactly if its checks do, since with the default it has one. -/
theorem runOtaScenario_passed_eq (name : String) (directives : List Expectation)
    (trace : List UserTrace) :
    (runOtaScenario name directives trace).passed =
      (orHealthy directives).all fun exp => (evaluate trace exp).passed := by
  have hsome : (orHealthy directives).isEmpty = false := by
    cases directives <;> rfl
  rw [runOtaScenario]
  dsimp only
  rw [List.isEmpty_map, hsome, Bool.not_false, Bool.true_and, List.all_map]
  rfl

/-- A scenario passes exactly if its trace is as its directives say, or the default. -/
theorem runOtaScenario_passed_iff (name : String) (directives : List Expectation)
    (trace : List UserTrace) :
    (runOtaScenario name directives trace).passed = true ↔
      ∀ exp ∈ orHealthy directives, exp.Holds trace := by
  rw [runOtaScenario_passed_eq, List.all_eq_true]
  exact forall₂_congr fun exp _ => evaluate_passed_iff trace exp

/-- The detail of a failed check says what was expected. -/
theorem detail_of_failed {trace : List UserTrace} {exp : Expectation}
    (h : (evaluate trace exp).passed = false) :
    ∃ rest, (evaluate trace exp).detail = "expected " ++ rest := by
  have hflag : ∀ name label seen rest,
      (flagCheck trace name label seen ("expected " ++ rest)).passed = false →
        ∃ rest', (flagCheck trace name label seen ("expected " ++ rest)).detail =
          "expected " ++ rest' := by
    intro name label seen rest hfailed
    exact ⟨rest, if_neg (Bool.eq_false_iff.mp hfailed)⟩
  cases exp with
  | stateSequence want =>
    refine ⟨"ota_state subsequence " ++ debugVec want ++ "; traced " ++
      debugVec (stateValues trace nodeGateway), (if_neg (Bool.eq_false_iff.mp h)).trans ?_⟩
    simp only [String.append_assoc]
    rfl
  | crcOk => exact hflag _ _ _ "an ota_crc_ok=1 trace event; saw none" h
  | crcBad =>
    have hdetail : (evaluate trace .crcBad).detail = _ := if_neg (Bool.eq_false_iff.mp h)
    rw [hdetail]
    split
    · exact ⟨"a failed CRC but saw an ota_crc_ok=1 (image verified)", rfl⟩
    · exact ⟨"an ota_crc_ok=0 trace event; saw none", rfl⟩
  | healthy => exact hflag _ _ _ "an ota_boot_result=1 trace event; saw none" h
  | rolledBack => exact hflag _ _ _ "an ota_rollback=1 trace event; saw none" h
  | activeSlot want =>
    rw [evaluate] at h ⊢
    simp only at h ⊢
    split
    next v _ =>
      refine ⟨"active slot " ++ toString want ++ "; traced " ++ toString v,
        (if_neg (Bool.eq_false_iff.mp h)).trans ?_⟩
      simp only [String.append_assoc]
      rfl
    next =>
      refine ⟨"an ota_active_slot=" ++ toString want ++ " trace event; saw none", ?_⟩
      simp only [String.append_assoc]
      rfl

end Microcar.Dogfood
