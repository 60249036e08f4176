import Microcar.Dogfood.Ota
import Microcar.Dogfood.Recorded
import Microcar.Dogfood.Variants
import Microcar.Gateway.OtaReport

/-!
# The OTA lane against the firmware

The checks of the lane read a trace in which the words of all machines are mixed. They depend on
the words of the update script alone, and these the firmware determines, so for every scenario of
the lane and every variant of the gateway the lane's verdict is known in advance.
-/

namespace Microcar.Dogfood

open Microcar.Core Microcar.Gateway

/-! ### Checks on the words of the update -/

/-- The labels that the lane reads. -/
def otaLabels : List String :=
  [OtaLabel.state, .crcOk, .slot, .bootResult, .rollback, .activeSlot].map OtaLabel.text

/-- Every label is among those recorded. -/
theorem text_mem_otaLabels (label : OtaLabel) : label.text ∈ otaLabels := by
  cases label <;> simp [otaLabels]

/-- The values under a label. -/
def valuesOf (words : List OtaWord) (label : OtaLabel) : List UInt32 :=
  (words.filter fun w => w.1 == label).map Prod.snd

/-- The words of a log under the text of a label. -/
theorem wordsUnder_text (out : List Emission) (label : OtaLabel) :
    wordsUnder label.text out = valuesOf (otaWords out) label := by
  induction out with
  | nil => rfl
  | cons emission out ih =>
    have hcons : ∀ rest, wordsUnder label.text (emission :: rest) =
        wordsUnder label.text [emission] ++ wordsUnder label.text rest :=
      fun rest => wordsUnder_append _ [emission] rest
    have hsplit : valuesOf (otaWords (emission :: out)) label =
        valuesOf (otaWords [emission]) label ++ valuesOf (otaWords out) label := by
      rw [← List.singleton_append, otaWords_append, valuesOf, List.filter_append, List.map_append]
      rfl
    have hone : wordsUnder label.text [emission] = valuesOf (otaWords [emission]) label := by
      cases emission with
      | can frame => rfl
      | trace text value =>
        cases hfound : otaLabel? text with
        | none =>
          have hother : text ≠ label.text := by
            intro heq
            rw [heq, otaLabel?_eq_some_iff.mpr rfl] at hfound
            exact absurd hfound (by simp)
          rw [wordsUnder_trace_of_ne hother]
          simp [otaWords, hfound, valuesOf]
        | some found =>
          have hword : otaWords [.trace text value] = [(found, value)] := by
            simp [otaWords, hfound]
          obtain rfl := otaLabel?_eq_some_iff.mp hfound
          rw [hword, valuesOf]
          by_cases heq : found = label
          · subst heq
            simp
          · have hne : found.text ≠ label.text := by
              intro htext
              rw [otaLabel?_eq_some_iff.mpr htext] at hfound
              exact heq (Option.some.inj hfound).symm
            rw [wordsUnder_trace_of_ne hne]
            simp [heq]
    rw [hcons, hsplit, ih, hone]

/-- The verdict of an expectation on the words of the update. -/
def Expectation.metBy (words : List OtaWord) : Expectation → Bool
  | stateSequence want => !want.isEmpty && isSubsequence (valuesOf words .state) want
  | crcOk => (valuesOf words .crcOk).contains 1
  | crcBad => (valuesOf words .crcOk).contains 0 && !(valuesOf words .crcOk).contains 1
  | healthy => (valuesOf words .bootResult).contains 1
  | rolledBack => (valuesOf words .rollback).contains 1
  | activeSlot want => (valuesOf words .activeSlot).getLast? == some want

section Recorded

variable {out : List Emission} {trace : List UserTrace}

/-- The states in the trace are those in the log. -/
theorem stateValues_eq (h : Records otaLabels nodeGateway out trace) :
    stateValues trace nodeGateway = valuesOf (otaWords out) .state := by
  rw [← wordsUnder_text]
  exact h.values (text_mem_otaLabels .state)

/-- The last value in the trace is the last word in the log. -/
theorem lastValue_eq (h : Records otaLabels nodeGateway out trace) (label : OtaLabel) :
    lastValue trace nodeGateway label.text = (valuesOf (otaWords out) label).getLast? := by
  rw [← wordsUnder_text, ← h.values (text_mem_otaLabels label)]
  rfl

/-- So is any value. -/
theorem anyValue_eq (h : Records otaLabels nodeGateway out trace) (label : OtaLabel)
    (want : UInt32) :
    anyValue trace nodeGateway label.text want = (valuesOf (otaWords out) label).contains want := by
  rw [← wordsUnder_text]
  exact h.any (text_mem_otaLabels label) want

/-- A check reads nothing else. -/
theorem evaluate_passed_eq (h : Records otaLabels nodeGateway out trace) (exp : Expectation) :
    (evaluate trace exp).passed = exp.metBy (otaWords out) := by
  cases exp with
  | stateSequence want => rw [evaluate, Expectation.metBy, ← stateValues_eq h]
  | crcOk => exact anyValue_eq h .crcOk 1
  | crcBad =>
    rw [evaluate, Expectation.metBy, ← anyValue_eq h, ← anyValue_eq h]
    rfl
  | healthy => exact anyValue_eq h .bootResult 1
  | rolledBack => exact anyValue_eq h .rollback 1
  | activeSlot want =>
    rw [evaluate, Expectation.metBy, ← lastValue_eq h]
    rfl

end Recorded

/-! ### The scenarios of the lane -/

/-- A scenario file with its directives and the firmware of its gateway. -/
structure OtaScenario where
  name : String
  firmware : String
  directives : List Expectation

/-- The update that goes well. -/
def happyPath : OtaScenario where
  name := "happy_path"
  firmware := "firmware/gateway_ota"
  directives := [.stateSequence [0, 1, 2, 3, 4, 5], .crcOk, .healthy]

/-- The corrupt image. -/
def rollbackBadCrc : OtaScenario where
  name := "rollback_bad_crc"
  firmware := "firmware/gateway_ota_badcrc"
  directives := [.stateSequence [0, 1, 2, 6], .crcBad, .rolledBack, .activeSlot 0]

/-- The self-test that fails. -/
def rollbackFailedHealth : OtaScenario where
  name := "rollback_failed_health"
  firmware := "firmware/gateway_ota_badhealth"
  directives := [.stateSequence [0, 1, 2, 3, 4, 6], .crcOk, .rolledBack, .activeSlot 0]

/-- The write that is interrupted. -/
def rollbackInterruptedWrite : OtaScenario where
  name := "rollback_interrupted_write"
  firmware := "firmware/gateway_ota_intwrite"
  directives := [.stateSequence [0, 1, 6], .rolledBack, .activeSlot 0]

/-- The power cut before the commit. -/
def rollbackPowercutPrecommit : OtaScenario where
  name := "rollback_powercut_precommit"
  firmware := "firmware/gateway_ota_powercut"
  directives := [.stateSequence [0, 1, 2, 6], .crcOk, .rolledBack, .activeSlot 0]

/-- A scenario whose external tool asks for the update: it states no directives, and its gateway
runs no update script. -/
def toolScenario (name : String) : OtaScenario where
  name := name
  firmware := "firmware/gateway_ecu"
  directives := []

/-- The scenario files of the lane. -/
inductive OtaFile where
  | bmsFaultDuringUpdate
  | corruptImage
  | failedHealth
  | gatewayResetDuringUpdate
  | happyPath
  | interruptedWrite
  | otaRejectedCharging
  | otaRejectedDrive
  | powerCutBeforeCommit
  | rollbackBadCrc
  | rollbackFailedHealth
  | rollbackInterruptedWrite
  | rollbackPowercutPrecommit
  deriving DecidableEq

/-- What is in a file. -/
def OtaFile.scenario : OtaFile → OtaScenario
  | bmsFaultDuringUpdate => toolScenario "bms_fault_during_update"
  | corruptImage => toolScenario "corrupt_image"
  | failedHealth => toolScenario "failed_health"
  | gatewayResetDuringUpdate => toolScenario "gateway_reset_during_update"
  | happyPath => Dogfood.happyPath
  | interruptedWrite => toolScenario "interrupted_write"
  | otaRejectedCharging => toolScenario "ota_rejected_charging"
  | otaRejectedDrive => toolScenario "ota_rejected_drive"
  | powerCutBeforeCommit => toolScenario "power_cut_before_commit"
  | rollbackBadCrc => Dogfood.rollbackBadCrc
  | rollbackFailedHealth => Dogfood.rollbackFailedHealth
  | rollbackInterruptedWrite => Dogfood.rollbackInterruptedWrite
  | rollbackPowercutPrecommit => Dogfood.rollbackPowercutPrecommit

/-- The end of the update for which a file with directives is written. -/
def OtaFile.own : OtaFile → Option OtaEnd
  | happyPath => some .healthy
  | rollbackBadCrc => some .badCrc
  | rollbackFailedHealth => some .badHealth
  | rollbackInterruptedWrite => some .interrupted
  | rollbackPowercutPrecommit => some .powercut
  | _ => none

/-- Periods of the loop after which a scenario passes on an update with this end, if it ever does.
The directives of a write that was interrupted fit every rollback, those of a power cut fit a
failed self-test as well, and a file without directives asks for what the happy path ends with. -/
def OtaFile.passesFrom : OtaFile → OtaEnd → Option Nat
  | rollbackBadCrc, .badCrc => some 30
  | rollbackFailedHealth, .badHealth => some 60
  | rollbackInterruptedWrite, .interrupted => some 20
  | rollbackInterruptedWrite, .badCrc => some 30
  | rollbackInterruptedWrite, .powercut => some 40
  | rollbackInterruptedWrite, .badHealth => some 60
  | rollbackPowercutPrecommit, .powercut => some 40
  | rollbackPowercutPrecommit, .badHealth => some 60
  | rollbackBadCrc, _ | rollbackFailedHealth, _ | rollbackInterruptedWrite, _
  | rollbackPowercutPrecommit, _ => none
  | _, .healthy => some 60
  | _, _ => none

/-- A file that passes does so from a multiple of ten periods on, sixty at most. -/
theorem passesFrom_le {file : OtaFile} {outcome : OtaEnd} {start : Nat}
    (h : file.passesFrom outcome = some start) : start ≤ 60 ∧ 10 ∣ start := by
  cases file <;> cases outcome <;> simp [OtaFile.passesFrom] at h <;> omega

/-- The directives on the report behind some of the six actions. -/
theorem metBy_report (file : OtaFile) (outcome : OtaEnd) (k : Nat) :
    ((orHealthy file.scenario.directives).all fun exp =>
      exp.metBy (outcome.report.take k).flatten) = true ↔
        ∃ start, file.passesFrom outcome = some start ∧ start ≤ 10 * k := by
  have hfew : ∀ k ≤ 6, ((orHealthy file.scenario.directives).all fun exp =>
      exp.metBy (outcome.report.take k).flatten) =
        (file.passesFrom outcome).any fun start => decide (start ≤ 10 * k) := by
    intro k hk
    match k, hk with
    | 0, _ | 1, _ | 2, _ | 3, _ | 4, _ | 5, _ | 6, _ => cases file <;> cases outcome <;> rfl
  have hmet : ((orHealthy file.scenario.directives).all fun exp =>
      exp.metBy (outcome.report.take k).flatten) =
        (file.passesFrom outcome).any fun start => decide (start ≤ 10 * k) := by
    rcases Nat.le_total k 6 with hle | hge
    · exact hfew k hle
    · have hall := hfew 6 le_rfl
      rw [List.take_of_length_le (by cases outcome <;> rfl)] at hall
      rw [List.take_of_length_le (by cases outcome <;> exact hge), hall]
      cases hstart : file.passesFrom outcome with
      | none => rfl
      | some start =>
        have hsixty : start ≤ 60 := (passesFrom_le hstart).1
        rw [Option.any_some, Option.any_some, decide_eq_decide]
        omega
  rw [hmet, Option.any_eq_true]
  simp only [decide_eq_true_iff]

/-- A scenario starts a gateway with an update script exactly if it states directives, and the
update ends as these have it. -/
theorem bootedConfig_scenario (file : OtaFile) :
    ∃ cfg, bootedConfig "gateway" file.scenario.firmware = some cfg ∧
      cfg.otaDogfoodScript = file.own.isSome ∧ ∀ outcome ∈ file.own, cfg.otaEnd = outcome := by
  cases file <;> exact ⟨_, rfl, rfl, by decide⟩

/-- A scenario passes exactly if what it expects holds of the words. -/
theorem runOtaScenario_passed_words (file : OtaFile) {out : List Emission}
    {trace : List UserTrace} (h : Records otaLabels nodeGateway out trace) :
    (runOtaScenario file.scenario.name file.scenario.directives trace).passed =
      (orHealthy file.scenario.directives).all fun exp => exp.metBy (otaWords out) := by
  rw [runOtaScenario_passed_eq]
  exact congrArg _ (funext fun exp => evaluate_passed_eq h exp)

/-- The words of the update in a run. -/
theorem otaWords_gatewayRun {cfg : GatewayConfig} (hota : cfg.otaDogfoodScript = true)
    (ops : List GatewayOp) : otaWords (run gatewayStep (gatewayBoot cfg) ops).out =
      (cfg.otaEnd.report.take (periods ops / 10)).flatten :=
  (congrArg Prod.snd (otaView_gatewayRun hota ops)).trans (viewBy_eq cfg.otaEnd (periods ops)).1

/-- Whatever firmware variant a scenario is run on, whatever else its gateway does and however the
words of the other machines lie between its own, the lane passes the scenario exactly if the
gateway has an update script, the update ends in a way that the directives fit and the loop has
gone through enough periods for it. -/
theorem otaLane_verdict (cfg : GatewayConfig) (file : OtaFile) (ops : List GatewayOp)
    {trace : List UserTrace}
    (htrace : Records otaLabels nodeGateway (run gatewayStep (gatewayBoot cfg) ops).out trace) :
    (runOtaScenario file.scenario.name file.scenario.directives trace).passed = true ↔
      cfg.otaDogfoodScript = true ∧
        ∃ start, file.passesFrom cfg.otaEnd = some start ∧ start ≤ periods ops := by
  rw [runOtaScenario_passed_words file htrace]
  cases hota : cfg.otaDogfoodScript with
  | false =>
    have hnone := metBy_report file .healthy 0
    rw [List.take_zero, List.flatten_nil] at hnone
    rw [otaWords_gatewayRun_off hota, hnone]
    refine iff_of_false ?_ fun h => absurd h.1 Bool.false_ne_true
    rintro ⟨start, hstart, hzero⟩
    exact absurd hzero (by cases file <;> simp [OtaFile.passesFrom] at hstart <;> omega)
  | true =>
    rw [otaWords_gatewayRun hota, metBy_report, eq_self, true_and]
    refine exists_congr fun start => and_congr_right fun hstart => ?_
    have hten := (passesFrom_le hstart).2
    omega

/-- The happy path, on its own firmware. -/
theorem otaLane_verdict_happyPath :
    ∃ cfg, bootedConfig "gateway" happyPath.firmware = some cfg ∧
      (runOtaScenario happyPath.name happyPath.directives (tracedBy nodeGateway
        (run gatewayStep (gatewayBoot cfg) (List.replicate 60 (.scripts true))).out)).passed =
          true := by
  obtain ⟨cfg, hbooted, hota, hend⟩ := bootedConfig_scenario .happyPath
  refine ⟨cfg, hbooted, (otaLane_verdict cfg .happyPath _ (records_tracedBy _ _ _)).mpr ?_⟩
  rw [hend .healthy rfl]
  exact ⟨hota, 60, rfl, (periods_replicate 60 true).ge⟩

end Microcar.Dogfood
