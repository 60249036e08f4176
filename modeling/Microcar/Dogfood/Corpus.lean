import Microcar.Dogfood.Answers
import Microcar.Dogfood.OtaLane
import Microcar.Powertrain.MotorWords

/-!
# The seeded-bug corpus

A seed of the corpus runs a firmware variant with a seeded bug and the variant without it, and
three checks compare the two traces. Whether they pass is decided by what the two variants do, and
that is known for every run of theirs.
-/

namespace Microcar.Dogfood

open Microcar.Core Microcar.Gateway

/-- The machine that is the powertrain. -/
def nodePowertrain : Nat := 2

/-- A motor command as a trace word packs it. -/
structure MotorCommand where
  torque : Int8
  motorEnable : Bool
  deriving DecidableEq

/-- The motor commands in SERVICE. -/
def serviceMotorCommands (trace : List UserTrace) : List MotorCommand :=
  (trace.filter fun e => e.machine == nodePowertrain && e.label == "diag_motor_command").map
    fun e => ⟨(byteAt e.value 8).toInt8, e.value &&& 1 == 1⟩

/-- The heads of the diagnostic responses of the gateway. -/
def responseHeads (trace : List UserTrace) : List UInt32 :=
  (trace.filter fun e => e.machine == nodeGateway && e.label == "gateway_diag_response").map
    UserTrace.value

/-- The first response to a service and a request. -/
def firstHead (trace : List UserTrace) (service req : UInt8) : Option UInt32 :=
  (responseHeads trace).find? fun v => byteAt v 24 == req && byteAt v 16 == service

/-- The first value byte of the response to a request. -/
def diagResponseValue0 (trace : List UserTrace) (service req : UInt8) : Option UInt8 :=
  (firstHead trace service req).map fun v => (v &&& 0xff).toUInt8

/-- The number of codes that a response states. -/
def dtcCount (trace : List UserTrace) (req : UInt8) : Option UInt8 :=
  diagResponseValue0 trace mcDiagReadDtcs req

/-- Status and first value byte of the response to a request. -/
def diagResponseStatusValue0 (trace : List UserTrace) (service req : UInt8) :
    Option (UInt8 × UInt8) :=
  (firstHead trace service req).map fun v => (byteAt v 8, (v &&& 0xff).toUInt8)

/-- The bugs of the corpus. -/
inductive SeedKind where
  | otaRollback
  | serviceTorqueClamp
  | clearAllDtcs
  | startSessionInDrive
  deriving DecidableEq

/-- The verdict on one question about a seed. -/
structure CorpusCheck where
  name : String
  passed : Bool
  detail : String

/-- The traces of the two runs of a seed. -/
structure SeedTraces where
  failing : List UserTrace
  fixed : List UserTrace

/-- The three checks of a seed, each with its verdict and its detail. -/
def corpusChecks (reproduced fixed diverge : Bool × String) : List CorpusCheck :=
  [⟨"bug-reproduced", reproduced.1, reproduced.2⟩, ⟨"bug-fixed", fixed.1, fixed.2⟩,
    ⟨"traces-diverge", diverge.1, diverge.2⟩]

/-- An option as `{:?}` writes it. -/
def debugOption {α : Type} (debug : α → String) : Option α → String
  | some a => "Some(" ++ debug a ++ ")"
  | none => "None"

/-- A pair as `{:?}` writes it. -/
def debugPair (p : UInt8 × UInt8) : String := "(" ++ toString p.1 ++ ", " ++ toString p.2 ++ ")"

/-! ### The checks -/

/-- A session request in DRIVE is accepted by the buggy firmware and rejected by the fixed one. -/
def evaluateStartSessionInDrive (traces : SeedTraces) : List CorpusCheck :=
  let f := diagResponseStatusValue0 traces.failing mcDiagStartSession 1
  let x := diagResponseStatusValue0 traces.fixed mcDiagStartSession 1
  let reproduced := f == some (mcDiagOk, McVehicleMode.service.toByte)
  let fixed := x == some (mcDiagRejected, McVehicleMode.drive.toByte)
  let fStatus := f.map Prod.fst
  let xStatus := x.map Prod.fst
  let diverge := fStatus == some mcDiagOk && xStatus == some mcDiagRejected
  corpusChecks
    (reproduced,
      if reproduced then
        "buggy firmware accepted START_SESSION mid-drive (status=OK, mode=SERVICE) — the " ++
          "DRIVE guard was skipped"
      else
        "expected the buggy firmware to accept START_SESSION mid-drive (status=OK, " ++
          "mode=SERVICE); got " ++ debugOption debugPair f)
    (fixed,
      if fixed then
        "fixed firmware rejected START_SESSION mid-drive (status=REJECTED, mode=DRIVE) — the " ++
          "vehicle stayed in DRIVE"
      else
        "expected the fixed firmware to reject START_SESSION mid-drive (status=REJECTED, " ++
          "mode=DRIVE); got " ++ debugOption debugPair x)
    (diverge,
      if diverge then "START_SESSION status diverges: OK/accepted (buggy) vs REJECTED (fixed)"
      else
        "expected START_SESSION status OK (buggy) vs REJECTED (fixed); got " ++
          debugOption toString fStatus ++ " vs " ++ debugOption toString xStatus)

/-- Request ids of the script's two reads around its clear. -/
def reqReadDtcsPre : UInt8 := 3
/-- Request id of the reading behind the clear. -/
def reqReadDtcsPost : UInt8 := 5

/-- A clear for the BMS empties the table of the buggy firmware, and leaves the fixed one a code. -/
def evaluateClearAllDtcs (traces : SeedTraces) : List CorpusCheck :=
  let fPre := dtcCount traces.failing reqReadDtcsPre
  let fPost := dtcCount traces.failing reqReadDtcsPost
  let xPre := dtcCount traces.fixed reqReadDtcsPre
  let xPost := dtcCount traces.fixed reqReadDtcsPost
  let reproduced := fPre == some 2 && fPost == some 0
  let fixed := xPre == some 2 && xPost == some 1
  let diverge := fPost == some 0 && xPost == some 1
  corpusChecks
    (reproduced,
      if reproduced then
        "buggy firmware cleared ALL DTCs on a BMS-scoped clear: 2 before, 0 after " ++
          "(the powertrain fault was silently dropped)"
      else
        "expected the buggy firmware to go 2 → 0 DTCs on a BMS-scoped clear; got pre=" ++
          debugOption toString fPre ++ " post=" ++ debugOption toString fPost)
    (fixed,
      if fixed then
        "fixed firmware cleared only BMS DTCs: 2 before, 1 after (the powertrain " ++
          "fault survived the BMS-scoped clear)"
      else
        "expected the fixed firmware to go 2 → 1 DTCs on a BMS-scoped clear; got pre=" ++
          debugOption toString xPre ++ " post=" ++ debugOption toString xPost)
    (diverge,
      if diverge then "post-clear READ_DTCS count diverges: 0 (buggy) vs 1 (fixed)"
      else
        "expected post-clear count 0 (buggy) vs 1 (fixed); got " ++
          debugOption toString fPost ++ " vs " ++ debugOption toString xPost)

/-- `iter().map(|c| c.torque).max().unwrap_or(0)`. -/
def maxTorque (commands : List MotorCommand) : Int8 :=
  ((commands.map MotorCommand.torque).max?).getD 0

/-- The buggy firmware states torque in SERVICE, and the fixed one none. -/
def evaluateServiceTorqueClamp (traces : SeedTraces) : List CorpusCheck :=
  let f := serviceMotorCommands traces.failing
  let x := serviceMotorCommands traces.fixed
  let reproduced := !f.isEmpty && f.any fun c => decide (0 < c.torque) && c.motorEnable
  let fixed := !x.isEmpty && x.all fun c => c.torque == 0 && !c.motorEnable
  let fMax := maxTorque f
  let xMax := maxTorque x
  let diverge := decide (0 < fMax) && xMax == 0
  corpusChecks
    (reproduced,
      if reproduced then
        "buggy firmware commanded drive torque in SERVICE (max torque " ++ toString fMax ++
          ", motor enabled) — the SERVICE clamp was skipped"
      else if f.isEmpty then
        "expected SERVICE-mode diag_motor_command events from the buggy firmware; saw none"
      else
        "expected the buggy firmware to command torque>0 in SERVICE; max torque was " ++
          toString fMax)
    (fixed,
      if fixed then
        "fixed firmware clamped every SERVICE motor command to torque 0 with the motor disabled"
      else if x.isEmpty then
        "expected SERVICE-mode diag_motor_command events from the fixed firmware; saw none"
      else
        "expected the fixed firmware to clamp SERVICE torque to 0; max torque was " ++
          toString xMax)
    (diverge,
      if diverge then
        "SERVICE motor commands diverge: buggy max torque " ++ toString fMax ++
          " (motor enabled) vs fixed 0 (motor disabled)"
      else
        "expected divergence (buggy torque>0 vs fixed 0); got buggy " ++ toString fMax ++
          " vs fixed " ++ toString xMax)

/-- The buggy firmware boots the corrupt image, and the fixed one rolls back. -/
def evaluateOtaRollback (traces : SeedTraces) : List CorpusCheck :=
  let f := traces.failing
  let x := traces.fixed
  let booted := anyValue f nodeGateway "ota_boot_result" 1
  let noRollback := !anyValue f nodeGateway "ota_rollback" 1
  let reproduced := booted && noRollback
  let rolledBack := anyValue x nodeGateway "ota_rollback" 1
  let slotA := lastValue x nodeGateway "ota_active_slot" == some 0
  let neverBooted := !anyValue x nodeGateway "ota_boot_result" 1
  let fixed := rolledBack && slotA && neverBooted
  let fCrc := lastValue f nodeGateway "ota_crc_ok"
  let xCrc := lastValue x nodeGateway "ota_crc_ok"
  let crcDiverges := fCrc == some 1 && xCrc == some 0
  let fEnd := (stateValues f nodeGateway).getLast?
  let xEnd := (stateValues x nodeGateway).getLast?
  let stateDiverges := fEnd == some 5 && xEnd == some 6
  let diverge := crcDiverges && stateDiverges
  corpusChecks
    (reproduced,
      if reproduced then
        "buggy firmware booted the corrupt image (ota_boot_result=1, no ota_rollback)"
      else if !booted then
        "expected the buggy firmware to reach a healthy boot (ota_boot_result=1); it did not"
      else
        "expected the buggy firmware NOT to roll back, but it emitted ota_rollback=1")
    (fixed,
      if fixed then
        "fixed firmware rolled back to slot A (ota_rollback=1, ota_active_slot=0, never booted)"
      else if !rolledBack then
        "expected the fixed firmware to roll back (ota_rollback=1); it did not"
      else if !slotA then
        "expected the fixed firmware to stay on slot A (ota_active_slot=0)"
      else
        "expected the fixed firmware to never boot the corrupt image, but ota_boot_result=1")
    (diverge,
      if diverge then
        "traces diverge at VERIFYING: ota_crc_ok 1 (buggy) vs 0 (fixed), ending HEALTHY(5) vs " ++
          "ROLLED_BACK(6)"
      else
        "expected divergence crc_ok 1 vs 0 and end-state 5 vs 6; got crc " ++
          debugOption toString fCrc ++ " vs " ++ debugOption toString xCrc ++ ", end " ++
          debugOption toString fEnd ++ " vs " ++ debugOption toString xEnd)

/-- The checks of a seed. -/
def evaluateSeed (kind : SeedKind) (traces : SeedTraces) : List CorpusCheck :=
  match kind with
  | .otaRollback => evaluateOtaRollback traces
  | .serviceTorqueClamp => evaluateServiceTorqueClamp traces
  | .clearAllDtcs => evaluateClearAllDtcs traces
  | .startSessionInDrive => evaluateStartSessionInDrive traces

/-- The end of `run_seed`, behind two runs that passed. -/
def seedPassed (kind : SeedKind) (traces : SeedTraces) : Bool :=
  let checks := evaluateSeed kind traces
  !checks.isEmpty && checks.all CorpusCheck.passed

/-- A seed passes if its three checks do. -/
theorem corpusChecks_passed (reproduced fixed diverge : Bool × String) :
    (!(corpusChecks reproduced fixed diverge).isEmpty &&
      (corpusChecks reproduced fixed diverge).all CorpusCheck.passed) =
        (reproduced.1 && fixed.1 && diverge.1) := by
  simp [corpusChecks, Bool.and_assoc]

/-! ### The update -/

/-- The words of an update that the corpus takes for a boot of the corrupt image. -/
def bootsCorrupt (words : List OtaWord) : Bool :=
  (valuesOf words .bootResult).contains 1 && !(valuesOf words .rollback).contains 1 &&
    (valuesOf words .crcOk).getLast? == some 1 && (valuesOf words .state).getLast? == some 5

/-- The words of an update that it takes for a rollback from the corrupt image. -/
def rollsBackCorrupt (words : List OtaWord) : Bool :=
  (valuesOf words .rollback).contains 1 && (valuesOf words .activeSlot).getLast? == some 0 &&
    !(valuesOf words .bootResult).contains 1 && (valuesOf words .crcOk).getLast? == some 0 &&
    (valuesOf words .state).getLast? == some 6

theorem seedPassed_otaRollback {fout xout : List Emission} {traces : SeedTraces}
    (hf : Records otaLabels nodeGateway fout traces.failing)
    (hx : Records otaLabels nodeGateway xout traces.fixed) :
    seedPassed .otaRollback traces =
      (bootsCorrupt (otaWords fout) && rollsBackCorrupt (otaWords xout)) := by
  have hbooted : ∀ {out trace}, Records otaLabels nodeGateway out trace →
      anyValue trace nodeGateway "ota_boot_result" 1 =
        (valuesOf (otaWords out) .bootResult).contains 1 := fun h => anyValue_eq h .bootResult 1
  have hrolled : ∀ {out trace}, Records otaLabels nodeGateway out trace →
      anyValue trace nodeGateway "ota_rollback" 1 =
        (valuesOf (otaWords out) .rollback).contains 1 := fun h => anyValue_eq h .rollback 1
  have hcrc : ∀ {out trace}, Records otaLabels nodeGateway out trace →
      lastValue trace nodeGateway "ota_crc_ok" = (valuesOf (otaWords out) .crcOk).getLast? :=
    fun h => lastValue_eq h .crcOk
  have hslot : lastValue traces.fixed nodeGateway "ota_active_slot" =
      (valuesOf (otaWords xout) .activeSlot).getLast? := lastValue_eq hx .activeSlot
  rw [seedPassed, evaluateSeed, evaluateOtaRollback, corpusChecks_passed]
  dsimp only
  rw [hbooted hf, hbooted hx, hrolled hf, hrolled hx, hcrc hf, hcrc hx, hslot, stateValues_eq hf,
    stateValues_eq hx, bootsCorrupt, rollsBackCorrupt]
  ac_rfl

/-- What the corpus takes for the corrupt image behind some of the six actions. -/
theorem corrupt_report (outcome : OtaEnd) (k : Nat) :
    bootsCorrupt (outcome.report.take k).flatten = decide (outcome = .healthy ∧ 6 ≤ k) ∧
      rollsBackCorrupt (outcome.report.take k).flatten =
        decide (outcome = .badCrc ∧ 3 ≤ k) := by
  have hfew : ∀ k ≤ 6,
      bootsCorrupt (outcome.report.take k).flatten = decide (outcome = .healthy ∧ 6 ≤ k) ∧
        rollsBackCorrupt (outcome.report.take k).flatten =
          decide (outcome = .badCrc ∧ 3 ≤ k) := by
    intro k hk
    match k, hk with
    | 0, _ | 1, _ | 2, _ | 3, _ | 4, _ | 5, _ | 6, _ => cases outcome <;> exact ⟨rfl, rfl⟩
  rcases Nat.le_total k 6 with hle | hge
  · exact hfew k hle
  · have hall := hfew 6 le_rfl
    rw [List.take_of_length_le (by cases outcome <;> rfl)] at hall
    rw [List.take_of_length_le (by cases outcome <;> exact hge), hall.1, hall.2]
    have hthree : 3 ≤ k := by omega
    simp [hge, hthree]

/-- Whatever two firmware variants with an update script are compared, the seed passes exactly if
the first boots a new slot, the second rolls back from a bad checksum, and both have had the
periods for it. -/
theorem otaRollbackSeed_passes_iff {failing fixed : GatewayConfig}
    (hfailing : failing.otaDogfoodScript = true) (hfixed : fixed.otaDogfoodScript = true)
    (fops xops : List GatewayOp) {traces : SeedTraces}
    (hf : Records otaLabels nodeGateway (run gatewayStep (gatewayBoot failing) fops).out
      traces.failing)
    (hx : Records otaLabels nodeGateway (run gatewayStep (gatewayBoot fixed) xops).out
      traces.fixed) :
    seedPassed .otaRollback traces = true ↔
      (failing.otaEnd = .healthy ∧ 60 ≤ periods fops) ∧
        fixed.otaEnd = .badCrc ∧ 30 ≤ periods xops := by
  rw [seedPassed_otaRollback hf hx, otaWords_gatewayRun hfailing, otaWords_gatewayRun hfixed,
    (corrupt_report _ _).1, (corrupt_report _ _).2, Bool.and_eq_true, decide_eq_true_iff,
    decide_eq_true_iff]
  have hsixty : 6 ≤ periods fops / 10 ↔ 60 ≤ periods fops := by omega
  have hthirty : 3 ≤ periods xops / 10 ↔ 30 ≤ periods xops := by omega
  rw [hsixty, hthirty]

/-- The variants of the seed, run for as long as it takes. -/
theorem otaRollbackSeed_passes :
    ∃ failing fixed, bootedConfig "gateway" "firmware/gateway_ota_crcbug" = some failing ∧
      bootedConfig "gateway" "firmware/gateway_ota_badcrc" = some fixed ∧
      seedPassed .otaRollback
        ⟨tracedBy nodeGateway (run gatewayStep (gatewayBoot failing)
            (List.replicate 60 (.scripts true))).out,
          tracedBy nodeGateway (run gatewayStep (gatewayBoot fixed)
            (List.replicate 30 (.scripts true))).out⟩ = true := by
  refine ⟨_, _, rfl, rfl, (otaRollbackSeed_passes_iff rfl rfl _ _ (records_tracedBy _ _ _)
    (records_tracedBy _ _ _)).mpr ⟨⟨rfl, ?_⟩, rfl, ?_⟩⟩
  · exact (periods_replicate 60 true).ge
  · exact (periods_replicate 30 true).ge

/-! ### The clamp of SERVICE -/

/-- A trace word of a motor command, taken apart. -/
def commandOf (word : UInt32) : MotorCommand := ⟨(byteAt word 8).toInt8, word &&& 1 == 1⟩

theorem serviceMotorCommands_eq {out : List Emission} {trace : List UserTrace}
    (h : Records ["diag_motor_command"] nodePowertrain out trace) :
    serviceMotorCommands trace = (wordsUnder "diag_motor_command" out).map commandOf := by
  rw [← h.values List.mem_cons_self, List.map_map]
  rfl

/-- The largest torque of commands that state one torque. -/
theorem maxTorque_of_forall {commands : List MotorCommand} {torque : Int8}
    (hne : commands ≠ []) (h : ∀ c ∈ commands, c.torque = torque) :
    maxTorque commands = torque := by
  have hall : commands.map MotorCommand.torque = List.replicate commands.length torque := by
    apply List.eq_replicate_iff.mpr
    refine ⟨List.length_map _, fun t ht => ?_⟩
    obtain ⟨c, hc, rfl⟩ := List.mem_map.mp ht
    exact h c hc
  have hlength : commands.length ≠ 0 := fun hzero => hne (List.eq_nil_of_length_eq_zero hzero)
  have hidem : Std.IdempotentOp (max : Int8 → Int8 → Int8) := ⟨fun _ => ite_self _⟩
  rw [maxTorque, hall, List.max?_replicate, if_neg hlength]
  rfl

theorem commandOf_drivingWord (enabled : Bool) :
    commandOf (Powertrain.drivingWord enabled) = ⟨80, enabled⟩ := by
  cases enabled <;> decide

open Powertrain in
/-- The seed passes exactly if the powertrain without the clamp gets through an iteration that no
timeout preempts, and the one with it goes through any iteration at all. -/
theorem serviceTorqueSeed_passes_iff (fops xops : List PowertrainOp) {traces : SeedTraces}
    (hf : Records ["diag_motor_command"] nodePowertrain
      (run powertrainStep (powertrainBoot true false true) fops).out traces.failing)
    (hx : Records ["diag_motor_command"] nodePowertrain
      (run powertrainStep (powertrainBoot true false false) xops).out traces.fixed) :
    seedPassed .serviceTorqueClamp traces = true ↔
      DrivesThrough (powertrainBoot true false true) fops ∧ 0 < iterations xops := by
  obtain ⟨hall, hlive⟩ := wordsUnder_skippedRun fops
  have hclamped : serviceMotorCommands traces.fixed =
      List.replicate (iterations xops) (commandOf 0) := by
    have hforced : forcedMode true false = some .service := rfl
    rw [serviceMotorCommands_eq hx, wordsUnder_forcedRun hforced rfl, List.map_replicate]
  have hfailing := serviceMotorCommands_eq hf
  have htorque : ∀ c ∈ serviceMotorCommands traces.failing, ∃ enabled, c = ⟨80, enabled⟩ := by
    intro c hc
    rw [hfailing] at hc
    obtain ⟨word, hword, rfl⟩ := List.mem_map.mp hc
    obtain ⟨enabled, rfl⟩ := hall word hword
    exact ⟨enabled, commandOf_drivingWord enabled⟩
  have henabled : (⟨80, true⟩ : MotorCommand) ∈ serviceMotorCommands traces.failing ↔
      DrivesThrough (powertrainBoot true false true) fops := by
    rw [← hlive, hfailing, List.mem_map]
    constructor
    · rintro ⟨word, hword, hcommand⟩
      obtain ⟨enabled, rfl⟩ := hall word hword
      rw [commandOf_drivingWord] at hcommand
      rw [(MotorCommand.mk.inj hcommand).2] at hword
      exact hword
    · exact fun hword => ⟨_, hword, commandOf_drivingWord true⟩
  have hzero : commandOf 0 = ⟨0, false⟩ := by decide
  have hany : ((serviceMotorCommands traces.failing).any fun c =>
      decide (0 < c.torque) && c.motorEnable) = true ↔
        DrivesThrough (powertrainBoot true false true) fops := by
    rw [← henabled, List.any_eq_true]
    constructor
    · rintro ⟨c, hc, hdrives⟩
      obtain ⟨enabled, rfl⟩ := htorque c hc
      obtain ⟨-, rfl⟩ := Bool.and_eq_true_iff.mp hdrives
      exact hc
    · exact fun hc => ⟨_, hc, rfl⟩
  have hrest : (!(serviceMotorCommands traces.fixed).isEmpty &&
      (serviceMotorCommands traces.fixed).all fun c => c.torque == 0 && !c.motorEnable) = true ↔
        0 < iterations xops := by
    rw [hclamped, hzero]
    cases iterations xops with
    | zero => simp
    | succ n => simp
  rw [seedPassed, evaluateSeed, evaluateServiceTorqueClamp, corpusChecks_passed]
  simp only [Bool.and_eq_true, hany]
  rw [← Bool.and_eq_true, hrest]
  constructor
  · rintro ⟨⟨⟨-, hdrives⟩, hruns⟩, -⟩
    exact ⟨hdrives, hruns⟩
  · rintro ⟨hdrives, hruns⟩
    have hmem := henabled.mpr hdrives
    have hne : serviceMotorCommands traces.failing ≠ [] := List.ne_nil_of_mem hmem
    have hclampedNe : serviceMotorCommands traces.fixed ≠ [] := by
      rw [hclamped]
      exact fun hnil => by simp at hnil; omega
    have hfMax : maxTorque (serviceMotorCommands traces.failing) = 80 := by
      refine maxTorque_of_forall hne fun c hc => ?_
      obtain ⟨enabled, rfl⟩ := htorque c hc
      rfl
    have hxMax : maxTorque (serviceMotorCommands traces.fixed) = 0 := by
      refine maxTorque_of_forall hclampedNe fun c hc => ?_
      rw [hclamped] at hc
      rw [List.eq_of_mem_replicate hc, hzero]
    rw [hfMax, hxMax]
    refine ⟨⟨⟨?_, hdrives⟩, hruns⟩, by decide⟩
    simpa using hne

open Powertrain in
/-- The variants of the seed, through one iteration each. -/
theorem serviceTorqueSeed_passes :
    ∃ failing fixed,
      bootedPowertrain "powertrain" "firmware/powertrain_diag_service_bug_ecu" = some failing ∧
      bootedPowertrain "powertrain" "firmware/powertrain_diag_service_ecu" = some fixed ∧
      seedPassed .serviceTorqueClamp
        ⟨tracedBy nodePowertrain (run powertrainStep failing [.command 10 {}]).out,
          tracedBy nodePowertrain (run powertrainStep fixed [.command 10 {}]).out⟩ = true := by
  refine ⟨_, _, rfl, rfl, (serviceTorqueSeed_passes_iff [.command 10 {}] [.command 10 {}]
    (records_tracedBy _ _ _) (records_tracedBy _ _ _)).mpr ⟨?_, Nat.one_pos⟩⟩
  exact ⟨[], 10, {}, [], rfl, rfl⟩

/-! ### The session in DRIVE -/

/-- The first answer to a service and a request. -/
def firstAnswer (key : DiagKey) (out : List Emission) : Option DiagCall :=
  (answersIn out).find? fun call => call.key == key

/-- What the corpus decodes is the first answer. -/
theorem diagResponseStatusValue0_eq {out : List Emission} {trace : List UserTrace}
    (hwhole : out.filter isAnswer = (answersIn out).flatMap DiagCall.emissions)
    (htrace : Records ["gateway_diag_response"] nodeGateway out trace) (service req : UInt8) :
    diagResponseStatusValue0 trace service req =
      (firstAnswer (service, req) out).map fun call => (call.reply.status, call.reply.value0) := by
  have hheads : responseHeads trace = (answersIn out).map DiagCall.head := by
    rw [← wordsUnder_head hwhole, ← htrace.values List.mem_cons_self]
    rfl
  have hbytes : ∀ call : DiagCall, byteAt call.head 24 = call.requestId ∧
      byteAt call.head 16 = call.service ∧ byteAt call.head 8 = call.reply.status ∧
        (call.head &&& 0xff).toUInt8 = call.reply.value0 := fun call => byteAt_dword _ _ _ _
  rw [diagResponseStatusValue0, firstHead, hheads, List.find?_map, firstAnswer, Option.map_map]
  congr 1
  · funext call
    obtain ⟨-, -, hstatus, hvalue⟩ := hbytes call
    rw [Function.comp_apply, hstatus, hvalue]
  · congr 1
    funext call
    obtain ⟨hreq, hservice, -, -⟩ := hbytes call
    rw [Function.comp_apply, hreq, hservice, DiagCall.key, Bool.and_comm]
    rfl

/-- No frame asks this before the period behind `n` others is over. -/
def Unasked (key : DiagKey) (n : Nat) (ops : List GatewayOp) : Prop :=
  ∀ before f take after, ops = before ++ .frame f take :: after → periods before ≤ n →
    key ∉ requestsOf f.toMcCanFrame

theorem Unasked.prefix {key : DiagKey} {n : Nat} {ops rest : List GatewayOp}
    (h : Unasked key n (ops ++ rest)) : Unasked key n ops :=
  fun before f take after hcut => h before f take (after ++ rest) (by rw [hcut]; simp)

theorem unasked_replicate (key : DiagKey) (n count : Nat) (take : Bool) :
    Unasked key n (List.replicate count (.scripts take)) := by
  intro before f take' after hcut
  have hmem : GatewayOp.frame f take' ∈ List.replicate count (.scripts take) := by
    rw [hcut]
    exact List.mem_append_right _ List.mem_cons_self
  exact absurd (List.eq_of_mem_replicate hmem) (by simp)

/-- A request that no frame brings is not there before its script asks it. -/
theorem not_mem_requestsFrom {cfg : GatewayConfig} {key : DiagKey} {n : Nat}
    {ops : List GatewayOp} (hunasked : Unasked key n ops)
    (hscripts : ∀ r ∈ scriptRequests cfg, r.2 = key → periodMs * n < r.1)
    (hearly : periods ops ≤ n) : key ∉ requestsFrom cfg 0 ops := by
  induction ops using List.reverseRecOn with
  | nil => exact List.not_mem_nil
  | append_singleton ops op ih =>
    have hcount : periods (ops ++ [op]) = periods ops + if op.isPeriod then 1 else 0 := by
      rw [periods, List.countP_append, List.countP_singleton]
      rfl
    rw [requestsFrom_snoc, Nat.zero_add, List.mem_append, not_or]
    refine ⟨ih hunasked.prefix (by omega), ?_⟩
    cases op with
    | frame f take => exact hunasked ops f take [] rfl (by omega)
    | scripts take =>
      intro hmem
      obtain ⟨r, hr, hkey⟩ := List.mem_map.mp hmem
      obtain ⟨hr, hin⟩ := List.mem_filter.mp hr
      have hlate := hscripts r hr hkey
      have hone : (GatewayOp.scripts take).isPeriod = true := rfl
      rw [hcount, if_pos hone] at hearly
      simp only [inPeriod, Bool.and_eq_true, decide_eq_true_eq] at hin
      have hle := Nat.mul_le_mul_left periodMs hearly
      omega
    | _ => exact List.not_mem_nil

/-- The log behind a period holds the answer of its first action. -/
theorem answersIn_period {cfg : GatewayConfig} {n : Nat} {before : List GatewayOp} {take : Bool}
    {a : ScriptAction} {rest : List ScriptAction} {call : DiagCall} (hn : periods before = n)
    (hfalling : fallingDue n (enabledActions cfg take) = a :: rest)
    (hanswer : Answers [call] (run plannedStep (plannedBoot cfg) before).ctx
      (a.act (run plannedStep (plannedBoot cfg) before).ctx)) :
    answersIn (run gatewayStep (gatewayBoot cfg) before).out ++ [call] <+:
      answersIn (run gatewayStep (gatewayBoot cfg) (before ++ [.scripts take])).out := by
  have hkept : (run plannedStep (plannedBoot cfg) before).ctx.cfg = cfg := cfg_plannedRun cfg before
  have hperiod : (run plannedStep (plannedBoot cfg) before).period = n :=
    (period_run cfg before).trans hn
  rw [← out_plannedRun, ← out_plannedRun, run_snoc]
  generalize run plannedStep (plannedBoot cfg) before = s at hkept hperiod hanswer ⊢
  have hrest : ∀ b ∈ rest, b ∈ enabledActions cfg take := by
    intro b hb
    have hmem : b ∈ fallingDue n (enabledActions cfg take) := by
      rw [hfalling]
      exact List.mem_cons_of_mem a hb
    exact List.mem_of_mem_filter hmem
  have hgrows : (a.act s.ctx).out <+: (actAll ScriptAction.act rest (a.act s.ctx)).out :=
    actAll_invariant (I := fun c => (a.act s.ctx).out <+: GatewayCtx.out c)
      (fun b hb c hc => hc.trans (logGrows.enabledActions b (hrest b hb) c)) List.prefix_rfl
  rw [plannedStep, hkept, hperiod, hfalling, ← hanswer.answersIn]
  exact answersIn_mono hgrows

/-- Where only a script asks, its answer is the first, once its period has come. -/
theorem firstAnswer_eq {cfg : GatewayConfig} {key : DiagKey} {call : DiagCall} {n : Nat}
    {ops : List GatewayOp} (hcall : call.key = key) (hunasked : Unasked key n ops)
    (hscripts : ∀ r ∈ scriptRequests cfg, r.2 = key → periodMs * n < r.1)
    (hperiod : ∀ before take after, ops = before ++ .scripts take :: after →
      periods before = n → answersIn (run gatewayStep (gatewayBoot cfg) before).out ++ [call] <+:
        answersIn (run gatewayStep (gatewayBoot cfg) (before ++ [.scripts take])).out) :
    firstAnswer key (run gatewayStep (gatewayBoot cfg) ops).out =
      if n < periods ops then some call else none := by
  have hnone : ∀ {ops : List GatewayOp}, Unasked key n ops → periods ops ≤ n →
      firstAnswer key (run gatewayStep (gatewayBoot cfg) ops).out = none := by
    intro ops hunasked hearly
    rw [firstAnswer, List.find?_eq_none]
    intro call hmem hkey
    have hasked : key ∈ requestsFrom cfg 0 ops := by
      rw [← (answers_gatewayRun cfg ops).2, List.mem_map]
      exact ⟨call, hmem, beq_iff_eq.mp hkey⟩
    exact not_mem_requestsFrom hunasked hscripts hearly hasked
  by_cases hlate : n < periods ops
  · obtain ⟨before, take, after, rfl, hn⟩ := exists_period_cut hlate
    have hlog : (run gatewayStep (gatewayBoot cfg) (before ++ [.scripts take])).out <+:
        (run gatewayStep (gatewayBoot cfg) (before ++ .scripts take :: after)).out := by
      have hrun : run gatewayStep (gatewayBoot cfg) (before ++ .scripts take :: after) =
          run gatewayStep (run gatewayStep (gatewayBoot cfg) (before ++ [.scripts take]))
            after := by
        rw [← run_append, List.append_assoc]
        rfl
      rw [hrun]
      exact grows_gatewayRun _ after
    obtain ⟨more, hmore⟩ := (hperiod before take after rfl hn).trans (answersIn_mono hlog)
    have hfirst := hnone hunasked.prefix hn.le
    rw [firstAnswer] at hfirst
    rw [if_pos hlate, firstAnswer, ← hmore, List.find?_append, List.find?_append, hfirst, ← hcall]
    simp
  · rw [if_neg hlate]
    exact hnone hunasked (Nat.not_lt.mp hlate)

/-- How a request for a session in DRIVE is answered. -/
def sessionInDrive (cfg : GatewayConfig) : DiagCall :=
  ⟨mcDiagStartSession, 1,
    if cfg.diagStartsessionDriveBug then ⟨mcDiagOk, McVehicleMode.service.toByte, 0⟩
    else ⟨mcDiagRejected, McVehicleMode.drive.toByte, 0⟩⟩

/-- The first action of the script asks for a session in DRIVE, whatever the mode was. -/
theorem answers_startInDrive (ctx : GatewayCtx) (take : Bool) :
    Answers [sessionInDrive ctx.cfg] ctx
      (synthDiagRequest mcDiagStartSession 1 take (ctx.setMode .drive).announceMode) := by
  have hentered : Answers [] ctx (ctx.setMode .drive).announceMode := by
    have hset : Speaks ["vehicle_mode"] ctx (ctx.setMode .drive) := .of_eq rfl
    exact answers_of_speaks (hset.trans (speaks_announceMode (by simp) _))
      (silent_trace _ _ _ _) (by simp)
  have hanswer := @answers_handleDiagRequest
    (mcFrameInit mcMsgDiagRequest mcNodeDiagnostics mcDiagRequestMsgSize
      |>.put 0 mcNodeDiagnostics |>.put 1 mcDiagStartSession |>.put 2 1)
    (UInt8.le_refl _) (ctx.setMode .drive).announceMode take
  have hcall : answerTo (ctx.setMode .drive).announceMode
      (mcFrameInit mcMsgDiagRequest mcNodeDiagnostics mcDiagRequestMsgSize
        |>.put 0 mcNodeDiagnostics |>.put 1 mcDiagStartSession |>.put 2 1) take =
      sessionInDrive ctx.cfg := by
    have hcfg : (ctx.setMode .drive).announceMode.cfg = ctx.cfg := rfl
    have hmode : (ctx.setMode .drive).announceMode.gs.mode = .drive := rfl
    simp only [answerTo, McCanFrame.get_data_put, diagService, startSession, hcfg, hmode,
      sessionInDrive]
    cases ctx.cfg.diagStartsessionDriveBug <;> rfl
  rw [hcall] at hanswer
  exact hentered.trans hanswer

/-- The script whose first action is a session in DRIVE, and no other that asks for one. -/
structure StartsInDrive (cfg : GatewayConfig) : Prop where
  script : cfg.diagStartdriveScript = true
  alone : cfg.diagDogfoodScript = false

/-- The tenth period starts with the request. -/
theorem fallingDue_startInDrive {cfg : GatewayConfig} (hcfg : StartsInDrive cfg) (take : Bool) :
    ∃ rest, fallingDue 9 (enabledActions cfg take) =
      ⟨100, 0x01, fun ctx => synthDiagRequest mcDiagStartSession 1 take
        (ctx.setMode .drive).announceMode⟩ :: rest := by
  have hsplit : enabledActions cfg take = startdriveScriptActions take ++
      ((if cfg.chargingDogfoodScript then chargingScriptActions else []) ++
        (if cfg.otaDogfoodScript then otaScriptActions cfg else [])) := by
    simp [enabledActions, aloofActions, hcfg.script, hcfg.alone]
  have hfirst : falling ScriptAction.dueMs periodMs 9 (startdriveScriptActions take) =
      [⟨100, 0x01, fun ctx => synthDiagRequest mcDiagStartSession 1 take
        (ctx.setMode .drive).announceMode⟩] := by
    simp [falling, startdriveScriptActions, periodMs]
  rw [hsplit, fallingDue, falling_append, hfirst]
  exact ⟨_, rfl⟩

/-- The first answer to the script's request, in a run that comes to it. -/
theorem firstAnswer_startInDrive {cfg : GatewayConfig} (hcfg : StartsInDrive cfg)
    {ops : List GatewayOp} (hunasked : Unasked (mcDiagStartSession, 1) 9 ops) :
    firstAnswer (mcDiagStartSession, 1) (run gatewayStep (gatewayBoot cfg) ops).out =
      if 9 < periods ops then some (sessionInDrive cfg) else none := by
  refine firstAnswer_eq rfl hunasked (fun r hr hkey => ?_) ?_
  · rw [scriptRequests, hcfg.script, hcfg.alone] at hr
    simp only [Bool.false_eq_true, if_false, if_true, List.nil_append, List.mem_cons,
      List.not_mem_nil, or_false] at hr
    rcases hr with rfl | rfl
    · decide
    · exact absurd hkey (by decide)
  · intro before take after _ hnine
    obtain ⟨rest, hfalling⟩ := fallingDue_startInDrive hcfg take
    have hanswer := answers_startInDrive (run plannedStep (plannedBoot cfg) before).ctx take
    rw [cfg_plannedRun] at hanswer
    exact answersIn_period hnine hfalling hanswer

/-- Whatever two variants with the script are compared, and whatever comes in besides, the seed
passes exactly if the first lacks the guard, the second has it, and both come to the request. -/
theorem startSessionSeed_passes_iff {failing fixed : GatewayConfig}
    (hfailing : StartsInDrive failing) (hfixed : StartsInDrive fixed) {fops xops : List GatewayOp}
    (hfunasked : Unasked (mcDiagStartSession, 1) 9 fops)
    (hxunasked : Unasked (mcDiagStartSession, 1) 9 xops) {traces : SeedTraces}
    (hf : Records ["gateway_diag_response"] nodeGateway
      (run gatewayStep (gatewayBoot failing) fops).out traces.failing)
    (hx : Records ["gateway_diag_response"] nodeGateway
      (run gatewayStep (gatewayBoot fixed) xops).out traces.fixed) :
    seedPassed .startSessionInDrive traces = true ↔
      (failing.diagStartsessionDriveBug = true ∧ 10 ≤ periods fops) ∧
        fixed.diagStartsessionDriveBug = false ∧ 10 ≤ periods xops := by
  have hfirst := diagResponseStatusValue0_eq (answers_gatewayRun failing fops).1 hf
    mcDiagStartSession 1
  have hsecond := diagResponseStatusValue0_eq (answers_gatewayRun fixed xops).1 hx
    mcDiagStartSession 1
  rw [firstAnswer_startInDrive hfailing hfunasked] at hfirst
  rw [firstAnswer_startInDrive hfixed hxunasked] at hsecond
  rw [seedPassed, evaluateSeed, evaluateStartSessionInDrive, corpusChecks_passed]
  simp only [hfirst, hsecond]
  have hten : ∀ n, 9 < n ↔ 10 ≤ n := fun n => Nat.succ_le_iff
  simp only [hten]
  by_cases hften : 10 ≤ periods fops
  · by_cases hxten : 10 ≤ periods xops
    · rw [if_pos hften, if_pos hxten]
      cases hfbug : failing.diagStartsessionDriveBug <;>
        cases hxbug : fixed.diagStartsessionDriveBug <;>
          simp [sessionInDrive, hfbug, hxbug, hften, hxten, mcDiagOk, mcDiagRejected]
    · simp [hxten]
  · simp [hften]

/-- The variants of the seed, run until the request. -/
theorem startSessionSeed_passes :
    ∃ failing fixed,
      bootedConfig "gateway" "firmware/gateway_diag_startdrivebug_ecu" = some failing ∧
      bootedConfig "gateway" "firmware/gateway_diag_startdrive_ecu" = some fixed ∧
      seedPassed .startSessionInDrive
        ⟨tracedBy nodeGateway (run gatewayStep (gatewayBoot failing)
            (List.replicate 10 (.scripts true))).out,
          tracedBy nodeGateway (run gatewayStep (gatewayBoot fixed)
            (List.replicate 10 (.scripts true))).out⟩ = true := by
  have hunasked := unasked_replicate (mcDiagStartSession, 1) 9 10 true
  have hten : 10 ≤ periods (List.replicate 10 (.scripts true)) := (periods_replicate 10 true).ge
  exact ⟨_, _, rfl, rfl, (startSessionSeed_passes_iff ⟨rfl, rfl⟩ ⟨rfl, rfl⟩ hunasked hunasked
    (records_tracedBy _ _ _) (records_tracedBy _ _ _)).mpr ⟨⟨rfl, hten⟩, rfl, hten⟩⟩

end Microcar.Dogfood
