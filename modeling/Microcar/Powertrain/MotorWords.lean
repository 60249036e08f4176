import Microcar.Powertrain.Command

/-!
# Trace words of the motor command

In SERVICE and CHARGING the loop traces each motor command as a word of its torque and its enable
flag. With the clamp in place every such word is zero, and the firmware variants that force one of
the two modes trace one word in every iteration. With the clamp skipped the words say a torque.
-/

namespace Microcar.Powertrain

open Microcar.Core

/-- The label under which a mode traces its motor commands. -/
def motorLabel : McVehicleMode → Option String
  | .service => some "diag_motor_command"
  | .charging => some "charging_motor_command"
  | _ => none

/-- The words that a step traces under a label. -/
def motorWords (label : String) (ctx : PowertrainCtx) : PowertrainOp → List UInt32
  | .command _ preempt =>
    if motorLabel (forceModes ctx).tc.vehicleMode = some label then
      [motorCommandWord ((preempt.computed ++ preempt.built).foldl watchdogTimerCb
        (computeTorque (forceModes ctx)).1) (computeTorque (forceModes ctx)).2]
    else []
  | _ => []

/-- The label belongs to the motor commands of a mode. -/
def IsMotorLabel (label : String) : Prop := ∃ mode, motorLabel mode = some label

theorem isMotorLabel_iff {label : String} :
    IsMotorLabel label ↔ label = "diag_motor_command" ∨ label = "charging_motor_command" := by
  constructor
  · rintro ⟨mode, hmode⟩
    cases mode <;> simp_all [motorLabel]
  · rintro (rfl | rfl)
    · exact ⟨.service, rfl⟩
    · exact ⟨.charging, rfl⟩

/-- Callbacks trace nothing under such a label. -/
theorem wordsUnder_timerTraces {label : String} (hlabel : IsMotorLabel label) (wd : WatchdogTask)
    (preempt : List UInt32) : wordsUnder label (timerTraces wd preempt) = [] := by
  induction preempt generalizing wd with
  | nil => rfl
  | cons nowMs preempt ih =>
    have hother : (if (watchdogCheck wd nowMs).2 then "gateway_timeout" else "watchdog_ok") ≠
        label := by
      rcases isMotorLabel_iff.mp hlabel with rfl | rfl <;> split <;> simp
    rw [timerTraces, ← List.singleton_append, wordsUnder_append, wordsUnder_trace_of_ne hother, ih,
      List.nil_append]

/-- The trace of a motor command is one word under the label of its mode. -/
theorem wordsUnder_motorTraces {label : String} (hlabel : IsMotorLabel label)
    (ctx : PowertrainCtx) (torque : Int8) :
    wordsUnder label (motorTraces ctx torque) =
      if motorLabel ctx.tc.vehicleMode = some label then [motorCommandWord ctx torque] else [] := by
  rw [motorTraces, wordsUnder_append]
  have hdiag : wordsUnder "diag_motor_command"
      [.trace "charging_motor_command" (motorCommandWord ctx torque)] = [] :=
    wordsUnder_trace_of_ne (by simp) _
  have hcharging : wordsUnder "charging_motor_command"
      [.trace "diag_motor_command" (motorCommandWord ctx torque)] = [] :=
    wordsUnder_trace_of_ne (by simp) _
  rcases isMotorLabel_iff.mp hlabel with rfl | rfl
  · cases ctx.tc.vehicleMode <;> simp [motorLabel, hdiag]
  · cases ctx.tc.vehicleMode <;> simp [motorLabel, hcharging]

/-- The mode that a preempted loop sends its command in. -/
theorem vehicleMode_preempted (ctx : PowertrainCtx) (preempt : List UInt32) :
    (preempt.foldl watchdogTimerCb (computeTorque ctx).1).tc.vehicleMode = ctx.tc.vehicleMode := by
  rw [timers_eq]
  unfold computeTorque
  dsimp only
  split <;> exact torqueControllerCompute_vehicleMode ctx.tc

/-- A step traces its words. -/
theorem wordsUnder_step {label : String} (hlabel : IsMotorLabel label) (ctx : PowertrainCtx)
    (op : PowertrainOp) :
    wordsUnder label (powertrainStep ctx op).out =
      wordsUnder label ctx.out ++ motorWords label ctx op := by
  cases op with
  | dispatch frame nowMs => simp [powertrainStep, dispatchFrame_out, motorWords]
  | timer nowMs =>
    have hnone : motorWords label ctx (.timer nowMs) = [] := rfl
    rw [hnone, powertrainStep, watchdogTimerCb_eq, wordsUnder_append,
      wordsUnder_timerTraces hlabel]
  | command nowMs preempt =>
    have hcan : ∀ (c : Prop) [Decidable c] (frame : McCanFrame), wordsUnder label
        (if c then [Emission.can frame] else []) = [] := by
      intro c _ frame
      split <;> rfl
    have hwords : wordsUnder label (commandEmissions ctx nowMs preempt) =
        motorWords label ctx (.command nowMs preempt) := by
      rw [commandEmissions, motorWords, List.foldl_append]
      simp only [wordsUnder_append, wordsUnder_timerTraces hlabel, hcan, List.nil_append,
        List.append_nil, wordsUnder_motorTraces hlabel, ← List.foldl_append, vehicleMode_preempted]
    rw [powertrainStep, powertrainCommand_eq, wordsUnder_append, hwords]

/-! ### Words with the clamp in place -/

/-- A mode that traces its commands admits no torque. -/
theorem blocksTorque_of_motorLabel {mode : McVehicleMode} {label : String}
    (h : motorLabel mode = some label) : safetyModeBlocksTorque mode = true := by
  cases mode <;> simp_all [motorLabel, safetyModeBlocksTorque]

/-- The clamp leaves no torque and no enabled motor to trace. -/
theorem motorWords_of_clamped {ctx : PowertrainCtx} (hclamp : ctx.diagServiceClampBug = false)
    (label : String) (op : PowertrainOp) : ∀ word ∈ motorWords label ctx op, word = 0 := by
  intro word hword
  cases op with
  | dispatch frame nowMs => exact absurd hword List.not_mem_nil
  | timer nowMs => exact absurd hword List.not_mem_nil
  | command nowMs preempt =>
    rw [motorWords] at hword
    split at hword
    case isFalse => exact absurd hword List.not_mem_nil
    case isTrue hmode =>
      have hblocks := blocksTorque_of_motorLabel hmode
      have hforced : (forceModes ctx).diagServiceClampBug = false := hclamp
      have hcompute := computeTorque_of_clampBug_off hforced
      have htorque : (computeTorque (forceModes ctx)).2 = 0 := by
        apply Int8.toInt_inj.mp
        rw [hcompute, toInt_torqueControllerCompute, if_pos (.inr (.inr hblocks))]
        rfl
      have henable : (computeTorque (forceModes ctx)).1.tc.motorEnable = false := by
        rw [hcompute, motorEnable_torqueControllerCompute, hblocks, Bool.not_true, Bool.and_false]
      have hkept := timers_motorEnable_false henable (preempt.computed ++ preempt.built)
      rw [List.mem_singleton.mp hword, motorCommandWord, htorque, hkept]
      rfl

/-! ### Words of a run -/

/-- The words of a run are those of its steps. -/
theorem wordsUnder_run {label : String} (hlabel : IsMotorLabel label) (ctx : PowertrainCtx)
    (ops : List PowertrainOp) (op : PowertrainOp) :
    wordsUnder label (run powertrainStep ctx (ops ++ [op])).out =
      wordsUnder label (run powertrainStep ctx ops).out ++
        motorWords label (run powertrainStep ctx ops) op := by
  rw [run_snoc]
  exact wordsUnder_step hlabel _ op

/-- The loop goes through an iteration. -/
def PowertrainOp.isIteration : PowertrainOp → Bool
  | .command _ _ => true
  | _ => false

/-- Iterations of the loop in a history. -/
def iterations (ops : List PowertrainOp) : Nat := ops.countP PowertrainOp.isIteration

/-- The mode that a firmware variant forces. -/
def forcedMode (forceService forceCharging : Bool) : Option McVehicleMode :=
  if forceCharging then some .charging else if forceService then some .service else none

theorem vehicleMode_forceModes (ctx : PowertrainCtx) :
    (forceModes ctx).tc.vehicleMode =
      (forcedMode ctx.diagForceServiceMode ctx.chargingForceMode).getD ctx.tc.vehicleMode := by
  unfold forceModes forcedMode
  cases ctx.chargingForceMode <;> cases ctx.diagForceServiceMode <;> rfl

/-- A variant that forces a mode traces one word in every iteration. -/
theorem length_motorWords {label : String} {ctx : PowertrainCtx} {mode : McVehicleMode}
    (hforced : forcedMode ctx.diagForceServiceMode ctx.chargingForceMode = some mode)
    (hlabel : motorLabel mode = some label) (op : PowertrainOp) :
    (motorWords label ctx op).length = if op.isIteration then 1 else 0 := by
  cases op with
  | dispatch frame nowMs => rfl
  | timer nowMs => rfl
  | command nowMs preempt =>
    rw [motorWords, vehicleMode_forceModes, hforced, Option.getD_some, if_pos hlabel]
    rfl

/-- The flags of a variant stay, and so do its mailboxes. -/
theorem flags_run (forceService forceCharging clampBug : Bool) (ops : List PowertrainOp) :
    (run powertrainStep (powertrainBoot forceService forceCharging clampBug) ops).config =
      (3, forceService, forceCharging, clampBug) :=
  config_run _ ops

section Variants

variable {forceService forceCharging clampBug : Bool}

theorem length_wordsUnder_run {label : String} {mode : McVehicleMode}
    (hforced : forcedMode forceService forceCharging = some mode)
    (hlabel : motorLabel mode = some label) (ops : List PowertrainOp) :
    (wordsUnder label (run powertrainStep
      (powertrainBoot forceService forceCharging clampBug) ops).out).length = iterations ops := by
  induction ops using List.reverseRecOn with
  | nil => rfl
  | append_singleton ops op ih =>
    have hflags := flags_run forceService forceCharging clampBug ops
    have hservice : (run powertrainStep (powertrainBoot forceService forceCharging clampBug)
        ops).diagForceServiceMode = forceService := congrArg (fun c => c.2.1) hflags
    have hcharging : (run powertrainStep (powertrainBoot forceService forceCharging clampBug)
        ops).chargingForceMode = forceCharging := congrArg (fun c => c.2.2.1) hflags
    rw [wordsUnder_run ⟨mode, hlabel⟩, List.length_append, ih,
      length_motorWords (by rw [hservice, hcharging]; exact hforced) hlabel, iterations, iterations,
      List.countP_append, List.countP_singleton]

/-- With the clamp in place, whatever frames and timers come, every word of a motor command that
a run traces is zero. -/
theorem wordsUnder_clampedRun {label : String} (hlabel : IsMotorLabel label)
    (ops : List PowertrainOp) :
    ∀ word ∈ wordsUnder label
      (run powertrainStep (powertrainBoot forceService forceCharging false) ops).out, word = 0 := by
  induction ops using List.reverseRecOn with
  | nil =>
    intro word hword
    exact absurd hword List.not_mem_nil
  | append_singleton ops op ih =>
    intro word hword
    have hclamp : (run powertrainStep (powertrainBoot forceService forceCharging false)
        ops).diagServiceClampBug = false :=
      congrArg (fun c => c.2.2.2) (flags_run forceService forceCharging false ops)
    rw [wordsUnder_run hlabel] at hword
    rcases List.mem_append.mp hword with hword | hword
    · exact ih word hword
    · exact motorWords_of_clamped hclamp label op word hword

/-- A variant that forces a mode traces a zero for each iteration of its loop. -/
theorem wordsUnder_forcedRun {label : String} {mode : McVehicleMode}
    (hforced : forcedMode forceService forceCharging = some mode)
    (hlabel : motorLabel mode = some label) (ops : List PowertrainOp) :
    wordsUnder label
        (run powertrainStep (powertrainBoot forceService forceCharging false) ops).out =
      List.replicate (iterations ops) 0 :=
  List.eq_replicate_iff.mpr
    ⟨length_wordsUnder_run hforced hlabel ops, wordsUnder_clampedRun ⟨mode, hlabel⟩ ops⟩

end Variants

/-! ### Words with the clamp skipped -/

/-- None of the callbacks that preempt the loop reports a timeout. -/
def quietTimers (wd : WatchdogTask) : List UInt32 → Bool
  | [] => true
  | nowMs :: preempt =>
    !(watchdogCheck wd nowMs).2 && quietTimers (watchdogCheck wd nowMs).1 preempt

/-- Quiet callbacks are those that report nothing. -/
theorem quietTimers_eq (wd : WatchdogTask) (preempt : List UInt32) :
    quietTimers wd preempt = !reportsTimeout wd preempt := by
  induction preempt generalizing wd with
  | nil => rfl
  | cons nowMs preempt ih => rw [quietTimers, reportsTimeout, ih, Bool.not_or]

/-- An enabled motor stays enabled exactly under quiet callbacks. -/
theorem motorEnable_preempted {ctx : PowertrainCtx} (henable : ctx.tc.motorEnable = true)
    (preempt : List UInt32) :
    (preempt.foldl watchdogTimerCb ctx).tc.motorEnable = quietTimers ctx.wd preempt := by
  rw [timers_eq, quietTimers_eq]
  simp [henable]

/-- The word of a command with the forced throttle. -/
def drivingWord (enabled : Bool) : UInt32 := 0x5000 ||| (if enabled then 1 else 0)

/-- With the clamp skipped a forced iteration states the forced throttle. -/
theorem motorWords_of_skipped {ctx : PowertrainCtx} (hservice : ctx.diagForceServiceMode = true)
    (hcharging : ctx.chargingForceMode = false) (hskip : ctx.diagServiceClampBug = true)
    (nowMs : UInt32) (preempt : Preemption) :
    motorWords "diag_motor_command" ctx (.command nowMs preempt) =
      [drivingWord (quietTimers ctx.wd (preempt.computed ++ preempt.built))] := by
  have hmode : (forceModes ctx).tc.vehicleMode = .service := by
    rw [vehicleMode_forceModes, hservice, hcharging]
    rfl
  have hthrottle : (forceModes ctx).tc.throttlePercent = 80 := by
    simp [forceModes, hservice, hcharging, torqueControllerSetInput]
  have hkept : (torqueControllerCompute (forceModes ctx).tc).throttlePercent = 80 := by
    unfold torqueControllerCompute
    split <;> exact hthrottle
  have hcompute : computeTorque (forceModes ctx) =
      ({ forceModes ctx with
          tc := { torqueControllerCompute (forceModes ctx).tc with motorEnable := true } },
        80) := by
    unfold computeTorque
    dsimp only
    rw [if_pos ⟨hskip, by rw [torqueControllerCompute_vehicleMode, hmode]⟩, hkept]
    rfl
  have hon : (computeTorque (forceModes ctx)).1.tc.motorEnable = true := by rw [hcompute]
  have henable := motorEnable_preempted hon (preempt.computed ++ preempt.built)
  have hwd : (computeTorque (forceModes ctx)).1.wd = ctx.wd := by
    rw [hcompute]
    rfl
  have hlabel : motorLabel .service = some "diag_motor_command" := rfl
  rw [motorWords, hmode, if_pos hlabel, motorCommandWord, henable, hwd, hcompute]
  rfl

theorem drivingWord_inj {enabled enabled' : Bool} (h : drivingWord enabled = drivingWord enabled') :
    enabled = enabled' := by
  revert h
  cases enabled <;> cases enabled' <;> decide

/-- In some iteration no callback reports a timeout between the torque and the trace word. -/
def DrivesThrough (start : PowertrainCtx) (ops : List PowertrainOp) : Prop :=
  ∃ before nowMs preempt after, ops = before ++ .command nowMs preempt :: after ∧
    quietTimers (run powertrainStep start before).wd (preempt.computed ++ preempt.built) = true

theorem drivesThrough_snoc {start : PowertrainCtx} {ops : List PowertrainOp} {op : PowertrainOp} :
    DrivesThrough start (ops ++ [op]) ↔ DrivesThrough start ops ∨
      ∃ nowMs preempt, op = .command nowMs preempt ∧ quietTimers
        (run powertrainStep start ops).wd (preempt.computed ++ preempt.built) = true := by
  constructor
  · rintro ⟨before, nowMs, preempt, after, hcut, hquiet⟩
    rcases List.eq_nil_or_concat after with rfl | ⟨after, last, rfl⟩
    · obtain ⟨rfl, hop⟩ := List.append_inj' hcut rfl
      exact .inr ⟨nowMs, preempt, List.singleton_inj.mp hop, hquiet⟩
    · rw [List.concat_eq_append, ← List.cons_append, ← List.append_assoc] at hcut
      exact .inl ⟨before, nowMs, preempt, after, (List.append_inj' hcut rfl).1, hquiet⟩
  · rintro (⟨before, nowMs, preempt, after, rfl, hquiet⟩ | ⟨nowMs, preempt, rfl, hquiet⟩)
    · exact ⟨before, nowMs, preempt, after ++ [op], by simp, hquiet⟩
    · exact ⟨ops, nowMs, preempt, [], rfl, hquiet⟩

/-- In a run with the clamp skipped every word states the forced throttle, and one states an
enabled motor exactly if the timers let an iteration drive through. -/
theorem wordsUnder_skippedRun (ops : List PowertrainOp) :
    (∀ word ∈ wordsUnder "diag_motor_command"
      (run powertrainStep (powertrainBoot true false true) ops).out,
        ∃ enabled, word = drivingWord enabled) ∧
      (drivingWord true ∈ wordsUnder "diag_motor_command"
        (run powertrainStep (powertrainBoot true false true) ops).out ↔
          DrivesThrough (powertrainBoot true false true) ops) := by
  induction ops using List.reverseRecOn with
  | nil =>
    refine ⟨fun word hword => absurd hword List.not_mem_nil, ?_⟩
    constructor
    · exact fun hword => absurd hword List.not_mem_nil
    · rintro ⟨before, nowMs, preempt, after, hcut, -⟩
      exact absurd hcut (by simp)
  | append_singleton ops op ih =>
    obtain ⟨hall, hlive⟩ := ih
    have hflags := flags_run true false true ops
    have hservice := congrArg (fun c => c.2.1) hflags
    have hcharging := congrArg (fun c => c.2.2.1) hflags
    have hskip := congrArg (fun c => c.2.2.2) hflags
    rw [wordsUnder_run ⟨.service, rfl⟩, drivesThrough_snoc, ← hlive]
    cases op with
    | dispatch frame nowMs =>
      have hnone : motorWords "diag_motor_command"
          (run powertrainStep (powertrainBoot true false true) ops) (.dispatch frame nowMs) = [] :=
        rfl
      rw [hnone, List.append_nil]
      exact ⟨hall, by simp⟩
    | timer nowMs =>
      have hnone : motorWords "diag_motor_command"
          (run powertrainStep (powertrainBoot true false true) ops) (.timer nowMs) = [] := rfl
      rw [hnone, List.append_nil]
      exact ⟨hall, by simp⟩
    | command nowMs preempt =>
      rw [motorWords_of_skipped hservice hcharging hskip]
      constructor
      · intro word hword
        rcases List.mem_append.mp hword with hword | hword
        · exact hall word hword
        · exact ⟨_, List.mem_singleton.mp hword⟩
      · rw [List.mem_append, List.mem_singleton]
        refine or_congr_right ⟨fun heq => ⟨nowMs, preempt, rfl, (drivingWord_inj heq).symm⟩, ?_⟩
        rintro ⟨nowMs', preempt', hop, hquiet⟩
        obtain ⟨rfl, rfl⟩ := PowertrainOp.command.inj hop
        rw [hquiet]

end Microcar.Powertrain
