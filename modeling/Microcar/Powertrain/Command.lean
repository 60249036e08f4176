import Microcar.Powertrain.Firmware

/-!
# The motor command of one loop iteration

Each loop iteration puts exactly one motor command on the bus. Its torque is computed
from the controller inputs alone; its enable byte is read behind the timer callbacks that
preempt the loop up to then, and a later callback does not change it.
-/

namespace Microcar.Powertrain

@[simp] theorem emit_out (ctx : PowertrainCtx) (e : Emission) :
    (ctx.emit e).out = ctx.out ++ [e] := rfl

@[simp] theorem emit_tc (ctx : PowertrainCtx) (e : Emission) : (ctx.emit e).tc = ctx.tc := rfl

@[simp] theorem emit_canTxSlots (ctx : PowertrainCtx) (e : Emission) :
    (ctx.emit e).canTxSlots = ctx.canTxSlots := rfl

@[simp] theorem sendMotorCommand_id (ctx : PowertrainCtx) (torque : Int8) :
    (sendMotorCommand ctx torque).id = mcMsgMotorCommand := rfl

/-- The boot-time configuration: mailbox count and firmware variant flags. -/
def PowertrainCtx.config (ctx : PowertrainCtx) : Nat × Bool × Bool × Bool :=
  (ctx.canTxSlots, ctx.diagForceServiceMode, ctx.chargingForceMode, ctx.diagServiceClampBug)

/-! ### Timer callbacks -/

/-- The watchdog behind a series of callbacks. -/
def watchdogChecks (wd : WatchdogTask) (preempt : List UInt32) : WatchdogTask :=
  preempt.foldl (fun wd nowMs => (watchdogCheck wd nowMs).1) wd

/-- Some watchdog check of a series of callbacks reports a timeout. -/
def reportsTimeout : WatchdogTask → List UInt32 → Bool
  | _, [] => false
  | wd, nowMs :: rest =>
      (watchdogCheck wd nowMs).2 || reportsTimeout (watchdogCheck wd nowMs).1 rest

/-- The trace words of a series of callbacks. -/
def timerTraces : WatchdogTask → List UInt32 → List Emission
  | _, [] => []
  | wd, nowMs :: rest =>
    .trace (if (watchdogCheck wd nowMs).2 then "gateway_timeout" else "watchdog_ok") nowMs ::
      timerTraces (watchdogCheck wd nowMs).1 rest

/-- The timer callback as a whole: watchdog, enable flag and one trace word. -/
theorem watchdogTimerCb_eq (ctx : PowertrainCtx) (nowMs : UInt32) :
    watchdogTimerCb ctx nowMs = { ctx with
      wd := (watchdogCheck ctx.wd nowMs).1
      tc := { ctx.tc with motorEnable := ctx.tc.motorEnable && !(watchdogCheck ctx.wd nowMs).2 }
      out := ctx.out ++ timerTraces ctx.wd [nowMs] } := by
  unfold watchdogTimerCb
  cases h : (watchdogCheck ctx.wd nowMs).2 with
  | true => simp [PowertrainCtx.emit, timerTraces, h]
  | false => simp [PowertrainCtx.emit, timerTraces, h]

/-- Callbacks touch the watchdog, the enable flag and the trace: the flag is cleared exactly if
one of them reports a timeout. -/
theorem timers_eq (ctx : PowertrainCtx) (preempt : List UInt32) :
    preempt.foldl watchdogTimerCb ctx = { ctx with
      wd := watchdogChecks ctx.wd preempt
      tc := { ctx.tc with motorEnable := ctx.tc.motorEnable && !reportsTimeout ctx.wd preempt }
      out := ctx.out ++ timerTraces ctx.wd preempt } := by
  induction preempt generalizing ctx with
  | nil => simp [watchdogChecks, reportsTimeout, timerTraces]
  | cons nowMs preempt ih =>
    rw [List.foldl_cons, ih, watchdogTimerCb_eq]
    simp [watchdogChecks, reportsTimeout, timerTraces, Bool.and_assoc]

/-- Callbacks put no frame on the bus. -/
@[simp] theorem framesOf_timerTraces (msgId : UInt32) (wd : WatchdogTask) (preempt : List UInt32) :
    framesOf msgId (timerTraces wd preempt) = [] := by
  induction preempt generalizing wd with
  | nil => rfl
  | cons nowMs preempt ih =>
    rw [timerTraces, ← List.singleton_append, framesOf_append, framesOf_trace, List.nil_append, ih]

/-- Callbacks never bring a lost gateway back. -/
theorem watchdogChecks_offline {wd : WatchdogTask} (hoff : wd.gatewayOnline = false)
    (preempt : List UInt32) : (watchdogChecks wd preempt).gatewayOnline = false := by
  induction preempt generalizing wd with
  | nil => exact hoff
  | cons nowMs preempt ih =>
    apply ih
    change (watchdogCheck wd nowMs).1.gatewayOnline = false
    rw [watchdogCheck_of_offline hoff]
    exact hoff

/-- Callbacks that report a timeout leave the gateway marked offline. -/
theorem watchdogChecks_of_reportsTimeout {wd : WatchdogTask} {preempt : List UInt32}
    (h : reportsTimeout wd preempt = true) : (watchdogChecks wd preempt).gatewayOnline = false := by
  induction preempt generalizing wd with
  | nil => simp [reportsTimeout] at h
  | cons nowMs preempt ih =>
    rcases Bool.or_eq_true_iff.mp h with hnow | hlater
    · exact watchdogChecks_offline (watchdogCheck_offline hnow) preempt
    · exact ih hlater

/-- A cleared enable flag stays cleared under callbacks. -/
theorem timers_motorEnable_false {ctx : PowertrainCtx} (h : ctx.tc.motorEnable = false)
    (preempt : List UInt32) :
    (preempt.foldl watchdogTimerCb ctx).tc.motorEnable = false := by
  rw [timers_eq]
  simp [h]

/-! ### One iteration -/

/-- All callbacks that preempt an iteration, in order. -/
def Preemption.all (preempt : Preemption) : List UInt32 :=
  preempt.computed ++ preempt.built ++ preempt.traced ++ preempt.sent

/-- The trace words of a motor command. -/
def motorTraces (ctx : PowertrainCtx) (torque : Int8) : List Emission :=
  (if ctx.tc.vehicleMode = .service then
    [.trace "diag_motor_command" (motorCommandWord ctx torque)] else []) ++
  (if ctx.tc.vehicleMode = .charging then
    [.trace "charging_motor_command" (motorCommandWord ctx torque)] else [])

/-- The trace of a motor command writes the log. -/
theorem traceMotorCommand_eq (ctx : PowertrainCtx) (torque : Int8) :
    traceMotorCommand ctx torque = { ctx with out := ctx.out ++ motorTraces ctx torque } := by
  unfold traceMotorCommand motorTraces
  by_cases hs : ctx.tc.vehicleMode = .service
  · simp [hs, PowertrainCtx.emit]
  · by_cases hc : ctx.tc.vehicleMode = .charging
    · simp [hc, PowertrainCtx.emit]
    · simp [hs, hc]

/-- The trace of a motor command is no frame. -/
@[simp] theorem framesOf_motorTraces (msgId : UInt32) (ctx : PowertrainCtx) (torque : Int8) :
    framesOf msgId (motorTraces ctx torque) = [] := by
  rw [motorTraces, framesOf_append]
  split_ifs <;> simp

/-- A frame that is sent goes to the log, if a mailbox is free. -/
theorem canTxWithSemaphore_eq (ctx : PowertrainCtx) (frame : McCanFrame) :
    canTxWithSemaphore ctx frame =
      { ctx with out := ctx.out ++ if 0 < ctx.canTxSlots then [.can frame] else [] } := by
  unfold canTxWithSemaphore
  split_ifs <;> simp [PowertrainCtx.emit]

/-- The mode overrides only rewrite the controller. -/
theorem forceModes_eq (ctx : PowertrainCtx) :
    ∃ tc, forceModes ctx = { ctx with tc := tc } := ⟨_, rfl⟩

/-- The torque computation only rewrites the controller. -/
theorem computeTorque_eq (ctx : PowertrainCtx) :
    ∃ tc, (computeTorque ctx).1 = { ctx with tc := tc } := by
  unfold computeTorque
  dsimp only
  split <;> exact ⟨_, rfl⟩

/-- So do both together. -/
theorem computeTorque_forceModes_eq (ctx : PowertrainCtx) :
    ∃ tc, (computeTorque (forceModes ctx)).1 = { ctx with tc := tc } := by
  obtain ⟨tcf, hforce⟩ := forceModes_eq ctx
  obtain ⟨tcc, hcompute⟩ := computeTorque_eq (forceModes ctx)
  exact ⟨tcc, by rw [hcompute, hforce]⟩

/-- Without the seeded bug the loop sends the torque the controller computed. -/
theorem computeTorque_of_clampBug_off {ctx : PowertrainCtx} (h : ctx.diagServiceClampBug = false) :
    computeTorque ctx = ({ ctx with tc := torqueControllerCompute ctx.tc },
      (torqueControllerCompute ctx.tc).outputTorque) := by
  simp [computeTorque, h]

/-- Everything an iteration appends to the log. The frame reads the enable flag behind the first
callbacks, the trace word behind the next ones. -/
def commandEmissions (ctx : PowertrainCtx) (nowMs : UInt32) (preempt : Preemption) :
    List Emission :=
  let (computed, torque) := computeTorque (forceModes ctx)
  let built := preempt.computed.foldl watchdogTimerCb computed
  let traced := preempt.built.foldl watchdogTimerCb built
  let sent := preempt.traced.foldl watchdogTimerCb traced
  timerTraces computed.wd preempt.computed ++ timerTraces built.wd preempt.built ++
    motorTraces traced torque ++ timerTraces traced.wd preempt.traced ++
    (if 0 < ctx.canTxSlots then [.can (sendMotorCommand built torque)] else []) ++
    timerTraces sent.wd preempt.sent ++
    if nowMs % 100 = 0 ∧ 0 < ctx.canTxSlots then [.can (sendHeartbeat nowMs)] else []

/-- An iteration computes the torque, runs the callbacks and writes the log. -/
theorem powertrainCommand_eq (ctx : PowertrainCtx) (nowMs : UInt32) (preempt : Preemption) :
    powertrainCommand ctx nowMs preempt =
      { preempt.all.foldl watchdogTimerCb (computeTorque (forceModes ctx)).1 with
        out := ctx.out ++ commandEmissions ctx nowMs preempt } := by
  obtain ⟨tc, hcompute⟩ := computeTorque_forceModes_eq ctx
  unfold powertrainCommand commandEmissions Preemption.all
  dsimp only
  rw [List.foldl_append, List.foldl_append, List.foldl_append, hcompute]
  simp only [timers_eq, traceMotorCommand_eq, canTxWithSemaphore_eq]
  by_cases hbeat : nowMs % 100 = 0
  · simp [hbeat]
  · simp [hbeat]

/-- The frames of one loop iteration: a motor command, built from the torque computed
before and the enable flag read behind the first callbacks, and maybe a heartbeat. -/
theorem framesOf_command {ctx : PowertrainCtx} (hslots : 0 < ctx.canTxSlots) (nowMs : UInt32)
    (preempt : Preemption) (msgId : UInt32) :
    framesOf msgId
        ((powertrainStep ctx (.command nowMs preempt)).out.drop ctx.out.length) =
      framesOf msgId
        ([.can (sendMotorCommand
          (preempt.computed.foldl watchdogTimerCb (computeTorque (forceModes ctx)).1)
          (computeTorque (forceModes ctx)).2)] ++
        (if nowMs % 100 = 0 then [.can (sendHeartbeat nowMs)] else [])) := by
  rw [powertrainStep, powertrainCommand_eq, List.drop_left, commandEmissions]
  simp only [framesOf_append, framesOf_timerTraces, framesOf_motorTraces, hslots, if_true, and_true,
    List.nil_append, List.append_nil]

/-- One loop iteration sends exactly one motor command. -/
theorem motorCommands_command {ctx : PowertrainCtx} (hslots : 0 < ctx.canTxSlots) (nowMs : UInt32)
    (preempt : Preemption) :
    motorCommands ctx (.command nowMs preempt) =
      [sendMotorCommand
        (preempt.computed.foldl watchdogTimerCb (computeTorque (forceModes ctx)).1)
        (computeTorque (forceModes ctx)).2] := by
  have hbeat : framesOf mcMsgMotorCommand [.can (sendHeartbeat nowMs)] = [] :=
    framesOf_can_of_ne (show mcMsgHeartbeat ≠ mcMsgMotorCommand by decide)
  rw [motorCommands, framesOf_command hslots, framesOf_append,
    framesOf_can_of_eq (sendMotorCommand_id _ _)]
  split <;> simp [hbeat]

/-- Dispatching a frame emits nothing. -/
theorem dispatchFrame_out (ctx : PowertrainCtx) (frame : McCanFrame) (nowMs : UInt32) :
    (dispatchFrame ctx frame nowMs).out = ctx.out := by
  simp only [dispatchFrame]
  split_ifs <;> rfl

/-- Dispatching a frame sends no motor command. -/
theorem motorCommands_dispatch (ctx : PowertrainCtx) (frame : RxFrame) (nowMs : UInt32) :
    motorCommands ctx (.dispatch frame nowMs) = [] := by
  rw [motorCommands, powertrainStep, dispatchFrame_out, List.drop_length, framesOf_nil]

/-- A timer callback between two steps of the loop sends no motor command. -/
theorem motorCommands_timer (ctx : PowertrainCtx) (nowMs : UInt32) :
    motorCommands ctx (.timer nowMs) = [] := by
  rw [motorCommands, powertrainStep, watchdogTimerCb_eq, List.drop_left, framesOf_timerTraces]

/-- The boot-time configuration never changes. -/
theorem powertrainStep_config (ctx : PowertrainCtx) (op : PowertrainOp) :
    (powertrainStep ctx op).config = ctx.config := by
  cases op with
  | dispatch frame nowMs =>
    simp only [powertrainStep, dispatchFrame]
    split_ifs <;> rfl
  | timer nowMs => simp only [powertrainStep, watchdogTimerCb_eq, PowertrainCtx.config]
  | command nowMs preempt =>
    obtain ⟨tc, hcompute⟩ := computeTorque_forceModes_eq ctx
    rw [powertrainStep, powertrainCommand_eq, timers_eq, hcompute]
    rfl

/-- The configuration at the end of a run is the one it started with. -/
theorem config_run (ctx : PowertrainCtx) (ops : List PowertrainOp) :
    (Core.run powertrainStep ctx ops).config = ctx.config :=
  Core.run_invariant (I := fun s => PowertrainCtx.config s = ctx.config)
    (fun s op hs => (powertrainStep_config s op).trans hs) rfl ops

/-- The torque byte of a motor command. -/
theorem sendMotorCommand_torque (ctx : PowertrainCtx) (torque : Int8) :
    (sendMotorCommand ctx torque).data.get 0 = torque.toUInt8 := by
  simp [sendMotorCommand, McCanFrame.get_data_put]

/-- The enable byte of a motor command. -/
theorem sendMotorCommand_enable (ctx : PowertrainCtx) (torque : Int8) :
    (sendMotorCommand ctx torque).data.get 1 = if ctx.tc.motorEnable then 1 else 0 := by
  simp [sendMotorCommand, McCanFrame.get_data_put]

end Microcar.Powertrain
