import Microcar.Powertrain.Command

/-!
# Motor commands after a lost gateway

The watchdog callback clears the motor enable flag, and the control loop computes the
flag afresh from mode and throttle without asking the watchdog. A run is paired with
the fact that a timeout was reported and no gateway heartbeat has come since. The main
result says exactly which loop iterations keep the motor off in that situation.
-/

namespace Microcar.Powertrain

/-- A watchdog check made during the step returns 1. -/
def PowertrainOp.reports (ctx : PowertrainCtx) : PowertrainOp → Bool
  | .dispatch _ _ => false
  | .timer nowMs => (watchdogCheck ctx.wd nowMs).2
  | .command _ preempt => reportsTimeout ctx.wd preempt.all

/-- A watchdog check of an iteration returns 1 before the motor command is sent. -/
def PowertrainOp.reportsFirst (ctx : PowertrainCtx) : PowertrainOp → Bool
  | .command _ preempt =>
    reportsTimeout ctx.wd (preempt.computed ++ preempt.built ++ preempt.traced)
  | _ => false

/-- The step receives a heartbeat frame from the gateway. -/
def PowertrainOp.hearsGateway : PowertrainOp → Bool
  | .dispatch frame _ => frame.id == mcMsgHeartbeat && frame.sender == mcNodeGateway
  | .timer _ => false
  | .command _ _ => false

/-- The ECU together with the fact that a timeout was reported and no gateway heartbeat
was received since. -/
def lossStep (s : PowertrainCtx × Bool) (op : PowertrainOp) : PowertrainCtx × Bool :=
  (powertrainStep s.1 op, !op.hearsGateway && (s.2 || op.reports s.1))

/-- Every motor command the step sends after a reported timeout has its enable byte or
its torque byte zero. -/
def TorqueDisabled (s : PowertrainCtx × Bool) (op : PowertrainOp) : Prop :=
  (s.2 || op.reportsFirst s.1) = true →
    ∀ f ∈ motorCommands s.1 op, f.data.get 1 = 0 ∨ f.data.get 0 = 0

/-- The controller inputs ask for no torque on their own. -/
def InputsIdle (tc : TorqueController) : Prop :=
  tc.throttlePercent = 0 ∨ 100 < tc.throttlePercent ∨ tc.brakePressed ≠ 0 ∨
    safetyModeBlocksTorque tc.vehicleMode = true ∨ tc.bmsTorqueLimit = 0

/-- A loop iteration that sends its motor command after a reported timeout has a watchdog check
that reports it between the torque computation and the reading of the enable flag, runs a firmware
variant that forces a mode, or has idle inputs. -/
def LossCovered (s : PowertrainCtx × Bool) : PowertrainOp → Prop
  | .dispatch _ _ => True
  | .timer _ => True
  | .command nowMs preempt =>
    (s.2 || PowertrainOp.reportsFirst s.1 (.command nowMs preempt)) = true →
      reportsTimeout s.1.wd preempt.computed = true ∨ s.1.diagForceServiceMode = true ∨
        s.1.chargingForceMode = true ∨ InputsIdle s.1.tc

/-- A reported timeout without a gateway heartbeat since means the watchdog is offline. -/
theorem lossStep_offline {s : PowertrainCtx × Bool} {op : PowertrainOp}
    (hs : s.2 = true → s.1.wd.gatewayOnline = false) :
    (lossStep s op).2 = true → (lossStep s op).1.wd.gatewayOnline = false := by
  intro hlost
  simp only [lossStep, Bool.and_eq_true, Bool.not_eq_true', Bool.or_eq_true] at hlost ⊢
  obtain ⟨hquiet, hlost⟩ := hlost
  cases op with
  | dispatch frame nowMs =>
    have hoff := hs (by simpa [PowertrainOp.reports] using hlost)
    simp only [PowertrainOp.hearsGateway, Bool.and_eq_false_iff, beq_eq_false_iff_ne] at hquiet
    simp only [powertrainStep, dispatchFrame]
    split_ifs with h1 h2 h3 h4 h5
    · exact hoff
    · exact hoff
    · exact hoff
    · exact absurd h5 (hquiet.resolve_left (fun hne => hne h4))
    · exact hoff
    · exact hoff
  | timer nowMs =>
    simp only [powertrainStep, watchdogTimerCb_eq]
    rcases hlost with hlost | hlost
    · rw [watchdogCheck_of_offline (hs hlost)]
      exact hs hlost
    · exact watchdogCheck_offline hlost
  | command nowMs preempt =>
    obtain ⟨tc, hcompute⟩ := computeTorque_forceModes_eq s.1
    simp only [powertrainStep, powertrainCommand_eq, timers_eq, hcompute]
    rcases hlost with hlost | hlost
    · exact watchdogChecks_offline (hs hlost) preempt.all
    · exact watchdogChecks_of_reportsTimeout hlost

/-- A computed torque is zero or comes with a cleared enable flag exactly on idle inputs. -/
theorem torqueControllerCompute_idle (tc : TorqueController) :
    ((torqueControllerCompute tc).motorEnable = false ∨
      (torqueControllerCompute tc).outputTorque = 0) ↔ InputsIdle tc := by
  have hzero : (torqueControllerCompute tc).outputTorque = 0 ↔
      (torqueControllerCompute tc).outputTorque.toInt = 0 := by
    rw [← Int8.toInt_inj]
    rfl
  have hthrottle : tc.throttlePercent = 0 ↔ tc.throttlePercent.toNat = 0 := by
    rw [← UInt8.toNat_inj]
    rfl
  have hlimit : tc.bmsTorqueLimit = 0 ↔ tc.bmsTorqueLimit.toNat = 0 := by
    rw [← UInt8.toNat_inj]
    rfl
  have hcap : 0 < modeCap tc.vehicleMode := by
    unfold modeCap
    split <;> omega
  rw [hzero, toInt_torqueControllerCompute, motorEnable_torqueControllerCompute, InputsIdle]
  by_cases hblock : safetyModeBlocksTorque tc.vehicleMode = true
  · simp [hblock]
  · by_cases hinvalid : 100 < tc.throttlePercent
    · simp [hinvalid]
    · by_cases hbrake : tc.brakePressed = 0
      · simp only [hblock, hinvalid, hbrake, hthrottle, hlimit, ne_eq, not_true_eq_false,
          false_or]
        simp
        omega
      · simp [hbrake]

/-- The forced modes block torque, so a firmware variant that forces one has idle inputs. -/
theorem forceModes_idle (ctx : PowertrainCtx) :
    InputsIdle (forceModes ctx).tc ↔
      ctx.diagForceServiceMode = true ∨ ctx.chargingForceMode = true ∨ InputsIdle ctx.tc := by
  have hservice : safetyModeBlocksTorque .service = true := rfl
  have hcharging : safetyModeBlocksTorque .charging = true := rfl
  unfold forceModes
  cases hs : ctx.diagForceServiceMode <;> cases hc : ctx.chargingForceMode <;>
    simp [InputsIdle, torqueControllerSetInput, torqueControllerSetMode, hservice, hcharging]

/-- A motor command is harmless exactly when it reads a cleared flag or a zero torque. -/
theorem sendMotorCommand_off (ctx : PowertrainCtx) (torque : Int8) :
    ((sendMotorCommand ctx torque).data.get 1 = 0 ∨ (sendMotorCommand ctx torque).data.get 0 = 0) ↔
      ctx.tc.motorEnable = false ∨ torque = 0 := by
  have htorque : torque.toUInt8 = 0 ↔ torque = 0 := by
    constructor
    · intro h
      have hback := congrArg UInt8.toInt8 h
      simpa using hback
    · rintro rfl
      rfl
  rw [sendMotorCommand_torque, sendMotorCommand_enable, htorque]
  cases ctx.tc.motorEnable <;> simp

/-- The motor command of an iteration is harmless exactly if a callback clears the flag before it is
read, or the computation leaves it without torque. -/
theorem motorCommand_off_iff {ctx : PowertrainCtx} (hbug : ctx.diagServiceClampBug = false)
    (preempt : List UInt32) :
    (((preempt.foldl watchdogTimerCb (computeTorque (forceModes ctx)).1).tc.motorEnable = false) ∨
        (computeTorque (forceModes ctx)).2 = 0) ↔
      reportsTimeout ctx.wd preempt = true ∨ ctx.diagForceServiceMode = true ∨
        ctx.chargingForceMode = true ∨ InputsIdle ctx.tc := by
  have hcompute := @computeTorque_of_clampBug_off (forceModes ctx) hbug
  have hwd : (computeTorque (forceModes ctx)).1.wd = ctx.wd := by
    obtain ⟨tc, heq⟩ := computeTorque_forceModes_eq ctx
    rw [heq]
  rw [← forceModes_idle, ← torqueControllerCompute_idle, timers_eq, hwd, hcompute]
  simp only [Bool.and_eq_false_iff, Bool.not_eq_false']
  tauto

/-- One step keeps the motor off after a loss exactly when it is covered. -/
theorem torqueDisabled_iff_lossCovered {s : PowertrainCtx × Bool} {op : PowertrainOp}
    (hslots : 0 < s.1.canTxSlots) (hbug : s.1.diagServiceClampBug = false) :
    TorqueDisabled s op ↔ LossCovered s op := by
  cases op with
  | dispatch frame nowMs =>
    simp [TorqueDisabled, LossCovered, motorCommands_dispatch]
  | timer nowMs =>
    simp [TorqueDisabled, LossCovered, motorCommands_timer]
  | command nowMs preempt =>
    simp only [TorqueDisabled, LossCovered, motorCommands_command hslots, List.mem_singleton,
      forall_eq, sendMotorCommand_off]
    exact forall_congr' fun _ => motorCommand_off_iff hbug preempt.computed

/-- What a run keeps: a reported loss means the watchdog is offline, mailboxes exist and
the seeded bug stays off. -/
structure LossInvariant (s : PowertrainCtx × Bool) : Prop where
  /-- A reported loss means the watchdog is offline. -/
  offline : s.2 = true → s.1.wd.gatewayOnline = false
  /-- A transmit mailbox is free. -/
  slots : 0 < s.1.canTxSlots
  /-- The seeded bug is off. -/
  bugOff : s.1.diagServiceClampBug = false

/-- Every step keeps the invariant. -/
theorem LossInvariant.step {s : PowertrainCtx × Bool} (h : LossInvariant s) (op : PowertrainOp) :
    LossInvariant (lossStep s op) := by
  have hconfig := powertrainStep_config s.1 op
  simp only [PowertrainCtx.config, Prod.mk.injEq] at hconfig
  obtain ⟨hslots, -, -, hbug⟩ := hconfig
  refine ⟨lossStep_offline h.offline, ?_, ?_⟩
  · exact hslots ▸ h.slots
  · exact hbug ▸ h.bugOff

/-- Every run keeps the invariant. -/
theorem lossInvariant_run (forceService forceCharging : Bool) (ops : List PowertrainOp) :
    LossInvariant
      (Core.run lossStep (powertrainBoot forceService forceCharging false, false) ops) :=
  Core.run_invariant (I := LossInvariant) (fun _ op hs => hs.step op)
    ⟨by simp, show 0 < 3 by omega, rfl⟩ ops

/-- Until the gateway beats again, every further callback reports its loss. -/
theorem loss_reported_again {forceService forceCharging : Bool} {ops : List PowertrainOp}
    (hlost : (Core.run lossStep (powertrainBoot forceService forceCharging false, false) ops).2 =
      true) (nowMs : UInt32) :
    PowertrainOp.reports
      (Core.run lossStep (powertrainBoot forceService forceCharging false, false) ops).1
      (.timer nowMs) = true := by
  have hoff := (lossInvariant_run forceService forceCharging ops).offline hlost
  rw [PowertrainOp.reports, watchdogCheck_of_offline hoff]

/-- After a reported gateway loss every motor command before the next gateway heartbeat is
harmless, in every interleaving, exactly when every loop iteration that sends one in that window
has the loss reported between its torque computation and the reading of the enable flag, is
forced into a blocking mode, or has idle inputs. -/
theorem gatewayLoss_disables_torque_iff (forceService forceCharging : Bool)
    (ops : List PowertrainOp) :
    Core.StepsMeet lossStep TorqueDisabled
        (powertrainBoot forceService forceCharging false, false) ops ↔
      Core.StepsMeet lossStep LossCovered
        (powertrainBoot forceService forceCharging false, false) ops := by
  apply Core.stepsMeet_congr (I := LossInvariant)
  · intro s op hs
    exact torqueDisabled_iff_lossCovered hs.slots hs.bugOff
  · intro s op hs _
    exact hs.step op
  · exact ⟨by simp, show 0 < 3 by omega, rfl⟩

/-- The gateway beats once, asks for DRIVE and goes silent with the throttle at 50; the
timer reports the loss at 260 and the loop runs at 270. -/
def silentGatewayRun : List PowertrainOp :=
  [.dispatch (.ofPayload mcMsgHeartbeat 1 [0, 0, 0, 10]) 10,
    .dispatch (.ofPayload mcMsgVehicleMode 2 [0]) 10,
    .dispatch (.ofPayload mcMsgDriverInput 50 [0, 0]) 10,
    .timer 260,
    .command 270 {}]

/-- The motor stays on at 50 percent after the reported loss. -/
theorem silentGateway_torque :
    ¬ ∀ ops,
      Core.StepsMeet lossStep TorqueDisabled (powertrainBoot false false false, false) ops := by
  intro hall
  have hrun := hall silentGatewayRun
  rw [Core.stepsMeet_iff] at hrun
  have hlast := hrun (silentGatewayRun.take 4) (.command 270 {}) [] rfl
  have hbytes : (motorCommands (Core.run lossStep (powertrainBoot false false false, false)
      (silentGatewayRun.take 4)).1 (.command 270 {})).map (fun f => (f.data.get 0, f.data.get 1)) =
      [(50, 1)] := by
    decide +kernel
  have hlost : (Core.run lossStep (powertrainBoot false false false, false)
      (silentGatewayRun.take 4)).2 = true := by
    decide +kernel
  have hsafe := hlast (by simp [hlost])
  obtain ⟨f, hf, hfb⟩ := List.map_eq_singleton_iff.mp hbytes |>.imp fun f h =>
    (⟨h.1 ▸ List.mem_singleton_self f, h.2⟩ : f ∈ motorCommands _ _ ∧ _)
  obtain ⟨h0, h1⟩ := Prod.mk.inj hfb
  rcases hsafe f hf with h | h
  · rw [h] at h1
    exact absurd h1 (by decide)
  · rw [h] at h0
    exact absurd h0 (by decide)

end Microcar.Powertrain
