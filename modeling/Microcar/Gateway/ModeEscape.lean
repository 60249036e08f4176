import Microcar.Gateway.CriticalFault
import Microcar.Gateway.Nodes

/-!
# Leaving the modes that should last

The transition function keeps FAULT, CHARGING and OTA_UPDATE, but a diagnostic session
writes the mode as well. The main results say exactly which runs keep FAULT at every mode
update and which runs leave a sticky mode for nothing but FAULT.
-/

namespace Microcar.Gateway

/-- Outside DRIVE, a received frame changes the mode exactly when it asks for a session. -/
theorem modeAfter_frame {ctx : GatewayCtx} (h : ¬ SessionBlocked ctx) (f : RxFrame) (take : Bool) :
    modeAfter ctx (.frame f take) =
      if diagServiceOf f.toMcCanFrame = some mcDiagStartSession then .service else ctx.gs.mode := by
  simp only [modeAfter, h, not_false_eq_true, and_true]

section Fault

/-- A mode update ends in FAULT. -/
def UpdateReturnsFault (ctx : GatewayCtx) : GatewayOp → Prop
  | .updateMode nowMs take => (gatewayStep ctx (.updateMode nowMs take)).gs.mode = .fault
  | _ => True

/-- Whether a session has been asked for since the last mode update. -/
def GatewayOp.noteSession (asked : Bool) : GatewayOp → Bool
  | .frame f _ => asked || decide (diagServiceOf f.toMcCanFrame = some mcDiagStartSession)
  | .updateMode _ _ => false
  | _ => asked

/-- The gateway step with the session requests noted. -/
def notedStep (s : GatewayCtx × Bool) (op : GatewayOp) : GatewayCtx × Bool :=
  (gatewayStep s.1 op, op.noteSession s.2)

/-- A mode update sees a critical fault under the mutex, or finds no open session and no
session request since the last update. -/
def FaultUpheld (s : GatewayCtx × Bool) : GatewayOp → Prop
  | .updateMode _ take =>
    (take = true ∧ faultManagerHasCritical s.1.fm = true) ∨
      (s.1.diagSessionActive = false ∧ s.2 = false)
  | _ => True

/-- Behind an update that returned FAULT the mode is FAULT, or SERVICE from the first session
request on. -/
structure FaultWatch (s : GatewayCtx × Bool) : Prop where
  /-- No script is enabled. -/
  scriptsOff : s.1.cfg.ScriptsOff
  /-- The mode follows the noted requests. -/
  mode : s.1.gs.mode = if s.2 then .service else .fault

/-- The watched mode is never DRIVE. -/
theorem FaultWatch.not_blocked {s : GatewayCtx × Bool} (h : FaultWatch s) :
    ¬ SessionBlocked s.1 := by
  intro hblocked
  have hdrive := h.mode.symm.trans hblocked.1
  split at hdrive <;> exact absurd hdrive (by decide)

/-- The watched mode is FAULT exactly as long as no session has been asked for. -/
theorem FaultWatch.mode_eq_fault_iff {s : GatewayCtx × Bool} (h : FaultWatch s) :
    s.1.gs.mode = .fault ↔ s.2 = false := by
  rw [h.mode]
  cases s.2 with
  | true => decide
  | false => decide

/-- A mode update of a watched state returns FAULT exactly when FAULT is upheld. -/
theorem FaultWatch.update_iff {s : GatewayCtx × Bool} (h : FaultWatch s) (op : GatewayOp) :
    UpdateReturnsFault s.1 op ↔ FaultUpheld s op := by
  cases op with
  | updateMode nowMs take =>
    rw [UpdateReturnsFault, gatewayStep_updateMode, updatedMode_eq_fault_iff, h.mode_eq_fault_iff]
    exact Iff.rfl
  | frame | enterDrive | aggregate | dequeue | scripts | notify | process | readOldMode
  | heartbeat | readMode | readFaultCd | sendMode =>
    exact Iff.rfl

/-- As long as every mode update returns FAULT, the state stays watched. -/
theorem FaultWatch.step {s : GatewayCtx × Bool} (h : FaultWatch s) {op : GatewayOp}
    (hfault : UpdateReturnsFault s.1 op) : FaultWatch (notedStep s op) := by
  have hmove : GatewayMove s.1 op (gatewayStep s.1 op) := gatewayStep_move fun _ _ => h.scriptsOff
  refine ⟨?_, ?_⟩
  · rw [notedStep, hmove.cfg_eq]
    exact h.scriptsOff
  · have hmode : (notedStep s op).1.gs.mode = modeAfter s.1 op := hmove.mode_eq
    rw [hmode]
    cases op with
    | frame f take =>
      rw [modeAfter_frame h.not_blocked]
      by_cases hstart : diagServiceOf f.toMcCanFrame = some mcDiagStartSession
      · simp [notedStep, GatewayOp.noteSession, hstart]
      · simp [notedStep, GatewayOp.noteSession, hstart, h.mode]
    | enterDrive =>
      have hready : s.1.gs.mode ≠ .ready := by
        rw [h.mode]
        cases s.2 <;> decide
      exact (if_neg hready).trans h.mode
    | updateMode nowMs take => exact hmode.symm.trans hfault
    | aggregate | dequeue | scripts | notify | process | readOldMode | heartbeat | readMode
    | readFaultCd | sendMode => exact h.mode

/-- Once a mode update has returned FAULT, every later update of the run returns FAULT exactly
when each of them sees a critical fault under the mutex, or finds no open session and no
session request since the update before it. -/
theorem gatewayRun_fault_terminal_iff {before later : List GatewayOp} {nowMs : UInt32}
    {take : Bool}
    (hfault : (Core.run gatewayStep (gatewayBoot .off)
      (before ++ [.updateMode nowMs take])).gs.mode = .fault) :
    Core.StepsMeet gatewayStep UpdateReturnsFault
        (Core.run gatewayStep (gatewayBoot .off) (before ++ [.updateMode nowMs take])) later ↔
      Core.StepsMeet notedStep FaultUpheld
        (Core.run gatewayStep (gatewayBoot .off) (before ++ [.updateMode nowMs take]), false)
        later := by
  have hinvariant := gatewayInvariant_run scriptsOff_off (before ++ [.updateMode nowMs take])
  generalize Core.run gatewayStep (gatewayBoot .off) (before ++ [.updateMode nowMs take]) = ctx
    at hfault hinvariant ⊢
  have hwatch : FaultWatch (ctx, false) := ⟨hinvariant.scriptsOff, hfault⟩
  have herase :
      Core.StepsMeet notedStep (fun s op => UpdateReturnsFault s.1 op) (ctx, false) later ↔
        Core.StepsMeet gatewayStep UpdateReturnsFault ctx later :=
    Core.stepsMeet_map (f := Prod.fst) (fun _ _ => rfl) UpdateReturnsFault
  rw [← herase]
  refine Core.stepsMeet_congr (I := FaultWatch) ?_ ?_ hwatch later
  · intro s op hs
    exact hs.update_iff op
  · intro s op hs hstep
    exact hs.step hstep

/-- An overtemperature fault takes the update at 10 ms to FAULT. -/
def overtempRun : List GatewayOp :=
  [.frame (bmsFaultFrame mcBmsFaultOvertemp) true, .updateMode 10 true]

/-- With the fault still active, a session request does not take the next update out of
FAULT. -/
theorem gatewayRun_fault_terminal_overtemp :
    (Core.run gatewayStep (gatewayBoot .off) overtempRun).gs.mode = .fault ∧
      Core.StepsMeet gatewayStep UpdateReturnsFault
        (Core.run gatewayStep (gatewayBoot .off) overtempRun)
        [.frame (diagFrame mcDiagStartSession) true, .updateMode 20 true] := by
  have hfault : (Core.run gatewayStep (gatewayBoot .off)
      ([.frame (bmsFaultFrame mcBmsFaultOvertemp) true] ++ [.updateMode 10 true])).gs.mode =
        .fault := by
    decide +kernel
  refine ⟨hfault, (gatewayRun_fault_terminal_iff hfault).mpr ⟨trivial, .inl ⟨rfl, ?_⟩, trivial⟩⟩
  decide +kernel

/-- A session that clears the codes takes the gateway from FAULT to SERVICE. -/
theorem fault_left_for_service :
    ¬ ∀ before nowMs take later,
      (Core.run gatewayStep (gatewayBoot .off) (before ++ [.updateMode nowMs take])).gs.mode =
        .fault →
      Core.StepsMeet gatewayStep UpdateReturnsFault
        (Core.run gatewayStep (gatewayBoot .off) (before ++ [.updateMode nowMs take])) later := by
  intro hall
  have hrun := hall [.frame (bmsFaultFrame mcBmsFaultOvertemp) true] 10 true
    [.frame (diagFrame mcDiagStartSession) true, .frame (diagFrame mcDiagClearDtcs) true,
      .updateMode 20 true]
    (by decide +kernel)
  obtain ⟨-, -, hfault, -⟩ := hrun
  have hservice : (Core.run gatewayStep (gatewayBoot .off)
      ([.frame (bmsFaultFrame mcBmsFaultOvertemp) true] ++ [.updateMode 10 true] ++
        [.frame (diagFrame mcDiagStartSession) true, .frame (diagFrame mcDiagClearDtcs) true,
          .updateMode 20 true])).gs.mode = .service := by
    decide +kernel
  exact absurd (hservice.symm.trans hfault) (by decide)

end Fault

section Sticky

/-- The mode behind the step is the given one or FAULT. -/
def HoldsOrFaults (mode : McVehicleMode) (ctx : GatewayCtx) (op : GatewayOp) : Prop :=
  (gatewayStep ctx op).gs.mode = mode ∨ (gatewayStep ctx op).gs.mode = .fault

/-- The step is no session request, and no mode update inside a session without a critical
fault seen under the mutex. -/
def SessionKeptOut (ctx : GatewayCtx) : GatewayOp → Prop
  | .frame f _ => diagServiceOf f.toMcCanFrame ≠ some mcDiagStartSession
  | .updateMode _ take =>
    ctx.diagSessionActive = true → take = true ∧ faultManagerHasCritical ctx.fm = true
  | _ => True

/-- The step runs no script. -/
def GatewayOp.NoScript (op : GatewayOp) : Prop := ∀ take, op ≠ .scripts take

/-- In a sticky mode or FAULT, a step holds the mode or faults exactly when it keeps a session
out. -/
theorem holdsOrFaults_iff {mode : McVehicleMode} (hsticky : mode = .charging ∨ mode = .otaUpdate)
    {ctx : GatewayCtx} (h : ctx.gs.mode = mode ∨ ctx.gs.mode = .fault) {op : GatewayOp}
    (hop : op.NoScript) : HoldsOrFaults mode ctx op ↔ SessionKeptOut ctx op := by
  have hmove : GatewayMove ctx op (gatewayStep ctx op) :=
    gatewayStep_move fun take hscripts => absurd hscripts (hop take)
  have hservice : mode ≠ .service := by
    rcases hsticky with rfl | rfl <;> decide
  have hmode : ctx.gs.mode ≠ .drive ∧ ctx.gs.mode ≠ .ready := by
    rcases h with h | h
    · rw [h]
      rcases hsticky with rfl | rfl <;> decide
    · rw [h]
      decide
  rw [HoldsOrFaults, hmove.mode_eq]
  cases op with
  | frame f take =>
    rw [modeAfter_frame fun hblocked => hmode.1 hblocked.1]
    by_cases hstart : diagServiceOf f.toMcCanFrame = some mcDiagStartSession
    · simp [SessionKeptOut, hstart, hservice.symm]
    · rw [if_neg hstart]
      exact iff_of_true h hstart
  | enterDrive =>
    have hkept : modeAfter ctx .enterDrive = ctx.gs.mode := if_neg hmode.2
    rw [hkept]
    exact iff_of_true h trivial
  | updateMode nowMs take =>
    by_cases hcritical : take = true ∧ faultManagerHasCritical ctx.fm = true
    · have hfault : modeAfter ctx (.updateMode nowMs take) = .fault := if_pos hcritical
      exact iff_of_true (.inr hfault) fun _ => hcritical
    · rw [modeAfter, updatedMode, if_neg hcritical]
      cases hsession : ctx.diagSessionActive with
      | true => simp [SessionKeptOut, hsession, hcritical, hservice.symm]
      | false =>
        refine iff_of_true ?_ fun hopen => absurd (hsession.symm.trans hopen) (by decide)
        rcases h with h | h
        · rw [h, mcGatewayDetermineMode_sticky hsticky]
          exact .inl rfl
        · rw [h]
          exact .inr rfl
  | aggregate | dequeue | notify | process | readOldMode | heartbeat | readMode | readFaultCd
  | sendMode => exact iff_of_true h trivial
  | scripts take => exact absurd rfl (hop take)

/-- From every state in CHARGING or OTA_UPDATE, every step of a run keeps the mode or faults,
so that DRIVE and LIMP stay out of reach, exactly when no session is asked for and every
mode update inside a session sees a critical fault under the mutex. -/
theorem gatewayRun_sticky_iff {ctx : GatewayCtx}
    (hsticky : ctx.gs.mode = .charging ∨ ctx.gs.mode = .otaUpdate) {ops : List GatewayOp}
    (hops : ∀ op ∈ ops, op.NoScript) :
    Core.StepsMeet gatewayStep (HoldsOrFaults ctx.gs.mode) ctx ops ↔
      Core.StepsMeet gatewayStep SessionKeptOut ctx ops := by
  refine Core.StepsMeet.congr (H := fun _ op => op.NoScript)
    (I := fun s : GatewayCtx => s.gs.mode = ctx.gs.mode ∨ s.gs.mode = .fault) ?_ ?_
    (Core.stepsMeet_of_forall_mem hops) (.inl rfl)
  · intro s op hs hop
    exact holdsOrFaults_iff hsticky hs hop
  · intro s op _ _ hstep
    exact hstep

/-- The flags of a gateway that runs the charging script. -/
def chargingConfig : GatewayConfig := { GatewayConfig.off with chargingDogfoodScript := true }

/-- Ten loop iterations of the charging script plug the charger in. -/
def plugInRun : List GatewayOp :=
  (List.range 10).flatMap fun k => gatewayMain (10 * (UInt32.ofNat k + 1))

/-- While charging, a mode update and a request for DRIVE keep the mode. -/
theorem gatewayRun_sticky_plugIn :
    (Core.run gatewayStep (gatewayBoot chargingConfig) plugInRun).gs.mode = .charging ∧
      Core.StepsMeet gatewayStep
        (HoldsOrFaults (Core.run gatewayStep (gatewayBoot chargingConfig) plugInRun).gs.mode)
        (Core.run gatewayStep (gatewayBoot chargingConfig) plugInRun)
        [.enterDrive, .updateMode 110 true] := by
  have hmode :
      (Core.run gatewayStep (gatewayBoot chargingConfig) plugInRun).gs.mode = .charging := by
    decide +kernel
  have hsession : (gatewayStep (Core.run gatewayStep (gatewayBoot chargingConfig) plugInRun)
      .enterDrive).diagSessionActive = false := by
    decide +kernel
  refine ⟨hmode, (gatewayRun_sticky_iff (.inl hmode) ?_).mpr ⟨trivial, ?_, trivial⟩⟩
  · simp [GatewayOp.NoScript]
  · intro hopen
    exact absurd (hsession.symm.trans hopen) (by decide)

/-- A session is opened and closed again, the three nodes beat, and DRIVE is requested. -/
def serviceDetour : List GatewayOp :=
  [.frame (diagFrame mcDiagStartSession) true, .frame (diagFrame mcDiagEndSession) true,
    .readOldMode, .updateMode 110 true, .frame (heartbeatOf mcNodePowertrain) true,
    .frame (heartbeatOf mcNodeBms) true, .frame (heartbeatOf mcNodeDashboard) true, .dequeue 120,
    .readOldMode, .updateMode 120 true, .enterDrive]

/-- A plugged-in vehicle reaches DRIVE by way of SERVICE, OFF and READY. -/
theorem charging_left_for_drive :
    (Core.run gatewayStep (gatewayBoot chargingConfig) plugInRun).gs.mode = .charging ∧
      (∀ op ∈ serviceDetour, op.NoScript) ∧
      (Core.run gatewayStep (gatewayBoot chargingConfig) (plugInRun ++ serviceDetour)).gs.mode =
        .drive := by
  refine ⟨by decide +kernel, ?_, by decide +kernel⟩
  simp [serviceDetour, GatewayOp.NoScript]

end Sticky

end Microcar.Gateway
