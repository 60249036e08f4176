import Microcar.Gateway.CriticalFault
import Microcar.Powertrain.Torque

/-!
# Diagnostic sessions exclude the torque modes

A session is opened by the receive task and its mode is rewritten by every mode update of
the loop. While it is open the vehicle is in SERVICE or FAULT, so a session is never open
in DRIVE, and the actuator test is only allowed where the powertrain is blocked.
-/

namespace Microcar.Gateway

/-- What a session means in a gateway state: for the mode, for a session request in DRIVE and
for the answer to an actuator test. -/
structure SessionExcludesTorque (ctx : GatewayCtx) : Prop where
  /-- An open session keeps the vehicle in SERVICE or FAULT. -/
  session : ctx.diagSessionActive = true → ctx.gs.mode = .service ∨ ctx.gs.mode = .fault
  /-- In DRIVE a session request is rejected and changes neither session nor mode. -/
  driveRejects : ∀ f take, diagServiceOf (RxFrame.toMcCanFrame f) = some mcDiagStartSession →
    ctx.gs.mode = .drive →
    (gatewayStep ctx (.frame f take)).diagSessionActive = ctx.diagSessionActive ∧
      (gatewayStep ctx (.frame f take)).gs.mode = ctx.gs.mode ∧
      ∃ response, framesOf mcMsgDiagResponse (emitted ctx (.frame f take)) = [response] ∧
        response.data.get 3 = mcDiagRejected
  /-- An actuator test is answered with OK exactly inside a session, and only in a mode that
  blocks torque. -/
  actuator : ∀ f take, diagServiceOf (RxFrame.toMcCanFrame f) = some mcDiagActuatorTest →
    ∃ response, framesOf mcMsgDiagResponse (emitted ctx (.frame f take)) = [response] ∧
      (response.data.get 3 = mcDiagOk ↔ ctx.diagSessionActive = true) ∧
      (response.data.get 3 = mcDiagOk → Powertrain.safetyModeBlocksTorque ctx.gs.mode = true)

/-- Inside a session an update arrives at SERVICE or FAULT. -/
theorem updatedMode_of_session {ctx : GatewayCtx} (h : ctx.diagSessionActive = true)
    (nowMs : UInt32) (take : Bool) :
    updatedMode ctx nowMs take = .service ∨ updatedMode ctx nowMs take = .fault := by
  unfold updatedMode
  rw [if_pos h]
  split
  · exact .inr rfl
  · exact .inl rfl

/-- The states in which an open session excludes the torque modes. -/
def SessionGuarded (ctx : GatewayCtx) : Prop :=
  ctx.diagSessionActive = true → ctx.gs.mode = .service ∨ ctx.gs.mode = .fault

/-- A received frame keeps the session guarded. -/
theorem FrameMove.sessionGuarded {ctx ctx' : GatewayCtx} {f : McCanFrame} {take : Bool}
    (h : FrameMove ctx f take ctx') (hguard : SessionGuarded ctx) : SessionGuarded ctx' := by
  cases h with
  | opened => exact fun _ => .inl rfl
  | closed => exact fun hopen => absurd hopen Bool.false_ne_true
  | beat | fault | cleared | answered | ignored => exact hguard

/-- Every move keeps the session guarded. -/
theorem GatewayMove.sessionGuarded {ctx ctx' : GatewayCtx} {op : GatewayOp}
    (h : GatewayMove ctx op ctx') (hguard : SessionGuarded ctx) : SessionGuarded ctx' := by
  cases h with
  | frame hframe => exact hframe.sessionGuarded hguard
  | drive hready =>
    intro hopen
    have hmode := hguard hopen
    rw [hready] at hmode
    simp at hmode
  | passive | beats | process => exact hguard
  | @update nowMs take gs _ _ _ hmode =>
    intro hopen
    replace hopen : ctx.diagSessionActive = true := hopen
    rw [hmode]
    exact updatedMode_of_session hopen nowMs take

/-- With the scripts off, every reachable state keeps its flags and guards the session. -/
theorem sessionGuarded_run {cfg : GatewayConfig} (h : cfg.ScriptsOff) (ops : List GatewayOp) :
    SessionGuarded (Core.run gatewayStep (gatewayBoot cfg) ops) ∧
      (Core.run gatewayStep (gatewayBoot cfg) ops).cfg = cfg := by
  have hstep (ctx : GatewayCtx) (op : GatewayOp)
      (hs : GatewayInvariant ctx ∧ SessionGuarded ctx ∧ ctx.cfg = cfg) :
      GatewayInvariant (gatewayStep ctx op) ∧ SessionGuarded (gatewayStep ctx op) ∧
        (gatewayStep ctx op).cfg = cfg := by
    obtain ⟨hinvariant, hguard, hcfg⟩ := hs
    have hmove := hinvariant.move op
    exact ⟨hinvariant.step op, hmove.sessionGuarded hguard, hmove.cfg_eq.trans hcfg⟩
  have hboot : SessionGuarded (gatewayBoot cfg) := fun hopen => absurd hopen Bool.false_ne_true
  exact (Core.run_invariant hstep ⟨gatewayInvariant_boot h, hboot, rfl⟩ ops).2

/-- A blocked session request is answered with a rejection and writes only the log. -/
theorem startSession_blocked_step {ctx : GatewayCtx} (hblocked : SessionBlocked ctx) {f : RxFrame}
    (hservice : diagServiceOf f.toMcCanFrame = some mcDiagStartSession) (take : Bool) :
    (∃ out, gatewayStep ctx (.frame f take) = { ctx with out := out }) ∧
      ∃ response, framesOf mcMsgDiagResponse (emitted ctx (.frame f take)) = [response] ∧
        response.data.get 3 = mcDiagRejected := by
  obtain ⟨⟨-, hlen⟩, hdata⟩ := diagServiceOf_eq_some_iff.mp hservice
  have hreply : diagService ctx mcDiagStartSession take =
      (ctx, ⟨mcDiagRejected, ctx.gs.mode.toByte, 0⟩) := if_pos hblocked
  obtain ⟨out, hhandled⟩ := handleDiagRequest_eq hlen ctx take
  refine ⟨⟨out, ?_⟩, _, framesOf_emitted_request hservice ctx take, ?_⟩
  · rw [gatewayStep_request hservice, hhandled, hdata, hreply]
  · rw [(diagResponseFrame_data _ _ _).2, hreply]

/-- The status of an actuator test. -/
theorem diagService_actuator_status (ctx : GatewayCtx) (take : Bool) :
    (diagService ctx mcDiagActuatorTest take).2.status = mcDiagOk ↔
      ctx.diagSessionActive = true ∧ ctx.gs.mode ≠ .drive := by
  have hreply : (diagService ctx mcDiagActuatorTest take).2.status =
      if ctx.diagSessionActive = true ∧ ctx.gs.mode ≠ .drive then mcDiagOk
      else mcDiagRejected := rfl
  rw [hreply]
  split_ifs with h
  · exact iff_of_true rfl h
  · exact iff_of_false (by decide) h

/-- With the scripts and the session bug off, in every state reachable by frames, mode
updates, requests for DRIVE and the other steps of the gateway, a session excludes the
torque modes. -/
theorem gatewayRun_session_excludes_torque {cfg : GatewayConfig} (hscripts : cfg.ScriptsOff)
    (hbug : cfg.diagStartsessionDriveBug = false) (ops : List GatewayOp) :
    SessionExcludesTorque (Core.run gatewayStep (gatewayBoot cfg) ops) := by
  obtain ⟨hguard, hcfg⟩ := sessionGuarded_run hscripts ops
  generalize Core.run gatewayStep (gatewayBoot cfg) ops = ctx at hguard hcfg
  refine ⟨hguard, ?_, ?_⟩
  · intro f take hservice hdrive
    obtain ⟨⟨out, hstep⟩, hresponse⟩ :=
      startSession_blocked_step ⟨hdrive, hcfg ▸ hbug⟩ hservice take
    rw [hstep]
    exact ⟨rfl, rfl, hresponse⟩
  · intro f take hservice
    refine ⟨_, framesOf_emitted_request hservice ctx take, ?_⟩
    rw [(diagResponseFrame_data _ _ _).2, diagService_actuator_status]
    have hmode (hopen : ctx.diagSessionActive = true) :
        Powertrain.safetyModeBlocksTorque ctx.gs.mode = true := by
      rcases hguard hopen with hservice | hfault
      · rw [hservice]
        rfl
      · rw [hfault]
        rfl
    refine ⟨and_iff_left_of_imp fun hopen hdrive => ?_, fun hok => hmode hok.1⟩
    have hblocks := hmode hopen
    rw [hdrive] at hblocks
    exact absurd hblocks (by decide)

/-- A session opened behind the boot excludes the torque modes. -/
theorem gatewayRun_session_opened :
    (Core.run gatewayStep (gatewayBoot .off)
        [.frame (diagFrame mcDiagStartSession) true]).diagSessionActive = true ∧
      SessionExcludesTorque (Core.run gatewayStep (gatewayBoot .off)
        [.frame (diagFrame mcDiagStartSession) true]) :=
  ⟨by decide +kernel, gatewayRun_session_excludes_torque scriptsOff_off rfl _⟩

end Microcar.Gateway
