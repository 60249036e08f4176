import Microcar.Gateway.Emissions
import Microcar.Gateway.Nodes
import Microcar.Powertrain.Torque

/-!
# A lost dashboard in DRIVE

The mode transition asks for all monitored nodes, and the dashboard is one of them. From
a state in DRIVE, with the BMS and the powertrain alive, no critical fault and no
session, the gateway keeps a torque mode exactly as long as the dashboard is alive at
every mode update. A frame whose mode was read before DRIVE was entered may still be on its way.
-/

namespace Microcar.Gateway

open Microcar.Powertrain (safetyModeBlocksTorque)

instance (hm : HeartbeatMonitor) (nodeId : UInt8) (nowMs : UInt32) :
    Decidable (hm.Stays nodeId nowMs) :=
  decidable_of_iff _ (isOnline_check_iff hm nodeId nowMs)

/-- No critical fault is active, no session is open before or behind the step, and neither the
BMS nor the powertrain times out in a mode update. -/
def DriveAssumed (ctx : GatewayCtx) (op : GatewayOp) : Prop :=
  faultManagerHasCritical ctx.fm = false ∧ ctx.diagSessionActive = false ∧
    (gatewayStep ctx op).diagSessionActive = false ∧
    match op with
    | .updateMode nowMs _ =>
      ctx.hm.Stays mcNodePowertrain nowMs ∧ ctx.hm.Stays mcNodeBms nowMs
    | _ => True

/-- The step ends in DRIVE or LIMP, and no mode it sends blocks torque. -/
def TorqueModeKept (ctx : GatewayCtx) (op : GatewayOp) : Prop :=
  ((gatewayStep ctx op).gs.mode = .drive ∨ (gatewayStep ctx op).gs.mode = .limp) ∧
    ∀ f ∈ framesOf mcMsgVehicleMode (emitted ctx op),
      safetyModeBlocksTorque (.ofByte (f.data.get 0)) = false

/-- The dashboard does not time out in a mode update, and no frame is sent with a mode that blocks
torque and was read before. -/
def DashboardStays (ctx : GatewayCtx) : GatewayOp → Prop
  | .updateMode nowMs _ => ctx.hm.Stays mcNodeDashboard nowMs
  | .sendMode => ∀ mode ∈ ctx.modeRead, safetyModeBlocksTorque mode = false
  | _ => True

/-- A reachable state in DRIVE. -/
structure Driving (ctx : GatewayCtx) : Prop extends GatewayInvariant ctx where
  /-- The vehicle is in DRIVE. -/
  drive : ctx.gs.mode = .drive

/-- In DRIVE, a step that is no mode update and opens no session keeps DRIVE. -/
theorem Driving.mode_step {ctx : GatewayCtx} (h : Driving ctx) {op : GatewayOp}
    (hassumed : DriveAssumed ctx op) (hop : ∀ nowMs take, op ≠ .updateMode nowMs take) :
    (gatewayStep ctx op).gs.mode = .drive := by
  have hclosed := hassumed.2.2.1
  have hmove := h.toGatewayInvariant.move op
  generalize gatewayStep ctx op = ctx' at hmove hclosed ⊢
  cases hmove with
  | frame hframe =>
    cases hframe with
    | opened => exact absurd hclosed (by simp)
    | beat | fault | closed | cleared | answered | ignored => exact h.drive
  | @update nowMs take => exact absurd rfl (hop nowMs take)
  | drive => rfl
  | passive | beats | process => exact h.drive

/-- In DRIVE a mode update under the assumptions keeps DRIVE exactly when the dashboard
stays, and falls back to READY otherwise. -/
theorem Driving.mode_update {ctx : GatewayCtx} (h : Driving ctx) {nowMs : UInt32} {take : Bool}
    (hassumed : DriveAssumed ctx (.updateMode nowMs take)) :
    (gatewayStep ctx (.updateMode nowMs take)).gs.mode =
      if ctx.hm.Stays mcNodeDashboard nowMs then .drive else .ready := by
  obtain ⟨hcritical, hsession, -, hpowertrain, hbms⟩ := hassumed
  have honline := allOnline_check_iff h.registered nowMs
  rw [gatewayStep_updateMode, updatedMode, if_neg (by simp [hcritical]),
    if_neg (by simp [hsession]), h.drive, mcGatewayDetermineMode_drive]
  by_cases hdashboard : ctx.hm.Stays mcNodeDashboard nowMs
  · rw [if_pos (honline.mpr ⟨hpowertrain, hbms, hdashboard⟩), if_pos hdashboard]
  · rw [if_neg fun hall => hdashboard (honline.mp hall).2.2, if_neg hdashboard]

/-- The modes of the frames sent are those that were read. -/
theorem framesOf_sendMode_block_iff (ctx : GatewayCtx) :
    (∀ f ∈ framesOf mcMsgVehicleMode (emitted ctx .sendMode),
        safetyModeBlocksTorque (.ofByte (f.data.get 0)) = false) ↔
      ∀ mode ∈ ctx.modeRead, safetyModeBlocksTorque mode = false := by
  rw [framesOf_emitted_sendMode, List.forall_mem_map]
  simp only [Option.mem_toList, Option.mem_def, sendVehicleMode_data, McVehicleMode.ofByte_toByte]

/-- In DRIVE under the assumptions, a step keeps a torque mode exactly when the dashboard
stays. -/
theorem Driving.torqueModeKept_iff {ctx : GatewayCtx} (h : Driving ctx) {op : GatewayOp}
    (hassumed : DriveAssumed ctx op) : TorqueModeKept ctx op ↔ DashboardStays ctx op := by
  by_cases hsend : op = .sendMode
  · subst hsend
    have hmode := h.mode_step hassumed (by simp)
    exact (and_iff_right (.inl hmode)).trans (framesOf_sendMode_block_iff ctx)
  · have hsilent : framesOf mcMsgVehicleMode (emitted ctx op) = [] :=
      framesOf_emitted_eq_nil (silent_of_ne_sendMode hsend)
    have hframes : TorqueModeKept ctx op ↔
        (gatewayStep ctx op).gs.mode = .drive ∨ (gatewayStep ctx op).gs.mode = .limp := by
      rw [TorqueModeKept, hsilent]
      simp
    rw [hframes]
    by_cases hupdate : ∃ nowMs take, op = .updateMode nowMs take
    · obtain ⟨nowMs, take, rfl⟩ := hupdate
      rw [h.mode_update hassumed]
      change _ ↔ ctx.hm.Stays mcNodeDashboard nowMs
      by_cases hdashboard : ctx.hm.Stays mcNodeDashboard nowMs
      · simp [hdashboard]
      · simp [hdashboard]
    · push Not at hupdate
      refine iff_of_true (.inl (h.mode_step hassumed hupdate)) ?_
      cases op with
      | updateMode nowMs take => exact absurd rfl (hupdate nowMs take)
      | sendMode => exact absurd rfl hsend
      | frame | enterDrive | aggregate | dequeue | scripts | notify | process | readOldMode
      | heartbeat | readMode | readFaultCd => exact trivial

/-- A step that keeps a torque mode keeps driving. -/
theorem Driving.step {ctx : GatewayCtx} (h : Driving ctx) {op : GatewayOp}
    (hassumed : DriveAssumed ctx op) (hkept : TorqueModeKept ctx op) :
    Driving (gatewayStep ctx op) := by
  have hmode : (gatewayStep ctx op).gs.mode = .drive := by
    by_cases hupdate : ∃ nowMs take, op = .updateMode nowMs take
    · obtain ⟨nowMs, take, rfl⟩ := hupdate
      have hdashboard : ctx.hm.Stays mcNodeDashboard nowMs :=
        (h.torqueModeKept_iff hassumed).mp hkept
      rw [h.mode_update hassumed, if_pos hdashboard]
    · push Not at hupdate
      exact h.mode_step hassumed hupdate
  exact { h.toGatewayInvariant.step op with drive := hmode }

/-- The three nodes beat, the iteration at 10 ms reaches READY, and DRIVE is entered. -/
def driveOffRun : List GatewayOp :=
  [.frame (heartbeatOf mcNodePowertrain) true, .frame (heartbeatOf mcNodeBms) true,
    .frame (heartbeatOf mcNodeDashboard) true] ++ gatewayMain 10 ++ [.enterDrive]

/-- The powertrain and the BMS keep beating, the dashboard does not, and the loop updates the
mode 300 ms after its last heartbeat. -/
def dashboardSilentRun : List GatewayOp :=
  [.frame (heartbeatOf mcNodePowertrain) true, .frame (heartbeatOf mcNodeBms) true, .dequeue 310,
    .readOldMode, .updateMode 310 true]

end Microcar.Gateway
