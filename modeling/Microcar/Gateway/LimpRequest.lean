import Microcar.Bms.Loop
import Microcar.Gateway.Nodes

/-!
# The limp request of the BMS

The BMS publishes its torque limit with a reason, and the shared mode function knows a limp
request. In between, the receive task of the gateway drops every limits frame and the mode
update passes a constant zero for the request, so no update arrives at LIMP.
-/

namespace Microcar.Gateway

/-- The limits frame asks for limp mode: a quarter of the torque, for reason 2. -/
def IsLimpRequest (f : McCanFrame) : Prop :=
  f.id = mcMsgBmsLimits ∧ f.data.get 0 = mcTorqueLimpMaxPercent ∧ f.data.get 1 = 2

/-- The BMS publishes the request exactly in its limp state. -/
theorem sendBmsLimits_isLimpRequest_iff {ctx : Bms.BmsCtx} (h : Bms.Consistent ctx) :
    IsLimpRequest (Bms.sendBmsLimits ctx) ↔ ctx.bs.state = .limpRequest := by
  have htorque : (Bms.sendBmsLimits ctx).data.get 0 = ctx.bl.maxTorquePercent := by
    simp [Bms.sendBmsLimits, McCanFrame.get_data_put]
  have hreason : (Bms.sendBmsLimits ctx).data.get 1 = ctx.bl.reason := by
    simp [Bms.sendBmsLimits, McCanFrame.get_data_put]
  have hid : (Bms.sendBmsLimits ctx).id = mcMsgBmsLimits := rfl
  rw [IsLimpRequest, htorque, hreason, hid, h.limits_eq]
  cases ctx.bs.state <;> decide

/-- The limits frame a step delivers. -/
def GatewayOp.limits? : GatewayOp → Option McCanFrame
  | .frame f _ => if f.id = mcMsgBmsLimits then some f.toMcCanFrame else none
  | _ => none

/-- The last limits frame delivered to the gateway. -/
def lastLimits (ops : List GatewayOp) : Option McCanFrame :=
  (ops.filterMap GatewayOp.limits?).getLast?

/-- The histories after which the next mode update should arrive at LIMP. -/
structure LimpExpected (cfg : GatewayConfig) (ops : List GatewayOp) : Prop where
  /-- The last limits frame carried the request. -/
  requested : ∃ f, lastLimits ops = some f ∧ IsLimpRequest f
  /-- No session is open. -/
  noSession : (Core.run gatewayStep (gatewayBoot cfg) ops).diagSessionActive = false
  /-- No critical fault is active. -/
  noCritical : faultManagerHasCritical (Core.run gatewayStep (gatewayBoot cfg) ops).fm = false
  /-- The vehicle is in one of the modes a limp request applies to. -/
  mode : (Core.run gatewayStep (gatewayBoot cfg) ops).gs.mode ∈
    [McVehicleMode.off, .ready, .drive, .limp]

/-- If LIMP is expected, the update arrives at it. -/
def LimpHonoured (cfg : GatewayConfig) (ops : List GatewayOp) (nowMs : UInt32) (take : Bool) :
    Prop :=
  LimpExpected cfg ops →
    (Core.run gatewayStep (gatewayBoot cfg) (ops ++ [.updateMode nowMs take])).gs.mode = .limp

/-- Without a request the shared mode function does not arrive at LIMP. -/
theorem mcGatewayDetermineMode_ne_limp (m : McVehicleMode) (online : Bool) :
    mcGatewayDetermineMode m online false false ≠ .limp := by
  cases m <;> cases online <;> exact fun h => nomatch h

/-- No update arrives at LIMP, whatever the state. -/
theorem updatedMode_ne_limp (ctx : GatewayCtx) (nowMs : UInt32) (take : Bool) :
    updatedMode ctx nowMs take ≠ .limp := by
  unfold updatedMode
  split
  · exact fun h => nomatch h
  split
  · exact fun h => nomatch h
  · exact mcGatewayDetermineMode_ne_limp _ _

/-- Whatever the flags, the history and the outcome of the mutex take, an update meets the
expectation of LIMP only where there is none. -/
theorem gatewayRun_limp_honoured_iff (cfg : GatewayConfig) (ops : List GatewayOp) (nowMs : UInt32)
    (take : Bool) : LimpHonoured cfg ops nowMs take ↔ ¬ LimpExpected cfg ops := by
  constructor
  · intro hhonoured hexpected
    have hlimp := hhonoured hexpected
    rw [Core.run_snoc, gatewayStep_updateMode] at hlimp
    exact updatedMode_ne_limp _ nowMs take hlimp
  · intro hnone hexpected
    exact absurd hexpected hnone

/-- A limits frame that carries the request. -/
def limpFrame : RxFrame :=
  .ofPayload mcMsgBmsLimits mcTorqueLimpMaxPercent [2]

/-- The vehicle drives with every node online when the request arrives. -/
def limpWhileDriving : List GatewayOp :=
  [.frame (heartbeatOf mcNodePowertrain) true, .frame (heartbeatOf mcNodeBms) true,
    .frame (heartbeatOf mcNodeDashboard) true, .dequeue 10, .updateMode 10 true, .enterDrive,
    .frame limpFrame true]

/-- The update behind the request stays in DRIVE. -/
theorem limpRequest_ignored_in_drive :
    ¬ ∀ ops nowMs, LimpHonoured .off ops nowMs true := by
  intro hall
  have hexpected : LimpExpected .off limpWhileDriving := by
    refine ⟨⟨limpFrame.toMcCanFrame, rfl, rfl, rfl, rfl⟩, ?_, ?_, ?_⟩ <;> decide +kernel
  have hlimp := hall limpWhileDriving 20 hexpected
  have hdrive : (Core.run gatewayStep (gatewayBoot .off)
      (limpWhileDriving ++ [.updateMode 20 true])).gs.mode = .drive := by
    decide +kernel
  rw [hdrive] at hlimp
  exact absurd hlimp (by decide)

end Microcar.Gateway
