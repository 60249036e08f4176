import Microcar.Gateway.FaultLog

/-!
# Reachable states of the gateway

With the scripts off, every reachable state monitors the three registered nodes and has a
consistent fault table, and the scripts stay off.
-/

namespace Microcar.Gateway

/-- The nodes `gateway_init` registers, with their timeouts. -/
def monitoredNodes : List (UInt8 × UInt32) :=
  [(mcNodePowertrain, mcSafetyBmsHeartbeatTimeoutMs), (mcNodeBms, mcSafetyBmsHeartbeatTimeoutMs),
    (mcNodeDashboard, mcSafetyBmsHeartbeatTimeoutMs)]

/-- What holds in every reachable state with the scripts off. -/
structure GatewayInvariant (ctx : GatewayCtx) : Prop where
  /-- The monitored nodes are the registered ones. -/
  registered : ctx.hm.Registers monitoredNodes
  /-- The fault table is consistent. -/
  faults : FaultsConsistent ctx.fm
  /-- No script is enabled. -/
  scriptsOff : ctx.cfg.ScriptsOff

/-- Queued heartbeats keep the registrations. -/
theorem registers_beatAll {hm : HeartbeatMonitor} {nodes : List (UInt8 × UInt32)}
    (h : hm.Registers nodes) (events : List HbEvent) (nowMs : UInt32) :
    (beatAll hm events nowMs).Registers nodes := by
  induction events generalizing hm with
  | nil => exact h
  | cons ev events ih => exact ih (h.beat ev.sender nowMs)

/-- Every move keeps the registrations. -/
theorem GatewayMove.registers {ctx ctx' : GatewayCtx} {op : GatewayOp} (h : GatewayMove ctx op ctx')
    {nodes : List (UInt8 × UInt32)} (hnodes : ctx.hm.Registers nodes) :
    ctx'.hm.Registers nodes := by
  cases h with
  | frame hframe => cases hframe <;> exact hnodes
  | @beats nowMs => exact registers_beatAll hnodes _ nowMs
  | @process nowMs => exact hnodes.check nowMs
  | @update nowMs => exact hnodes.check nowMs
  | drive | passive => exact hnodes

/-- With the scripts off, every step makes one of the moves. -/
theorem GatewayInvariant.move {ctx : GatewayCtx} (h : GatewayInvariant ctx) (op : GatewayOp) :
    GatewayMove ctx op (gatewayStep ctx op) :=
  gatewayStep_move fun _ _ => h.scriptsOff

/-- Every step keeps the invariant. -/
theorem GatewayInvariant.step {ctx : GatewayCtx} (h : GatewayInvariant ctx) (op : GatewayOp) :
    GatewayInvariant (gatewayStep ctx op) where
  registered := (h.move op).registers h.registered
  faults := (faultSafe_gatewayStep ctx op).consistent h.faults
  scriptsOff := by
    rw [(h.move op).cfg_eq]
    exact h.scriptsOff

/-- The booted gateway satisfies the invariant. -/
theorem gatewayInvariant_boot {cfg : GatewayConfig} (h : cfg.ScriptsOff) :
    GatewayInvariant (gatewayBoot cfg) where
  registered := rfl
  faults := faultsConsistent_init
  scriptsOff := h

/-- Every reachable state with the scripts off satisfies the invariant. -/
theorem gatewayInvariant_run {cfg : GatewayConfig} (h : cfg.ScriptsOff) (ops : List GatewayOp) :
    GatewayInvariant (Core.run gatewayStep (gatewayBoot cfg) ops) :=
  Core.run_invariant (I := GatewayInvariant) (fun _ op hs => hs.step op)
    (gatewayInvariant_boot h) ops

end Microcar.Gateway
