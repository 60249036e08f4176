import Microcar.Core.Table
import Microcar.Protocol.Modes

/-!
# Heartbeat monitor of the gateway

Registration, beats and timeout checks over the table of monitored nodes. A node comes
online with a beat and goes offline in a check; the state of one node in the table is
its lookup by identifier, which each operation changes in one known way.
-/

namespace Microcar.Gateway

/-- A monitored node, `hm_node_t`. -/
structure HmNode where
  /-- Node identifier. -/
  nodeId : UInt8
  /-- The node is considered online. -/
  online : Bool
  /-- Time of its last beat. -/
  lastBeatMs : UInt32
  /-- Timeout of the node. -/
  timeoutMs : UInt32
  deriving DecidableEq, Repr

/-- Capacity of the node table, `HM_MAX_NODES`. -/
def hmMaxNodes : Nat := 8

/-- The monitor, `heartbeat_monitor_t`. -/
structure HeartbeatMonitor where
  /-- Registered nodes in registration order. -/
  nodes : Core.Table HmNode hmMaxNodes
  deriving DecidableEq

/-- No node is registered, `heartbeat_monitor_init`; the default timeout it writes into the
free slots is overwritten by every registration. -/
def heartbeatMonitorInit : HeartbeatMonitor := ⟨.empty⟩

/-- Add a node unless the table is full, `heartbeat_monitor_register`. -/
def heartbeatMonitorRegister (hm : HeartbeatMonitor) (nodeId : UInt8) (timeoutMs : UInt32) :
    HeartbeatMonitor × Bool :=
  if hm.nodes.isFull then (hm, false)
  else (⟨hm.nodes.push ⟨nodeId, false, 0, timeoutMs⟩⟩, true)

/-- A node that has just beaten. -/
def HmNode.beat (nowMs : UInt32) (n : HmNode) : HmNode :=
  { n with lastBeatMs := nowMs, online := true }

/-- Record a beat of the first node with the identifier, `heartbeat_monitor_beat`. -/
def heartbeatMonitorBeat (hm : HeartbeatMonitor) (nodeId : UInt8) (nowMs : UInt32) :
    HeartbeatMonitor :=
  ⟨hm.nodes.modify (fun n => n.nodeId == nodeId) (HmNode.beat nowMs)⟩

/-- The node is online and its timeout has elapsed. -/
def HmNode.expires (nowMs : UInt32) (n : HmNode) : Bool :=
  n.online && decide (n.timeoutMs ≤ nowMs - n.lastBeatMs)

/-- A node behind a timeout check. -/
def HmNode.check (nowMs : UInt32) (n : HmNode) : HmNode :=
  if n.expires nowMs then { n with online := false } else n

/-- Mark expired nodes offline and count them, `heartbeat_monitor_check`. -/
def heartbeatMonitorCheck (hm : HeartbeatMonitor) (nowMs : UInt32) : HeartbeatMonitor × Nat :=
  (⟨hm.nodes.map (HmNode.check nowMs)⟩, hm.nodes.entries.countP (HmNode.expires nowMs))

/-- Every registered node is online, and there is one, `heartbeat_monitor_all_online`. -/
def heartbeatMonitorAllOnline (hm : HeartbeatMonitor) : Bool :=
  !hm.nodes.entries.isEmpty && hm.nodes.entries.all (·.online)

/-- The first node with an identifier. -/
def HeartbeatMonitor.node? (hm : HeartbeatMonitor) (nodeId : UInt8) : Option HmNode :=
  hm.nodes.entries.find? fun n => n.nodeId == nodeId

/-- The node is registered and online, `heartbeat_monitor_is_online`. -/
def heartbeatMonitorIsOnline (hm : HeartbeatMonitor) (nodeId : UInt8) : Bool :=
  match hm.node? nodeId with
  | some n => n.online
  | none => false

/-- The identifier of the first offline node, or 0,
`heartbeat_monitor_last_transition_node`. -/
def heartbeatMonitorLastTransitionNode (hm : HeartbeatMonitor) : UInt8 :=
  match hm.nodes.entries.find? fun n => !n.online with
  | some n => n.nodeId
  | none => 0

/-- A node is online exactly when its lookup is. -/
theorem heartbeatMonitorIsOnline_iff (hm : HeartbeatMonitor) (nodeId : UInt8) :
    heartbeatMonitorIsOnline hm nodeId = true ↔
      ∃ n, hm.node? nodeId = some n ∧ n.online = true := by
  unfold heartbeatMonitorIsOnline
  cases hm.node? nodeId with
  | none => simp
  | some n => simp

/-- A beat changes the lookup of its own identifier only. -/
theorem node?_beat (hm : HeartbeatMonitor) (nodeId other : UInt8) (nowMs : UInt32) :
    (heartbeatMonitorBeat hm nodeId nowMs).node? other =
      if nodeId = other then (hm.node? other).map (HmNode.beat nowMs) else hm.node? other := by
  unfold heartbeatMonitorBeat HeartbeatMonitor.node?
  rw [Core.Table.entries_modify]
  induction hm.nodes.entries with
  | nil => simp [Core.modifyFirst]
  | cons n nodes ih =>
    simp only [Core.modifyFirst]
    by_cases hn : n.nodeId = nodeId
    · by_cases ho : nodeId = other
      · simp [hn, ho, HmNode.beat]
      · simp [hn, ho, HmNode.beat]
    · by_cases ho : n.nodeId = other
      · have hne : nodeId ≠ other := fun h => hn (ho.trans h.symm)
        simp [ho, hne, hne.symm]
      · simpa [hn, ho] using ih

@[simp] theorem HmNode.check_nodeId (nowMs : UInt32) (n : HmNode) :
    (n.check nowMs).nodeId = n.nodeId := by
  unfold HmNode.check
  split <;> rfl

@[simp] theorem HmNode.check_lastBeatMs (nowMs : UInt32) (n : HmNode) :
    (n.check nowMs).lastBeatMs = n.lastBeatMs := by
  unfold HmNode.check
  split <;> rfl

@[simp] theorem HmNode.check_timeoutMs (nowMs : UInt32) (n : HmNode) :
    (n.check nowMs).timeoutMs = n.timeoutMs := by
  unfold HmNode.check
  split <;> rfl

/-- A check acts on every lookup. -/
theorem node?_check (hm : HeartbeatMonitor) (nodeId : UInt8) (nowMs : UInt32) :
    (heartbeatMonitorCheck hm nowMs).1.node? nodeId =
      (hm.node? nodeId).map (HmNode.check nowMs) := by
  have hid : ((fun n : HmNode => n.nodeId == nodeId) ∘ HmNode.check nowMs) =
      fun n => n.nodeId == nodeId := by
    funext n
    rw [Function.comp, HmNode.check_nodeId]
  simp only [heartbeatMonitorCheck, HeartbeatMonitor.node?, Core.Table.entries_map,
    List.find?_map, hid]

/-- A check leaves a node online exactly when it was and has not expired. -/
theorem HmNode.check_online (nowMs : UInt32) (n : HmNode) :
    (n.check nowMs).online = (n.online && !n.expires nowMs) := by
  unfold HmNode.check
  cases n.expires nowMs <;> simp

/-- The identifiers and timeouts the gateway registers are in the table. -/
def HeartbeatMonitor.Registers (hm : HeartbeatMonitor) (nodes : List (UInt8 × UInt32)) : Prop :=
  hm.nodes.entries.map (fun n => (n.nodeId, n.timeoutMs)) = nodes

/-- Beats keep the registrations. -/
theorem HeartbeatMonitor.Registers.beat {hm : HeartbeatMonitor} {nodes : List (UInt8 × UInt32)}
    (h : hm.Registers nodes) (nodeId : UInt8) (nowMs : UInt32) :
    (heartbeatMonitorBeat hm nodeId nowMs).Registers nodes := by
  unfold HeartbeatMonitor.Registers heartbeatMonitorBeat
  rw [Core.Table.entries_modify, Core.map_modifyFirst (f := HmNode.beat nowMs) fun _ _ => rfl]
  exact h

/-- Checks keep the registrations. -/
theorem HeartbeatMonitor.Registers.check {hm : HeartbeatMonitor} {nodes : List (UInt8 × UInt32)}
    (h : hm.Registers nodes) (nowMs : UInt32) :
    (heartbeatMonitorCheck hm nowMs).1.Registers nodes := by
  have hkeep : (fun n : HmNode => (n.nodeId, n.timeoutMs)) ∘ HmNode.check nowMs =
      fun n => (n.nodeId, n.timeoutMs) := by
    funext n
    rw [Function.comp, HmNode.check_nodeId, HmNode.check_timeoutMs]
  unfold HeartbeatMonitor.Registers heartbeatMonitorCheck
  rw [Core.Table.entries_map, List.map_map, hkeep]
  exact h

end Microcar.Gateway
