import Microcar.Gateway.Reachable

/-!
# The three monitored nodes

Which nodes are online behind a timeout check, in terms of the state before the loop
iteration: a node stays online exactly when a heartbeat of it is queued or its last one
is young enough. The node a timeout is attributed to is the first offline one in
registration order.
-/

namespace Microcar.Gateway

/-- The node is online and its timeout has not elapsed. -/
def HeartbeatMonitor.Stays (hm : HeartbeatMonitor) (nodeId : UInt8) (nowMs : UInt32) : Prop :=
  ∃ n, hm.node? nodeId = some n ∧ n.online = true ∧ n.expires nowMs = false

/-- A heartbeat of the node is queued, or the node is online and its timeout has not
elapsed. -/
def NodeFresh (ctx : GatewayCtx) (nodeId : UInt8) (nowMs : UInt32) : Prop :=
  (∃ ev ∈ ctx.hbQueue.entries, ev.sender = nodeId) ∨ ctx.hm.Stays nodeId nowMs

/-- A heartbeat frame of the given node. -/
def heartbeatOf (nodeId : UInt8) : RxFrame :=
  .ofPayload mcMsgHeartbeat nodeId [0, 0, 0, 0]

/-- A node is online behind a check exactly when it stays. -/
theorem isOnline_check_iff (hm : HeartbeatMonitor) (nodeId : UInt8) (nowMs : UInt32) :
    heartbeatMonitorIsOnline (heartbeatMonitorCheck hm nowMs).1 nodeId = true ↔
      hm.Stays nodeId nowMs := by
  rw [heartbeatMonitorIsOnline_iff, HeartbeatMonitor.Stays, node?_check]
  cases hm.node? nodeId with
  | none => simp
  | some n => simp [HmNode.check_online]

/-- The lookup of a node behind queued heartbeats. -/
theorem node?_beatAll (hm : HeartbeatMonitor) (events : List HbEvent) (nodeId : UInt8)
    (nowMs : UInt32) :
    (beatAll hm events nowMs).node? nodeId =
      if ∃ ev ∈ events, ev.sender = nodeId then (hm.node? nodeId).map (HmNode.beat nowMs)
      else hm.node? nodeId := by
  induction events generalizing hm with
  | nil => simp [beatAll]
  | cons ev events ih =>
    have hstep : beatAll hm (ev :: events) nowMs =
        beatAll (heartbeatMonitorBeat hm ev.sender nowMs) events nowMs := rfl
    have htwice : HmNode.beat nowMs ∘ HmNode.beat nowMs = HmNode.beat nowMs := rfl
    rw [hstep, ih, node?_beat]
    by_cases hev : ev.sender = nodeId
    · simp only [hev, if_true, List.mem_cons, exists_eq_or_imp, true_or, Option.map_map, htwice]
      split <;> rfl
    · simp [hev]

/-- The three entries of a monitor with the gateway's registrations. -/
theorem HeartbeatMonitor.Registers.entries {hm : HeartbeatMonitor}
    (h : hm.Registers monitoredNodes) :
    ∃ p b d, hm.nodes.entries = [p, b, d] ∧ p.nodeId = mcNodePowertrain ∧ b.nodeId = mcNodeBms ∧
      d.nodeId = mcNodeDashboard ∧ p.timeoutMs = mcSafetyBmsHeartbeatTimeoutMs ∧
      b.timeoutMs = mcSafetyBmsHeartbeatTimeoutMs ∧
      d.timeoutMs = mcSafetyBmsHeartbeatTimeoutMs := by
  obtain ⟨p, rest, hentries, hp, hrest⟩ := List.map_eq_cons_iff.mp h
  obtain ⟨b, rest', rfl, hb, hrest'⟩ := List.map_eq_cons_iff.mp hrest
  obtain ⟨d, rest'', rfl, hd, hnil⟩ := List.map_eq_cons_iff.mp hrest'
  rw [List.map_eq_nil_iff.mp hnil] at hentries
  obtain ⟨hp, hpt⟩ := Prod.mk.inj hp
  obtain ⟨hb, hbt⟩ := Prod.mk.inj hb
  obtain ⟨hd, hdt⟩ := Prod.mk.inj hd
  exact ⟨p, b, d, hentries, hp, hb, hd, hpt, hbt, hdt⟩

/-- The lookups of the three nodes. -/
theorem HeartbeatMonitor.Registers.lookups {hm : HeartbeatMonitor}
    (h : hm.Registers monitoredNodes) :
    ∃ p b d, hm.nodes.entries = [p, b, d] ∧ hm.node? mcNodePowertrain = some p ∧
      hm.node? mcNodeBms = some b ∧ hm.node? mcNodeDashboard = some d ∧
      p.nodeId = mcNodePowertrain ∧ b.nodeId = mcNodeBms ∧ d.nodeId = mcNodeDashboard := by
  obtain ⟨p, b, d, hentries, hp, hb, hd, -⟩ := h.entries
  have h1 : (mcNodePowertrain == mcNodeBms) = false := rfl
  have h2 : (mcNodePowertrain == mcNodeDashboard) = false := rfl
  have h3 : (mcNodeBms == mcNodeDashboard) = false := rfl
  refine ⟨p, b, d, hentries, ?_, ?_, ?_, hp, hb, hd⟩
  · simp [HeartbeatMonitor.node?, hentries, hp]
  · simp [HeartbeatMonitor.node?, hentries, hp, hb, h1]
  · simp [HeartbeatMonitor.node?, hentries, hp, hb, hd, h2, h3]

/-- Every registered lookup has the common timeout. -/
theorem HeartbeatMonitor.Registers.timeout {hm : HeartbeatMonitor}
    (h : hm.Registers monitoredNodes) {nodeId : UInt8} {n : HmNode}
    (hn : hm.node? nodeId = some n) : n.timeoutMs = mcSafetyBmsHeartbeatTimeoutMs := by
  obtain ⟨p, b, d, hentries, -, -, -, hp, hb, hd⟩ := h.entries
  have hmem := List.mem_of_find?_eq_some hn
  rw [hentries] at hmem
  simp only [List.mem_cons, List.not_mem_nil, or_false] at hmem
  rcases hmem with rfl | rfl | rfl
  · exact hp
  · exact hb
  · exact hd

/-- Behind the queued heartbeats, a registered node stays online exactly when it is fresh. -/
theorem stays_beatAll_iff {ctx : GatewayCtx} (h : ctx.hm.Registers monitoredNodes)
    {nodeId : UInt8} {n : HmNode} (hn : ctx.hm.node? nodeId = some n) (nowMs : UInt32) :
    (beatAll ctx.hm ctx.hbQueue.entries nowMs).Stays nodeId nowMs ↔ NodeFresh ctx nodeId nowMs := by
  have htimeout := h.timeout hn
  have hbeaten : (n.beat nowMs).expires nowMs = false := by
    have helapsed : nowMs - nowMs = 0 := by simp
    simp only [HmNode.expires, HmNode.beat, htimeout, helapsed]
    decide
  unfold HeartbeatMonitor.Stays NodeFresh
  rw [node?_beatAll, hn]
  by_cases hqueued : ∃ ev ∈ ctx.hbQueue.entries, ev.sender = nodeId
  · simp only [hqueued, if_true, true_or, iff_true]
    exact ⟨n.beat nowMs, rfl, rfl, hbeaten⟩
  · simp only [hqueued, if_false, false_or, HeartbeatMonitor.Stays, hn]

/-- All nodes are online behind a check exactly when the three nodes stay. -/
theorem allOnline_check_iff {hm : HeartbeatMonitor} (h : hm.Registers monitoredNodes)
    (nowMs : UInt32) :
    heartbeatMonitorAllOnline (heartbeatMonitorCheck hm nowMs).1 = true ↔
      hm.Stays mcNodePowertrain nowMs ∧ hm.Stays mcNodeBms nowMs ∧
        hm.Stays mcNodeDashboard nowMs := by
  obtain ⟨p, b, d, hentries, hp, hb, hd, -⟩ := h.lookups
  simp only [HeartbeatMonitor.Stays, hp, hb, hd, Option.some.injEq, exists_eq_left']
  simp [heartbeatMonitorAllOnline, heartbeatMonitorCheck, hentries, HmNode.check_online]

/-- When the BMS expires in a check, the timeout is attributed to it exactly when the
powertrain stays online. -/
theorem attributesToBms_iff {hm : HeartbeatMonitor} (h : hm.Registers monitoredNodes)
    {nowMs : UInt32} {b : HmNode} (hb : hm.node? mcNodeBms = some b)
    (hexpires : b.expires nowMs = true) :
    attributesToBms hm nowMs ↔ hm.Stays mcNodePowertrain nowMs := by
  obtain ⟨p, b', d, hentries, hp, hb', hd, hpid, hbid, -⟩ := h.lookups
  have hsame : b' = b := Option.some.inj (hb'.symm.trans hb)
  subst hsame
  have hcount : 0 < (heartbeatMonitorCheck hm nowMs).2 := by
    simp only [heartbeatMonitorCheck, hentries, List.countP_pos_iff]
    exact ⟨b', by simp, hexpires⟩
  have hoffline : (b'.check nowMs).online = false := by
    simp [HmNode.check_online, hexpires]
  have hstays : hm.Stays mcNodePowertrain nowMs ↔ (p.check nowMs).online = true := by
    simp [HeartbeatMonitor.Stays, hp, HmNode.check_online]
  rw [hstays, attributesToBms, and_iff_right hcount]
  simp only [heartbeatMonitorLastTransitionNode, heartbeatMonitorCheck, Core.Table.entries_map,
    hentries, List.map_cons, List.find?_cons]
  cases (p.check nowMs).online with
  | true => simp [hoffline, hbid]
  | false =>
    have hne : mcNodePowertrain ≠ mcNodeBms := by decide
    simp [hpid, hne]

end Microcar.Gateway
