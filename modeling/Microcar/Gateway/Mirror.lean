import Microcar.Core.Checked
import Microcar.Core.Lockstep
import Microcar.Gateway.Handlers
import Microcar.Protocol.Mirror

/-!
# The gateway mirror of the state tests

Heartbeat monitor, fault manager and mode state of the state tests run against those of the
firmware. Growable vectors stand for the fixed tables, and checked arithmetic for the
wrapping times and counters, so the two run in lockstep exactly along the histories that
neither fill the fault table nor run a time or a counter over.
-/

namespace Microcar.Gateway.Mirror

open Microcar.Mirror (VehicleMode)

/-- The mirrored monitor, `HeartbeatMonitor`; a node has the fields of `hm_node_t`. -/
structure HeartbeatMonitor where
  /-- Registered nodes in registration order. -/
  nodes : List HmNode
  deriving DecidableEq

/-- Add a node, `HeartbeatMonitor::register`. -/
def HeartbeatMonitor.register (hm : HeartbeatMonitor) (nodeId : UInt8) (timeoutMs : UInt32) :
    HeartbeatMonitor :=
  ⟨hm.nodes ++ [⟨nodeId, false, 0, timeoutMs⟩]⟩

/-- Record a beat of the first node with the identifier, `HeartbeatMonitor::beat`. -/
def HeartbeatMonitor.beat (hm : HeartbeatMonitor) (nodeId : UInt8) (nowMs : UInt32) :
    HeartbeatMonitor :=
  ⟨Core.modifyFirst (fun n => n.nodeId == nodeId) (HmNode.beat nowMs) hm.nodes⟩

/-- One round of the check loop: the node behind it, and whether it went offline. -/
def checkNode (nowMs : UInt32) (n : HmNode) : Option (HmNode × Bool) :=
  if n.online then do
    let elapsed ← Core.checkedSub32 nowMs n.lastBeatMs
    if n.timeoutMs ≤ elapsed then return ({ n with online := false }, true)
    else return (n, false)
  else some (n, false)

/-- Mark expired nodes offline and count them, `HeartbeatMonitor::check`. -/
def HeartbeatMonitor.check (hm : HeartbeatMonitor) (nowMs : UInt32) :
    Option (HeartbeatMonitor × Nat) := do
  let checked ← hm.nodes.mapM (checkNode nowMs)
  return (⟨checked.map Prod.fst⟩, checked.countP Prod.snd)

/-- Every node is online, and there is one, `HeartbeatMonitor::all_online`. -/
def HeartbeatMonitor.allOnline (hm : HeartbeatMonitor) : Bool :=
  if hm.nodes.isEmpty then false else hm.nodes.all (·.online)

/-- Some node with the identifier is online, `HeartbeatMonitor::is_online`. -/
def HeartbeatMonitor.isOnline (hm : HeartbeatMonitor) (nodeId : UInt8) : Bool :=
  hm.nodes.any fun n => n.nodeId == nodeId && n.online

/-- The mirrored fault manager, `FaultManager`. -/
structure FaultManager where
  /-- Tracked faults in order of their first report. -/
  faults : List Fault
  /-- Number of active critical faults. -/
  criticalCount : UInt8
  /-- Number of active warnings. -/
  warningCount : UInt8
  deriving DecidableEq

/-- Move the counter of a severity, if the counter admits it. -/
def FaultManager.count (fm : FaultManager) (move : UInt8 → Option UInt8) (severity : UInt8) :
    Option FaultManager :=
  if severity = 2 then (move fm.criticalCount).map fun n => { fm with criticalCount := n }
  else if severity = 1 then (move fm.warningCount).map fun n => { fm with warningCount := n }
  else some fm

/-- Count up for a severity. -/
def FaultManager.countUp (fm : FaultManager) (severity : UInt8) : Option FaultManager :=
  fm.count Core.checkedSucc8 severity

/-- Count down for a severity. -/
def FaultManager.countDown (fm : FaultManager) (severity : UInt8) : Option FaultManager :=
  fm.count Core.checkedPred8 severity

/-- Report a fault, `FaultManager::report`. -/
def FaultManager.report (fm : FaultManager) (source code severity : UInt8) :
    Option FaultManager :=
  match fm.faults.find? (Fault.hasKey source code) with
  | some f =>
    (if f.active then some fm else fm.countUp severity).map fun counted =>
      { counted with
        faults := Core.modifyFirst (Fault.hasKey source code) (Fault.renew severity) fm.faults }
  | none =>
    (fm.countUp severity).map fun counted =>
      { counted with faults := fm.faults ++ [⟨source, code, true, severity⟩] }

/-- Deactivate the first active fault of the key, `FaultManager::clear`. -/
def FaultManager.clear (fm : FaultManager) (source code : UInt8) : Option FaultManager :=
  match fm.faults.find? (fun f => f.hasKey source code && f.active) with
  | some f =>
    (fm.countDown f.severity).map fun counted =>
      { counted with
        faults := Core.modifyFirst (fun f => f.hasKey source code && f.active)
          (fun f => { f with active := false }) fm.faults }
  | none => some fm

/-- A critical fault is counted, `FaultManager::has_critical`. -/
def FaultManager.hasCritical (fm : FaultManager) : Bool := decide (0 < fm.criticalCount)

/-- Number of active faults, `FaultManager::active_count`. -/
def FaultManager.activeCount (fm : FaultManager) : UInt8 :=
  UInt8.ofNat (fm.faults.countP (·.active))

/-- The mirrored mode state, `GatewayState`. -/
structure GatewayState where
  /-- Current vehicle mode. -/
  mode : VehicleMode
  /-- All expected nodes are online. -/
  allNodesOnline : Bool
  /-- A critical fault is active. -/
  bmsFaultActive : Bool
  /-- The BMS requests limp mode. -/
  bmsLimpRequested : Bool
  /-- Number of active faults. -/
  activeFaultCount : UInt8
  deriving DecidableEq

/-- Take over the inputs and apply the transition, `GatewayState::update`. -/
def GatewayState.update (gs : GatewayState) (allNodesOnline bmsFaultActive bmsLimpRequested : Bool)
    (faultCount : UInt8) : GatewayState where
  mode := Microcar.Mirror.determineMode gs.mode allNodesOnline bmsFaultActive bmsLimpRequested
  allNodesOnline := allNodesOnline
  bmsFaultActive := bmsFaultActive
  bmsLimpRequested := bmsLimpRequested
  activeFaultCount := faultCount

/-- READY is left for DRIVE, `GatewayState::enter_drive`. -/
def GatewayState.enterDrive (gs : GatewayState) : GatewayState :=
  if gs.mode = .ready then { gs with mode := .drive } else gs

/-- A call of the gateway logic. -/
inductive MirrorOp where
  /-- Register a node with its timeout. -/
  | register (nodeId : UInt8) (timeoutMs : UInt32)
  /-- A beat of a node. -/
  | beat (nodeId : UInt8) (nowMs : UInt32)
  /-- A timeout check. -/
  | check (nowMs : UInt32)
  /-- A fault report. -/
  | report (source code severity : UInt8)
  /-- A clear of one fault. -/
  | clear (source code : UInt8)
  /-- A mode update; the mirror receives whether the flag bytes are set. -/
  | update (allNodesOnline bmsFaultActive bmsLimpRequested faultCount : UInt8)
  /-- A request for DRIVE. -/
  | enterDrive

/-- Monitor, fault manager and mode state of the firmware. -/
structure Firmware where
  /-- Heartbeat monitor. -/
  hm : Gateway.HeartbeatMonitor
  /-- Fault manager. -/
  fm : Gateway.FaultManager
  /-- Mode state. -/
  gs : Gateway.GatewayState

/-- Monitor, fault manager and mode state of the mirror. -/
structure Model where
  /-- Heartbeat monitor. -/
  hm : HeartbeatMonitor
  /-- Fault manager. -/
  fm : FaultManager
  /-- Mode state. -/
  gs : GatewayState

/-- The firmware at boot. -/
def firmwareInit : Firmware := ⟨heartbeatMonitorInit, faultManagerInit, gatewayStateInit⟩

/-- The mirror by default. -/
def modelDefault : Model := ⟨⟨[]⟩, ⟨[], 0, 0⟩, ⟨.off, false, false, false, 0⟩⟩

/-- The firmware under one call, with the number of transitions of a check. -/
def firmwareStep (c : Firmware) : MirrorOp → Firmware × Option Nat
  | .register nodeId timeoutMs =>
    ({ c with hm := (heartbeatMonitorRegister c.hm nodeId timeoutMs).1 }, none)
  | .beat nodeId nowMs => ({ c with hm := heartbeatMonitorBeat c.hm nodeId nowMs }, none)
  | .check nowMs =>
    let checked := heartbeatMonitorCheck c.hm nowMs
    ({ c with hm := checked.1 }, some checked.2)
  | .report source code severity =>
    ({ c with fm := (faultManagerReport c.fm source code severity).1 }, none)
  | .clear source code => ({ c with fm := faultManagerClear c.fm source code }, none)
  | .update online fault limp count =>
    ({ c with gs := gatewayStateUpdate c.gs (online != 0) (fault != 0) (limp != 0) count }, none)
  | .enterDrive => ({ c with gs := gatewayStateEnterDrive c.gs }, none)

/-- The mirror under one call. -/
def modelStep (r : Model) : MirrorOp → Option (Model × Option Nat)
  | .register nodeId timeoutMs => some ({ r with hm := r.hm.register nodeId timeoutMs }, none)
  | .beat nodeId nowMs => some ({ r with hm := r.hm.beat nodeId nowMs }, none)
  | .check nowMs =>
    (r.hm.check nowMs).map fun checked => ({ r with hm := checked.1 }, some checked.2)
  | .report source code severity =>
    (r.fm.report source code severity).map fun fm => ({ r with fm := fm }, none)
  | .clear source code => (r.fm.clear source code).map fun fm => ({ r with fm := fm }, none)
  | .update online fault limp count =>
    some ({ r with gs := r.gs.update (online != 0) (fault != 0) (limp != 0) count }, none)
  | .enterDrive => some ({ r with gs := r.gs.enterDrive }, none)

/-- Firmware and mirror show the same online flags, faults and mode. -/
structure SameOutputs (c : Firmware) (r : Model) : Prop where
  /-- Online flags in registration order. -/
  flags : c.hm.nodes.entries.map (·.online) = r.hm.nodes.map (·.online)
  /-- Online state of every identifier. -/
  online : ∀ nodeId, heartbeatMonitorIsOnline c.hm nodeId = r.hm.isOnline nodeId
  /-- All nodes online. -/
  allOnline : heartbeatMonitorAllOnline c.hm = r.hm.allOnline
  /-- A critical fault is announced. -/
  hasCritical : faultManagerHasCritical c.fm = r.fm.hasCritical
  /-- Number of active faults. -/
  activeCount : faultManagerActiveCount c.fm = r.fm.activeCount
  /-- Vehicle mode. -/
  mode : c.gs.mode = r.gs.mode.firmware

/-- The counter of the severity is not at a bound. -/
def CounterOff (bound : UInt8) (fm : Gateway.FaultManager) (severity : UInt8) : Prop :=
  (severity = 2 → fm.criticalCount ≠ bound) ∧ (severity = 1 → fm.warningCount ≠ bound)

/-- The counter of the severity has room for one more. -/
def CanCountUp (fm : Gateway.FaultManager) (severity : UInt8) : Prop := CounterOff 255 fm severity

/-- The counter of the severity is not zero. -/
def CanCountDown (fm : Gateway.FaultManager) (severity : UInt8) : Prop := CounterOff 0 fm severity

/-- No check of an online node lies before its last beat. -/
def CheckCovered (hm : Gateway.HeartbeatMonitor) (nowMs : UInt32) : Prop :=
  ∀ n ∈ hm.nodes.entries, n.online = true → n.lastBeatMs ≤ nowMs

/-- The report is of an active fault, or it finds a slot and its counter has room. -/
def ReportCovered (fm : Gateway.FaultManager) (source code severity : UInt8) : Prop :=
  match fm.faults.entries.find? (Fault.hasKey source code) with
  | some f => f.active = true ∨ CanCountUp fm severity
  | none => fm.faults.isFull = false ∧ CanCountUp fm severity

/-- The clear finds no active fault, or one whose counter is not zero. -/
def ClearCovered (fm : Gateway.FaultManager) (source code : UInt8) : Prop :=
  match fm.faults.entries.find? (fun f => f.hasKey source code && f.active) with
  | some f => CanCountDown fm f.severity
  | none => True

/-- The call touches no difference: no check of an online node lies before its last beat, no
new fault is reported to a full table, and no counter runs over or below zero. -/
def OpCovered (c : Firmware) : MirrorOp → Prop
  | .check nowMs => CheckCovered c.hm nowMs
  | .report source code severity => ReportCovered c.fm source code severity
  | .clear source code => ClearCovered c.fm source code
  | _ => True

/-- The mirror of a fault manager. -/
def mirroredFaults (fm : Gateway.FaultManager) : FaultManager :=
  ⟨fm.faults.entries, fm.criticalCount, fm.warningCount⟩

/-- The mirror of a monitor. -/
def mirroredMonitor (hm : Gateway.HeartbeatMonitor) : HeartbeatMonitor := ⟨hm.nodes.entries⟩

theorem warning_ne_critical : ¬(1 : UInt8) = 2 := by decide

/-- A checked move of a counter off its bound is the firmware's wrapping one. -/
theorem count_mirrored {fm : Gateway.FaultManager} {severity bound : UInt8}
    {move : UInt8 → Option UInt8} {wrapping : UInt8 → UInt8}
    (hmove : ∀ n, move n = if n = bound then none else some (wrapping n))
    (h : CounterOff bound fm severity) :
    (mirroredFaults fm).count move severity = some (mirroredFaults
      (if severity = 2 then { fm with criticalCount := wrapping fm.criticalCount }
      else if severity = 1 then { fm with warningCount := wrapping fm.warningCount }
      else fm)) := by
  unfold FaultManager.count
  rw [hmove, hmove]
  induction severity using severity_cases with
  | critical =>
    have hoff : (mirroredFaults fm).criticalCount ≠ bound := h.1 rfl
    rw [if_pos rfl, if_pos rfl, if_neg hoff]
    rfl
  | warning =>
    have hoff : (mirroredFaults fm).warningCount ≠ bound := h.2 rfl
    rw [if_neg warning_ne_critical, if_neg warning_ne_critical, if_pos rfl, if_pos rfl, if_neg hoff]
    rfl
  | uncounted severity h2 h1 => rw [if_neg h2, if_neg h2, if_neg h1, if_neg h1]

/-- A checked move of a counter at its bound stops the mirror. -/
theorem count_mirrored_none {fm : Gateway.FaultManager} {severity bound : UInt8}
    {move : UInt8 → Option UInt8} {wrapping : UInt8 → UInt8}
    (hmove : ∀ n, move n = if n = bound then none else some (wrapping n))
    (h : ¬ CounterOff bound fm severity) : (mirroredFaults fm).count move severity = none := by
  unfold FaultManager.count
  rw [hmove, hmove]
  induction severity using severity_cases with
  | critical =>
    have hbound : (mirroredFaults fm).criticalCount = bound := by
      by_contra hoff
      exact h ⟨fun _ => hoff, fun heq => absurd heq.symm warning_ne_critical⟩
    rw [if_pos rfl, if_pos hbound]
    rfl
  | warning =>
    have hbound : (mirroredFaults fm).warningCount = bound := by
      by_contra hoff
      exact h ⟨fun heq => absurd heq warning_ne_critical, fun _ => hoff⟩
    rw [if_neg warning_ne_critical, if_pos rfl, if_pos hbound]
    rfl
  | uncounted severity h2 h1 =>
    exact absurd ⟨fun hc => absurd hc h2, fun hc => absurd hc h1⟩ h

/-- The mirror counts up as the firmware does where the counter has room. -/
theorem countUp_mirrored {fm : Gateway.FaultManager} {severity : UInt8}
    (h : CanCountUp fm severity) :
    (mirroredFaults fm).countUp severity = some (mirroredFaults (fm.countUp severity)) :=
  count_mirrored (fun _ => rfl) h

/-- The mirror counts down as the firmware does where the counter is not zero. -/
theorem countDown_mirrored {fm : Gateway.FaultManager} {severity : UInt8}
    (h : CanCountDown fm severity) :
    (mirroredFaults fm).countDown severity = some (mirroredFaults (fm.countDown severity)) :=
  count_mirrored (fun _ => rfl) h

/-- A covered report has the firmware's effect. -/
theorem report_mirrored {fm : Gateway.FaultManager} {source code severity : UInt8}
    (h : ReportCovered fm source code severity) :
    (mirroredFaults fm).report source code severity =
      some (mirroredFaults (faultManagerReport fm source code severity).1) := by
  have hentries : (mirroredFaults fm).faults = fm.faults.entries := rfl
  unfold ReportCovered at h
  unfold FaultManager.report faultManagerReport
  rw [hentries]
  cases hfind : fm.faults.entries.find? (Fault.hasKey source code) with
  | some f =>
    rw [hfind] at h
    cases hactive : f.active with
    | true =>
      simp only [hactive, if_true, Option.map_some]
      rfl
    | false =>
      have hroom : CanCountUp fm severity :=
        h.resolve_left fun htrue => Bool.false_ne_true (hactive.symm.trans htrue)
      simp only [hactive, Bool.false_eq_true, if_false, countUp_mirrored hroom, Option.map_some]
      rfl
  | none =>
    rw [hfind] at h
    obtain ⟨hfree, hroom⟩ := h
    simp only [hfree, Bool.false_eq_true, if_false, countUp_mirrored hroom, Option.map_some]
    simp only [mirroredFaults, Core.Table.entries_push, hfree, Bool.false_eq_true, if_false]

/-- A further active fault changes the number of active faults. -/
theorem activeCount_append (fm : Gateway.FaultManager) {f : Fault} (hactive : f.active = true)
    {critical warning : UInt8} :
    faultManagerActiveCount fm ≠
      (⟨fm.faults.entries ++ [f], critical, warning⟩ : FaultManager).activeCount := by
  have hle : fm.faults.entries.countP (·.active) ≤ 16 :=
    Nat.le_trans List.countP_le_length fm.faults.length_le
  have happend : (fm.faults.entries ++ [f]).countP (·.active) =
      fm.faults.entries.countP (·.active) + 1 := by
    simp [List.countP_append, hactive]
  have hsize : UInt8.size = 256 := rfl
  intro heq
  have hnat := congrArg UInt8.toNat heq
  rw [faultManagerActiveCount, FaultManager.activeCount, happend,
    UInt8.toNat_ofNat_of_lt' (by omega), UInt8.toNat_ofNat_of_lt' (by omega)] at hnat
  omega

/-- A report that is not covered stops the mirror or leaves it with another number of active
faults. -/
theorem report_differs {fm : Gateway.FaultManager} {source code severity : UInt8}
    (h : ¬ ReportCovered fm source code severity) {fm' : FaultManager}
    (hreport : (mirroredFaults fm).report source code severity = some fm') :
    faultManagerActiveCount (faultManagerReport fm source code severity).1 ≠ fm'.activeCount := by
  have hentries : (mirroredFaults fm).faults = fm.faults.entries := rfl
  unfold ReportCovered at h
  unfold FaultManager.report at hreport
  unfold faultManagerReport
  rw [hentries] at hreport
  cases hfind : fm.faults.entries.find? (Fault.hasKey source code) with
  | some f =>
    rw [hfind] at h hreport
    obtain ⟨hinactive, hbound⟩ := not_or.mp h
    have hnone : (mirroredFaults fm).countUp severity = none :=
      count_mirrored_none (fun _ => rfl) hbound
    simp only [hinactive, Bool.false_eq_true, if_false, hnone, Option.map_none] at hreport
    exact nomatch hreport
  | none =>
    rw [hfind] at h hreport
    by_cases hroom : CanCountUp fm severity
    · have hfull : fm.faults.isFull = true := by
        by_contra hnot
        exact h ⟨Bool.eq_false_iff.mpr hnot, hroom⟩
      simp only [countUp_mirrored hroom, Option.map_some, Option.some.injEq] at hreport
      subst hreport
      simp only [hfull, if_true]
      exact activeCount_append fm rfl
    · have hnone : (mirroredFaults fm).countUp severity = none :=
        count_mirrored_none (fun _ => rfl) hroom
      simp only [hnone, Option.map_none] at hreport
      exact nomatch hreport

/-- A covered clear has the firmware's effect. -/
theorem clear_mirrored {fm : Gateway.FaultManager} {source code : UInt8}
    (h : ClearCovered fm source code) :
    (mirroredFaults fm).clear source code =
      some (mirroredFaults (faultManagerClear fm source code)) := by
  have hentries : (mirroredFaults fm).faults = fm.faults.entries := rfl
  unfold ClearCovered at h
  unfold FaultManager.clear faultManagerClear
  rw [hentries]
  cases hfind : fm.faults.entries.find? (fun f => f.hasKey source code && f.active) with
  | some f =>
    rw [hfind] at h
    simp only [countDown_mirrored h, Option.map_some]
    rfl
  | none => rfl

/-- A clear that is not covered stops the mirror. -/
theorem clear_stops {fm : Gateway.FaultManager} {source code : UInt8}
    (h : ¬ ClearCovered fm source code) : (mirroredFaults fm).clear source code = none := by
  have hentries : (mirroredFaults fm).faults = fm.faults.entries := rfl
  unfold ClearCovered at h
  unfold FaultManager.clear
  rw [hentries]
  cases hfind : fm.faults.entries.find? (fun f => f.hasKey source code && f.active) with
  | some f =>
    rw [hfind] at h
    have hnone : (mirroredFaults fm).countDown f.severity = none :=
      count_mirrored_none (fun _ => rfl) h
    simp only [hnone, Option.map_none]
  | none =>
    rw [hfind] at h
    exact absurd trivial h

/-- One round of a covered check. -/
theorem checkNode_mirrored {nowMs : UInt32} {n : HmNode}
    (h : n.online = true → n.lastBeatMs ≤ nowMs) :
    checkNode nowMs n = some (n.check nowMs, n.expires nowMs) := by
  unfold checkNode HmNode.check HmNode.expires Core.checkedSub32
  cases honline : n.online with
  | false => rfl
  | true =>
    simp only [h honline, if_true, Option.bind_eq_bind, Option.bind_some, Option.pure_def,
      Bool.true_and]
    by_cases hlate : n.timeoutMs ≤ nowMs - n.lastBeatMs
    · simp only [hlate, decide_true, if_true]
    · simp only [hlate, decide_false, if_false, Bool.false_eq_true]

/-- The round of an online node before its last beat stops the mirror. -/
theorem checkNode_stops {nowMs : UInt32} {n : HmNode} (honline : n.online = true)
    (hfuture : ¬ n.lastBeatMs ≤ nowMs) : checkNode nowMs n = none := by
  unfold checkNode Core.checkedSub32
  rw [if_pos honline, if_neg hfuture]
  rfl

/-- A covered check loop has the firmware's effect. -/
theorem checkNodes_mirrored {nowMs : UInt32} {nodes : List HmNode}
    (h : ∀ n ∈ nodes, n.online = true → n.lastBeatMs ≤ nowMs) :
    nodes.mapM (checkNode nowMs) =
      some (nodes.map fun n => (n.check nowMs, n.expires nowMs)) := by
  induction nodes with
  | nil => rfl
  | cons n nodes ih =>
    have hhead := checkNode_mirrored (h n (List.mem_cons_self ..))
    have htail := ih fun m hm => h m (List.mem_cons_of_mem n hm)
    rw [List.mapM_cons, hhead, htail]
    rfl

/-- A check loop that is not covered stops the mirror. -/
theorem checkNodes_stops {nowMs : UInt32} {nodes : List HmNode}
    (h : ¬ ∀ n ∈ nodes, n.online = true → n.lastBeatMs ≤ nowMs) :
    nodes.mapM (checkNode nowMs) = none := by
  induction nodes with
  | nil => exact absurd (fun n hn => absurd hn List.not_mem_nil) h
  | cons n nodes ih =>
    rw [List.mapM_cons]
    by_cases hhead : n.online = true → n.lastBeatMs ≤ nowMs
    · have htail := ih fun hrest => h (List.forall_mem_cons.mpr ⟨hhead, hrest⟩)
      rw [checkNode_mirrored hhead, htail]
      rfl
    · obtain ⟨honline, hfuture⟩ := Classical.not_imp.mp hhead
      rw [checkNode_stops honline hfuture]
      rfl

/-- A covered check has the firmware's effect and result. -/
theorem check_mirrored {hm : Gateway.HeartbeatMonitor} {nowMs : UInt32}
    (h : CheckCovered hm nowMs) :
    (mirroredMonitor hm).check nowMs = some (mirroredMonitor (heartbeatMonitorCheck hm nowMs).1,
      (heartbeatMonitorCheck hm nowMs).2) := by
  have hloop : (mirroredMonitor hm).nodes.mapM (checkNode nowMs) = _ := checkNodes_mirrored h
  rw [HeartbeatMonitor.check, hloop, Option.bind_eq_bind, Option.bind_some, List.map_map,
    List.countP_map]
  rfl

/-- A check that is not covered stops the mirror. -/
theorem check_stops {hm : Gateway.HeartbeatMonitor} {nowMs : UInt32}
    (h : ¬ CheckCovered hm nowMs) : (mirroredMonitor hm).check nowMs = none := by
  have hloop : (mirroredMonitor hm).nodes.mapM (checkNode nowMs) = none := checkNodes_stops h
  rw [HeartbeatMonitor.check, hloop]
  rfl

/-- Only the first node of an identifier is ever online. -/
def FirstOnline (nodes : List HmNode) : Prop :=
  nodes.Pairwise fun a b => a.nodeId = b.nodeId → b.online = false

/-- Where only the first node of an identifier is online, any online node of it is the
first. -/
theorem isOnline_mirrored {hm : Gateway.HeartbeatMonitor} (h : FirstOnline hm.nodes.entries)
    (nodeId : UInt8) :
    heartbeatMonitorIsOnline hm nodeId = (mirroredMonitor hm).isOnline nodeId := by
  unfold heartbeatMonitorIsOnline HeartbeatMonitor.isOnline Gateway.HeartbeatMonitor.node?
    mirroredMonitor
  generalize hm.nodes.entries = nodes at h
  induction nodes with
  | nil => rfl
  | cons n nodes ih =>
    obtain ⟨hhead, htail⟩ := List.pairwise_cons.mp h
    rw [List.find?_cons, List.any_cons]
    by_cases hid : n.nodeId = nodeId
    · have hrest : (nodes.any fun m => m.nodeId == nodeId && m.online) = false := by
        rw [List.any_eq_false]
        intro m hm
        by_cases hm' : m.nodeId = nodeId
        · simp [hhead m hm (hid.trans hm'.symm)]
        · simp [hm']
      simp [hid, hrest]
    · simp only [Bool.false_and, Bool.false_or, beq_false_of_ne hid]
      exact ih htail

/-- A registration keeps the first node of an identifier the only online one. -/
theorem FirstOnline.register {nodes : List HmNode} (h : FirstOnline nodes) (nodeId : UInt8)
    (timeoutMs : UInt32) : FirstOnline (nodes ++ [⟨nodeId, false, 0, timeoutMs⟩]) := by
  refine List.pairwise_append.mpr ⟨h, List.pairwise_singleton _ _, ?_⟩
  intro a _ b hb _
  rw [List.mem_singleton.mp hb]

/-- A beat keeps the first node of an identifier the only online one. -/
theorem FirstOnline.beat {nodes : List HmNode} (h : FirstOnline nodes) (nodeId : UInt8)
    (nowMs : UInt32) :
    FirstOnline (Core.modifyFirst (fun n => n.nodeId == nodeId) (HmNode.beat nowMs) nodes) := by
  induction nodes with
  | nil => exact h
  | cons n nodes ih =>
    obtain ⟨hhead, htail⟩ := List.pairwise_cons.mp h
    by_cases hid : n.nodeId = nodeId
    · rw [Core.modifyFirst, if_pos (beq_iff_eq.mpr hid)]
      exact List.pairwise_cons.mpr ⟨hhead, htail⟩
    · rw [Core.modifyFirst, if_neg fun h => hid (beq_iff_eq.mp h)]
      refine List.pairwise_cons.mpr ⟨fun b hb hsame => ?_, ih htail⟩
      rcases Core.mem_modifyFirst hb with hold | ⟨a, -, ha, rfl⟩
      · exact hhead b hold hsame
      · exact absurd (hsame.trans (beq_iff_eq.mp ha)) hid

/-- A check keeps the first node of an identifier the only online one. -/
theorem FirstOnline.check {nodes : List HmNode} (h : FirstOnline nodes) (nowMs : UInt32) :
    FirstOnline (nodes.map (HmNode.check nowMs)) := by
  refine List.pairwise_map.mpr (h.imp ?_)
  intro a b hab hid
  rw [HmNode.check_nodeId, HmNode.check_nodeId] at hid
  rw [HmNode.check_online, hab hid, Bool.false_and]

/-- The mirror holds the tables, counters and mode of the firmware. -/
structure SameData (c : Firmware) (r : Model) : Prop where
  /-- The monitors hold the same nodes. -/
  hm : r.hm = mirroredMonitor c.hm
  /-- The fault managers hold the same faults and counters. -/
  fm : r.fm = mirroredFaults c.fm
  /-- The modes are the same. -/
  mode : c.gs.mode = r.gs.mode.firmware
  /-- Only the first node of an identifier is online. -/
  firstOnline : FirstOnline c.hm.nodes.entries

/-- The same data give the same outputs. -/
theorem SameData.outputs {c : Firmware} {r : Model} (h : SameData c r) : SameOutputs c r where
  flags := by
    rw [h.hm]
    rfl
  online nodeId := by
    rw [h.hm]
    exact isOnline_mirrored h.firstOnline nodeId
  allOnline := by
    rw [h.hm, heartbeatMonitorAllOnline, HeartbeatMonitor.allOnline]
    show _ = if c.hm.nodes.entries.isEmpty then false else c.hm.nodes.entries.all (·.online)
    cases c.hm.nodes.entries.isEmpty <;> rfl
  hasCritical := by
    rw [h.fm]
    rfl
  activeCount := by
    rw [h.fm]
    rfl
  mode := h.mode

/-- A registration finds a free slot. -/
def RegistersInRoom (c : Firmware) : MirrorOp → Prop
  | .register _ _ => c.hm.nodes.isFull = false
  | _ => True

/-- Every covered call has the firmware's effect and result, and leaves the same data. -/
theorem SameData.covered {c : Firmware} {r : Model} {op : MirrorOp} (h : SameData c r)
    (hroom : RegistersInRoom c op) (hcovered : OpCovered c op) :
    ∃ r', modelStep r op = some (r', (firmwareStep c op).2) ∧
      SameData (firmwareStep c op).1 r' := by
  cases op with
  | register nodeId timeoutMs =>
    have hfree : c.hm.nodes.isFull = false := hroom
    have hpushed : (heartbeatMonitorRegister c.hm nodeId timeoutMs).1.nodes.entries =
        c.hm.nodes.entries ++ [⟨nodeId, false, 0, timeoutMs⟩] := by
      simp only [heartbeatMonitorRegister, hfree, Bool.false_eq_true, if_false,
        Core.Table.entries_push]
    refine ⟨_, rfl, ?_, h.fm, h.mode, ?_⟩
    · rw [HeartbeatMonitor.register, h.hm]
      exact congrArg HeartbeatMonitor.mk hpushed.symm
    · show FirstOnline (heartbeatMonitorRegister c.hm nodeId timeoutMs).1.nodes.entries
      rw [hpushed]
      exact h.firstOnline.register nodeId timeoutMs
  | beat nodeId nowMs =>
    refine ⟨_, rfl, ?_, h.fm, h.mode, h.firstOnline.beat nodeId nowMs⟩
    rw [HeartbeatMonitor.beat, h.hm]
    rfl
  | check nowMs =>
    refine ⟨{ r with hm := mirroredMonitor (heartbeatMonitorCheck c.hm nowMs).1 }, ?_, rfl, h.fm,
      h.mode, h.firstOnline.check nowMs⟩
    rw [modelStep, h.hm, check_mirrored hcovered]
    rfl
  | report source code severity =>
    refine ⟨{ r with fm := mirroredFaults (faultManagerReport c.fm source code severity).1 }, ?_,
      h.hm, rfl, h.mode, h.firstOnline⟩
    rw [modelStep, h.fm, report_mirrored hcovered]
    rfl
  | clear source code =>
    refine ⟨{ r with fm := mirroredFaults (faultManagerClear c.fm source code) }, ?_,
      h.hm, rfl, h.mode, h.firstOnline⟩
    rw [modelStep, h.fm, clear_mirrored hcovered]
    rfl
  | update online fault limp count =>
    refine ⟨_, rfl, h.hm, h.fm, ?_, h.firstOnline⟩
    show mcGatewayDetermineMode c.gs.mode (online != 0) (fault != 0) (limp != 0) =
      (Microcar.Mirror.determineMode r.gs.mode (online != 0) (fault != 0) (limp != 0)).firmware
    rw [Microcar.Mirror.firmware_determineMode, h.mode]
  | enterDrive =>
    refine ⟨_, rfl, h.hm, h.fm, ?_, h.firstOnline⟩
    show (gatewayStateEnterDrive c.gs).mode = r.gs.enterDrive.mode.firmware
    unfold gatewayStateEnterDrive GatewayState.enterDrive
    rw [h.mode]
    cases hmode : r.gs.mode <;> simp [VehicleMode.firmware, h.mode, hmode]

/-- A call that is not covered stops the mirror or leaves other outputs. -/
theorem SameData.not_covered {c : Firmware} {r : Model} {op : MirrorOp} (h : SameData c r)
    (hcovered : ¬ OpCovered c op) :
    ¬ Core.StepAgrees firmwareStep modelStep SameOutputs c r op := by
  rintro ⟨r', hstep, hsame⟩
  cases op with
  | register | beat | update | enterDrive => exact hcovered trivial
  | check nowMs =>
    rw [modelStep, h.hm, check_stops hcovered] at hstep
    exact nomatch hstep
  | report source code severity =>
    rw [modelStep, h.fm, Option.map_eq_some_iff] at hstep
    obtain ⟨fm', hreport, heq⟩ := hstep
    obtain rfl := congrArg Prod.fst heq
    exact report_differs hcovered hreport hsame.activeCount
  | clear source code =>
    rw [modelStep, h.fm, clear_stops hcovered] at hstep
    exact nomatch hstep

/-- One call agrees exactly when it touches no difference. -/
theorem SameData.agrees_iff (c : Firmware) (r : Model) (op : MirrorOp) (h : SameData c r)
    (hroom : RegistersInRoom c op) :
    Core.StepAgrees firmwareStep modelStep SameOutputs c r op ↔ OpCovered c op := by
  constructor
  · intro hagrees
    by_contra hcovered
    exact h.not_covered hcovered hagrees
  · intro hcovered
    obtain ⟨r', hstep, hdata⟩ := h.covered hroom hcovered
    exact ⟨r', hstep, hdata.outputs⟩

/-- An agreeing call keeps the data the same. -/
theorem SameData.next (c : Firmware) (r : Model) (op : MirrorOp) (r' : Model) (h : SameData c r)
    (hroom : RegistersInRoom c op) (hstep : modelStep r op = some (r', (firmwareStep c op).2))
    (hsame : SameOutputs (firmwareStep c op).1 r') : SameData (firmwareStep c op).1 r' := by
  have hcovered := (h.agrees_iff c r op hroom).mp ⟨r', hstep, hsame⟩
  obtain ⟨r'', hstep', hdata⟩ := h.covered hroom hcovered
  rw [hstep'] at hstep
  obtain rfl := congrArg Prod.fst (Option.some.inj hstep)
  exact hdata

/-- The call registers a node. -/
def MirrorOp.isRegister : MirrorOp → Bool
  | .register _ _ => true
  | _ => false

/-- A call fills at most the slot it registers. -/
theorem length_nodes_step (c : Firmware) (op : MirrorOp) :
    (firmwareStep c op).1.hm.nodes.entries.length ≤
      c.hm.nodes.entries.length + if op.isRegister then 1 else 0 := by
  cases op with
  | register nodeId timeoutMs =>
    show (heartbeatMonitorRegister c.hm nodeId timeoutMs).1.nodes.entries.length ≤ _
    unfold heartbeatMonitorRegister
    split
    · exact Nat.le_add_right _ _
    · rw [Core.Table.entries_push]
      split
      · exact Nat.le_add_right _ _
      · simp [MirrorOp.isRegister]
  | beat nodeId nowMs =>
    show (Core.modifyFirst _ _ c.hm.nodes.entries).length ≤ _
    rw [Core.length_modifyFirst]
    exact Nat.le_add_right _ _
  | check nowMs =>
    show (c.hm.nodes.entries.map _).length ≤ _
    rw [List.length_map]
    exact Nat.le_add_right _ _
  | report | clear | update | enterDrive => exact Nat.le_add_right _ _

/-- Registrations that fit the table find a free slot. -/
theorem registersInRoom {c : Firmware} {ops : List MirrorOp}
    (h : c.hm.nodes.entries.length + ops.countP MirrorOp.isRegister ≤ hmMaxNodes) :
    Core.StepsMeet (fun c op => (firmwareStep c op).1) RegistersInRoom c ops := by
  induction ops generalizing c with
  | nil => trivial
  | cons op ops ih =>
    rw [List.countP_cons] at h
    have hlength := length_nodes_step c op
    have hrest : (firmwareStep c op).1.hm.nodes.entries.length +
        ops.countP MirrorOp.isRegister ≤ hmMaxNodes := by omega
    refine ⟨?_, ih hrest⟩
    cases op with
    | register nodeId timeoutMs =>
      rw [MirrorOp.isRegister, if_pos rfl] at h
      show decide (hmMaxNodes ≤ c.hm.nodes.entries.length) = false
      rw [decide_eq_false_iff_not]
      omega
    | beat | check | report | clear | update | enterDrive => trivial

/-- For every history of calls with at most as many registrations as the table has slots, the
mirror never stops and shows the online flags, transition counts, faults and mode of the
firmware behind every call, exactly when no check of an online node lies before its last
beat, no new fault is reported to a full table and no counter runs over or below zero. -/
theorem gateway_mirror_lockstep_iff {ops : List MirrorOp}
    (hregisters : ops.countP MirrorOp.isRegister ≤ hmMaxNodes) :
    Core.Lockstep firmwareStep modelStep SameOutputs firmwareInit modelDefault ops ↔
      Core.StepsMeet (fun c op => (firmwareStep c op).1) OpCovered firmwareInit ops := by
  refine Core.StepsMeet.lockstep_iff SameData.agrees_iff SameData.next (registersInRoom ?_)
    ⟨rfl, rfl, rfl, List.Pairwise.nil⟩
  rw [firmwareInit]
  exact (Nat.zero_add _).trans_le hregisters

/-- A registered node that beats, is checked in time and reports a critical fault. -/
theorem gateway_mirror_lockstep_faulting :
    Core.Lockstep firmwareStep modelStep SameOutputs firmwareInit modelDefault
      [.register mcNodeBms 300, .beat mcNodeBms 100, .check 200, .report mcNodeBms 1 2,
        .update 1 1 0 1] := by
  refine (gateway_mirror_lockstep_iff (by decide)).mpr
    ⟨trivial, trivial, ?_, ⟨rfl, by decide, by decide⟩, trivial, trivial⟩
  intro n hn _
  rw [List.mem_singleton.mp hn]
  decide

/-- A beat just before the clock wraps and a check just behind it stop the mirror. -/
theorem gateway_mirror_stops_at_wrap :
    ¬ Core.Lockstep firmwareStep modelStep SameOutputs firmwareInit modelDefault
      [.register mcNodeBms 300, .beat mcNodeBms 4294967290, .check 5] := by
  rintro ⟨r, hregister, -, r', hbeat, -, r'', hcheck, -, -⟩
  obtain rfl := congrArg Prod.fst (Option.some.inj hregister)
  obtain rfl := congrArg Prod.fst (Option.some.inj hbeat)
  exact nomatch hcheck

end Microcar.Gateway.Mirror
