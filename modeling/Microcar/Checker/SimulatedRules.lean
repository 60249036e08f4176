import Microcar.Checker.OnTime
import Microcar.Checker.SafetyRules

/-!
# The safety rules on simulated traces

The trace of a simulation is sorted, so that the safety rules mean on it what they ask. One of them
every simulation obeys in which the powertrain does not reboot: its lost gateway switches the motor
off, and nothing but a reboot switches it on again.
-/

namespace Microcar.Checker

open Microcar.Core

/-! ### Lines -/

/-- The line of a gateway timeout. -/
def timeoutLine (t : Nat) : TraceLine := ⟨mcNodePowertrain, t, "gateway_timeout", []⟩

/-- The line of a motor command. -/
def motorLine (t : Nat) (torque : Int) : TraceLine :=
  ⟨mcNodePowertrain, t, "motor_command", [("torque", .int torque)]⟩

/-- A line without torque that is no gateway timeout. -/
def Quiet (line : TraceLine) : Prop :=
  line.event ≠ "motor_command" ∧ line.event ≠ "gateway_timeout" ∧
    line.fields.lookup "torque" = none

/-- None of the lines is one that the rules look at. -/
def AllQuiet (lines : List TraceLine) : Prop := ∀ line ∈ lines, Quiet line

@[simp] theorem allQuiet_nil : AllQuiet [] := fun _ h => absurd h List.not_mem_nil

@[simp] theorem allQuiet_cons {line : TraceLine} {lines : List TraceLine} :
    AllQuiet (line :: lines) ↔ Quiet line ∧ AllQuiet lines := List.forall_mem_cons

@[simp] theorem allQuiet_append {first rest : List TraceLine} :
    AllQuiet (first ++ rest) ↔ AllQuiet first ∧ AllQuiet rest := List.forall_mem_append

@[simp] theorem quiet_canTx (now sender id : Nat) (data : List Nat) :
    Quiet (canTx now sender id data) := by
  simp [Quiet, canTx, List.lookup_cons]

@[simp] theorem quiet_canRx (now : Nat) (frame : Frame) : Quiet (canRx now frame) := by
  simp [Quiet, canRx, List.lookup_cons]

@[simp] theorem quiet_dashboardLine (now : Nat) (value : String) {event : String}
    (h : event = "speed" ∨ event = "warning") : Quiet (dashboardLine now event value) := by
  rcases h with rfl | rfl <;> simp [Quiet, dashboardLine, List.lookup_cons]

/-! ### The other ECUs -/

/-- The gateway writes quiet lines about the frames that it receives. -/
theorem quiet_gateway_processFrame (s : GatewayState) (frameId : Nat) (data : List Nat)
    (now sender : Nat) : AllQuiet (s.processFrame frameId data now sender).2 := by
  unfold GatewayState.processFrame
  split
  · dsimp only
    split
    · exact allQuiet_nil
    · simp [Quiet, List.lookup_cons]
  · -- The other frames write no line.
    repeat' split
    all_goals exact allQuiet_nil

/-- A lost node adds a quiet line. -/
theorem quiet_loseNode (now : Nat) (found : GatewayState × List TraceLine) (nodeId : Nat)
    (h : AllQuiet found.2) : AllQuiet (GatewayState.loseNode now found nodeId).2 := by
  obtain ⟨s, lines⟩ := found
  rw [GatewayState.loseNode]
  split
  · exact h
  · split
    · simpa [Quiet, List.lookup_cons] using h
    · exact h

/-- One more line where something changes. -/
theorem allQuiet_snoc_ite {α : Type} {c : Prop} [Decidable c] {changed same : α}
    {lines : List TraceLine} {line : TraceLine} (h : AllQuiet lines) (hline : Quiet line) :
    AllQuiet (if c then (changed, lines ++ [line]) else (same, lines)).2 := by
  split
  · simpa [hline] using h
  · exact h

/-- An update of the gateway is quiet. -/
theorem quiet_gateway_update (s : GatewayState) (now : Nat) : AllQuiet (s.update now).2 := by
  have hlost : AllQuiet (([mcNodePowertrain, mcNodeBms, mcNodeDashboard].foldl
      (GatewayState.loseNode now) (s, [])).2) := by
    rw [List.foldl_cons, List.foldl_cons, List.foldl_cons, List.foldl_nil]
    apply quiet_loseNode
    apply quiet_loseNode
    apply quiet_loseNode
    exact allQuiet_nil
  exact allQuiet_snoc_ite hlost (by simp [Quiet, List.lookup_cons])

/-- The BMS writes quiet lines about the frames that it receives. -/
theorem quiet_bms_processFrame (s : BmsState) (frameId : Nat) (data : List Nat) (now : Nat) :
    AllQuiet (s.processFrame frameId data now).2 := by
  unfold BmsState.processFrame
  split
  · split
    · dsimp only
      split
      · exact allQuiet_nil
      · split <;> simp [Quiet, List.lookup_cons]
    · exact allQuiet_nil
  · exact allQuiet_nil

/-- A warning on the dashboard is quiet. -/
theorem quiet_dashboard_warn (s : DashboardState) (now : Nat) (warning : Nat × Nat)
    (name : String) : AllQuiet (s.warn now warning name).2 := by
  rw [DashboardState.warn]
  split <;> simp

/-- The dashboard writes quiet lines about the frames that it receives. -/
theorem quiet_dashboard_processFrame (s : DashboardState) (frameId : Nat) (data : List Nat)
    (now : Nat) : AllQuiet (s.processFrame frameId data now).2 := by
  unfold DashboardState.processFrame
  split
  · split
    · split
      · exact allQuiet_nil
      · dsimp only
        split <;> simp
    · exact allQuiet_nil
  · split
    · split
      · dsimp only
        split <;> simp
      · exact allQuiet_nil
    · split
      · split <;> exact allQuiet_nil
      · split
        · split
          · exact quiet_dashboard_warn _ _ _ _
          · exact allQuiet_nil
        · exact allQuiet_nil

/-- An update of the dashboard is quiet. -/
theorem quiet_dashboard_update (s : DashboardState) (now : Nat) :
    AllQuiet (s.update now).2 := by
  have hspeed : AllQuiet
      (if 0 < s.speed then [dashboardLine now "speed" (toString s.speed)] else []) := by
    split <;> simp
  have hhot : AllQuiet (if 900 < s.tempCX10 then s.warn now (mcNodeBms, 7) "CRITICAL_BMS_FAULT"
      else if 750 < s.tempCX10 then s.warn now (mcNodeBms, 1) "BMS_OVERTEMP"
      else (s, [])).2 := by
    split
    · exact quiet_dashboard_warn _ _ _ _
    · split
      · exact quiet_dashboard_warn _ _ _ _
      · exact allQuiet_nil
  rw [DashboardState.update]
  dsimp only
  split
  · exact allQuiet_append.mpr ⟨hspeed, hhot⟩
  · exact allQuiet_append.mpr ⟨allQuiet_append.mpr ⟨hspeed, hhot⟩, quiet_dashboard_warn _ _ _ _⟩

/-- What the receivers write. -/
theorem quiet_receive (s : EcuStates) (now receiver sender frameId : Nat) (data : List Nat) :
    AllQuiet (s.receive now receiver sender frameId data).2 := by
  rw [EcuStates.receive]
  split
  · exact quiet_gateway_processFrame _ _ _ _ _
  · split
    · exact allQuiet_nil
    · split
      · exact quiet_bms_processFrame _ _ _ _
      · split
        · exact quiet_dashboard_processFrame _ _ _ _
        · exact allQuiet_nil

/-! ### The powertrain -/

/-- A motor that is off stays off. -/
def StaysOff (s s' : PowertrainState) : Prop := s.motorEnable = false → s'.motorEnable = false

/-- No received frame switches the motor on: only an update does. -/
theorem staysOff_processFrame (s : PowertrainState) (frameId : Nat) (data : List Nat)
    (now sender : Nat) : StaysOff s (s.processFrame frameId data now sender) := by
  intro hoff
  unfold PowertrainState.processFrame
  split
  · exact hoff
  · split
    · split
      · dsimp only
        split
        · rfl
        · split <;> exact hoff
      · exact hoff
    · split
      · split <;> exact hoff
      · exact hoff

/-- So no frame does at any receiver. -/
theorem staysOff_receive (s : EcuStates) (now receiver sender frameId : Nat) (data : List Nat) :
    StaysOff s.powertrain (s.receive now receiver sender frameId data).1.powertrain := by
  rw [EcuStates.receive]
  split
  · exact id
  · split
    · exact staysOff_processFrame _ _ _ _ _
    · split
      · exact id
      · split <;> exact id

/-- The state in front of the torque: a lost gateway has switched the motor off. -/
def PowertrainState.watched (s : PowertrainState) (now : Nat) : PowertrainState :=
  if 250000 < now - s.gatewayBeat && 0 < s.gatewayBeat then { s with motorEnable := false } else s

/-- A motor that is off has no torque. -/
theorem PowertrainState.torque_of_off {s : PowertrainState} (h : s.motorEnable = false) :
    s.torque = (0, false) := by
  rw [PowertrainState.torque, h]
  rfl

/-- An update keeps the motor as it is behind the watchdog, writes a timeout only where that has
switched it off, and states the torque behind it. -/
theorem PowertrainState.update_spec (s : PowertrainState) (now : Nat) :
    (s.update now).1.motorEnable = (s.watched now).motorEnable ∧
      ∀ line ∈ (s.update now).2, Quiet line ∨
        (line = timeoutLine now ∧ (s.watched now).motorEnable = false) ∨
        line = motorLine now (s.watched now).torque.1 := by
  have hlost : (250000 < now - s.gatewayBeat && 0 < s.gatewayBeat) = true →
      (s.watched now).motorEnable = false := fun h => by rw [watched, if_pos h]
  obtain ⟨w, hw⟩ : ∃ w, s.watched now = w := ⟨_, rfl⟩
  rw [hw] at hlost ⊢
  rw [watched] at hw
  unfold update
  dsimp only
  rw [hw]
  constructor
  · split_ifs <;> rfl
  · intro line hline
    rcases List.mem_append.mp hline with hline | hmotor
    · rcases List.mem_append.mp hline with htimeout | hlimited
      · obtain ⟨h, hmem⟩ := List.mem_ite_nil_right.mp htimeout
        exact .inr (.inl ⟨List.mem_singleton.mp hmem, hlost h⟩)
      · rw [List.mem_singleton.mp (List.mem_ite_nil_right.mp hlimited).2]
        exact .inl (by simp [Quiet, List.lookup_cons])
    · exact .inr (.inr (List.mem_singleton.mp (List.mem_ite_nil_right.mp hmotor).2))

/-! ### A turn -/

section Turn

variable (sc : Scenario) (now : Nat)

/-- A fault of a scenario that reboots the powertrain. -/
def Fault.RebootsPowertrain (f : Fault) : Prop :=
  (splitTarget f.target).1 = "machine" ∧ f.type = "reboot" ∧
    sc.nameToId.lookup (splitTarget f.target).2 = some mcNodePowertrain

/-- The reset of another machine leaves the powertrain alone. -/
theorem powertrain_reset {s : EcuStates} {machine : Nat} (h : machine ≠ mcNodePowertrain) :
    (s.reset machine).powertrain = s.powertrain := by
  rw [EcuStates.reset]
  split_ifs <;> rfl

/-- A fault writes quiet lines, and keeps the motor off where it reboots another machine. -/
theorem applyFault_spec (found : World × List TraceLine) (f : Fault) :
    (AllQuiet found.2 → AllQuiet (applyFault sc now found f).2) ∧
      (¬ f.RebootsPowertrain sc →
        (applyFault sc now found f).1.ecus.powertrain = found.1.ecus.powertrain) := by
  obtain ⟨world, lines⟩ := found
  rw [applyFault]
  dsimp only
  split
  · exact ⟨fun h => by simpa [Quiet, List.lookup_cons] using h, fun _ => rfl⟩
  · split
    · refine ⟨fun h => ?_, fun _ => rfl⟩
      have hbus : AllQuiet (applyBusFault world.bus now f).2 := by
        rw [applyBusFault]
        split
        · exact allQuiet_nil
        · split_ifs <;> simp [Quiet, List.lookup_cons]
      simpa [Quiet, List.lookup_cons, hbus] using h
    · split
      next hmachine =>
        refine ⟨fun h => by simpa [Quiet, List.lookup_cons] using h, fun hother => ?_⟩
        rw [applyMachineFault]
        split
        · rfl
        next target htarget =>
          split
          · rfl
          · split
            next hreboot =>
              refine powertrain_reset fun hpowertrain => hother ⟨hmachine, hreboot, ?_⟩
              rw [htarget, hpowertrain]
            next => rfl
      next => exact ⟨fun h => by simpa [Quiet, List.lookup_cons] using h, fun _ => rfl⟩

/-- So do all the faults of a turn. -/
theorem foldl_applyFault_spec (faults : List Fault) (found : World × List TraceLine) :
    (AllQuiet found.2 → AllQuiet (faults.foldl (applyFault sc now) found).2) ∧
      ((∀ f ∈ faults, ¬ f.RebootsPowertrain sc) →
        (faults.foldl (applyFault sc now) found).1.ecus.powertrain = found.1.ecus.powertrain) := by
  induction faults generalizing found with
  | nil => exact ⟨id, fun _ => rfl⟩
  | cons f faults ih =>
    obtain ⟨hquiet, hkept⟩ := applyFault_spec sc now found f
    obtain ⟨ihquiet, ihkept⟩ := ih (applyFault sc now found f)
    refine ⟨fun h => ihquiet (hquiet h), fun hother => ?_⟩
    have hrest := ihkept fun g hg => hother g (List.mem_cons_of_mem f hg)
    exact hrest.trans (hkept (hother f List.mem_cons_self))

/-- A heartbeat is sent and received in quiet lines. -/
theorem quiet_beat (bus : Bus) {found : EcuHeartbeats × List TraceLine × List Frame}
    (h : AllQuiet found.2.1) (mid : Nat) :
    AllQuiet (EcuHeartbeats.beat sc bus now found mid).2.1 := by
  obtain ⟨hb, lines, frames⟩ := found
  rw [EcuHeartbeats.beat]
  dsimp only
  split
  · exact h
  · split
    · exact h
    · split
      · split
        · exact h
        · simpa using h
      · exact h

/-- All the heartbeats of a turn are. -/
theorem quiet_generate (hb : EcuHeartbeats) (bus : Bus) :
    AllQuiet (hb.generate sc bus now).2.1 := by
  have hfold : ∀ (mids : List Nat) (found : EcuHeartbeats × List TraceLine × List Frame),
      AllQuiet found.2.1 →
        AllQuiet (mids.foldl (EcuHeartbeats.beat sc bus now) found).2.1 := by
    intro mids
    induction mids with
    | nil => exact fun _ h => h
    | cons mid mids ih => exact fun found h => ih _ (quiet_beat sc now bus h mid)
  exact hfold _ _ allQuiet_nil

/-- A transmission is quiet, whatever is sent. -/
theorem quiet_map_canTx {α : Type} (sender id : α → Nat) (data : α → List Nat) (items : List α) :
    AllQuiet (items.map fun a => canTx now (sender a) (id a) (data a)) := by
  intro line hline
  obtain ⟨a, -, rfl⟩ := List.mem_map.mp hline
  exact quiet_canTx _ _ _ _

/-- Up to the delivery. -/
theorem send_powertrain (s : Sim) :
    AllQuiet (s.send sc now).2.1 ∧
      ((∀ f ∈ s.faults, ¬ f.RebootsPowertrain sc) →
        (s.send sc now).1.ecus.powertrain = s.world.ecus.powertrain) := by
  obtain ⟨hquiet, hkept⟩ := foldl_applyFault_spec sc now
    (s.faults.takeWhile fun f => dueBy now f.atMs) (s.world, [])
  refine ⟨?_, fun hother => hkept fun f hf => hother f (List.takeWhile_subset _ hf)⟩
  exact allQuiet_append.mpr ⟨allQuiet_append.mpr ⟨hquiet allQuiet_nil,
    quiet_map_canTx now (injectSender sc) BusInject.id BusInject.data _⟩,
    quiet_generate sc now _ _⟩

/-- The delivery. -/
theorem deliverFrames_powertrain (pending : List Frame) (ecus : EcuStates) :
    AllQuiet (deliverFrames now pending ecus).lines ∧
      StaysOff ecus.powertrain (deliverFrames now pending ecus).ecus.powertrain := by
  have hfold : ∀ (frames : List Frame) (d : Delivery), AllQuiet d.lines →
      AllQuiet (frames.foldl (deliverFrame now) d).lines ∧
        StaysOff d.ecus.powertrain (frames.foldl (deliverFrame now) d).ecus.powertrain := by
    intro frames
    induction frames with
    | nil => exact fun d h => ⟨h, id⟩
    | cons frame frames ih =>
      intro d h
      have hstep : AllQuiet (deliverFrame now d frame).lines ∧
          StaysOff d.ecus.powertrain (deliverFrame now d frame).ecus.powertrain := by
        rw [deliverFrame]
        split
        · refine ⟨?_, staysOff_receive _ _ _ _ _ _⟩
          simpa [h] using quiet_receive _ _ _ _ _ _
        · exact ⟨h, id⟩
      obtain ⟨hquiet, hoff⟩ := ih _ hstep.1
      exact ⟨hquiet, fun h => hoff (hstep.2 h)⟩
  exact hfold pending ⟨pending, ecus, [], []⟩ allQuiet_nil

/-- Driver inputs leave the motor as it is. -/
theorem motorEnable_foldl_setDriverInput (inputs : List Input) (world : World) :
    (inputs.foldl World.setDriverInput world).ecus.powertrain.motorEnable =
      world.ecus.powertrain.motorEnable := by
  induction inputs generalizing world with
  | nil => rfl
  | cons input inputs ih => exact ih (world.setDriverInput input)

/-- The lines of a powertrain update behind the watchdog. -/
def UpdateLine (w : PowertrainState) (line : TraceLine) : Prop :=
  (line = timeoutLine now ∧ w.motorEnable = false) ∨ line = motorLine now w.torque.1

/-- Behind the delivery. -/
theorem publish_powertrain (s : Sim) (world : World) :
    ∃ w, StaysOff world.ecus.powertrain w ∧
      (s.publish sc now world).1.ecus.powertrain.motorEnable = w.motorEnable ∧
      ∀ line ∈ (s.publish sc now world).2.1,
        Quiet line ∨ (s.updates now = true ∧ UpdateLine now w line) := by
  have hinputs : ∀ ecus plant, ((s.inputs.takeWhile fun i => dueBy now i.atMs).foldl
      World.setDriverInput { world with plant := plant, ecus := ecus }).ecus.powertrain.motorEnable
        = ecus.powertrain.motorEnable :=
    fun ecus plant => motorEnable_foldl_setDriverInput _ _
  have htx : ∀ messages, AllQuiet (publishMessages sc world.bus now messages).1 :=
    fun messages => quiet_map_canTx now Message.sender Message.id Message.data _
  by_cases hupdates : s.updates now = true
  · obtain ⟨hkept, hlines⟩ := world.ecus.powertrain.update_spec now
    refine ⟨world.ecus.powertrain.watched now, fun hoff => ?_, ?_, fun line hline => ?_⟩
    · rw [PowertrainState.watched]
      split
      · rfl
      · exact hoff
    · rw [Sim.publish, hinputs, if_pos hupdates]
      exact hkept
    · rw [Sim.publish, if_pos hupdates] at hline
      rcases List.mem_append.mp hline with hecu | hline
      · rcases List.mem_append.mp hecu with hecu | hdashboard
        · rcases List.mem_append.mp hecu with hgateway | hpowertrain
          · exact .inl (quiet_gateway_update _ _ line hgateway)
          · exact (hlines line hpowertrain).imp_right fun h => ⟨hupdates, h⟩
        · exact .inl (quiet_dashboard_update _ _ line hdashboard)
      · exact .inl (htx _ line hline)
  · refine ⟨world.ecus.powertrain, id, ?_, fun line hline => ?_⟩
    · rw [Sim.publish, hinputs, if_neg hupdates]
    · rw [Sim.publish, if_neg hupdates] at hline
      exact .inl (htx _ line hline)

/-- A turn: what it does to the motor, and the lines that it adds. -/
theorem advance_powertrain (s : Sim) :
    ∃ w new, (s.advance sc now).trace = s.trace ++ new ∧
      ((∀ f ∈ s.faults, ¬ f.RebootsPowertrain sc) → StaysOff s.world.ecus.powertrain w) ∧
      (s.advance sc now).world.ecus.powertrain.motorEnable = w.motorEnable ∧
      ∀ line ∈ new, Quiet line ∨ (s.updates now = true ∧ UpdateLine now w line) := by
  obtain ⟨hsend, hkept⟩ := send_powertrain sc now s
  let sent := s.send sc now
  obtain ⟨hdeliver, hoff⟩ :=
    deliverFrames_powertrain now (s.pendingFrames ++ sent.2.2) sent.1.ecus
  let d := deliverFrames now (s.pendingFrames ++ sent.2.2) sent.1.ecus
  obtain ⟨w, hw, hmotor, hlines⟩ := publish_powertrain sc now s { sent.1 with ecus := d.ecus }
  refine ⟨w, sent.2.1 ++ d.lines ++ (s.publish sc now { sent.1 with ecus := d.ecus }).2.1, ?_,
    fun hother h => hw (hoff ?_), hmotor, fun line hline => ?_⟩
  · rw [← List.append_assoc, ← List.append_assoc]
    rfl
  · rw [hkept hother]
    exact h
  · rcases List.mem_append.mp hline with hline | hline
    · rcases List.mem_append.mp hline with hline | hline
      · exact .inl (hsend line hline)
      · exact .inl (hdeliver line hline)
    · exact hlines line hline

end Turn

/-! ### Runs -/

/-- A gateway timeout is not quiet. -/
theorem not_quiet_timeoutLine (t : Nat) : ¬ Quiet (timeoutLine t) := fun h => h.2.1 rfl

/-- Nor is a motor command. -/
theorem not_quiet_motorLine (t : Nat) (torque : Int) : ¬ Quiet (motorLine t torque) :=
  fun h => h.1 rfl

/-- A timeout is no motor command. -/
theorem timeoutLine_ne_motorLine (t t' : Nat) (torque : Int) :
    timeoutLine t ≠ motorLine t' torque := by
  simp [timeoutLine, motorLine]

/-- The line of a motor command tells its time and its torque. -/
theorem motorLine_inj {t t' : Nat} {torque torque' : Int} :
    motorLine t torque = motorLine t' torque' ↔ t = t' ∧ torque = torque' := by
  simp [motorLine]

/-- With the motor off an update commands a torque of zero. -/
theorem UpdateLine.eq_zero {now t : Nat} {w : PowertrainState} {torque : Int}
    (h : UpdateLine now w (motorLine t torque)) (hoff : w.motorEnable = false) : torque = 0 := by
  rcases h with ⟨hline, -⟩ | hline
  · exact absurd hline.symm (timeoutLine_ne_motorLine _ _ _)
  · rw [(motorLine_inj.mp hline).2, PowertrainState.torque_of_off hoff]

/-- An update that writes a timeout has switched the motor off. -/
theorem UpdateLine.off {now t : Nat} {w : PowertrainState}
    (h : UpdateLine now w (timeoutLine t)) : t = now ∧ w.motorEnable = false := by
  rcases h with ⟨hline, hoff⟩ | hline
  · exact ⟨congrArg TraceLine.time hline, hoff⟩
  · exact absurd hline (timeoutLine_ne_motorLine _ _ _)

/-- Where no fault reboots the powertrain: its lines do not lie behind the last update, and from
the first timeout on the motor is off. -/
structure Latched (sc : Scenario) (s : Sim) : Prop where
  faults : ∀ f ∈ s.faults, ¬ f.RebootsPowertrain sc
  past : ∀ line ∈ s.trace, Quiet line ∨
    (∃ t ≤ s.lastEcuUpdate, line = timeoutLine t ∧ s.world.ecus.powertrain.motorEnable = false) ∨
    ∃ t ≤ s.lastEcuUpdate, ∃ torque, line = motorLine t torque
  off : ∀ t t' torque, timeoutLine t ∈ s.trace → motorLine t' torque ∈ s.trace → t ≤ t' →
    torque = 0

/-- A written timeout leaves the motor off. -/
theorem Latched.of_timeout {sc : Scenario} {s : Sim} (h : Latched sc s) {t : Nat}
    (hmem : timeoutLine t ∈ s.trace) : s.world.ecus.powertrain.motorEnable = false := by
  rcases h.past _ hmem with hquiet | ⟨-, -, -, hoff⟩ | ⟨_, -, _, hline⟩
  · exact absurd hquiet (not_quiet_timeoutLine t)
  · exact hoff
  · exact absurd hline (timeoutLine_ne_motorLine _ _ _)

/-- A motor command is no later than the last update. -/
theorem Latched.of_motor {sc : Scenario} {s : Sim} (h : Latched sc s) {t : Nat} {torque : Int}
    (hmem : motorLine t torque ∈ s.trace) : t ≤ s.lastEcuUpdate := by
  rcases h.past _ hmem with hquiet | ⟨_, -, hline, -⟩ | ⟨t', hle, _, hline⟩
  · exact absurd hquiet (not_quiet_motorLine t torque)
  · exact absurd hline.symm (timeoutLine_ne_motorLine _ _ _)
  · rwa [(motorLine_inj.mp hline).1]

/-- A turn keeps the latch: the motor that a timeout switched off stays off. -/
theorem Latched.advance {sc : Scenario} {s : Sim} (h : Latched sc s) (now : Nat) :
    Latched sc (s.advance sc now) := by
  obtain ⟨w, new, htrace, hoff, hmotor, hnew⟩ := advance_powertrain sc now s
  have hstays := hoff h.faults
  have hupdate : (s.advance sc now).lastEcuUpdate =
      if s.updates now then now else s.lastEcuUpdate := rfl
  have hlater : s.updates now = true → s.lastEcuUpdate + 10000 ≤ now := of_decide_eq_true
  have hgrows : s.lastEcuUpdate ≤ (s.advance sc now).lastEcuUpdate := by
    rw [hupdate]
    split
    next hupdates =>
      have := hlater hupdates
      omega
    next => exact le_rfl
  have hnow : s.updates now = true → now ≤ (s.advance sc now).lastEcuUpdate := by
    intro hupdates
    rw [hupdate, if_pos hupdates]
  refine ⟨fun f hf => h.faults f (List.dropWhile_subset _ hf), ?_, ?_⟩
  · intro line hline
    rw [htrace] at hline
    rcases List.mem_append.mp hline with hline | hline
    · rcases h.past line hline with hquiet | ⟨t, ht, hline, hmotorOff⟩ | ⟨t, ht, torque, hline⟩
      · exact .inl hquiet
      · exact .inr (.inl ⟨t, ht.trans hgrows, hline, hmotor.trans (hstays hmotorOff)⟩)
      · exact .inr (.inr ⟨t, ht.trans hgrows, torque, hline⟩)
    · rcases hnew line hline with hquiet | ⟨hupdates, ⟨hline, hmotorOff⟩ | hline⟩
      · exact .inl hquiet
      · exact .inr (.inl ⟨now, hnow hupdates, hline, hmotor.trans hmotorOff⟩)
      · exact .inr (.inr ⟨now, hnow hupdates, _, hline⟩)
  · intro t t' torque htimeout hcommand hle
    rw [htrace] at htimeout hcommand
    rcases List.mem_append.mp htimeout with htimeout | htimeout
    · rcases List.mem_append.mp hcommand with hcommand | hcommand
      · exact h.off t t' torque htimeout hcommand hle
      · have hnewLine := (hnew _ hcommand).resolve_left (not_quiet_motorLine t' torque)
        exact hnewLine.2.eq_zero (hstays (h.of_timeout htimeout))
    · obtain ⟨hupdates, hline⟩ := (hnew _ htimeout).resolve_left (not_quiet_timeoutLine t)
      obtain ⟨htime, hmotorOff⟩ := hline.off
      rcases List.mem_append.mp hcommand with hcommand | hcommand
      · -- An earlier command does not lie behind this update.
        have := h.of_motor hcommand
        have := hlater hupdates
        omega
      · have hnewLine := (hnew _ hcommand).resolve_left (not_quiet_motorLine t' torque)
        exact hnewLine.2.eq_zero hmotorOff

/-- Where no fault reboots the powertrain, every reachable state has latched its timeouts. -/
theorem Sim.Reachable.latched {sc : Scenario} (hother : ∀ f ∈ sc.faults, ¬ f.RebootsPowertrain sc)
    {s : Sim} (h : Sim.Reachable sc s) : Latched sc s := by
  induction h with
  | init =>
    refine ⟨fun f hf => hother f ((perm_sortByKey _ _).mem_iff.mp hf), ?_, ?_⟩
    · exact fun line hline => absurd hline List.not_mem_nil
    · exact fun t t' torque htimeout => absurd htimeout List.not_mem_nil
  | turn h hturn ih =>
    obtain ⟨next, -, -, rfl⟩ := h.ready.turn_eq hturn
    exact ih.advance next

/-- In any scenario each line is quiet or the powertrain's. -/
theorem Sim.Reachable.lines {sc : Scenario} {s : Sim} (h : Sim.Reachable sc s) :
    ∀ line ∈ s.trace,
      Quiet line ∨ (∃ t, line = timeoutLine t) ∨ ∃ t torque, line = motorLine t torque := by
  induction h with
  | init => exact fun line hline => absurd hline List.not_mem_nil
  | @turn s s' h hturn ih =>
    obtain ⟨next, -, -, rfl⟩ := h.ready.turn_eq hturn
    obtain ⟨w, new, htrace, -, -, hnew⟩ := advance_powertrain sc next s
    intro line hline
    rw [htrace] at hline
    rcases List.mem_append.mp hline with hline | hline
    · exact ih line hline
    · rcases hnew line hline with hquiet | ⟨-, ⟨hline, -⟩ | hline⟩
      · exact .inl hquiet
      · exact .inr (.inl ⟨next, hline⟩)
      · exact .inr (.inr ⟨next, _, hline⟩)

/-! ### Simulated traces -/

/-- The trace is that of a reachable state, sorted. -/
theorem exists_reachable_of_simulateScenario {sc : Scenario} {fuel : Nat}
    {trace : List TraceLine} (h : simulateScenario sc fuel = some trace) :
    ∃ s, Sim.Reachable sc s ∧ trace.Perm s.trace := by
  obtain ⟨s, hloop, rfl⟩ := Option.map_eq_some_iff.mp h
  exact ⟨s, (Sim.Reachable.init.loop hloop).1, perm_sortByKey _ _⟩

/-- The lines of a generated trace are quiet, timeouts or motor commands. -/
theorem lines_simulateScenario {sc : Scenario} {fuel : Nat} {trace : List TraceLine}
    (h : simulateScenario sc fuel = some trace) : ∀ line ∈ trace,
      Quiet line ∨ (∃ t, line = timeoutLine t) ∨ ∃ t torque, line = motorLine t torque := by
  obtain ⟨s, hs, hperm⟩ := exists_reachable_of_simulateScenario h
  exact fun line hline => hs.lines line (hperm.mem_iff.mp hline)

/-- The torque of a line, where it has one, is a number. -/
def TraceLine.TorqueInt (line : TraceLine) : Prop :=
  ∀ value, line.fields.lookup "torque" = some value → ∃ n, value = .int n

/-- Every torque in a generated trace is a number. -/
theorem torqueInt_simulateScenario {sc : Scenario} {fuel : Nat} {trace : List TraceLine}
    (h : simulateScenario sc fuel = some trace) : ∀ line ∈ trace, line.TorqueInt := by
  intro line hline value hvalue
  rcases lines_simulateScenario h line hline with ⟨-, -, hnone⟩ | ⟨t, rfl⟩ | ⟨t, torque, rfl⟩
  · rw [hnone] at hvalue
    exact absurd hvalue (by simp)
  · exact absurd hvalue (by simp [timeoutLine])
  · refine ⟨torque, ?_⟩
    have hlookup : (motorLine t torque).fields.lookup "torque" = some (.int torque) := rfl
    exact (Option.some.inj (hlookup.symm.trans hvalue)).symm

/-- The line as the dictionary that it is printed from. -/
def TraceLine.toEvent (line : TraceLine) (h : line.TorqueInt) : SafetyEvent where
  fields := ("machine", .int line.machine) :: ("at", .int line.time) ::
    ("event", .str line.event) :: line.fields
  at_int value hvalue := ⟨line.time, (Option.some.inj hvalue).symm⟩
  torque_int value hvalue := h value (by simpa [List.lookup_cons] using hvalue)

/-- The events that `check_assertions.py` reads from a generated trace. -/
def simulatedEvents (sc : Scenario) (fuel : Nat) : Option (List SafetyEvent) :=
  (simulateScenario sc fuel).pmap (fun trace h => trace.pmap TraceLine.toEvent h)
    fun _ => torqueInt_simulateScenario

/-- The events are the lines of the trace, one for one. -/
theorem simulatedEvents_eq_some {sc : Scenario} {fuel : Nat} {events : List SafetyEvent}
    (h : simulatedEvents sc fuel = some events) :
    ∃ trace, ∃ htrace : simulateScenario sc fuel = some trace,
      events = trace.pmap TraceLine.toEvent (torqueInt_simulateScenario htrace) := by
  obtain ⟨trace, _, htrace, hevents⟩ := Option.pmap_eq_some_iff.mp h
  exact ⟨trace, htrace, hevents⟩

/-- The event is of the machine of its line. -/
theorem isOf_toEvent {line : TraceLine} {h : line.TorqueInt} {machine : Nat} :
    (line.toEvent h).isOf machine = true ↔ line.machine = machine := by
  have hisOf : (line.toEvent h).isOf machine = ((line.machine : Int) == machine) := rfl
  rw [hisOf, beq_iff_eq, Int.natCast_inj]

/-- The events of each machine stand in the order of their times. -/
theorem inTimeOrder_simulatedEvents {sc : Scenario} {fuel : Nat} {events : List SafetyEvent}
    (h : simulatedEvents sc fuel = some events) (machine : Nat) : InTimeOrder machine events := by
  obtain ⟨trace, htrace, rfl⟩ := simulatedEvents_eq_some h
  obtain ⟨s, -, rfl⟩ := Option.map_eq_some_iff.mp htrace
  rw [InTimeOrder, SortedByKey, List.pairwise_filter, List.pairwise_pmap]
  refine (sortedByKey_sortByKey _ s.trace).imp ?_
  intro a b hle ha hb hamachine hbmachine
  rw [isOf_toEvent] at hamachine hbmachine
  have htime : a.time ≤ b.time := by
    rcases Prod.Lex.toLex_le_toLex.mp hle with hlt | ⟨-, hle⟩
    · exact absurd (hamachine.trans hbmachine.symm) hlt.ne
    · rcases Prod.Lex.toLex_le_toLex.mp hle with hlt | ⟨heq, -⟩
      · exact hlt.le
      · exact heq.le
  exact Int.ofNat_le.mpr htime

/-- An event of a type comes from a line of that type. -/
theorem event_of_is {line : TraceLine} {h : line.TorqueInt} {machine : Nat} {type : String}
    (his : (line.toEvent h).is machine type = true) : line.event = type := by
  have htype := (Bool.and_eq_true_iff.mp his).2
  exact beq_iff_eq.mp htype

/-- In a simulation without a reboot of the powertrain S4 passes: from a gateway timeout on every
motor command states no torque. -/
theorem checkS4_simulated {sc : Scenario} (hother : ∀ f ∈ sc.faults, ¬ f.RebootsPowertrain sc)
    {fuel : Nat} {events : List SafetyEvent} (h : simulatedEvents sc fuel = some events) :
    (checkS4 events sc.nameToId).passed = true := by
  obtain ⟨trace, htrace, rfl⟩ := simulatedEvents_eq_some h
  obtain ⟨s, hs, hperm⟩ := exists_reachable_of_simulateScenario htrace
  have hlatched := hs.latched hother
  rw [checkS4_passed_iff]
  intro e he htimeout cmd hcmd hmotor hle
  obtain ⟨line, hline, rfl⟩ := List.mem_pmap.mp he
  obtain ⟨line', hline', rfl⟩ := List.mem_pmap.mp hcmd
  have hevent := event_of_is htimeout
  have hevent' := event_of_is hmotor
  have htime : line.time ≤ line'.time := Int.ofNat_le.mp hle
  rcases lines_simulateScenario htrace line hline with hquiet | ⟨t, rfl⟩ | ⟨t, torque, rfl⟩
  · exact absurd hevent hquiet.2.1
  · rcases lines_simulateScenario htrace line' hline' with hquiet | ⟨t', rfl⟩ | ⟨t', torque, rfl⟩
    · exact absurd hevent' hquiet.1
    · exact absurd hevent' (by simp [timeoutLine])
    · exact hlatched.off t t' torque (hperm.mem_iff.mp hline) (hperm.mem_iff.mp hline') htime
  · exact absurd hevent (by simp [motorLine])

/-- The gateway falls silent. -/
def silentGateway : Scenario where
  machines := [⟨1, "gateway"⟩, ⟨2, "powertrain"⟩]
  durationMs := 1000
  faults := [{ atMs := 200, target := "machine.gateway", type := "stop_heartbeat" }]

/-- The simulation of the silent gateway ends. -/
theorem exists_silentGateway : ∃ fuel events, simulatedEvents silentGateway fuel = some events := by
  obtain ⟨fuel, trace, htrace⟩ : ∃ fuel trace, simulateScenario silentGateway fuel = some trace :=
    simulateScenario_returns (by decide) (by decide)
  exact ⟨fuel, _, Option.pmap_eq_some_iff.mpr
    ⟨trace, torqueInt_simulateScenario htrace, htrace, rfl⟩⟩

/-- S4 passes on its trace. -/
theorem checkS4_simulated_silentGateway : ∃ fuel events,
    simulatedEvents silentGateway fuel = some events ∧
      (checkS4 events silentGateway.nameToId).passed = true := by
  obtain ⟨fuel, events, h⟩ := exists_silentGateway
  refine ⟨fuel, events, h, checkS4_simulated (fun f hf => ?_) h⟩
  obtain rfl := List.mem_singleton.mp hf
  exact fun hreboot => absurd hreboot.2.1 (by simp)

/-- No rule fails on a simulated trace exactly if the trace obeys them. -/
theorem checkSafetyRules_simulated_silentGateway : ∃ fuel events,
    simulatedEvents silentGateway fuel = some events ∧
      ((checkSafetyRules events silentGateway.nameToId).2.2 = [] ↔ Obeys 1 2 3 events) := by
  obtain ⟨fuel, events, h⟩ := exists_silentGateway
  exact ⟨fuel, events, h, checkSafetyRules_iff (inTimeOrder_simulatedEvents h _)⟩

end Microcar.Checker
