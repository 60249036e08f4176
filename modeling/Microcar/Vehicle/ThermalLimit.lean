import Microcar.Powertrain.Envelope
import Microcar.Vehicle.Bus

/-!
# The thermal limit from plant to motor

The limit byte of every limits frame is the one of the temperature it is stamped with,
from the moment the BMS publishes it until the powertrain applies it. A motor command
therefore respects the temperature behind the limits frame delivered last.
-/

namespace Microcar.Vehicle

open Microcar.Bms (BmsCtx PlantReadings)
open Microcar.Powertrain (PowertrainCtx PowertrainOp powertrainStep commandTorque)

/-- The BMS state for the temperature processed last; the BMS boots in state OK. -/
def stateOf (temp : Option Int16) : McBmsState := (temp.map mcBmsDetermineState).getD .ok

/-- The torque limit for the temperature processed last. -/
def limitOf (temp : Option Int16) : UInt8 := (Bms.bmsLimitsCompute (stateOf temp)).maxTorquePercent

/-- The limit is 25 percent or less from 75.0 degrees on and zero from 90.0 degrees on. -/
theorem toNat_limitOf (t : Int16) :
    (limitOf (some t)).toNat = if 900 ≤ t.toInt then 0 else if 750 ≤ t.toInt then 25 else 255 := by
  have hcritical : mcBmsTempCritical * 10 ≤ t ↔ 900 ≤ t.toInt := Int16.le_iff_toInt_le
  have hlimp : mcBmsTempLimp * 10 ≤ t ↔ 750 ≤ t.toInt := Int16.le_iff_toInt_le
  simp only [limitOf, stateOf, Option.map_some, Option.getD_some, mcBmsDetermineState,
    ← hcritical, ← hlimp]
  split_ifs <;> rfl

/-- A sensor frame in flight is an encoding of readings with the stamped temperature. -/
def SensorsStamped (item : Stamped BusFrame) : Prop :=
  item.frame.id = mcMsgPlantSensors →
    ∃ r, item.frame = plantSensorsFrame r ∧ item.origin = some r.tempCX10

/-- A received sensor frame decodes to the stamped temperature. -/
def SensorsDecoded (item : Stamped RxFrame) : Prop :=
  item.frame.id = mcMsgPlantSensors →
    ∃ t, Bms.sensorTemp item.frame = some t ∧ item.origin = some t

/-- A limits frame in flight carries the limit of its stamp. -/
def LimitsStamped (item : Stamped BusFrame) : Prop :=
  item.frame.id = mcMsgBmsLimits → item.frame.data.get 0 = limitOf item.origin

/-- A received limits frame carries the limit of its stamp. -/
def LimitsReceived (item : Stamped RxFrame) : Prop :=
  item.frame.id = mcMsgBmsLimits → item.frame.data.get 0 = limitOf item.origin

/-- The limit byte the powertrain holds once it has drained the given frames. -/
def drainedLimit (before : UInt8) (items : List (Stamped RxFrame)) : UInt8 :=
  items.foldl (fun limit item =>
    if item.frame.id = mcMsgBmsLimits then item.frame.data.get 0 else limit) before

/-- What holds in every reachable state of the vehicle. -/
structure ThermalInvariant (s : VehicleState) : Prop where
  /-- Sensor frames towards the BMS match their stamps. -/
  sensors : s.toBms.All SensorsStamped SensorsDecoded
  /-- Limits frames towards the powertrain match their stamps. -/
  limits : s.toPowertrain.All LimitsStamped LimitsReceived
  /-- Fault code and limit of the BMS are those of its state. -/
  consistent : Bms.Consistent s.bms
  /-- The BMS state is the one of the temperature processed last. -/
  state_eq : s.bms.bs.state = stateOf s.processedTemp
  /-- Once the inbox is drained, the powertrain holds the limit of the stamp delivered last. -/
  limit_eq : drainedLimit s.powertrain.tc.bmsTorqueLimit s.toPowertrain.inbox =
    (s.limitOrigin.map limitOf).getD 255
  /-- The seeded bug is off. -/
  bugOff : s.powertrain.diagServiceClampBug = false
  /-- A transmit mailbox is free. -/
  slots : 0 < s.powertrain.canTxSlots

/-- Receiving a sensor frame yields its stamped temperature. -/
theorem SensorsStamped.receive {item : Stamped BusFrame} (h : SensorsStamped item)
    (buffer : Vector UInt8 8) : SensorsDecoded (item.receive buffer) := by
  intro hid
  obtain ⟨r, hframe, horigin⟩ := h hid
  refine ⟨r.tempCX10, ?_, horigin⟩
  have hdecode := decodePlantSensors_receive r buffer
  have hlen : (7 : UInt8) ≤ ((plantSensorsFrame r).receive buffer).len := UInt8.le_refl 7
  have hid' : ((plantSensorsFrame r).receive buffer).id = mcMsgPlantSensors := rfl
  simp only [Stamped.receive, hframe, Bms.sensorTemp]
  rw [if_pos ⟨hid', hlen⟩, hdecode]

/-- Receiving a limits frame keeps its limit byte. -/
theorem LimitsStamped.receive {item : Stamped BusFrame} (h : LimitsStamped item)
    (buffer : Vector UInt8 8) : LimitsReceived (item.receive buffer) := by
  intro hid
  have hpos : 0 < item.frame.len.toNat := item.frame.len_pos
  rw [← show item.origin = (item.receive buffer).origin from rfl, ← h hid]
  exact BusFrame.get_data_receive item.frame buffer hpos

/-- A processed temperature is the last one the BMS decoded. -/
theorem processed_eq {items : List (Stamped RxFrame)} (h : ∀ item ∈ items, SensorsDecoded item)
    (before : Option Int16) :
    processed before items = (Bms.lastTemp (items.map (·.frame))).or before := by
  induction items using List.reverseRecOn with
  | nil => rfl
  | append_singleton items item ih =>
    have hlast := h item (by simp)
    have hinit := ih fun x hx => h x (List.mem_append_left _ hx)
    rw [List.map_append, List.map_singleton, Bms.lastTemp_snoc]
    simp only [processed, List.foldl_append, List.foldl_cons, List.foldl_nil] at hinit ⊢
    by_cases hid : item.frame.id = mcMsgPlantSensors
    · obtain ⟨t, hdecoded, horigin⟩ := hlast hid
      rw [if_pos hid, hdecoded, horigin]
      rfl
    · have hnone : Bms.sensorTemp item.frame = none := by
        simp [Bms.sensorTemp, hid]
      rw [if_neg hid, hnone, hinit]
      rfl

/-- The frames of a log on the wire keep identifier and payload. -/
theorem mem_stampedSends {origin : Option Int16} {before after : List Emission}
    {item : Stamped BusFrame} (h : item ∈ stampedSends origin before after) :
    item.origin = origin ∧ ∃ f, Emission.can f ∈ after.drop before.length ∧
      item.frame.id = f.id ∧ item.frame.data = f.data := by
  obtain ⟨frame, hframe, rfl⟩ := List.mem_map.mp h
  exact ⟨rfl, mem_framesSent hframe⟩

/-- Frames of an iteration of the BMS carry the limit of the temperature processed last. -/
theorem limitsStamped_bmsMain {ctx : BmsCtx} {it : Bms.BmsIteration} {temp : Option Int16}
    (hconsistent : Bms.Consistent (Bms.receive ctx it.frames))
    (hstate : (Bms.receive ctx it.frames).bs.state = stateOf temp) :
    ∀ item ∈ stampedSends temp ctx.out (Bms.bmsMain ctx it).out, LimitsStamped item := by
  intro item hitem hid
  obtain ⟨horigin, f, hf, hfid, hdata⟩ := mem_stampedSends hitem
  rw [hfid] at hid
  have hmem : f ∈ framesOf mcMsgBmsLimits (Bms.published ctx it) := mem_framesOf.mpr ⟨hf, hid⟩
  have hlimits : f = Bms.sendBmsLimits (Bms.receive ctx it.frames) := by
    rw [Bms.framesOf_limits_published] at hmem
    split at hmem
    · exact List.mem_singleton.mp hmem
    · exact absurd hmem List.not_mem_nil
  rw [horigin, hdata, hlimits, limitOf, ← hstate, ← hconsistent.limits_eq]
  simp [Bms.sendBmsLimits, McCanFrame.get_data_put]

/-- The powertrain behind the receive phase of an iteration. -/
def drained (pt : PowertrainCtx) (items : List (Stamped RxFrame)) (nowMs : UInt32) :
    PowertrainCtx :=
  Core.run powertrainStep pt (items.map fun item => .dispatch item.frame nowMs)

/-- An iteration is its command step behind the receive phase. -/
theorem run_powertrainIteration (pt : PowertrainCtx) (items : List (Stamped RxFrame))
    (nowMs : UInt32) (preempt : Powertrain.Preemption) :
    Core.run powertrainStep pt (powertrainIteration items nowMs preempt) =
      powertrainStep (drained pt items nowMs) (.command nowMs preempt) :=
  Core.run_snoc _ _ _ _

/-- Draining frames leaves the powertrain with the limit of the last limits frame among
them. -/
theorem drained_limit (pt : PowertrainCtx) (items : List (Stamped RxFrame)) (nowMs : UInt32) :
    (drained pt items nowMs).tc.bmsTorqueLimit = drainedLimit pt.tc.bmsTorqueLimit items := by
  induction items generalizing pt with
  | nil => rfl
  | cons item items ih =>
    have hinputs := Powertrain.dispatchFrame_inputs pt item.frame.toMcCanFrame nowMs
    simp only [Powertrain.TorqueController.inputs, Prod.mk.injEq] at hinputs
    have hrest := ih (powertrainStep pt (.dispatch item.frame nowMs))
    rw [powertrainStep, hinputs.2.2.2] at hrest
    exact hrest

/-- Draining frames emits nothing. -/
theorem drained_out (pt : PowertrainCtx) (items : List (Stamped RxFrame)) (nowMs : UInt32) :
    (drained pt items nowMs).out = pt.out := by
  induction items generalizing pt with
  | nil => rfl
  | cons item items ih =>
    exact (ih (powertrainStep pt (.dispatch item.frame nowMs))).trans
      (Powertrain.dispatchFrame_out pt _ nowMs)

/-- Draining frames keeps the mailboxes and the seeded bug flag. -/
theorem drained_config (pt : PowertrainCtx) (items : List (Stamped RxFrame)) (nowMs : UInt32) :
    (drained pt items nowMs).canTxSlots = pt.canTxSlots ∧
      (drained pt items nowMs).diagServiceClampBug = pt.diagServiceClampBug := by
  have hconfig := Powertrain.config_run pt (items.map fun item => .dispatch item.frame nowMs)
  simp only [PowertrainCtx.config, Prod.mk.injEq] at hconfig
  exact ⟨hconfig.1, hconfig.2.2.2⟩

/-- The mode overrides keep the limit. -/
theorem forceModes_limit (pt : PowertrainCtx) :
    (Powertrain.forceModes pt).tc.bmsTorqueLimit = pt.tc.bmsTorqueLimit := by
  unfold Powertrain.forceModes
  dsimp only
  split_ifs <;> rfl

/-- The mode overrides keep the seeded bug flag. -/
theorem forceModes_clampBug {pt : PowertrainCtx} (hbug : pt.diagServiceClampBug = false) :
    (Powertrain.forceModes pt).diagServiceClampBug = false := by
  obtain ⟨tc, heq⟩ := Powertrain.forceModes_eq pt
  rw [heq]
  exact hbug

/-- A loop iteration keeps the limit. -/
theorem powertrainCommand_limit {pt : PowertrainCtx} (hbug : pt.diagServiceClampBug = false)
    (nowMs : UInt32) (preempt : Powertrain.Preemption) :
    (Powertrain.powertrainCommand pt nowMs preempt).tc.bmsTorqueLimit = pt.tc.bmsTorqueLimit := by
  have hforce := forceModes_limit pt
  have hcompute := Powertrain.computeTorque_of_clampBug_off (forceModes_clampBug hbug)
  have hinputs := Powertrain.torqueControllerCompute_inputs (Powertrain.forceModes pt).tc
  simp only [Powertrain.TorqueController.inputs, Prod.mk.injEq] at hinputs
  rw [Powertrain.powertrainCommand_eq, Powertrain.timers_eq, hcompute]
  exact hinputs.2.2.2.trans hforce

/-- The computed torque is never negative and respects the stored limit. -/
theorem computeTorque_le_limit {pt : PowertrainCtx} (hbug : pt.diagServiceClampBug = false) :
    0 ≤ (Powertrain.computeTorque (Powertrain.forceModes pt)).2.toInt ∧
      (Powertrain.computeTorque (Powertrain.forceModes pt)).2.toInt ≤
        pt.tc.bmsTorqueLimit.toNat := by
  have hforce := forceModes_limit pt
  rw [Powertrain.computeTorque_of_clampBug_off (forceModes_clampBug hbug)]
  rw [Powertrain.toInt_torqueControllerCompute, hforce]
  split
  · omega
  · omega

/-- The stamps of a plant step. -/
theorem sensorsStamped_plant (speed : UInt16) (r : PlantReadings) :
    ∀ item ∈ [⟨wheelSpeedFrame speed, none⟩, ⟨plantSensorsFrame r, some r.tempCX10⟩],
      SensorsStamped item ∧ LimitsStamped item := by
  have hwheel : mcMsgWheelSpeed ≠ mcMsgPlantSensors := by decide
  have hwheel' : mcMsgWheelSpeed ≠ mcMsgBmsLimits := by decide
  have hsensors : mcMsgPlantSensors ≠ mcMsgBmsLimits := by decide
  intro item hitem
  rcases List.mem_pair.mp hitem with rfl | rfl
  · exact ⟨fun hid => absurd hid hwheel, fun hid => absurd hid hwheel'⟩
  · exact ⟨fun _ => ⟨r, rfl, rfl⟩, fun hid => absurd hid hsensors⟩

/-- No frame of the powertrain is a sensor frame. -/
theorem sensorsStamped_powertrain {pt : PowertrainCtx} {items : List (Stamped RxFrame)}
    {nowMs : UInt32} {preempt : Powertrain.Preemption} (hslots : 0 < pt.canTxSlots) :
    ∀ item ∈ stampedSends none pt.out
      (Core.run powertrainStep pt (powertrainIteration items nowMs preempt)).out,
      SensorsStamped item := by
  intro item hitem hid
  obtain ⟨-, f, hf, hfid, -⟩ := mem_stampedSends hitem
  rw [hfid] at hid
  rw [run_powertrainIteration, ← drained_out pt items nowMs] at hf
  have hslots' : 0 < (drained pt items nowMs).canTxSlots := by
    rw [(drained_config pt items nowMs).1]
    exact hslots
  have hmem := mem_framesOf.mpr ⟨hf, hid⟩
  rw [Powertrain.framesOf_command hslots' nowMs preempt] at hmem
  have hcommand : framesOf mcMsgPlantSensors [.can (Powertrain.sendMotorCommand
      (preempt.computed.foldl Powertrain.watchdogTimerCb
        (Powertrain.computeTorque (Powertrain.forceModes (drained pt items nowMs))).1)
      (Powertrain.computeTorque (Powertrain.forceModes (drained pt items nowMs))).2)] = [] :=
    framesOf_can_of_ne (show mcMsgMotorCommand ≠ mcMsgPlantSensors by decide)
  have hbeat : framesOf mcMsgPlantSensors [.can (Powertrain.sendHeartbeat nowMs)] = [] :=
    framesOf_can_of_ne (show mcMsgHeartbeat ≠ mcMsgPlantSensors by decide)
  rw [framesOf_append, hcommand, List.nil_append] at hmem
  split at hmem
  · rw [hbeat] at hmem
    exact absurd hmem List.not_mem_nil
  · exact absurd hmem List.not_mem_nil

/-- A frame published by another node keeps the invariant. -/
theorem ThermalInvariant.other {s : VehicleState} (h : ThermalInvariant s) {frame : BusFrame}
    (hlimits : frame.id ≠ mcMsgBmsLimits) (hsensors : frame.id ≠ mcMsgPlantSensors) :
    ThermalInvariant (vehicleStep s (.other frame hlimits hsensors)) := by
  refine ⟨h.sensors.publish ?_, h.limits.publish ?_, h.consistent, h.state_eq, h.limit_eq, h.bugOff,
    h.slots⟩
  · intro item hitem hid
    rw [List.mem_singleton.mp hitem] at hid
    exact absurd hid hsensors
  · intro item hitem hid
    rw [List.mem_singleton.mp hitem] at hid
    exact absurd hid hlimits

/-- A delivery to the powertrain keeps the invariant: a limits frame brings its stamp along. -/
theorem ThermalInvariant.deliverPowertrain {s : VehicleState} (h : ThermalInvariant s)
    (buffer : Vector UInt8 8) : ThermalInvariant (vehicleStep s (.deliverPowertrain buffer)) := by
  refine ⟨h.sensors, h.limits.deliver fun item hi => hi.receive buffer, h.consistent, h.state_eq,
    ?_, h.bugOff, h.slots⟩
  cases hflight : s.toPowertrain.inFlight with
  | nil => simpa [vehicleStep, Core.Link.deliver, hflight] using h.limit_eq
  | cons item rest =>
    have hitem := h.limits.inFlight item (by simp [hflight])
    have hreceived := hitem.receive buffer
    have hid : (item.receive buffer).frame.id = item.frame.id := rfl
    simp only [vehicleStep, Core.Link.deliver, hflight, drainedLimit, List.foldl_append,
      List.foldl_cons, List.foldl_nil, hid]
    by_cases hlim : item.frame.id = mcMsgBmsLimits
    · rw [if_pos hlim, if_pos hlim]
      exact hreceived hlim
    · rw [if_neg hlim, if_neg hlim]
      exact h.limit_eq

/-- An iteration of the BMS keeps the invariant: its limits carry the processed temperature. -/
theorem ThermalInvariant.bmsMain {s : VehicleState} (h : ThermalInvariant s) (nowMs : UInt32) :
    ThermalInvariant (vehicleStep s (.bmsMain nowMs)) := by
  have hreceive := h.consistent.receive (s.toBms.inbox.map (·.frame))
  have hprocessed := processed_eq h.sensors.inbox s.processedTemp
  have hstate : (Bms.receive s.bms (s.toBms.inbox.map (·.frame))).bs.state =
      stateOf (processed s.processedTemp s.toBms.inbox) := by
    rw [Bms.receive_state, hprocessed, h.state_eq]
    cases Bms.lastTemp (s.toBms.inbox.map (·.frame)) <;> rfl
  obtain ⟨out, heq⟩ := Bms.bmsMain_eq s.bms ⟨nowMs, s.toBms.inbox.map (·.frame)⟩
  refine ⟨h.sensors.drain, h.limits.publish ?_, ?_, ?_, h.limit_eq, h.bugOff, h.slots⟩
  · exact limitsStamped_bmsMain hreceive hstate
  · simp only [vehicleStep, heq]
    exact ⟨hreceive.faultCode_eq, hreceive.limits_eq⟩
  · simp only [vehicleStep, heq]
    exact hstate

/-- An iteration of the powertrain keeps the invariant: it ends with the limit it drained. -/
theorem ThermalInvariant.powertrainMain {s : VehicleState} (h : ThermalInvariant s)
    (nowMs : UInt32) (preempt : Powertrain.Preemption) :
    ThermalInvariant (vehicleStep s (.powertrainMain nowMs preempt)) := by
  have hconfig := Powertrain.config_run s.powertrain
    (powertrainIteration s.toPowertrain.inbox nowMs preempt)
  simp only [PowertrainCtx.config, Prod.mk.injEq] at hconfig
  have hbug := (drained_config s.powertrain s.toPowertrain.inbox nowMs).2.trans h.bugOff
  refine ⟨h.sensors.publish (sensorsStamped_powertrain h.slots), h.limits.drain, h.consistent,
    h.state_eq, ?_, hconfig.2.2.2.trans h.bugOff, hconfig.1 ▸ h.slots⟩
  simp only [vehicleStep, run_powertrainIteration]
  exact (powertrainCommand_limit hbug nowMs preempt).trans ((drained_limit _ _ _).trans h.limit_eq)

/-- A timer callback keeps the invariant: it touches watchdog and motor enable only. -/
theorem ThermalInvariant.watchdogTimer {s : VehicleState} (h : ThermalInvariant s)
    (nowMs : UInt32) : ThermalInvariant (vehicleStep s (.watchdogTimer nowMs)) := by
  have hcb := Powertrain.watchdogTimerCb_eq s.powertrain nowMs
  refine ⟨h.sensors, h.limits, h.consistent, h.state_eq, ?_, ?_, ?_⟩
  · simp only [vehicleStep, powertrainStep, hcb]
    exact h.limit_eq
  · simp only [vehicleStep, powertrainStep, hcb]
    exact h.bugOff
  · simp only [vehicleStep, powertrainStep, hcb]
    exact h.slots

/-- Every step of the vehicle keeps the invariant. -/
theorem ThermalInvariant.step {s : VehicleState} (h : ThermalInvariant s) (e : VehicleEvent) :
    ThermalInvariant (vehicleStep s e) := by
  cases e with
  | plant speed r =>
    have hitems := sensorsStamped_plant speed r
    exact ⟨h.sensors.publish fun item hi => (hitems item hi).1,
      h.limits.publish fun item hi => (hitems item hi).2, h.consistent, h.state_eq, h.limit_eq,
      h.bugOff, h.slots⟩
  | other frame hlimits hsensors => exact h.other hlimits hsensors
  | deliverBms buffer =>
    exact ⟨h.sensors.deliver fun item hi => hi.receive buffer, h.limits, h.consistent, h.state_eq,
      h.limit_eq, h.bugOff, h.slots⟩
  | deliverPowertrain buffer => exact h.deliverPowertrain buffer
  | bmsMain nowMs => exact h.bmsMain nowMs
  | powertrainMain nowMs preempt => exact h.powertrainMain nowMs preempt
  | watchdogTimer nowMs => exact h.watchdogTimer nowMs

/-- A boot heartbeat is neither a sensor nor a limits frame. -/
theorem stamped_heartbeat (node : UInt8) {item : Stamped BusFrame}
    (h : item ∈ stampedSends none [] [.can (heartbeatFrame node 0)]) :
    SensorsStamped item ∧ LimitsStamped item := by
  obtain ⟨-, f, hf, hid, -⟩ := mem_stampedSends h
  have hf : f = heartbeatFrame node 0 := by simpa using hf
  have hbeat : item.frame.id = mcMsgHeartbeat := by
    rw [hid, hf]
    rfl
  constructor
  · intro hsensors
    rw [hbeat] at hsensors
    exact absurd hsensors (by decide)
  · intro hlimits
    rw [hbeat] at hlimits
    exact absurd hlimits (by decide)

/-- The invariant holds when both ECUs have booted. -/
theorem thermalInvariant_vehicleBoot (forceService forceCharging : Bool) :
    ThermalInvariant (vehicleBoot forceService forceCharging) where
  sensors := ⟨fun _ hitem => (stamped_heartbeat mcNodePowertrain hitem).1, by
    simp [vehicleBoot]⟩
  limits := ⟨fun _ hitem => (stamped_heartbeat mcNodeBms hitem).2, by
    simp [vehicleBoot]⟩
  consistent := Bms.consistent_bmsBoot
  state_eq := rfl
  limit_eq := by
    cases forceService <;> cases forceCharging <;> rfl
  bugOff := rfl
  slots := show 0 < 3 by omega

/-- In every reachable state, an iteration of `powertrain_main` sends one motor command
whose torque respects the temperature behind the limits frame delivered last: at most 25
percent from 75.0 degrees on, and zero from 90.0 degrees on. -/
theorem vehicleRun_thermal_limit (forceService forceCharging : Bool) (evs : List VehicleEvent)
    {t : Int16}
    (ht : (Core.run vehicleStep (vehicleBoot forceService forceCharging) evs).limitOrigin =
      some (some t))
    (nowMs : UInt32) (preempt : Powertrain.Preemption) :
    ∃ f, iterationMotorCommands
        (Core.run vehicleStep (vehicleBoot forceService forceCharging) evs) nowMs preempt = [f] ∧
      (750 ≤ t.toInt → commandTorque f ≤ 25) ∧ (900 ≤ t.toInt → commandTorque f = 0) := by
  have h := Core.run_invariant (I := ThermalInvariant) (fun _ e hs => hs.step e)
    (thermalInvariant_vehicleBoot forceService forceCharging) evs
  generalize Core.run vehicleStep (vehicleBoot forceService forceCharging) evs = s at h ht ⊢
  have hconfig := drained_config s.powertrain s.toPowertrain.inbox nowMs
  have hslots : 0 < (drained s.powertrain s.toPowertrain.inbox nowMs).canTxSlots :=
    hconfig.1 ▸ h.slots
  obtain ⟨hnonneg, hle⟩ := computeTorque_le_limit (hconfig.2.trans h.bugOff)
  have hlimit : (drained s.powertrain s.toPowertrain.inbox nowMs).tc.bmsTorqueLimit =
      limitOf (some t) := by
    rw [drained_limit, h.limit_eq, ht]
    rfl
  rw [hlimit, toNat_limitOf] at hle
  have hcommand : iterationMotorCommands s nowMs preempt = Powertrain.motorCommands
      (drained s.powertrain s.toPowertrain.inbox nowMs) (.command nowMs preempt) := by
    rw [iterationMotorCommands, vehicleStep, run_powertrainIteration, Powertrain.motorCommands,
      drained_out]
  refine ⟨_, hcommand.trans (Powertrain.motorCommands_command hslots nowMs preempt), ?_⟩
  rw [Powertrain.commandTorque_sendMotorCommand]
  split_ifs at hle <;> omega

/-- The plant publishes 95.0 degrees, the BMS processes it and publishes its limits, and
the limits frame is delivered to the powertrain. -/
def overheatedRun : List VehicleEvent :=
  [.plant 0 ⟨80, 360, 950, -5⟩] ++ List.replicate 3 (.deliverBms (Vector.replicate 8 0xFF)) ++
    [.bmsMain 50] ++ List.replicate 5 (.deliverPowertrain (Vector.replicate 8 0xFF))

/-- The motor gets no torque behind the overheated run. -/
theorem vehicleRun_thermal_limit_overheatedRun :
    (Core.run vehicleStep (vehicleBoot false false) overheatedRun).limitOrigin =
        some (some 950) ∧
      ∃ f, iterationMotorCommands (Core.run vehicleStep (vehicleBoot false false) overheatedRun)
          60 {} = [f] ∧
        (750 ≤ (950 : Int16).toInt → commandTorque f ≤ 25) ∧
        (900 ≤ (950 : Int16).toInt → commandTorque f = 0) := by
  have hrun : (Core.run vehicleStep (vehicleBoot false false) overheatedRun).limitOrigin =
      some (some 950) := by
    decide +kernel
  exact ⟨hrun, vehicleRun_thermal_limit false false overheatedRun hrun 60 {}⟩

end Microcar.Vehicle
