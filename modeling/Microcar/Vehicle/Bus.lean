import Microcar.Bms.Loop
import Microcar.Core.Link
import Microcar.Powertrain.Command

/-!
# Plant, BMS and powertrain on one bus

The plant, the two ECUs and a first-in first-out link towards each ECU. Items on the
links are stamped with where they come from: a sensor frame with the temperature the
plant measured, a frame of the BMS with the temperature of the sensor frame the BMS
processed last. The stamps are not read by any component.
-/

namespace Microcar.Vehicle

open Microcar.Bms (BmsCtx PlantReadings)
open Microcar.Powertrain (PowertrainCtx PowertrainOp)

/-- A frame on the wire: identifier, payload buffer and length, without a sender. -/
structure BusFrame where
  /-- Message identifier. -/
  id : UInt32
  /-- Payload buffer. -/
  data : Vector UInt8 8
  /-- Number of payload bytes. -/
  len : UInt8
  /-- A frame carries at least one byte. -/
  len_pos : 0 < len
  /-- A frame carries at most eight bytes. -/
  len_le : len ≤ 8

/-- The wire frame of a send, `sim_can_send`. -/
def BusFrame.ofSend? (f : McCanFrame) : Option BusFrame :=
  if h : 0 < f.len ∧ f.len ≤ 8 then some ⟨f.id, f.data, f.len, h.1, h.2⟩ else none

/-- The wire frames of a log, in sending order. -/
def framesSent (out : List Emission) : List BusFrame :=
  (out.filterMap Emission.frame?).filterMap BusFrame.ofSend?

/-- A wire frame of a log has identifier and payload of a send. -/
theorem mem_framesSent {out : List Emission} {frame : BusFrame} (h : frame ∈ framesSent out) :
    ∃ f, Emission.can f ∈ out ∧ frame.id = f.id ∧ frame.data = f.data := by
  obtain ⟨f, hf, hsend⟩ := List.mem_filterMap.mp h
  obtain ⟨e, he, hcan⟩ := List.mem_filterMap.mp hf
  cases e with
  | trace label value => simp [Emission.frame?] at hcan
  | can g =>
    simp only [Emission.frame?, Option.some.injEq] at hcan
    subst hcan
    refine ⟨g, he, ?_⟩
    unfold BusFrame.ofSend? at hsend
    split at hsend
    · cases hsend
      exact ⟨rfl, rfl⟩
    · simp at hsend

/-- A meaning that only frames of one identifier have is read from those of the log. -/
theorem filterMap_framesSent {γ : Type} {m : BusFrame → Option γ} {msgId : UInt32}
    (h : ∀ f, m f ≠ none → f.id = msgId) (out : List Emission) :
    (framesSent out).filterMap m =
      (framesOf msgId out).filterMap fun f => (BusFrame.ofSend? f).bind m := by
  unfold framesSent framesOf
  rw [List.filterMap_filterMap]
  induction out.filterMap Emission.frame? with
  | nil => rfl
  | cons f frames ih =>
    rw [List.filterMap_cons, List.filter_cons, ih]
    by_cases hid : f.id = msgId
    · rw [if_pos (by simpa using hid), List.filterMap_cons]
    · have hnone : (BusFrame.ofSend? f).bind m = none := by
        unfold BusFrame.ofSend?
        split
        · by_contra hmeaning
          exact hid (h _ hmeaning)
        · rfl
      rw [hnone, if_neg (by simpa using hid)]

/-- The frame a receive loop builds: the payload, and whatever the buffer held behind it. -/
def BusFrame.receive (f : BusFrame) (buffer : Vector UInt8 8) : RxFrame :=
  .ofBuffer f.id (Vector.ofFn fun i => if i.val < f.len.toNat then f.data.get i else buffer.get i)
    f.len f.len_pos f.len_le

/-- The received payload is the sent one. -/
theorem BusFrame.get_data_receive (f : BusFrame) (buffer : Vector UInt8 8) {i : Fin 8}
    (hlen : i.val < f.len.toNat) : (f.receive buffer).data.get i = f.data.get i := by
  have hbyte : (f.receive buffer).data[i.val] = f.data.get i := by
    simp [BusFrame.receive, RxFrame.ofBuffer, hlen]
  exact hbyte

/-- So is every received word. -/
theorem BusFrame.wordOfBytes_receive (f : BusFrame) (buffer : Vector UInt8 8) {i j : Fin 8}
    (hi : i.val < f.len.toNat) (hj : j.val < f.len.toNat) :
    Core.wordOfBytes ((f.receive buffer).data.get i) ((f.receive buffer).data.get j) =
      Core.wordOfBytes (f.data.get i) (f.data.get j) := by
  rw [f.get_data_receive buffer hi, f.get_data_receive buffer hj]

/-- A published frame without a meaning changes nothing. -/
theorem pending_publish_other {γ : Type} {m : BusFrame → Option γ} {read : RxFrame → Option γ}
    {msgId : UInt32} (h : ∀ f, m f ≠ none → f.id = msgId) {frame : BusFrame}
    (hother : frame.id ≠ msgId) (l : Core.Link BusFrame RxFrame) :
    (l.publish [frame]).pending m read = l.pending m read := by
  have hnone : m frame = none := by
    by_contra hmeaning
    exact hother (h frame hmeaning)
  rw [Core.Link.pending_publish, List.filterMap_cons, hnone, List.filterMap_nil, List.append_nil]

/-- A link without anything that its reader makes out. -/
theorem pending_boot {γ : Type} {m : BusFrame → Option γ} {read : RxFrame → Option γ}
    {msgId : UInt32} (h : ∀ f, m f ≠ none → f.id = msgId) {out : List Emission}
    (hout : framesOf msgId out = []) :
    (Core.Link.mk (framesSent out) []).pending m read = [] := by
  rw [Core.Link.pending, filterMap_framesSent h, hout]
  rfl

/-- The wheel speed frame of a plant step, big-endian. -/
def wheelSpeedFrame (speed : UInt16) : BusFrame where
  id := mcMsgWheelSpeed
  data := #v[Core.hiByte speed, Core.loByte speed, 0, 0, 0, 0, 0, 0]
  len := 2
  len_pos := by decide
  len_le := by decide

/-- The sensor frame of a plant step, big-endian. -/
def plantSensorsFrame (r : PlantReadings) : BusFrame where
  id := mcMsgPlantSensors
  data := #v[r.socPercent, Core.hiByte r.voltageMv, Core.loByte r.voltageMv,
    Core.hiByte r.tempCX10.toUInt16, Core.loByte r.tempCX10.toUInt16,
    Core.hiByte r.currentMa.toUInt16, Core.loByte r.currentMa.toUInt16, 0]
  len := 7
  len_pos := by decide
  len_le := by decide

/-- The BMS decodes the readings the plant encoded, whatever its buffer held before. -/
theorem decodePlantSensors_receive (r : PlantReadings) (buffer : Vector UInt8 8) :
    Bms.decodePlantSensors ((plantSensorsFrame r).receive buffer).toMcCanFrame = r := by
  have hbyte (i : Fin 8) (hi : i.val < 7) : ((plantSensorsFrame r).receive buffer).data.get i =
      (plantSensorsFrame r).data.get i := BusFrame.get_data_receive _ buffer hi
  have hword := Core.wordOfBytes_hiByte_loByte
  have hsoc : (plantSensorsFrame r).data.get 0 = r.socPercent := rfl
  have hvoltage : Core.wordOfBytes ((plantSensorsFrame r).data.get 1)
      ((plantSensorsFrame r).data.get 2) = r.voltageMv := hword r.voltageMv
  have htemp : Core.wordOfBytes ((plantSensorsFrame r).data.get 3)
      ((plantSensorsFrame r).data.get 4) = r.tempCX10.toUInt16 := hword r.tempCX10.toUInt16
  have hcurrent : Core.wordOfBytes ((plantSensorsFrame r).data.get 5)
      ((plantSensorsFrame r).data.get 6) = r.currentMa.toUInt16 := hword r.currentMa.toUInt16
  unfold Bms.decodePlantSensors
  rw [hbyte 0 (by decide), hbyte 1 (by decide), hbyte 2 (by decide), hbyte 3 (by decide),
    hbyte 4 (by decide), hbyte 5 (by decide), hbyte 6 (by decide), hsoc, hvoltage, htemp, hcurrent]
  simp

/-- A frame with the temperature it stems from. -/
structure Stamped (φ : Type) where
  /-- The frame. -/
  frame : φ
  /-- The temperature it stems from, if any. -/
  origin : Option Int16

/-- Receive a stamped frame. -/
def Stamped.receive (buffer : Vector UInt8 8) (item : Stamped BusFrame) : Stamped RxFrame :=
  ⟨item.frame.receive buffer, item.origin⟩

/-- The parties, their links and the two stamps the main result speaks about. -/
structure VehicleState where
  /-- The BMS. -/
  bms : BmsCtx
  /-- The powertrain. -/
  powertrain : PowertrainCtx
  /-- Frames towards the BMS. -/
  toBms : Core.Link (Stamped BusFrame) (Stamped RxFrame)
  /-- Frames towards the powertrain. -/
  toPowertrain : Core.Link (Stamped BusFrame) (Stamped RxFrame)
  /-- Temperature of the last sensor frame the BMS processed. -/
  processedTemp : Option Int16
  /-- Stamp of the last limits frame delivered to the powertrain, if one was. -/
  limitOrigin : Option (Option Int16)

/-- One step of the vehicle. -/
inductive VehicleEvent where
  /-- The plant publishes a wheel speed and its readings. -/
  | plant (speed : UInt16) (readings : PlantReadings)
  /-- Any other node publishes a frame. -/
  | other (frame : BusFrame) (hlimits : frame.id ≠ mcMsgBmsLimits)
    (hsensors : frame.id ≠ mcMsgPlantSensors)
  /-- The oldest frame in flight reaches the BMS. -/
  | deliverBms (buffer : Vector UInt8 8)
  /-- The oldest frame in flight reaches the powertrain. -/
  | deliverPowertrain (buffer : Vector UInt8 8)
  /-- One iteration of `bms_main`. -/
  | bmsMain (nowMs : UInt32)
  /-- One iteration of `powertrain_main` with the timer callbacks that preempt it. -/
  | powertrainMain (nowMs : UInt32) (preempt : Powertrain.Preemption)
  /-- A watchdog timer callback between two iterations. -/
  | watchdogTimer (nowMs : UInt32)

/-- The temperature of the last sensor frame among received items, or the earlier one. -/
def processed (before : Option Int16) (items : List (Stamped RxFrame)) : Option Int16 :=
  items.foldl (fun t item => if item.frame.id = mcMsgPlantSensors then item.origin else t) before

/-- The frames an ECU sent between two states of its log, under one stamp. -/
def stampedSends (origin : Option Int16) (before after : List Emission) :
    List (Stamped BusFrame) :=
  (framesSent (after.drop before.length)).map fun f => ⟨f, origin⟩

/-- The steps of a powertrain iteration that drains the given frames. -/
def powertrainIteration (items : List (Stamped RxFrame)) (nowMs : UInt32)
    (preempt : Powertrain.Preemption) : List PowertrainOp :=
  items.map (fun item => .dispatch item.frame nowMs) ++ [.command nowMs preempt]

/-- The effect of one step. -/
def vehicleStep (s : VehicleState) : VehicleEvent → VehicleState
  | .plant speed readings =>
    let items :=
      [⟨wheelSpeedFrame speed, none⟩, ⟨plantSensorsFrame readings, some readings.tempCX10⟩]
    { s with toBms := s.toBms.publish items, toPowertrain := s.toPowertrain.publish items }
  | .other frame _ _ =>
    let items := [⟨frame, none⟩]
    { s with toBms := s.toBms.publish items, toPowertrain := s.toPowertrain.publish items }
  | .deliverBms buffer => { s with toBms := s.toBms.deliver (Stamped.receive buffer) }
  | .deliverPowertrain buffer =>
    let origin := match s.toPowertrain.inFlight with
      | [] => s.limitOrigin
      | item :: _ => if item.frame.id = mcMsgBmsLimits then some item.origin else s.limitOrigin
    { s with
      toPowertrain := s.toPowertrain.deliver (Stamped.receive buffer)
      limitOrigin := origin }
  | .bmsMain nowMs =>
    let temp := processed s.processedTemp s.toBms.inbox
    let bms := Bms.bmsMain s.bms ⟨nowMs, s.toBms.inbox.map (·.frame)⟩
    { s with
      bms := bms
      processedTemp := temp
      toBms := s.toBms.drain
      toPowertrain := s.toPowertrain.publish (stampedSends temp s.bms.out bms.out) }
  | .powertrainMain nowMs preempt =>
    let powertrain := Core.run Powertrain.powertrainStep s.powertrain
      (powertrainIteration s.toPowertrain.inbox nowMs preempt)
    { s with
      powertrain := powertrain
      toPowertrain := s.toPowertrain.drain
      toBms := s.toBms.publish (stampedSends none s.powertrain.out powertrain.out) }
  | .watchdogTimer nowMs =>
    { s with powertrain := Powertrain.powertrainStep s.powertrain (.timer nowMs) }

/-- Both ECUs have booted and their boot heartbeats are in flight. -/
def vehicleBoot (forceService forceCharging : Bool) : VehicleState where
  bms := Bms.bmsBoot
  powertrain := Powertrain.powertrainBoot forceService forceCharging false
  toBms :=
    ⟨stampedSends none [] (Powertrain.powertrainBoot forceService forceCharging false).out, []⟩
  toPowertrain := ⟨stampedSends none [] Bms.bmsBoot.out, []⟩
  processedTemp := none
  limitOrigin := none

/-- The motor commands an iteration of `powertrain_main` puts on the bus. -/
def iterationMotorCommands (s : VehicleState) (nowMs : UInt32)
    (preempt : Powertrain.Preemption) : List McCanFrame :=
  framesOf mcMsgMotorCommand
    ((vehicleStep s (.powertrainMain nowMs preempt)).powertrain.out.drop s.powertrain.out.length)

end Microcar.Vehicle
