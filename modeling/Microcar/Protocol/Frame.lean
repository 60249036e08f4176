import Mathlib.Data.Vector.Basic

/-!
# Bus frames, node and message identifiers

The frame layout of the broadcast bus and the identifiers carried by it. A frame
handed over by the receive call carries between one and eight payload bytes and takes
its sender from the first of them; the bytes behind the payload are whatever the
receive buffer held. Everything an ECU emits, trace words included, is one ordered log.
-/

namespace Microcar

/-- Node identifiers, `MC_NODE_*`. -/
def mcNodeGateway : UInt8 := 1
/-- `MC_NODE_POWERTRAIN`. -/
def mcNodePowertrain : UInt8 := 2
/-- `MC_NODE_BMS`. -/
def mcNodeBms : UInt8 := 3
/-- `MC_NODE_DASHBOARD`. -/
def mcNodeDashboard : UInt8 := 4
/-- `MC_NODE_DIAGNOSTICS`. -/
def mcNodeDiagnostics : UInt8 := 5

/-- Message identifiers, `MC_MSG_*`. -/
def mcMsgHeartbeat : UInt32 := 0x001
/-- `MC_MSG_VEHICLE_MODE`. -/
def mcMsgVehicleMode : UInt32 := 0x010
/-- `MC_MSG_DRIVER_INPUT`. -/
def mcMsgDriverInput : UInt32 := 0x020
/-- `MC_MSG_MOTOR_COMMAND`. -/
def mcMsgMotorCommand : UInt32 := 0x101
/-- `MC_MSG_WHEEL_SPEED`. -/
def mcMsgWheelSpeed : UInt32 := 0x102
/-- `MC_MSG_BMS_STATUS`. -/
def mcMsgBmsStatus : UInt32 := 0x200
/-- `MC_MSG_BMS_LIMITS`. -/
def mcMsgBmsLimits : UInt32 := 0x201
/-- `MC_MSG_BMS_FAULT`. -/
def mcMsgBmsFault : UInt32 := 0x202
/-- `MC_MSG_PLANT_SENSORS`. -/
def mcMsgPlantSensors : UInt32 := 0x500
/-- `MC_MSG_DIAG_REQUEST`. -/
def mcMsgDiagRequest : UInt32 := 0x600
/-- `MC_MSG_DIAG_RESPONSE`. -/
def mcMsgDiagResponse : UInt32 := 0x601

/-- Payload sizes, the `sizeof` of the packed message structs. -/
def mcHeartbeatMsgSize : UInt8 := 5
/-- `MC_VEHICLE_MODE_MSG_SIZE`. -/
def mcVehicleModeMsgSize : UInt8 := 2
/-- `MC_BMS_STATUS_MSG_SIZE`. -/
def mcBmsStatusMsgSize : UInt8 := 8
/-- `MC_BMS_LIMITS_MSG_SIZE`. -/
def mcBmsLimitsMsgSize : UInt8 := 2
/-- `MC_MOTOR_COMMAND_MSG_SIZE`. -/
def mcMotorCommandMsgSize : UInt8 := 2
/-- `MC_DIAG_REQUEST_MSG_SIZE`. -/
def mcDiagRequestMsgSize : UInt8 := 4
/-- `MC_DIAG_RESPONSE_MSG_SIZE`. -/
def mcDiagResponseMsgSize : UInt8 := 6

/-- A frame on the bus, `mc_can_frame_t`. -/
structure McCanFrame where
  /-- Message identifier; lower means higher priority. -/
  id : UInt32
  /-- Source node identifier. -/
  sender : UInt8
  /-- The payload buffer, eight bytes whatever the length. -/
  data : Vector UInt8 8
  /-- Number of payload bytes in use. -/
  len : UInt8
  deriving DecidableEq, Repr

/-- Identifiers set and payload cleared, `mc_frame_init`. -/
def mcFrameInit (msgId : UInt32) (sender len : UInt8) : McCanFrame :=
  { id := msgId, sender := sender, data := Vector.replicate 8 0, len := len }

/-- Payload bytes are indexed by literals, at the zero `Fin.instOfNat` asks for. -/
instance instNeZeroEight : @NeZero Nat Zero.ofOfNat0 8 := ⟨by decide⟩

/-- Store one payload byte. -/
def McCanFrame.put (f : McCanFrame) (i : Fin 8) (b : UInt8) : McCanFrame :=
  { f with data := f.data.set i b }

@[simp] theorem McCanFrame.id_put (f : McCanFrame) (i : Fin 8) (b : UInt8) :
    (f.put i b).id = f.id := rfl

@[simp] theorem McCanFrame.len_put (f : McCanFrame) (i : Fin 8) (b : UInt8) :
    (f.put i b).len = f.len := rfl

@[simp] theorem mcFrameInit_id (msgId : UInt32) (sender len : UInt8) :
    (mcFrameInit msgId sender len).id = msgId := rfl

@[simp] theorem mcFrameInit_len (msgId : UInt32) (sender len : UInt8) :
    (mcFrameInit msgId sender len).len = len := rfl

/-- A stored byte is read back at its index and nowhere else. -/
theorem McCanFrame.getElem_data_put (f : McCanFrame) (i : Fin 8) (b : UInt8) (j : Nat)
    (hj : j < 8) : (f.put i b).data[j] = if i.val = j then b else f.data[j] := by
  simp only [McCanFrame.put, Vector.getElem_set]

/-- A byte of a payload after another was put. -/
theorem McCanFrame.get_data_put (f : McCanFrame) (i j : Fin 8) (b : UInt8) :
    (f.put i b).data.get j = if i = j then b else f.data.get j := by
  simp only [Fin.ext_iff]
  exact f.getElem_data_put i b j j.isLt

/-- A heartbeat with its uptime big-endian, as every `send_heartbeat` builds it. -/
def heartbeatFrame (node : UInt8) (nowMs : UInt32) : McCanFrame :=
  mcFrameInit mcMsgHeartbeat node mcHeartbeatMsgSize
    |>.put 0 node
    |>.put 1 (nowMs >>> 24).toUInt8
    |>.put 2 (nowMs >>> 16).toUInt8
    |>.put 3 (nowMs >>> 8).toUInt8
    |>.put 4 nowMs.toUInt8

@[simp] theorem heartbeatFrame_id (node : UInt8) (nowMs : UInt32) :
    (heartbeatFrame node nowMs).id = mcMsgHeartbeat := rfl

/-- A frame as the receive loop of an ECU builds it from `sim_can_recv`. -/
structure RxFrame extends McCanFrame where
  /-- The loop copies the first payload byte into the sender field. -/
  sender_eq : sender = data.get 0
  /-- A zero length ends the receive loop instead of producing a frame. -/
  len_pos : 0 < len
  /-- The receive buffer holds `MC_MAX_PAYLOAD_SIZE` bytes. -/
  len_le : len ≤ 8
  deriving DecidableEq

/-- The frame received for an identifier, buffer content and length. -/
def RxFrame.ofBuffer (id : UInt32) (data : Vector UInt8 8) (len : UInt8) (hpos : 0 < len)
    (hle : len ≤ 8) : RxFrame :=
  { id := id, sender := data.get 0, data := data, len := len, sender_eq := rfl, len_pos := hpos,
    len_le := hle }

/-- A payload of one byte and up to seven more does not overflow its length. -/
theorem toNat_payloadLen (rest : List UInt8) :
    (UInt8.ofNat (min rest.length 7 + 1)).toNat = min rest.length 7 + 1 := by
  apply UInt8.toNat_ofNat_of_lt'
  simp only [UInt8.size]
  omega

/-- The length of a payload is positive. -/
theorem payloadLen_pos (rest : List UInt8) : 0 < UInt8.ofNat (min rest.length 7 + 1) := by
  rw [UInt8.lt_iff_toNat_lt, toNat_payloadLen]
  exact Nat.succ_pos _

/-- The length of a payload fits a frame. -/
theorem payloadLen_le (rest : List UInt8) : UInt8.ofNat (min rest.length 7 + 1) ≤ 8 := by
  rw [UInt8.le_iff_toNat_le, toNat_payloadLen]
  exact Nat.succ_le_succ (Nat.min_le_right _ 7)

/-- The frame received for a first byte and up to seven more into a cleared buffer. -/
def RxFrame.ofPayload (id : UInt32) (first : UInt8) (rest : List UInt8) : RxFrame :=
  .ofBuffer id (Vector.ofFn fun i => (first :: rest).getD i.val 0)
    (UInt8.ofNat (min rest.length 7 + 1)) (payloadLen_pos rest) (payloadLen_le rest)

/-- The payload bytes proper, without the stale rest of the buffer. -/
def McCanFrame.payload (f : McCanFrame) : List UInt8 := f.data.toList.take f.len.toNat

/-- A frame read in bounds gives the buffer byte. -/
theorem McCanFrame.payload_getD (f : McCanFrame) {i : Nat} (hi : i < 8) (hlen : i < f.len.toNat) :
    f.payload.getD i 0 = f.data[i] := by
  have hsize : i < f.payload.length := by
    simp only [McCanFrame.payload, List.length_take, Vector.length_toList]
    omega
  rw [List.getD_eq_getElem?_getD, List.getElem?_eq_getElem hsize]
  simp [McCanFrame.payload]

/-- One observable action of an ECU. -/
inductive Emission where
  /-- A trace word, `sim_trace_u32`. -/
  | trace (label : String) (value : UInt32)
  /-- A frame put on the bus, `sim_can_send`. -/
  | can (frame : McCanFrame)
  deriving DecidableEq, Repr

/-- The frame of a send, if the emission is one. -/
def Emission.frame? : Emission → Option McCanFrame
  | .trace _ _ => none
  | .can f => some f

/-- The frames of a log that carry a given message identifier, in sending order. -/
def framesOf (msgId : UInt32) (out : List Emission) : List McCanFrame :=
  (out.filterMap Emission.frame?).filter fun f => f.id == msgId

@[simp] theorem framesOf_nil (msgId : UInt32) : framesOf msgId [] = [] := rfl

@[simp] theorem framesOf_append (msgId : UInt32) (a b : List Emission) :
    framesOf msgId (a ++ b) = framesOf msgId a ++ framesOf msgId b := by
  simp [framesOf]

@[simp] theorem framesOf_trace (msgId : UInt32) (label : String) (value : UInt32) :
    framesOf msgId [.trace label value] = [] := rfl

@[simp] theorem framesOf_can_of_eq {msgId : UInt32} {f : McCanFrame} (h : f.id = msgId) :
    framesOf msgId [.can f] = [f] := by
  simp [framesOf, Emission.frame?, h]

@[simp] theorem framesOf_can_of_ne {msgId : UInt32} {f : McCanFrame} (h : f.id ≠ msgId) :
    framesOf msgId [.can f] = [] := by
  simp [framesOf, Emission.frame?, h]

/-- The frames of an identifier are the sends that carry it. -/
theorem mem_framesOf {msgId : UInt32} {out : List Emission} {f : McCanFrame} :
    f ∈ framesOf msgId out ↔ .can f ∈ out ∧ f.id = msgId := by
  rw [framesOf, List.mem_filter, List.mem_filterMap, beq_iff_eq]
  refine and_congr_left fun _ => ⟨?_, fun h => ⟨.can f, h, rfl⟩⟩
  rintro ⟨e, he, hframe⟩
  cases e with
  | trace label value => simp [Emission.frame?] at hframe
  | can g =>
    simp only [Emission.frame?, Option.some.injEq] at hframe
    exact hframe ▸ he

/-- A log without frames of an identifier. -/
theorem framesOf_eq_nil {msgId : UInt32} {out : List Emission}
    (h : ∀ e ∈ out, ∀ f, e = .can f → f.id ≠ msgId) : framesOf msgId out = [] := by
  rw [List.eq_nil_iff_forall_not_mem]
  intro f hf
  obtain ⟨hmem, hid⟩ := mem_framesOf.mp hf
  exact h _ hmem f rfl hid

/-- The value of a trace word with a given label, if the emission is one. -/
def Emission.value? (label : String) : Emission → Option UInt32
  | .trace label' value => if label' = label then some value else none
  | .can _ => none

/-- The words of a log under a label, in tracing order. -/
def wordsUnder (label : String) (out : List Emission) : List UInt32 :=
  out.filterMap (Emission.value? label)

@[simp] theorem wordsUnder_nil (label : String) : wordsUnder label [] = [] := rfl

@[simp] theorem wordsUnder_append (label : String) (a b : List Emission) :
    wordsUnder label (a ++ b) = wordsUnder label a ++ wordsUnder label b := List.filterMap_append

@[simp] theorem wordsUnder_can (label : String) (f : McCanFrame) :
    wordsUnder label [.can f] = [] := rfl

@[simp] theorem wordsUnder_trace_self (label : String) (value : UInt32) :
    wordsUnder label [.trace label value] = [value] := by
  simp [wordsUnder, Emission.value?]

/-- A trace word is not under another label. -/
theorem wordsUnder_trace_of_ne {label other : String} (h : other ≠ label) (value : UInt32) :
    wordsUnder label [.trace other value] = [] := by
  simp [wordsUnder, Emission.value?, h]

end Microcar
