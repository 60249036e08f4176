import Microcar.Core.Outcome
import Microcar.Core.StableSort
import Microcar.Validation.Ecu
import Mathlib.Data.List.Dedup

/-!
# Scenario validation

The checks of `validate.rs` over a loaded scenario, first error wins: known firmware, a gateway
beside every drivetrain ECU, no machine twice on a bus, a powertrain behind every throttle
request, and the rules for the frames that external actors inject. The frame rules walk the
injected frames in time order and remember whether a plug was seen and, for each OTA request,
its declared and its observed chunks.
-/

namespace Microcar.Validation

open Microcar.Core
open Microcar.Core.Outcome (refuse index increment Returns)

/-- A `[[machine]]` entry. -/
structure MachineDef where
  name : String
  firmware : Option String
  deriving DecidableEq, Repr

/-- A machine attached to a bus. -/
structure BusNodeDef where
  bus : String
  machine : String
  deriving DecidableEq, Repr

/-- A `[[bus]]` entry. -/
structure BusDef where
  node : List BusNodeDef
  deriving DecidableEq, Repr

/-- An `[[input]]` entry. -/
structure InputDef where
  atMs : Nat
  inputType : String
  throttlePercent : Option UInt8
  deriving DecidableEq, Repr

/-- A `[[bus_inject]]` entry. -/
structure BusInjectDef where
  atMs : Nat
  bus : String
  sender : String
  id : UInt32
  data : List UInt8
  deriving DecidableEq, Repr

/-- The parts of a scenario that validation reads. -/
structure Scenario where
  machine : List MachineDef
  bus : List BusDef
  input : List InputDef
  busInject : List BusInjectDef
  deriving DecidableEq, Repr

/-- What a validation error is about, `ValidationError::kind`. -/
inductive ErrorKind where
  | unknownFirmware
  | missingGateway
  | duplicateBusNode
  | driveWithoutPowertrain
  | actorHasFirmware
  | actorNotOnBus
  | badPayloadLength
  | badSourceNode
  | badEnumValue
  | zeroRequestId
  | handshakeBeforePlug
  | chunkBeforeRequest
  | otaChunkOrder
  | otaFinishMismatch
  deriving DecidableEq, Repr

/-- `ValidationError`. -/
structure ValidationError where
  kind : ErrorKind
  message : String
  deriving DecidableEq, Repr

/-- The result of a validation step. -/
abbrev Checked := Outcome ValidationError

/-- `resolve_ecu`. -/
def resolveEcu (firmware : Option String) (name : String) : Option EcuCategory :=
  resolveEcuCategory firmware name

/-- The category names as the error lists them: each once, in alphabetical order. -/
def knownCategories : String :=
  ", ".intercalate ((ecuCategoryPatterns.map fun entry => entry.2.name).dedup.insertionSort (· ≤ ·))

/-- Check 1 on one machine: its firmware resolves to an ECU. -/
def checkKnownFirmware (m : MachineDef) : Checked PUnit :=
  match m.firmware with
  | some fw =>
    refuse (resolveEcu (some fw) m.name = none) ⟨.unknownFirmware,
      s!"machine '{m.name}' firmware '{fw}' does not name a known ECU (expected one of: " ++
        knownCategories ++ ")"⟩
  | none => .ok ⟨⟩

/-- The scan of check 2: is there a gateway, and which drivetrain ECU comes first. -/
def scanDrivetrain (found : Bool × Option String) (m : MachineDef) : Bool × Option String :=
  match resolveEcu m.firmware m.name with
  | some .gateway => (true, found.2)
  | some category =>
    if category ∈ [EcuCategory.powertrain, .bms, .dashboard] ∧ found.2 = none then
      (found.1, some s!"{category.name} ('{m.name}')")
    else found
  | none => found

/-- Check 2: a drivetrain ECU has a gateway beside it. -/
def checkGateway (scenario : Scenario) : Checked PUnit :=
  match scenario.machine.foldl scanDrivetrain (false, none) with
  | (false, some dt) => .err ⟨.missingGateway,
      s!"scenario has a {dt} ECU but no gateway ECU " ++
        "(the gateway is the vehicle-mode authority and bus bridge)"⟩
  | _ => .ok ⟨⟩

/-- Check 3 on one node: the pair of bus and machine is new. -/
def checkBusNode (seen : List (String × String)) (n : BusNodeDef) :
    Checked (List (String × String)) := do
  refuse ((n.bus, n.machine) ∈ seen) ⟨.duplicateBusNode,
    s!"machine '{n.machine}' is attached to bus '{n.bus}' more than once"⟩
  pure ((n.bus, n.machine) :: seen)

/-- All attached nodes, in the order of the scenario. -/
def busNodes (scenario : Scenario) : List BusNodeDef := scenario.bus.flatMap BusDef.node

/-- Check 4 on one input, for a scenario without a powertrain. -/
def checkThrottle (inp : InputDef) : Checked PUnit :=
  let throttle := inp.throttlePercent.getD 0
  refuse (inp.inputType = "driver_input" ∧ 0 < throttle) ⟨.driveWithoutPowertrain,
    s!"driver_input at {inp.atMs} ms requests throttle {throttle}% but the scenario " ++
      "has no powertrain ECU to command torque"⟩

/-- Check 4: throttle is requested only where a powertrain can command torque. -/
def checkPowertrain (scenario : Scenario) : Checked PUnit :=
  if scenario.machine.any fun m => resolveEcu m.firmware m.name = some .powertrain then .ok ⟨⟩
  else scenario.input.forM checkThrottle

/-! ## Frames of external actors -/

/-- `MSG_EVSE_EVENT`. -/
def msgEvseEvent : UInt32 := 0x610

/-- `MSG_OTA_REQUEST`. -/
def msgOtaRequest : UInt32 := 0x630

/-- `MSG_OTA_CHUNK`. -/
def msgOtaChunk : UInt32 := 0x631

/-- `MSG_OTA_FINISH`. -/
def msgOtaFinish : UInt32 := 0x632

/-- `NODE_EVSE`. -/
def nodeEvse : UInt8 := 6

/-- `NODE_OTA_TOOL`. -/
def nodeOtaTool : UInt8 := 7

/-- A CAN id as the messages print it, `{:#05x}`. -/
def hexId (id : UInt32) : String :=
  "0x" ++ String.ofList ((Nat.toDigits 16 id.toNat).leftpad 3 '0')

/-- An optional byte as the messages print it, `{:?}`. -/
def debugByte : Option UInt8 → String
  | some b => s!"Some({b})"
  | none => "None"

/-- The machine of this name runs an ECU firmware. -/
def isEcu (scenario : Scenario) (name : String) : Bool :=
  match scenario.machine.find? fun m => m.name = name with
  | some m => (resolveEcu m.firmware m.name).isSome
  | none => false

/-- The machine is attached to the bus; an unknown bus has no members. -/
def isBusMember (scenario : Scenario) (bus machine : String) : Bool :=
  (busNodes scenario).any fun n => n.bus = bus ∧ n.machine = machine

/-- The frames the rules are about, in stable time order. -/
def externalActorFrames (scenario : Scenario) : List BusInjectDef :=
  sortByKey BusInjectDef.atMs (scenario.busInject.filter fun bi =>
    bi.id ∈ [msgEvseEvent, msgOtaRequest, msgOtaChunk, msgOtaFinish])

/-- What the rules remember of the frames so far. -/
structure FrameState where
  plugged : Bool
  otaTotals : UInt8 → Option UInt8
  otaSeen : UInt8 → Option UInt8

/-- No frame was seen. -/
def FrameState.init : FrameState := ⟨false, fun _ => none, fun _ => none⟩

/-- The rules on the sender of a frame. -/
def checkActor (scenario : Scenario) (bi : BusInjectDef) : Checked PUnit := do
  refuse (isEcu scenario bi.sender = true) ⟨.actorHasFirmware,
    s!"actor '{bi.sender}' sends {hexId bi.id} but resolves to a firmware ECU"⟩
  refuse (isBusMember scenario bi.bus bi.sender = false) ⟨.actorNotOnBus,
    s!"actor '{bi.sender}' is not attached to bus '{bi.bus}'"⟩

/-- The node id reserved for the senders of a frame. -/
def reservedNode (id : UInt32) : UInt8 := if id = msgEvseEvent then nodeEvse else nodeOtaTool

/-- The payload length of a frame. The last arm is `unreachable!`. -/
def wantLen (id : UInt32) : Checked Nat :=
  if id = msgEvseEvent then .ok 6
  else if id = msgOtaRequest then .ok 4
  else if id = msgOtaChunk then .ok 8
  else if id = msgOtaFinish then .ok 7
  else .panic

/-- The rules on the length and the first byte of a payload. -/
def checkPayload (bi : BusInjectDef) : Checked PUnit := do
  let want ← wantLen bi.id
  refuse (bi.data.length ≠ want) ⟨.badPayloadLength,
    s!"{hexId bi.id} payload is {bi.data.length} bytes, expected {want}"⟩
  let source ← index bi.data 0
  refuse (source ≠ reservedNode bi.id) ⟨.badSourceNode,
    s!"{hexId bi.id} payload byte 0 is {source}, expected reserved node {reservedNode bi.id}"⟩

/-- The rule on the request id of a frame. -/
def checkRequestId (frame : String) (requestId : UInt8) : Checked PUnit :=
  refuse (requestId = 0) ⟨.zeroRequestId, s!"{frame} request_id must be nonzero"⟩

/-- The rules for `EVSE_EVENT`. -/
def checkEvseEvent (st : FrameState) (data : List UInt8) : Checked FrameState := do
  let event ← index data 1
  refuse (3 < event) ⟨.badEnumValue, s!"EVSE_EVENT event {event} out of range 0..3"⟩
  let requestId ← index data 2
  checkRequestId "EVSE_EVENT" requestId
  if event = 1 then pure { st with plugged := true }
  else do
    refuse (event = 2 ∧ st.plugged = false) ⟨.handshakeBeforePlug,
      "HANDSHAKE_OK before any PLUG event"⟩
    pure st

/-- The rules for `OTA_REQUEST`. A count of observed chunks that is there already is kept. -/
def checkOtaRequest (st : FrameState) (data : List UInt8) : Checked FrameState := do
  let requestId ← index data 1
  checkRequestId "OTA_REQUEST" requestId
  let total ← index data 3
  pure { st with
    otaTotals := Function.update st.otaTotals requestId (some total)
    otaSeen := Function.update st.otaSeen requestId (some ((st.otaSeen requestId).getD 0)) }

/-- The rules for `OTA_CHUNK`. -/
def checkOtaChunk (st : FrameState) (data : List UInt8) : Checked FrameState := do
  let requestId ← index data 1
  checkRequestId "OTA_CHUNK" requestId
  let chunkIndex ← index data 2
  match st.otaTotals requestId with
  | none => .err ⟨.chunkBeforeRequest,
      s!"OTA_CHUNK for request {requestId} before its OTA_REQUEST"⟩
  | some total => do
    let seen := (st.otaSeen requestId).getD 0
    refuse (chunkIndex ≠ seen) ⟨.otaChunkOrder,
      s!"OTA_CHUNK index {chunkIndex} for request {requestId}, expected {seen}"⟩
    refuse (total ≤ chunkIndex) ⟨.otaChunkOrder,
      s!"OTA_CHUNK index {chunkIndex} >= total_chunks {total}"⟩
    let next ← increment seen
    pure { st with otaSeen := Function.update st.otaSeen requestId (some next) }

/-- The rules for `OTA_FINISH`. -/
def checkOtaFinish (st : FrameState) (data : List UInt8) : Checked FrameState := do
  let requestId ← index data 1
  checkRequestId "OTA_FINISH" requestId
  let finishTotal ← index data 2
  let declared := st.otaTotals requestId
  let observed := (st.otaSeen requestId).getD 0
  refuse (declared ≠ some finishTotal ∨ observed ≠ finishTotal) ⟨.otaFinishMismatch,
    s!"OTA_FINISH total {finishTotal} != declared {debugByte declared} / observed {observed}"⟩
  pure st

/-- One iteration of the frame loop. -/
def checkFrame (scenario : Scenario) (st : FrameState) (bi : BusInjectDef) :
    Checked FrameState := do
  checkActor scenario bi
  checkPayload bi
  if bi.id = msgEvseEvent then checkEvseEvent st bi.data
  else if bi.id = msgOtaRequest then checkOtaRequest st bi.data
  else if bi.id = msgOtaChunk then checkOtaChunk st bi.data
  else if bi.id = msgOtaFinish then checkOtaFinish st bi.data
  else pure st

/-- `validate_external_actor_frames`. -/
def validateExternalActorFrames (scenario : Scenario) : Checked PUnit := do
  let _ ← (externalActorFrames scenario).foldlM (checkFrame scenario) FrameState.init
  pure ⟨⟩

/-- `validate_scenario`. -/
def validateScenario (scenario : Scenario) : Checked PUnit := do
  scenario.machine.forM checkKnownFirmware
  checkGateway scenario
  let _ ← (busNodes scenario).foldlM checkBusNode []
  checkPowertrain scenario
  validateExternalActorFrames scenario

/-! ## Validation always returns -/

/-- The check of a firmware returns. -/
theorem returns_checkKnownFirmware (m : MachineDef) :
    Returns (fun _ => True) (checkKnownFirmware m) := by
  unfold checkKnownFirmware
  cases m.firmware with
  | some fw => exact (Returns.refuse _).total
  | none => trivial

/-- The check for a gateway returns. -/
theorem returns_checkGateway (scenario : Scenario) :
    Returns (fun _ => True) (checkGateway scenario) := by
  unfold checkGateway
  split
  · trivial
  · trivial

/-- The check of a bus node returns. -/
theorem returns_checkBusNode (seen : List (String × String)) (n : BusNodeDef) :
    Returns (fun _ => True) (checkBusNode seen n) :=
  (Returns.refuse _).bind fun _ _ => trivial

/-- The check for a powertrain returns. -/
theorem returns_checkPowertrain (scenario : Scenario) :
    Returns (fun _ => True) (checkPowertrain scenario) := by
  unfold checkPowertrain
  split
  · trivial
  · exact Returns.forM fun inp _ => (Returns.refuse _).total

/-- The check of a sender returns. -/
theorem returns_checkActor (scenario : Scenario) (bi : BusInjectDef) :
    Returns (fun _ => True) (checkActor scenario bi) :=
  (Returns.refuse _).bind fun _ _ => (Returns.refuse _).total

/-- Behind the payload rules the payload has the length its id asks for. -/
theorem returns_checkPayload {bi : BusInjectDef} (want : Nat) (hpos : 0 < want)
    (hwant : wantLen bi.id = .ok want) :
    Returns (fun _ => bi.data.length = want) (checkPayload bi) := by
  unfold checkPayload
  rw [hwant]
  refine (Returns.refuse _).bind fun _ hlength => ?_
  have hlen : bi.data.length = want := not_not.mp hlength
  refine (Returns.index (hlen ▸ hpos)).bind fun source _ => ?_
  exact (Returns.refuse _).mono fun _ _ => hlen

/-- The check of a charger event returns: the payload has the bytes that it reads. -/
theorem returns_checkEvseEvent (st : FrameState) {data : List UInt8} (hlen : data.length = 6) :
    Returns (fun _ => True) (checkEvseEvent st data) := by
  refine (Returns.index (by omega)).bind fun event _ => ?_
  refine (Returns.refuse _).bind fun _ _ => ?_
  refine (Returns.index (by omega)).bind fun requestId _ => ?_
  refine (Returns.refuse _).bind fun _ _ => ?_
  split
  · trivial
  · exact (Returns.refuse _).bind fun _ _ => trivial

/-- The check of an update request returns. -/
theorem returns_checkOtaRequest (st : FrameState) {data : List UInt8} (hlen : data.length = 4) :
    Returns (fun _ => True) (checkOtaRequest st data) := by
  refine (Returns.index (by omega)).bind fun requestId _ => ?_
  refine (Returns.refuse _).bind fun _ _ => ?_
  exact (Returns.index (by omega)).bind fun total _ => trivial

/-- The chunk counter is below a declared total when it is incremented, and a total is a byte. -/
theorem returns_checkOtaChunk (st : FrameState) {data : List UInt8} (hlen : data.length = 8) :
    Returns (fun _ => True) (checkOtaChunk st data) := by
  refine (Returns.index (by omega)).bind fun requestId _ => ?_
  refine (Returns.refuse _).bind fun _ _ => ?_
  refine (Returns.index (by omega)).bind fun chunkIndex _ => ?_
  cases st.otaTotals requestId with
  | none => trivial
  | some total =>
    refine (Returns.refuse _).bind fun _ hindex => ?_
    refine (Returns.refuse _).bind fun _ htotal => ?_
    have hseen : (st.otaSeen requestId).getD 0 ≠ 255 := by
      intro h255
      have hchunk : chunkIndex = 255 := (not_not.mp hindex).trans h255
      rw [hchunk] at htotal
      exact htotal (UInt8.le_iff_toNat_le.mpr (Nat.le_of_lt_succ total.toNat_lt))
    exact (Returns.increment hseen).bind fun next _ => trivial

/-- The check of the end of an update returns. -/
theorem returns_checkOtaFinish (st : FrameState) {data : List UInt8} (hlen : data.length = 7) :
    Returns (fun _ => True) (checkOtaFinish st data) := by
  refine (Returns.index (by omega)).bind fun requestId _ => ?_
  refine (Returns.refuse _).bind fun _ _ => ?_
  refine (Returns.index (by omega)).bind fun finishTotal _ => ?_
  exact (Returns.refuse _).bind fun _ _ => trivial

/-- The frame rules are about four ids. -/
theorem mem_externalActorFrames {scenario : Scenario} {bi : BusInjectDef}
    (h : bi ∈ externalActorFrames scenario) :
    bi.id = msgEvseEvent ∨ bi.id = msgOtaRequest ∨ bi.id = msgOtaChunk ∨ bi.id = msgOtaFinish := by
  have hmem := (perm_sortByKey _ _).mem_iff.mp h
  simpa using (List.mem_filter.mp hmem).2

/-- No frame of the four ids stops the loop. -/
theorem returns_checkFrame {scenario : Scenario} (st : FrameState) {bi : BusInjectDef}
    (hbi : bi ∈ externalActorFrames scenario) :
    Returns (fun _ => True) (checkFrame scenario st bi) := by
  refine (returns_checkActor scenario bi).bind fun _ _ => ?_
  rcases mem_externalActorFrames hbi with hid | hid | hid | hid
  · refine (returns_checkPayload 6 (by decide) (by rw [hid]; rfl)).bind fun _ hlen => ?_
    rw [if_pos hid]
    exact returns_checkEvseEvent st hlen
  · refine (returns_checkPayload 4 (by decide) (by rw [hid]; rfl)).bind fun _ hlen => ?_
    rw [hid, if_neg (by decide), if_pos rfl]
    exact returns_checkOtaRequest st hlen
  · refine (returns_checkPayload 8 (by decide) (by rw [hid]; rfl)).bind fun _ hlen => ?_
    rw [hid, if_neg (by decide), if_neg (by decide), if_pos rfl]
    exact returns_checkOtaChunk st hlen
  · refine (returns_checkPayload 7 (by decide) (by rw [hid]; rfl)).bind fun _ hlen => ?_
    rw [hid, if_neg (by decide), if_neg (by decide), if_neg (by decide), if_pos rfl]
    exact returns_checkOtaFinish st hlen

/-- The pass over all the actor frames returns. -/
theorem returns_validateExternalActorFrames (scenario : Scenario) :
    Returns (fun _ => True) (validateExternalActorFrames scenario) := by
  refine Returns.bind (P := fun _ => True) ?_ fun _ _ => trivial
  exact Returns.foldlM (fun st bi hbi => returns_checkFrame st hbi) _

/-- Validation accepts or rejects every scenario; none stops the program. -/
theorem validateScenario_returns (scenario : Scenario) :
    validateScenario scenario = .ok ⟨⟩ ∨ ∃ e, validateScenario scenario = .err e := by
  have hreturns : Returns (fun _ => True) (validateScenario scenario) := by
    refine (Returns.forM fun m _ => returns_checkKnownFirmware m).bind fun _ _ => ?_
    refine (returns_checkGateway scenario).bind fun _ _ => ?_
    refine (Returns.foldlM (fun seen n _ => returns_checkBusNode seen n) []).bind fun _ _ => ?_
    refine (returns_checkPowertrain scenario).bind fun _ _ => ?_
    exact returns_validateExternalActorFrames scenario
  cases hend : validateScenario scenario with
  | ok u => exact .inl rfl
  | err e => exact .inr ⟨e, rfl⟩
  | panic => exact absurd hend hreturns.ne_panic

end Microcar.Validation
