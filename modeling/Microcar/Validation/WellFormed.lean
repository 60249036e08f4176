import Microcar.Validation.EvseGrammar
import Microcar.Validation.OtaGrammar

/-!
# Well-formed scenarios

`validate_scenario` stops at the first rule that a scenario breaks. The rules without an order
and without a state say what a well-formed scenario is: conditions on its machines, buses and
inputs, on every frame of an external actor, and on every frame behind those before it. The
validator accepts the well-formed scenarios and no others.
-/

namespace Microcar.Validation

open Microcar.Core
open Microcar.Core.Outcome (refuse bind_eq_ok refuse_eq_ok index_eq_ok increment_eq_ok forM_eq_ok
  exists_foldlM_eq_ok_iff)
open Microcar.Charging (McEvseEvent)

/-- The category of a machine. -/
def MachineDef.category (m : MachineDef) : Option EcuCategory := resolveEcu m.firmware m.name

/-- The machine is a drivetrain ECU. -/
def MachineDef.InDrivetrain (m : MachineDef) : Prop :=
  m.category = some .powertrain ∨ m.category = some .bms ∨ m.category = some .dashboard

/-- The ids of the frames that only external actors send. -/
def actorIds : List UInt32 := [msgEvseEvent, msgOtaRequest, msgOtaChunk, msgOtaFinish]

/-- The byte of a payload that holds the request id. -/
def requestIdByte (id : UInt32) : Nat := if id = msgEvseEvent then 2 else 1

/-- A frame of an external actor, taken alone. -/
@[mk_iff]
structure ActorFrameWellFormed (scenario : Scenario) (bi : BusInjectDef) : Prop where
  /-- The sender runs no firmware. -/
  actor : isEcu scenario bi.sender = false
  /-- The sender is attached to the bus. -/
  attached : ⟨bi.bus, bi.sender⟩ ∈ busNodes scenario
  /-- The payload is as long as its id asks for. -/
  length : wantLen bi.id = .ok bi.data.length
  /-- The first byte is the node reserved for the actor. -/
  source : bi.data[0]? = some (reservedNode bi.id)
  /-- The event of a charging station is one of the four. -/
  event : bi.id = msgEvseEvent → ∃ event, bi.data[1]? = some event ∧ event ≤ 3
  /-- The request id is not zero. -/
  requestId : ∃ requestId, bi.data[requestIdByte bi.id]? = some requestId ∧ requestId ≠ 0

/-- A frame of an external actor behind the frames before it. -/
structure ActorFrameInOrder (before : List ActorFrame) (f : ActorFrame) : Prop where
  /-- A chunk or a finish continues the campaign of its request id. -/
  campaign : OtaGuard before f
  /-- A handshake has a plug somewhere before it. -/
  plugged : f = .evse .handshakeOk → .plug ∈ evseEvents before

/-- A scenario that keeps all rules. -/
structure WellFormed (scenario : Scenario) : Prop where
  /-- A firmware names a known ECU. -/
  known : ∀ m ∈ scenario.machine, m.firmware ≠ none → m.category ≠ none
  /-- A drivetrain ECU has a gateway beside it. -/
  gateway : (∃ m ∈ scenario.machine, m.InDrivetrain) →
    ∃ m ∈ scenario.machine, m.category = some .gateway
  /-- No machine is attached to a bus twice. -/
  attached : (busNodes scenario).Nodup
  /-- Throttle is requested only where a powertrain can command torque. -/
  driven : (∃ inp ∈ scenario.input, inp.inputType = "driver_input" ∧
    ∃ throttle, inp.throttlePercent = some throttle ∧ 0 < throttle) →
      ∃ m ∈ scenario.machine, m.category = some .powertrain
  /-- Every frame of an external actor is well formed. -/
  frames : ∀ bi ∈ scenario.busInject, bi.id ∈ actorIds → ActorFrameWellFormed scenario bi
  /-- In time order every frame follows from those before it. -/
  order : ∀ before f after, actorFrames scenario = before ++ f :: after →
    ActorFrameInOrder before f

/-! ## Machines, buses and inputs -/

/-- A machine with a firmware must have a category, i.e. a known firmware. -/
theorem checkKnownFirmware_eq_ok_iff {m : MachineDef} :
    checkKnownFirmware m = .ok ⟨⟩ ↔ (m.firmware ≠ none → m.category ≠ none) := by
  unfold checkKnownFirmware MachineDef.category
  cases m.firmware with
  | some fw => simp [refuse_eq_ok]
  | none => simp

section Drivetrain

variable {machines : List MachineDef} {found : Bool × Option String}

/-- The scan finds a gateway where there is one. -/
theorem foldl_scanDrivetrain_fst :
    (machines.foldl scanDrivetrain found).1 = true ↔
      found.1 = true ∨ ∃ m ∈ machines, m.category = some .gateway := by
  induction machines generalizing found with
  | nil => simp
  | cons m machines ih =>
    have hstep : (scanDrivetrain found m).1 = true ↔
        found.1 = true ∨ m.category = some .gateway := by
      unfold scanDrivetrain MachineDef.category
      rcases resolveEcu m.firmware m.name with _ | category
      · simp
      · cases category with
        | gateway => simp
        | powertrain | bms | dashboard =>
          dsimp only
          split_ifs <;> simp
        | _ => simp
    rw [List.foldl_cons, ih, hstep, List.exists_mem_cons_iff, or_assoc]

/-- The scan finds a drivetrain ECU where there is one. -/
theorem foldl_scanDrivetrain_snd :
    (machines.foldl scanDrivetrain found).2 ≠ none ↔
      found.2 ≠ none ∨ ∃ m ∈ machines, m.InDrivetrain := by
  induction machines generalizing found with
  | nil => simp
  | cons m machines ih =>
    have hstep : (scanDrivetrain found m).2 ≠ none ↔ found.2 ≠ none ∨ m.InDrivetrain := by
      unfold scanDrivetrain MachineDef.InDrivetrain MachineDef.category
      rcases resolveEcu m.firmware m.name with _ | category
      · simp
      · cases category with
        | powertrain | bms | dashboard =>
          dsimp only
          split_ifs with hnone
          · simp
          · simpa using hnone
        | _ => simp
    rw [List.foldl_cons, ih, hstep, List.exists_mem_cons_iff, or_assoc]

end Drivetrain

/-- Where an ECU is in the drivetrain there must be a gateway. -/
theorem checkGateway_eq_ok_iff {scenario : Scenario} :
    checkGateway scenario = .ok ⟨⟩ ↔
      ((∃ m ∈ scenario.machine, m.InDrivetrain) →
        ∃ m ∈ scenario.machine, m.category = some .gateway) := by
  have hgateway : (scenario.machine.foldl scanDrivetrain (false, none)).1 = true ↔ _ :=
    foldl_scanDrivetrain_fst
  have hdrivetrain : (scenario.machine.foldl scanDrivetrain (false, none)).2 ≠ none ↔ _ :=
    foldl_scanDrivetrain_snd
  simp only [Bool.false_eq_true, false_or, ne_eq, not_true_eq_false] at hgateway hdrivetrain
  rw [← hgateway, ← hdrivetrain, checkGateway]
  rcases scenario.machine.foldl scanDrivetrain (false, none) with ⟨_ | _, _ | dt⟩
  · simp
  · simp
  · simp
  · simp

/-- The pair of a bus and a machine, as the validator remembers it. -/
def BusNodeDef.pair (n : BusNodeDef) : String × String := (n.bus, n.machine)

/-- A bus node is its pair. -/
theorem BusNodeDef.pair_injective : Function.Injective BusNodeDef.pair := by
  rintro ⟨bus, machine⟩ ⟨bus', machine'⟩ h
  obtain ⟨rfl, rfl⟩ := Prod.mk.inj h
  rfl

/-- A bus node must not have been seen before. -/
theorem checkBusNode_eq_ok_iff {seen seen' : List (String × String)} {n : BusNodeDef} :
    checkBusNode seen n = .ok seen' ↔ n.pair ∉ seen ∧ seen' = n.pair :: seen := by
  unfold checkBusNode
  rw [bind_eq_ok]
  constructor
  · rintro ⟨_, hnew, h⟩
    exact ⟨refuse_eq_ok.mp hnew, (Outcome.ok.inj h).symm⟩
  · rintro ⟨hnew, rfl⟩
    exact ⟨⟨⟩, refuse_eq_ok.mpr hnew, rfl⟩

/-- The walk over the nodes ends when none comes a second time. -/
theorem exists_foldlM_checkBusNode_iff {nodes : List BusNodeDef} {seen : List (String × String)} :
    (∃ seen', nodes.foldlM checkBusNode seen = .ok seen') ↔
      nodes.Nodup ∧ ∀ n ∈ nodes, n.pair ∉ seen := by
  induction nodes generalizing seen with
  | nil => exact iff_of_true ⟨seen, rfl⟩ ⟨List.nodup_nil, by simp⟩
  | cons n nodes ih =>
    have hstep : (∃ seen', (n :: nodes).foldlM checkBusNode seen = .ok seen') ↔
        n.pair ∉ seen ∧ ∃ seen', nodes.foldlM checkBusNode (n.pair :: seen) = .ok seen' := by
      simp only [List.foldlM_cons, bind_eq_ok, checkBusNode_eq_ok_iff]
      constructor
      · rintro ⟨seen', _, ⟨hnew, rfl⟩, hrest⟩
        exact ⟨hnew, seen', hrest⟩
      · rintro ⟨hnew, seen', hrest⟩
        exact ⟨seen', _, ⟨hnew, rfl⟩, hrest⟩
    have hfresh : (∀ m ∈ nodes, m.pair ∉ n.pair :: seen) ↔
        n ∉ nodes ∧ ∀ m ∈ nodes, m.pair ∉ seen := by
      simp only [List.mem_cons, not_or, forall_and, BusNodeDef.pair_injective.eq_iff]
      refine and_congr_left fun _ => ⟨fun h hn => h n hn rfl, ?_⟩
      rintro h m hm rfl
      exact h hm
    rw [hstep, ih, hfresh, List.nodup_cons, List.forall_mem_cons]
    tauto

/-- The throttle check refuses a driver input with a positive throttle. -/
theorem checkThrottle_eq_ok_iff {inp : InputDef} :
    checkThrottle inp = .ok ⟨⟩ ↔ ¬ (inp.inputType = "driver_input" ∧
      ∃ throttle, inp.throttlePercent = some throttle ∧ 0 < throttle) := by
  unfold checkThrottle
  rw [refuse_eq_ok]
  cases inp.throttlePercent with
  | none => simp
  | some throttle => simp

/-- Where the driver gives throttle there must be a powertrain. -/
theorem checkPowertrain_eq_ok_iff {scenario : Scenario} :
    checkPowertrain scenario = .ok ⟨⟩ ↔
      ((∃ inp ∈ scenario.input, inp.inputType = "driver_input" ∧
        ∃ throttle, inp.throttlePercent = some throttle ∧ 0 < throttle) →
          ∃ m ∈ scenario.machine, m.category = some .powertrain) := by
  have hany : (scenario.machine.any fun m => resolveEcu m.firmware m.name = some .powertrain) =
      true ↔ ∃ m ∈ scenario.machine, m.category = some .powertrain := by
    simp [MachineDef.category]
  unfold checkPowertrain
  split_ifs with hpowertrain
  · exact iff_of_true rfl fun _ => hany.mp hpowertrain
  · rw [forM_eq_ok]
    simp only [checkThrottle_eq_ok_iff]
    constructor
    · rintro h ⟨inp, hinp, hthrottle⟩
      exact absurd hthrottle (h inp hinp)
    · intro h inp hinp hthrottle
      exact hpowertrain (hany.mpr (h ⟨inp, hinp, hthrottle⟩))

/-! ## One frame -/

section Payloads

variable {st st' : FrameState} {data : List UInt8}

/-- A charger event is one of four, with a request that is not zero, and fits the trail. -/
theorem checkEvseEvent_eq_ok_iff :
    checkEvseEvent st data = .ok st' ↔ ∃ event requestId,
      (data[1]? = some event ∧ event ≤ 3) ∧ (data[2]? = some requestId ∧ requestId ≠ 0) ∧
        st.accept (.evse (.ofByte event)) = some st' := by
  constructor
  · intro h
    obtain ⟨event, hevent, hstep⟩ := accept_of_checkEvseEvent h
    obtain ⟨event', hevent', h⟩ := bind_eq_ok.mp h
    obtain ⟨_, hrange, h⟩ := bind_eq_ok.mp h
    obtain ⟨requestId, hid, h⟩ := bind_eq_ok.mp h
    obtain ⟨_, hzero, -⟩ := bind_eq_ok.mp h
    obtain rfl : event = event' := Option.some.inj (hevent.symm.trans (index_eq_ok.mp hevent'))
    exact ⟨event, requestId, ⟨hevent, UInt8.not_lt.mp (refuse_eq_ok.mp hrange)⟩,
      ⟨index_eq_ok.mp hid, refuse_eq_ok.mp hzero⟩, hstep⟩
  · rintro ⟨event, requestId, ⟨hevent, hrange⟩, ⟨hid, hzero⟩, hstep⟩
    refine bind_eq_ok.mpr ⟨event, index_eq_ok.mpr hevent, ?_⟩
    refine bind_eq_ok.mpr ⟨⟨⟩, refuse_eq_ok.mpr (UInt8.not_lt.mpr hrange), ?_⟩
    refine bind_eq_ok.mpr ⟨requestId, index_eq_ok.mpr hid, ?_⟩
    refine bind_eq_ok.mpr ⟨⟨⟩, refuse_eq_ok.mpr hzero, ?_⟩
    rw [McEvseEvent.ofByte, dif_neg (UInt8.not_lt.mpr hrange)] at hstep
    by_cases hunplug : event = 0
    · subst hunplug
      exact congrArg Outcome.ok (Option.some.inj hstep)
    · rw [if_neg hunplug] at hstep
      by_cases hplug : event = 1
      · rw [if_pos hplug] at hstep ⊢
        exact congrArg Outcome.ok (Option.some.inj hstep)
      · rw [if_neg hplug] at hstep ⊢
        by_cases hshake : event = 2
        · rw [if_pos hshake] at hstep
          obtain ⟨hin, rfl⟩ := accept_handshakeOk.mp hstep
          refine bind_eq_ok.mpr ⟨⟨⟩, refuse_eq_ok.mpr ?_, rfl⟩
          simp [hin]
        · rw [if_neg hshake] at hstep
          obtain rfl := Option.some.inj hstep
          exact bind_eq_ok.mpr ⟨⟨⟩, refuse_eq_ok.mpr fun h => hshake h.1, rfl⟩

/-- An update request names a request that is not zero, and fits the trail. -/
theorem checkOtaRequest_eq_ok_iff :
    checkOtaRequest st data = .ok st' ↔ ∃ requestId total,
      (data[1]? = some requestId ∧ requestId ≠ 0) ∧ data[3]? = some total ∧
        st.accept (.otaRequest requestId total) = some st' := by
  constructor
  · intro h
    obtain ⟨requestId, hid, h⟩ := bind_eq_ok.mp h
    obtain ⟨_, hzero, h⟩ := bind_eq_ok.mp h
    obtain ⟨total, htotal, h⟩ := bind_eq_ok.mp h
    exact ⟨requestId, total, ⟨index_eq_ok.mp hid, refuse_eq_ok.mp hzero⟩,
      index_eq_ok.mp htotal, congrArg some (Outcome.ok.inj h)⟩
  · rintro ⟨requestId, total, ⟨hid, hzero⟩, htotal, hstep⟩
    refine bind_eq_ok.mpr ⟨requestId, index_eq_ok.mpr hid, ?_⟩
    refine bind_eq_ok.mpr ⟨⟨⟩, refuse_eq_ok.mpr hzero, ?_⟩
    refine bind_eq_ok.mpr ⟨total, index_eq_ok.mpr htotal, ?_⟩
    exact congrArg Outcome.ok (Option.some.inj hstep)

/-- A chunk names its request and its number, and fits the trail. -/
theorem checkOtaChunk_eq_ok_iff :
    checkOtaChunk st data = .ok st' ↔ ∃ requestId chunkIndex,
      (data[1]? = some requestId ∧ requestId ≠ 0) ∧ data[2]? = some chunkIndex ∧
        st.accept (.otaChunk requestId chunkIndex) = some st' := by
  constructor
  · intro h
    obtain ⟨requestId, chunkIndex, hid, hindex, hstep⟩ := accept_of_checkOtaChunk h
    obtain ⟨requestId', hid', h⟩ := bind_eq_ok.mp h
    obtain ⟨_, hzero, -⟩ := bind_eq_ok.mp h
    obtain rfl : requestId = requestId' := Option.some.inj (hid.symm.trans (index_eq_ok.mp hid'))
    exact ⟨requestId, chunkIndex, ⟨hid, refuse_eq_ok.mp hzero⟩, hindex, hstep⟩
  · rintro ⟨requestId, chunkIndex, ⟨hid, hzero⟩, hindex, hstep⟩
    obtain ⟨total, htotals, ⟨hseen, hbelow⟩, hstate⟩ := accept_otaChunk.mp hstep
    refine bind_eq_ok.mpr ⟨requestId, index_eq_ok.mpr hid, ?_⟩
    refine bind_eq_ok.mpr ⟨⟨⟩, refuse_eq_ok.mpr hzero, ?_⟩
    refine bind_eq_ok.mpr ⟨chunkIndex, index_eq_ok.mpr hindex, ?_⟩
    rw [htotals]
    refine bind_eq_ok.mpr ⟨⟨⟩, refuse_eq_ok.mpr (not_not.mpr hseen), ?_⟩
    refine bind_eq_ok.mpr ⟨⟨⟩, refuse_eq_ok.mpr (UInt8.not_le.mpr hbelow), ?_⟩
    -- an index below a total is not the last byte
    have hroom : st.observed requestId ≠ 255 := by
      intro h255
      rw [hseen, h255] at hbelow
      exact UInt8.not_lt.mpr (UInt8.le_iff_toNat_le.mpr (Nat.le_of_lt_succ total.toNat_lt)) hbelow
    exact bind_eq_ok.mpr ⟨_, increment_eq_ok.mpr ⟨hroom, rfl⟩, congrArg Outcome.ok hstate⟩

/-- The end of an update names its request and the number of chunks, and fits the trail. -/
theorem checkOtaFinish_eq_ok_iff :
    checkOtaFinish st data = .ok st' ↔ ∃ requestId total,
      (data[1]? = some requestId ∧ requestId ≠ 0) ∧ data[2]? = some total ∧
        st.accept (.otaFinish requestId total) = some st' := by
  constructor
  · intro h
    obtain ⟨requestId, total, hid, htotal, hstep⟩ := accept_of_checkOtaFinish h
    obtain ⟨requestId', hid', h⟩ := bind_eq_ok.mp h
    obtain ⟨_, hzero, -⟩ := bind_eq_ok.mp h
    obtain rfl : requestId = requestId' := Option.some.inj (hid.symm.trans (index_eq_ok.mp hid'))
    exact ⟨requestId, total, ⟨hid, refuse_eq_ok.mp hzero⟩, htotal, hstep⟩
  · rintro ⟨requestId, total, ⟨hid, hzero⟩, htotal, hstep⟩
    obtain ⟨⟨hdeclared, hobserved⟩, hstate⟩ := accept_otaFinish.mp hstep
    refine bind_eq_ok.mpr ⟨requestId, index_eq_ok.mpr hid, ?_⟩
    refine bind_eq_ok.mpr ⟨⟨⟩, refuse_eq_ok.mpr hzero, ?_⟩
    refine bind_eq_ok.mpr ⟨total, index_eq_ok.mpr htotal, ?_⟩
    refine bind_eq_ok.mpr ⟨⟨⟩, refuse_eq_ok.mpr ?_, congrArg Outcome.ok hstate⟩
    exact not_or.mpr ⟨not_not.mpr hdeclared, not_not.mpr hobserved⟩

end Payloads

/-- Membership on a bus is having a node there. -/
theorem isBusMember_iff {scenario : Scenario} {bus machine : String} :
    isBusMember scenario bus machine = true ↔ ⟨bus, machine⟩ ∈ busNodes scenario := by
  rw [isBusMember, List.any_eq_true]
  constructor
  · rintro ⟨⟨bus', machine'⟩, hmem, h⟩
    obtain ⟨rfl, rfl⟩ := of_decide_eq_true h
    exact hmem
  · intro hmem
    exact ⟨_, hmem, by simp⟩

/-- The sender of an actor frame is no ECU and is on the bus. -/
theorem checkActor_eq_ok_iff {scenario : Scenario} {bi : BusInjectDef} :
    checkActor scenario bi = .ok ⟨⟩ ↔
      isEcu scenario bi.sender = false ∧ ⟨bi.bus, bi.sender⟩ ∈ busNodes scenario := by
  unfold checkActor
  rw [bind_eq_ok, ← isBusMember_iff]
  constructor
  · rintro ⟨_, hactor, hbus⟩
    exact ⟨Bool.not_eq_true _ ▸ refuse_eq_ok.mp hactor, Bool.not_eq_false _ ▸ refuse_eq_ok.mp hbus⟩
  · rintro ⟨hactor, hbus⟩
    exact ⟨⟨⟩, refuse_eq_ok.mpr (by simp [hactor]), refuse_eq_ok.mpr (by simp [hbus])⟩

/-- The payload has the length of its message, and the reserved node in front. -/
theorem checkPayload_eq_ok_iff {bi : BusInjectDef} :
    checkPayload bi = .ok ⟨⟩ ↔
      wantLen bi.id = .ok bi.data.length ∧ bi.data[0]? = some (reservedNode bi.id) := by
  unfold checkPayload
  simp only [bind_eq_ok, refuse_eq_ok, index_eq_ok, not_not]
  constructor
  · rintro ⟨want, hwant, _, rfl, source, hsource, rfl⟩
    exact ⟨hwant, hsource⟩
  · rintro ⟨hwant, hsource⟩
    exact ⟨_, hwant, ⟨⟩, rfl, _, hsource, rfl⟩

/-- The rules of a frame, its actor and its payload first. -/
theorem checkFrame_eq_ok {scenario : Scenario} {st st' : FrameState} {bi : BusInjectDef} :
    checkFrame scenario st bi = .ok st' ↔
      (isEcu scenario bi.sender = false ∧ ⟨bi.bus, bi.sender⟩ ∈ busNodes scenario) ∧
      (wantLen bi.id = .ok bi.data.length ∧ bi.data[0]? = some (reservedNode bi.id)) ∧
      (if bi.id = msgEvseEvent then checkEvseEvent st bi.data
        else if bi.id = msgOtaRequest then checkOtaRequest st bi.data
        else if bi.id = msgOtaChunk then checkOtaChunk st bi.data
        else if bi.id = msgOtaFinish then checkOtaFinish st bi.data
        else pure st) = .ok st' := by
  rw [← checkActor_eq_ok_iff, ← checkPayload_eq_ok_iff, checkFrame]
  simp only [bind_eq_ok]
  constructor
  · rintro ⟨_, hactor, _, hpayload, h⟩
    exact ⟨hactor, hpayload, h⟩
  · rintro ⟨hactor, hpayload, h⟩
    exact ⟨_, hactor, _, hpayload, h⟩

/-- The two fields of an OTA frame, read by the rules or by the decoder. -/
theorem exists_fields_iff {first second : Option UInt8} {frame : UInt8 → UInt8 → ActorFrame}
    {P : ActorFrame → Prop} :
    (∃ requestId field, (first = some requestId ∧ requestId ≠ 0) ∧ second = some field ∧
        P (frame requestId field)) ↔
      (∃ requestId, first = some requestId ∧ requestId ≠ 0) ∧
        ∃ f, (do pure (frame (← first) (← second))) = some f ∧ P f := by
  constructor
  · rintro ⟨requestId, field, ⟨rfl, hzero⟩, rfl, hf⟩
    exact ⟨⟨requestId, rfl, hzero⟩, _, rfl, hf⟩
  · rintro ⟨⟨requestId, rfl, hzero⟩, f, hfields, hf⟩
    rw [Option.bind_eq_bind, Option.bind_some] at hfields
    obtain ⟨field, hfield, heq⟩ := Option.bind_eq_some_iff.mp hfields
    obtain rfl := Option.some.inj heq
    exact ⟨requestId, field, ⟨rfl, hzero⟩, hfield, hf⟩

/-- The loop accepts a frame that is well formed and that the protocol accepts. -/
theorem checkFrame_eq_ok_iff {scenario : Scenario} {st st' : FrameState} {bi : BusInjectDef}
    (hbi : bi ∈ externalActorFrames scenario) :
    checkFrame scenario st bi = .ok st' ↔ ActorFrameWellFormed scenario bi ∧
      ∃ f, decodeFrame bi = some f ∧ st.accept f = some st' := by
  rw [checkFrame_eq_ok, actorFrameWellFormed_iff]
  unfold decodeFrame requestIdByte
  rcases mem_externalActorFrames hbi with hid | hid | hid | hid
  · simp only [hid, if_true, checkEvseEvent_eq_ok_iff, Option.map_eq_some_iff, true_imp_iff]
    constructor
    · rintro ⟨hactor, hpayload, event, requestId, hevent, hrequest, hstep⟩
      exact ⟨⟨hactor.1, hactor.2, hpayload.1, hpayload.2, ⟨event, hevent⟩, requestId, hrequest⟩,
        _, ⟨event, hevent.1, rfl⟩, hstep⟩
    · rintro ⟨⟨hecu, hbus, hlen, hsource, ⟨event, hevent, hrange⟩, requestId, hrequest⟩,
        _, ⟨event', hevent', rfl⟩, hstep⟩
      obtain rfl := Option.some.inj (hevent.symm.trans hevent')
      exact ⟨⟨hecu, hbus⟩, ⟨hlen, hsource⟩, event, requestId, ⟨hevent, hrange⟩, hrequest, hstep⟩
  · have hevse : msgOtaRequest ≠ msgEvseEvent := by decide
    simp only [hid, hevse, if_false, if_true, checkOtaRequest_eq_ok_iff, false_imp_iff, true_and,
      exists_fields_iff (P := fun f => st.accept f = some st')]
    tauto
  · have hevse : msgOtaChunk ≠ msgEvseEvent := by decide
    have hrequest : msgOtaChunk ≠ msgOtaRequest := by decide
    simp only [hid, hevse, hrequest, if_false, if_true, checkOtaChunk_eq_ok_iff, false_imp_iff,
      true_and, exists_fields_iff (P := fun f => st.accept f = some st')]
    tauto
  · have hevse : msgOtaFinish ≠ msgEvseEvent := by decide
    have hrequest : msgOtaFinish ≠ msgOtaRequest := by decide
    have hchunk : msgOtaFinish ≠ msgOtaChunk := by decide
    simp only [hid, hevse, hrequest, hchunk, if_false, if_true, checkOtaFinish_eq_ok_iff,
      false_imp_iff, true_and, exists_fields_iff (P := fun f => st.accept f = some st')]
    tauto

/-! ## All frames -/

/-- The validator's state and the frames it comes from. -/
structure FrameTrail (frames : List ActorFrame) (st : FrameState) : Prop where
  /-- The maps are those of the campaigns. -/
  ota : OtaTrail frames st
  /-- The flag is up from the first plug on. -/
  plugged : st.plugged = true ↔ .plug ∈ evseEvents frames

/-- Before the first frame the trail is empty. -/
theorem FrameTrail.init : FrameTrail [] FrameState.init where
  ota := ⟨fun _ => rfl, fun _ => rfl⟩
  plugged := iff_of_false nofun List.not_mem_nil

/-- An accepted frame continues the trail. -/
theorem FrameTrail.step {frames : List ActorFrame} {st st' : FrameState} {f : ActorFrame}
    (h : FrameTrail frames st) (hstep : st.accept f = some st') :
    FrameTrail (frames ++ [f]) st' := by
  refine ⟨(h.ota.step hstep).2, ?_⟩
  have hplug : .plug ∈ evseEvents (frames ++ [f]) ↔
      .plug ∈ evseEvents frames ∨ f = .evse .plug := by
    rw [evseEvents_snoc, List.mem_append]
    cases f with
    | evse event => simp [evseEvents, eq_comm]
    | otaRequest | otaChunk | otaFinish => simp [evseEvents]
  rw [hplug, ← h.plugged]
  cases f with
  | evse event =>
    cases event with
    | raw b hb => exact nomatch hstep
    | handshakeOk =>
      obtain ⟨-, rfl⟩ := accept_handshakeOk.mp hstep
      simp
    | plug | unplug | stop =>
      obtain rfl := Option.some.inj hstep
      simp
  | otaRequest requestId total =>
    obtain rfl := Option.some.inj hstep
    simp
  | otaChunk requestId chunkIndex =>
    obtain ⟨total, -, -, rfl⟩ := accept_otaChunk.mp hstep
    simp
  | otaFinish requestId total =>
    obtain ⟨-, rfl⟩ := accept_otaFinish.mp hstep
    simp

/-- The protocol accepts the frames that follow from those before them. -/
theorem FrameTrail.exists_accept_iff {frames : List ActorFrame} {st : FrameState} {f : ActorFrame}
    (h : FrameTrail frames st) (hf : ∀ b hb, f ≠ .evse (.raw b hb)) :
    (∃ st', st.accept f = some st') ↔ ActorFrameInOrder frames f := by
  constructor
  · rintro ⟨st', hstep⟩
    refine ⟨(h.ota.step hstep).1, ?_⟩
    rintro rfl
    exact h.plugged.mp (accept_handshakeOk.mp hstep).1
  · rintro ⟨hcampaign, hplugged⟩
    cases f with
    | evse event =>
      cases event with
      | raw b hb => exact absurd rfl (hf b hb)
      | handshakeOk => exact ⟨st, accept_handshakeOk.mpr ⟨h.plugged.mpr (hplugged rfl), rfl⟩⟩
      | plug | unplug | stop => exact ⟨_, rfl⟩
    | otaRequest requestId total => exact ⟨_, rfl⟩
    | otaChunk requestId chunkIndex =>
      obtain ⟨total, hlatest, hindex, hbelow⟩ := hcampaign
      refine ⟨_, accept_otaChunk.mpr ⟨total, ?_, ⟨?_, hbelow⟩, rfl⟩⟩
      · rw [h.ota.totals, hlatest]
      · exact UInt8.toNat_inj.mp (hindex.trans (h.ota.observed requestId).symm)
    | otaFinish requestId total =>
      obtain ⟨hlatest, hcount⟩ := hcampaign
      refine ⟨st, accept_otaFinish.mpr ⟨⟨?_, ?_⟩, rfl⟩⟩
      · rw [h.ota.totals, hlatest]
      · exact UInt8.toNat_inj.mp ((h.ota.observed requestId).trans hcount)

/-- A well-formed frame is a message, of a known event. -/
theorem ActorFrameWellFormed.decode {scenario : Scenario} {bi : BusInjectDef}
    (h : ActorFrameWellFormed scenario bi) (hid : bi ∈ externalActorFrames scenario) :
    ∃ f, decodeFrame bi = some f ∧ ∀ b hb, f ≠ .evse (.raw b hb) := by
  have hlen := h.length
  unfold decodeFrame
  rcases mem_externalActorFrames hid with hid | hid | hid | hid
  · obtain ⟨event, hevent, hrange⟩ := h.event hid
    rw [if_pos hid, hevent]
    refine ⟨_, rfl, fun b hb hraw => ?_⟩
    have hbyte : McEvseEvent.ofByte event = .raw b hb := ActorFrame.evse.inj hraw
    rw [McEvseEvent.ofByte, dif_neg (UInt8.not_lt.mpr hrange)] at hbyte
    split_ifs at hbyte
  · have hfour : bi.data.length = 4 := by
      rw [hid] at hlen
      exact (Outcome.ok.inj hlen).symm
    rw [hid, if_neg (by decide), if_pos rfl, List.getElem?_eq_getElem (by omega),
      List.getElem?_eq_getElem (by omega)]
    exact ⟨_, rfl, by rintro b hb ⟨⟩⟩
  · have height : bi.data.length = 8 := by
      rw [hid] at hlen
      exact (Outcome.ok.inj hlen).symm
    rw [hid, if_neg (by decide), if_neg (by decide), if_pos rfl,
      List.getElem?_eq_getElem (by omega), List.getElem?_eq_getElem (by omega)]
    exact ⟨_, rfl, by rintro b hb ⟨⟩⟩
  · have hseven : bi.data.length = 7 := by
      rw [hid] at hlen
      exact (Outcome.ok.inj hlen).symm
    rw [hid, if_neg (by decide), if_neg (by decide), if_neg (by decide), if_pos rfl,
      List.getElem?_eq_getElem (by omega), List.getElem?_eq_getElem (by omega)]
    exact ⟨_, rfl, by rintro b hb ⟨⟩⟩

/-- One iteration of the frame loop behind the frames before it. -/
theorem exists_checkFrame_iff {scenario : Scenario} {before : List BusInjectDef} {st : FrameState}
    {bi : BusInjectDef} (hbi : bi ∈ externalActorFrames scenario)
    (h : FrameTrail (before.filterMap decodeFrame) st) :
    (∃ st', checkFrame scenario st bi = .ok st') ↔ ActorFrameWellFormed scenario bi ∧
      ∀ f, decodeFrame bi = some f → ActorFrameInOrder (before.filterMap decodeFrame) f := by
  constructor
  · rintro ⟨st', hst'⟩
    obtain ⟨hformed, f, hdecode, hstep⟩ := (checkFrame_eq_ok_iff hbi).mp hst'
    obtain ⟨f', hdecode', hevent⟩ := hformed.decode hbi
    obtain rfl := Option.some.inj (hdecode.symm.trans hdecode')
    refine ⟨hformed, fun f' hf' => ?_⟩
    obtain rfl := Option.some.inj (hdecode.symm.trans hf')
    exact (h.exists_accept_iff hevent).mp ⟨st', hstep⟩
  · rintro ⟨hformed, horder⟩
    obtain ⟨f, hdecode, hevent⟩ := hformed.decode hbi
    obtain ⟨st', hstep⟩ := (h.exists_accept_iff hevent).mpr (horder f hdecode)
    exact ⟨st', (checkFrame_eq_ok_iff hbi).mpr ⟨hformed, f, hdecode, hstep⟩⟩

/-- The frame loop passes when every frame is well formed and follows from those before it. -/
theorem validateExternalActorFrames_eq_ok_iff {scenario : Scenario} :
    validateExternalActorFrames scenario = .ok ⟨⟩ ↔
      (∀ bi ∈ externalActorFrames scenario, ActorFrameWellFormed scenario bi) ∧
      ∀ before f after, actorFrames scenario = before ++ f :: after →
        ActorFrameInOrder before f := by
  have hloop : validateExternalActorFrames scenario = .ok ⟨⟩ ↔
      ∃ st, (externalActorFrames scenario).foldlM (checkFrame scenario) .init = .ok st := by
    unfold validateExternalActorFrames
    rw [bind_eq_ok]
    exact ⟨fun ⟨st, h, _⟩ => ⟨st, h⟩, fun ⟨st, h⟩ => ⟨st, h, rfl⟩⟩
  have hpass (before : List BusInjectDef) (st : FrameState) (bi : BusInjectDef)
      (hbi : bi ∈ externalActorFrames scenario)
      (htrail : FrameTrail (before.filterMap decodeFrame) st) :=
    exists_checkFrame_iff hbi htrail
  have hkeep (before : List BusInjectDef) (st st' : FrameState) (bi : BusInjectDef)
      (hbi : bi ∈ externalActorFrames scenario)
      (htrail : FrameTrail (before.filterMap decodeFrame) st)
      (hst' : checkFrame scenario st bi = .ok st') :
      FrameTrail ((before ++ [bi]).filterMap decodeFrame) st' := by
    obtain ⟨-, f, hdecode, hstep⟩ := (checkFrame_eq_ok_iff hbi).mp hst'
    rw [List.filterMap_append, List.filterMap_cons_some hdecode, List.filterMap_nil]
    exact htrail.step hstep
  rw [hloop, exists_foldlM_eq_ok_iff
    (R := fun before st => FrameTrail (before.filterMap decodeFrame) st) FrameTrail.init
    hpass hkeep]
  constructor
  · intro h
    refine ⟨fun bi hbi => ?_, fun before f after hsplit => ?_⟩
    · obtain ⟨before, after, hsplit⟩ := List.append_of_mem hbi
      exact (h before bi after hsplit).1
    · obtain ⟨first, bi, last, hframes, rfl, hdecode⟩ := exists_cut_of_filterMap hsplit
      exact (h first bi last hframes).2 f hdecode
  · rintro ⟨hformed, horder⟩ before bi after hsplit
    refine ⟨hformed bi (by simp [hsplit]), fun f hdecode => ?_⟩
    refine horder _ f (after.filterMap decodeFrame) ?_
    rw [actorFrames, hsplit, List.filterMap_append, List.filterMap_cons_some hdecode]

/-- The actor frames are the injected frames with an actor's identifier. -/
theorem mem_externalActorFrames_iff {scenario : Scenario} {bi : BusInjectDef} :
    bi ∈ externalActorFrames scenario ↔ bi ∈ scenario.busInject ∧ bi.id ∈ actorIds := by
  rw [externalActorFrames, (perm_sortByKey _ _).mem_iff, List.mem_filter, decide_eq_true_iff]
  rfl

end Microcar.Validation
