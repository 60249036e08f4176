import Microcar.Charging.Fsm
import Microcar.Core.Run
import Microcar.Validation.Scenario

/-!
# The protocol of the external actors

The frame rules read as a protocol: a payload is one of four messages, and a message is accepted
or not by what the messages before it have left in the validator's state. Every scenario that the
validator accepts is a run of this protocol.
-/

namespace Microcar.Validation

open Microcar.Core
open Microcar.Core.Outcome (refuse_eq_ok index_eq_ok increment_eq_ok)
open Microcar.Charging (McEvseEvent)

/-- A frame of an external actor. -/
inductive ActorFrame where
  | evse (event : McEvseEvent)
  | otaRequest (requestId totalChunks : UInt8)
  | otaChunk (requestId chunkIndex : UInt8)
  | otaFinish (requestId totalChunks : UInt8)
  deriving DecidableEq, Repr

/-- The message of an injected frame. -/
def decodeFrame (bi : BusInjectDef) : Option ActorFrame :=
  if bi.id = msgEvseEvent then bi.data[1]?.map fun event => .evse (.ofByte event)
  else if bi.id = msgOtaRequest then do pure (.otaRequest (← bi.data[1]?) (← bi.data[3]?))
  else if bi.id = msgOtaChunk then do pure (.otaChunk (← bi.data[1]?) (← bi.data[2]?))
  else if bi.id = msgOtaFinish then do pure (.otaFinish (← bi.data[1]?) (← bi.data[2]?))
  else none

/-- The messages of a scenario in time order. -/
def actorFrames (scenario : Scenario) : List ActorFrame :=
  (externalActorFrames scenario).filterMap decodeFrame

/-- The chunks of a request that were counted so far. -/
def FrameState.observed (st : FrameState) (requestId : UInt8) : UInt8 :=
  (st.otaSeen requestId).getD 0

/-- The state behind an accepted message. -/
def FrameState.accept (st : FrameState) : ActorFrame → Option FrameState
  | .evse (.raw _ _) => none
  | .evse .plug => some { st with plugged := true }
  | .evse .handshakeOk => if st.plugged = true then some st else none
  | .evse .unplug => some st
  | .evse .stop => some st
  | .otaRequest requestId total => some { st with
      otaTotals := Function.update st.otaTotals requestId (some total)
      otaSeen := Function.update st.otaSeen requestId (some (st.observed requestId)) }
  | .otaChunk requestId chunkIndex =>
    match st.otaTotals requestId with
    | none => none
    | some total =>
      if chunkIndex = st.observed requestId ∧ chunkIndex < total then
        some { st with
          otaSeen := Function.update st.otaSeen requestId (some (st.observed requestId + 1)) }
      else none
  | .otaFinish requestId total =>
    if st.otaTotals requestId = some total ∧ st.observed requestId = total then some st else none

theorem accept_handshakeOk {st st' : FrameState} :
    st.accept (.evse .handshakeOk) = some st' ↔ st.plugged = true ∧ st = st' := by
  rw [FrameState.accept, Option.ite_none_right_eq_some, Option.some.injEq]

theorem accept_otaChunk {st st' : FrameState} {requestId chunkIndex : UInt8} :
    st.accept (.otaChunk requestId chunkIndex) = some st' ↔
      ∃ total, st.otaTotals requestId = some total ∧
        (chunkIndex = st.observed requestId ∧ chunkIndex < total) ∧
        { st with
          otaSeen := Function.update st.otaSeen requestId (some (st.observed requestId + 1)) } =
            st' := by
  rw [FrameState.accept]
  cases st.otaTotals requestId with
  | none => simp
  | some total => simp [Option.ite_none_right_eq_some]

theorem accept_otaFinish {st st' : FrameState} {requestId total : UInt8} :
    st.accept (.otaFinish requestId total) = some st' ↔
      (st.otaTotals requestId = some total ∧ st.observed requestId = total) ∧ st = st' := by
  rw [FrameState.accept, Option.ite_none_right_eq_some, Option.some.injEq]

/-- An accepted `EVSE_EVENT` is a step of the protocol. -/
theorem accept_of_checkEvseEvent {st st' : FrameState} {data : List UInt8}
    (h : checkEvseEvent st data = .ok st') :
    ∃ event, data[1]? = some event ∧ st.accept (.evse (.ofByte event)) = some st' := by
  obtain ⟨event, hevent, h⟩ := Outcome.bind_eq_ok.mp h
  obtain ⟨_, hrange, h⟩ := Outcome.bind_eq_ok.mp h
  obtain ⟨requestId, -, h⟩ := Outcome.bind_eq_ok.mp h
  obtain ⟨_, -, h⟩ := Outcome.bind_eq_ok.mp h
  have hevent3 : ¬ 3 < event := refuse_eq_ok.mp hrange
  refine ⟨event, index_eq_ok.mp hevent, ?_⟩
  by_cases hplug : event = 1
  · rw [if_pos hplug] at h
    rw [hplug]
    exact congrArg some (Outcome.ok.inj h)
  · rw [if_neg hplug] at h
    obtain ⟨_, hplugged, h⟩ := Outcome.bind_eq_ok.mp h
    have hstate : st = st' := Outcome.ok.inj h
    have hshake := refuse_eq_ok.mp hplugged
    by_cases hunplug : event = 0
    · rw [hunplug, ← hstate]
      rfl
    · by_cases hok : event = 2
      · have hin : st.plugged = true := by
          by_contra hout
          exact hshake ⟨hok, by simpa using hout⟩
        rw [hok]
        exact accept_handshakeOk.mpr ⟨hin, hstate⟩
      · rw [McEvseEvent.ofByte, dif_neg hevent3, if_neg hunplug, if_neg hplug, if_neg hok, ← hstate]
        rfl

/-- An accepted `OTA_REQUEST` is a step of the protocol. -/
theorem accept_of_checkOtaRequest {st st' : FrameState} {data : List UInt8}
    (h : checkOtaRequest st data = .ok st') :
    ∃ requestId total, data[1]? = some requestId ∧ data[3]? = some total ∧
      st.accept (.otaRequest requestId total) = some st' := by
  obtain ⟨requestId, hid, h⟩ := Outcome.bind_eq_ok.mp h
  obtain ⟨_, -, h⟩ := Outcome.bind_eq_ok.mp h
  obtain ⟨total, htotal, h⟩ := Outcome.bind_eq_ok.mp h
  refine ⟨requestId, total, index_eq_ok.mp hid, index_eq_ok.mp htotal, ?_⟩
  exact congrArg some (Outcome.ok.inj h)

/-- An accepted `OTA_CHUNK` is a step of the protocol. -/
theorem accept_of_checkOtaChunk {st st' : FrameState} {data : List UInt8}
    (h : checkOtaChunk st data = .ok st') :
    ∃ requestId chunkIndex, data[1]? = some requestId ∧ data[2]? = some chunkIndex ∧
      st.accept (.otaChunk requestId chunkIndex) = some st' := by
  obtain ⟨requestId, hid, h⟩ := Outcome.bind_eq_ok.mp h
  obtain ⟨_, -, h⟩ := Outcome.bind_eq_ok.mp h
  obtain ⟨chunkIndex, hindex, h⟩ := Outcome.bind_eq_ok.mp h
  refine ⟨requestId, chunkIndex, index_eq_ok.mp hid, index_eq_ok.mp hindex, ?_⟩
  cases htotals : st.otaTotals requestId with
  | none =>
    rw [htotals] at h
    exact nomatch h
  | some total =>
    rw [htotals] at h
    obtain ⟨_, hseen, h⟩ := Outcome.bind_eq_ok.mp h
    obtain ⟨_, hbelow, h⟩ := Outcome.bind_eq_ok.mp h
    obtain ⟨next, hnext, h⟩ := Outcome.bind_eq_ok.mp h
    obtain ⟨-, rfl⟩ := increment_eq_ok.mp hnext
    refine accept_otaChunk.mpr ⟨total, htotals, ⟨?_, ?_⟩, Outcome.ok.inj h⟩
    · exact not_not.mp (refuse_eq_ok.mp hseen)
    · exact UInt8.not_le.mp (refuse_eq_ok.mp hbelow)

/-- An accepted `OTA_FINISH` is a step of the protocol. -/
theorem accept_of_checkOtaFinish {st st' : FrameState} {data : List UInt8}
    (h : checkOtaFinish st data = .ok st') :
    ∃ requestId total, data[1]? = some requestId ∧ data[2]? = some total ∧
      st.accept (.otaFinish requestId total) = some st' := by
  obtain ⟨requestId, hid, h⟩ := Outcome.bind_eq_ok.mp h
  obtain ⟨_, -, h⟩ := Outcome.bind_eq_ok.mp h
  obtain ⟨total, htotal, h⟩ := Outcome.bind_eq_ok.mp h
  obtain ⟨_, hmatch, h⟩ := Outcome.bind_eq_ok.mp h
  refine ⟨requestId, total, index_eq_ok.mp hid, index_eq_ok.mp htotal, ?_⟩
  obtain ⟨hdeclared, hobserved⟩ := not_or.mp (refuse_eq_ok.mp hmatch)
  exact accept_otaFinish.mpr ⟨⟨not_not.mp hdeclared, not_not.mp hobserved⟩, Outcome.ok.inj h⟩

/-- An accepted frame of the four ids is a message, and a step of the protocol. -/
theorem accept_of_checkFrame {scenario : Scenario} {st st' : FrameState} {bi : BusInjectDef}
    (hbi : bi ∈ externalActorFrames scenario) (h : checkFrame scenario st bi = .ok st') :
    ∃ f, decodeFrame bi = some f ∧ st.accept f = some st' := by
  obtain ⟨_, -, h⟩ := Outcome.bind_eq_ok.mp h
  obtain ⟨_, -, h⟩ := Outcome.bind_eq_ok.mp h
  unfold decodeFrame
  rcases mem_externalActorFrames hbi with hid | hid | hid | hid
  · rw [if_pos hid] at h ⊢
    obtain ⟨event, hevent, hstep⟩ := accept_of_checkEvseEvent h
    exact ⟨_, by rw [hevent]; rfl, hstep⟩
  · rw [hid, if_neg (by decide), if_pos rfl] at h ⊢
    obtain ⟨requestId, total, hid, htotal, hstep⟩ := accept_of_checkOtaRequest h
    exact ⟨_, by rw [hid, htotal]; rfl, hstep⟩
  · rw [hid, if_neg (by decide), if_neg (by decide), if_pos rfl] at h ⊢
    obtain ⟨requestId, chunkIndex, hid, hindex, hstep⟩ := accept_of_checkOtaChunk h
    exact ⟨_, by rw [hid, hindex]; rfl, hstep⟩
  · rw [hid, if_neg (by decide), if_neg (by decide), if_neg (by decide), if_pos rfl] at h ⊢
    obtain ⟨requestId, total, hid, htotal, hstep⟩ := accept_of_checkOtaFinish h
    exact ⟨_, by rw [hid, htotal]; rfl, hstep⟩

/-- The frame loop runs the protocol over the messages of its frames. -/
theorem runPartial_accept {scenario : Scenario} {st st' : FrameState} {frames : List BusInjectDef}
    (hframes : ∀ bi ∈ frames, bi ∈ externalActorFrames scenario)
    (h : frames.foldlM (checkFrame scenario) st = .ok st') :
    runPartial FrameState.accept st (frames.filterMap decodeFrame) = some st' := by
  induction frames generalizing st with
  | nil => exact congrArg some (Outcome.ok.inj h)
  | cons bi frames ih =>
    rw [List.foldlM_cons] at h
    obtain ⟨mid, hmid, hrest⟩ := Outcome.bind_eq_ok.mp h
    obtain ⟨f, hdecode, hstep⟩ := accept_of_checkFrame (hframes bi List.mem_cons_self) hmid
    rw [List.filterMap_cons_some hdecode, runPartial_cons, hstep, Option.bind_some]
    exact ih (fun b hb => hframes b (List.mem_cons_of_mem bi hb)) hrest

/-- The messages of an accepted scenario are a run of the protocol. -/
theorem actorFrames_run {scenario : Scenario}
    (h : validateExternalActorFrames scenario = .ok ⟨⟩) :
    ∃ st, runPartial FrameState.accept .init (actorFrames scenario) = some st := by
  obtain ⟨st, hst, -⟩ := Outcome.bind_eq_ok.mp h
  exact ⟨st, runPartial_accept (fun _ hbi => hbi) hst⟩

end Microcar.Validation
