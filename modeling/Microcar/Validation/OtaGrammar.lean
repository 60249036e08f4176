import Microcar.Validation.ActorFrames

/-!
# The grammar of OTA campaigns

`validate_external_actor_frames` promises that the chunks of an OTA request are numbered from
zero below its total, and that a finish meets both the declared and the observed count. The
validator keeps the last declared total of every request id and counts the chunks of the id, but
a repeated request does not start the count anew. Its accepted scenarios are the campaigns of the
grammar as long as no id is requested again behind one of its chunks and then used further.
-/

namespace Microcar.Validation

open Microcar.Core

namespace ActorFrame

/-- The total that the frame declares for a request id. -/
def declares (id : UInt8) : ActorFrame → Option UInt8
  | otaRequest requestId total => if requestId = id then some total else none
  | _ => none

/-- The chunk of a request id that the frame carries. -/
def carries (id : UInt8) : ActorFrame → Option UInt8
  | otaChunk requestId chunkIndex => if requestId = id then some chunkIndex else none
  | _ => none

/-- The frame is a chunk or the finish of a request id. -/
def Continues (f : ActorFrame) (id : UInt8) : Prop :=
  (∃ chunkIndex, f = otaChunk id chunkIndex) ∨ ∃ total, f = otaFinish id total

end ActorFrame

/-- The totals declared for a request id, in order. -/
def declaredTotals (id : UInt8) (frames : List ActorFrame) : List UInt8 :=
  frames.filterMap (ActorFrame.declares id)

/-- The chunk indexes received for a request id, in order. -/
def chunkIndexes (id : UInt8) (frames : List ActorFrame) : List UInt8 :=
  frames.filterMap (ActorFrame.carries id)

/-- The grammar of OTA frames. A segment behind a request that holds no further request of the
same id belongs to that request. -/
structure OtaGrammar (frames : List ActorFrame) : Prop where
  /-- A chunk or a finish comes behind a request of its id. -/
  requested : ∀ before f after id, frames = before ++ f :: after → f.Continues id →
    declaredTotals id before ≠ []
  /-- The chunks of a request are numbered 0, 1, 2, and so on, below its total. -/
  numbered : ∀ before id total segment after,
    frames = before ++ .otaRequest id total :: (segment ++ after) →
    declaredTotals id segment = [] →
    (chunkIndexes id segment).map UInt8.toNat = List.range (chunkIndexes id segment).length ∧
      ∀ chunkIndex ∈ chunkIndexes id segment, chunkIndex < total
  /-- At a finish the chunks of the request are as many as both frames say. -/
  complete : ∀ before id total segment finishTotal after,
    frames = before ++ .otaRequest id total :: (segment ++ .otaFinish id finishTotal :: after) →
    declaredTotals id segment = [] →
    finishTotal = total ∧ (chunkIndexes id segment).length = total.toNat

/-- Where a chunk or a finish comes, no chunk of its id precedes the latest request of the id. -/
def NoRestart (frames : List ActorFrame) : Prop :=
  ∀ before id total segment f after,
    frames = before ++ .otaRequest id total :: (segment ++ f :: after) →
    declaredTotals id segment = [] → f.Continues id → chunkIndexes id before = []

/-- What the validator demands of a frame behind the frames before it: the count is of all chunks
of the id. -/
def OtaGuard (before : List ActorFrame) : ActorFrame → Prop
  | .otaChunk id chunkIndex => ∃ total, (declaredTotals id before).getLast? = some total ∧
      chunkIndex.toNat = (chunkIndexes id before).length ∧ chunkIndex < total
  | .otaFinish id total => (declaredTotals id before).getLast? = some total ∧
      (chunkIndexes id before).length = total.toNat
  | _ => True

/-- The validator's maps and the frames they come from. -/
structure OtaTrail (frames : List ActorFrame) (st : FrameState) : Prop where
  /-- The declared total of an id is that of its latest request. -/
  totals : ∀ id, st.otaTotals id = (declaredTotals id frames).getLast?
  /-- The observed count of an id is of all its chunks. -/
  observed : ∀ id, (st.observed id).toNat = (chunkIndexes id frames).length

theorem ActorFrame.carries_eq_some {f : ActorFrame} {id chunkIndex : UInt8} :
    f.carries id = some chunkIndex ↔ f = .otaChunk id chunkIndex := by
  cases f with
  | otaChunk requestId index => simp [carries]
  | evse | otaRequest | otaFinish => simp [carries]

section Histories

variable (id : UInt8) (frames : List ActorFrame) (f : ActorFrame)

theorem declaredTotals_snoc :
    declaredTotals id (frames ++ [f]) = declaredTotals id frames ++ (f.declares id).toList := by
  rw [declaredTotals, List.filterMap_append]
  cases hf : f.declares id with
  | none => simp [declaredTotals, hf]
  | some total => simp [declaredTotals, hf]

theorem chunkIndexes_snoc :
    chunkIndexes id (frames ++ [f]) = chunkIndexes id frames ++ (f.carries id).toList := by
  rw [chunkIndexes, List.filterMap_append]
  cases hf : f.carries id with
  | none => simp [chunkIndexes, hf]
  | some chunkIndex => simp [chunkIndexes, hf]

end Histories

/-- A frame that is neither a request nor a chunk, and leaves the maps alone, keeps the trail. -/
theorem OtaTrail.keep {frames : List ActorFrame} {st st' : FrameState} {f : ActorFrame}
    (h : OtaTrail frames st) (htotals : st'.otaTotals = st.otaTotals)
    (hseen : st'.otaSeen = st.otaSeen) (hdeclares : ∀ id, f.declares id = none)
    (hcarries : ∀ id, f.carries id = none) : OtaTrail (frames ++ [f]) st' where
  totals id := by
    rw [htotals, declaredTotals_snoc, hdeclares, Option.toList_none, List.append_nil]
    exact h.totals id
  observed id := by
    rw [FrameState.observed, hseen, chunkIndexes_snoc, hcarries, Option.toList_none,
      List.append_nil]
    exact h.observed id

/-- A request declares a total and keeps the count. -/
theorem OtaTrail.request {frames : List ActorFrame} {st st' : FrameState} {requestId total : UInt8}
    (h : OtaTrail frames st) (hstep : st.accept (.otaRequest requestId total) = some st') :
    OtaTrail (frames ++ [.otaRequest requestId total]) st' := by
  obtain rfl := Option.some.inj hstep
  refine ⟨fun id => ?_, fun id => ?_⟩
  · rw [declaredTotals_snoc]
    by_cases hid : requestId = id
    · subst hid
      simp [ActorFrame.declares]
    · simp [ActorFrame.declares, hid, Function.update_of_ne (Ne.symm hid), h.totals id]
  · rw [chunkIndexes_snoc]
    by_cases hid : requestId = id
    · subst hid
      simpa [ActorFrame.carries, FrameState.observed] using h.observed requestId
    · simpa [ActorFrame.carries, FrameState.observed, Function.update_of_ne (Ne.symm hid)] using
        h.observed id

/-- A chunk is the next of all chunks of its id, below the latest total, and raises the count. -/
theorem OtaTrail.chunk {frames : List ActorFrame} {st st' : FrameState}
    {requestId chunkIndex : UInt8} (h : OtaTrail frames st)
    (hstep : st.accept (.otaChunk requestId chunkIndex) = some st') :
    OtaGuard frames (.otaChunk requestId chunkIndex) ∧
      OtaTrail (frames ++ [.otaChunk requestId chunkIndex]) st' := by
  obtain ⟨total, htotals, ⟨hindex, hbelow⟩, rfl⟩ := accept_otaChunk.mp hstep
  have hcount := h.observed requestId
  have hlast := h.totals requestId
  refine ⟨⟨total, by rw [← hlast, htotals], by rw [hindex, hcount], hbelow⟩, ?_, ?_⟩
  · intro id
    rw [declaredTotals_snoc]
    simpa [ActorFrame.declares] using h.totals id
  · intro id
    rw [chunkIndexes_snoc]
    by_cases hid : requestId = id
    · subst hid
      -- the count stays below a total, so the byte does not wrap
      have hroom := UInt8.lt_iff_toNat_lt.mp (hindex ▸ hbelow)
      have hbyte := total.toNat_lt
      have hnext : (st.observed requestId + 1).toNat = (st.observed requestId).toNat + 1 := by
        rw [UInt8.toNat_add, UInt8.toNat_one]
        omega
      have hupdated (seen : UInt8) : FrameState.observed ⟨st.plugged, st.otaTotals,
          Function.update st.otaSeen requestId (some seen)⟩ requestId = seen := by
        simp [FrameState.observed]
      rw [hupdated, hnext, hcount]
      simp [ActorFrame.carries]
    · simpa [ActorFrame.carries, FrameState.observed, hid, Function.update_of_ne (Ne.symm hid)]
        using h.observed id

/-- Every accepted frame meets its demand and extends the trail. -/
theorem OtaTrail.step {frames : List ActorFrame} {st st' : FrameState} {f : ActorFrame}
    (h : OtaTrail frames st) (hstep : st.accept f = some st') :
    OtaGuard frames f ∧ OtaTrail (frames ++ [f]) st' := by
  cases f with
  | evse event =>
    have hmaps : st'.otaTotals = st.otaTotals ∧ st'.otaSeen = st.otaSeen := by
      cases event with
      | raw b hb => exact nomatch hstep
      | handshakeOk =>
        obtain ⟨-, rfl⟩ := accept_handshakeOk.mp hstep
        exact ⟨rfl, rfl⟩
      | plug | unplug | stop =>
        obtain rfl := Option.some.inj hstep
        exact ⟨rfl, rfl⟩
    exact ⟨trivial, h.keep hmaps.1 hmaps.2 (fun _ => rfl) fun _ => rfl⟩
  | otaRequest requestId total => exact ⟨trivial, h.request hstep⟩
  | otaChunk requestId chunkIndex => exact h.chunk hstep
  | otaFinish requestId total =>
    obtain ⟨⟨htotal, hobserved⟩, rfl⟩ := accept_otaFinish.mp hstep
    refine ⟨⟨?_, ?_⟩, h.keep rfl rfl (fun _ => rfl) fun _ => rfl⟩
    · rw [← h.totals requestId, htotal]
    · rw [← h.observed requestId, hobserved]

/-- In an accepted scenario every frame meets its demand. -/
theorem otaGuard_of_accepted {scenario : Scenario}
    (h : validateExternalActorFrames scenario = .ok ⟨⟩) :
    ∀ before f after, actorFrames scenario = before ++ f :: after → OtaGuard before f := by
  obtain ⟨st, hrun⟩ := actorFrames_run h
  have hinit : OtaTrail [] FrameState.init := ⟨fun _ => rfl, fun _ => rfl⟩
  exact (runPartial_cuts hinit (fun _ _ _ _ => OtaTrail.step) hrun).1

section Segments

variable {before segment : List ActorFrame} {id total : UInt8}

/-- Behind a request and a segment of its own, the latest total is the one it declares. -/
theorem getLast?_declaredTotals (hsegment : declaredTotals id segment = []) :
    (declaredTotals id (before ++ .otaRequest id total :: segment)).getLast? = some total := by
  have hsplit : declaredTotals id (before ++ .otaRequest id total :: segment) =
      declaredTotals id before ++ total :: declaredTotals id segment := by
    simp [declaredTotals, ActorFrame.declares]
  rw [hsplit, hsegment]
  simp

/-- The chunks behind a request come on top of those before it. -/
theorem length_chunkIndexes :
    (chunkIndexes id (before ++ .otaRequest id total :: segment)).length =
      (chunkIndexes id before).length + (chunkIndexes id segment).length := by
  rw [chunkIndexes, List.filterMap_append, List.length_append, List.filterMap_cons_none rfl]
  rfl

end Segments

/-- Chunks that are each numbered by those before them are numbered from zero. -/
theorem chunkIndexes_eq_range {id : UInt8} {segment : List ActorFrame}
    (h : ∀ before chunkIndex after, segment = before ++ .otaChunk id chunkIndex :: after →
      chunkIndex.toNat = (chunkIndexes id before).length) :
    (chunkIndexes id segment).map UInt8.toNat = List.range (chunkIndexes id segment).length := by
  induction segment using List.reverseRecOn with
  | nil => rfl
  | append_singleton segment f ih =>
    have hearlier : (chunkIndexes id segment).map UInt8.toNat =
        List.range (chunkIndexes id segment).length :=
      ih fun before chunkIndex after hcut => h before chunkIndex (after ++ [f]) (by simp [hcut])
    rw [chunkIndexes_snoc]
    cases hcarries : f.carries id with
    | none => simpa using hearlier
    | some chunkIndex =>
      have hlast := h segment chunkIndex [] (by rw [ActorFrame.carries_eq_some.mp hcarries])
      simp [hearlier, hlast, List.range_succ]

section Demands

variable {frames : List ActorFrame}
  (hguard : ∀ before f after, frames = before ++ f :: after → OtaGuard before f)

include hguard

/-- In the grammar a chunk or a finish counts the chunks of its own request, the validator counts
those of the id: there are none before the request. -/
theorem OtaGrammar.noRestart (h : OtaGrammar frames) : NoRestart frames := by
  rintro before id total segment f after hsplit hsegment hf
  have hdemand := hguard (before ++ .otaRequest id total :: segment) f after (by simp [hsplit])
  rcases hf with ⟨chunkIndex, rfl⟩ | ⟨finishTotal, rfl⟩
  · obtain ⟨_, -, hcount, -⟩ := hdemand
    have hnumbered := (h.numbered before id total (segment ++ [.otaChunk id chunkIndex]) after
      (by simp [hsplit]) (by simp [declaredTotals_snoc, hsegment, ActorFrame.declares])).1
    have hindex : chunkIndex.toNat = (chunkIndexes id segment).length := by
      have hlast := congrArg List.getLast? hnumbered
      simpa [chunkIndexes_snoc, ActorFrame.carries, List.range_succ] using hlast
    rw [length_chunkIndexes] at hcount
    exact List.length_eq_zero_iff.mp (by omega)
  · have hcount := hdemand.2
    obtain ⟨rfl, hlength⟩ := h.complete before id total segment finishTotal after hsplit hsegment
    rw [length_chunkIndexes] at hcount
    exact List.length_eq_zero_iff.mp (by omega)

/-- Without a restart the validator's demand on a frame is about the chunks of its request. -/
theorem NoRestart.demand (h : NoRestart frames) {before segment after : List ActorFrame}
    {id total : UInt8} {f : ActorFrame}
    (hsplit : frames = before ++ .otaRequest id total :: (segment ++ f :: after))
    (hsegment : declaredTotals id segment = []) (hf : f.Continues id) :
    OtaGuard (before ++ .otaRequest id total :: segment) f ∧
      (chunkIndexes id (before ++ .otaRequest id total :: segment)).length =
        (chunkIndexes id segment).length := by
  refine ⟨hguard _ f after (by simp [hsplit]), ?_⟩
  rw [length_chunkIndexes, h before id total segment f after hsplit hsegment hf]
  exact Nat.zero_add _

theorem NoRestart.chunk (h : NoRestart frames) {before segment after : List ActorFrame}
    {id total chunkIndex : UInt8}
    (hsplit : frames = before ++ .otaRequest id total ::
      (segment ++ .otaChunk id chunkIndex :: after))
    (hsegment : declaredTotals id segment = []) :
    chunkIndex.toNat = (chunkIndexes id segment).length ∧ chunkIndex < total := by
  obtain ⟨⟨latest, hlatest, hindex, hbelow⟩, hcount⟩ :=
    h.demand hguard hsplit hsegment (.inl ⟨chunkIndex, rfl⟩)
  rw [getLast?_declaredTotals hsegment] at hlatest
  obtain rfl := Option.some.inj hlatest
  exact ⟨hindex.trans hcount, hbelow⟩

theorem NoRestart.otaGrammar (h : NoRestart frames) : OtaGrammar frames := by
  refine ⟨?_, ?_, ?_⟩
  · rintro before f after id hsplit (⟨chunkIndex, rfl⟩ | ⟨total, rfl⟩) hnone
    · obtain ⟨total, hlast, -⟩ := hguard before _ after hsplit
      simp [hnone] at hlast
    · have hlast := (hguard before _ after hsplit).1
      simp [hnone] at hlast
  · intro before id total segment after hsplit hsegment
    have hchunk : ∀ first chunkIndex last, segment = first ++ .otaChunk id chunkIndex :: last →
        chunkIndex.toNat = (chunkIndexes id first).length ∧ chunkIndex < total := by
      rintro first chunkIndex last rfl
      have hfirst : declaredTotals id first = [] := by
        rw [declaredTotals, List.filterMap_append] at hsegment
        exact (List.append_eq_nil_iff.mp hsegment).1
      have hcut : frames = before ++ .otaRequest id total ::
          (first ++ .otaChunk id chunkIndex :: (last ++ after)) := by simp [hsplit]
      exact h.chunk hguard hcut hfirst
    refine ⟨chunkIndexes_eq_range fun first chunkIndex last hcut => (hchunk _ _ _ hcut).1, ?_⟩
    intro chunkIndex hmem
    obtain ⟨f, hf, hcarries⟩ := List.mem_filterMap.mp hmem
    obtain ⟨first, last, hcut⟩ := List.append_of_mem hf
    rw [ActorFrame.carries_eq_some.mp hcarries] at hcut
    exact (hchunk first chunkIndex last hcut).2
  · intro before id total segment finishTotal after hsplit hsegment
    obtain ⟨⟨hlatest, hlength⟩, hcount⟩ :=
      h.demand hguard hsplit hsegment (.inr ⟨finishTotal, rfl⟩)
    rw [getLast?_declaredTotals hsegment] at hlatest
    obtain rfl := Option.some.inj hlatest
    exact ⟨rfl, hcount.symm.trans hlength⟩

end Demands

/-- The OTA frames of an accepted scenario follow the grammar exactly when no chunk or finish of
an id comes while a chunk of the id precedes its latest request. -/
theorem otaGrammar_iff_noRestart {scenario : Scenario}
    (h : validateExternalActorFrames scenario = .ok ⟨⟩) :
    OtaGrammar (actorFrames scenario) ↔ NoRestart (actorFrames scenario) :=
  ⟨OtaGrammar.noRestart (otaGuard_of_accepted h), NoRestart.otaGrammar (otaGuard_of_accepted h)⟩

/-- A frame of the OTA tool on the vehicle bus. -/
def otaToolFrame (atMs : Nat) (id : UInt32) (data : List UInt8) : BusInjectDef :=
  ⟨atMs, "vcan0", "ota", id, data⟩

/-- A vehicle of one gateway and an OTA tool that injects the given frames. -/
def otaScenario (frames : List BusInjectDef) : Scenario where
  machine := [⟨"gateway", some "firmware/gateway_ecu"⟩, ⟨"ota", none⟩]
  bus := [⟨[⟨"vcan0", "gateway"⟩, ⟨"vcan0", "ota"⟩]⟩]
  input := []
  busInject := frames

/-- Two campaigns of one and two chunks whose frames are interleaved, listed out of order. -/
def interleavedCampaigns : Scenario := otaScenario
  [otaToolFrame 50 msgOtaFinish [7, 1, 1, 0, 0, 0, 0],
    otaToolFrame 10 msgOtaRequest [7, 1, 0, 1],
    otaToolFrame 20 msgOtaRequest [7, 2, 0, 2],
    otaToolFrame 30 msgOtaChunk [7, 2, 0, 0, 0, 0, 0, 0],
    otaToolFrame 40 msgOtaChunk [7, 1, 0, 0, 0, 0, 0, 0],
    otaToolFrame 60 msgOtaChunk [7, 2, 1, 0, 0, 0, 0, 0],
    otaToolFrame 70 msgOtaFinish [7, 2, 2, 0, 0, 0, 0]]

/-- Each of the two ids is requested once, before any chunk. -/
theorem noRestart_interleavedCampaigns : NoRestart (actorFrames interleavedCampaigns) := by
  rintro before id total segment f after hsplit - -
  have hframes : actorFrames interleavedCampaigns = [.otaRequest 1 1, .otaRequest 2 2,
      .otaChunk 2 0, .otaChunk 1 0, .otaFinish 1 1, .otaChunk 2 1, .otaFinish 2 2] := by
    decide
  rw [hframes] at hsplit
  rcases before with _ | ⟨first, _ | ⟨second, before⟩⟩
  · rfl
  · obtain ⟨rfl, -⟩ := List.cons.inj hsplit
    rfl
  · simp only [List.cons_append, List.cons.injEq] at hsplit
    obtain ⟨-, -, hrest⟩ := hsplit
    have hmem : ActorFrame.otaRequest id total ∈ before ++ .otaRequest id total ::
        (segment ++ f :: after) := by simp
    rw [← hrest] at hmem
    simp at hmem

theorem otaGrammar_interleavedCampaigns :
    validateExternalActorFrames interleavedCampaigns = .ok ⟨⟩ ∧
      OtaGrammar (actorFrames interleavedCampaigns) :=
  ⟨by decide, (otaGrammar_iff_noRestart (by decide)).mpr noRestart_interleavedCampaigns⟩

/-- A campaign that is requested again behind its first chunk and goes on with its second. -/
def restartedCampaign : Scenario := otaScenario
  [otaToolFrame 10 msgOtaRequest [7, 1, 0, 2],
    otaToolFrame 20 msgOtaChunk [7, 1, 0, 0, 0, 0, 0, 0],
    otaToolFrame 30 msgOtaRequest [7, 1, 0, 2],
    otaToolFrame 40 msgOtaChunk [7, 1, 1, 0, 0, 0, 0, 0]]

/-- The restarted campaign is accepted, though its only chunk behind the latest request has
index 1. -/
theorem restartedCampaign_accepted :
    validateExternalActorFrames restartedCampaign = .ok ⟨⟩ ∧
      ¬ OtaGrammar (actorFrames restartedCampaign) := by
  refine ⟨by decide, fun h => ?_⟩
  have hsplit : actorFrames restartedCampaign = [.otaRequest 1 2, .otaChunk 1 0] ++
      .otaRequest 1 2 :: ([.otaChunk 1 1] ++ []) := by decide
  have hnumbered := (h.numbered _ 1 2 _ _ hsplit rfl).1
  exact absurd hnumbered (by decide)

end Microcar.Validation
