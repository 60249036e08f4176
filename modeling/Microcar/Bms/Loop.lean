import Microcar.Bms.Firmware

/-!
# One iteration of the BMS loop

The receive phase leaves the state, fault code and limit of the last sensor frame it
drained, and answers each sensor frame with a status message. The publish phase adds
at most one limits, one fault and one heartbeat frame.
-/

namespace Microcar.Bms

/-- The temperature of a frame the plant decoder takes. -/
def sensorTemp (frame : RxFrame) : Option Int16 :=
  if frame.id = mcMsgPlantSensors ∧ 7 ≤ frame.len then
    some (decodePlantSensors frame.toMcCanFrame).tempCX10
  else none

/-- The temperature of the last sensor frame of a batch. -/
def lastTemp (frames : List RxFrame) : Option Int16 := (frames.filterMap sensorTemp).getLast?

/-- The effect of one frame on everything but the log. -/
theorem dispatchFrame_eq (ctx : BmsCtx) (frame : RxFrame) :
    (sensorTemp frame = none ∧ dispatchFrame ctx frame.toMcCanFrame = ctx) ∨
    ∃ r seq, sensorTemp frame = some r.tempCX10 ∧
      dispatchFrame ctx frame.toMcCanFrame = { ctx with
        bs := bmsStateUpdate ctx.bs r.tempCX10 r.voltageMv r.currentMa r.socPercent
        bl := bmsLimitsCompute (bmsStateFromTemp r.tempCX10)
        seq := seq
        out := ctx.out ++ [.can (bmsStatusFrame r seq)] } := by
  unfold dispatchFrame sensorTemp
  by_cases hid : frame.id = mcMsgPlantSensors
  · by_cases hlen : frame.len < 7
    · left
      have hshort : ¬ 7 ≤ frame.len := UInt8.not_le.mpr hlen
      simp [hid, hshort, handlePlantSensors, hlen]
    · right
      have hlong : 7 ≤ frame.len := UInt8.not_lt.mp hlen
      refine ⟨decodePlantSensors frame.toMcCanFrame, ctx.seq + 1, by simp [hid, hlong], ?_⟩
      rw [if_pos hid, handlePlantSensors, if_neg hlen]
      dsimp only
      split
      · rename_i hraise
        simp only [BmsCtx.send, bmsStateUpdate] at hraise ⊢
        rw [hraise.1]
        rfl
      · rfl
  · left
    simp [hid]

@[simp] theorem receive_nil (ctx : BmsCtx) : receive ctx [] = ctx := rfl

theorem receive_snoc (ctx : BmsCtx) (frames : List RxFrame) (frame : RxFrame) :
    receive ctx (frames ++ [frame]) = dispatchFrame (receive ctx frames) frame.toMcCanFrame :=
  Core.run_snoc _ ctx frames frame

/-- The last temperature of an extended batch. -/
theorem lastTemp_snoc (frames : List RxFrame) (frame : RxFrame) :
    lastTemp (frames ++ [frame]) = (sensorTemp frame).or (lastTemp frames) :=
  Core.getLast?_filterMap_snoc _ frames frame

/-- Fault code and limit are those of the current state. -/
structure Consistent (ctx : BmsCtx) : Prop where
  /-- The fault code is the one of the state. -/
  faultCode_eq : ctx.bs.faultCode = bmsStateFaultCode ctx.bs.state
  /-- The limit is the one of the state. -/
  limits_eq : ctx.bl = bmsLimitsCompute ctx.bs.state

/-- The boot context is consistent. -/
theorem consistent_bmsBoot : Consistent bmsBoot := ⟨rfl, rfl⟩

/-- Every dispatched frame keeps fault code and limit in step with the state. -/
theorem Consistent.dispatchFrame {ctx : BmsCtx} (h : Consistent ctx) (frame : RxFrame) :
    Consistent (dispatchFrame ctx frame.toMcCanFrame) := by
  rcases dispatchFrame_eq ctx frame with ⟨-, heq⟩ | ⟨r, seq, -, heq⟩
  · rw [heq]
    exact h
  · rw [heq]
    exact ⟨rfl, rfl⟩

/-- The receive phase keeps fault code and limit in step with the state. -/
theorem Consistent.receive {ctx : BmsCtx} (h : Consistent ctx) (frames : List RxFrame) :
    Consistent (receive ctx frames) :=
  Core.run_invariant (I := Consistent) (fun _ frame hs => hs.dispatchFrame frame) h frames

/-- The receive phase ends in the state of its last sensor frame. -/
theorem receive_state (ctx : BmsCtx) (frames : List RxFrame) :
    (receive ctx frames).bs.state =
      ((lastTemp frames).map mcBmsDetermineState).getD ctx.bs.state := by
  induction frames using List.reverseRecOn with
  | nil => rfl
  | append_singleton frames frame ih =>
    rw [receive_snoc, lastTemp_snoc]
    rcases dispatchFrame_eq (receive ctx frames) frame with ⟨hnone, heq⟩ | ⟨r, seq, hsome, heq⟩
    · rw [heq, hnone, ih]
      rfl
    · rw [heq, hsome]
      rfl

/-- The receive phase emits status messages only. -/
theorem receive_out (ctx : BmsCtx) (frames : List RxFrame) :
    ∃ statuses, (receive ctx frames).out = ctx.out ++ statuses ∧
      ∀ e ∈ statuses, ∃ f, e = .can f ∧ f.id = mcMsgBmsStatus := by
  induction frames using List.reverseRecOn with
  | nil => exact ⟨[], by simp, by simp⟩
  | append_singleton frames frame ih =>
    obtain ⟨statuses, hout, hstatus⟩ := ih
    rw [receive_snoc]
    rcases dispatchFrame_eq (receive ctx frames) frame with ⟨-, heq⟩ | ⟨r, seq, -, heq⟩
    · rw [heq]
      exact ⟨statuses, hout, hstatus⟩
    · rw [heq]
      refine ⟨statuses ++ [.can (bmsStatusFrame r seq)], by simp [hout], ?_⟩
      intro e he
      rcases List.mem_append.mp he with he | he
      · exact hstatus e he
      · exact ⟨_, List.mem_singleton.mp he, rfl⟩

/-- The receive phase does not touch the published fault code. -/
theorem receive_lastFaultPublished (ctx : BmsCtx) (frames : List RxFrame) :
    (receive ctx frames).lastFaultPublished = ctx.lastFaultPublished := by
  apply Core.run_invariant (I := fun s => BmsCtx.lastFaultPublished s = ctx.lastFaultPublished)
  · intro s frame hs
    rcases dispatchFrame_eq s frame with ⟨-, heq⟩ | ⟨r, seq, -, heq⟩
    · rw [heq]
      exact hs
    · rw [heq]
      exact hs
  · rfl

/-- Publishing the limits only appends to the log. -/
theorem publishLimits_eq (ctx : BmsCtx) (nowMs : UInt32) :
    ∃ out, publishLimits ctx nowMs = { ctx with out := out } := by
  unfold publishLimits
  split <;> exact ⟨_, rfl⟩

/-- Publishing the fault records the current fault code. -/
theorem publishFault_eq (ctx : BmsCtx) :
    ∃ out, publishFault ctx = { ctx with lastFaultPublished := ctx.bs.faultCode, out := out } := by
  unfold publishFault
  split
  · exact ⟨_, rfl⟩
  · rename_i hsame
    rw [not_ne_iff] at hsame
    exact ⟨ctx.out, by rw [hsame]⟩

/-- Publishing the heartbeat only appends to the log. -/
theorem publishHeartbeat_eq (ctx : BmsCtx) (nowMs : UInt32) :
    ∃ out, publishHeartbeat ctx nowMs = { ctx with out := out } := by
  unfold publishHeartbeat
  split <;> exact ⟨_, rfl⟩

/-- The context behind one iteration, apart from the log. -/
theorem bmsMain_eq (ctx : BmsCtx) (it : BmsIteration) :
    ∃ out, bmsMain ctx it = { receive ctx it.frames with
      lastFaultPublished := (receive ctx it.frames).bs.faultCode, out := out } := by
  obtain ⟨out1, h1⟩ := publishLimits_eq (receive ctx it.frames) it.nowMs
  obtain ⟨out2, h2⟩ := publishFault_eq (publishLimits (receive ctx it.frames) it.nowMs)
  obtain ⟨out3, h3⟩ := publishHeartbeat_eq
    (publishFault (publishLimits (receive ctx it.frames) it.nowMs)) it.nowMs
  refine ⟨out3, ?_⟩
  rw [bmsMain, h3, h2, h1]

/-- Everything an iteration publishes, in order. -/
theorem published_eq (ctx : BmsCtx) (it : BmsIteration) :
    ∃ statuses, (∀ e ∈ statuses, ∃ f, e = Emission.can f ∧ f.id = mcMsgBmsStatus) ∧
      published ctx it = statuses ++
        (if it.nowMs % 50 = 0 then [.can (sendBmsLimits (receive ctx it.frames))] else []) ++
        (if (receive ctx it.frames).bs.faultCode ≠ ctx.lastFaultPublished then
          [.can (sendBmsFault (receive ctx it.frames))] else []) ++
        (if it.nowMs % 100 = 0 then [.can (sendHeartbeat it.nowMs)] else []) := by
  obtain ⟨statuses, hout, hstatus⟩ := receive_out ctx it.frames
  refine ⟨statuses, hstatus, ?_⟩
  have hlast := receive_lastFaultPublished ctx it.frames
  have hall : (bmsMain ctx it).out = ctx.out ++ (statuses ++
      (if it.nowMs % 50 = 0 then [.can (sendBmsLimits (receive ctx it.frames))] else []) ++
      (if (receive ctx it.frames).bs.faultCode ≠ ctx.lastFaultPublished then
        [.can (sendBmsFault (receive ctx it.frames))] else []) ++
      (if it.nowMs % 100 = 0 then [.can (sendHeartbeat it.nowMs)] else [])) := by
    unfold bmsMain publishHeartbeat publishFault publishLimits
    rw [← hlast]
    by_cases h50 : it.nowMs % 50 = 0 <;> by_cases h100 : it.nowMs % 100 = 0 <;>
      by_cases hf : (receive ctx it.frames).bs.faultCode =
        (receive ctx it.frames).lastFaultPublished <;>
      simp [h50, h100, hf, BmsCtx.send, hout, sendBmsFault]
  rw [published, hall, List.drop_left]

/-- Apart from the status messages, an iteration publishes its limits, fault and heartbeat. -/
theorem framesOf_published {msgId : UInt32} (hid : msgId ≠ mcMsgBmsStatus) (ctx : BmsCtx)
    (it : BmsIteration) :
    framesOf msgId (published ctx it) = framesOf msgId (
      (if it.nowMs % 50 = 0 then [.can (sendBmsLimits (receive ctx it.frames))] else []) ++
      (if (receive ctx it.frames).bs.faultCode ≠ ctx.lastFaultPublished then
        [.can (sendBmsFault (receive ctx it.frames))] else []) ++
      (if it.nowMs % 100 = 0 then [.can (sendHeartbeat it.nowMs)] else [])) := by
  obtain ⟨statuses, hstatus, heq⟩ := published_eq ctx it
  have hstatuses : framesOf msgId statuses = [] := by
    apply framesOf_eq_nil
    intro e he f hf
    obtain ⟨g, hg, hgid⟩ := hstatus e he
    rw [hf] at hg
    cases hg
    rw [hgid]
    exact hid.symm
  rw [heq]
  simp only [List.append_assoc, framesOf_append, hstatuses, List.nil_append]

/-- The limits frames of an iteration. -/
theorem framesOf_limits_published (ctx : BmsCtx) (it : BmsIteration) :
    framesOf mcMsgBmsLimits (published ctx it) =
      if it.nowMs % 50 = 0 then [sendBmsLimits (receive ctx it.frames)] else [] := by
  rw [framesOf_published (by decide)]
  have hlimits : framesOf mcMsgBmsLimits [.can (sendBmsLimits (receive ctx it.frames))] =
      [sendBmsLimits (receive ctx it.frames)] := framesOf_can_of_eq rfl
  have hfault : framesOf mcMsgBmsLimits [.can (sendBmsFault (receive ctx it.frames))] = [] :=
    framesOf_can_of_ne (show mcMsgBmsFault ≠ mcMsgBmsLimits by decide)
  have hbeat : framesOf mcMsgBmsLimits [.can (sendHeartbeat it.nowMs)] = [] :=
    framesOf_can_of_ne (show mcMsgHeartbeat ≠ mcMsgBmsLimits by decide)
  simp only [framesOf_append]
  split_ifs <;> simp [hlimits, hfault, hbeat]

/-- The fault frames of an iteration. -/
theorem framesOf_fault_published (ctx : BmsCtx) (it : BmsIteration) :
    framesOf mcMsgBmsFault (published ctx it) =
      if (receive ctx it.frames).bs.faultCode ≠ ctx.lastFaultPublished then
        [sendBmsFault (receive ctx it.frames)] else [] := by
  rw [framesOf_published (by decide)]
  have hlimits : framesOf mcMsgBmsFault [.can (sendBmsLimits (receive ctx it.frames))] = [] :=
    framesOf_can_of_ne (show mcMsgBmsLimits ≠ mcMsgBmsFault by decide)
  have hfault : framesOf mcMsgBmsFault [.can (sendBmsFault (receive ctx it.frames))] =
      [sendBmsFault (receive ctx it.frames)] := framesOf_can_of_eq rfl
  have hbeat : framesOf mcMsgBmsFault [.can (sendHeartbeat it.nowMs)] = [] :=
    framesOf_can_of_ne (show mcMsgHeartbeat ≠ mcMsgBmsFault by decide)
  simp only [framesOf_append]
  split_ifs <;> simp [hlimits, hfault, hbeat]

end Microcar.Bms
