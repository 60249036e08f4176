import Microcar.Gateway.Effects
import Microcar.Gateway.ScriptRule

/-!
# Frames of the gateway on the bus

The log of a step only grows. Only the last step of the loop sends a vehicle mode frame, and
it sends at most one, with the mode read before; only the heartbeat step sends heartbeats, and
only a diagnostic request is answered by a diagnostic response.
-/

namespace Microcar.Gateway

/-- The second context extends the log of the first without a frame of the identifier. -/
def Silent (msgId : UInt32) (ctx ctx' : GatewayCtx) : Prop :=
  ∃ new, ctx'.out = ctx.out ++ new ∧ framesOf msgId new = []

/-- An unchanged log is silent. -/
theorem Silent.of_eq {msgId : UInt32} {ctx ctx' : GatewayCtx} (h : ctx'.out = ctx.out) :
    Silent msgId ctx ctx' :=
  ⟨[], by simp [h], rfl⟩

/-- Silence composes. -/
theorem Silent.trans {msgId : UInt32} {ctx ctx' ctx'' : GatewayCtx} (h : Silent msgId ctx ctx')
    (h' : Silent msgId ctx' ctx'') : Silent msgId ctx ctx'' := by
  obtain ⟨new, hout, hnew⟩ := h
  obtain ⟨new', hout', hnew'⟩ := h'
  refine ⟨new ++ new', ?_, ?_⟩
  · rw [hout', hout, List.append_assoc]
  · rw [framesOf_append, hnew, hnew', List.nil_append]

/-- Trace words are silent. -/
theorem silent_trace (msgId : UInt32) (ctx : GatewayCtx) (label : String) (value : UInt32) :
    Silent msgId ctx (ctx.trace label value) := ⟨_, rfl, rfl⟩

/-- Frames of another identifier are silent. -/
theorem silent_send {msgId : UInt32} (ctx : GatewayCtx) {frame : McCanFrame}
    (h : frame.id ≠ msgId) : Silent msgId ctx (ctx.send frame) := ⟨_, rfl, framesOf_can_of_ne h⟩

/-- A diagnostic response is silent for the other identifiers. -/
theorem silent_sendDiagResponse {msgId : UInt32} (hid : msgId ≠ mcMsgDiagResponse)
    (ctx : GatewayCtx) (service requestId : UInt8) (reply : DiagReply) :
    Silent msgId ctx (sendDiagResponse ctx service requestId reply) := by
  unfold sendDiagResponse
  refine ((silent_trace msgId ctx _ _).trans (silent_trace msgId _ _ _)).trans (silent_send _ ?_)
  exact hid.symm

/-- A diagnostic service sends nothing by itself. -/
theorem silent_diagService (msgId : UInt32) (ctx : GatewayCtx) (service : UInt8) (take : Bool) :
    Silent msgId ctx (diagService ctx service take).1 := by
  unfold diagService
  split_ifs
  · unfold startSession
    split_ifs
    · exact .of_eq rfl
    · exact ⟨_, List.append_assoc _ _ _, rfl⟩
  · exact silent_trace _ _ _ _
  · exact .of_eq rfl
  · exact .of_eq rfl
  · rw [clearDtcs_eq]
    split
    · exact .of_eq rfl
    · exact .of_eq rfl
  all_goals exact .of_eq rfl

/-- A diagnostic response is one frame. -/
theorem framesOf_sendDiagResponse (ctx : GatewayCtx) (service requestId : UInt8)
    (reply : DiagReply) :
    ∃ new, (sendDiagResponse ctx service requestId reply).out = ctx.out ++ new ∧
      framesOf mcMsgDiagResponse new = [diagResponseFrame service requestId reply] := by
  refine ⟨_, (List.append_assoc _ _ _).trans (List.append_assoc _ _ _), ?_⟩
  rw [framesOf_append, framesOf_append, framesOf_trace, framesOf_trace, List.nil_append,
    List.nil_append]
  exact framesOf_can_of_eq rfl

/-- The service and status bytes of a diagnostic response. -/
theorem diagResponseFrame_data (service requestId : UInt8) (reply : DiagReply) :
    (diagResponseFrame service requestId reply).data.get 1 = service ∧
      (diagResponseFrame service requestId reply).data.get 3 = reply.status := by
  constructor <;> simp [diagResponseFrame, McCanFrame.get_data_put]

/-- The value bytes of a diagnostic response. -/
theorem diagResponseFrame_values (service requestId : UInt8) (reply : DiagReply) :
    (diagResponseFrame service requestId reply).data.get 4 = reply.value0 ∧
      (diagResponseFrame service requestId reply).data.get 5 = reply.value1 := by
  constructor <;> simp [diagResponseFrame, McCanFrame.get_data_put]

/-- A diagnostic request of full length is answered by one response. -/
theorem handleDiagRequest_responds {f : McCanFrame} (hlen : mcDiagRequestMsgSize ≤ f.len)
    (ctx : GatewayCtx) (take : Bool) :
    ∃ new, (handleDiagRequest ctx f take).out = ctx.out ++ new ∧
      framesOf mcMsgDiagResponse new =
        [diagResponseFrame (f.data.get 1) (f.data.get 2)
          (diagService ctx (f.data.get 1) take).2] := by
  obtain ⟨served, hout, hserved⟩ := silent_diagService mcMsgDiagResponse ctx (f.data.get 1) take
  obtain ⟨new, hsent, hresponse⟩ := framesOf_sendDiagResponse
    (diagService ctx (f.data.get 1) take).1 (f.data.get 1) (f.data.get 2)
    (diagService ctx (f.data.get 1) take).2
  refine ⟨served ++ new, ?_, ?_⟩
  · rw [handleDiagRequest, if_neg (UInt8.not_lt.mpr hlen), ← List.append_assoc, ← hout]
    exact hsent
  · rw [framesOf_append, hserved, hresponse, List.nil_append]

/-- A BMS fault frame is handled silently. -/
theorem silent_handleBmsFault (msgId : UInt32) (ctx : GatewayCtx) (f : McCanFrame) (take : Bool) :
    Silent msgId ctx (handleBmsFault ctx f take) := by
  unfold handleBmsFault reportFault
  dsimp only
  split_ifs <;> exact .of_eq rfl

/-- Silence holds across everything a script can do. -/
theorem silent_scriptRule {msgId : UInt32} (hid : msgId ≠ mcMsgDiagResponse) :
    ScriptRule (Silent msgId) where
  writes h := by
    obtain ⟨new, hout, htraces⟩ := h.out
    refine ⟨new, hout, framesOf_eq_nil ?_⟩
    intro e he f hcan
    obtain ⟨label, value, htrace⟩ := htraces e he
    exact absurd (htrace.symm.trans hcan) (by simp)
  trans h h' := h.trans h'
  request c frame take := by
    unfold handleDiagRequest
    split_ifs
    · exact .of_eq rfl
    · exact (silent_diagService msgId c _ take).trans (silent_sendDiagResponse hid _ _ _ _)
  fault c take := silent_handleBmsFault msgId c _ take
  warning c take := by
    unfold reportFault
    split_ifs <;> exact .of_eq rfl

/-- A received frame is silent for every identifier but the diagnostic response. -/
theorem silent_dispatchFrameInRx {msgId : UInt32} (hid : msgId ≠ mcMsgDiagResponse)
    (ctx : GatewayCtx) (f : McCanFrame) (take : Bool) :
    Silent msgId ctx (dispatchFrameInRx ctx f take) := by
  unfold dispatchFrameInRx
  split_ifs
  · exact .of_eq rfl
  · exact silent_handleBmsFault msgId ctx f take
  · exact (silent_scriptRule hid).request ctx f take
  · exact .of_eq rfl

/-- The mode phase is silent. -/
theorem silent_modePhase (msgId : UInt32) (ctx : GatewayCtx) (nowMs : UInt32) (take : Bool) :
    Silent msgId ctx (modePhase ctx nowMs take) := by
  obtain ⟨gs, hupdate, -⟩ := updateVehicleMode_eq ctx nowMs take
  unfold modePhase
  dsimp only
  rw [hupdate]
  split_ifs
  · exact ⟨_, List.append_assoc _ _ _, rfl⟩
  · exact ⟨_, rfl, rfl⟩
  · exact ⟨_, rfl, rfl⟩
  · exact .of_eq rfl

/-- Every step is silent for the identifiers that neither it nor a response carries. -/
theorem silent_gatewayStep {msgId : UInt32} (hid : msgId ≠ mcMsgDiagResponse) {ctx : GatewayCtx}
    {op : GatewayOp} (hbeat : msgId = mcMsgHeartbeat → ∀ nowMs, op ≠ .heartbeat nowMs)
    (hmode : msgId = mcMsgVehicleMode → op ≠ .sendMode) :
    Silent msgId ctx (gatewayStep ctx op) := by
  cases op with
  | frame f take => exact silent_dispatchFrameInRx hid ctx _ take
  | enterDrive => exact .of_eq rfl
  | aggregate take =>
    rw [gatewayStep, faultAggregator]
    split_ifs <;> exact ⟨_, rfl, rfl⟩
  | dequeue nowMs =>
    rw [gatewayStep, dequeueHeartbeats_eq]
    exact .of_eq rfl
  | scripts take => exact (silent_scriptRule hid).scripts ctx take
  | notify =>
    rw [gatewayStep, takeNotification]
    split
    · exact silent_trace _ _ _ _
    · exact .of_eq rfl
  | process nowMs take =>
    rw [gatewayStep, processPhase_eq]
    exact .of_eq rfl
  | readOldMode => exact .of_eq rfl
  | updateMode nowMs take => exact silent_modePhase msgId ctx nowMs take
  | heartbeat nowMs =>
    rw [gatewayStep, heartbeatPhase]
    split_ifs
    · exact silent_send ctx fun h => hbeat h.symm nowMs rfl
    · exact .of_eq rfl
  | readMode nowMs => exact .of_eq rfl
  | readFaultCd take =>
    obtain ⟨faultCd, heq⟩ := readFaultCd_eq ctx take
    rw [gatewayStep, heq]
    exact .of_eq rfl
  | sendMode =>
    rw [gatewayStep, sendMode]
    split
    · exact silent_send ctx fun h => hmode h.symm rfl
    · exact .of_eq rfl

/-- No step but the last of the loop sends a vehicle mode frame. -/
theorem silent_of_ne_sendMode {ctx : GatewayCtx} {op : GatewayOp} (h : op ≠ .sendMode) :
    Silent mcMsgVehicleMode ctx (gatewayStep ctx op) :=
  silent_gatewayStep (by decide) (fun hid => absurd hid (by decide)) fun _ => h

/-- Silent steps emit no frame of the identifier. -/
theorem framesOf_emitted_eq_nil {msgId : UInt32} {ctx : GatewayCtx} {op : GatewayOp}
    (h : Silent msgId ctx (gatewayStep ctx op)) : framesOf msgId (emitted ctx op) = [] := by
  obtain ⟨new, hout, hnew⟩ := h
  rw [emitted, hout, List.drop_left, hnew]

/-- A diagnostic request of full length is dispatched to its handler. -/
theorem gatewayStep_request {f : RxFrame} {service : UInt8}
    (h : diagServiceOf f.toMcCanFrame = some service) (ctx : GatewayCtx) (take : Bool) :
    gatewayStep ctx (.frame f take) = handleDiagRequest ctx f.toMcCanFrame take := by
  have hid := (diagServiceOf_eq_some_iff.mp h).1.1
  have hbeat : f.id ≠ mcMsgHeartbeat := by
    rw [hid]
    decide
  have hfault : f.id ≠ mcMsgBmsFault := by
    rw [hid]
    decide
  rw [gatewayStep, dispatchFrameInRx, if_neg hbeat, if_neg hfault, if_pos hid]

/-- It emits one response, with the reply of its service. -/
theorem framesOf_emitted_request {f : RxFrame} {service : UInt8}
    (h : diagServiceOf f.toMcCanFrame = some service) (ctx : GatewayCtx) (take : Bool) :
    framesOf mcMsgDiagResponse (emitted ctx (.frame f take)) =
      [diagResponseFrame service (f.data.get 2) (diagService ctx service take).2] := by
  obtain ⟨⟨-, hlen⟩, rfl⟩ := diagServiceOf_eq_some_iff.mp h
  obtain ⟨new, hout, hresponse⟩ := handleDiagRequest_responds hlen ctx take
  rw [emitted, gatewayStep_request h, hout, List.drop_left, hresponse]

/-- The last step of the loop appends the vehicle mode frame for a mode that was read. -/
theorem sendMode_out (ctx : GatewayCtx) :
    (gatewayStep ctx .sendMode).out =
      ctx.out ++ (ctx.modeRead.toList.map fun mode => .can (sendVehicleMode mode ctx.faultCd)) := by
  rw [gatewayStep, sendMode]
  cases ctx.modeRead with
  | none => exact (List.append_nil _).symm
  | some mode => rfl

/-- Vehicle mode frames in the log are vehicle mode frames on the bus. -/
theorem framesOf_sendVehicleMode (modes : List McVehicleMode) (faultCd : UInt8) :
    framesOf mcMsgVehicleMode (modes.map fun mode => .can (sendVehicleMode mode faultCd)) =
      modes.map (sendVehicleMode · faultCd) := by
  induction modes with
  | nil => rfl
  | cons mode modes ih =>
    have hsent : framesOf mcMsgVehicleMode [.can (sendVehicleMode mode faultCd)] =
        [sendVehicleMode mode faultCd] := framesOf_can_of_eq rfl
    rw [List.map_cons, List.map_cons, ← List.singleton_append, framesOf_append, hsent, ih]
    rfl

/-- The vehicle mode frames of the last step are those for the mode that was read. -/
theorem framesOf_emitted_sendMode (ctx : GatewayCtx) :
    framesOf mcMsgVehicleMode (emitted ctx .sendMode) =
      ctx.modeRead.toList.map (sendVehicleMode · ctx.faultCd) := by
  rw [emitted, sendMode_out, List.drop_left, framesOf_sendVehicleMode]

/-- The vehicle mode frames behind the last step of the loop. -/
theorem framesOf_sendMode (ctx : GatewayCtx) :
    framesOf mcMsgVehicleMode (gatewayStep ctx .sendMode).out =
      framesOf mcMsgVehicleMode ctx.out ++
        ctx.modeRead.toList.map (sendVehicleMode · ctx.faultCd) := by
  rw [sendMode_out, framesOf_append, framesOf_sendVehicleMode]

/-- The mode byte of a vehicle mode frame. -/
theorem sendVehicleMode_data (mode : McVehicleMode) (faultCd : UInt8) :
    (sendVehicleMode mode faultCd).data.get 0 = mode.toByte := by
  simp [sendVehicleMode, McCanFrame.get_data_put]

/-! ### The locals of the loop -/

/-- The step writes locals of the loop. -/
def GatewayOp.writesLocals : GatewayOp → Bool
  | .readOldMode => true
  | .updateMode _ _ => true
  | .readMode _ => true
  | .readFaultCd _ => true
  | .sendMode => true
  | _ => false

/-- A diagnostic service leaves the locals alone. -/
theorem locals_diagService (ctx : GatewayCtx) (service : UInt8) (take : Bool) :
    (diagService ctx service take).1.locals = ctx.locals := by
  unfold diagService
  split_ifs
  · unfold startSession
    split_ifs <;> rfl
  · rfl
  · rfl
  · rfl
  · rw [clearDtcs_eq]
    split_ifs <;> rfl
  all_goals rfl

/-- Whatever a script does, it leaves the locals alone. -/
theorem locals_scriptRule : ScriptRule fun c c' => c'.locals = c.locals where
  writes h := h.locals
  trans h h' := h'.trans h
  request c frame take := by
    by_cases hlen : frame.len < mcDiagRequestMsgSize
    · rw [handleDiagRequest, if_pos hlen]
    · obtain ⟨out, heq⟩ := handleDiagRequest_eq (UInt8.not_lt.mp hlen) c take
      rw [heq]
      exact locals_diagService c (frame.data.get 1) take
  fault c take := by
    unfold synthBmsFault handleBmsFault reportFault
    dsimp only
    split_ifs <;> rfl
  warning c take := by
    unfold reportFault
    split_ifs <;> rfl

/-- Every other step leaves the locals alone. -/
theorem locals_gatewayStep (ctx : GatewayCtx) {op : GatewayOp} (h : op.writesLocals = false) :
    (gatewayStep ctx op).locals = ctx.locals := by
  cases op with
  | frame f take =>
    have hmove := dispatchFrameInRx_move ctx f.toMcCanFrame take
    rw [gatewayStep]
    generalize dispatchFrameInRx ctx f.toMcCanFrame take = ctx' at hmove ⊢
    cases hmove <;> rfl
  | enterDrive => rfl
  | aggregate take =>
    obtain ⟨modeEvents, out, heq⟩ := faultAggregator_eq ctx take
    rw [gatewayStep, heq]
    rfl
  | dequeue nowMs =>
    rw [gatewayStep, dequeueHeartbeats_eq]
    rfl
  | scripts take => exact locals_scriptRule.scripts ctx take
  | notify =>
    obtain ⟨notification, out, heq⟩ := takeNotification_eq ctx
    rw [gatewayStep, heq]
    rfl
  | process nowMs take =>
    rw [gatewayStep, processPhase_eq]
    rfl
  | heartbeat nowMs =>
    obtain ⟨out, heq⟩ := heartbeatPhase_eq ctx nowMs
    rw [gatewayStep, heq]
    rfl
  | readOldMode | updateMode | readMode | readFaultCd | sendMode =>
    exact absurd h.symm Bool.false_ne_true

/-- The mode that waits to be sent behind a step. -/
def modeReadAfter (ctx : GatewayCtx) : GatewayOp → Option McVehicleMode
  | .readMode nowMs => (readMode ctx nowMs).modeRead
  | .sendMode => none
  | _ => ctx.modeRead

/-- A mode waits from its reading until it is sent. -/
theorem modeRead_gatewayStep (ctx : GatewayCtx) (op : GatewayOp) :
    (gatewayStep ctx op).modeRead = modeReadAfter ctx op := by
  have hkept : op.writesLocals = false → (gatewayStep ctx op).modeRead = ctx.modeRead :=
    fun h => congrArg (fun locals => locals.2.2.1) (locals_gatewayStep ctx h)
  cases op with
  | readOldMode | readMode => rfl
  | updateMode nowMs take =>
    obtain ⟨gs, changed, modeEvents, out, heq, -⟩ := modePhase_eq ctx nowMs take
    rw [gatewayStep, heq]
    rfl
  | readFaultCd take =>
    obtain ⟨faultCd, heq⟩ := readFaultCd_eq ctx take
    rw [gatewayStep, heq]
    rfl
  | sendMode =>
    obtain ⟨out, heq⟩ := sendMode_eq ctx
    rw [gatewayStep, heq]
    rfl
  | frame | enterDrive | aggregate | dequeue | scripts | notify | process | heartbeat =>
    exact hkept rfl

end Microcar.Gateway
