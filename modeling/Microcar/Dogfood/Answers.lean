import Microcar.Dogfood.DiagTrace
import Microcar.Gateway.Emissions
import Microcar.Gateway.OtaReport

/-!
# Requests and answers of the gateway

A request reaches the services of the gateway in a frame or from a script. Every request is
answered once, by two trace words and one frame that say the same, and in the order in which the
requests came. Which requests a run hands to the services depends on its frames and its periods
alone; the answers depend on the state.
-/

namespace Microcar.Dogfood

open Microcar.Core Microcar.Gateway

/-! ### Answers in the log -/

/-- The emission belongs to an answer. -/
def isAnswer : Emission → Bool
  | .trace label _ => label == "gateway_diag_response" || label == "gateway_diag_response_v1"
  | .can frame => frame.id == mcMsgDiagResponse

/-- What a call of `send_diag_response` emits. -/
def DiagCall.emissions (call : DiagCall) : List Emission :=
  [.trace "gateway_diag_response"
      (dwordOfBytes call.requestId call.service call.reply.status call.reply.value0),
    .trace "gateway_diag_response_v1"
      (dwordOfBytes call.requestId call.service 0 call.reply.value1),
    .can (diagResponseFrame call.service call.requestId call.reply)]

/-- The call that a response frame states. -/
def callOf (frame : McCanFrame) : DiagCall :=
  ⟨frame.data.get 1, frame.data.get 2, ⟨frame.data.get 3, frame.data.get 4, frame.data.get 5⟩⟩

/-- The answers that a log puts on the bus, in order. -/
def answersIn (out : List Emission) : List DiagCall := (framesOf mcMsgDiagResponse out).map callOf

/-- A response frame tells its call. -/
theorem callOf_diagResponseFrame (call : DiagCall) :
    callOf (diagResponseFrame call.service call.requestId call.reply) = call := by
  simp [callOf, diagResponseFrame, McCanFrame.get_data_put]

/-- The answers of two logs in turn. -/
theorem answersIn_append (out more : List Emission) :
    answersIn (out ++ more) = answersIn out ++ answersIn more := by
  rw [answersIn, framesOf_append, List.map_append]
  rfl

/-- The log grows by what these calls emit, and by emissions that belong to no answer. -/
def Answers (calls : List DiagCall) (ctx ctx' : GatewayCtx) : Prop :=
  ∃ new, ctx'.out = ctx.out ++ new ∧ new.filter isAnswer = calls.flatMap DiagCall.emissions

section Answers

variable {calls calls' : List DiagCall} {ctx ctx' ctx'' : GatewayCtx}

/-- A log that stays as it is answers nothing. -/
theorem Answers.of_eq (h : ctx'.out = ctx.out) : Answers [] ctx ctx' := ⟨[], by simp [h], rfl⟩

/-- What two steps answer, in turn. -/
theorem Answers.trans (h : Answers calls ctx ctx') (h' : Answers calls' ctx' ctx'') :
    Answers (calls ++ calls') ctx ctx'' := by
  obtain ⟨new, hout, hnew⟩ := h
  obtain ⟨new', hout', hnew'⟩ := h'
  refine ⟨new ++ new', by rw [hout', hout, List.append_assoc], ?_⟩
  rw [List.filter_append, hnew, hnew', List.flatMap_append]

/-- A frame with another identifier is no answer. -/
theorem answers_send (ctx : GatewayCtx) {frame : McCanFrame} (h : frame.id ≠ mcMsgDiagResponse) :
    Answers [] ctx (ctx.send frame) := by
  refine ⟨[.can frame], rfl, ?_⟩
  rw [List.filter_cons_of_neg (by simpa [isAnswer] using h)]
  rfl

/-- Words under other labels, and no response frame. -/
theorem answers_of_speaks {labels : List String} (h : Speaks labels ctx ctx')
    (hsilent : Silent mcMsgDiagResponse ctx ctx')
    (hother : ∀ label ∈ labels,
      label ≠ "gateway_diag_response" ∧ label ≠ "gateway_diag_response_v1") :
    Answers [] ctx ctx' := by
  obtain ⟨new, hout, hnew⟩ := h
  obtain ⟨new', hout', hframes⟩ := hsilent
  obtain rfl := List.append_cancel_left (hout.symm.trans hout')
  refine ⟨new, hout, List.filter_eq_nil_iff.mpr fun emission hmem => ?_⟩
  cases emission with
  | trace label value =>
    obtain ⟨hhead, hlast⟩ := hother label (hnew label value hmem)
    simp [isAnswer, hhead, hlast]
  | can frame =>
    intro hanswer
    have hid : frame.id = mcMsgDiagResponse := by simpa [isAnswer] using hanswer
    have hframe : frame ∈ framesOf mcMsgDiagResponse new := mem_framesOf.mpr ⟨hmem, hid⟩
    rw [hframes] at hframe
    exact absurd hframe List.not_mem_nil

/-- A response answers one call. -/
theorem answers_sendDiagResponse (ctx : GatewayCtx) (call : DiagCall) :
    Answers [call] ctx (call.send ctx) := by
  refine ⟨call.emissions, ?_, ?_⟩
  · simp [DiagCall.send, sendDiagResponse, GatewayCtx.trace, GatewayCtx.send, DiagCall.emissions,
      dwordOfBytes]
  · have hframe : (diagResponseFrame call.service call.requestId call.reply).id =
        mcMsgDiagResponse := rfl
    simp [DiagCall.emissions, isAnswer, hframe]

/-- A service does not answer by itself. -/
theorem answers_diagService (ctx : GatewayCtx) (service : UInt8) (take : Bool) :
    Answers [] ctx (diagService ctx service take).1 := by
  have hwords : Speaks ["diag_session", "vehicle_mode"] ctx (diagService ctx service take).1 := by
    unfold diagService
    split_ifs
    · unfold startSession
      split_ifs
      · exact .of_eq rfl
      · have hopened : Speaks ["diag_session", "vehicle_mode"] ctx
            ({ ctx with diagSessionActive := true }.setMode .service) := .of_eq rfl
        exact (hopened.trans (speaks_trace _ (by simp) _)).trans (speaks_announceMode (by simp) _)
    · have hclosed : Speaks ["diag_session", "vehicle_mode"] ctx
          { ctx with diagSessionActive := false } := .of_eq rfl
      exact hclosed.trans (speaks_trace _ (by simp) _)
    · exact .of_eq rfl
    · exact .of_eq rfl
    · rw [clearDtcs_eq]
      split_ifs <;> exact .of_eq rfl
    all_goals exact .of_eq rfl
  exact answers_of_speaks hwords (silent_diagService _ ctx service take) (by simp)

/-- The answer to a request of full length. -/
def answerTo (ctx : GatewayCtx) (frame : McCanFrame) (take : Bool) : DiagCall :=
  ⟨frame.data.get 1, frame.data.get 2, (diagService ctx (frame.data.get 1) take).2⟩

/-- A request that is long enough has one answer. -/
theorem answers_handleDiagRequest {frame : McCanFrame} (hlen : mcDiagRequestMsgSize ≤ frame.len)
    (ctx : GatewayCtx) (take : Bool) :
    Answers [answerTo ctx frame take] ctx (handleDiagRequest ctx frame take) := by
  rw [handleDiagRequest, if_neg (UInt8.not_lt.mpr hlen)]
  exact (answers_diagService ctx _ take).trans
    (answers_sendDiagResponse (diagService ctx (frame.data.get 1) take).1
      (answerTo ctx frame take))

end Answers

/-! ### Requests -/

/-- Service and request id of a request. -/
abbrev DiagKey := UInt8 × UInt8

/-- The step answers requests with these keys, whatever the state. -/
def Asks (keys : List DiagKey) (f : GatewayCtx → GatewayCtx) : Prop :=
  ∀ ctx, ∃ calls, Answers calls ctx (f ctx) ∧ calls.map DiagCall.key = keys

/-- The requests of two steps in turn. -/
theorem Asks.comp {keys keys' : List DiagKey} {f g : GatewayCtx → GatewayCtx} (hf : Asks keys f)
    (hg : Asks keys' g) : Asks (keys ++ keys') fun ctx => g (f ctx) := by
  intro ctx
  obtain ⟨calls, hcalls, hkeys⟩ := hf ctx
  obtain ⟨calls', hcalls', hkeys'⟩ := hg (f ctx)
  exact ⟨calls ++ calls', hcalls.trans hcalls', by rw [List.map_append, hkeys, hkeys']⟩

/-- What never answers was not asked. -/
theorem Answers.asks {f : GatewayCtx → GatewayCtx} (h : ∀ ctx, Answers [] ctx (f ctx)) :
    Asks [] f := fun ctx => ⟨[], h ctx, rfl⟩

/-- A request that is long enough asks for its service and number. -/
theorem asks_handleDiagRequest {frame : McCanFrame} (hlen : mcDiagRequestMsgSize ≤ frame.len)
    (take : Bool) :
    Asks [(frame.data.get 1, frame.data.get 2)] fun ctx => handleDiagRequest ctx frame take :=
  fun ctx => ⟨_, answers_handleDiagRequest hlen ctx take, rfl⟩

/-- A request that the gateway makes up asks like any other. -/
theorem asks_synthDiagRequest (service requestId : UInt8) (take : Bool) :
    Asks [(service, requestId)] (synthDiagRequest service requestId take) := by
  have hservice : ((mcFrameInit mcMsgDiagRequest mcNodeDiagnostics mcDiagRequestMsgSize
      |>.put 0 mcNodeDiagnostics |>.put 1 service |>.put 2 requestId).data.get 1,
        (mcFrameInit mcMsgDiagRequest mcNodeDiagnostics mcDiagRequestMsgSize
      |>.put 0 mcNodeDiagnostics |>.put 1 service |>.put 2 requestId).data.get 2) =
        (service, requestId) := by
    simp [McCanFrame.get_data_put]
  rw [← hservice]
  exact asks_handleDiagRequest (UInt8.le_refl _) take

/-- The requests in a frame. -/
def requestsOf (frame : McCanFrame) : List DiagKey :=
  if frame.id = mcMsgDiagRequest ∧ mcDiagRequestMsgSize ≤ frame.len then
    [(frame.data.get 1, frame.data.get 2)]
  else []

/-- A dispatched frame asks if it is a request. -/
theorem asks_frame (f : RxFrame) (take : Bool) :
    Asks (requestsOf f.toMcCanFrame) fun ctx => gatewayStep ctx (.frame f take) := by
  simp only [gatewayStep, dispatchFrameInRx, requestsOf]
  by_cases hbeat : f.id = mcMsgHeartbeat
  · have hother : f.id ≠ mcMsgDiagRequest := by
      rw [hbeat]
      decide
    simp only [if_pos hbeat, hother, false_and, if_false]
    exact Answers.asks fun ctx => .of_eq rfl
  by_cases hfault : f.id = mcMsgBmsFault
  · have hother : f.id ≠ mcMsgDiagRequest := by
      rw [hfault]
      decide
    simp only [if_neg hbeat, if_pos hfault, hother, false_and, if_false]
    exact Answers.asks fun ctx => .of_eq (out_handleBmsFault ctx _ take)
  by_cases hrequest : f.id = mcMsgDiagRequest
  · simp only [if_neg hbeat, if_neg hfault, if_pos hrequest]
    by_cases hlen : mcDiagRequestMsgSize ≤ f.len
    · rw [if_pos ⟨hrequest, hlen⟩]
      exact asks_handleDiagRequest hlen take
    · rw [if_neg fun h => hlen h.2]
      refine Answers.asks fun ctx => .of_eq ?_
      rw [handleDiagRequest, if_pos (UInt8.not_le.mp hlen)]
  · simp only [if_neg hbeat, if_neg hfault, hrequest, false_and, if_false]
    exact Answers.asks fun ctx => .of_eq rfl

/-- The other tasks answer nothing. -/
theorem asks_task {op : GatewayOp} (hscripts : ∀ take, op ≠ .scripts take)
    (hframe : ∀ f take, op ≠ .frame f take) : Asks [] fun ctx => gatewayStep ctx op := by
  refine Answers.asks fun ctx => ?_
  cases op with
  | frame f take => exact absurd rfl (hframe f take)
  | scripts take => exact absurd rfl (hscripts take)
  | enterDrive => exact .of_eq rfl
  | aggregate take =>
    have hword : Speaks ["fault_aggregate"] ctx (gatewayStep ctx (.aggregate take)) := by
      rw [gatewayStep, faultAggregator]
      split_ifs
      all_goals exact (speaks_trace ctx (by simp) _).trans (.of_eq rfl)
    have hsilent : Silent mcMsgDiagResponse ctx (gatewayStep ctx (.aggregate take)) := by
      rw [gatewayStep, faultAggregator]
      split_ifs <;> exact ⟨_, rfl, rfl⟩
    exact answers_of_speaks hword hsilent (by simp)
  | dequeue nowMs =>
    refine .of_eq ?_
    rw [gatewayStep, dequeueHeartbeats_eq]
  | notify =>
    have hword : Speaks ["urgent_fault_notify"] ctx (gatewayStep ctx .notify) := by
      rw [gatewayStep, takeNotification]
      split
      · have htaken : Speaks ["urgent_fault_notify"] ctx { ctx with notification := none } :=
          .of_eq rfl
        exact htaken.trans (speaks_trace _ (by simp) _)
      · exact .of_eq rfl
    have hsilent : Silent mcMsgDiagResponse ctx (gatewayStep ctx .notify) := by
      rw [gatewayStep, takeNotification]
      split
      · exact silent_trace _ _ _ _
      · exact .of_eq rfl
    exact answers_of_speaks hword hsilent (by simp)
  | process nowMs take =>
    refine .of_eq ?_
    rw [gatewayStep, processPhase_eq]
  | readOldMode => exact .of_eq rfl
  | updateMode nowMs take =>
    have hwords : Speaks ["vehicle_mode", "mode_event_group"] ctx (modePhase ctx nowMs take) :=
      speaks_modePhase (by simp) (by simp) ctx nowMs take
    exact answers_of_speaks hwords (silent_modePhase _ ctx nowMs take) (by simp)
  | heartbeat nowMs =>
    have hbeat : (sendHeartbeat nowMs).id ≠ mcMsgDiagResponse := by
      change mcMsgHeartbeat ≠ mcMsgDiagResponse
      decide
    rw [gatewayStep, heartbeatPhase]
    split_ifs
    · exact answers_send ctx hbeat
    · exact .of_eq rfl
  | readMode nowMs => exact .of_eq rfl
  | readFaultCd take =>
    obtain ⟨faultCd, heq⟩ := readFaultCd_eq ctx take
    refine .of_eq ?_
    rw [gatewayStep, heq]
  | sendMode =>
    rw [gatewayStep, sendMode]
    split
    · rename_i mode _
      have hmode : (sendVehicleMode mode ctx.faultCd).id ≠ mcMsgDiagResponse := by
        change mcMsgVehicleMode ≠ mcMsgDiagResponse
        decide
      exact (answers_send ctx hmode).trans (.of_eq rfl)
    · exact .of_eq rfl

/-! ### Requests of the scripts -/

/-- The requests of the enabled scripts, with the times at which they are due. -/
def scriptRequests (cfg : GatewayConfig) : List (Nat × DiagKey) :=
  (if cfg.diagDogfoodScript then
    [(100, mcDiagStartSession, 1), (200, mcDiagReadMode, 2), (350, mcDiagActuatorTest, 6),
      (450, mcDiagReadDtcs, 3), (650, mcDiagClearDtcs, 4), (750, mcDiagReadDtcs, 5)]
  else []) ++
  (if cfg.diagStartdriveScript then [(100, mcDiagStartSession, 1), (200, mcDiagReadMode, 2)]
  else [])

/-- The time falls into the period behind `n` periods. -/
def inPeriod (n due : Nat) : Bool := periodMs * n < due && due ≤ periodMs * (n + 1)

/-- The requests that a step hands to the services, behind `n` periods. -/
def requestsIn (cfg : GatewayConfig) (n : Nat) : GatewayOp → List DiagKey
  | .frame f _ => requestsOf f.toMcCanFrame
  | .scripts _ => ((scriptRequests cfg).filter fun r => inPeriod n r.1).map Prod.snd
  | _ => []

/-- An action has its time, and asks this. -/
def Sched (a : ScriptAction) (slot : Nat × List DiagKey) : Prop :=
  a.dueMs.toNat = slot.1 ∧ Asks slot.2 a.act

/-- The actions of a period ask what stands in the slots of the period. -/
theorem asks_falling {actions : List ScriptAction} {slots : List (Nat × List DiagKey)}
    (h : List.Forall₂ Sched actions slots) (n : Nat) :
    Asks ((slots.filter fun slot => inPeriod n slot.1).flatMap Prod.snd)
      (actAll ScriptAction.act (fallingDue n actions)) := by
  induction h with
  | nil => exact Answers.asks fun ctx => .of_eq rfl
  | @cons a slot actions slots hslot _ ih =>
    obtain ⟨hdue, hasks⟩ := hslot
    have hfalls : (decide (periodMs * n < a.dueMs.toNat ∧ a.dueMs.toNat ≤ periodMs * (n + 1))) =
        inPeriod n slot.1 := by
      rw [hdue, inPeriod, Bool.decide_and]
    rw [fallingDue, falling, List.filter_cons, List.filter_cons, hfalls]
    by_cases hin : inPeriod n slot.1 = true
    · rw [if_pos hin, if_pos hin, List.flatMap_cons]
      exact hasks.comp ih
    · rw [if_neg hin, if_neg hin]
      exact ih

/-- The slots of the diagnostics script. -/
def diagSlots (cfg : GatewayConfig) : List (Nat × List DiagKey) :=
  [(100, [(mcDiagStartSession, 1)]), (200, [(mcDiagReadMode, 2)])] ++
  (if cfg.diagDogfoodInjectFault then
    [(300, [])] ++ (if cfg.diagExtraPtFault then [(310, [])] else [])
  else []) ++
  [(350, [(mcDiagActuatorTest, 6)]), (450, [(mcDiagReadDtcs, 3)]), (650, [(mcDiagClearDtcs, 4)]),
    (750, [(mcDiagReadDtcs, 5)])]

/-- The slots of the enabled scripts that leave the update slots alone. -/
def aloofSlots (cfg : GatewayConfig) : List (Nat × List DiagKey) :=
  (if cfg.diagDogfoodScript then diagSlots cfg else []) ++
  (if cfg.diagStartdriveScript then
    [(100, [(mcDiagStartSession, 1)]), (200, [(mcDiagReadMode, 2)])]
  else []) ++
  (if cfg.chargingDogfoodScript then [(100, []), (300, [])] else [])

/-- The slots of the diagnostics script stand for its actions. -/
theorem sched_diag (cfg : GatewayConfig) (take : Bool) :
    List.Forall₂ Sched (diagScriptActions cfg take) (diagSlots cfg) := by
  have hrequest := fun service requestId => asks_synthDiagRequest service requestId take
  have hfault : Asks [] (synthBmsFault mcBmsFaultOvertemp take) :=
    Answers.asks fun ctx => .of_eq (out_handleBmsFault ctx _ take)
  have hwarning : Asks [] fun ctx =>
      reportFault ctx mcNodePowertrain mcWarnPowertrainOffline 1 take := by
    refine Answers.asks fun ctx => .of_eq ?_
    unfold reportFault
    split_ifs <;> rfl
  have hinjected : List.Forall₂ Sched
      (if cfg.diagDogfoodInjectFault then
        [⟨300, 0x04, synthBmsFault mcBmsFaultOvertemp take⟩] ++
        (if cfg.diagExtraPtFault then
          [⟨310, 0x80, fun ctx => reportFault ctx mcNodePowertrain mcWarnPowertrainOffline 1 take⟩]
        else [])
      else [])
      (if cfg.diagDogfoodInjectFault then
        [(300, [])] ++ (if cfg.diagExtraPtFault then [(310, [])] else [])
      else []) := by
    split_ifs
    · exact .cons ⟨rfl, hfault⟩ (.cons ⟨rfl, hwarning⟩ .nil)
    · exact .cons ⟨rfl, hfault⟩ .nil
    · exact .nil
  have hbefore : List.Forall₂ Sched
      [⟨100, 0x01, synthDiagRequest mcDiagStartSession 1 take⟩,
        ⟨200, 0x02, synthDiagRequest mcDiagReadMode 2 take⟩]
      [(100, [(mcDiagStartSession, 1)]), (200, [(mcDiagReadMode, 2)])] :=
    .cons ⟨rfl, hrequest _ _⟩ (.cons ⟨rfl, hrequest _ _⟩ .nil)
  refine List.rel_append (List.rel_append hbefore hinjected) ?_
  exact .cons ⟨rfl, hrequest _ _⟩ (.cons ⟨rfl, hrequest _ _⟩
    (.cons ⟨rfl, hrequest _ _⟩ (.cons ⟨rfl, hrequest _ _⟩ .nil)))

/-- Words under other labels are all that the charging script emits. -/
theorem asks_chargingAction {a : ScriptAction} (ha : a ∈ chargingScriptActions) :
    Asks [] a.act := by
  refine Answers.asks fun ctx => answers_of_speaks (speaks_chargingScriptActions a ha ctx) ?_
    (by simp [chargingLabels])
  simp only [chargingScriptActions, List.mem_cons, List.not_mem_nil, or_false] at ha
  rcases ha with rfl | rfl
  · have hplug : Silent mcMsgDiagResponse ctx (ctx.setMode .charging) := .of_eq rfl
    exact (hplug.trans (silent_trace _ _ _ _)).trans
      ((silent_trace _ _ _ _).trans (silent_trace _ _ _ _))
  · have htried : Silent mcMsgDiagResponse ctx { ctx with gs := gatewayStateEnterDrive ctx.gs } :=
      .of_eq rfl
    exact htried.trans ((silent_trace _ _ _ _).trans (silent_trace _ _ _ _))

/-- The slots of all the scripts beside the update stand for their actions. -/
theorem sched_aloof (cfg : GatewayConfig) (take : Bool) :
    List.Forall₂ Sched (aloofActions cfg take) (aloofSlots cfg) := by
  have hrequest := fun service requestId => asks_synthDiagRequest service requestId take
  have hdrive : Asks [] fun ctx => (ctx.setMode .drive).announceMode := by
    refine Answers.asks fun ctx => ?_
    have hwords : Speaks ["vehicle_mode"] ctx (ctx.setMode .drive).announceMode := by
      have hset : Speaks ["vehicle_mode"] ctx (ctx.setMode .drive) := .of_eq rfl
      exact hset.trans (speaks_announceMode (by simp) _)
    exact answers_of_speaks hwords (silent_trace _ _ _ _) (by simp)
  have hstart : Asks [(mcDiagStartSession, 1)] fun ctx =>
      synthDiagRequest mcDiagStartSession 1 take (ctx.setMode .drive).announceMode :=
    hdrive.comp (hrequest mcDiagStartSession 1)
  refine List.rel_append (List.rel_append ?_ ?_) ?_
  · split_ifs
    · exact sched_diag cfg take
    · exact .nil
  · split_ifs
    · exact .cons ⟨rfl, hstart⟩ (.cons ⟨rfl, hrequest _ _⟩ .nil)
    · exact .nil
  · split_ifs
    · exact .cons ⟨rfl, asks_chargingAction (by simp [chargingScriptActions])⟩
        (.cons ⟨rfl, asks_chargingAction (by simp [chargingScriptActions])⟩ .nil)
    · exact .nil

/-- The slots hold the requests. -/
theorem aloofSlots_requests (cfg : GatewayConfig) (n : Nat) :
    ((aloofSlots cfg).filter fun slot => inPeriod n slot.1).flatMap Prod.snd =
      ((scriptRequests cfg).filter fun r => inPeriod n r.1).map Prod.snd := by
  have hslots : ∀ slots : List (Nat × List DiagKey),
      (slots.filter fun slot => inPeriod n slot.1).flatMap Prod.snd =
        ((slots.flatMap fun slot => slot.2.map fun key => (slot.1, key)).filter
          fun r => inPeriod n r.1).map Prod.snd := by
    intro slots
    induction slots with
    | nil => rfl
    | cons slot slots ih =>
      rw [List.flatMap_cons, List.filter_append, List.map_append, ← ih, List.filter_map,
        List.map_map]
      cases hin : inPeriod n slot.1 with
      | true => simp [hin, Function.comp_def]
      | false => simp [hin, Function.comp_def]
  rw [hslots, aloofSlots, scriptRequests, diagSlots]
  congr 2
  split_ifs <;> rfl

/-- Words under the labels of the update are all that its writes emit. -/
theorem answers_otaWrite {outcome : OtaEnd} {write : OtaWrite} (hwrite : write ∈ outcome.writes)
    (ctx : GatewayCtx) : Answers [] ctx (ctx.writeOta write) := by
  refine ⟨(write ctx.ota).2, rfl, List.filter_eq_nil_iff.mpr ?_⟩
  simp only [OtaEnd.writes, List.mem_cons, List.not_mem_nil, or_false] at hwrite
  rcases hwrite with rfl | rfl | rfl | rfl | rfl | rfl
  · simp [stateWrite, emitState, isAnswer]
  · unfold downloadWrite
    dsimp only
    split_ifs <;> simp [emitRollback, emitState, isAnswer]
  · unfold verifyWrite
    dsimp only
    split_ifs <;> simp [emitRollback, emitState, isAnswer]
  · unfold commitWrite
    dsimp only
    split_ifs <;> simp [emitRollback, emitState, isAnswer]
  · unfold rebootWrite
    split_ifs <;> simp [emitState, isAnswer]
  · unfold healthWrite
    dsimp only
    split_ifs <;> simp [emitRollback, emitState, isAnswer]

/-- The update script answers nothing. -/
theorem answers_otaActions {cfg : GatewayConfig} {actions : List ScriptAction}
    {writes : List OtaWrite} (h : List.Forall₂ (Makes cfg) actions writes)
    (hwrites : ∀ write ∈ writes, write ∈ cfg.otaEnd.writes) {ctx : GatewayCtx}
    (hcfg : ctx.cfg = cfg) : Answers [] ctx (actAll ScriptAction.act actions ctx) := by
  induction h generalizing ctx with
  | nil => exact .of_eq rfl
  | @cons a write actions writes hmakes _ ih =>
    rw [actAll_cons, hmakes ctx hcfg]
    exact (answers_otaWrite (hwrites write List.mem_cons_self) ctx).trans
      (ih (fun later hlater => hwrites later (List.mem_cons_of_mem write hlater)) hcfg)

/-! ### Requests and answers of a run -/

/-- A step answers the requests that it hands to the services, in order. -/
theorem answers_plannedStep (s : PlannedGateway) (op : GatewayOp) :
    ∃ calls, Answers calls s.ctx (plannedStep s op).ctx ∧
      calls.map DiagCall.key = requestsIn s.ctx.cfg s.period op := by
  by_cases hscripts : ∃ take, op = .scripts take
  · obtain ⟨take, rfl⟩ := hscripts
    obtain ⟨calls, hcalls, hkeys⟩ :=
      asks_falling (sched_aloof s.ctx.cfg take) s.period s.ctx
    have hperiod : fallingDue s.period (enabledActions s.ctx.cfg take) =
        fallingDue s.period (aloofActions s.ctx.cfg take) ++
          fallingDue s.period (if s.ctx.cfg.otaDogfoodScript then otaScriptActions s.ctx.cfg
            else []) := falling_append periodMs s.period _ _
    have henabled : ∀ a ∈ fallingDue s.period (aloofActions s.ctx.cfg take),
        a ∈ enabledActions s.ctx.cfg take :=
      fun a ha => List.mem_append_left _ (List.mem_of_mem_filter ha)
    have hkept := cfg_actAll henabled s.ctx
    have hota : Answers []
        (actAll ScriptAction.act (fallingDue s.period (aloofActions s.ctx.cfg take)) s.ctx)
        (actAll ScriptAction.act (fallingDue s.period
          (if s.ctx.cfg.otaDogfoodScript then otaScriptActions s.ctx.cfg else []))
          (actAll ScriptAction.act
            (fallingDue s.period (aloofActions s.ctx.cfg take)) s.ctx)) := by
      cases s.ctx.cfg.otaDogfoodScript with
      | false => exact .of_eq rfl
      | true =>
        obtain ⟨writes, hmakes, hsplit⟩ := fallingDue_ota_make s.ctx.cfg s.period
        refine answers_otaActions hmakes (fun write hmem => ?_) hkept
        have hall : write ∈ s.ctx.cfg.otaEnd.writes.take ((s.period + 1) / 10) := by
          rw [hsplit]
          exact List.mem_append_right _ hmem
        exact List.mem_of_mem_take hall
    refine ⟨calls, ?_, hkeys.trans (aloofSlots_requests s.ctx.cfg s.period)⟩
    rw [plannedStep, hperiod, actAll_append]
    have hboth := hcalls.trans hota
    rwa [List.append_nil] at hboth
  · have hother : ∀ take, op ≠ .scripts take := fun take heq => hscripts ⟨take, heq⟩
    rw [plannedStep_of_ne hother]
    by_cases hframe : ∃ f take, op = .frame f take
    · obtain ⟨f, take, rfl⟩ := hframe
      exact asks_frame f take s.ctx
    · have hnone := asks_task hother (fun f take heq => hframe ⟨f, take, heq⟩) s.ctx
      cases op with
      | frame f take => exact absurd ⟨f, take, rfl⟩ hframe
      | scripts take => exact absurd ⟨take, rfl⟩ hscripts
      | _ => exact hnone

/-- The requests of a history that starts behind `n` periods. -/
def requestsFrom (cfg : GatewayConfig) (n : Nat) : List GatewayOp → List DiagKey
  | [] => []
  | op :: ops =>
    requestsIn cfg n op ++ requestsFrom cfg (if op.isPeriod then n + 1 else n) ops

/-- The requests of the last step come last. -/
theorem requestsFrom_snoc (cfg : GatewayConfig) (n : Nat) (ops : List GatewayOp)
    (op : GatewayOp) : requestsFrom cfg n (ops ++ [op]) =
      requestsFrom cfg n ops ++ requestsIn cfg (n + periods ops) op := by
  induction ops generalizing n with
  | nil => simp [requestsFrom, periods]
  | cons first ops ih =>
    have hperiods : (if first.isPeriod then n + 1 else n) + periods ops =
        n + periods (first :: ops) := by
      rw [periods, periods, List.countP_cons]
      split_ifs <;> omega
    rw [List.cons_append, requestsFrom, ih, hperiods, requestsFrom, List.append_assoc]

/-- A run of the planned gateway answers its requests in order. -/
theorem answers_plannedRun (cfg : GatewayConfig) (ops : List GatewayOp) :
    ∃ calls, Answers calls (gatewayBoot cfg) (run plannedStep (plannedBoot cfg) ops).ctx ∧
      calls.map DiagCall.key = requestsFrom cfg 0 ops := by
  induction ops using List.reverseRecOn with
  | nil => exact ⟨[], .of_eq rfl, rfl⟩
  | append_singleton ops op ih =>
    obtain ⟨calls, hcalls, hkeys⟩ := ih
    obtain ⟨more, hmore, hmorekeys⟩ :=
      answers_plannedStep (run plannedStep (plannedBoot cfg) ops) op
    rw [run_snoc]
    refine ⟨calls ++ more, hcalls.trans hmore, ?_⟩
    rw [List.map_append, hkeys, hmorekeys, requestsFrom_snoc, cfg_plannedRun,
      period_run, Nat.zero_add]

/-- The emissions of an answer hold its frame and its words. -/
theorem framesOf_filter (out : List Emission) :
    framesOf mcMsgDiagResponse (out.filter isAnswer) = framesOf mcMsgDiagResponse out := by
  induction out with
  | nil => rfl
  | cons emission out ih =>
    have hcons : framesOf mcMsgDiagResponse (emission :: out) =
        framesOf mcMsgDiagResponse [emission] ++ framesOf mcMsgDiagResponse out :=
      framesOf_append _ [emission] out
    by_cases hanswer : isAnswer emission = true
    · rw [List.filter_cons_of_pos hanswer, ← List.singleton_append, framesOf_append, ih, hcons]
    · have hother : framesOf mcMsgDiagResponse [emission] = [] := by
        cases emission with
        | trace label value => rfl
        | can frame => exact framesOf_can_of_ne (by simpa [isAnswer] using hanswer)
      rw [List.filter_cons_of_neg hanswer, ih, hcons, hother, List.nil_append]

/-- Among the trace words, the answers are the diagnostic events. -/
theorem userTraces_filter (out : List Emission) :
    userTraces (out.filter isAnswer) = (userTraces out).filter isDiagEvent := by
  induction out with
  | nil => rfl
  | cons emission out ih =>
    cases emission with
    | trace label value =>
      have hword : userTraces (.trace label value :: out) =
          ⟨nodeGateway, label, value⟩ :: userTraces out := rfl
      have hsame : isDiagEvent ⟨nodeGateway, label, value⟩ = isAnswer (.trace label value) := by
        simp [isDiagEvent, isAnswer]
      rw [hword, List.filter_cons, List.filter_cons, hsame, ← ih]
      split <;> rfl
    | can frame =>
      have hframe : ∀ rest, userTraces (.can frame :: rest) = userTraces rest := fun _ => rfl
      rw [List.filter_cons, hframe, ← ih]
      split
      · exact hframe _
      · rfl

/-- The frames of the answers tell the calls. -/
theorem answersIn_emissions (calls : List DiagCall) :
    answersIn (calls.flatMap DiagCall.emissions) = calls := by
  induction calls with
  | nil => rfl
  | cons call calls ih =>
    have hone : answersIn call.emissions = [call] := by
      have hframe : framesOf mcMsgDiagResponse call.emissions =
          [diagResponseFrame call.service call.requestId call.reply] := rfl
      rw [answersIn, hframe, List.map_singleton, callOf_diagResponseFrame]
    rw [List.flatMap_cons, answersIn_append, hone, ih, List.singleton_append]

/-- The trace words of the answers are the events of the calls. -/
theorem userTraces_emissions (calls : List DiagCall) :
    userTraces (calls.flatMap DiagCall.emissions) = calls.flatMap DiagCall.events := by
  induction calls with
  | nil => rfl
  | cons call calls ih =>
    rw [List.flatMap_cons, userTraces_append, ih, List.flatMap_cons]
    rfl

/-- The answers of a log that these calls extend. -/
theorem Answers.answersIn {calls : List DiagCall} {ctx ctx' : GatewayCtx}
    (h : Answers calls ctx ctx') : answersIn ctx'.out = answersIn ctx.out ++ calls := by
  obtain ⟨new, hout, hnew⟩ := h
  have hcalls : Dogfood.answersIn new = calls := by
    rw [Dogfood.answersIn, ← framesOf_filter, hnew]
    exact answersIn_emissions calls
  rw [hout, answersIn_append, hcalls]

/-- A longer log has the answers of a shorter one first. -/
theorem answersIn_mono {out more : List Emission} (h : out <+: more) :
    answersIn out <+: answersIn more := by
  obtain ⟨new, rfl⟩ := h
  rw [answersIn_append]
  exact List.prefix_append _ _

/-- The head word of an answer. -/
def DiagCall.head (call : DiagCall) : UInt32 :=
  dwordOfBytes call.requestId call.service call.reply.status call.reply.value0

/-- The head words of a log with whole answers. -/
theorem wordsUnder_head {out : List Emission}
    (h : out.filter isAnswer = (answersIn out).flatMap DiagCall.emissions) :
    wordsUnder "gateway_diag_response" out = (answersIn out).map DiagCall.head := by
  have hfilter : wordsUnder "gateway_diag_response" (out.filter isAnswer) =
      wordsUnder "gateway_diag_response" out := by
    rw [wordsUnder, wordsUnder, List.filterMap_filter]
    apply List.filterMap_congr
    intro emission _
    cases emission with
    | trace label value =>
      by_cases hlabel : label = "gateway_diag_response"
      · simp [isAnswer, hlabel]
      · simp [Emission.value?, hlabel]
    | can frame => simp [Emission.value?]
  have hcalls : ∀ calls : List DiagCall,
      wordsUnder "gateway_diag_response" (calls.flatMap DiagCall.emissions) =
        calls.map DiagCall.head := by
    intro calls
    induction calls with
    | nil => rfl
    | cons call calls ih =>
      have hone : wordsUnder "gateway_diag_response" call.emissions = [call.head] := by
        simp [DiagCall.emissions, wordsUnder, Emission.value?, DiagCall.head]
      rw [List.flatMap_cons, wordsUnder_append, hone, ih, List.map_cons, List.singleton_append]
  rw [← hfilter, h, hcalls]

/-- The answers of a run are those to its requests. -/
theorem answers_gatewayRun (cfg : GatewayConfig) (ops : List GatewayOp) :
    (run gatewayStep (gatewayBoot cfg) ops).out.filter isAnswer =
        (answersIn (run gatewayStep (gatewayBoot cfg) ops).out).flatMap DiagCall.emissions ∧
      (answersIn (run gatewayStep (gatewayBoot cfg) ops).out).map DiagCall.key =
        requestsFrom cfg 0 ops := by
  obtain ⟨calls, hcalls, hkeys⟩ := answers_plannedRun cfg ops
  have hbeat : (sendHeartbeat 0).id ≠ mcMsgDiagResponse := by
    change mcMsgHeartbeat ≠ mcMsgDiagResponse
    decide
  have hboot : (gatewayBoot cfg).out.filter isAnswer = [] := by
    simp [gatewayBoot, isAnswer, hbeat]
  have hnone : answersIn (gatewayBoot cfg).out = [] := by
    rw [answersIn, ← framesOf_filter, hboot]
    rfl
  rw [← out_plannedRun, hcalls.answersIn, hnone, List.nil_append]
  obtain ⟨new, hout, hnew⟩ := hcalls
  rw [hout, List.filter_append, hboot, hnew, List.nil_append]
  exact ⟨rfl, hkeys⟩

end Microcar.Dogfood
