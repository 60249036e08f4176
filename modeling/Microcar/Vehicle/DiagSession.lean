import Microcar.Dogfood.Answers
import Microcar.Tools.DiagTool
import Microcar.Vehicle.Bus

/-!
# The diagnostics tool and the gateway on one bus

The tool, the gateway and a link towards each. Frames of different identifiers may overtake each
other on the way, those of one identifier may not. Other nodes send what they like, but neither
requests nor responses. The scripts of the gateway may ask it as well. Whatever the order in which
the two work and frames arrive, a request of the tool is on its way, answered on its way back, or
traced by the tool.
-/

namespace Microcar.Vehicle

open Microcar.Core Microcar.Gateway Microcar.Tools
open Microcar.Dogfood (DiagCall DiagKey answersIn answersIn_append isAnswer requestsOf requestsIn
  requestsFrom requestsFrom_snoc scriptRequests answers_gatewayRun framesOf_filter
  wordsUnder_head)

/-! ### What frames mean to the two -/

/-- The request in a frame on the way. -/
def sentRequest? (f : BusFrame) : Option DiagKey :=
  if f.id = mcMsgDiagRequest ∧ mcDiagRequestMsgSize ≤ f.len then
    some (f.data.get 1, f.data.get 2)
  else none

/-- The request in a frame that the gateway receives. -/
def readRequest? (f : RxFrame) : Option DiagKey :=
  if f.id = mcMsgDiagRequest ∧ mcDiagRequestMsgSize ≤ f.len then
    some (f.data.get 1, f.data.get 2)
  else none

/-- The word of a response on the way. -/
def sentResponse? (f : BusFrame) : Option UInt32 :=
  if f.id = mcMsgDiagResponse ∧ f.data.get 0 = mcNodeGateway ∧ mcDiagResponseMsgSize ≤ f.len then
    some (dwordOfBytes (f.data.get 2) (f.data.get 1) (f.data.get 3) (f.data.get 4))
  else none

/-- The word of a response that the tool receives. -/
def readResponse? (f : RxFrame) : Option UInt32 := responseWord? f.toMcCanFrame

/-- Only request frames carry a request. -/
theorem id_of_sentRequest {f : BusFrame} (h : sentRequest? f ≠ none) : f.id = mcMsgDiagRequest := by
  by_contra hne
  exact h (if_neg fun h => hne h.1)

/-- Only response frames carry an answer. -/
theorem id_of_sentResponse {f : BusFrame} (h : sentResponse? f ≠ none) :
    f.id = mcMsgDiagResponse := by
  by_contra hne
  exact h (if_neg fun h => hne h.1)

/-- The gateway reads the request that was sent, whatever its buffer held before. -/
theorem faithful_request (buffer : Vector UInt8 8) :
    Faithful BusFrame.id (fun f => f.receive buffer) sentRequest? readRequest? where
  read f := by
    unfold sentRequest? readRequest?
    by_cases h : f.id = mcMsgDiagRequest ∧ mcDiagRequestMsgSize ≤ f.len
    · have hlen : 4 ≤ f.len.toNat := UInt8.le_iff_toNat_le.mp h.2
      have hservice := f.get_data_receive buffer (i := 1) (Nat.lt_of_lt_of_le (by decide) hlen)
      have hid := f.get_data_receive buffer (i := 2) (Nat.lt_of_lt_of_le (by decide) hlen)
      have hread : (f.receive buffer).id = mcMsgDiagRequest ∧
        mcDiagRequestMsgSize ≤ (f.receive buffer).len := h
      rw [if_pos h, if_pos hread, hservice, hid]
    · have hread : ¬ ((f.receive buffer).id = mcMsgDiagRequest ∧
        mcDiagRequestMsgSize ≤ (f.receive buffer).len) := h
      rw [if_neg h, if_neg hread]
  kind _ _ hf hg := (id_of_sentRequest hf).trans (id_of_sentRequest hg).symm

/-- The tool reads the answer that was sent, whatever its buffer held before. -/
theorem faithful_response (buffer : Vector UInt8 8) :
    Faithful BusFrame.id (fun f => f.receive buffer) sentResponse? readResponse? where
  read f := by
    unfold sentResponse? readResponse? responseWord?
    have hsender : (f.receive buffer).sender = f.data.get 0 :=
      ((f.receive buffer).sender_eq).trans
        (f.get_data_receive buffer (UInt8.lt_iff_toNat_lt.mp f.len_pos))
    rw [hsender]
    by_cases h : f.id = mcMsgDiagResponse ∧ f.data.get 0 = mcNodeGateway ∧
      mcDiagResponseMsgSize ≤ f.len
    · have hlen : 6 ≤ f.len.toNat := UInt8.le_iff_toNat_le.mp h.2.2
      have hservice := f.get_data_receive buffer (i := 1) (Nat.lt_of_lt_of_le (by decide) hlen)
      have hid := f.get_data_receive buffer (i := 2) (Nat.lt_of_lt_of_le (by decide) hlen)
      have hstatus := f.get_data_receive buffer (i := 3) (Nat.lt_of_lt_of_le (by decide) hlen)
      have hvalue := f.get_data_receive buffer (i := 4) (Nat.lt_of_lt_of_le (by decide) hlen)
      have hread : (f.receive buffer).id = mcMsgDiagResponse ∧ f.data.get 0 = mcNodeGateway ∧
        mcDiagResponseMsgSize ≤ (f.receive buffer).len := h
      rw [if_pos h, if_pos hread, hservice, hid, hstatus, hvalue]
    · have hread : ¬ ((f.receive buffer).id = mcMsgDiagResponse ∧ f.data.get 0 = mcNodeGateway ∧
        mcDiagResponseMsgSize ≤ (f.receive buffer).len) := h
      rw [if_neg h, if_neg hread]
  kind _ _ hf hg := (id_of_sentResponse hf).trans (id_of_sentResponse hg).symm

/-! ### The bus -/

/-- The two ECUs and the links towards them. -/
structure DiagBus where
  tool : DiagToolCtx
  gateway : GatewayCtx
  toTool : Link BusFrame RxFrame
  toGateway : Link BusFrame RxFrame

/-- One step on the bus. -/
inductive DiagBusEvent where
  /-- Any other node publishes a frame. -/
  | other (frame : BusFrame) (hrequest : frame.id ≠ mcMsgDiagRequest)
    (hresponse : frame.id ≠ mcMsgDiagResponse)
  /-- A frame in flight reaches the gateway. -/
  | deliverGateway (i : Nat) (buffer : Vector UInt8 8)
  /-- A frame in flight reaches the tool. -/
  | deliverTool (i : Nat) (buffer : Vector UInt8 8)
  /-- The receive task of the gateway takes a frame. -/
  | gatewayReceives (take : Bool)
  /-- Any other step of the gateway. -/
  | gateway (op : GatewayOp) (hop : ∀ f take, op ≠ .frame f take)
  /-- The script of the tool, at the start of its iteration. -/
  | toolScript
  /-- The receive loop of the tool takes a frame. -/
  | toolReceives
  /-- The heartbeat of the tool, at the end of its iteration. -/
  | toolBeats

/-- A step of the gateway puts its frames on the bus. -/
def DiagBus.gatewayDoes (s : DiagBus) (op : GatewayOp) : DiagBus :=
  let gateway := gatewayStep s.gateway op
  { s with
    gateway := gateway
    toTool := s.toTool.publish (framesSent (gateway.out.drop s.gateway.out.length)) }

/-- So does a step of the tool. -/
def DiagBus.toolDoes (s : DiagBus) (f : DiagToolCtx → DiagToolCtx) : DiagBus :=
  let tool := f s.tool
  { s with
    tool := tool
    toGateway := s.toGateway.publish (framesSent (tool.out.drop s.tool.out.length)) }

/-- The effect of one step. -/
def diagBusStep (s : DiagBus) : DiagBusEvent → DiagBus
  | .other frame _ _ =>
    { s with toTool := s.toTool.publish [frame], toGateway := s.toGateway.publish [frame] }
  | .deliverGateway i buffer =>
    { s with toGateway := s.toGateway.deliverAt BusFrame.id (fun f => f.receive buffer) i }
  | .deliverTool i buffer =>
    { s with toTool := s.toTool.deliverAt BusFrame.id (fun f => f.receive buffer) i }
  | .gatewayReceives take =>
    match s.toGateway.inbox with
    | [] => s
    | f :: _ => { s with toGateway := s.toGateway.pop }.gatewayDoes (.frame f take)
  | .gateway op _ => s.gatewayDoes op
  | .toolScript => s.toolDoes scriptPhase
  | .toolReceives =>
    match s.toTool.inbox with
    | [] => s
    | f :: _ => { s with toTool := s.toTool.pop }.toolDoes fun tool => receivePhase tool f
  | .toolBeats => s.toolDoes Tools.heartbeatPhase

/-- Both have booted, and their boot heartbeats are in flight. -/
def diagBusBoot (cfg : GatewayConfig) : DiagBus where
  tool := diagToolBoot
  gateway := gatewayBoot cfg
  toTool := ⟨framesSent (gatewayBoot cfg).out, []⟩
  toGateway := ⟨framesSent diagToolBoot.out, []⟩

/-- An iteration of the tool begins. -/
def DiagBusEvent.isToolScript : DiagBusEvent → Bool
  | .toolScript => true
  | _ => false

/-- Iterations of the tool in a history. -/
def toolIterations (events : List DiagBusEvent) : Nat := events.countP DiagBusEvent.isToolScript

/-- The gateway runs its scripts. -/
def DiagBusEvent.isPeriod : DiagBusEvent → Bool
  | .gateway op _ => op.isPeriod
  | _ => false

/-- Periods of the gateway's scripts in a history. -/
def scriptPeriods (events : List DiagBusEvent) : Nat := events.countP DiagBusEvent.isPeriod

/-- A whole iteration of the tool is a history: it sends, takes what has been delivered and
beats. -/
theorem tool_iteration (s : DiagBus) :
    (run diagBusStep s (.toolScript :: (List.replicate s.toTool.inbox.length .toolReceives ++
      [.toolBeats]))).tool = diagnosticsToolMain s.tool s.toTool.inbox := by
  have htaken : ∀ (rx : List RxFrame) (s : DiagBus), s.toTool.inbox = rx →
      (run diagBusStep s (List.replicate rx.length .toolReceives)).tool =
        rx.foldl receivePhase s.tool := by
    intro rx
    induction rx with
    | nil => exact fun _ _ => rfl
    | cons f rest ih =>
      intro s hinbox
      have hstep : diagBusStep s .toolReceives =
          { s with toTool := s.toTool.pop }.toolDoes fun tool => receivePhase tool f := by
        rw [diagBusStep, hinbox]
      have hrest : (diagBusStep s .toolReceives).toTool.inbox = rest := by
        rw [hstep]
        exact congrArg List.tail hinbox
      have htool : (diagBusStep s .toolReceives).tool = receivePhase s.tool f := by
        rw [hstep]
        rfl
      rw [List.length_cons, List.replicate_succ, run_cons, ih _ hrest, htool, List.foldl_cons]
  rw [run_cons, run_append]
  exact congrArg Tools.heartbeatPhase (htaken s.toTool.inbox (diagBusStep s .toolScript) rfl)

/-! ### What the two send -/

/-- A request frame carries its service and number. -/
theorem sentRequest_diagRequestFrame (service requestId param : UInt8) :
    (BusFrame.ofSend? (diagRequestFrame service requestId param)).bind sentRequest? =
      some (service, requestId) := by
  have hfits : 0 < (diagRequestFrame service requestId param).len ∧
      (diagRequestFrame service requestId param).len ≤ 8 := by
    change 0 < mcDiagRequestMsgSize ∧ mcDiagRequestMsgSize ≤ 8
    decide
  rw [BusFrame.ofSend?, dif_pos hfits, Option.bind_some, sentRequest?,
    if_pos ⟨rfl, UInt8.le_refl _⟩]
  simp [diagRequestFrame, McCanFrame.get_data_put]

/-- A response frame carries the head of its call. -/
theorem sentResponse_diagResponseFrame (call : DiagCall) :
    (BusFrame.ofSend? (diagResponseFrame call.service call.requestId call.reply)).bind
      sentResponse? = some call.head := by
  have hfits : 0 < (diagResponseFrame call.service call.requestId call.reply).len ∧
      (diagResponseFrame call.service call.requestId call.reply).len ≤ 8 := by
    change 0 < mcDiagResponseMsgSize ∧ mcDiagResponseMsgSize ≤ 8
    decide
  have hsender : (diagResponseFrame call.service call.requestId call.reply).data.get 0 =
      mcNodeGateway := by
    simp [diagResponseFrame, McCanFrame.get_data_put]
  rw [BusFrame.ofSend?, dif_pos hfits, Option.bind_some, sentResponse?,
    if_pos ⟨rfl, hsender, UInt8.le_refl _⟩]
  simp [diagResponseFrame, McCanFrame.get_data_put, DiagCall.head]

/-- The requests of the tool's frames. -/
theorem requests_requestFrames (requests : List ToolRequest) :
    (framesSent (requestFrames requests)).filterMap sentRequest? =
      requests.map ToolRequest.key := by
  rw [filterMap_framesSent fun _ => id_of_sentRequest]
  induction requests with
  | nil => rfl
  | cons r requests ih =>
    have hframe : framesOf mcMsgDiagRequest (requestFrames (r :: requests)) =
        diagRequestFrame r.service r.requestId r.param ::
          framesOf mcMsgDiagRequest (requestFrames requests) := rfl
    rw [hframe, List.filterMap_cons, sentRequest_diagRequestFrame, ih]
    rfl

/-- The responses of a log of the gateway are its answers. -/
theorem responses_answersIn {out : List Emission}
    (h : out.filter isAnswer = (answersIn out).flatMap DiagCall.emissions) :
    (framesSent out).filterMap sentResponse? = (answersIn out).map DiagCall.head := by
  rw [filterMap_framesSent fun _ => id_of_sentResponse, ← framesOf_filter, h]
  induction answersIn out with
  | nil => rfl
  | cons call calls ih =>
    have hframe : framesOf mcMsgDiagResponse ((call :: calls).flatMap DiagCall.emissions) =
        diagResponseFrame call.service call.requestId call.reply ::
          framesOf mcMsgDiagResponse (calls.flatMap DiagCall.emissions) := rfl
    rw [hframe, List.filterMap_cons, sentResponse_diagResponseFrame, ih]
    rfl

/-! ### Who asks -/

/-- Who asks the gateway. -/
inductive Asker where
  /-- The tool, over the bus. -/
  | tool
  /-- A script of the gateway. -/
  | script
  deriving DecidableEq

/-- The requests of one asker, in order. -/
def asksOf (asker : Asker) (asked : List (Asker × DiagKey)) : List DiagKey :=
  (asked.filter fun ask => ask.1 = asker).map Prod.snd

/-- What one asker asks is asked in the first part or in the second. -/
theorem asksOf_append (asker : Asker) (asked more : List (Asker × DiagKey)) :
    asksOf asker (asked ++ more) = asksOf asker asked ++ asksOf asker more := by
  rw [asksOf, List.filter_append, List.map_append]
  rfl

/-- Requests of one asker are all its own. -/
theorem asksOf_self (asker : Asker) (keys : List DiagKey) :
    asksOf asker (keys.map (Prod.mk asker)) = keys := by
  rw [asksOf, List.filter_eq_self.mpr, List.map_map]
  · exact List.map_id keys
  · intro ask hask
    obtain ⟨key, -, rfl⟩ := List.mem_map.mp hask
    exact decide_eq_true rfl

/-- None of them is another's. -/
theorem asksOf_other {asker other : Asker} (h : other ≠ asker) (keys : List DiagKey) :
    asksOf asker (keys.map (Prod.mk other)) = [] := by
  rw [asksOf, List.filter_eq_nil_iff.mpr, List.map_nil]
  intro ask hask
  obtain ⟨key, -, rfl⟩ := List.mem_map.mp hask
  simpa using h

/-- The requests of the scripts of the gateway in their first periods. -/
def scriptRequestsBy (cfg : GatewayConfig) (periods : Nat) : List DiagKey :=
  (List.range periods).flatMap fun n => requestsIn cfg n (.scripts true)

/-- One period more brings its requests. -/
theorem scriptRequestsBy_succ (cfg : GatewayConfig) (n : Nat) :
    scriptRequestsBy cfg (n + 1) = scriptRequestsBy cfg n ++ requestsIn cfg n (.scripts true) := by
  rw [scriptRequestsBy, List.range_succ, List.flatMap_append, List.flatMap_singleton]
  rfl

/-! ### Conservation -/

/-- Behind `n` iterations of the tool and `k` periods of the gateway's scripts, every request that
the tool has sent is on its way or handed to the services, with those of the scripts in between,
and every answer is on its way or traced. -/
structure Exchange (cfg : GatewayConfig) (n k : Nat) (asked : List (Asker × DiagKey))
    (ops : List GatewayOp) (s : DiagBus) : Prop where
  gateway : s.gateway = run gatewayStep (gatewayBoot cfg) ops
  script : s.tool.Behind n
  period : periods ops = k
  keys : requestsFrom cfg 0 ops = asked.map Prod.snd
  requests : asksOf .tool asked ++ s.toGateway.pending sentRequest? readRequest? =
    (requestsDue n).map ToolRequest.key
  synthetic : asksOf .script asked = scriptRequestsBy cfg k
  responses : wordsUnder "diag_response" s.tool.out ++
    s.toTool.pending sentResponse? readResponse? = (answersIn s.gateway.out).map DiagCall.head

section Exchange

variable {cfg : GatewayConfig} {n k : Nat} {asked : List (Asker × DiagKey)}
  {ops : List GatewayOp} {s : DiagBus}

/-- At boot nothing has been asked. -/
theorem exchange_boot (cfg : GatewayConfig) : Exchange cfg 0 0 [] [] (diagBusBoot cfg) := by
  have hbeat : ∀ node, (heartbeatFrame node 0).id ≠ mcMsgDiagRequest := by
    intro node
    change mcMsgHeartbeat ≠ mcMsgDiagRequest
    decide
  have hbeat' : (sendHeartbeat 0).id ≠ mcMsgDiagResponse := by
    change mcMsgHeartbeat ≠ mcMsgDiagResponse
    decide
  have htool : framesOf mcMsgDiagRequest diagToolBoot.out = [] := framesOf_can_of_ne (hbeat _)
  have hgateway : framesOf mcMsgDiagResponse (gatewayBoot cfg).out = [] := by
    rw [gatewayBoot]
    exact framesOf_can_of_ne hbeat'
  refine ⟨rfl, behind_diagToolBoot, rfl, rfl, ?_, rfl, ?_⟩
  · have hpending : (diagBusBoot cfg).toGateway.pending sentRequest? readRequest? = [] :=
      pending_boot (fun _ => id_of_sentRequest) htool
    rw [hpending]
    rfl
  · have hpending : (diagBusBoot cfg).toTool.pending sentResponse? readResponse? = [] :=
      pending_boot (fun _ => id_of_sentResponse) hgateway
    have hnone : answersIn (diagBusBoot cfg).gateway.out = [] := by
      rw [answersIn]
      exact congrArg (List.map _) hgateway
    rw [hpending, hnone]
    rfl

/-- A step of the gateway publishes what it answers. -/
theorem Exchange.gatewayDoes (h : Exchange cfg n k asked ops s) (op : GatewayOp)
    {toGateway : Link BusFrame RxFrame} {more : List (Asker × DiagKey)}
    (hmore : requestsIn cfg k op = more.map Prod.snd)
    (hlink : asksOf .tool more ++ toGateway.pending sentRequest? readRequest? =
      s.toGateway.pending sentRequest? readRequest?)
    (hsynthetic : scriptRequestsBy cfg (k + if op.isPeriod then 1 else 0) =
      scriptRequestsBy cfg k ++ asksOf .script more) :
    Exchange cfg n (k + if op.isPeriod then 1 else 0) (asked ++ more) (ops ++ [op])
      ({ s with toGateway := toGateway }.gatewayDoes op) := by
  obtain ⟨hgateway, hscript, rfl, hasked, hrequests, hscripts, hresponses⟩ := h
  have hperiod : periods (ops ++ [op]) = periods ops + if op.isPeriod then 1 else 0 := by
    rw [periods, List.countP_append, List.countP_singleton]
    rfl
  have hstep : gatewayStep s.gateway op = run gatewayStep (gatewayBoot cfg) (ops ++ [op]) := by
    rw [run_snoc, hgateway]
  obtain ⟨new, hnew⟩ := grows_gatewayStep s.gateway op
  have hnewer : (gatewayStep s.gateway op).out.drop s.gateway.out.length = new := by
    rw [← hnew, List.drop_left]
  have hold := (answers_gatewayRun cfg ops).1
  have hall := (answers_gatewayRun cfg (ops ++ [op])).1
  rw [← hgateway] at hold
  rw [← hstep, ← hnew, List.filter_append, answersIn_append, List.flatMap_append, hold] at hall
  have hanswers := responses_answersIn (List.append_cancel_left hall)
  refine ⟨hstep, hscript, hperiod, ?_, ?_, ?_, ?_⟩
  · rw [requestsFrom_snoc, Nat.zero_add, hasked, hmore, List.map_append]
  · rw [asksOf_append, List.append_assoc, ← hrequests]
    exact congrArg _ hlink
  · rw [asksOf_append, hscripts, hsynthetic]
  · have hlog : (DiagBus.gatewayDoes { s with toGateway := toGateway } op).gateway.out =
        s.gateway.out ++ new := hnew.symm
    have hpublished : (DiagBus.gatewayDoes { s with toGateway := toGateway } op).toTool =
        s.toTool.publish (framesSent new) := by
      rw [← hnewer]
      rfl
    rw [hlog, hpublished, Link.pending_publish, hanswers, answersIn_append, List.map_append,
      ← hresponses, List.append_assoc]
    rfl

/-- A step of the tool publishes the requests that it sends, and traces what it takes. -/
theorem Exchange.toolDoes (h : Exchange cfg n k asked ops s) {f : DiagToolCtx → DiagToolCtx}
    {m : Nat} {new : List Emission} {toTool : Link BusFrame RxFrame}
    (hout : (f s.tool).out = s.tool.out ++ new) (hscript : (f s.tool).Behind m)
    (hsent : (requestsDue m).map ToolRequest.key =
      (requestsDue n).map ToolRequest.key ++ (framesSent new).filterMap sentRequest?)
    (hheard : wordsUnder "diag_response" new ++ toTool.pending sentResponse? readResponse? =
      s.toTool.pending sentResponse? readResponse?) :
    Exchange cfg m k asked ops ({ s with toTool := toTool }.toolDoes f) := by
  have hpublished : (DiagBus.toolDoes { s with toTool := toTool } f).toGateway =
      s.toGateway.publish (framesSent new) := by
    rw [DiagBus.toolDoes]
    dsimp only
    rw [hout, List.drop_left]
  refine ⟨h.gateway, hscript, h.period, h.keys, ?_, h.synthetic, ?_⟩
  · rw [hpublished, Link.pending_publish, ← List.append_assoc, h.requests, hsent]
  · have hlog : (DiagBus.toolDoes { s with toTool := toTool } f).tool.out = s.tool.out ++ new :=
      hout
    rw [hlog, wordsUnder_append, List.append_assoc]
    exact (congrArg _ hheard).trans h.responses

/-- The gateway hands the oldest received request to the services. -/
theorem Exchange.gatewayReceives (h : Exchange cfg n k asked ops s) (take : Bool) :
    ∃ moreAsked moreOps, Exchange cfg n k (asked ++ moreAsked) (ops ++ moreOps)
      (diagBusStep s (.gatewayReceives take)) := by
  have hpop : s.toGateway.pending sentRequest? readRequest? = _ := s.toGateway.pending_pop
  rw [diagBusStep]
  cases hinbox : s.toGateway.inbox with
  | nil =>
    refine ⟨[], [], ?_⟩
    rw [List.append_nil, List.append_nil]
    exact h
  | cons f rest =>
    have hrequests : requestsIn cfg k (.frame f take) = (readRequest? f).toList := by
      rw [requestsIn, requestsOf, readRequest?]
      split <;> rfl
    refine ⟨(readRequest? f).toList.map (Prod.mk .tool), [.frame f take],
      h.gatewayDoes (.frame f take) ?_ ?_ ?_⟩
    · rw [hrequests, List.map_map]
      exact (List.map_id _).symm
    · rw [asksOf_self, hpop, hinbox]
      rfl
    · rw [asksOf_other (by decide), List.append_nil]
      rfl

/-- Apart from received frames, only a period of the scripts asks for something. -/
theorem Exchange.gatewayMoves (h : Exchange cfg n k asked ops s) {op : GatewayOp}
    (hop : ∀ f take, op ≠ .frame f take) :
    ∃ moreAsked moreOps, Exchange cfg n (k + if op.isPeriod then 1 else 0)
      (asked ++ moreAsked) (ops ++ moreOps) (s.gatewayDoes op) := by
  by_cases hscripts : ∃ take, op = .scripts take
  · obtain ⟨take, rfl⟩ := hscripts
    refine ⟨(requestsIn cfg k (.scripts take)).map (Prod.mk .script), [.scripts take],
      h.gatewayDoes (.scripts take) ?_ ?_ ?_⟩
    · rw [List.map_map]
      exact (List.map_id _).symm
    · rw [asksOf_other (by decide), List.nil_append]
    · rw [asksOf_self]
      exact scriptRequestsBy_succ cfg k
  · obtain ⟨hnone, hperiod⟩ : requestsIn cfg k op = [] ∧ op.isPeriod = false := by
      cases op with
      | frame f take => exact absurd rfl (hop f take)
      | scripts take => exact absurd ⟨take, rfl⟩ hscripts
      | _ => exact ⟨rfl, rfl⟩
    refine ⟨[], [op], h.gatewayDoes op hnone rfl ?_⟩
    rw [hperiod]
    exact (List.append_nil _).symm

/-- An iteration of the tool's script sends the requests that have become due. -/
theorem Exchange.toolScript (h : Exchange cfg n k asked ops s) :
    Exchange cfg (n + 1) k asked ops (diagBusStep s .toolScript) := by
  obtain ⟨hscript, requests, hout, hdue⟩ := scriptPhase_behind h.script
  have hsent : (requestsDue (n + 1)).map ToolRequest.key =
      (requestsDue n).map ToolRequest.key ++
        (framesSent (requestFrames requests)).filterMap sentRequest? := by
    rw [hdue, List.map_append, requests_requestFrames]
  have hsilent : wordsUnder "diag_response" (requestFrames requests) = [] := by
    rw [wordsUnder, requestFrames, List.filterMap_map]
    exact List.filterMap_eq_nil_iff.mpr fun _ _ => rfl
  refine h.toolDoes hout hscript hsent ?_
  rw [hsilent, List.nil_append]

/-- The tool traces the oldest received answer. -/
theorem Exchange.toolReceives (h : Exchange cfg n k asked ops s) :
    Exchange cfg n k asked ops (diagBusStep s .toolReceives) := by
  have hpop : s.toTool.pending sentResponse? readResponse? = _ := s.toTool.pending_pop
  rw [diagBusStep]
  cases hinbox : s.toTool.inbox with
  | nil => exact h
  | cons f rest =>
    obtain ⟨new, hphase, hframes, hwords⟩ := receivePhase_out s.tool f
    have hsent : framesSent new = [] := by
      rw [framesSent, hframes]
      rfl
    refine h.toolDoes (by rw [hphase]) (by rw [hphase]; exact h.script) ?_ ?_
    · rw [hsent, List.filterMap_nil, List.append_nil]
    · rw [hpop, hinbox, hwords]
      rfl

/-- A heartbeat of the tool neither asks nor traces. -/
theorem Exchange.toolBeats (h : Exchange cfg n k asked ops s) :
    Exchange cfg n k asked ops (diagBusStep s .toolBeats) := by
  obtain ⟨new, hphase, hframes, hwords⟩ := heartbeatPhase_out s.tool
  refine h.toolDoes (by rw [hphase]) (by rw [hphase]; exact h.script) ?_ ?_
  · rw [filterMap_framesSent (fun _ => id_of_sentRequest), hframes, List.filterMap_nil,
      List.append_nil]
  · rw [hwords, List.nil_append]

/-- Every step on the bus keeps the account. -/
theorem Exchange.step (h : Exchange cfg n k asked ops s) (event : DiagBusEvent) :
    ∃ moreAsked moreOps, Exchange cfg (n + if event.isToolScript then 1 else 0)
      (k + if event.isPeriod then 1 else 0) (asked ++ moreAsked) (ops ++ moreOps)
      (diagBusStep s event) := by
  cases event with
  | gatewayReceives take => exact h.gatewayReceives take
  | gateway op hop => exact h.gatewayMoves hop
  | other frame hrequest hresponse =>
    refine ⟨[], [], ?_⟩
    rw [List.append_nil, List.append_nil]
    refine ⟨h.gateway, h.script, h.period, h.keys, ?_, h.synthetic, ?_⟩
    · exact (congrArg _ (pending_publish_other (fun _ => id_of_sentRequest) hrequest _)).trans
        h.requests
    · exact (congrArg _ (pending_publish_other (fun _ => id_of_sentResponse) hresponse _)).trans
        h.responses
  | deliverGateway i buffer =>
    refine ⟨[], [], ?_⟩
    rw [List.append_nil, List.append_nil]
    refine ⟨h.gateway, h.script, h.period, h.keys, ?_, h.synthetic, h.responses⟩
    exact (congrArg _ ((faithful_request buffer).pending_deliverAt i _)).trans h.requests
  | deliverTool i buffer =>
    refine ⟨[], [], ?_⟩
    rw [List.append_nil, List.append_nil]
    refine ⟨h.gateway, h.script, h.period, h.keys, h.requests, h.synthetic, ?_⟩
    exact (congrArg _ ((faithful_response buffer).pending_deliverAt i _)).trans h.responses
  | toolScript =>
    refine ⟨[], [], ?_⟩
    rw [List.append_nil, List.append_nil]
    exact h.toolScript
  | toolReceives =>
    refine ⟨[], [], ?_⟩
    rw [List.append_nil, List.append_nil]
    exact h.toolReceives
  | toolBeats =>
    refine ⟨[], [], ?_⟩
    rw [List.append_nil, List.append_nil]
    exact h.toolBeats

/-- So does every run. -/
theorem exchange_run (cfg : GatewayConfig) (events : List DiagBusEvent) :
    ∃ asked ops, Exchange cfg (toolIterations events) (scriptPeriods events) asked ops
      (run diagBusStep (diagBusBoot cfg) events) := by
  induction events using List.reverseRecOn with
  | nil => exact ⟨[], [], exchange_boot cfg⟩
  | append_singleton events event ih =>
    obtain ⟨asked, ops, h⟩ := ih
    obtain ⟨moreAsked, moreOps, hmore⟩ := h.step event
    have hcount : ∀ p : DiagBusEvent → Bool,
        (events ++ [event]).countP p = events.countP p + if p event then 1 else 0 :=
      fun p => by rw [List.countP_append, List.countP_singleton]
    rw [run_snoc, toolIterations, scriptPeriods, hcount, hcount]
    exact ⟨asked ++ moreAsked, ops ++ moreOps, hmore⟩

end Exchange

/-- Service and request id in the word of a response. -/
def wordKey (word : UInt32) : DiagKey := ((word >>> 16).toUInt8, (word >>> 24).toUInt8)

/-- The head of a call tells its service and number. -/
theorem wordKey_head (call : DiagCall) : wordKey call.head = call.key := by
  obtain ⟨hid, hservice, -, -⟩ := dwordOfBytes_inj.mp (dwordOfBytes_shifts call.head)
  exact Prod.ext hservice hid

/-- The state behind a history. -/
def diagBusRun (cfg : GatewayConfig) (events : List DiagBusEvent) : DiagBus :=
  run diagBusStep (diagBusBoot cfg) events

/-- However the steps of the tool and the gateway and the deliveries interleave, whatever scripts
the gateway runs: the words that the tool has traced and those on their way to it are the words that
the gateway has traced; these answer the requests of the tool and of the scripts, each asker's in
order. Those of the tool and those on their way to the gateway are the requests of its script that
have become due, each of them once and in order, and so are those of the gateway's scripts. -/
theorem diagExchange_conserved (cfg : GatewayConfig) (events : List DiagBusEvent) :
    wordsUnder "diag_response" (diagBusRun cfg events).tool.out ++
          (diagBusRun cfg events).toTool.pending sentResponse? readResponse? =
        wordsUnder "gateway_diag_response" (diagBusRun cfg events).gateway.out ∧
      ∃ asked : List (Asker × DiagKey),
        (wordsUnder "gateway_diag_response" (diagBusRun cfg events).gateway.out).map wordKey =
          asked.map Prod.snd ∧
        asksOf .tool asked ++ (diagBusRun cfg events).toGateway.pending sentRequest? readRequest? =
          (requestsDue (toolIterations events)).map ToolRequest.key ∧
        asksOf .script asked = scriptRequestsBy cfg (scriptPeriods events) := by
  obtain ⟨asked, ops, h⟩ := exchange_run cfg events
  obtain ⟨hanswers, hkeys⟩ := answers_gatewayRun cfg ops
  rw [← h.gateway] at hanswers hkeys
  have hwords := wordsUnder_head hanswers
  have hwordKeys : ((answersIn (diagBusRun cfg events).gateway.out).map DiagCall.head).map wordKey =
      (answersIn (diagBusRun cfg events).gateway.out).map DiagCall.key := by
    rw [List.map_map]
    exact List.map_congr_left fun call _ => wordKey_head call
  refine ⟨h.responses.trans hwords.symm, asked, ?_, h.requests, h.synthetic⟩
  rw [diagBusRun] at hwordKeys ⊢
  rw [hwords, hwordKeys, hkeys, h.keys]

/-- The first request of the tool reaches the gateway, and its answer the tool. -/
def firstAnswer : List DiagBusEvent :=
  List.replicate 10 .toolScript ++ [.deliverGateway 1 (.replicate 8 0), .gatewayReceives true,
    .deliverTool 1 (.replicate 8 0), .toolReceives]

example : (wordsUnder "diag_response" (diagBusRun .off firstAnswer).tool.out).map wordKey =
    [(mcDiagStartSession, 1)] := by decide +kernel

end Microcar.Vehicle
