import Microcar.Core.Bytes
import Microcar.Core.Run
import Microcar.Core.Script
import Microcar.Gateway.Handlers

/-!
# Firmware of the diagnostics tool

The service tool of `diagnostics_tool_ecu/src/main.c`: a script of requests with a cursor and a
mask, a receive loop that traces the gateway's responses, and a heartbeat.
-/

namespace Microcar.Tools

open Microcar.Core Microcar.Gateway

/-- The context of the tool, `diag_tool_ctx_t`, with what it has emitted. -/
structure DiagToolCtx where
  sentMask : UInt32
  scriptMs : UInt32
  out : List Emission

/-- Emit a trace word. -/
def DiagToolCtx.trace (ctx : DiagToolCtx) (label : String) (value : UInt32) : DiagToolCtx :=
  { ctx with out := ctx.out ++ [.trace label value] }

/-- Put a frame on the bus. -/
def DiagToolCtx.send (ctx : DiagToolCtx) (frame : McCanFrame) : DiagToolCtx :=
  { ctx with out := ctx.out ++ [.can frame] }

/-- The request frame of `send_diag_request`. -/
def diagRequestFrame (service requestId param : UInt8) : McCanFrame :=
  mcFrameInit mcMsgDiagRequest mcNodeDiagnostics mcDiagRequestMsgSize
    |>.put 0 mcNodeDiagnostics
    |>.put 1 service
    |>.put 2 requestId
    |>.put 3 param

/-- Send a request, `send_diag_request`. -/
def sendDiagRequest (service requestId param : UInt8) (ctx : DiagToolCtx) : DiagToolCtx :=
  ctx.send (diagRequestFrame service requestId param)

/-- Trace a response, `handle_diag_response`. -/
def handleDiagResponse (ctx : DiagToolCtx) (frame : McCanFrame) : DiagToolCtx :=
  if frame.len < mcDiagResponseMsgSize then ctx
  else
    let service := frame.data.get 1
    let requestId := frame.data.get 2
    let status := frame.data.get 3
    let value0 := frame.data.get 4
    let value1 := frame.data.get 5
    let packed := (requestId.toUInt32 <<< 24) ||| (service.toUInt32 <<< 16) |||
      (status.toUInt32 <<< 8) ||| value0.toUInt32
    let ctx := ctx.trace "diag_response" packed
    if service = mcDiagStartSession then ctx.trace "service_mode" value0.toUInt32
    else if service = mcDiagReadMode then ctx.trace "read_mode" value0.toUInt32
    else if service = mcDiagReadDtcs then
      let ctx := ctx.trace "dtc_count" value0.toUInt32
      if 0 < value0 then ctx.trace "dtc_code" value1.toUInt32 else ctx
    else if service = mcDiagClearDtcs then ctx.trace "dtc_cleared" 1
    else ctx

/-- A request of the script, with its time and its bit of the mask. -/
structure ToolRequest where
  dueMs : UInt32
  mask : UInt32
  service : UInt8
  requestId : UInt8
  param : UInt8

/-- Send a request of the script. -/
def ToolRequest.send (r : ToolRequest) (ctx : DiagToolCtx) : DiagToolCtx :=
  sendDiagRequest r.service r.requestId r.param ctx

/-- The requests of `diagnostics_tool_main`. -/
def toolScript : List ToolRequest :=
  [⟨100, 0x01, mcDiagStartSession, 1, 0⟩, ⟨200, 0x02, mcDiagReadMode, 2, 0⟩,
    ⟨350, 0x04, mcDiagActuatorTest, 6, 0⟩, ⟨450, 0x08, mcDiagReadDtcs, 3, 0⟩,
    ⟨650, 0x10, mcDiagClearDtcs, 4, 0⟩, ⟨750, 0x20, mcDiagReadDtcs, 5, 0⟩]

/-- Advance the cursor and send what is due. -/
def scriptPhase (ctx : DiagToolCtx) : DiagToolCtx :=
  let ctx := { ctx with scriptMs := ctx.scriptMs + 10 }
  let (ctx, sentMask) := playScript ToolRequest.dueMs ToolRequest.mask ToolRequest.send ctx.scriptMs
    toolScript (ctx, ctx.sentMask)
  { ctx with sentMask := sentMask }

/-- A frame in the receive loop. -/
def receivePhase (ctx : DiagToolCtx) (rx : RxFrame) : DiagToolCtx :=
  if rx.id = mcMsgDiagResponse ∧ rx.sender = mcNodeGateway then
    handleDiagResponse ctx rx.toMcCanFrame
  else ctx

/-- The heartbeat at the end of an iteration. -/
def heartbeatPhase (ctx : DiagToolCtx) : DiagToolCtx :=
  if ctx.scriptMs % 100 = 0 then ctx.send (heartbeatFrame mcNodeDiagnostics ctx.scriptMs) else ctx

/-- An iteration of `diagnostics_tool_main` that receives these frames. -/
def diagnosticsToolMain (ctx : DiagToolCtx) (rx : List RxFrame) : DiagToolCtx :=
  heartbeatPhase (rx.foldl receivePhase (scriptPhase ctx))

/-- The tool behind its boot heartbeat. -/
def diagToolBoot : DiagToolCtx := ⟨0, 0, [.can (heartbeatFrame mcNodeDiagnostics 0)]⟩

/-! ### Requests -/

/-- Service and request id. -/
def ToolRequest.key (r : ToolRequest) : UInt8 × UInt8 := (r.service, r.requestId)

/-- The requests whose time has come after `n` iterations. -/
def requestsDue (n : Nat) : List ToolRequest := dueBy ToolRequest.dueMs 10 n toolScript

/-- What the requests put on the bus. -/
def requestFrames (requests : List ToolRequest) : List Emission :=
  requests.map fun r => .can (diagRequestFrame r.service r.requestId r.param)

/-- Every request of the tool has a flag of its own. -/
theorem ownFlags_toolScript : OwnFlags ToolRequest.mask toolScript := by
  unfold toolScript
  constructor
  · simp
  · simp
    decide

/-- The tick of the tool comes to the time of every request. -/
theorem reachable_toolScript : Reachable ToolRequest.dueMs 10 toolScript := by
  unfold toolScript
  constructor
  · simp
  · simp [UInt32.size]

/-- The requests are in the order of their times. -/
theorem inOrder_toolScript : InOrder ToolRequest.dueMs toolScript := by
  unfold InOrder toolScript
  simp

/-- Cursor and mask behind `n` iterations. -/
def DiagToolCtx.Behind (ctx : DiagToolCtx) (n : Nat) : Prop :=
  Played ToolRequest.dueMs ToolRequest.mask 10 n toolScript ctx.scriptMs ctx.sentMask

/-- At boot the tool has sent nothing. -/
theorem behind_diagToolBoot : diagToolBoot.Behind 0 := Played.start reachable_toolScript

/-- Requests in turn are sent in turn. -/
theorem actAll_send (requests : List ToolRequest) (ctx : DiagToolCtx) :
    actAll ToolRequest.send requests ctx =
      { ctx with out := ctx.out ++ requestFrames requests } := by
  induction requests generalizing ctx with
  | nil => simp [requestFrames]
  | cons r requests ih =>
    rw [actAll_cons, ih]
    simp [ToolRequest.send, sendDiagRequest, DiagToolCtx.send, requestFrames]

/-- The script of an iteration sends the requests that become due. -/
theorem scriptPhase_behind {n : Nat} {ctx : DiagToolCtx} (h : ctx.Behind n) :
    (scriptPhase ctx).Behind (n + 1) ∧
      ∃ requests, (scriptPhase ctx).out = ctx.out ++ requestFrames requests ∧
        requestsDue (n + 1) = requestsDue n ++ requests := by
  obtain ⟨hplay, hbehind⟩ := @Played.step _ _ _ _ ToolRequest.send _ _ _ _ _ h ownFlags_toolScript
    reachable_toolScript { ctx with scriptMs := ctx.scriptMs + UInt32.ofNat 10 }
  have hphase : scriptPhase ctx =
      { ctx with
        scriptMs := ctx.scriptMs + UInt32.ofNat 10
        out := ctx.out ++ requestFrames (falling ToolRequest.dueMs 10 n toolScript)
        sentMask := recordAll ToolRequest.mask (falling ToolRequest.dueMs 10 n toolScript)
          ctx.sentMask } := by
    have hten : ctx.scriptMs + 10 = ctx.scriptMs + UInt32.ofNat 10 := rfl
    unfold scriptPhase
    dsimp only
    rw [hten, hplay, actAll_send]
  rw [hphase]
  exact ⟨hbehind, _, rfl, dueBy_succ inOrder_toolScript 10 n⟩

/-! ### Responses -/

/-- The word of a response that the tool takes from a frame. -/
def responseWord? (frame : McCanFrame) : Option UInt32 :=
  if frame.id = mcMsgDiagResponse ∧ frame.sender = mcNodeGateway ∧
      mcDiagResponseMsgSize ≤ frame.len then
    some (dwordOfBytes (frame.data.get 2) (frame.data.get 1) (frame.data.get 3) (frame.data.get 4))
  else none

/-- Under which labels the tool traces what a response says. -/
def detailLabels : List String :=
  ["service_mode", "read_mode", "dtc_count", "dtc_code", "dtc_cleared"]

/-- A response is traced whole, and then in parts. -/
theorem handleDiagResponse_eq {frame : McCanFrame} (hlen : mcDiagResponseMsgSize ≤ frame.len)
    (ctx : DiagToolCtx) :
    ∃ details, handleDiagResponse ctx frame =
        { ctx with
          out := ctx.out ++ .trace "diag_response" (dwordOfBytes (frame.data.get 2)
            (frame.data.get 1) (frame.data.get 3) (frame.data.get 4)) :: details } ∧
      ∀ e ∈ details, ∃ label ∈ detailLabels, ∃ value, e = .trace label value := by
  rw [handleDiagResponse, if_neg (UInt8.not_lt.mpr hlen)]
  dsimp only
  split_ifs
  · exact ⟨[.trace "service_mode" (frame.data.get 4).toUInt32],
      by simp [DiagToolCtx.trace, dwordOfBytes], by simp [detailLabels]⟩
  · exact ⟨[.trace "read_mode" (frame.data.get 4).toUInt32],
      by simp [DiagToolCtx.trace, dwordOfBytes], by simp [detailLabels]⟩
  · exact ⟨[.trace "dtc_count" (frame.data.get 4).toUInt32,
      .trace "dtc_code" (frame.data.get 5).toUInt32],
      by simp [DiagToolCtx.trace, dwordOfBytes], by simp [detailLabels]⟩
  · exact ⟨[.trace "dtc_count" (frame.data.get 4).toUInt32],
      by simp [DiagToolCtx.trace, dwordOfBytes], by simp [detailLabels]⟩
  · exact ⟨[.trace "dtc_cleared" 1], by simp [DiagToolCtx.trace, dwordOfBytes],
      by simp [detailLabels]⟩
  · exact ⟨[], by simp [DiagToolCtx.trace, dwordOfBytes], by simp⟩

/-- A received frame adds its word, if it has one, and no frame. -/
theorem receivePhase_out (ctx : DiagToolCtx) (rx : RxFrame) :
    ∃ new, receivePhase ctx rx = { ctx with out := ctx.out ++ new } ∧
      new.filterMap Emission.frame? = [] ∧
      wordsUnder "diag_response" new = (responseWord? rx.toMcCanFrame).toList := by
  by_cases htaken : rx.id = mcMsgDiagResponse ∧ rx.sender = mcNodeGateway
  · rw [receivePhase, if_pos htaken]
    by_cases hlen : mcDiagResponseMsgSize ≤ rx.len
    · obtain ⟨details, heq, hdetails⟩ := handleDiagResponse_eq hlen ctx
      refine ⟨_, heq, ?_, ?_⟩
      · rw [List.filterMap_eq_nil_iff]
        intro e he
        rcases List.mem_cons.mp he with rfl | he
        · rfl
        · obtain ⟨label, -, value, rfl⟩ := hdetails e he
          rfl
      · have hquiet : wordsUnder "diag_response" details = [] := by
          rw [wordsUnder, List.filterMap_eq_nil_iff]
          intro e he
          obtain ⟨label, hlabel, value, rfl⟩ := hdetails e he
          have hother : label ≠ "diag_response" := by
            rintro rfl
            simp [detailLabels] at hlabel
          simp [Emission.value?, hother]
        rw [← List.singleton_append, wordsUnder_append, hquiet, List.append_nil,
          wordsUnder_trace_self, responseWord?, if_pos ⟨htaken.1, htaken.2, hlen⟩]
        rfl
    · rw [handleDiagResponse, if_pos (UInt8.not_le.mp hlen), responseWord?,
        if_neg fun h => hlen h.2.2]
      exact ⟨[], by simp, rfl, rfl⟩
  · rw [receivePhase, if_neg htaken, responseWord?, if_neg fun h => htaken ⟨h.1, h.2.1⟩]
    exact ⟨[], by simp, rfl, rfl⟩

/-- A heartbeat that is due is neither a request nor a word. -/
theorem heartbeatPhase_out (ctx : DiagToolCtx) :
    ∃ new, heartbeatPhase ctx = { ctx with out := ctx.out ++ new } ∧
      framesOf mcMsgDiagRequest new = [] ∧ wordsUnder "diag_response" new = [] := by
  rw [heartbeatPhase]
  split
  · have hbeat : (heartbeatFrame mcNodeDiagnostics ctx.scriptMs).id ≠ mcMsgDiagRequest := by
      rw [heartbeatFrame_id]
      decide
    exact ⟨[.can (heartbeatFrame mcNodeDiagnostics ctx.scriptMs)], rfl, framesOf_can_of_ne hbeat,
      rfl⟩
  · exact ⟨[], by simp, rfl, rfl⟩

end Microcar.Tools
