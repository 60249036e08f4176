import Microcar.Core.Bytes
import Microcar.Core.Keyed
import Microcar.Gateway.Firmware

/-!
# Diagnostic responses in the trace

The gateway traces a diagnostic response in two words, and `collect_diag_responses` joins them
again by service and request id. What it collects are the last responses of the gateway.
-/

namespace Microcar.Dogfood

open Microcar.Core Microcar.Gateway

/-- A `user-u32` event of the trace. -/
structure UserTrace where
  machine : Nat
  label : String
  value : UInt32
  deriving DecidableEq

/-- A response as the lanes decode it. -/
structure DiagResponse where
  service : UInt8
  req : UInt8
  status : UInt8
  value0 : UInt8
  value1 : UInt8
  deriving DecidableEq

/-- The machine that is the gateway. -/
def nodeGateway : Nat := 1

/-- `((value >> shift) & 0xff) as u8`. -/
def byteAt (value : UInt32) (shift : UInt32) : UInt8 := ((value >>> shift) &&& 0xff).toUInt8

/-- Request id, service, status and first value byte of a word. -/
def decodeResponseHead (value : UInt32) : DiagResponse where
  req := byteAt value 24
  service := byteAt value 16
  status := byteAt value 8
  value0 := (value &&& 0xff).toUInt8
  value1 := 0

/-- The key of a word, and its second value byte. -/
def decodeResponseV1 (value : UInt32) : (UInt8 × UInt8) × UInt8 :=
  ((byteAt value 16, byteAt value 24), (value &&& 0xff).toUInt8)

/-- What `entry(key).or_insert` puts in place of a missing response. -/
def missingResponse (key : UInt8 × UInt8) : DiagResponse := ⟨key.1, key.2, 0, 0, 0⟩

/-- One turn of the loop of `collect_diag_responses`. -/
def collectStep (responses : List ((UInt8 × UInt8) × DiagResponse)) (event : UserTrace) :
    List ((UInt8 × UInt8) × DiagResponse) :=
  if event.label = "gateway_diag_response" then
    let response := decodeResponseHead event.value
    assign (response.service, response.req) response responses
  else if event.label = "gateway_diag_response_v1" then
    let (key, value1) := decodeResponseV1 event.value
    assign key { (responses.lookup key).getD (missingResponse key) with value1 := value1 } responses
  else responses

/-- The order of the keys of the map. -/
def keyLe (a b : UInt8 × UInt8) : Bool := a.1 < b.1 || (a.1 == b.1 && a.2 ≤ b.2)

/-- The responses by service and request id, in the order of their keys. -/
def collectDiagResponses (trace : List UserTrace) : List DiagResponse :=
  (((trace.filter fun e => e.machine == nodeGateway).foldl collectStep []).mergeSort
    fun a b => keyLe a.1 b.1).map Prod.snd

/-! ### The two words of a response -/

/-- The arguments of a call of `send_diag_response`. -/
structure DiagCall where
  service : UInt8
  requestId : UInt8
  reply : DiagReply
  deriving DecidableEq

/-- Send the response of a call. -/
def DiagCall.send (ctx : GatewayCtx) (call : DiagCall) : GatewayCtx :=
  sendDiagResponse ctx call.service call.requestId call.reply

/-- The pair under which the response is collected. -/
def DiagCall.key (call : DiagCall) : UInt8 × UInt8 := (call.service, call.requestId)

/-- The response as the call states it. -/
def DiagCall.response (call : DiagCall) : DiagResponse :=
  ⟨call.service, call.requestId, call.reply.status, call.reply.value0, call.reply.value1⟩

/-- The trace words of the gateway among what it emitted. -/
def userTraces (out : List Emission) : List UserTrace :=
  out.filterMap fun emission =>
    match emission with
    | .trace label value => some ⟨nodeGateway, label, value⟩
    | _ => none

/-- A word of the gateway that belongs to a response. -/
def isDiagEvent (e : UserTrace) : Bool :=
  e.machine == nodeGateway &&
    (e.label == "gateway_diag_response" || e.label == "gateway_diag_response_v1")

/-- The two words of a call. -/
def DiagCall.events (call : DiagCall) : List UserTrace :=
  [⟨nodeGateway, "gateway_diag_response",
      dwordOfBytes call.requestId call.service call.reply.status call.reply.value0⟩,
    ⟨nodeGateway, "gateway_diag_response_v1",
      dwordOfBytes call.requestId call.service 0 call.reply.value1⟩]

theorem userTraces_append (out more : List Emission) :
    userTraces (out ++ more) = userTraces out ++ userTraces more := List.filterMap_append

/-- A call emits its two words and the frame. -/
theorem send_out (ctx : GatewayCtx) (call : DiagCall) :
    ∃ new, (call.send ctx).out = ctx.out ++ new ∧ userTraces new = call.events := by
  refine ⟨[.trace "gateway_diag_response"
      (dwordOfBytes call.requestId call.service call.reply.status call.reply.value0),
    .trace "gateway_diag_response_v1"
      (((call.requestId.toUInt32 <<< 24) ||| (call.service.toUInt32 <<< 16)) |||
        call.reply.value1.toUInt32),
    .can (diagResponseFrame call.service call.requestId call.reply)], ?_, ?_⟩
  · simp [DiagCall.send, sendDiagResponse, GatewayCtx.trace, GatewayCtx.send, dwordOfBytes]
  · have hv1 : ((call.requestId.toUInt32 <<< 24) ||| (call.service.toUInt32 <<< 16)) |||
        call.reply.value1.toUInt32 =
          dwordOfBytes call.requestId call.service 0 call.reply.value1 := by
      simp [dwordOfBytes]
    rw [hv1]
    rfl

/-- What a sequence of calls adds to the trace. -/
theorem userTraces_calls (calls : List DiagCall) (ctx : GatewayCtx) :
    userTraces ((calls.foldl DiagCall.send ctx).out.drop ctx.out.length) =
      calls.flatMap DiagCall.events := by
  have hrun : ∃ new, (calls.foldl DiagCall.send ctx).out = ctx.out ++ new ∧
      userTraces new = calls.flatMap DiagCall.events := by
    induction calls generalizing ctx with
    | nil => exact ⟨[], by simp, rfl⟩
    | cons call calls ih =>
      obtain ⟨new, hnew, hevents⟩ := send_out ctx call
      obtain ⟨rest, hrest, hmore⟩ := ih (call.send ctx)
      refine ⟨new ++ rest, ?_, ?_⟩
      · rw [List.foldl_cons, hrest, hnew, List.append_assoc]
      · rw [userTraces_append, hevents, hmore, List.flatMap_cons]
  obtain ⟨new, hnew, hevents⟩ := hrun
  rw [hnew, List.drop_left, hevents]

/-! ### Decoding -/

theorem toUInt8_and (w : UInt32) : (w &&& 0xff).toUInt8 = w.toUInt8 := by
  apply UInt8.toNat_inj.mp
  have hand := Nat.and_two_pow_sub_one_eq_mod (w.toNat % 256) 8
  simpa using hand

/-- The bytes of a composed word. -/
theorem byteAt_dword (b3 b2 b1 b0 : UInt8) :
    byteAt (dwordOfBytes b3 b2 b1 b0) 24 = b3 ∧ byteAt (dwordOfBytes b3 b2 b1 b0) 16 = b2 ∧
      byteAt (dwordOfBytes b3 b2 b1 b0) 8 = b1 ∧
      ((dwordOfBytes b3 b2 b1 b0) &&& 0xff).toUInt8 = b0 := by
  simp only [byteAt, toUInt8_and]
  exact dwordOfBytes_inj.mp (dwordOfBytes_shifts (dwordOfBytes b3 b2 b1 b0))

/-- The two words of a call set its response, whatever was collected for its pair before. -/
theorem foldl_collectStep_events (call : DiagCall)
    (responses : List ((UInt8 × UInt8) × DiagResponse)) :
    call.events.foldl collectStep responses = assign call.key call.response responses := by
  obtain ⟨hreq, hservice, hstatus, hvalue0⟩ :=
    byteAt_dword call.requestId call.service call.reply.status call.reply.value0
  obtain ⟨hreq', hservice', -, hvalue1⟩ :=
    byteAt_dword call.requestId call.service 0 call.reply.value1
  have hhead : collectStep responses ⟨nodeGateway, "gateway_diag_response",
      dwordOfBytes call.requestId call.service call.reply.status call.reply.value0⟩ =
        assign call.key ⟨call.service, call.requestId, call.reply.status, call.reply.value0, 0⟩
          responses := by
    simp only [collectStep, decodeResponseHead, hreq, hservice, hstatus, hvalue0]
    rfl
  have hlast : ∀ responses head, responses.lookup call.key = some head →
      collectStep responses ⟨nodeGateway, "gateway_diag_response_v1",
        dwordOfBytes call.requestId call.service 0 call.reply.value1⟩ =
          assign call.key ⟨head.service, head.req, head.status, head.value0, call.reply.value1⟩
            responses := by
    intro responses head hlookup
    have hkey : (call.service, call.requestId) = call.key := rfl
    simp only [collectStep, decodeResponseV1, hreq', hservice', hvalue1, hkey, hlookup]
    rfl
  rw [DiagCall.events, List.foldl_cons, hhead, List.foldl_cons,
    hlast _ _ (lookup_assign_self call.key _ responses), assign_assign]
  rfl

theorem foldl_collectStep_calls (calls : List DiagCall)
    (responses : List ((UInt8 × UInt8) × DiagResponse)) :
    (calls.flatMap DiagCall.events).foldl collectStep responses =
      calls.foldl (fun responses call => assign call.key call.response responses) responses := by
  induction calls generalizing responses with
  | nil => rfl
  | cons call calls ih =>
    rw [List.flatMap_cons, List.foldl_append, foldl_collectStep_events, ih, List.foldl_cons]

/-- Events of other labels leave the map as it is. -/
theorem foldl_collectStep_filter (trace : List UserTrace)
    (responses : List ((UInt8 × UInt8) × DiagResponse)) :
    (trace.filter fun e => e.machine == nodeGateway).foldl collectStep responses =
      (trace.filter isDiagEvent).foldl collectStep responses := by
  induction trace generalizing responses with
  | nil => rfl
  | cons e trace ih =>
    by_cases hmachine : e.machine = nodeGateway
    · rw [List.filter_cons_of_pos (by simpa using hmachine), List.foldl_cons]
      by_cases hlabel : e.label = "gateway_diag_response" ∨ e.label = "gateway_diag_response_v1"
      · have hdiag : isDiagEvent e = true := by simpa [isDiagEvent, hmachine] using hlabel
        rw [List.filter_cons_of_pos hdiag, List.foldl_cons, ih]
      · have hdiag : ¬ isDiagEvent e = true := by simpa [isDiagEvent, hmachine] using hlabel
        obtain ⟨hhead, hlast⟩ := not_or.mp hlabel
        rw [List.filter_cons_of_neg hdiag, ih, collectStep, if_neg hhead, if_neg hlast]
    · have hdiag : ¬ isDiagEvent e = true := by simp [isDiagEvent, hmachine]
      rw [List.filter_cons_of_neg (by simpa using hmachine), List.filter_cons_of_neg hdiag, ih]

/-- The collected responses, from any trace with the words of these calls in order. -/
theorem collectDiagResponses_perm {calls : List DiagCall} {trace : List UserTrace}
    (htrace : trace.filter isDiagEvent = calls.flatMap DiagCall.events) :
    (collectDiagResponses trace).Perm
      ((assignAll DiagCall.key DiagCall.response calls).map Prod.snd) := by
  rw [collectDiagResponses, foldl_collectStep_filter, htrace, foldl_collectStep_calls]
  exact (List.mergeSort_perm _ _).map Prod.snd

/-- A collected response stands under its own pair. -/
theorem key_of_mem {calls : List DiagCall} {entry : (UInt8 × UInt8) × DiagResponse}
    (h : entry ∈ assignAll DiagCall.key DiagCall.response calls) :
    entry.1 = (entry.2.service, entry.2.req) := by
  have hlookup := (mem_iff_lookup (nodup_assignAll DiagCall.key DiagCall.response calls)).mp h
  obtain ⟨_, call, _, _, _, hkey, hresponse⟩ := (lookup_assignAll _ _ _ _ _).mp hlookup
  rw [← hkey, ← hresponse]
  rfl

/-- One response is collected for each pair. -/
theorem nodup_collected {calls : List DiagCall} {responses : List DiagResponse}
    (hperm : responses.Perm ((assignAll DiagCall.key DiagCall.response calls).map Prod.snd)) :
    (responses.map fun r => (r.service, r.req)).Nodup := by
  rw [(hperm.map _).nodup_iff, List.map_map]
  have hkeys : (assignAll DiagCall.key DiagCall.response calls).map
      ((fun r => (r.service, r.req)) ∘ Prod.snd) =
        (assignAll DiagCall.key DiagCall.response calls).map Prod.fst := by
    apply List.map_congr_left
    intro entry hentry
    exact (key_of_mem hentry).symm
  rw [hkeys]
  exact nodup_assignAll DiagCall.key DiagCall.response calls

/-- The collected response is the last one of its pair. -/
theorem mem_collected {calls : List DiagCall} {r : DiagResponse} :
    r ∈ (assignAll DiagCall.key DiagCall.response calls).map Prod.snd ↔
      ∃ before call after, calls = before ++ call :: after ∧
        (∀ later ∈ after, later.key ≠ call.key) ∧ r = call.response := by
  have hnodup := nodup_assignAll DiagCall.key DiagCall.response calls
  rw [List.mem_map]
  constructor
  · rintro ⟨⟨key, _⟩, hmem, rfl⟩
    obtain ⟨before, call, after, hcalls, hafter, -, hresponse⟩ :=
      (lookup_assignAll _ _ _ _ _).mp ((mem_iff_lookup hnodup).mp hmem)
    exact ⟨before, call, after, hcalls, hafter, hresponse.symm⟩
  · rintro ⟨before, call, after, hcalls, hafter, rfl⟩
    refine ⟨(call.key, call.response), (mem_iff_lookup hnodup).mpr ?_, rfl⟩
    exact (lookup_assignAll _ _ _ _ _).mpr ⟨before, call, after, hcalls, hafter, rfl, rfl⟩

/-- The collected responses are the last ones of their pairs, one for each pair. -/
theorem collectDiagResponses_calls {calls : List DiagCall} {ctx : GatewayCtx}
    {trace : List UserTrace} (htrace : trace.filter isDiagEvent =
      userTraces ((calls.foldl DiagCall.send ctx).out.drop ctx.out.length)) :
    ((collectDiagResponses trace).map fun r => (r.service, r.req)).Nodup ∧
      ∀ r, r ∈ collectDiagResponses trace ↔
        ∃ before call after, calls = before ++ call :: after ∧
          (∀ later ∈ after, later.key ≠ call.key) ∧ r = call.response := by
  have hperm := collectDiagResponses_perm (htrace.trans (userTraces_calls calls ctx))
  exact ⟨nodup_collected hperm, fun r => hperm.mem_iff.trans mem_collected⟩

/-- A second answer for one pair, with another word of the gateway and one of another machine in
between. -/
theorem collectDiagResponses_repeated :
    ⟨3, 3, 0, 1, 2⟩ ∈ collectDiagResponses
      ([⟨nodeGateway, "gateway_diag_response", 0x03030000⟩,
        ⟨2, "gateway_diag_response", 0x03030005⟩,
        ⟨nodeGateway, "gateway_diag_response_v1", 0x03030000⟩,
        ⟨nodeGateway, "vehicle_mode", 6⟩,
        ⟨nodeGateway, "gateway_diag_response", 0x03030001⟩,
        ⟨nodeGateway, "gateway_diag_response_v1", 0x03030002⟩]) := by
  have hcalls := @collectDiagResponses_calls [⟨3, 3, ⟨0, 0, 0⟩⟩, ⟨3, 3, ⟨0, 1, 2⟩⟩]
    (gatewayBoot .off)
    [⟨nodeGateway, "gateway_diag_response", 0x03030000⟩,
      ⟨2, "gateway_diag_response", 0x03030005⟩,
      ⟨nodeGateway, "gateway_diag_response_v1", 0x03030000⟩,
      ⟨nodeGateway, "vehicle_mode", 6⟩,
      ⟨nodeGateway, "gateway_diag_response", 0x03030001⟩,
      ⟨nodeGateway, "gateway_diag_response_v1", 0x03030002⟩] (by rw [userTraces_calls]; decide)
  exact (hcalls.2 _).mpr ⟨[⟨3, 3, ⟨0, 0, 0⟩⟩], ⟨3, 3, ⟨0, 1, 2⟩⟩, [], rfl, by simp, rfl⟩

end Microcar.Dogfood
