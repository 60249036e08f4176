import Microcar.Core.Run
import Microcar.Protocol.Frame

/-!
# Firmware of the OTA tool

The ECU of `ota_tool_ecu/src/main.c`: every 100 ms it traces the command frames it has received and
sends a heartbeat. Its file defines the node id anew, with the value of the diagnostics tool.
-/

namespace Microcar.Tools

open Microcar.Core

/-- The node that its heartbeats name. -/
def mcNodeOtaTool : UInt8 := 5
/-- The period of the heartbeat. -/
def otaHeartbeatPeriodMs : UInt32 := 100

/-- The context of the ECU, `ota_ctx_t`, with what it has emitted. -/
structure OtaToolCtx where
  tickCount : UInt32
  uptimeMs : UInt32
  out : List Emission

/-- Emit a trace word. -/
def OtaToolCtx.trace (ctx : OtaToolCtx) (label : String) (value : UInt32) : OtaToolCtx :=
  { ctx with out := ctx.out ++ [.trace label value] }

/-- Put a frame on the bus. -/
def OtaToolCtx.send (ctx : OtaToolCtx) (frame : McCanFrame) : OtaToolCtx :=
  { ctx with out := ctx.out ++ [.can frame] }

/-- Trace a received frame. A frame that was received is not empty, so its first byte is traced
as well. -/
def traceCommand (ctx : OtaToolCtx) (rx : RxFrame) : OtaToolCtx :=
  let ctx := (ctx.trace "ota_cmd_id" rx.id).trace "ota_cmd_dlc" rx.len.toUInt32
  if 1 ≤ rx.len then ctx.trace "ota_cmd_byte0" (rx.data.get 0).toUInt32 else ctx

/-- An iteration of `ota_tool_main` that receives these frames. -/
def otaToolMain (ctx : OtaToolCtx) (rx : List RxFrame) : OtaToolCtx :=
  let ctx := { ctx with
    uptimeMs := ctx.uptimeMs + otaHeartbeatPeriodMs
    tickCount := ctx.tickCount + 1 }
  let ctx := rx.foldl traceCommand ctx
  let ctx := ctx.send (heartbeatFrame mcNodeOtaTool ctx.uptimeMs)
  ctx.trace "ota_tool_hb" ctx.tickCount

/-- The ECU in front of its loop. -/
def otaToolBoot : OtaToolCtx where
  tickCount := 0
  uptimeMs := 0
  out := [.trace "ota_tool_boot" 1, .can (heartbeatFrame mcNodeOtaTool 0), .trace "ota_tool_hb" 0]

/-- Received frames add trace words only. -/
theorem foldl_traceCommand (rx : List RxFrame) (ctx : OtaToolCtx) :
    ∃ words, (rx.foldl traceCommand ctx).out = ctx.out ++ words ∧
      ∀ f, Emission.can f ∉ words := by
  induction rx using List.reverseRecOn with
  | nil => exact ⟨[], by simp, by simp⟩
  | append_singleton rx frame ih =>
    obtain ⟨words, hout, hwords⟩ := ih
    rw [List.foldl_append, List.foldl_cons, List.foldl_nil, traceCommand]
    split
    · refine ⟨words ++ [.trace "ota_cmd_id" frame.id, .trace "ota_cmd_dlc" frame.len.toUInt32,
        .trace "ota_cmd_byte0" (frame.data.get 0).toUInt32], ?_, by simpa using hwords⟩
      simp [OtaToolCtx.trace, hout]
    · refine ⟨words ++ [.trace "ota_cmd_id" frame.id, .trace "ota_cmd_dlc" frame.len.toUInt32], ?_,
        by simpa using hwords⟩
      simp [OtaToolCtx.trace, hout]

end Microcar.Tools
