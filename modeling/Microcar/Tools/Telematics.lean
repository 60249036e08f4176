import Microcar.Core.Bytes
import Microcar.Core.Framing
import Microcar.Core.Run
import Microcar.Protocol.Frame

/-!
# Firmware of the telematics ECU

The ECU of `telematics_ecu/src/main.c`: every 100 ms it sends a length-prefixed record over the
network, traces what it receives, and sends a heartbeat. The receiver of the records gets them from
the byte stream, in whatever parts that comes in.
-/

namespace Microcar.Tools

open Microcar.Core

/-- The node that its heartbeats name. -/
def mcNodeTelematics : UInt8 := 6
/-- The period of the heartbeat. -/
def telemHeartbeatPeriodMs : UInt32 := 100

/-- The context of the ECU, `telem_ctx_t`, with what it has emitted and sent over the network. -/
structure TelemCtx where
  tickCount : UInt32
  uptimeMs : UInt32
  seqNo : UInt32
  out : List Emission
  net : List (List UInt8)

/-- Emit a trace word. -/
def TelemCtx.trace (ctx : TelemCtx) (label : String) (value : UInt32) : TelemCtx :=
  { ctx with out := ctx.out ++ [.trace label value] }

/-- Put a frame on the bus. -/
def TelemCtx.send (ctx : TelemCtx) (frame : McCanFrame) : TelemCtx :=
  { ctx with out := ctx.out ++ [.can frame] }

/-- The bytes of `build_telemetry_record`. -/
def buildTelemetryRecord (seqNo uptimeMs : UInt32) : List UInt8 :=
  let payloadLen : UInt32 := 9
  [(payloadLen >>> 8).toUInt8, payloadLen.toUInt8,
    (seqNo >>> 24).toUInt8, (seqNo >>> 16).toUInt8, (seqNo >>> 8).toUInt8, seqNo.toUInt8,
    (uptimeMs >>> 24).toUInt8, (uptimeMs >>> 16).toUInt8, (uptimeMs >>> 8).toUInt8,
    uptimeMs.toUInt8, mcNodeTelematics]

/-- What the network and the bus give an iteration. -/
structure TelemIo where
  /-- What `sim_eth_send` returns. -/
  sent : UInt32
  /-- What `sim_eth_recv` returns, as long as there is something to poll. -/
  received : List UInt32
  frames : List RxFrame

/-- An iteration of `telematics_main`. -/
def telematicsMain (ctx : TelemCtx) (io : TelemIo) : TelemCtx :=
  let ctx := { ctx with
    uptimeMs := ctx.uptimeMs + telemHeartbeatPeriodMs
    tickCount := ctx.tickCount + 1
    seqNo := ctx.seqNo + 1 }
  let ctx := { ctx with net := ctx.net ++ [buildTelemetryRecord ctx.seqNo ctx.uptimeMs] }
  let ctx := ctx.trace "telem_net_sent" io.sent
  let ctx := io.received.foldl (fun ctx rxLen => ctx.trace "telem_net_recv" rxLen) ctx
  let ctx := io.frames.foldl
    (fun ctx rx => (ctx.trace "telem_can_id" rx.id).trace "telem_can_dlc" rx.len.toUInt32) ctx
  let ctx := ctx.send (heartbeatFrame mcNodeTelematics ctx.uptimeMs)
  ctx.trace "telem_hb" ctx.tickCount

/-- The ECU in front of its loop, with the result of `sim_eth_register`. -/
def telematicsBoot (registered : UInt32) : TelemCtx where
  tickCount := 0
  uptimeMs := 0
  seqNo := 0
  out := [.trace "telematics_boot" 1, .trace "eth_register" registered,
    .can (heartbeatFrame mcNodeTelematics 0), .trace "telem_hb" 0]
  net := []

/-- The ECU behind these iterations. -/
def telematicsRun (registered : UInt32) (ios : List TelemIo) : TelemCtx :=
  run telematicsMain (telematicsBoot registered) ios

/-! ### What an iteration adds -/

/-- The lengths of the received packets are traced in order. -/
theorem foldl_received (lengths : List UInt32) (ctx : TelemCtx) :
    lengths.foldl (fun ctx rxLen => ctx.trace "telem_net_recv" rxLen) ctx =
      { ctx with out := ctx.out ++ lengths.map (.trace "telem_net_recv") } := by
  induction lengths generalizing ctx with
  | nil => simp
  | cons rxLen lengths ih =>
    rw [List.foldl_cons, ih]
    simp [TelemCtx.trace]

/-- The frames are traced in order, each by its identifier and length. -/
theorem foldl_frames (frames : List RxFrame) (ctx : TelemCtx) :
    frames.foldl
        (fun ctx rx => (ctx.trace "telem_can_id" rx.id).trace "telem_can_dlc" rx.len.toUInt32)
        ctx =
      { ctx with
        out := ctx.out ++ frames.flatMap fun rx =>
          [.trace "telem_can_id" rx.id, .trace "telem_can_dlc" rx.len.toUInt32] } := by
  induction frames generalizing ctx with
  | nil => simp
  | cons rx frames ih =>
    rw [List.foldl_cons, ih]
    simp [TelemCtx.trace]

/-- The emissions of the iteration that makes the tick count `tick`. -/
def telemEmissions (tick : UInt32) (uptimeMs : UInt32) (io : TelemIo) : List Emission :=
  [.trace "telem_net_sent" io.sent] ++ io.received.map (.trace "telem_net_recv") ++
    (io.frames.flatMap fun rx =>
      [.trace "telem_can_id" rx.id, .trace "telem_can_dlc" rx.len.toUInt32]) ++
    [.can (heartbeatFrame mcNodeTelematics uptimeMs), .trace "telem_hb" tick]

/-- An iteration in one piece: what it counts, sends and traces. -/
theorem telematicsMain_eq (ctx : TelemCtx) (io : TelemIo) :
    telematicsMain ctx io =
      { tickCount := ctx.tickCount + 1
        uptimeMs := ctx.uptimeMs + telemHeartbeatPeriodMs
        seqNo := ctx.seqNo + 1
        out := ctx.out ++
          telemEmissions (ctx.tickCount + 1) (ctx.uptimeMs + telemHeartbeatPeriodMs) io
        net := ctx.net ++
          [buildTelemetryRecord (ctx.seqNo + 1) (ctx.uptimeMs + telemHeartbeatPeriodMs)] } := by
  unfold telematicsMain
  dsimp only
  rw [foldl_received, foldl_frames]
  simp [TelemCtx.trace, TelemCtx.send, telemEmissions]

/-- The counters behind `n` iterations. -/
theorem telematicsRun_counters (registered : UInt32) (ios : List TelemIo) :
    (telematicsRun registered ios).tickCount = UInt32.ofNat ios.length ∧
      (telematicsRun registered ios).seqNo = UInt32.ofNat ios.length ∧
      (telematicsRun registered ios).uptimeMs = UInt32.ofNat (100 * ios.length) := by
  induction ios using List.reverseRecOn with
  | nil => exact ⟨rfl, rfl, rfl⟩
  | append_singleton ios io ih =>
    obtain ⟨htick, hseq, huptime⟩ := ih
    have hrun : telematicsRun registered (ios ++ [io]) =
        telematicsMain (telematicsRun registered ios) io := run_snoc _ _ _ _
    rw [hrun, telematicsMain_eq, htick, hseq, huptime, List.length_append, List.length_singleton,
      Nat.mul_add, UInt32.ofNat_add, UInt32.ofNat_add]
    exact ⟨rfl, rfl, rfl⟩

/-! ### The records -/

/-- The two bytes of a length, high byte first. -/
def telemLength : LengthCodec UInt8 where
  width := 2
  bound := 65536
  encode n := [UInt8.ofNat (n / 256), UInt8.ofNat n]
  decode bytes := bytes.foldl (fun size byte => size * 256 + byte.toNat) 0
  width_pos := Nat.two_pos
  length_encode _ := rfl
  decode_encode n hn := by
    simp only [List.foldl_cons, List.foldl_nil, UInt8.toNat_ofNat']
    omega

/-- The payload of a record. -/
def telemPayload (seqNo uptimeMs : UInt32) : List UInt8 :=
  (buildTelemetryRecord seqNo uptimeMs).drop 2

/-- A record is its payload behind a length. -/
theorem buildTelemetryRecord_eq_frame (seqNo uptimeMs : UInt32) :
    buildTelemetryRecord seqNo uptimeMs = telemLength.frame (telemPayload seqNo uptimeMs) := by
  have hlength : telemLength.encode (telemPayload seqNo uptimeMs).length =
      [((9 : UInt32) >>> 8).toUInt8, (9 : UInt32).toUInt8] := by
    have hnine : (telemPayload seqNo uptimeMs).length = 9 := rfl
    rw [hnine]
    decide
  rw [LengthCodec.frame, hlength]
  rfl

/-- The payload as its reader takes it apart. -/
def readTelemPayload : List UInt8 → Option (UInt32 × UInt32 × UInt8)
  | [s3, s2, s1, s0, u3, u2, u1, u0, node] =>
    some (dwordOfBytes s3 s2 s1 s0, dwordOfBytes u3 u2 u1 u0, node)
  | _ => none

/-- A payload tells the sequence number, the uptime and the node. -/
theorem readTelemPayload_telemPayload (seqNo uptimeMs : UInt32) :
    readTelemPayload (telemPayload seqNo uptimeMs) = some (seqNo, uptimeMs, mcNodeTelematics) := by
  have hread : readTelemPayload (telemPayload seqNo uptimeMs) =
      some (dwordOfBytes (seqNo >>> 24).toUInt8 (seqNo >>> 16).toUInt8 (seqNo >>> 8).toUInt8
          seqNo.toUInt8,
        dwordOfBytes (uptimeMs >>> 24).toUInt8 (uptimeMs >>> 16).toUInt8 (uptimeMs >>> 8).toUInt8
          uptimeMs.toUInt8, mcNodeTelematics) := rfl
  rw [hread, dwordOfBytes_shifts, dwordOfBytes_shifts]

/-- The payloads of the first records. -/
def telemPayloads (n : Nat) : List (List UInt8) :=
  (List.range n).map fun i => telemPayload (UInt32.ofNat (i + 1)) (UInt32.ofNat (100 * (i + 1)))

/-- What a run writes to the network is the stream of its payloads. -/
theorem net_telematicsRun (registered : UInt32) (ios : List TelemIo) :
    (telematicsRun registered ios).net.flatten = telemLength.stream (telemPayloads ios.length) := by
  induction ios using List.reverseRecOn with
  | nil => rfl
  | append_singleton ios io ih =>
    obtain ⟨-, hseq, huptime⟩ := telematicsRun_counters registered ios
    have hrun : telematicsRun registered (ios ++ [io]) =
        telematicsMain (telematicsRun registered ios) io := run_snoc _ _ _ _
    have huptime' : (telematicsRun registered ios).uptimeMs + telemHeartbeatPeriodMs =
        UInt32.ofNat (100 * (ios.length + 1)) := by
      rw [huptime, Nat.mul_succ, UInt32.ofNat_add]
      rfl
    have hseq' : (telematicsRun registered ios).seqNo + 1 = UInt32.ofNat (ios.length + 1) := by
      rw [hseq, UInt32.ofNat_add]
      rfl
    rw [hrun, telematicsMain_eq, hseq', huptime', buildTelemetryRecord_eq_frame,
      List.flatten_append, ih, List.length_append, List.length_singleton, telemPayloads,
      telemPayloads, List.range_succ, List.map_append, LengthCodec.stream, LengthCodec.stream,
      List.flatMap_append]
    simp

/-- Whatever part of the byte stream a receiver has got: the whole records in it are the first
ones, and they state the numbers 1, 2 and so on with the time of each. -/
theorem telemetry_received (registered : UInt32) (ios : List TelemIo) (got : Nat) :
    (telemLength.drain ((telematicsRun registered ios).net.flatten.take got)).1.map
        readTelemPayload =
      (List.range (min (got / 11) ios.length)).map fun i =>
        some (UInt32.ofNat (i + 1), UInt32.ofNat (100 * (i + 1)), mcNodeTelematics) := by
  have hpayload : ∀ payload ∈ telemPayloads ios.length, payload.length = 9 := by
    intro payload hpayload
    obtain ⟨i, -, rfl⟩ := List.mem_map.mp hpayload
    rfl
  have hbound : ∀ payload ∈ telemPayloads ios.length, payload.length < telemLength.bound := by
    intro payload hmem
    rw [hpayload payload hmem]
    decide
  have hsize : ∀ payload ∈ telemPayloads ios.length, (telemLength.frame payload).length = 11 := by
    intro payload hmem
    rw [LengthCodec.length_frame, hpayload payload hmem]
    rfl
  rw [net_telematicsRun, telemLength.drain_take hbound hsize (by omega), telemPayloads,
    ← List.map_take, List.take_range, List.map_map]
  exact List.map_congr_left fun i _ => readTelemPayload_telemPayload _ _

end Microcar.Tools
