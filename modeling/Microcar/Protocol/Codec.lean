import Microcar.Core.Bytes
import Microcar.Protocol.Frame

/-!
# The shared payload codec

Encoders and decoders that copy a packed struct to or from the payload buffer. The words of
a packed struct lie in memory with their low byte first, as the protocol documents it. Each
decoder inverts its own encoder.
-/

namespace Microcar

/-- Payload of a heartbeat, `mc_heartbeat_msg_t`. -/
structure McHeartbeatMsg where
  /-- Node that sends the heartbeat. -/
  nodeId : UInt8
  /-- Uptime of the node in milliseconds. -/
  uptimeMs : UInt32
  deriving DecidableEq, Repr

/-- Copy a packed heartbeat into the buffer, `mc_encode_heartbeat`. -/
def mcEncodeHeartbeat (buf : Vector UInt8 8) (m : McHeartbeatMsg) : Vector UInt8 8 :=
  ((((buf.set 0 m.nodeId).set 1 m.uptimeMs.toUInt8).set 2 (m.uptimeMs >>> 8).toUInt8).set 3
    (m.uptimeMs >>> 16).toUInt8).set 4 (m.uptimeMs >>> 24).toUInt8

/-- Read a packed heartbeat out of the buffer, `mc_decode_heartbeat`. -/
def mcDecodeHeartbeat (buf : Vector UInt8 8) : McHeartbeatMsg where
  nodeId := buf[0]
  uptimeMs := Core.dwordOfBytes buf[4] buf[3] buf[2] buf[1]

/-- Copy a packed wheel speed into the buffer, `mc_encode_wheel_speed`. -/
def mcEncodeWheelSpeed (buf : Vector UInt8 8) (speedKphX10 : UInt16) : Vector UInt8 8 :=
  (buf.set 0 (Core.loByte speedKphX10)).set 1 (Core.hiByte speedKphX10)

/-- Read a packed wheel speed out of the buffer, `mc_decode_wheel_speed`. -/
def mcDecodeWheelSpeed (buf : Vector UInt8 8) : UInt16 := Core.wordOfBytes buf[1] buf[0]

/-- The codec reads back every heartbeat it writes. -/
theorem mcDecodeHeartbeat_mcEncodeHeartbeat (buf : Vector UInt8 8) (m : McHeartbeatMsg) :
    mcDecodeHeartbeat (mcEncodeHeartbeat buf m) = m := by
  have huptime := Core.dwordOfBytes_shifts m.uptimeMs
  simp [mcDecodeHeartbeat, mcEncodeHeartbeat, huptime]

/-- The codec reads back every wheel speed it writes. -/
theorem mcDecodeWheelSpeed_mcEncodeWheelSpeed (buf : Vector UInt8 8) (speedKphX10 : UInt16) :
    mcDecodeWheelSpeed (mcEncodeWheelSpeed buf speedKphX10) = speedKphX10 := by
  have hspeed := Core.wordOfBytes_hiByte_loByte speedKphX10
  simp [mcDecodeWheelSpeed, mcEncodeWheelSpeed, hspeed]

/-- The codec reads the uptime of a firmware heartbeat with its bytes reversed. -/
theorem mcDecodeHeartbeat_heartbeatFrame (node : UInt8) (nowMs : UInt32) :
    mcDecodeHeartbeat (heartbeatFrame node nowMs).data =
      ⟨node, Core.dwordOfBytes nowMs.toUInt8 (nowMs >>> 8).toUInt8 (nowMs >>> 16).toUInt8
        (nowMs >>> 24).toUInt8⟩ := by
  simp [mcDecodeHeartbeat, heartbeatFrame, McCanFrame.getElem_data_put]

/-- It recovers node and uptime of a firmware heartbeat exactly when the uptime reads the same
in both byte orders. -/
theorem mcDecodeHeartbeat_heartbeatFrame_iff (node : UInt8) (nowMs : UInt32) :
    mcDecodeHeartbeat (heartbeatFrame node nowMs).data = ⟨node, nowMs⟩ ↔
      (nowMs >>> 24).toUInt8 = nowMs.toUInt8 ∧ (nowMs >>> 16).toUInt8 = (nowMs >>> 8).toUInt8 := by
  have hbytes := Core.dwordOfBytes_shifts nowMs
  rw [mcDecodeHeartbeat_heartbeatFrame, McHeartbeatMsg.mk.injEq, and_iff_right rfl]
  nth_rewrite 5 [← hbytes]
  rw [Core.dwordOfBytes_inj]
  constructor
  · rintro ⟨h3, h2, -, -⟩
    exact ⟨h3.symm, h2.symm⟩
  · rintro ⟨h3, h2⟩
    exact ⟨h3.symm, h2.symm, h2, h3⟩

end Microcar
