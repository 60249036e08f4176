import Microcar.Protocol.Codec
import Microcar.Vehicle.Bus

/-!
# The byte order on the bus

The protocol documents its words as little-endian, and the shared codec reads them so. The
heartbeats of the firmware and the wheel speed of the plant are written with the high byte
first. The codec recovers exactly the values that read the same in both orders.
-/

namespace Microcar.Vehicle

/-- The codec reads the wheel speed of the plant with its bytes swapped. -/
theorem mcDecodeWheelSpeed_wheelSpeedFrame (speed : UInt16) :
    mcDecodeWheelSpeed (wheelSpeedFrame speed).data =
      Core.wordOfBytes (Core.loByte speed) (Core.hiByte speed) := rfl

/-- It recovers the wheel speed of the plant exactly when both bytes are equal. -/
theorem mcDecodeWheelSpeed_wheelSpeedFrame_iff (speed : UInt16) :
    mcDecodeWheelSpeed (wheelSpeedFrame speed).data = speed ↔
      Core.hiByte speed = Core.loByte speed := by
  have hbytes := Core.wordOfBytes_hiByte_loByte speed
  rw [mcDecodeWheelSpeed_wheelSpeedFrame]
  nth_rewrite 3 [← hbytes]
  rw [Core.wordOfBytes_inj]
  constructor
  · rintro ⟨hlow, -⟩
    exact hlow.symm
  · intro h
    exact ⟨h.symm, h⟩

/-- The shared codec recovers node and uptime of a heartbeat on the bus exactly when the
uptime is a palindrome of bytes, and the wheel speed on the bus exactly when its two bytes
are equal. -/
theorem wireFormat_agrees_iff (node : UInt8) (uptimeMs : UInt32) (speed : UInt16) :
    (mcDecodeHeartbeat (heartbeatFrame node uptimeMs).data = ⟨node, uptimeMs⟩ ↔
        (uptimeMs >>> 24).toUInt8 = uptimeMs.toUInt8 ∧
          (uptimeMs >>> 16).toUInt8 = (uptimeMs >>> 8).toUInt8) ∧
      (mcDecodeWheelSpeed (wheelSpeedFrame speed).data = speed ↔
        Core.hiByte speed = Core.loByte speed) :=
  ⟨mcDecodeHeartbeat_heartbeatFrame_iff node uptimeMs, mcDecodeWheelSpeed_wheelSpeedFrame_iff speed⟩

/-- An uptime of one hundred milliseconds and a speed of twelve kilometres per hour are read
as other values. -/
theorem wireFormat_differs :
    mcDecodeHeartbeat (heartbeatFrame mcNodeGateway 100).data ≠ ⟨mcNodeGateway, 100⟩ ∧
      mcDecodeWheelSpeed (wheelSpeedFrame 120).data ≠ 120 := by
  decide +kernel

end Microcar.Vehicle
