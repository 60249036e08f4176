import Microcar.Protocol.Modes

/-!
# The protocol of the state tests

The state tests repeat the firmware's pure logic in Rust. Their mode enumeration ends at
CHARGING; the functions below are the ones the mirrored controllers are built on.
-/

namespace Microcar.Mirror

/-- The modes of the mirror, `VehicleMode`. -/
inductive VehicleMode where
  | off
  | ready
  | drive
  | limp
  | fault
  | charging
  deriving DecidableEq, Repr

/-- The mode of the firmware with the same discriminant. -/
def VehicleMode.firmware : VehicleMode → McVehicleMode
  | .off => .off
  | .ready => .ready
  | .drive => .drive
  | .limp => .limp
  | .fault => .fault
  | .charging => .charging

/-- The local `effective_max` of the clamp. -/
def effectiveMax (mode : VehicleMode) (bmsMaxTorque : UInt8) : UInt8 :=
  match mode with
  | .limp => min mcTorqueLimpMaxPercent bmsMaxTorque
  | _ => min bmsMaxTorque 100

/-- Safety rules over a requested torque, `safety_clamp_torque` of the mirror; only FAULT
blocks. -/
def safetyClampTorque (requested : Int8) (mode : VehicleMode) (brakePressed : Bool)
    (bmsMaxTorque : UInt8) : Int8 :=
  if brakePressed then 0
  else if mode = .fault then 0
  else min (max requested 0) (effectiveMax mode bmsMaxTorque).toInt8

/-- Transition of the vehicle mode, `determine_mode`. -/
def determineMode (current : VehicleMode)
    (allNodesOnline bmsFaultActive bmsLimpRequested : Bool) : VehicleMode :=
  if current = .fault then .fault
  else if bmsFaultActive then .fault
  else if current = .charging then .charging
  else if bmsLimpRequested then .limp
  else
    match current with
    | .off => if allNodesOnline then .ready else .off
    | .ready => if !allNodesOnline then .off else .ready
    | .drive => if !allNodesOnline then .ready else .drive
    | .limp => if allNodesOnline then .ready else .off
    | _ => .off

/-- Both transitions of the vehicle mode agree on the shared modes. -/
theorem firmware_determineMode (m : VehicleMode) (online fault limp : Bool) :
    (determineMode m online fault limp).firmware =
      mcGatewayDetermineMode m.firmware online fault limp := by
  cases m <;> cases online <;> cases fault <;> cases limp <;> rfl

end Microcar.Mirror
