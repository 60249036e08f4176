import Microcar.Core.Keyed
import Microcar.Checker.Conditions

/-!
# The ECUs of the trace simulator

`check_trace.py` replays the firmware of the four ECUs in state machines of its own. They read the
frames that the simulated bus delivers, write trace lines, and every 10 ms publish frames.
-/

namespace Microcar.Checker

open Microcar.Core

/-- Node IDs. -/
def mcNodeGateway : Nat := 1
/-- The powertrain. -/
def mcNodePowertrain : Nat := 2
/-- The BMS. -/
def mcNodeBms : Nat := 3
/-- The dashboard. -/
def mcNodeDashboard : Nat := 4
/-- The plant, which is no ECU. -/
def mcNodePlant : Nat := 100

/-- Message IDs. -/
def mcMsgHeartbeat : Nat := 0x001
/-- The gateway's mode. -/
def mcMsgVehicleMode : Nat := 0x010
/-- The powertrain's torque. -/
def mcMsgMotorCommand : Nat := 0x101
/-- The plant's speed. -/
def mcMsgWheelSpeed : Nat := 0x200
/-- The plant's battery. -/
def mcMsgBmsStatus : Nat := 0x201
/-- The BMS's torque limit. -/
def mcMsgBmsLimits : Nat := 0x202
/-- The BMS's fault code. -/
def mcMsgBmsFault : Nat := 0x203
/-- A warning. -/
def mcMsgWarning : Nat := 0x400

/-- Vehicle modes. -/
def vehicleOff : Nat := 0
/-- READY. -/
def vehicleReady : Nat := 1
/-- DRIVE. -/
def vehicleDrive : Nat := 2
/-- LIMP. -/
def vehicleLimp : Nat := 3
/-- FAULT. -/
def vehicleFault : Nat := 4

/-- BMS states. -/
def bmsOk : Nat := 0
/-- Above 60 °C. -/
def bmsWarnHot : Nat := 1
/-- Above 75 °C. -/
def bmsLimpRequest : Nat := 2
/-- Above 90 °C. -/
def bmsCriticalFault : Nat := 3

/-- The torque that is left in limp mode. -/
def torqueLimpMax : Nat := 25

/-- A line of the trace, with the fields that its type adds. -/
structure TraceLine where
  machine : Nat
  time : Nat
  event : String
  fields : List (String × PyValue)

/-- A message that an ECU publishes. -/
structure Message where
  sender : Nat
  id : Nat
  data : List Nat

/-! ### Gateway -/

/-- State of the simulated gateway. -/
structure GatewayState where
  mode : Nat
  nodesOnline : List Nat
  nodeLastBeat : List (Nat × Nat)
  /-- Severity, source and code. -/
  faults : List (Nat × Nat × Nat)
  driving : Bool

/-- The gateway at start, `GatewayState.__init__`. -/
def GatewayState.new : GatewayState := ⟨vehicleOff, [], [], [], false⟩

/-- A node in the trace, `_node_name`. -/
def nodeName (nodeId : Nat) : String :=
  if nodeId = mcNodePowertrain then "powertrain"
  else if nodeId = mcNodeBms then "bms"
  else if nodeId = mcNodeDashboard then "dashboard"
  else toString nodeId

/-- A mode in the trace, `mode_name`. -/
def modeName (mode : Nat) : String :=
  (["OFF", "READY", "DRIVE", "LIMP", "FAULT"][mode]?).getD ""

/-- Take a frame from the bus. -/
def GatewayState.processFrame (s : GatewayState) (frameId : Nat) (data : List Nat)
    (now sender : Nat) : GatewayState × List TraceLine :=
  if frameId = mcMsgHeartbeat then
    let nodeId := data.headD sender
    let s := { s with nodeLastBeat := assign nodeId now s.nodeLastBeat }
    if nodeId ∈ s.nodesOnline then (s, [])
    else
      ({ s with nodesOnline := s.nodesOnline ++ [nodeId] },
        [⟨mcNodeGateway, now, "node_online", [("node", .str (nodeName nodeId))]⟩])
  else if frameId = mcMsgBmsFault then
    match data with
    | code :: _ => ({ s with faults := s.faults ++ [(2, mcNodeBms, code)] }, [])
    | [] => (s, [])
  else if frameId = mcMsgBmsLimits then
    match data with
    | maxTorque :: _ =>
      if maxTorque ≤ torqueLimpMax then ({ s with faults := s.faults ++ [(1, mcNodeBms, 1)] }, [])
      else (s, [])
    | [] => (s, [])
  else if frameId = mcMsgMotorCommand then
    match data with
    | torque :: _ =>
      -- A signed byte: 256 would be no torque either.
      let torque : Int := if 127 < torque then (torque : Int) - 256 else torque
      (if torque ≠ 0 then { s with driving := true } else s, [])
    | [] => (s, [])
  else if frameId = mcMsgWarning then
    match data with
    | source :: code :: _ =>
      ({ s with faults := s.faults ++ [(if 7 ≤ code then 2 else 1, source, code)] }, [])
    | _ => (s, [])
  else (s, [])

/-- The online nodes whose last heartbeat lies 300 ms back are lost. -/
def GatewayState.loseNode (now : Nat) (found : GatewayState × List TraceLine) (nodeId : Nat) :
    GatewayState × List TraceLine :=
  let (s, lines) := found
  match s.nodeLastBeat.lookup nodeId with
  | none => (s, lines)
  | some last =>
    if 300000 < now - last ∧ nodeId ∈ s.nodesOnline then
      ({ s with nodesOnline := s.nodesOnline.erase nodeId },
        lines ++ [⟨mcNodeGateway, now, "node_lost", [("node", .str (nodeName nodeId))]⟩])
    else (s, lines)

/-- The mode for the online nodes and the faults. -/
def GatewayState.chooseMode (s : GatewayState) (bmsLost : Bool) : Nat :=
  let hasCritical := s.faults.any fun f => 2 ≤ f.1
  let hasWarning := s.faults.any fun f => f.1 == 1
  let bmsLimpWarning := s.faults.any fun f => f.2.1 == mcNodeBms && f.2.2 == 1
  if s.nodesOnline.isEmpty then s.mode
  else if hasCritical || bmsLost then vehicleFault
  else if hasWarning && bmsLimpWarning then vehicleLimp
  else if s.driving then vehicleDrive
  else vehicleReady

/-- The 10 ms step: lose nodes, and change the mode. -/
def GatewayState.update (s : GatewayState) (now : Nat) : GatewayState × List TraceLine :=
  let (s, lines) := [mcNodePowertrain, mcNodeBms, mcNodeDashboard].foldl (loseNode now) (s, [])
  let oldMode := s.mode
  let bmsLost := (s.nodeLastBeat.lookup mcNodeBms).isSome && !s.nodesOnline.contains mcNodeBms
  let key := (2, mcNodeBms, 2)
  let s := if bmsLost && !s.faults.contains key then { s with faults := s.faults ++ [key] } else s
  let s := { s with mode := s.chooseMode bmsLost }
  if s.mode ≠ oldMode then
    (s, lines ++ [⟨mcNodeGateway, now, "vehicle_mode", [("value", .str (modeName s.mode))]⟩])
  else (s, lines)

/-- Its mode, and a warning for each source and code among its faults. -/
def GatewayState.publish (s : GatewayState) : List Message :=
  let keys := (s.faults.filter fun f => 1 ≤ f.1).map fun f => (f.2.1, f.2.2)
  ⟨mcNodeGateway, mcMsgVehicleMode, [s.mode, 0]⟩ ::
    keys.eraseDups.map fun key => ⟨mcNodeGateway, mcMsgWarning, [key.1, key.2]⟩

/-! ### Powertrain -/

/-- State of the simulated powertrain. -/
structure PowertrainState where
  mode : Nat
  throttle : Int
  brake : Bool
  gatewayBeat : Nat
  bmsLimit : Nat
  motorEnable : Bool
  lastTorque : Int
  torqueLimitedCount : Nat
  inputReceived : Bool

/-- The powertrain at start. -/
def PowertrainState.new : PowertrainState :=
  ⟨vehicleOff, 0, false, 0, 100, true, -1, 0, false⟩

/-- Take a frame from the bus. -/
def PowertrainState.processFrame (s : PowertrainState) (frameId : Nat) (data : List Nat)
    (now sender : Nat) : PowertrainState :=
  if frameId = mcMsgHeartbeat ∧ sender = mcNodeGateway then { s with gatewayBeat := now }
  else if frameId = mcMsgVehicleMode then
    match data with
    | mode :: _ =>
      let s := { s with mode := mode }
      if mode = vehicleFault then { s with motorEnable := false }
      else if mode = vehicleLimp then { s with bmsLimit := min s.bmsLimit torqueLimpMax }
      else s
    | [] => s
  else if frameId = mcMsgBmsLimits then
    match data with
    | limit :: _ => { s with bmsLimit := min s.bmsLimit limit }
    | [] => s
  else s

/-- Take the driver's input. -/
def PowertrainState.setDriverInput (s : PowertrainState) (throttle : Int) (brake : Bool) :
    PowertrainState :=
  { s with throttle := throttle, brake := brake, inputReceived := true }

/-- The torque, and whether it is the first one limited in limp mode. -/
def PowertrainState.torque (s : PowertrainState) : Int × Bool :=
  if !s.motorEnable || s.mode == vehicleFault || s.brake then (0, false)
  else if s.mode = vehicleLimp then
    let torque := min s.throttle torqueLimpMax
    (torque, 0 < torque && s.torqueLimitedCount == 0)
  else (s.throttle, false)

/-- The 10 ms step: look for a timeout, and state the torque. -/
def PowertrainState.update (s : PowertrainState) (now : Nat) : PowertrainState × List TraceLine :=
  let timeout : Bool := 250000 < now - s.gatewayBeat && 0 < s.gatewayBeat
  let s := if timeout then { s with motorEnable := false } else s
  let (torque, limited) := s.torque
  let s := if limited then { s with torqueLimitedCount := s.torqueLimitedCount + 1 } else s
  let publish := torque ≠ s.lastTorque ∨ s.inputReceived = true
  let s := if publish then { s with lastTorque := torque, inputReceived := false } else s
  (s, (if timeout then [⟨mcNodePowertrain, now, "gateway_timeout", []⟩] else []) ++
    (if limited then
      [⟨mcNodePowertrain, now, "torque_limited", [("max_percent", .int torqueLimpMax)]⟩]
    else []) ++
    if publish then [⟨mcNodePowertrain, now, "motor_command", [("torque", .int torque)]⟩] else [])

/-- The motor command, its torque as a byte. -/
def PowertrainState.publish (s : PowertrainState) : List Message :=
  [⟨mcNodePowertrain, mcMsgMotorCommand,
    [(s.lastTorque % 256).toNat, if s.motorEnable then 1 else 0]⟩]

/-! ### BMS -/

/-- State of the simulated BMS. -/
structure BmsState where
  state : Nat
  tempCX10 : Nat
  lastFaultPublished : Nat

/-- The BMS at start. -/
def BmsState.new : BmsState := ⟨bmsOk, 250, 0⟩

/-- A state of the BMS in the trace. -/
def bmsStateName (state : Nat) : String :=
  (["OK", "WARN_HOT", "LIMP_REQUEST", "CRITICAL_FAULT"][state]?).getD ""

/-- The state for a temperature in 0.1 °C. -/
def bmsStateOf (tempCX10 : Nat) : Nat :=
  if 900 < tempCX10 then bmsCriticalFault
  else if 750 < tempCX10 then bmsLimpRequest
  else if 600 < tempCX10 then bmsWarnHot
  else bmsOk

/-- Take the plant's battery from the bus. -/
def BmsState.processFrame (s : BmsState) (frameId : Nat) (data : List Nat) (now : Nat) :
    BmsState × List TraceLine :=
  match data with
  | _ :: _ :: _ :: tempHi :: tempLo :: _ :: _ :: _ =>
    if frameId = mcMsgBmsStatus then
      let temp := (tempHi <<< 8) ||| tempLo
      let old := s.state
      let s := { s with tempCX10 := temp, state := bmsStateOf temp }
      if s.state = old then (s, [])
      else
        let changed : TraceLine :=
          ⟨mcNodeBms, now, "battery_temp", [("value", .str (bmsStateName s.state))]⟩
        if s.state = bmsCriticalFault ∧ s.lastFaultPublished ≠ 1 then
          ({ s with lastFaultPublished := 1 },
            [changed, ⟨mcNodeBms, now, "fault", [("value", .str "CRITICAL_BMS_FAULT")]⟩])
        else (s, [changed])
    else (s, [])
  | _ => (s, [])

/-- Its fault and its torque limit, where it has them. -/
def BmsState.publish (s : BmsState) : List Message :=
  (if s.state = bmsCriticalFault then [⟨mcNodeBms, mcMsgBmsFault, [1]⟩] else []) ++
    if s.state = bmsLimpRequest then [⟨mcNodeBms, mcMsgBmsLimits, [torqueLimpMax, 0]⟩] else []

/-! ### Dashboard -/

/-- State of the simulated dashboard. -/
structure DashboardState where
  mode : Nat
  speed : Nat
  soc : Nat
  tempCX10 : Nat
  /-- Source and code. -/
  warnings : List (Nat × Nat)
  lastWarningPublished : Option (Nat × Nat)
  lastMode : Nat

/-- The dashboard at start. -/
def DashboardState.new : DashboardState := ⟨vehicleOff, 0, 80, 250, [], none, vehicleOff⟩

/-- The displayed name of a warning. A received frame of code 6 has none. -/
def warnName (received : Bool) (code : Nat) : String :=
  match code with
  | 1 => "BMS_OVERTEMP"
  | 2 => "BMS_OFFLINE"
  | 3 => "POWERTRAIN_OFFLINE"
  | 4 => "GATEWAY_RESTARTED"
  | 5 => "DASHBOARD_OFFLINE"
  | 6 => if received then "WARN_6" else "INVALID_THROTTLE"
  | 7 => "CRITICAL_BMS_FAULT"
  | code => s!"WARN_{code}"

/-- A line of the dashboard. -/
def dashboardLine (now : Nat) (event value : String) : TraceLine :=
  ⟨mcNodeDashboard, now, event, [("value", .str value)]⟩

/-- Publish a warning unless it is the last one that was published. -/
def DashboardState.warn (s : DashboardState) (now : Nat) (warning : Nat × Nat) (name : String) :
    DashboardState × List TraceLine :=
  if s.lastWarningPublished = some warning then (s, [])
  else ({ s with lastWarningPublished := some warning }, [dashboardLine now "warning" name])

/-- Take a frame from the bus. -/
def DashboardState.processFrame (s : DashboardState) (frameId : Nat) (data : List Nat)
    (now : Nat) : DashboardState × List TraceLine :=
  if frameId = mcMsgVehicleMode then
    match data with
    | newMode :: _ =>
      if newMode = s.lastMode then (s, [])
      else
        -- The mode before this one is kept as the last one.
        let s := { s with lastMode := s.mode, mode := newMode }
        if newMode = vehicleFault ∧ vehicleDrive ≤ s.lastMode then
          (s, [dashboardLine now "warning" "VEHICLE_FAULT"])
        else (s, [])
    | [] => (s, [])
  else if frameId = mcMsgWheelSpeed then
    match data with
    | hi :: lo :: _ =>
      let newSpeed := (hi <<< 8) ||| lo
      if newSpeed = s.speed then (s, [])
      else ({ s with speed := newSpeed }, [dashboardLine now "speed" (toString newSpeed)])
    | _ => (s, [])
  else if frameId = mcMsgBmsStatus then
    match data with
    | soc :: _ :: _ :: tempHi :: tempLo :: _ :: _ :: _ =>
      ({ s with soc := soc, tempCX10 := (tempHi <<< 8) ||| tempLo }, [])
    | _ => (s, [])
  else if frameId = mcMsgWarning then
    match data with
    | src :: code :: _ =>
      let s := { s with warnings := s.warnings ++ [(src, code)] }
      s.warn now (mcNodeGateway, code) (warnName true code)
    | _ => (s, [])
  else (s, [])

/-- The 10 ms step: show the speed and the temperature. -/
def DashboardState.update (s : DashboardState) (now : Nat) : DashboardState × List TraceLine :=
  let speed := if 0 < s.speed then [dashboardLine now "speed" (toString s.speed)] else []
  let (s, hot) :=
    if 900 < s.tempCX10 then s.warn now (mcNodeBms, 7) "CRITICAL_BMS_FAULT"
    else if 750 < s.tempCX10 then s.warn now (mcNodeBms, 1) "BMS_OVERTEMP"
    else (s, [])
  match s.warnings with
  | [] => (s, speed ++ hot)
  | warning :: _ =>
    -- Only the first warning is looked at.
    let (s, first) := s.warn now warning (warnName false warning.2)
    (s, speed ++ hot ++ first)

/-- The dashboard publishes nothing. -/
def DashboardState.publish (s : DashboardState) : List Message :=
  match s.lastWarningPublished with
  | some (src, code) => [⟨mcNodeDashboard, mcMsgWarning, [src, code]⟩]
  | none => []

/-! ### The four together -/

/-- The four ECUs. -/
structure EcuStates where
  gateway : GatewayState
  powertrain : PowertrainState
  bms : BmsState
  dashboard : DashboardState

/-- The four ECUs at start. -/
def EcuStates.new : EcuStates := ⟨.new, .new, .new, .new⟩

/-- `emit_firmware_events`: the receiver processes the frame. -/
def EcuStates.receive (s : EcuStates) (now receiver sender frameId : Nat) (data : List Nat) :
    EcuStates × List TraceLine :=
  if receiver = mcNodeGateway then
    let (gateway, lines) := s.gateway.processFrame frameId data now sender
    ({ s with gateway := gateway }, lines)
  else if receiver = mcNodePowertrain then
    ({ s with powertrain := s.powertrain.processFrame frameId data now sender }, [])
  else if receiver = mcNodeBms then
    let (bms, lines) := s.bms.processFrame frameId data now
    ({ s with bms := bms }, lines)
  else if receiver = mcNodeDashboard then
    let (dashboard, lines) := s.dashboard.processFrame frameId data now
    ({ s with dashboard := dashboard }, lines)
  else (s, [])

/-- The updates of the ECUs and what they publish, the first half of `update_ecu_states`. -/
def EcuStates.update (s : EcuStates) (now : Nat) : EcuStates × List TraceLine × List Message :=
  let (gateway, gatewayLines) := s.gateway.update now
  let (powertrain, powertrainLines) := s.powertrain.update now
  let (dashboard, dashboardLines) := s.dashboard.update now
  (⟨gateway, powertrain, s.bms, dashboard⟩, gatewayLines ++ powertrainLines ++ dashboardLines,
    gateway.publish ++ powertrain.publish ++ s.bms.publish ++ dashboard.publish)

/-- A rebooted ECU starts afresh. -/
def EcuStates.reset (s : EcuStates) (machine : Nat) : EcuStates :=
  if machine = mcNodeGateway then { s with gateway := .new }
  else if machine = mcNodePowertrain then { s with powertrain := .new }
  else if machine = mcNodeBms then { s with bms := .new }
  else if machine = mcNodeDashboard then { s with dashboard := .new }
  else s

end Microcar.Checker
