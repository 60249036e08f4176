import Microcar.Core.Run
import Microcar.Core.Table
import Microcar.Core.Milestones
import Microcar.Core.Bytes
import Microcar.Core.Link
import Microcar.Core.Checked
import Microcar.Core.Lockstep
import Microcar.Core.Noninterference
import Microcar.Core.Binary64
import Microcar.Core.Deadline
import Microcar.Core.StableSort
import Microcar.Core.Pattern
import Microcar.Core.Outcome
import Microcar.Core.Crc
import Microcar.Core.Drawing
import Microcar.Core.Words
import Microcar.Core.Numerals
import Microcar.Core.Mixing
import Microcar.Core.Keyed
import Microcar.Core.JsonGrammar
import Microcar.Core.Inevitable
import Microcar.Core.Split
import Microcar.Core.Framing
import Microcar.Core.Agenda
import Microcar.Core.Greedy
import Microcar.Core.Script
import Microcar.Protocol.Frame
import Microcar.Protocol.Modes
import Microcar.Protocol.Codec
import Microcar.Protocol.Mirror
import Microcar.Ota.Slot
import Microcar.Ota.Reachable
import Microcar.Ota.Recovery
import Microcar.Ota.SlotModel
import Microcar.Ota.MetaRecord
import Microcar.Charging.Fsm
import Microcar.Charging.Runs
import Microcar.Gateway.HeartbeatMonitor
import Microcar.Gateway.FaultManager
import Microcar.Gateway.FaultTable
import Microcar.Gateway.Handlers
import Microcar.Gateway.Scripts
import Microcar.Gateway.ScriptRule
import Microcar.Gateway.Firmware
import Microcar.Gateway.Effects
import Microcar.Gateway.Schedule
import Microcar.Gateway.Vocabulary
import Microcar.Gateway.OtaReport
import Microcar.Gateway.Emissions
import Microcar.Gateway.FaultLog
import Microcar.Gateway.Reachable
import Microcar.Gateway.Nodes
import Microcar.Gateway.BmsLoss
import Microcar.Gateway.CriticalFault
import Microcar.Gateway.DashboardLoss
import Microcar.Gateway.ModeEscape
import Microcar.Gateway.SessionSafety
import Microcar.Gateway.LimpRequest
import Microcar.Gateway.Interleaving
import Microcar.Gateway.ModePublication
import Microcar.Gateway.HeartbeatQueue
import Microcar.Gateway.ClearDtcs
import Microcar.Gateway.Mirror
import Microcar.Bms.Firmware
import Microcar.Bms.Loop
import Microcar.Bms.FaultReport
import Microcar.Bms.Mirror
import Microcar.Powertrain.Torque
import Microcar.Powertrain.Firmware
import Microcar.Powertrain.Command
import Microcar.Powertrain.MotorWords
import Microcar.Powertrain.GatewayLoss
import Microcar.Powertrain.Envelope
import Microcar.Powertrain.Mirror
import Microcar.Plant.Model
import Microcar.Plant.Exact
import Microcar.Plant.Ranges
import Microcar.Plant.Replica
import Microcar.Plant.TickSafety
import Microcar.Plant.Charge
import Microcar.Plant.SignedCurrent
import Microcar.Plant.DriverInputs
import Microcar.Dashboard.State
import Microcar.Dashboard.Render
import Microcar.Dashboard.Firmware
import Microcar.Dashboard.Warnings
import Microcar.Dashboard.Picture
import Microcar.Dashboard.Mirror
import Microcar.Validation.Ecu
import Microcar.Validation.Scenario
import Microcar.Validation.ActorFrames
import Microcar.Validation.OtaGrammar
import Microcar.Validation.EvseGrammar
import Microcar.Validation.WellFormed
import Microcar.Tools.DiagTool
import Microcar.Tools.Telematics
import Microcar.Tools.OtaTool
import Microcar.Vehicle.Bus
import Microcar.Vehicle.ThermalLimit
import Microcar.Vehicle.WireFormat
import Microcar.Vehicle.FaultPath
import Microcar.Vehicle.Display
import Microcar.Vehicle.HiddenBytes
import Microcar.Vehicle.Timeouts
import Microcar.Vehicle.ModeFollow
import Microcar.Dogfood.Normalize
import Microcar.Dogfood.Pointers
import Microcar.Dogfood.Idempotence
import Microcar.Dogfood.TraceHash
import Microcar.Dogfood.Clock
import Microcar.Dogfood.Json
import Microcar.Dogfood.Correlation
import Microcar.Dogfood.DiagTrace
import Microcar.Dogfood.Ota
import Microcar.Dogfood.Recorded
import Microcar.Dogfood.Variants
import Microcar.Dogfood.Answers
import Microcar.Vehicle.DiagSession
import Microcar.Vehicle.Senders
import Microcar.Dogfood.OtaLane
import Microcar.Dogfood.Telematics
import Microcar.Dogfood.Corpus
import Microcar.Dogfood.Diagnostics
import Microcar.Dogfood.Charging
import Microcar.Checker.Conditions
import Microcar.Checker.Assertions
import Microcar.Checker.TraceEcus
import Microcar.Checker.SafetyRules
import Microcar.Checker.Simulation
import Microcar.Checker.OnTime
import Microcar.Checker.SimulatedRules
import Microcar.Checker.Reboot
