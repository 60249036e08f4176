import Mathlib.Data.Prod.Lex
import Mathlib.Data.String.Basic
import Microcar.Checker.TraceEcus
import Microcar.Core.StableSort
import Microcar.Plant.Replica

/-!
# The trace simulator

`simulate_scenario` runs a scenario in virtual time. Each turn of its loop goes to the next event,
applies the faults and injected frames that are due, sends heartbeats, delivers the pending frames
that have arrived, and updates the ECUs and the plant, which publish further frames.
-/

namespace Microcar.Checker

open Microcar.Core Microcar.Plant

/-! ### Scenarios -/

/-- A `[[machine]]` entry. -/
structure Machine where
  id : Nat
  name : String

/-- An `[[input]]` entry. -/
structure Input where
  atMs : Nat
  type : String := ""
  throttlePercent : Int := 0
  brakePressed : Bool := false

/-- A `[[fault]]` entry. -/
structure Fault where
  atMs : Nat
  target : String := ""
  type : String := ""
  valueC : Option Int := none
  delayMs : Option Nat := none
  id : Option Nat := none

/-- A `[[bus_inject]]` entry. -/
structure BusInject where
  atMs : Nat
  sender : String := ""
  id : Nat
  data : List Nat

/-- What the simulation reads of a scenario. -/
structure Scenario where
  machines : List Machine := []
  /-- `latency_us` of each bus. -/
  latencies : List (Option Nat) := []
  busInjects : List BusInject := []
  plantType : String := ""
  tickMs : Nat := 10
  inputs : List Input := []
  faults : List Fault := []
  durationMs : Nat := 0

/-- The last latency that is given and not zero, else 500 µs. -/
def Scenario.busLatencyUs (sc : Scenario) : Nat :=
  sc.latencies.foldl (fun latency bus => if bus.getD 0 = 0 then latency else bus.getD 0) 500

/-- The IDs of the machines by name; the last machine of a name counts. -/
def Scenario.nameToId (sc : Scenario) : List (String × Nat) :=
  assignAll Machine.name Machine.id sc.machines

/-! ### Frames and heartbeats -/

/-- A pending delivery. -/
structure Frame where
  arrival : Nat
  receiver : Nat
  sender : Nat
  id : Nat
  data : List Nat
  deriving DecidableEq

/-- Dropped frame ids, and the extra delay of delayed ones. -/
structure Bus where
  dropped : List Nat
  delayed : List (Nat × Nat)

/-- When a frame that is sent now arrives. -/
def Bus.arrival (bus : Bus) (sc : Scenario) (now id : Nat) : Nat :=
  now + sc.busLatencyUs + (bus.delayed.lookup id).getD 0

/-- One frame for every machine but the sender. -/
def broadcast (sc : Scenario) (arrival sender id : Nat) (data : List Nat) : List Frame :=
  (sc.machines.filter fun m => m.id ≠ sender).map fun m => ⟨arrival, m.id, sender, id, data⟩

/-- The line of a sent frame. -/
def canTx (now sender id : Nat) (data : List Nat) : TraceLine :=
  ⟨sender, now, "can-tx", [("sender", .int sender), ("id", .int id), ("len", .int data.length)]⟩

/-- The line of a delivered frame. -/
def canRx (now : Nat) (frame : Frame) : TraceLine :=
  ⟨frame.receiver, now, "can-rx",
    [("receiver", .int frame.receiver), ("id", .int frame.id), ("len", .int frame.data.length)]⟩

/-- The heartbeat generator. -/
structure EcuHeartbeats where
  nextHbTime : List (Nat × Nat)
  uptime : List (Nat × Nat)
  stopped : List Nat
  rebooting : List (Nat × Nat)
  machineIds : List Nat

/-- The machines beat every 100 ms, each with an offset of its own. -/
def EcuHeartbeats.new (machines : List Machine) : EcuHeartbeats where
  nextHbTime := assignAll Machine.id (fun m => (m.id * 10 + 40) * 1000) machines
  uptime := assignAll Machine.id (fun _ => 0) machines
  stopped := []
  rebooting := []
  machineIds := machines.map Machine.id

/-- The earliest next heartbeat of a machine that is not stopped. -/
def EcuHeartbeats.nextEventTime (hb : EcuHeartbeats) : Option Nat :=
  ((hb.machineIds.filter fun mid => mid ∉ hb.stopped).filterMap fun mid =>
    hb.nextHbTime.lookup mid).min?

/-- The machine beats no more. -/
def EcuHeartbeats.stopHeartbeat (hb : EcuHeartbeats) (mid : Nat) : EcuHeartbeats :=
  { hb with stopped := hb.stopped.insert mid }

/-- A rebooting machine is stopped as well, and nothing takes it off that list. -/
def EcuHeartbeats.reboot (hb : EcuHeartbeats) (mid now : Nat) : EcuHeartbeats :=
  { hb with
    stopped := hb.stopped.insert mid
    rebooting := assign mid (now + 500000) hb.rebooting
    uptime := assign mid 0 hb.uptime }

/-- The payload of a heartbeat: the machine, and its uptime high byte first. -/
def heartbeatData (mid uptime : Nat) : List Nat :=
  [mid, (uptime >>> 24) % 256, (uptime >>> 16) % 256, (uptime >>> 8) % 256, uptime % 256]

/-- The turn of one machine in `generate`. -/
def EcuHeartbeats.beat (sc : Scenario) (bus : Bus) (now : Nat)
    (found : EcuHeartbeats × List TraceLine × List Frame) (mid : Nat) :
    EcuHeartbeats × List TraceLine × List Frame :=
  let (hb, lines, frames) := found
  if mid ∈ hb.stopped ∨ (hb.rebooting.lookup mid).any (fun done => now < done) = true then
    (hb, lines, frames)
  else
    let hb := { hb with rebooting := hb.rebooting.filter fun entry => entry.1 ≠ mid }
    match hb.nextHbTime.lookup mid with
    | none => (hb, lines, frames)
    | some next =>
      if next ≤ now then
        let uptime := (hb.uptime.lookup mid).getD 0
        let hb := { hb with
          nextHbTime := assign mid (next + 100000) hb.nextHbTime
          uptime := assign mid (uptime + 100000) hb.uptime }
        if mcMsgHeartbeat ∈ bus.dropped then (hb, lines, frames)
        else
          let data := heartbeatData mid uptime
          (hb, lines ++ [canTx now mid mcMsgHeartbeat data],
            frames ++ broadcast sc (bus.arrival sc now mcMsgHeartbeat) mid mcMsgHeartbeat data)
      else (hb, lines, frames)

/-- The heartbeats that are due, of one machine after the other. -/
def EcuHeartbeats.generate (hb : EcuHeartbeats) (sc : Scenario) (bus : Bus) (now : Nat) :
    EcuHeartbeats × List TraceLine × List Frame :=
  hb.machineIds.foldl (beat sc bus now) (hb, [], [])

/-! ### Faults and injected frames -/

/-- What faults act on. -/
structure World where
  bus : Bus
  heartbeats : EcuHeartbeats
  plant : Option MicrocarPlantSimple
  ecus : EcuStates

/-- `MicrocarPlantSimple.apply_fault`. -/
def applyPlantFault (plant : MicrocarPlantSimple) (target type : String) (valueC : Option Int) :
    MicrocarPlantSimple :=
  if target = "battery" ∧ type = "force_temperature" then
    match valueC with
    | some value => { plant with tempCX10 := value * 10 }
    | none => plant
  else plant

/-- The target in front of its first dot and behind it. -/
def splitTarget (target : String) : String × String :=
  match splitFirst ['.'] target.toList with
  | some (domain, name) => (String.ofList domain, String.ofList name)
  | none => (target, "")

/-- Drop or delay the frames of an id from now on. -/
def applyBusFault (bus : Bus) (now : Nat) (f : Fault) : Bus × List TraceLine :=
  match f.id with
  | none => (bus, [])
  | some id =>
    if f.type = "drop_frame" then
      ({ bus with dropped := bus.dropped.insert id }, [⟨0, now, "can-drop", [("id", .int id)]⟩])
    else if f.type = "delay_frame" then
      let extra := f.delayMs.getD 0 * 1000
      ({ bus with delayed := assign id extra bus.delayed },
        [⟨0, now, "can-delay", [("id", .int id), ("extra_ticks", .int extra)]⟩])
    else (bus, [])

/-- Stop the heartbeats of a machine, or reboot it. -/
def applyMachineFault (sc : Scenario) (world : World) (now : Nat) (name type : String) : World :=
  match sc.nameToId.lookup name with
  | none => world
  | some target =>
    if type = "stop_heartbeat" then
      { world with heartbeats := world.heartbeats.stopHeartbeat target }
    else if type = "reboot" then
      { world with
        heartbeats := world.heartbeats.reboot target now
        ecus := world.ecus.reset target }
    else world

/-- Apply a fault, by the domain of its target. -/
def applyFault (sc : Scenario) (now : Nat) (found : World × List TraceLine) (f : Fault) :
    World × List TraceLine :=
  let (world, lines) := found
  let (domain, name) := splitTarget f.target
  let lines := lines ++
    [⟨0, now, "fault_inject", [("target", .str f.target), ("type", .str f.type)]⟩]
  if domain = "plant" ∧ world.plant.isSome then
    ({ world with plant := world.plant.map fun p => applyPlantFault p name f.type f.valueC }, lines)
  else if domain = "bus" then
    let (bus, busLines) := applyBusFault world.bus now f
    ({ world with bus := bus }, lines ++ busLines)
  else if domain = "machine" then (applyMachineFault sc world now name f.type, lines)
  else (world, lines)

/-- The first machine of the sender's name, or 0. -/
def injectSender (sc : Scenario) (inject : BusInject) : Nat :=
  match sc.machines.find? fun m => m.name == inject.sender with
  | some m => m.id
  | none => 0

/-- The frames of an injection, unless its id is dropped. -/
def injectFrames (sc : Scenario) (bus : Bus) (now : Nat) (inject : BusInject) : List Frame :=
  if inject.id ∈ bus.dropped then []
  else broadcast sc (bus.arrival sc now inject.id) (injectSender sc inject) inject.id inject.data

/-! ### Delivery and publication -/

/-- What the delivery loop changes: the pending frames, the ECUs, the trace, and the frames
that it delivered. -/
structure Delivery where
  pending : List Frame
  ecus : EcuStates
  lines : List TraceLine
  delivered : List Frame

/-- One turn of the delivery loop, over a copy of the pending frames. -/
def deliverFrame (now : Nat) (d : Delivery) (frame : Frame) : Delivery :=
  if frame.arrival ≤ now then
    let (ecus, lines) := d.ecus.receive now frame.receiver frame.sender frame.id frame.data
    { pending := d.pending.erase frame
      ecus := ecus
      lines := d.lines ++ [canRx now frame, canTx now frame.sender frame.id frame.data] ++ lines
      delivered := d.delivered ++ [frame] }
  else d

/-- Deliver what has arrived. -/
def deliverFrames (now : Nat) (pending : List Frame) (ecus : EcuStates) : Delivery :=
  pending.foldl (deliverFrame now) ⟨pending, ecus, [], []⟩

/-- The second half of `update_ecu_states`: a trace line and frames for each message that is not
dropped. -/
def publishMessages (sc : Scenario) (bus : Bus) (now : Nat) (messages : List Message) :
    List TraceLine × List Frame :=
  let sent := messages.filter fun message => message.id ∉ bus.dropped
  (sent.map fun message => canTx now message.sender message.id message.data,
    sent.flatMap fun message =>
      broadcast sc (bus.arrival sc now message.id) message.sender message.id message.data)

/-- A reading in two bytes, the high one first. -/
def bytes16 (x : Int) : List Nat := [(x / 256 % 256).toNat, (x % 256).toNat]

/-- The readings of the plant, to all machines and without extra delay. -/
def plantFrames (sc : Scenario) (now : Nat) (plant : MicrocarPlantSimple) : List Frame :=
  let arrival := now + sc.busLatencyUs
  let bmsData := plant.socPercent.toNat ::
    (bytes16 plant.voltageMv ++ bytes16 plant.tempCX10 ++ bytes16 plant.currentMa)
  (sc.machines.map fun m =>
      ⟨arrival, m.id, mcNodePlant, mcMsgWheelSpeed, bytes16 plant.speedKphX10⟩) ++
    sc.machines.map fun m => ⟨arrival, m.id, mcNodePlant, mcMsgBmsStatus, bmsData⟩

/-! ### The loop -/

/-- The variables of the loop. `queued` and `deliveries` record which frames were appended to the
pending ones, and which were delivered when. -/
structure Sim where
  now : Nat
  pendingFrames : List Frame
  world : World
  nextPlantTick : Nat
  lastEcuUpdate : Nat
  inputs : List Input
  faults : List Fault
  injects : List BusInject
  trace : List TraceLine
  queued : List Frame
  deliveries : List (Nat × Frame)

/-- The variables in front of the loop. -/
def Sim.init (sc : Scenario) : Sim where
  now := 0
  pendingFrames := []
  world :=
    { bus := ⟨[], []⟩
      heartbeats := .new sc.machines
      plant := if sc.plantType = "microcar" then some .new else none
      ecus := .new }
  nextPlantTick := sc.tickMs * 1000
  lastEcuUpdate := 0
  inputs := sortByKey (fun i => i.atMs * 1000) (sc.inputs.filter fun i => i.type = "driver_input")
  faults := sortByKey (fun f => f.atMs * 1000) sc.faults
  injects := sortByKey (fun i => i.atMs * 1000) sc.busInjects
  trace := []
  queued := []
  deliveries := []

/-- The times the loop looks at, in its order. Of the pending frames it is the first. -/
def Sim.wakeUps (s : Sim) : List Nat :=
  (s.pendingFrames.head?.map Frame.arrival).toList ++
    s.world.heartbeats.nextEventTime.toList ++
    (if s.world.plant.isSome then [s.nextPlantTick] else []) ++
    [s.lastEcuUpdate + 10000] ++
    (s.inputs.head?.map fun i => i.atMs * 1000).toList ++
    (s.faults.head?.map fun f => f.atMs * 1000).toList ++
    (s.injects.head?.map fun i => i.atMs * 1000).toList

/-- The earlier of the time found so far and another one. -/
def keepEarlier : Option Nat → Nat → Option Nat
  | none, t => some t
  | some next, t => if t < next then some t else some next

/-- The time of the next turn. -/
def Sim.nextTime (s : Sim) : Option Nat := s.wakeUps.foldl keepEarlier none

/-- The driver inputs set the plant and the powertrain. -/
def World.setDriverInput (world : World) (input : Input) : World :=
  { world with
    plant := world.plant.map fun p => p.setDriverInput input.throttlePercent input.brakePressed
    ecus := { world.ecus with
      powertrain :=
        world.ecus.powertrain.setDriverInput input.throttlePercent input.brakePressed } }

/-- Whether a scheduled entry is due. -/
def dueBy (now atMs : Nat) : Bool := atMs * 1000 ≤ now

/-- Whether the plant steps in a turn. -/
def Sim.ticks (s : Sim) (now : Nat) : Bool := s.world.plant.isSome && s.nextPlantTick ≤ now

/-- Whether the ECUs are updated in a turn, every 10 ms. -/
def Sim.updates (s : Sim) (now : Nat) : Bool := s.lastEcuUpdate + 10000 ≤ now

/-- A turn up to the delivery: faults, injected frames, heartbeats. -/
def Sim.send (sc : Scenario) (s : Sim) (now : Nat) : World × List TraceLine × List Frame :=
  let (world, faultLines) :=
    (s.faults.takeWhile fun f => dueBy now f.atMs).foldl (applyFault sc now) (s.world, [])
  let injects := s.injects.takeWhile fun i => dueBy now i.atMs
  let injectLines := injects.map fun i => canTx now (injectSender sc i) i.id i.data
  let injected := injects.flatMap (injectFrames sc world.bus now)
  let (heartbeats, beatLines, beats) := world.heartbeats.generate sc world.bus now
  ({ world with heartbeats := heartbeats }, faultLines ++ injectLines ++ beatLines,
    injected ++ beats)

/-- A turn behind the delivery: ECU updates, the plant, driver inputs. -/
def Sim.publish (sc : Scenario) (s : Sim) (now : Nat) (world : World) :
    World × List TraceLine × List Frame :=
  let (ecus, ecuLines, messages) :=
    if s.updates now then world.ecus.update now else (world.ecus, [], [])
  let (txLines, published) := publishMessages sc world.bus now messages
  let plant := if s.ticks now then world.plant.map fun p => p.step sc.tickMs else world.plant
  let readings := if s.ticks now then plant.toList.flatMap (plantFrames sc now) else []
  let world := (s.inputs.takeWhile fun i => dueBy now i.atMs).foldl World.setDriverInput
    { world with plant := plant, ecus := ecus }
  (world, ecuLines ++ txLines, published ++ readings)

/-- One turn of the loop at its time. -/
def Sim.advance (sc : Scenario) (s : Sim) (now : Nat) : Sim :=
  let (world, sendLines, sent) := s.send sc now
  let d := deliverFrames now (s.pendingFrames ++ sent) world.ecus
  let (world, publishLines, published) := s.publish sc now { world with ecus := d.ecus }
  { now := now
    pendingFrames := d.pending ++ published
    world := world
    nextPlantTick := if s.ticks now then s.nextPlantTick + sc.tickMs * 1000 else s.nextPlantTick
    lastEcuUpdate := if s.updates now then now else s.lastEcuUpdate
    inputs := s.inputs.dropWhile fun i => dueBy now i.atMs
    faults := s.faults.dropWhile fun f => dueBy now f.atMs
    injects := s.injects.dropWhile fun i => dueBy now i.atMs
    trace := s.trace ++ sendLines ++ d.lines ++ publishLines
    queued := s.queued ++ sent ++ published
    deliveries := s.deliveries ++ d.delivered.map fun frame => (now, frame) }

/-- One turn of the loop, or `none` where it ends. There is always a next event, the update of
the ECUs. -/
def Sim.iteration (sc : Scenario) (s : Sim) : Option Sim :=
  if 0 < sc.durationMs ∧ sc.durationMs * 1000 ≤ s.now then none
  else
    match s.nextTime with
    | none => none
    | some next => if next < s.now then none else some (s.advance sc next)

/-- The loop, for at most `fuel` turns. -/
def Sim.loop (sc : Scenario) : Nat → Sim → Option Sim
  | 0, _ => none
  | fuel + 1, s =>
    match s.iteration sc with
    | none => some s
    | some next => next.loop sc fuel

/-- The trace, by machine, time and event. -/
def simulateScenario (sc : Scenario) (fuel : Nat) : Option (List TraceLine) :=
  ((Sim.init sc).loop sc fuel).map fun s =>
    sortByKey (fun line => toLex (line.machine, toLex (line.time, line.event))) s.trace

end Microcar.Checker
