import Microcar.Bms.FaultReport
import Microcar.Gateway.FaultLog
import Microcar.Vehicle.Bus

/-!
# The way of a BMS fault into the fault table

The BMS, the gateway and the first-in first-out link between them. The BMS publishes every
change of its fault code, the change back to no fault included, and the gateway reports
whatever code it receives. The table therefore holds real faults only as long as the pack
does not cool down behind a published fault.
-/

namespace Microcar.Vehicle

open Microcar.Bms (BmsCtx BmsIteration)
open Microcar.Gateway (FaultManager Fault GatewayCtx GatewayConfig GatewayOp gatewayStep
  faultManagerReport)

/-- The BMS, the gateway and the frames on their way to it. -/
structure FaultPathState where
  /-- The BMS. -/
  bms : BmsCtx
  /-- The gateway. -/
  gateway : GatewayCtx
  /-- Frames towards the gateway. -/
  toGateway : Core.Link BusFrame RxFrame

/-- One step of the two ECUs and the bus between them. -/
inductive FaultPathEvent where
  /-- One iteration of `bms_main`, with any received frames. -/
  | bmsMain (it : BmsIteration)
  /-- Another node publishes a frame. -/
  | other (frame : BusFrame) (hfault : frame.id ≠ mcMsgBmsFault)
  /-- The oldest frame in flight reaches the gateway. -/
  | deliver (buffer : Vector UInt8 8)
  /-- The receive task of the gateway dispatches the oldest frame delivered. -/
  | receive (take : Bool)
  /-- A step of any other task of the gateway. -/
  | gateway (op : GatewayOp) (htask : ∀ f take, op ≠ .frame f take)

/-- The effect of one step. -/
def faultPathStep (s : FaultPathState) : FaultPathEvent → FaultPathState
  | .bmsMain it =>
    { s with
      bms := Bms.bmsMain s.bms it
      toGateway := s.toGateway.publish (framesSent (Bms.published s.bms it)) }
  | .other frame _ => { s with toGateway := s.toGateway.publish [frame] }
  | .deliver buffer => { s with toGateway := s.toGateway.deliver (·.receive buffer) }
  | .receive take =>
    match s.toGateway.inbox with
    | [] => s
    | f :: _ =>
      { s with gateway := gatewayStep s.gateway (.frame f take), toGateway := s.toGateway.pop }
  | .gateway op _ => { s with gateway := gatewayStep s.gateway op }

/-- Both ECUs have booted and the boot heartbeat of the BMS is in flight. -/
def faultPathBoot (cfg : GatewayConfig) : FaultPathState where
  bms := Bms.bmsBoot
  gateway := Gateway.gatewayBoot cfg
  toGateway := ⟨framesSent Bms.bmsBoot.out, []⟩

/-- No active entry of the table has the code for no fault. -/
def RealFaults (fm : FaultManager) : Prop :=
  ∀ f ∈ fm.faults.entries, f.active = true → f.faultCode ≠ mcBmsFaultNone

/-- The table holds real faults only, and the answer to a read request neither counts nor
returns the code for no fault. -/
structure ReportsRealFaults (ctx : GatewayCtx) : Prop where
  /-- No active entry has the code for no fault. -/
  entries : RealFaults ctx.fm
  /-- Every counted fault is a real one. -/
  counted : (Gateway.diagService ctx Gateway.mcDiagReadDtcs true).2.value0 =
    UInt8.ofNat (ctx.fm.faults.entries.countP fun f => f.active && f.faultCode != mcBmsFaultNone)
  /-- Behind a positive count stands the code of a real fault. -/
  returned : ∀ take, (Gateway.diagService ctx Gateway.mcDiagReadDtcs take).2.value0 ≠ 0 →
    (Gateway.diagService ctx Gateway.mcDiagReadDtcs take).2.value1 ≠ mcBmsFaultNone

/-- The answers to read requests follow the table. -/
theorem RealFaults.reportsRealFaults {ctx : GatewayCtx} (h : RealFaults ctx.fm) :
    ReportsRealFaults ctx := by
  have hcount : ctx.fm.faults.entries.countP (·.active) =
      ctx.fm.faults.entries.countP fun f => f.active && f.faultCode != mcBmsFaultNone := by
    apply List.countP_congr
    intro f hf
    have hreal := h f hf
    simp only [Bool.and_eq_true, bne_iff_ne, iff_self_and]
    exact hreal
  refine ⟨h, congrArg UInt8.ofNat hcount, ?_⟩
  intro take hpos
  cases take with
  | false => exact absurd rfl hpos
  | true =>
    show ((ctx.fm.faults.entries.find? (·.active)).map (·.faultCode)).getD 0 ≠ _
    cases hfind : ctx.fm.faults.entries.find? (·.active) with
    | none =>
      have hzero : ctx.fm.faults.entries.countP (·.active) = 0 := by
        rw [List.countP_eq_zero]
        exact List.find?_eq_none.mp hfind
      exact absurd (congrArg UInt8.ofNat hzero) hpos
    | some f => exact h f (List.mem_of_find?_eq_some hfind) (List.find?_some hfind)

/-- The report of a real fault keeps the faults real. -/
theorem RealFaults.report {fm : FaultManager} (h : RealFaults fm) (sourceNode : UInt8)
    {faultCode : UInt8} (hcode : faultCode ≠ mcBmsFaultNone) (severity : UInt8) :
    RealFaults (faultManagerReport fm sourceNode faultCode severity).1 :=
  Gateway.forall_mem_report h fun _ => hcode

/-- Clearing keeps the faults real. -/
theorem RealFaults.clearWhere {fm : FaultManager} (h : RealFaults fm) (test : Fault → Bool) :
    RealFaults (fm.clearWhere test) :=
  Gateway.forall_mem_clearWhere test h fun _ _ hactive => absurd hactive Bool.false_ne_true

theorem RealFaults.clearedFaults {ctx : GatewayCtx} (h : RealFaults ctx.fm) :
    RealFaults (Gateway.clearedFaults ctx) := by
  unfold Gateway.clearedFaults
  split
  · exact h.clearWhere _
  · exact h.clearWhere _

/-- A BMS fault frame with a real code keeps the faults real. -/
theorem RealFaults.handleBmsFault {ctx : GatewayCtx} (h : RealFaults ctx.fm) {f : McCanFrame}
    (hcode : f.data.get 0 ≠ mcBmsFaultNone) (take : Bool) :
    RealFaults (Gateway.handleBmsFault ctx f take).fm := by
  have hreport := h.report mcNodeBms hcode (Gateway.faultManagerBmsSeverity (f.data.get 0))
  cases take with
  | false => exact h
  | true =>
    unfold Gateway.handleBmsFault
    dsimp only
    split
    · exact hreport
    · exact hreport

/-- A diagnostic request keeps the faults real. -/
theorem RealFaults.handleDiagRequest {ctx : GatewayCtx} (h : RealFaults ctx.fm) (f : McCanFrame)
    (take : Bool) : RealFaults (Gateway.handleDiagRequest ctx f take).fm := by
  by_cases hlen : f.len < mcDiagRequestMsgSize
  · rw [Gateway.handleDiagRequest, if_pos hlen]
    exact h
  obtain ⟨out, heq⟩ := Gateway.handleDiagRequest_eq (UInt8.not_lt.mp hlen) ctx take
  rw [heq]
  by_cases hclear : f.data.get 1 = Gateway.mcDiagClearDtcs ∧ ctx.diagSessionActive = true
  · have hcleared : (Gateway.diagService ctx (f.data.get 1) take).1 =
        (Gateway.clearDtcs ctx take).1 := by
      rw [hclear.1]
      rfl
    rw [hcleared, Gateway.clearDtcs_eq]
    split
    · exact h.clearedFaults
    · exact h
  · show RealFaults (Gateway.diagService ctx (f.data.get 1) take).1.fm
    rw [Gateway.fm_diagService hclear take]
    exact h

/-- Whatever a script does, it keeps the faults real. -/
theorem realFaults_scriptRule :
    Gateway.ScriptRule fun ctx ctx' => RealFaults ctx.fm → RealFaults ctx'.fm where
  writes hwrite h := by
    rw [hwrite.fm]
    exact h
  trans hfirst hsecond h := hsecond (hfirst h)
  request _ f take h := h.handleDiagRequest f take
  fault _ take h := h.handleBmsFault (by decide) take
  warning c take h := by
    cases take with
    | true => exact h.report mcNodePowertrain (by decide) 1
    | false => exact h

/-- A frame does not report the code for no fault. -/
def FrameReal (id : UInt32) (data : Vector UInt8 8) : Prop :=
  id = mcMsgBmsFault → data.get 0 ≠ mcBmsFaultNone

/-- Every step of the gateway keeps the faults real, if a received frame reports a real one. -/
theorem RealFaults.gatewayStep {ctx : GatewayCtx} (h : RealFaults ctx.fm) {op : GatewayOp}
    (hframe : ∀ f take, op = .frame f take → FrameReal f.id f.data) :
    RealFaults (gatewayStep ctx op).fm := by
  by_cases hscripts : ∃ take, op = .scripts take
  · obtain ⟨take, rfl⟩ := hscripts
    exact realFaults_scriptRule.scripts ctx take h
  have hmove : Gateway.GatewayMove ctx op (Gateway.gatewayStep ctx op) :=
    Gateway.gatewayStep_move fun take hop => absurd ⟨take, hop⟩ hscripts
  generalize Gateway.gatewayStep ctx op = ctx' at hmove ⊢
  cases hmove with
  | @frame f take _ hreceived =>
    cases hreceived with
    | fault hid => exact h.report mcNodeBms (hframe f take rfl hid) _
    | cleared => exact h.clearedFaults
    | beat | opened | closed | answered | ignored => exact h
  | process =>
    dsimp only
    split
    · exact h.report mcNodeBms (by decide) 2
    · exact h
  | drive | passive | beats | update => exact h

/-- Behind a published fault the iteration does not end its receive phase with a temperature
below 90.0 degrees. -/
def StaysHot (s : FaultPathState) : FaultPathEvent → Prop
  | .bmsMain it => s.bms.lastFaultPublished ≠ mcBmsFaultNone →
      ∀ t, Bms.lastTemp it.frames = some t → 900 ≤ t.toInt
  | _ => True

/-- What holds in every state of a run that stays hot. -/
structure FaultPathInvariant (s : FaultPathState) : Prop where
  /-- The BMS has published the fault code of its state. -/
  bms : Bms.Published s.bms
  /-- Fault frames on their way to the gateway report real faults. -/
  link : s.toGateway.All (fun f => FrameReal f.id f.data) fun f => FrameReal f.id f.data
  /-- The table holds real faults only. -/
  faults : RealFaults s.gateway.fm

/-- An iteration that stays hot and changes the fault code raises a fault. -/
theorem FaultPathInvariant.receive_faultCode {s : FaultPathState} (h : FaultPathInvariant s)
    {it : BmsIteration} (hhot : StaysHot s (.bmsMain it))
    (hchanged : (Bms.receive s.bms it.frames).bs.faultCode ≠ s.bms.lastFaultPublished) :
    (Bms.receive s.bms it.frames).bs.faultCode ≠ mcBmsFaultNone := by
  by_cases hnone : s.bms.lastFaultPublished = mcBmsFaultNone
  · rw [hnone] at hchanged
    exact hchanged
  · have hcode := (h.bms.toConsistent.receive it.frames).faultCode_eq
    have hstate := Bms.receive_state s.bms it.frames
    cases hlast : Bms.lastTemp it.frames with
    | none =>
      rw [hlast] at hstate
      rw [hcode, hstate, h.bms.lastFault_eq] at hchanged
      exact absurd h.bms.faultCode_eq.symm hchanged
    | some t =>
      have hcritical := (mcBmsDetermineState_eq_critical_iff t).mpr (hhot hnone t hlast)
      rw [hlast, Option.map_some, Option.getD_some, hcritical] at hstate
      rw [hcode, hstate]
      decide

/-- The frames of an iteration that stays hot report real faults. -/
theorem FaultPathInvariant.published {s : FaultPathState} (h : FaultPathInvariant s)
    {it : BmsIteration} (hhot : StaysHot s (.bmsMain it)) :
    ∀ f ∈ framesSent (Bms.published s.bms it), FrameReal f.id f.data := by
  intro frame hframe hid
  obtain ⟨f, hf, hfid, hdata⟩ := mem_framesSent hframe
  rw [hfid] at hid
  have hmem : f ∈ framesOf mcMsgBmsFault (Bms.published s.bms it) := mem_framesOf.mpr ⟨hf, hid⟩
  rw [Bms.framesOf_fault_published] at hmem
  split at hmem
  · rename_i hchanged
    rw [hdata, List.mem_singleton.mp hmem]
    simp only [Bms.sendBmsFault, McCanFrame.get_data_put]
    exact h.receive_faultCode hhot hchanged
  · exact absurd hmem List.not_mem_nil

/-- A frame keeps its first byte on the way. -/
theorem FrameReal.receive {f : BusFrame} (h : FrameReal f.id f.data) (buffer : Vector UInt8 8) :
    FrameReal (f.receive buffer).id (f.receive buffer).data := by
  intro hid
  have hpos : 0 < f.len.toNat := f.len_pos
  rw [f.get_data_receive buffer hpos]
  exact h hid

/-- Every step that stays hot keeps the invariant. -/
theorem FaultPathInvariant.step {s : FaultPathState} {e : FaultPathEvent}
    (h : FaultPathInvariant s) (hhot : StaysHot s e) : FaultPathInvariant (faultPathStep s e) := by
  cases e with
  | bmsMain it =>
    exact ⟨h.bms.bmsMain it, h.link.publish (h.published hhot), h.faults⟩
  | other frame hfault =>
    refine ⟨h.bms, h.link.publish ?_, h.faults⟩
    intro f hf hid
    rw [List.mem_singleton.mp hf] at hid
    exact absurd hid hfault
  | deliver buffer =>
    exact ⟨h.bms, h.link.deliver fun _ hf => hf.receive buffer, h.faults⟩
  | receive take =>
    unfold faultPathStep
    cases hinbox : s.toGateway.inbox with
    | nil => exact h
    | cons f rest =>
      refine ⟨h.bms, h.link.pop, h.faults.gatewayStep ?_⟩
      intro g take' hop
      cases hop
      exact h.link.inbox f (by simp [hinbox])
  | gateway op htask =>
    refine ⟨h.bms, h.link, h.faults.gatewayStep ?_⟩
    intro f take hop
    exact absurd hop (htask f take)

/-- The boot state satisfies the invariant. -/
theorem faultPathInvariant_boot (cfg : GatewayConfig) : FaultPathInvariant (faultPathBoot cfg) where
  bms := Bms.published_bmsBoot
  link := by
    refine ⟨?_, fun f hf => absurd hf List.not_mem_nil⟩
    intro frame hframe hid
    obtain ⟨f, hf, hfid, -⟩ := mem_framesSent hframe
    have hbeat : Emission.can f = .can (Bms.sendHeartbeat 0) := List.mem_singleton.mp hf
    cases hbeat
    exact absurd (hfid.symm.trans hid) (by decide)
  faults := fun f hf => absurd hf List.not_mem_nil

/-- In every run whose pack does not cool down behind a published fault, the gateway reports
real faults only. -/
theorem reportsRealFaults_run (cfg : GatewayConfig) (evs : List FaultPathEvent)
    (h : Core.StepsMeet faultPathStep StaysHot (faultPathBoot cfg) evs) :
    ReportsRealFaults (Core.run faultPathStep (faultPathBoot cfg) evs).gateway :=
  (h.run_invariant (I := FaultPathInvariant) (fun _ _ hs hhot => hs.step hhot)
    (faultPathInvariant_boot cfg)).faults.reportsRealFaults

/-- The iteration that drains one sensor frame with a temperature. -/
def temperatureIteration (nowMs : UInt32) (t : Int16) : BmsIteration :=
  ⟨nowMs, [(plantSensorsFrame ⟨80, 48000, t, 0⟩).receive (Vector.replicate 8 0)]⟩

/-- The oldest frame in flight is delivered and dispatched. -/
def deliverOne : List FaultPathEvent := [.deliver (Vector.replicate 8 0), .receive true]

/-- The pack heats up to 95.0 degrees, stays there, and the fault reaches the table. -/
theorem reportsRealFaults_run_hot :
    Core.StepsMeet faultPathStep StaysHot (faultPathBoot GatewayConfig.off)
        ([.bmsMain (temperatureIteration 10 950), .bmsMain (temperatureIteration 20 960)] ++
          deliverOne ++ deliverOne ++ deliverOne) ∧
      ReportsRealFaults (Core.run faultPathStep (faultPathBoot GatewayConfig.off)
        ([.bmsMain (temperatureIteration 10 950), .bmsMain (temperatureIteration 20 960)] ++
          deliverOne ++ deliverOne ++ deliverOne)).gateway := by
  have hsteps : Core.StepsMeet faultPathStep StaysHot (faultPathBoot GatewayConfig.off)
      ([.bmsMain (temperatureIteration 10 950), .bmsMain (temperatureIteration 20 960)] ++
        deliverOne ++ deliverOne ++ deliverOne) := by
    refine ⟨fun hpublished => absurd rfl hpublished, ?_, trivial, trivial, trivial, trivial,
      trivial, trivial, trivial⟩
    intro _ t hlast
    have htemp : Bms.lastTemp (temperatureIteration 20 960).frames = some 960 := by decide
    cases htemp.symm.trans hlast
    decide
  exact ⟨hsteps, reportsRealFaults_run GatewayConfig.off _ hsteps⟩

/-- The pack heats up and cools down again: the recovery becomes an active fault. -/
theorem recovery_becomes_active_fault :
    ¬ ∀ cfg evs, ReportsRealFaults (Core.run faultPathStep (faultPathBoot cfg) evs).gateway := by
  intro h
  have hentries := (h GatewayConfig.off
    ([.bmsMain (temperatureIteration 10 950), .bmsMain (temperatureIteration 20 250)] ++
      deliverOne ++ deliverOne ++ deliverOne ++ deliverOne ++ deliverOne)).entries
  exact hentries ⟨mcNodeBms, mcBmsFaultNone, true, 0⟩ (by decide +kernel) rfl rfl

end Microcar.Vehicle
