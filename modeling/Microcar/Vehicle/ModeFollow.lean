import Microcar.Gateway.Emissions
import Microcar.Vehicle.Bus

/-!
# The mode of the gateway at the powertrain

The gateway broadcasts its mode, and the powertrain takes over every mode that reaches it. Other
frames may overtake a mode on its way and be overtaken by it. Whatever the order in which the two
work and frames arrive, the powertrain holds the mode of the newest broadcast that it has received,
misses none before it, and drives the motor in no other.
-/

namespace Microcar.Vehicle

open Microcar.Core Microcar.Gateway
open Microcar.Powertrain (PowertrainCtx PowertrainOp powertrainStep powertrainBoot motorCommands)

/-! ### Broadcasts -/

/-- The modes that a step sends: the one that `send_vehicle_mode` has read. -/
def modesSent (ctx : GatewayCtx) : GatewayOp → List McVehicleMode
  | .sendMode => ctx.modeRead.toList
  | _ => []

/-- The modes that a run sends. -/
def modesBroadcast (ctx : GatewayCtx) : List GatewayOp → List McVehicleMode
  | [] => []
  | op :: ops => modesSent ctx op ++ modesBroadcast (gatewayStep ctx op) ops

/-- The last step of a run sends behind the others. -/
theorem modesBroadcast_snoc (ctx : GatewayCtx) (ops : List GatewayOp) (op : GatewayOp) :
    modesBroadcast ctx (ops ++ [op]) =
      modesBroadcast ctx ops ++ modesSent (run gatewayStep ctx ops) op := by
  induction ops generalizing ctx with
  | nil => exact List.append_nil _
  | cons first ops ih =>
    rw [List.cons_append, modesBroadcast, ih, modesBroadcast, List.append_assoc, run_cons]

/-- The mode is the one that the gateway was in at a reading in the run. -/
def ReadIn (cfg : GatewayConfig) (ops : List GatewayOp) (mode : McVehicleMode) : Prop :=
  ∃ before nowMs after, ops = before ++ .readMode nowMs :: after ∧
    mode = (run gatewayStep (gatewayBoot cfg) before).gs.mode

/-- A longer run holds the readings of a shorter one. -/
theorem ReadIn.snoc {cfg : GatewayConfig} {ops : List GatewayOp} {mode : McVehicleMode}
    (h : ReadIn cfg ops mode) (op : GatewayOp) : ReadIn cfg (ops ++ [op]) mode := by
  obtain ⟨before, nowMs, after, rfl, hmode⟩ := h
  exact ⟨before, nowMs, after ++ [op], by simp, hmode⟩

/-- A mode that waits to be sent was read in the run. -/
theorem readIn_of_modeRead {cfg : GatewayConfig} {ops : List GatewayOp} {mode : McVehicleMode}
    (h : (run gatewayStep (gatewayBoot cfg) ops).modeRead = some mode) : ReadIn cfg ops mode := by
  induction ops using List.reverseRecOn with
  | nil => exact absurd h (by simp [gatewayBoot])
  | append_singleton ops op ih =>
    rw [run_snoc, modeRead_gatewayStep] at h
    cases op with
    | readMode nowMs =>
      refine ⟨ops, nowMs, [], rfl, ?_⟩
      generalize run gatewayStep (gatewayBoot cfg) ops = ctx at h ⊢
      change (if ctx.modeChanged = true ∨ nowMs % 50 = 0 then some ctx.gs.mode else none) =
        some mode at h
      split_ifs at h
      exact (Option.some.inj h).symm
    | sendMode => exact absurd h.symm (Option.some_ne_none mode)
    | _ => exact (ih h).snoc _

/-- So was every mode that the run sends. -/
theorem readIn_of_mem_modesBroadcast {cfg : GatewayConfig} {ops : List GatewayOp}
    {mode : McVehicleMode} (h : mode ∈ modesBroadcast (gatewayBoot cfg) ops) :
    ReadIn cfg ops mode := by
  induction ops using List.reverseRecOn with
  | nil => exact absurd h List.not_mem_nil
  | append_singleton ops op ih =>
    rw [modesBroadcast_snoc, List.mem_append] at h
    rcases h with h | h
    · exact (ih h).snoc op
    · cases op with
      | sendMode => exact (readIn_of_modeRead (Option.mem_toList.mp h)).snoc _
      | _ => exact absurd h List.not_mem_nil

/-- The mode of a frame on the way. -/
def sentMode? (f : BusFrame) : Option McVehicleMode :=
  if f.id = mcMsgVehicleMode then some (.ofByte (f.data.get 0)) else none

/-- The mode that a receiver takes from a frame. -/
def readMode? (f : RxFrame) : Option McVehicleMode :=
  if f.id = mcMsgVehicleMode then some (.ofByte (f.data.get 0)) else none

/-- Only vehicle mode frames carry a mode. -/
theorem id_of_sentMode {f : BusFrame} (h : sentMode? f ≠ none) : f.id = mcMsgVehicleMode := by
  by_contra hne
  exact h (if_neg hne)

/-- A receiver reads the mode that was sent, whatever its buffer held before. -/
theorem faithful_mode (buffer : Vector UInt8 8) :
    Faithful BusFrame.id (fun f => f.receive buffer) sentMode? readMode? where
  read f := by
    have hpos : (0 : Fin 8).val < f.len.toNat := UInt8.lt_iff_toNat_lt.mp f.len_pos
    have hdata := f.get_data_receive buffer hpos
    have hid : (f.receive buffer).id = f.id := rfl
    rw [sentMode?, readMode?, hid, hdata]
  kind _ _ hf hg := (id_of_sentMode hf).trans (id_of_sentMode hg).symm

/-- A vehicle mode frame carries its mode over the bus. -/
theorem sentMode?_sendVehicleMode (mode : McVehicleMode) (faultCd : UInt8) :
    (BusFrame.ofSend? (sendVehicleMode mode faultCd)).bind sentMode? = some mode := by
  have hfits : 0 < (sendVehicleMode mode faultCd).len ∧ (sendVehicleMode mode faultCd).len ≤ 8 := by
    change 0 < mcVehicleModeMsgSize ∧ mcVehicleModeMsgSize ≤ 8
    decide
  have hid : (sendVehicleMode mode faultCd).id = mcMsgVehicleMode := rfl
  rw [BusFrame.ofSend?, dif_pos hfits, Option.bind_some, sentMode?]
  dsimp only
  rw [if_pos hid, sendVehicleMode_data, McVehicleMode.ofByte_toByte]

/-- A step of the gateway publishes the modes that it sends. -/
theorem sentModes_emitted (ctx : GatewayCtx) (op : GatewayOp) :
    (framesSent (emitted ctx op)).filterMap sentMode? = modesSent ctx op := by
  rw [filterMap_framesSent fun _ => id_of_sentMode]
  by_cases hop : op = .sendMode
  · subst hop
    rw [framesOf_emitted_sendMode, modesSent]
    cases ctx.modeRead with
    | none => rfl
    | some mode =>
      rw [Option.toList_some, List.map_singleton, List.filterMap_cons, sentMode?_sendVehicleMode,
        List.filterMap_nil]
  · have hnone : modesSent ctx op = [] := by
      cases op with
      | sendMode => exact absurd rfl hop
      | _ => rfl
    rw [framesOf_emitted_eq_nil (silent_of_ne_sendMode hop), hnone, List.filterMap_nil]

/-! ### The bus -/

/-- The two ECUs and the link towards the powertrain. -/
structure ModeBus where
  gateway : GatewayCtx
  powertrain : PowertrainCtx
  toPowertrain : Link BusFrame RxFrame

/-- One step on the bus. -/
inductive ModeBusEvent where
  /-- Any other node publishes a frame. -/
  | other (frame : BusFrame) (hmode : frame.id ≠ mcMsgVehicleMode)
  /-- A frame in flight reaches the powertrain. -/
  | deliver (i : Nat) (buffer : Vector UInt8 8)
  /-- Any step of the gateway. -/
  | gateway (op : GatewayOp)
  /-- The receive loop of the powertrain takes a frame. -/
  | receive (nowMs : UInt32)
  /-- The rest of an iteration of the powertrain. -/
  | command (nowMs : UInt32) (preempt : Powertrain.Preemption)
  /-- The watchdog timer of the powertrain fires. -/
  | timer (nowMs : UInt32)

/-- The effect of one step. -/
def modeBusStep (s : ModeBus) : ModeBusEvent → ModeBus
  | .other frame _ => { s with toPowertrain := s.toPowertrain.publish [frame] }
  | .deliver i buffer =>
    { s with toPowertrain := s.toPowertrain.deliverAt BusFrame.id (fun f => f.receive buffer) i }
  | .gateway op =>
    { s with
      gateway := gatewayStep s.gateway op
      toPowertrain := s.toPowertrain.publish (framesSent (emitted s.gateway op)) }
  | .receive nowMs =>
    match s.toPowertrain.inbox with
    | [] => s
    | f :: _ =>
      { s with
        powertrain := powertrainStep s.powertrain (.dispatch f nowMs)
        toPowertrain := s.toPowertrain.pop }
  | .command nowMs preempt =>
    { s with powertrain := powertrainStep s.powertrain (.command nowMs preempt) }
  | .timer nowMs => { s with powertrain := powertrainStep s.powertrain (.timer nowMs) }

/-- Both have booted, and the heartbeat of the gateway is in flight. -/
def modeBusBoot (cfg : GatewayConfig) : ModeBus where
  gateway := gatewayBoot cfg
  powertrain := powertrainBoot false false false
  toPowertrain := ⟨framesSent (gatewayBoot cfg).out, []⟩

/-- The state behind a history. -/
def modeBusRun (cfg : GatewayConfig) (events : List ModeBusEvent) : ModeBus :=
  run modeBusStep (modeBusBoot cfg) events

/-- The step of the gateway in an event. -/
def ModeBusEvent.gatewayOp? : ModeBusEvent → Option GatewayOp
  | .gateway op => some op
  | _ => none

/-- The steps of the gateway in a history. -/
def gatewayOps (events : List ModeBusEvent) : List GatewayOp :=
  events.filterMap ModeBusEvent.gatewayOp?

/-! ### The powertrain -/

/-- A received frame sets the mode that it carries. -/
theorem vehicleMode_dispatch (ctx : PowertrainCtx) (f : RxFrame) (nowMs : UInt32) :
    (powertrainStep ctx (.dispatch f nowMs)).tc.vehicleMode =
      (readMode? f).getD ctx.tc.vehicleMode := by
  rw [powertrainStep, Powertrain.dispatchFrame, readMode?]
  by_cases hmode : f.id = mcMsgVehicleMode
  · have hother : f.id ≠ mcMsgDriverInput := by
      rw [hmode]
      decide
    rw [if_neg hother, if_pos hmode, if_pos hmode]
    rfl
  · rw [if_neg hmode, if_neg hmode]
    split_ifs <;> rfl

/-- The variants that force no mode. -/
def Unforced (ctx : PowertrainCtx) : Prop := ctx.config = (3, false, false, false)

/-- The base firmware forces no mode. -/
theorem forceModes_unforced {ctx : PowertrainCtx} (h : Unforced ctx) :
    Powertrain.forceModes ctx = ctx := by
  obtain ⟨-, hservice, hcharging, -⟩ : ctx.canTxSlots = 3 ∧ ctx.diagForceServiceMode = false ∧
      ctx.chargingForceMode = false ∧ ctx.diagServiceClampBug = false := by
    simpa [Unforced, PowertrainCtx.config] using h
  unfold Powertrain.forceModes
  dsimp only
  rw [if_neg (by simp [hcharging]), if_neg (by simp [hservice])]

/-- So its torque is computed in the mode that it was sent. -/
theorem computeTorque_unforced {ctx : PowertrainCtx} (h : Unforced ctx) :
    Powertrain.computeTorque ctx =
      ({ ctx with tc := Powertrain.torqueControllerCompute ctx.tc },
        (Powertrain.torqueControllerCompute ctx.tc).outputTorque) :=
  Powertrain.computeTorque_of_clampBug_off (congrArg (fun c => c.2.2.2) h)

/-- The rest of an iteration leaves the mode alone. -/
theorem vehicleMode_command {ctx : PowertrainCtx} (h : Unforced ctx) (nowMs : UInt32)
    (preempt : Powertrain.Preemption) :
    (powertrainStep ctx (.command nowMs preempt)).tc.vehicleMode = ctx.tc.vehicleMode := by
  rw [powertrainStep, Powertrain.powertrainCommand_eq, Powertrain.timers_eq,
    forceModes_unforced h, computeTorque_unforced h]
  exact Powertrain.torqueControllerCompute_vehicleMode ctx.tc

/-- The watchdog leaves the mode as it is. -/
theorem vehicleMode_timer (ctx : PowertrainCtx) (nowMs : UInt32) :
    (powertrainStep ctx (.timer nowMs)).tc.vehicleMode = ctx.tc.vehicleMode := by
  rw [powertrainStep, Powertrain.watchdogTimerCb_eq]

/-- Outside DRIVE and LIMP the command of an iteration states no torque and no enabled motor. -/
theorem motorCommands_blocked {ctx : PowertrainCtx} (h : Unforced ctx)
    (hdrive : ctx.tc.vehicleMode ≠ .drive) (hlimp : ctx.tc.vehicleMode ≠ .limp) (nowMs : UInt32)
    (preempt : Powertrain.Preemption) :
    ∀ f ∈ motorCommands ctx (.command nowMs preempt), f.data.get 0 = 0 ∧ f.data.get 1 = 0 := by
  have hslots : 0 < ctx.canTxSlots := by
    have hthree : ctx.canTxSlots = 3 := congrArg Prod.fst h
    rw [hthree]
    exact Nat.succ_pos 2
  have hblocks : Powertrain.safetyModeBlocksTorque ctx.tc.vehicleMode = true := by
    simp [Powertrain.safetyModeBlocksTorque, hdrive, hlimp]
  have htorque : (Powertrain.torqueControllerCompute ctx.tc).outputTorque = 0 := by
    apply Int8.toInt_inj.mp
    rw [Powertrain.toInt_torqueControllerCompute, if_pos (.inr (.inr hblocks))]
    rfl
  have hcomputed : (Powertrain.computeTorque ctx).1.tc.motorEnable = false := by
    rw [computeTorque_unforced h]
    dsimp only
    rw [Powertrain.motorEnable_torqueControllerCompute, hblocks]
    simp
  have henable := Powertrain.timers_motorEnable_false hcomputed preempt.computed
  intro f hf
  rw [Powertrain.motorCommands_command hslots, forceModes_unforced h, List.mem_singleton] at hf
  rw [hf, Powertrain.sendMotorCommand_torque, Powertrain.sendMotorCommand_enable, henable,
    computeTorque_unforced h]
  dsimp only
  rw [htorque]
  exact ⟨rfl, rfl⟩

/-! ### Agreement -/

/-- The powertrain has received these modes, in the order of their broadcasts, and holds the last
of them. -/
structure Follows (broadcast heard : List McVehicleMode) (s : ModeBus) : Prop where
  modes : broadcast = heard ++ s.toPowertrain.pending sentMode? readMode?
  newest : s.powertrain.tc.vehicleMode = heard.getLast?.getD .off
  unforced : Unforced s.powertrain

/-- At boot nothing has been broadcast, and the powertrain is off. -/
theorem follows_boot (cfg : GatewayConfig) : Follows [] [] (modeBusBoot cfg) := by
  have hbeat : (sendHeartbeat 0).id ≠ mcMsgVehicleMode := by
    change mcMsgHeartbeat ≠ mcMsgVehicleMode
    decide
  have hnone : framesOf mcMsgVehicleMode (gatewayBoot cfg).out = [] := by
    rw [gatewayBoot]
    exact framesOf_can_of_ne hbeat
  have hpending : (modeBusBoot cfg).toPowertrain.pending sentMode? readMode? = [] :=
    pending_boot (fun _ => id_of_sentMode) hnone
  exact ⟨hpending.symm, rfl, rfl⟩

/-- A step of the powertrain that receives nothing and keeps the mode. -/
theorem Follows.keep {broadcast heard : List McVehicleMode} {s : ModeBus}
    (h : Follows broadcast heard s) {op : PowertrainOp}
    (hmode : (powertrainStep s.powertrain op).tc.vehicleMode = s.powertrain.tc.vehicleMode) :
    Follows broadcast heard { s with powertrain := powertrainStep s.powertrain op } where
  modes := h.modes
  newest := hmode.trans h.newest
  unforced := (Powertrain.powertrainStep_config s.powertrain op).trans h.unforced

/-- A step keeps the order of the modes: what the gateway sends goes to the end of those in flight,
and what is delivered is heard next. -/
theorem Follows.step {broadcast heard : List McVehicleMode} {s : ModeBus}
    (h : Follows broadcast heard s) (event : ModeBusEvent) :
    ∃ more, Follows
      (broadcast ++ event.gatewayOp?.toList.flatMap (modesSent s.gateway))
      (heard ++ more) (modeBusStep s event) := by
  cases event with
  | other frame hmode =>
    refine ⟨[], ?_, ?_, h.unforced⟩
    · rw [modeBusStep, pending_publish_other (fun _ => id_of_sentMode) hmode]
      simpa [ModeBusEvent.gatewayOp?] using h.modes
    · rw [List.append_nil]
      exact h.newest
  | deliver i buffer =>
    refine ⟨[], ?_, ?_, h.unforced⟩
    · rw [modeBusStep, (faithful_mode buffer).pending_deliverAt]
      simpa [ModeBusEvent.gatewayOp?] using h.modes
    · rw [List.append_nil]
      exact h.newest
  | gateway op =>
    refine ⟨[], ?_, ?_, h.unforced⟩
    · rw [modeBusStep, Link.pending_publish, sentModes_emitted, List.append_nil,
        ← List.append_assoc, ← h.modes]
      simp [ModeBusEvent.gatewayOp?]
    · rw [List.append_nil]
      exact h.newest
  | receive nowMs =>
    have hpop : s.toPowertrain.pending sentMode? readMode? = _ := s.toPowertrain.pending_pop
    rw [modeBusStep]
    cases hinbox : s.toPowertrain.inbox with
    | nil =>
      refine ⟨[], ?_⟩
      simpa [ModeBusEvent.gatewayOp?] using h
    | cons f rest =>
      have hmodes := h.modes
      rw [hpop, hinbox, List.head?_cons, Option.bind_some, ← List.append_assoc] at hmodes
      refine ⟨(readMode? f).toList, ?_, ?_, ?_⟩
      · simpa [ModeBusEvent.gatewayOp?] using hmodes
      · have hdispatch := vehicleMode_dispatch s.powertrain f nowMs
        rw [h.newest] at hdispatch
        rw [hdispatch]
        cases readMode? f with
        | none => simp
        | some mode => simp
      · exact (Powertrain.powertrainStep_config _ _).trans h.unforced
  | command nowMs preempt =>
    refine ⟨[], ?_⟩
    have hkept := h.keep (vehicleMode_command h.unforced nowMs preempt)
    simpa [ModeBusEvent.gatewayOp?, modeBusStep] using hkept
  | timer nowMs =>
    refine ⟨[], ?_⟩
    have hkept := h.keep (vehicleMode_timer s.powertrain nowMs)
    simpa [ModeBusEvent.gatewayOp?, modeBusStep] using hkept

/-- The gateway on the bus runs as it does alone. -/
theorem gateway_modeBusRun (cfg : GatewayConfig) (events : List ModeBusEvent) :
    (modeBusRun cfg events).gateway = run gatewayStep (gatewayBoot cfg) (gatewayOps events) := by
  induction events using List.reverseRecOn with
  | nil => rfl
  | append_singleton events event ih =>
    rw [modeBusRun, run_snoc, gatewayOps, List.filterMap_append, run_append]
    rw [modeBusRun, gatewayOps] at ih
    rw [← ih]
    cases event with
    | receive nowMs =>
      rw [modeBusStep]
      split <;> rfl
    | _ => rfl

/-- Over every history the powertrain hears the modes in the order of their broadcast. -/
theorem follows_run (cfg : GatewayConfig) (events : List ModeBusEvent) :
    ∃ heard, Follows (modesBroadcast (gatewayBoot cfg) (gatewayOps events)) heard
      (modeBusRun cfg events) := by
  induction events using List.reverseRecOn with
  | nil => exact ⟨[], follows_boot cfg⟩
  | append_singleton events event ih =>
    obtain ⟨heard, h⟩ := ih
    obtain ⟨more, hmore⟩ := h.step event
    have hbroadcast : modesBroadcast (gatewayBoot cfg) (gatewayOps (events ++ [event])) =
        modesBroadcast (gatewayBoot cfg) (gatewayOps events) ++
          event.gatewayOp?.toList.flatMap (modesSent (modeBusRun cfg events).gateway) := by
      have hops : gatewayOps (events ++ [event]) =
          gatewayOps events ++ event.gatewayOp?.toList := by
        rw [gatewayOps, List.filterMap_append, List.filterMap_cons]
        cases event.gatewayOp? <;> rfl
      rw [hops, gateway_modeBusRun]
      cases event.gatewayOp? with
      | none => simp
      | some op => simp [modesBroadcast_snoc]
    have hrun : modeBusRun cfg (events ++ [event]) = modeBusStep (modeBusRun cfg events) event :=
      run_snoc _ _ _ _
    rw [hbroadcast, hrun]
    exact ⟨heard ++ more, hmore⟩

end Microcar.Vehicle
