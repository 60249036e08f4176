import Microcar.Core.Run
import Microcar.Core.Milestones
import Microcar.Protocol.Modes

/-!
# The charging state machine

The pure transition function of `microcar_charging.c`. A switch over the state handles the
events that advance a charging session and returns from within; the critical fault, the
unplug and the rejection come behind it.
-/

namespace Microcar.Charging

/-- The type `mc_evse_event_t`: the four named kinds, and every other byte a cast can produce. -/
inductive McEvseEvent where
  | unplug
  | plug
  | handshakeOk
  | stop
  /-- A byte outside the enumeration. -/
  | raw (b : UInt8) (h : 3 < b)
  deriving DecidableEq, Repr

/-- The cast of a received byte to the enumeration. -/
def McEvseEvent.ofByte (b : UInt8) : McEvseEvent :=
  if h : 3 < b then .raw b h
  else if b = 0 then .unplug
  else if b = 1 then .plug
  else if b = 2 then .handshakeOk
  else .stop

/-- Charging states, `mc_charge_state_t`. -/
inductive McChargeState where
  | disconnected
  | plugDetected
  | handshake
  | active
  | limited
  | complete
  | fault
  deriving DecidableEq, Repr

/-- The input of a transition, `mc_charging_event_t`. -/
structure McChargingEvent where
  /-- What the charging station reports. -/
  kind : McEvseEvent
  /-- BMS current limit in 0.5 A units, zero if stale. -/
  freshBmsLimit : UInt8
  /-- State of charge reported by the BMS. -/
  socPercent : UInt8
  /-- Nonzero while a critical BMS fault is active. -/
  criticalFault : UInt8
  /-- State of charge to stop at. -/
  targetSoc : UInt8
  /-- Current offered by the station in 0.5 A units. -/
  offeredCurrent : UInt8
  deriving DecidableEq, Repr

/-- The output of a transition, `mc_charging_output_t`. -/
structure McChargingOutput where
  /-- State to continue in. -/
  nextState : McChargeState
  /-- Commanded current in 0.5 A units. -/
  commandCurrentAX2 : UInt8
  /-- Zero unless the event was rejected. -/
  rejectReason : UInt8
  deriving DecidableEq, Repr

/-- The smaller of two bytes, `min_u8`. -/
def minU8 (a b : UInt8) : UInt8 := if a < b then a else b

/-- The state of a vehicle that is not plugged in, `mc_charging_init`. -/
def mcChargingInit : McChargeState := .disconnected

/-- The output of a taken transition and the return value of success. -/
def accept (next : McChargeState) (current : UInt8) : McChargingOutput × Int :=
  (⟨next, current, 0⟩, 0)

/-- The transitions for any plugged-in state, and the rejection of everything else. -/
def catchAll (cs : McChargeState) (event : McChargingEvent) : McChargingOutput × Int :=
  if cs ≠ .disconnected ∧ event.criticalFault ≠ 0 then accept .fault 0
  else if cs ≠ .disconnected ∧ event.kind = .unplug then accept .disconnected 0
  else (⟨cs, 0, 1⟩, 1)

/-- One transition with its return value, `mc_charging_step`. -/
def mcChargingStep (cs : McChargeState) (event : McChargingEvent) : McChargingOutput × Int :=
  match cs with
  | .disconnected =>
    if event.kind = .plug then accept .plugDetected 0 else catchAll cs event
  | .plugDetected =>
    if event.kind = .handshakeOk then accept .handshake 0 else catchAll cs event
  | .handshake =>
    if 0 < event.freshBmsLimit then
      accept .active (minU8 event.offeredCurrent event.freshBmsLimit)
    else catchAll cs event
  | .active =>
    if 0 < event.freshBmsLimit ∧ event.freshBmsLimit < event.offeredCurrent then
      accept .limited event.freshBmsLimit
    else if event.targetSoc ≤ event.socPercent then accept .complete 0
    else catchAll cs event
  | .limited =>
    if event.targetSoc ≤ event.socPercent then accept .complete 0 else catchAll cs event
  | .complete => catchAll cs event
  | .fault => catchAll cs event

/-- The state a session continues in. -/
def chargingNext (cs : McChargeState) (event : McChargingEvent) : McChargeState :=
  (mcChargingStep cs event).1.nextState

/-- The current commanded by a transition. -/
def chargingCurrent (cs : McChargeState) (event : McChargingEvent) : UInt8 :=
  (mcChargingStep cs event).1.commandCurrentAX2

/-- The state after a sequence of events. -/
def chargingRun (evs : List McChargingEvent) : McChargeState :=
  Core.run chargingNext mcChargingInit evs

/-- The event meets one of the conditions in the switch over the state. -/
def TakenInSwitch (cs : McChargeState) (event : McChargingEvent) : Prop :=
  match cs with
  | .disconnected => event.kind = .plug
  | .plugDetected => event.kind = .handshakeOk
  | .handshake => 0 < event.freshBmsLimit
  | .active => (0 < event.freshBmsLimit ∧ event.freshBmsLimit < event.offeredCurrent) ∨
      event.targetSoc ≤ event.socPercent
  | .limited => event.targetSoc ≤ event.socPercent
  | .complete => False
  | .fault => False

/-- Everything a transition can do. -/
inductive ChargingMove (event : McChargingEvent) :
    McChargeState → McChargingOutput × Int → Prop
  | plugs (hkind : event.kind = .plug) :
      ChargingMove event .disconnected (accept .plugDetected 0)
  | shakes (hkind : event.kind = .handshakeOk) :
      ChargingMove event .plugDetected (accept .handshake 0)
  | starts (hlimit : 0 < event.freshBmsLimit) :
      ChargingMove event .handshake
        (accept .active (minU8 event.offeredCurrent event.freshBmsLimit))
  | limits (hlimit : 0 < event.freshBmsLimit)
      (hlower : event.freshBmsLimit < event.offeredCurrent) :
      ChargingMove event .active (accept .limited event.freshBmsLimit)
  | completes {cs : McChargeState} (hcs : cs = .active ∧ ¬ (0 < event.freshBmsLimit ∧
      event.freshBmsLimit < event.offeredCurrent) ∨ cs = .limited)
      (hsoc : event.targetSoc ≤ event.socPercent) : ChargingMove event cs (accept .complete 0)
  | faults {cs : McChargeState} (hswitch : ¬ TakenInSwitch cs event) (hcs : cs ≠ .disconnected)
      (hfault : event.criticalFault ≠ 0) : ChargingMove event cs (accept .fault 0)
  | unplugs {cs : McChargeState} (hswitch : ¬ TakenInSwitch cs event) (hcs : cs ≠ .disconnected)
      (hfault : event.criticalFault = 0) (hkind : event.kind = .unplug) :
      ChargingMove event cs (accept .disconnected 0)
  | rejects {cs : McChargeState} (hswitch : ¬ TakenInSwitch cs event)
      (hplain : cs = .disconnected ∨ event.criticalFault = 0 ∧ event.kind ≠ .unplug) :
      ChargingMove event cs (⟨cs, 0, 1⟩, 1)

/-- Behind the switch an event faults, unplugs or is rejected. -/
theorem ChargingMove.of_catchAll {cs : McChargeState} {event : McChargingEvent}
    (hswitch : ¬ TakenInSwitch cs event) : ChargingMove event cs (catchAll cs event) := by
  unfold catchAll
  split_ifs with hfault hunplug
  · exact .faults hswitch hfault.1 hfault.2
  · refine .unplugs hswitch hunplug.1 ?_ hunplug.2
    by_contra hne
    exact hfault ⟨hunplug.1, hne⟩
  · refine .rejects hswitch ?_
    by_cases hcs : cs = .disconnected
    · exact .inl hcs
    · refine .inr ⟨?_, fun hkind => hunplug ⟨hcs, hkind⟩⟩
      by_contra hne
      exact hfault ⟨hcs, hne⟩

/-- The transition function makes one of the listed moves. -/
theorem mcChargingStep_move (cs : McChargeState) (event : McChargingEvent) :
    ChargingMove event cs (mcChargingStep cs event) := by
  cases cs with
  | disconnected =>
    by_cases h : event.kind = .plug
    · rw [mcChargingStep, if_pos h]
      exact .plugs h
    · rw [mcChargingStep, if_neg h]
      exact .of_catchAll h
  | plugDetected =>
    by_cases h : event.kind = .handshakeOk
    · rw [mcChargingStep, if_pos h]
      exact .shakes h
    · rw [mcChargingStep, if_neg h]
      exact .of_catchAll h
  | handshake =>
    by_cases h : 0 < event.freshBmsLimit
    · rw [mcChargingStep, if_pos h]
      exact .starts h
    · rw [mcChargingStep, if_neg h]
      exact .of_catchAll h
  | active =>
    by_cases h : 0 < event.freshBmsLimit ∧ event.freshBmsLimit < event.offeredCurrent
    · rw [mcChargingStep, if_pos h]
      exact .limits h.1 h.2
    · rw [mcChargingStep, if_neg h]
      by_cases hsoc : event.targetSoc ≤ event.socPercent
      · rw [if_pos hsoc]
        exact .completes (.inl ⟨rfl, h⟩) hsoc
      · rw [if_neg hsoc]
        exact .of_catchAll (not_or.mpr ⟨h, hsoc⟩)
  | limited =>
    by_cases hsoc : event.targetSoc ≤ event.socPercent
    · rw [mcChargingStep, if_pos hsoc]
      exact .completes (.inr rfl) hsoc
    · rw [mcChargingStep, if_neg hsoc]
      exact .of_catchAll hsoc
  | complete => exact .of_catchAll id
  | fault => exact .of_catchAll id

end Microcar.Charging
