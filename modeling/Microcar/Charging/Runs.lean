import Microcar.Charging.Fsm

/-!
# Charging sessions

Properties of whole sequences of charging events. The switch over the state looks at the
limit and the state of charge of an event, not at its kind or its fault flag, and returns
before the critical fault and the unplug are looked at; these two rules hold exactly along
the sequences in which the switch takes no such event. What bounds the commanded current
holds along every sequence. The allowed current itself is commanded on entering ACTIVE and
LIMITED only: an event that changes neither state is rejected and commands nothing.
-/

namespace Microcar.Charging

/-- A move outside the switch is a fault, an unplug or a rejection; inside, it is neither. -/
theorem nextState_of_taken {cs : McChargeState} {event : McChargingEvent}
    (h : TakenInSwitch cs event) :
    (mcChargingStep cs event).2 = 0 ∧ chargingNext cs event ≠ .fault ∧
      chargingNext cs event ≠ .disconnected := by
  have hmove := mcChargingStep_move cs event
  unfold chargingNext
  generalize mcChargingStep cs event = out at hmove
  cases hmove with
  | faults hswitch _ _ => exact absurd h hswitch
  | unplugs hswitch _ _ _ => exact absurd h hswitch
  | rejects hswitch _ => exact absurd h hswitch
  | _ => exact ⟨rfl, nofun, nofun⟩

/-- Behind the switch the step is the catch-all. -/
theorem mcChargingStep_of_not_taken {cs : McChargeState} {event : McChargingEvent}
    (h : ¬ TakenInSwitch cs event) : mcChargingStep cs event = catchAll cs event := by
  cases cs with
  | disconnected => exact if_neg h
  | plugDetected => exact if_neg h
  | handshake => exact if_neg h
  | active =>
    have hnone := not_or.mp h
    rw [mcChargingStep, if_neg hnone.1, if_neg hnone.2]
  | limited => exact if_neg h
  | complete => rfl
  | fault => rfl

/-! ### The critical fault -/

/-- A critical fault wins: a plugged-in vehicle goes to FAULT, and no current is commanded. -/
def FaultWins (cs : McChargeState) (event : McChargingEvent) : Prop :=
  event.criticalFault ≠ 0 →
    (cs ≠ .disconnected → (mcChargingStep cs event).2 = 0 ∧ chargingNext cs event = .fault ∧
      chargingCurrent cs event = 0) ∧
    chargingCurrent cs event = 0

/-- No event with a critical fault is taken by the switch of a plugged-in state. -/
def FaultReachesCatchAll (cs : McChargeState) (event : McChargingEvent) : Prop :=
  event.criticalFault ≠ 0 → cs ≠ .disconnected → ¬ TakenInSwitch cs event

/-- A critical fault wins at a step exactly when the switch does not take the event. -/
theorem faultWins_iff (cs : McChargeState) (event : McChargingEvent) :
    FaultWins cs event ↔ FaultReachesCatchAll cs event := by
  constructor
  · intro h hfault hcs htaken
    exact (nextState_of_taken htaken).2.1 ((h hfault).1 hcs).2.1
  · intro h hfault
    by_cases hcs : cs = .disconnected
    · refine ⟨fun hne => absurd hcs hne, ?_⟩
      subst hcs
      unfold chargingCurrent mcChargingStep
      split_ifs <;> simp [accept, catchAll]
    · have hstep : mcChargingStep cs event = accept .fault 0 := by
        rw [mcChargingStep_of_not_taken (h hfault hcs), catchAll, if_pos ⟨hcs, hfault⟩]
      unfold chargingNext chargingCurrent
      rw [hstep]
      exact ⟨fun _ => ⟨rfl, rfl, rfl⟩, rfl⟩

/-- From every state and along every sequence of events, critical faults win at all steps
exactly when the switch takes none of the events that report one in a plugged-in state. -/
theorem criticalFault_wins_iff (start : McChargeState) (evs : List McChargingEvent) :
    Core.StepsMeet chargingNext FaultWins start evs ↔
      Core.StepsMeet chargingNext FaultReachesCatchAll start evs :=
  Core.stepsMeet_congr (I := fun _ => True) (fun cs e _ => faultWins_iff cs e)
    (fun _ _ _ _ => trivial) trivial evs

/-- An event of the given kind with a limit, an offer and a fault flag. -/
def chargingEvent (kind : McEvseEvent) (limit fault : UInt8) : McChargingEvent :=
  { kind := kind, freshBmsLimit := limit, socPercent := 40, criticalFault := fault,
    targetSoc := 80, offeredCurrent := 32 }

/-- A critical fault that arrives with a fresh limit behind the handshake starts charging
with the offered current. -/
theorem criticalFault_starts_charging :
    ¬ Core.StepsMeet chargingNext FaultWins mcChargingInit
      [chargingEvent .plug 0 0, chargingEvent .handshakeOk 0 0, chargingEvent .stop 64 1] := by
  rintro ⟨-, -, h, -⟩
  have hcurrent := (h (by decide)).2
  exact absurd hcurrent (by decide)

/-! ### Unplugging -/

/-- Without a plug event a disconnected vehicle stays disconnected, without current. -/
theorem chargingNext_disconnected {event : McChargingEvent} (h : event.kind ≠ .plug) :
    chargingNext .disconnected event = .disconnected ∧
      chargingCurrent .disconnected event = 0 := by
  have hstep : mcChargingStep .disconnected event = catchAll .disconnected event :=
    mcChargingStep_of_not_taken h
  unfold chargingNext chargingCurrent
  rw [hstep]
  exact ⟨rfl, rfl⟩

/-- The same along a sequence of events. -/
theorem run_disconnected {evs : List McChargingEvent} (h : ∀ e ∈ evs, e.kind ≠ .plug) :
    Core.run chargingNext .disconnected evs = .disconnected ∧
      Core.StepsMeet chargingNext (fun cs e => chargingCurrent cs e = 0) .disconnected evs := by
  induction evs with
  | nil => exact ⟨rfl, trivial⟩
  | cons e evs ih =>
    have hstay := chargingNext_disconnected (h e List.mem_cons_self)
    have hrest := ih fun x hx => h x (List.mem_cons_of_mem e hx)
    rw [Core.run_cons, Core.stepsMeet_cons, hstay.1]
    exact ⟨hrest.1, hstay.2, hrest.2⟩

/-- An unplug event without a critical fault is not taken by the switch. -/
def UnplugReachesCatchAll (cs : McChargeState) (event : McChargingEvent) : Prop :=
  event.kind = .unplug → event.criticalFault = 0 → ¬ TakenInSwitch cs event

/-- Behind the switch an unplug event disconnects the vehicle, without current. -/
theorem chargingNext_unplug {cs : McChargeState} {event : McChargingEvent}
    (hkind : event.kind = .unplug) (hfault : event.criticalFault = 0)
    (hswitch : ¬ TakenInSwitch cs event) :
    chargingNext cs event = .disconnected ∧ chargingCurrent cs event = 0 := by
  by_cases hcs : cs = .disconnected
  · subst hcs
    exact chargingNext_disconnected (by rw [hkind]; decide)
  · have hstep : mcChargingStep cs event = accept .disconnected 0 := by
      rw [mcChargingStep_of_not_taken hswitch, catchAll, if_neg fun h => h.2 hfault,
        if_pos ⟨hcs, hkind⟩]
    unfold chargingNext chargingCurrent
    rw [hstep]
    exact ⟨rfl, rfl⟩

/-- Behind every unplug event without a critical fault, and as long as no plug event
follows, the vehicle is disconnected and no current is commanded. -/
def UnplugDisconnects (start : McChargeState) (evs : List McChargingEvent) : Prop :=
  ∀ before u mid rest, evs = before ++ u :: (mid ++ rest) → u.kind = .unplug →
    u.criticalFault = 0 → (∀ x ∈ mid, x.kind ≠ .plug) →
    Core.run chargingNext start (before ++ u :: mid) = .disconnected ∧
      Core.StepsMeet chargingNext (fun cs e => chargingCurrent cs e = 0)
        (Core.run chargingNext start before) (u :: mid)

/-- From every state and along every sequence of events, unplugging disconnects exactly when
the switch takes none of the unplug events without a critical fault. -/
theorem unplug_disconnects_iff (start : McChargeState) (evs : List McChargingEvent) :
    UnplugDisconnects start evs ↔
      Core.StepsMeet chargingNext UnplugReachesCatchAll start evs := by
  rw [Core.stepsMeet_iff]
  constructor
  · intro h before u after hsplit hkind hfault htaken
    have hafter := (h before u [] after hsplit hkind hfault (by simp)).1
    rw [Core.run_snoc] at hafter
    exact (nextState_of_taken htaken).2.2 hafter
  · intro h before u mid rest hsplit hkind hfault hmid
    have hunplug := chargingNext_unplug hkind hfault
      (h before u (mid ++ rest) hsplit hkind hfault)
    have hstay := run_disconnected hmid
    rw [Core.run_append, Core.run_cons, Core.stepsMeet_cons, hunplug.1]
    exact ⟨hstay.1, hunplug.2, hstay.2⟩

/-- An unplug event that arrives with a fresh limit behind the handshake starts charging
with the offered current. -/
theorem unplug_starts_charging :
    ¬ UnplugDisconnects mcChargingInit
      [chargingEvent .plug 0 0, chargingEvent .handshakeOk 0 0, chargingEvent .unplug 64 0] := by
  intro h
  have hafter := (h [chargingEvent .plug 0 0, chargingEvent .handshakeOk 0 0]
    (chargingEvent .unplug 64 0) [] [] rfl rfl rfl (by simp)).1
  exact absurd hafter (by decide)

/-! ### The commanded current -/

/-- A plug event was accepted, which ends the disconnected stretch before it. -/
def PlugAccepted (past : List McChargingEvent) (e : McChargingEvent) : Prop :=
  e.kind = .plug ∧ (mcChargingStep (chargingRun past) e).2 = 0 ∧
    chargingRun past = .disconnected

/-- The vehicle is not disconnected behind the event. -/
def StaysPlugged (past : List McChargingEvent) (e : McChargingEvent) : Prop :=
  chargingNext (chargingRun past) e ≠ .disconnected

/-- A handshake was accepted behind a plug event of the same session. -/
def HandshakeAccepted (past : List McChargingEvent) (e : McChargingEvent) : Prop :=
  e.kind = .handshakeOk ∧ (mcChargingStep (chargingRun past) e).2 = 0 ∧
    StaysPlugged past e ∧ Core.Since PlugAccepted StaysPlugged past

/-- What the events since the last DISCONNECTED contain when they end in a given state. -/
structure SessionTrail (evs : List McChargingEvent) (cs : McChargeState) : Prop where
  /-- The state is the one the events lead to. -/
  reached : cs = chargingRun evs
  /-- A detected plug was accepted. -/
  plugDetected : cs = .plugDetected → Core.Since PlugAccepted StaysPlugged evs
  /-- A session that may charge has shaken hands. -/
  charging : cs = .handshake ∨ cs = .active ∨ cs = .limited →
    Core.Since HandshakeAccepted StaysPlugged evs

/-- Every event extends the trail of its session. -/
theorem SessionTrail.step {evs : List McChargingEvent} {cs : McChargeState}
    (h : SessionTrail evs cs) (e : McChargingEvent) :
    SessionTrail (evs ++ [e]) (chargingNext cs e) := by
  obtain ⟨rfl, hplug, hcharging⟩ := h
  have hreached : chargingNext (chargingRun evs) e = chargingRun (evs ++ [e]) :=
    (Core.run_snoc _ _ evs e).symm
  have hmove := mcChargingStep_move (chargingRun evs) e
  have hnext : chargingNext (chargingRun evs) e =
    (mcChargingStep (chargingRun evs) e).1.nextState := rfl
  have hstays (hne : chargingNext (chargingRun evs) e ≠ .disconnected) : StaysPlugged evs e := hne
  generalize hout : mcChargingStep (chargingRun evs) e = out at hmove hnext
  generalize hcs : chargingRun evs = cs at hmove hnext hstays hreached hplug hcharging ⊢
  cases hmove with
  | plugs hkind =>
    rw [hnext]
    exact ⟨hnext ▸ hreached, fun _ => .reach ⟨hkind, by rw [hout]; rfl, hcs⟩, by simp [accept]⟩
  | shakes hkind =>
    have hplugged := hstays (by rw [hnext]; simp [accept])
    have hshake : HandshakeAccepted evs e :=
      ⟨hkind, by rw [hout]; rfl, hplugged, hplug rfl⟩
    rw [hnext]
    exact ⟨hnext ▸ hreached, by simp [accept], fun _ => .reach hshake⟩
  | starts _ =>
    have hplugged := hstays (by rw [hnext]; simp [accept])
    rw [hnext]
    exact ⟨hnext ▸ hreached, by simp [accept], fun _ => (hcharging (.inl rfl)).wait hplugged⟩
  | limits _ _ =>
    have hplugged := hstays (by rw [hnext]; simp [accept])
    rw [hnext]
    exact ⟨hnext ▸ hreached, by simp [accept],
      fun _ => (hcharging (.inr (.inl rfl))).wait hplugged⟩
  | completes _ _ | faults _ _ _ | unplugs _ _ _ _ =>
    rw [hnext]
    exact ⟨hnext ▸ hreached, by simp [accept], by simp [accept]⟩
  | rejects _ _ =>
    have hplugged (hne : cs ≠ .disconnected) : StaysPlugged evs e :=
      hstays (by rw [hnext]; exact hne)
    rw [hnext]
    refine ⟨hnext ▸ hreached, ?_, ?_⟩
    · intro hplain
      exact (hplug hplain).wait (hplugged (by rw [show cs = _ from hplain]; decide))
    · intro hplain
      refine (hcharging hplain).wait (hplugged ?_)
      rintro rfl
      simp at hplain

/-- Every sequence of events leaves the trail of its session. -/
theorem sessionTrail_chargingRun (evs : List McChargingEvent) :
    SessionTrail evs (chargingRun evs) := by
  have hinit : SessionTrail [] mcChargingInit :=
    ⟨rfl, by simp [mcChargingInit], by simp [mcChargingInit]⟩
  exact Core.run_history_invariant (R := SessionTrail) hinit (fun _ _ e h => h.step e) evs

/-- The smaller of two bytes is at most both. -/
theorem minU8_le (a b : UInt8) : minU8 a b ≤ a ∧ minU8 a b ≤ b := by
  unfold minU8
  split_ifs with h
  · exact ⟨UInt8.le_refl a, UInt8.le_of_lt h⟩
  · exact ⟨UInt8.not_lt.mp h, UInt8.le_refl b⟩

/-- The current of a step is at most what the station offers and what the BMS allows. -/
theorem chargingCurrent_le (cs : McChargeState) (e : McChargingEvent) :
    chargingCurrent cs e ≤ e.offeredCurrent ∧ chargingCurrent cs e ≤ e.freshBmsLimit := by
  have hmove := mcChargingStep_move cs e
  unfold chargingCurrent
  generalize mcChargingStep cs e = out at hmove
  cases hmove with
  | starts _ => exact minU8_le _ _
  | limits _ hlower => exact ⟨UInt8.le_of_lt hlower, UInt8.le_refl _⟩
  | _ => exact ⟨UInt8.zero_le, UInt8.zero_le⟩

/-- Current is only commanded on the way from HANDSHAKE to ACTIVE and from there to LIMITED. -/
theorem chargingCurrent_ne_zero {cs : McChargeState} {e : McChargingEvent}
    (h : chargingCurrent cs e ≠ 0) :
    (cs = .handshake ∧ chargingNext cs e = .active) ∨
      (cs = .active ∧ chargingNext cs e = .limited) := by
  have hmove := mcChargingStep_move cs e
  unfold chargingCurrent at h
  unfold chargingNext
  generalize mcChargingStep cs e = out at hmove h
  cases hmove with
  | starts _ => exact .inl ⟨rfl, rfl⟩
  | limits _ _ => exact .inr ⟨rfl, rfl⟩
  | _ => exact absurd rfl h

/-- A rejected event changes nothing and commands no current. -/
theorem chargingStep_rejected {cs : McChargeState} {e : McChargingEvent}
    (h : (mcChargingStep cs e).2 = 1) : chargingNext cs e = cs ∧ chargingCurrent cs e = 0 := by
  have hmove := mcChargingStep_move cs e
  unfold chargingNext chargingCurrent
  generalize mcChargingStep cs e = out at hmove h
  cases hmove with
  | rejects _ _ => exact ⟨rfl, rfl⟩
  | _ => simp [accept] at h

/-- COMPLETE and FAULT are left by an unplug or a critical fault only. -/
theorem chargingNext_ended {cs : McChargeState} {e : McChargingEvent}
    (hcs : cs = .complete ∨ cs = .fault) (hleft : chargingNext cs e ≠ cs) :
    e.kind = .unplug ∨ e.criticalFault ≠ 0 := by
  have hmove := mcChargingStep_move cs e
  unfold chargingNext at hleft
  generalize mcChargingStep cs e = out at hmove hleft
  cases hmove with
  | faults _ _ hfault => exact .inr hfault
  | unplugs _ _ _ hkind => exact .inl hkind
  | rejects _ _ => exact absurd rfl hleft
  | completes hcharging _ =>
    rcases hcharging with ⟨rfl, -⟩ | rfl
    · simp at hcs
    · simp at hcs
  | _ => simp at hcs

/-- The bounds on the commanded current, for every event behind every sequence of events
from DISCONNECTED. -/
theorem chargingRun_current_bounds (evs : List McChargingEvent) (e : McChargingEvent) :
    (chargingCurrent (chargingRun evs) e ≤ e.offeredCurrent ∧
      chargingCurrent (chargingRun evs) e ≤ e.freshBmsLimit) ∧
    (chargingCurrent (chargingRun evs) e ≠ 0 →
      (chargingNext (chargingRun evs) e = .active ∨
        chargingNext (chargingRun evs) e = .limited) ∧
      Core.Since HandshakeAccepted StaysPlugged evs) ∧
    (e.freshBmsLimit = 0 → chargingCurrent (chargingRun evs) e = 0) ∧
    ((mcChargingStep (chargingRun evs) e).2 = 1 →
      chargingNext (chargingRun evs) e = chargingRun evs ∧
      chargingCurrent (chargingRun evs) e = 0) ∧
    (chargingRun evs = .complete ∨ chargingRun evs = .fault →
      chargingNext (chargingRun evs) e ≠ chargingRun evs →
      e.kind = .unplug ∨ e.criticalFault ≠ 0) := by
  have hle := chargingCurrent_le (chargingRun evs) e
  refine ⟨hle, ?_, ?_, chargingStep_rejected, chargingNext_ended⟩
  · intro hcurrent
    have htrail := (sessionTrail_chargingRun evs).charging
    rcases chargingCurrent_ne_zero hcurrent with ⟨hcs, hnext⟩ | ⟨hcs, hnext⟩
    · exact ⟨.inl hnext, htrail (.inl hcs)⟩
    · exact ⟨.inr hnext, htrail (.inr (.inl hcs))⟩
  · intro hstale
    rw [hstale] at hle
    exact UInt8.le_antisymm hle.2 UInt8.zero_le

/-! ### Delivery of the allowed current -/

/-- An event that lets a session go on: no critical fault, neither unplug nor stop, a state of
charge below the target and a fresh limit. -/
def GoesOn (event : McChargingEvent) : Prop :=
  event.criticalFault = 0 ∧ event.kind ≠ .unplug ∧ event.kind ≠ .stop ∧
    event.socPercent < event.targetSoc ∧ 0 < event.freshBmsLimit

/-- A delivering session that goes on commands the smaller of offer and limit and keeps
delivering. -/
def KeepsDelivering (cs : McChargeState) (event : McChargingEvent) : Prop :=
  cs = .active ∨ cs = .limited → GoesOn event →
    (chargingCurrent cs event).toNat =
        min event.offeredCurrent.toNat event.freshBmsLimit.toNat ∧
      (chargingNext cs event = .active ∨ chargingNext cs event = .limited)

/-- A delivering session that goes on is in ACTIVE with a limit below the offer, or is offered
nothing. -/
def LimitDrops (cs : McChargeState) (event : McChargingEvent) : Prop :=
  cs = .active ∨ cs = .limited → GoesOn event →
    (cs = .active ∧ event.freshBmsLimit < event.offeredCurrent) ∨ event.offeredCurrent = 0

/-- A delivering session that goes on without a drop of the limit rejects the event. -/
theorem mcChargingStep_goesOn {cs : McChargeState} {event : McChargingEvent}
    (hcs : cs = .active ∨ cs = .limited) (h : GoesOn event)
    (hdrop : ¬ (cs = .active ∧ event.freshBmsLimit < event.offeredCurrent)) :
    mcChargingStep cs event = (⟨cs, 0, 1⟩, 1) := by
  obtain ⟨hfault, hunplug, -, hsoc, -⟩ := h
  have hbelow : ¬ event.targetSoc ≤ event.socPercent := UInt8.not_le.mpr hsoc
  have hswitch : ¬ TakenInSwitch cs event := by
    rcases hcs with rfl | rfl
    · rintro (hlimit | hreached)
      · exact hdrop ⟨rfl, hlimit.2⟩
      · exact hbelow hreached
    · exact hbelow
  rw [mcChargingStep_of_not_taken hswitch, catchAll, if_neg fun h => h.2 hfault,
    if_neg fun h => hunplug h.2]

/-- At a step, a session keeps delivering exactly when the limit drops below the offer in
ACTIVE or nothing is offered. -/
theorem keepsDelivering_iff (cs : McChargeState) (event : McChargingEvent) :
    KeepsDelivering cs event ↔ LimitDrops cs event := by
  refine forall_congr' fun hcs => forall_congr' fun hgoes => ?_
  have hlimit : 0 < event.freshBmsLimit.toNat := hgoes.2.2.2.2
  by_cases hdrop : cs = .active ∧ event.freshBmsLimit < event.offeredCurrent
  · obtain ⟨rfl, hlower⟩ := hdrop
    have hstep : mcChargingStep .active event = accept .limited event.freshBmsLimit :=
      if_pos ⟨hgoes.2.2.2.2, hlower⟩
    have hle : event.freshBmsLimit.toNat < event.offeredCurrent.toNat := hlower
    refine iff_of_true ?_ (.inl ⟨rfl, hlower⟩)
    rw [chargingCurrent, chargingNext, hstep]
    exact ⟨(Nat.min_eq_right (Nat.le_of_lt hle)).symm, .inr rfl⟩
  · have hoffer : event.offeredCurrent = 0 ↔ event.offeredCurrent.toNat = 0 :=
      UInt8.toNat_inj.symm
    rw [chargingCurrent, chargingNext, mcChargingStep_goesOn hcs hgoes hdrop, hoffer]
    simp only [UInt8.toNat_zero]
    constructor
    · rintro ⟨hzero, -⟩
      exact .inr (by omega)
    · rintro (h | hnothing)
      · exact absurd h hdrop
      · exact ⟨by omega, hcs⟩

/-- Along every sequence of events, sessions keep delivering exactly when every event they go
on with drops the limit below the offer in ACTIVE or offers nothing. -/
theorem chargingRun_delivers_iff (evs : List McChargingEvent) :
    Core.StepsMeet chargingNext KeepsDelivering mcChargingInit evs ↔
      Core.StepsMeet chargingNext LimitDrops mcChargingInit evs :=
  Core.stepsMeet_congr (I := fun _ => True) (fun cs e _ => keepsDelivering_iff cs e)
    (fun _ _ _ _ => trivial) trivial evs

/-- A session that was just started with 16 A commands no current at the next event, whose
offer and limit are the same. -/
theorem steadySession_stops_delivering :
    ¬ Core.StepsMeet chargingNext KeepsDelivering mcChargingInit
      [chargingEvent .plug 0 0, chargingEvent .handshakeOk 0 0, chargingEvent .handshakeOk 64 0,
        chargingEvent .handshakeOk 64 0] := by
  rintro ⟨-, -, -, h, -⟩
  have hgoes : GoesOn (chargingEvent .handshakeOk 64 0) := by
    refine ⟨rfl, ?_, ?_, ?_, ?_⟩ <;> decide
  exact absurd (h (by decide) hgoes).1 (by decide)

end Microcar.Charging
