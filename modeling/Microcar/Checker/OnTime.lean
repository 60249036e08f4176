import Microcar.Checker.Simulation
import Microcar.Core.Agenda

/-!
# Deliveries on time

The loop of the trace simulator is an agenda of pending frames. It goes to the earliest of its
wake-ups, and of the pending frames only the first one in the list is a wake-up. The other wake-ups
are the times of a calendar that the scenario fixes. So a frame is on time if it arrives at such a
time, or if no frame queued before it arrives later. Without delayed frames all are queued in the
order of their arrival.
-/

namespace Microcar.Checker

open Microcar.Core Microcar.Plant

/-! ### Frames arrive later than they are sent -/

/-- The latency of a bus is positive: where the scenario states none it is 500 µs. -/
theorem Scenario.busLatencyUs_pos (sc : Scenario) : 0 < sc.busLatencyUs := by
  have hfold : ∀ (latencies : List (Option Nat)) (start : Nat), 0 < start →
      0 < latencies.foldl
        (fun latency bus => if bus.getD 0 = 0 then latency else bus.getD 0) start := by
    intro latencies
    induction latencies with
    | nil => exact fun start h => h
    | cons bus latencies ih =>
      intro start h
      apply ih
      beta_reduce
      split
      · exact h
      · omega
  exact hfold sc.latencies 500 (by omega)

/-- All frames arrive behind a time. -/
def ArriveAfter (now : Nat) (frames : List Frame) : Prop := ∀ p ∈ frames, now < p.arrival

/-- Two lists that arrive behind a time arrive behind it together. -/
theorem ArriveAfter.append {now : Nat} {first rest : List Frame} (hfirst : ArriveAfter now first)
    (hrest : ArriveAfter now rest) : ArriveAfter now (first ++ rest) := by
  intro p hp
  rcases List.mem_append.mp hp with hp | hp
  · exact hfirst p hp
  · exact hrest p hp

/-- Frames sent at a time over a bus: each takes the latency, and an extra delay if some identifier
is delayed. -/
def SentAt (sc : Scenario) (bus : Bus) (now : Nat) (frames : List Frame) : Prop :=
  ∀ p ∈ frames, ∃ extra, p.arrival = now + sc.busLatencyUs + extra ∧ (bus.delayed = [] → extra = 0)

section Sent

variable {sc : Scenario} {bus : Bus} {now : Nat} {frames first rest : List Frame}

/-- Two lists of frames sent at a time form one. -/
theorem SentAt.append (hfirst : SentAt sc bus now first) (hrest : SentAt sc bus now rest) :
    SentAt sc bus now (first ++ rest) := by
  intro p hp
  rcases List.mem_append.mp hp with hp | hp
  · exact hfirst p hp
  · exact hrest p hp

/-- The latency is positive, so frames arrive later than they are sent. -/
theorem SentAt.arriveAfter (h : SentAt sc bus now frames) : ArriveAfter now frames := by
  intro p hp
  obtain ⟨extra, harrival, -⟩ := h p hp
  have := sc.busLatencyUs_pos
  omega

/-- On a bus without delays all frames of a turn arrive together. -/
theorem SentAt.arrival_eq (h : SentAt sc bus now frames) (hnone : bus.delayed = []) :
    ∀ p ∈ frames, p.arrival = now + sc.busLatencyUs := by
  intro p hp
  obtain ⟨extra, harrival, hextra⟩ := h p hp
  rw [harrival, hextra hnone, Nat.add_zero]

end Sent

/-- A broadcast sends to each receiver with the delay of its identifier. -/
theorem sentAt_broadcast (sc : Scenario) (bus : Bus) (now sender id : Nat) (data : List Nat) :
    SentAt sc bus now (broadcast sc (bus.arrival sc now id) sender id data) := by
  intro p hp
  obtain ⟨m, -, rfl⟩ := List.mem_map.mp hp
  refine ⟨(bus.delayed.lookup id).getD 0, rfl, fun hnone => ?_⟩
  rw [hnone, List.lookup_nil, Option.getD_none]

/-- Injected frames are broadcast when they are due. -/
theorem sentAt_injectFrames (sc : Scenario) (bus : Bus) (now : Nat) (injects : List BusInject) :
    SentAt sc bus now (injects.flatMap (injectFrames sc bus now)) := by
  intro p hp
  obtain ⟨inject, -, hp⟩ := List.mem_flatMap.mp hp
  rw [injectFrames] at hp
  split at hp
  · exact absurd hp List.not_mem_nil
  · exact sentAt_broadcast sc bus now _ _ _ p hp

/-- The messages of the machines are broadcast at once. -/
theorem sentAt_publishMessages (sc : Scenario) (bus : Bus) (now : Nat) (messages : List Message) :
    SentAt sc bus now (publishMessages sc bus now messages).2 := by
  intro p hp
  obtain ⟨message, -, hp⟩ := List.mem_flatMap.mp hp
  exact sentAt_broadcast sc bus now _ _ _ p hp

/-- The readings of the plant are never delayed. -/
theorem sentAt_plantFrames (sc : Scenario) (bus : Bus) (now : Nat) (plant : MicrocarPlantSimple) :
    SentAt sc bus now (plantFrames sc now plant) := by
  apply SentAt.append
  all_goals
    intro p hp
    obtain ⟨m, -, rfl⟩ := List.mem_map.mp hp
    exact ⟨0, rfl, fun _ => rfl⟩

/-! ### Heartbeats -/

namespace EcuHeartbeats

/-- A turn of `generate` moves heartbeats by whole periods of 100 ms, and none to an earlier
time. -/
structure Beats (hb hb' : EcuHeartbeats) : Prop where
  machineIds : hb'.machineIds = hb.machineIds
  stopped : hb'.stopped = hb.stopped
  rebooting : ∀ mid, hb.rebooting.lookup mid = none → hb'.rebooting.lookup mid = none
  next : ∀ mid next', hb'.nextHbTime.lookup mid = some next' →
    ∃ next periods, hb.nextHbTime.lookup mid = some next ∧ next' = next + 100000 * periods

/-- Without a heartbeat nothing moves. -/
theorem Beats.refl (hb : EcuHeartbeats) : hb.Beats hb :=
  ⟨rfl, rfl, fun _ h => h, fun _ next h => ⟨next, 0, h, rfl⟩⟩

/-- Two turns of heartbeats move by whole periods together. -/
theorem Beats.trans {hb mid last : EcuHeartbeats} (h : hb.Beats mid) (h' : mid.Beats last) :
    hb.Beats last where
  machineIds := h'.machineIds.trans h.machineIds
  stopped := h'.stopped.trans h.stopped
  rebooting m hm := h'.rebooting m (h.rebooting m hm)
  next m next' hm := by
    obtain ⟨between, periods', hbetween, rfl⟩ := h'.next m next' hm
    obtain ⟨next, periods, hnext, rfl⟩ := h.next m between hbetween
    exact ⟨next, periods + periods', hnext, by omega⟩

/-- The heartbeats of a machine that sends them lie behind a time. -/
def Ahead (now : Nat) (hb : EcuHeartbeats) (mid : Nat) : Prop :=
  mid ∉ hb.stopped → ∀ next, hb.nextHbTime.lookup mid = some next → now < next

/-- They do not lie in front of it. -/
def Awaited (now : Nat) (hb : EcuHeartbeats) (mid : Nat) : Prop :=
  mid ∉ hb.stopped → ∀ next, hb.nextHbTime.lookup mid = some next → now ≤ next

/-- Heartbeats behind a time stay behind it. -/
theorem Beats.ahead {now mid : Nat} {hb hb' : EcuHeartbeats} (h : hb.Beats hb')
    (hahead : hb.Ahead now mid) : hb'.Ahead now mid := by
  intro hstopped next' hnext'
  obtain ⟨next, periods, hnext, rfl⟩ := h.next mid next' hnext'
  rw [h.stopped] at hstopped
  exact (hahead hstopped next hnext).trans_le (Nat.le_add_right _ _)

/-- A heartbeat not in front of a time does not come in front of it. -/
theorem Beats.awaited {now mid : Nat} {hb hb' : EcuHeartbeats} (h : hb.Beats hb')
    (hawaited : hb.Awaited now mid) : hb'.Awaited now mid := by
  intro hstopped next' hnext'
  obtain ⟨next, periods, hnext, rfl⟩ := h.next mid next' hnext'
  rw [h.stopped] at hstopped
  exact (hawaited hstopped next hnext).trans (Nat.le_add_right _ _)

/-- Every rebooting machine is stopped. -/
def RebootingStopped (hb : EcuHeartbeats) : Prop :=
  ∀ mid, mid ∉ hb.stopped → hb.rebooting.lookup mid = none

/-- A rebooting machine stays stopped while the others beat. -/
theorem Beats.rebootingStopped {hb hb' : EcuHeartbeats} (h : hb.Beats hb')
    (hstopped : hb.RebootingStopped) : hb'.RebootingStopped := by
  intro mid hmid
  rw [h.stopped] at hmid
  exact h.rebooting mid (hstopped mid hmid)

/-- Stopping a machine starts no reboot. -/
theorem rebootingStopped_stopHeartbeat {hb : EcuHeartbeats} (h : hb.RebootingStopped) (mid : Nat) :
    (hb.stopHeartbeat mid).RebootingStopped :=
  fun m hm => h m fun hmem => hm (List.mem_insert_of_mem hmem)

/-- A reboot stops the machine first. -/
theorem rebootingStopped_reboot {hb : EcuHeartbeats} (h : hb.RebootingStopped) (mid now : Nat) :
    (hb.reboot mid now).RebootingStopped := by
  intro m hm
  have hne : m ≠ mid := fun heq => hm (heq ▸ List.mem_insert_self)
  have hold := h m fun hmem => hm (List.mem_insert_of_mem hmem)
  exact (lookup_assign_of_ne hne _ _).trans hold

/-- Taking a machine off a table brings no other machine onto it. -/
theorem lookup_filter_ne {entries : List (Nat × Nat)} {mid m : Nat}
    (h : entries.lookup m = none) :
    (entries.filter fun entry => entry.1 ≠ mid).lookup m = none := by
  rw [List.lookup_eq_none_iff] at h ⊢
  exact fun entry hentry => h entry (List.mem_of_mem_filter hentry)

section Generate

variable (sc : Scenario) (bus : Bus) (now : Nat)

/-- The turn of one machine. -/
theorem beat_spec (found : EcuHeartbeats × List TraceLine × List Frame) (mid : Nat) :
    found.1.Beats (beat sc bus now found mid).1 ∧
      (found.1.RebootingStopped → found.1.Awaited now mid →
        (beat sc bus now found mid).1.Ahead now mid) ∧
      (SentAt sc bus now found.2.2 → SentAt sc bus now (beat sc bus now found mid).2.2) := by
  obtain ⟨hb, lines, frames⟩ := found
  rw [beat]
  split
  next hskip =>
    refine ⟨Beats.refl hb, fun hreboot _ hstopped => ?_, fun h => h⟩
    rcases hskip with hskip | hskip
    · exact absurd hskip hstopped
    · rw [hreboot mid hstopped] at hskip
      exact absurd hskip (by simp)
  next =>
    have hfilter : hb.Beats
        { hb with rebooting := hb.rebooting.filter fun entry => entry.1 ≠ mid } :=
      ⟨rfl, rfl, fun m hm => lookup_filter_ne hm, fun _ next h => ⟨next, 0, h, rfl⟩⟩
    simp only
    split
    next hnone =>
      refine ⟨hfilter, fun _ _ _ next hnext => ?_, fun h => h⟩
      rw [hnone] at hnext
      exact absurd hnext (by simp)
    next next hsome =>
      split
      next hdue =>
        have hnext : ∀ m next', (assign mid (next + 100000) hb.nextHbTime).lookup m = some next' →
            (m = mid ∧ next' = next + 100000) ∨ hb.nextHbTime.lookup m = some next' := by
          intro m next' hm
          by_cases hmid : m = mid
          · rw [hmid, lookup_assign_self] at hm
            exact .inl ⟨hmid, (Option.some.inj hm).symm⟩
          · rw [lookup_assign_of_ne hmid] at hm
            exact .inr hm
        have hbeats : ∀ uptime, hb.Beats
            { hb with
              rebooting := hb.rebooting.filter fun entry => entry.1 ≠ mid
              nextHbTime := assign mid (next + 100000) hb.nextHbTime
              uptime := uptime } := by
          intro uptime
          refine ⟨rfl, rfl, fun m hm => lookup_filter_ne hm, fun m next' hm => ?_⟩
          rcases hnext m next' hm with ⟨rfl, rfl⟩ | hm
          · exact ⟨next, 1, hsome, rfl⟩
          · exact ⟨next', 0, hm, rfl⟩
        have hahead : hb.Awaited now mid → ∀ uptime rebooting, Ahead now
            { hb with
              rebooting := rebooting
              nextHbTime := assign mid (next + 100000) hb.nextHbTime
              uptime := uptime } mid := by
          intro hawaited uptime rebooting hstopped next' hnext'
          have hle := hawaited hstopped next hsome
          rw [lookup_assign_self] at hnext'
          rw [← Option.some.inj hnext']
          omega
        split
        · exact ⟨hbeats _, fun _ hawaited => hahead hawaited _ _, fun h => h⟩
        · refine ⟨hbeats _, fun _ hawaited => hahead hawaited _ _, fun h => ?_⟩
          exact h.append (sentAt_broadcast sc bus now _ _ _)
      next hlater =>
        refine ⟨hfilter, fun _ _ _ next' hnext' => ?_, fun h => h⟩
        rw [hsome] at hnext'
        rw [← Option.some.inj hnext']
        omega

/-- Behind its turns every sending machine has its next heartbeat ahead. -/
theorem foldl_beat_spec (mids : List Nat) (found : EcuHeartbeats × List TraceLine × List Frame) :
    found.1.Beats (mids.foldl (beat sc bus now) found).1 ∧
      (found.1.RebootingStopped → (∀ mid ∈ mids, found.1.Awaited now mid) →
        ∀ mid ∈ mids, (mids.foldl (beat sc bus now) found).1.Ahead now mid) ∧
      (SentAt sc bus now found.2.2 →
        SentAt sc bus now (mids.foldl (beat sc bus now) found).2.2) := by
  induction mids generalizing found with
  | nil => exact ⟨Beats.refl _, fun _ _ mid hmid => absurd hmid List.not_mem_nil, fun h => h⟩
  | cons m mids ih =>
    obtain ⟨hbeats, hahead, hframes⟩ := beat_spec sc bus now found m
    obtain ⟨ihbeats, ihahead, ihframes⟩ := ih (beat sc bus now found m)
    rw [List.foldl_cons]
    refine ⟨hbeats.trans ihbeats, fun hreboot hawaited mid hmid => ?_,
      fun h => ihframes (hframes h)⟩
    rcases List.mem_cons.mp hmid with rfl | hmid
    · exact ihbeats.ahead (hahead hreboot (hawaited mid List.mem_cons_self))
    · exact ihahead (hbeats.rebootingStopped hreboot)
        (fun mid hmid => hbeats.awaited (hawaited mid (List.mem_cons_of_mem m hmid))) mid hmid

end Generate

/-- No machine that sends heartbeats has one in front of the next event. -/
theorem awaited_of_nextEventTime {hb : EcuHeartbeats} {now : Nat}
    (h : ∀ next, hb.nextEventTime = some next → now ≤ next) :
    ∀ mid ∈ hb.machineIds, hb.Awaited now mid := by
  intro mid hmid hstopped next hnext
  have hmem : next ∈ (hb.machineIds.filter fun mid => mid ∉ hb.stopped).filterMap fun mid =>
      hb.nextHbTime.lookup mid :=
    List.mem_filterMap.mpr ⟨mid, List.mem_filter.mpr ⟨hmid, by simpa using hstopped⟩, hnext⟩
  cases hmin : hb.nextEventTime with
  | none => exact absurd (List.min?_eq_none_iff.mp hmin) (List.ne_nil_of_mem hmem)
  | some first => exact (h first hmin).trans ((List.min?_eq_some_iff.mp hmin).2 next hmem)

/-- If all heartbeats lie behind a time, the next one does. -/
theorem lt_nextEventTime {hb : EcuHeartbeats} {now : Nat}
    (h : ∀ mid ∈ hb.machineIds, hb.Ahead now mid) {next : Nat}
    (hnext : hb.nextEventTime = some next) : now < next := by
  obtain ⟨mid, hmid, hlookup⟩ := List.mem_filterMap.mp (List.min?_eq_some_iff.mp hnext).1
  obtain ⟨hmem, hstopped⟩ := List.mem_filter.mp hmid
  exact h mid hmem (by simpa using hstopped) next hlookup

end EcuHeartbeats

/-! ### Faults -/

/-- What no fault changes: the plant stays, so do the times of the heartbeats, and no machine gets
one in front of the next event. -/
structure World.Keeps (w w' : World) : Prop where
  plant : w'.plant.isSome = w.plant.isSome
  machineIds : w'.heartbeats.machineIds = w.heartbeats.machineIds
  nextHbTime : w'.heartbeats.nextHbTime = w.heartbeats.nextHbTime
  rebooting : w.heartbeats.RebootingStopped → w'.heartbeats.RebootingStopped
  awaited : ∀ now mid, w.heartbeats.Awaited now mid → w'.heartbeats.Awaited now mid

/-- A step without effect keeps what is kept. -/
theorem World.Keeps.refl (w : World) : w.Keeps w :=
  ⟨rfl, rfl, rfl, fun h => h, fun _ _ h => h⟩

/-- Two steps keep what both keep. -/
theorem World.Keeps.trans {w mid w' : World} (h : w.Keeps mid) (h' : mid.Keeps w') :
    w.Keeps w' where
  plant := h'.plant.trans h.plant
  machineIds := h'.machineIds.trans h.machineIds
  nextHbTime := h'.nextHbTime.trans h.nextHbTime
  rebooting hw := h'.rebooting (h.rebooting hw)
  awaited now m hw := h'.awaited now m (h.awaited now m hw)

/-- A fault of a machine stops it or reboots it, and leaves the rest as it is. -/
theorem keeps_applyMachineFault (sc : Scenario) (world : World) (now : Nat) (name type : String) :
    world.Keeps (applyMachineFault sc world now name type) := by
  rw [applyMachineFault]
  split
  · exact World.Keeps.refl world
  next target _ =>
    split
    · refine ⟨rfl, rfl, rfl, fun h => ?_, fun t mid h hmid => ?_⟩
      · exact EcuHeartbeats.rebootingStopped_stopHeartbeat h target
      · exact h fun hmem => hmid (List.mem_insert_of_mem hmem)
    · split
      · refine ⟨rfl, rfl, rfl, fun h => ?_, fun t mid h hmid => ?_⟩
        · exact EcuHeartbeats.rebootingStopped_reboot h target now
        · exact h fun hmem => hmid (List.mem_insert_of_mem hmem)
      · exact World.Keeps.refl world

/-- So does any fault. -/
theorem keeps_applyFault (sc : Scenario) (now : Nat) (found : World × List TraceLine) (f : Fault) :
    found.1.Keeps (applyFault sc now found f).1 := by
  obtain ⟨world, lines⟩ := found
  rw [applyFault]
  simp only
  split
  · exact ⟨Option.isSome_map, rfl, rfl, fun h => h, fun _ _ h => h⟩
  · split
    · exact ⟨rfl, rfl, rfl, fun h => h, fun _ _ h => h⟩
    · split
      · exact keeps_applyMachineFault sc world now _ _
      · exact World.Keeps.refl world

/-- So do all the faults that are due. -/
theorem keeps_foldl_applyFault (sc : Scenario) (now : Nat) (faults : List Fault)
    (found : World × List TraceLine) :
    found.1.Keeps (faults.foldl (applyFault sc now) found).1 := by
  induction faults generalizing found with
  | nil => exact World.Keeps.refl found.1
  | cons f faults ih => exact (keeps_applyFault sc now found f).trans (ih _)

/-- Driver inputs neither make nor remove the plant, nor do they move a heartbeat. -/
theorem keeps_foldl_setDriverInput (inputs : List Input) (world : World) :
    (inputs.foldl World.setDriverInput world).plant.isSome = world.plant.isSome ∧
      (inputs.foldl World.setDriverInput world).heartbeats = world.heartbeats := by
  induction inputs generalizing world with
  | nil => exact ⟨rfl, rfl⟩
  | cons input inputs ih =>
    obtain ⟨hplant, hheartbeats⟩ := ih (world.setDriverInput input)
    exact ⟨hplant.trans Option.isSome_map, hheartbeats⟩

/-! ### Delivery -/

/-- The loop over a copy of the pending frames takes out and delivers those that have arrived. -/
theorem foldl_deliverFrame (now : Nat) (frames kept : List Frame) (hkept : ArriveAfter now kept)
    (ecus : EcuStates) (lines : List TraceLine) (delivered : List Frame) :
    (frames.foldl (deliverFrame now) ⟨kept ++ frames, ecus, lines, delivered⟩).pending =
        kept ++ frames.filter (fun p => now < p.arrival) ∧
      (frames.foldl (deliverFrame now) ⟨kept ++ frames, ecus, lines, delivered⟩).delivered =
        delivered ++ frames.filter (fun p => p.arrival ≤ now) := by
  induction frames generalizing kept ecus lines delivered with
  | nil => simp
  | cons p frames ih =>
    rw [List.foldl_cons, deliverFrame]
    by_cases harrived : p.arrival ≤ now
    · have hkeep : p ∉ kept := fun hmem => absurd harrived (not_le.mpr (hkept p hmem))
      have herase : (kept ++ p :: frames).erase p = kept ++ frames := by
        rw [List.erase_append_right _ hkeep, List.erase_cons_head]
      simp only [harrived, if_true, herase]
      obtain ⟨hpending, hdelivered⟩ := ih kept hkept _ _ (delivered ++ [p])
      rw [hpending, hdelivered]
      simp [harrived]
    · have hlater : ArriveAfter now (kept ++ [p]) := by
        apply hkept.append
        intro q hq
        rw [List.mem_singleton.mp hq]
        exact not_le.mp harrived
      have hmove : kept ++ p :: frames = (kept ++ [p]) ++ frames := by simp
      simp only [harrived, if_false, hmove]
      obtain ⟨hpending, hdelivered⟩ := ih (kept ++ [p]) hlater ecus lines delivered
      rw [hpending, hdelivered]
      simp [harrived, not_le.mp harrived]

/-- The frames that have arrived are delivered and the others stay, both in their order. -/
theorem deliverFrames_spec (now : Nat) (pending : List Frame) (ecus : EcuStates) :
    (deliverFrames now pending ecus).pending = pending.filter (fun p => now < p.arrival) ∧
      (deliverFrames now pending ecus).delivered = pending.filter (fun p => p.arrival ≤ now) :=
  foldl_deliverFrame now pending [] (fun _ h => absurd h List.not_mem_nil) ecus [] []

/-! ### One turn -/

/-- Everything that a turn sends in front of the delivery is sent at its time. -/
theorem sentAt_send (sc : Scenario) (s : Sim) (now : Nat) :
    SentAt sc (s.send sc now).1.bus now (s.send sc now).2.2 := by
  apply (sentAt_injectFrames sc _ now _).append
  exact (EcuHeartbeats.foldl_beat_spec sc _ now _ _).2.2 fun p hp => absurd hp List.not_mem_nil

/-- Everything that it sends behind the delivery is sent at its time as well. -/
theorem sentAt_publish (sc : Scenario) (s : Sim) (now : Nat) (world : World) :
    SentAt sc world.bus now (s.publish sc now world).2.2 := by
  apply (sentAt_publishMessages sc world.bus now _).append
  intro p hp
  split at hp
  · obtain ⟨plant, -, hp⟩ := List.mem_flatMap.mp hp
    exact sentAt_plantFrames sc world.bus now plant p hp
  · exact absurd hp List.not_mem_nil

/-- The loop as an agenda. -/
def Sim.agenda (s : Sim) : Agenda Frame Nat := ⟨s.now, s.pendingFrames, s.queued, s.deliveries⟩

/-- A turn of the loop is a step of the agenda. -/
theorem Sim.agenda_advance (sc : Scenario) (s : Sim) (now : Nat) :
    ∃ before after, ArriveAfter now before ∧ ArriveAfter now after ∧
      (s.advance sc now).agenda = s.agenda.advance Frame.arrival now before after := by
  let world := (s.send sc now).1
  let d := deliverFrames now (s.pendingFrames ++ (s.send sc now).2.2) world.ecus
  obtain ⟨hpending, hdelivered⟩ :=
    deliverFrames_spec now (s.pendingFrames ++ (s.send sc now).2.2) world.ecus
  refine ⟨(s.send sc now).2.2, (s.publish sc now { world with ecus := d.ecus }).2.2,
    (sentAt_send sc s now).arriveAfter, (sentAt_publish sc s now _).arriveAfter, ?_⟩
  rw [Agenda.advance, agenda, agenda, ← hpending, ← hdelivered]
  rfl

/-! ### Wake-ups -/

/-- Keeping the earlier of two times all along a list finds its minimum. -/
theorem foldl_keepEarlier (times : List Nat) (first : Nat) :
    times.foldl keepEarlier (some first) = some (times.foldl min first) := by
  induction times generalizing first with
  | nil => rfl
  | cons t times ih =>
    have hmin : keepEarlier (some first) t = some (min first t) := by
      rw [keepEarlier]
      split <;> congr 1 <;> omega
    rw [List.foldl_cons, hmin, ih, List.foldl_cons]

/-- The loop goes to its earliest wake-up. -/
theorem Sim.nextTime_eq (s : Sim) : s.nextTime = s.wakeUps.min? := by
  rw [nextTime]
  cases s.wakeUps with
  | nil => rfl
  | cons first times => rw [List.foldl_cons, keepEarlier, foldl_keepEarlier, List.min?_cons']

/-- The update of the ECUs is always a wake-up. -/
theorem Sim.mem_wakeUps {s : Sim} {t : Nat} :
    t ∈ s.wakeUps ↔ (∃ p ∈ s.pendingFrames.head?, p.arrival = t) ∨
      s.world.heartbeats.nextEventTime = some t ∨
      (s.world.plant.isSome = true ∧ t = s.nextPlantTick) ∨ t = s.lastEcuUpdate + 10000 ∨
      (∃ i ∈ s.inputs.head?, i.atMs * 1000 = t) ∨ (∃ f ∈ s.faults.head?, f.atMs * 1000 = t) ∨
      ∃ i ∈ s.injects.head?, i.atMs * 1000 = t := by
  have hplant : t ∈ (if s.world.plant.isSome then [s.nextPlantTick] else []) ↔
      s.world.plant.isSome = true ∧ t = s.nextPlantTick := by
    split
    next h => simp [h]
    next h => simp [h]
  simp only [wakeUps, List.mem_append, Option.mem_toList, hplant, List.mem_singleton,
    Option.map_eq_some_iff, Option.mem_def, or_assoc]

/-- The next turn is at the earliest of the wake-ups, and there is one. -/
theorem Sim.exists_nextTime (s : Sim) :
    ∃ next ∈ s.wakeUps, s.nextTime = some next ∧ ∀ t ∈ s.wakeUps, next ≤ t := by
  have hmem : s.lastEcuUpdate + 10000 ∈ s.wakeUps := mem_wakeUps.mpr (by simp)
  cases hnext : s.wakeUps.min? with
  | none => exact absurd (List.min?_eq_none_iff.mp hnext) (List.ne_nil_of_mem hmem)
  | some next =>
    obtain ⟨hin, hle⟩ := List.min?_eq_some_iff.mp hnext
    exact ⟨next, hin, s.nextTime_eq.trans hnext, hle⟩

/-- What is due is behind; the next entry of a schedule lies ahead. -/
theorem lt_of_head_dropWhile {α : Type} {atMs : α → Nat} {now : Nat} {schedule : List α} {a : α}
    (h : a ∈ (schedule.dropWhile fun a => dueBy now (atMs a)).head?) : now < atMs a * 1000 := by
  have hnot := List.head?_dropWhile_not (fun a => dueBy now (atMs a)) schedule
  rw [Option.mem_def.mp h] at hnot
  simpa [dueBy] using hnot

/-- What holds at the head of the loop: the frames are accounted for, the wake-ups lie ahead, and
nothing reboots that is not stopped. -/
structure Sim.Ready (s : Sim) : Prop where
  accounted : s.agenda.Accounted Frame.arrival
  wakeUps : ∀ t ∈ s.wakeUps, s.now ≤ t
  rebooting : s.world.heartbeats.RebootingStopped

/-- Before the first turn all is still to come. -/
theorem Sim.ready_init (sc : Scenario) : (init sc).Ready where
  accounted := ⟨fun _ => rfl, fun _ h => absurd h List.not_mem_nil⟩
  wakeUps _ _ := Nat.zero_le _
  rebooting _ _ := rfl

/-- Behind the sending no heartbeat is due any more. -/
theorem Sim.send_spec (sc : Scenario) {s : Sim} (h : s.Ready) {now : Nat}
    (hnow : ∀ t ∈ s.wakeUps, now ≤ t) :
    (s.send sc now).1.plant.isSome = s.world.plant.isSome ∧
      (s.send sc now).1.heartbeats.RebootingStopped ∧
      ∀ next, (s.send sc now).1.heartbeats.nextEventTime = some next → now < next := by
  have hkeeps := keeps_foldl_applyFault sc now (s.faults.takeWhile fun f => dueBy now f.atMs)
    (s.world, [])
  have hawaited : ∀ mid ∈ s.world.heartbeats.machineIds, s.world.heartbeats.Awaited now mid :=
    EcuHeartbeats.awaited_of_nextEventTime fun next hnext =>
      hnow next (mem_wakeUps.mpr (.inr (.inl hnext)))
  let world := ((s.faults.takeWhile fun f => dueBy now f.atMs).foldl (applyFault sc now)
    (s.world, [])).1
  obtain ⟨hbeats, hahead, -⟩ := EcuHeartbeats.foldl_beat_spec sc world.bus now
    world.heartbeats.machineIds (world.heartbeats, [], [])
  have hreboot : world.heartbeats.RebootingStopped := hkeeps.rebooting h.rebooting
  refine ⟨hkeeps.plant, hbeats.rebootingStopped hreboot, fun next hnext => ?_⟩
  apply EcuHeartbeats.lt_nextEventTime _ hnext
  intro mid hmid
  have hmem : mid ∈ world.heartbeats.machineIds := by rwa [← hbeats.machineIds]
  refine hahead hreboot (fun m hm => hkeeps.awaited now m (hawaited m ?_)) mid hmem
  rwa [← hkeeps.machineIds]

/-- Publication neither makes nor removes the plant, nor does it move a heartbeat. -/
theorem Sim.publish_spec (sc : Scenario) (s : Sim) (now : Nat) (world : World) :
    (s.publish sc now world).1.plant.isSome = world.plant.isSome ∧
      (s.publish sc now world).1.heartbeats = world.heartbeats := by
  obtain ⟨hplant, hheartbeats⟩ := keeps_foldl_setDriverInput
    (s.inputs.takeWhile fun i => dueBy now i.atMs)
    { world with
      plant := if s.ticks now then world.plant.map fun p => p.step sc.tickMs else world.plant
      ecus := (if s.updates now then world.ecus.update now else (world.ecus, [], [])).1 }
  refine ⟨hplant.trans ?_, hheartbeats⟩
  simp only
  split
  · exact Option.isSome_map
  · rfl

/-- Behind the sending a turn leaves plant and heartbeats as they are. -/
theorem Sim.world_advance (sc : Scenario) (s : Sim) (now : Nat) :
    (s.advance sc now).world.plant.isSome = (s.send sc now).1.plant.isSome ∧
      (s.advance sc now).world.heartbeats = (s.send sc now).1.heartbeats :=
  publish_spec sc s now
    { (s.send sc now).1 with
      ecus := (deliverFrames now (s.pendingFrames ++ (s.send sc now).2.2)
        (s.send sc now).1.ecus).ecus }

/-- Behind a turn the wake-ups lie behind its time, unless the plant ticks every 0 ms. -/
theorem Sim.wakeUps_advance {sc : Scenario} {s : Sim} (h : s.Ready) {now : Nat}
    (hnow : ∀ t ∈ s.wakeUps, now ≤ t) :
    ∀ t ∈ (s.advance sc now).wakeUps,
      now < t ∨ (s.world.plant.isSome = true ∧ sc.tickMs = 0 ∧ t = now) := by
  obtain ⟨hplant, -, hbeats⟩ := send_spec sc h hnow
  obtain ⟨hplant', hheartbeats⟩ := world_advance sc s now
  intro t ht
  rcases mem_wakeUps.mp ht with ⟨p, hp, rfl⟩ | hbeat | ⟨hsome, rfl⟩ | rfl | ⟨i, hi, rfl⟩ |
    ⟨f, hf, rfl⟩ | ⟨i, hi, rfl⟩
  · -- A pending frame has yet to arrive.
    obtain ⟨before, after, -, hafter, hagenda⟩ := s.agenda_advance sc now
    have haccounted : (s.advance sc now).agenda.Accounted Frame.arrival := by
      rw [hagenda]
      exact h.accounted.advance hafter
    exact .inl (haccounted.later p (List.mem_of_mem_head? hp))
  · rw [hheartbeats] at hbeat
    exact .inl (hbeats t hbeat)
  · have hsome' : s.world.plant.isSome = true := by
      rw [← hplant, ← hplant', hsome]
    have htick : now ≤ s.nextPlantTick :=
      hnow s.nextPlantTick (mem_wakeUps.mpr (.inr (.inr (.inl ⟨hsome', rfl⟩))))
    have hnext : (s.advance sc now).nextPlantTick =
        if s.ticks now then s.nextPlantTick + sc.tickMs * 1000 else s.nextPlantTick := rfl
    rw [hnext]
    by_cases hle : s.nextPlantTick ≤ now
    · rw [if_pos (by simp [ticks, hsome', hle])]
      by_cases hzero : sc.tickMs = 0
      · exact .inr ⟨hsome', hzero, by omega⟩
      · exact .inl (by omega)
    · rw [if_neg (by simp [ticks, hle])]
      exact .inl (by omega)
  · have hupdate : (s.advance sc now).lastEcuUpdate =
        if s.updates now then now else s.lastEcuUpdate := rfl
    rw [hupdate]
    by_cases hle : s.lastEcuUpdate + 10000 ≤ now
    · rw [if_pos (by simp [updates, hle])]
      exact .inl (by omega)
    · rw [if_neg (by simp [updates, hle])]
      exact .inl (by omega)
  · exact .inl (lt_of_head_dropWhile hi)
  · exact .inl (lt_of_head_dropWhile hf)
  · exact .inl (lt_of_head_dropWhile hi)

/-- A turn keeps what holds at the head of the loop. -/
theorem Sim.Ready.advance {sc : Scenario} {s : Sim} (h : s.Ready) {now : Nat}
    (hnow : ∀ t ∈ s.wakeUps, now ≤ t) : (s.advance sc now).Ready where
  accounted := by
    obtain ⟨before, after, -, hafter, hagenda⟩ := s.agenda_advance sc now
    rw [hagenda]
    exact h.accounted.advance hafter
  wakeUps t ht := by
    have hself : (s.advance sc now).now = now := rfl
    rw [hself]
    rcases wakeUps_advance h hnow t ht with hlt | ⟨-, -, rfl⟩
    · exact hlt.le
    · exact le_rfl
  rebooting := by
    obtain ⟨-, hreboot, -⟩ := send_spec sc h hnow
    obtain ⟨-, hheartbeats⟩ := world_advance sc s now
    rwa [hheartbeats]

/-- The loop ends with the scenario, or takes a turn at its earliest wake-up. -/
theorem Sim.Ready.iteration_cases {s : Sim} (h : s.Ready) (sc : Scenario) :
    (0 < sc.durationMs ∧ sc.durationMs * 1000 ≤ s.now ∧ s.iteration sc = none) ∨
      ∃ next ∈ s.wakeUps, (∀ t ∈ s.wakeUps, next ≤ t) ∧
        s.iteration sc = some (s.advance sc next) := by
  rw [iteration]
  split
  next hend => exact .inl ⟨hend.1, hend.2, rfl⟩
  next =>
    obtain ⟨next, hmem, hnext, hle⟩ := s.exists_nextTime
    have hforward : ¬next < s.now := not_lt.mpr (h.wakeUps next hmem)
    refine .inr ⟨next, hmem, hle, ?_⟩
    simp only [hnext, hforward, if_false]

/-- A turn goes to the earliest wake-up. -/
theorem Sim.Ready.turn_eq {sc : Scenario} {s s' : Sim} (h : s.Ready)
    (hturn : s.iteration sc = some s') :
    ∃ next ∈ s.wakeUps, (∀ t ∈ s.wakeUps, next ≤ t) ∧ s' = s.advance sc next := by
  rcases h.iteration_cases sc with ⟨-, -, hend⟩ | ⟨next, hmem, hle, hnext⟩
  · rw [hturn] at hend
    exact absurd hend (by simp)
  · exact ⟨next, hmem, hle, Option.some.inj (hturn.symm.trans hnext)⟩

/-! ### Runs -/

/-- The states at the head of the loop. -/
inductive Sim.Reachable (sc : Scenario) : Sim → Prop
  | init : Reachable sc (.init sc)
  | turn {s s' : Sim} (h : Reachable sc s) (hturn : s.iteration sc = some s') : Reachable sc s'

/-- Every turn leaves the simulator ready for the next one. -/
theorem Sim.Reachable.ready {sc : Scenario} {s : Sim} (h : Reachable sc s) : s.Ready := by
  induction h with
  | init => exact ready_init sc
  | turn h hturn ih =>
    obtain ⟨next, -, hle, rfl⟩ := ih.turn_eq hturn
    exact ih.advance hle

/-- Some wake-up comes by the arrival of each pending frame. -/
def Sim.Wakeful (s : Sim) : Prop := ∀ p ∈ s.pendingFrames, ∃ t ∈ s.wakeUps, t ≤ p.arrival

/-- Each frame that was queued and has arrived was delivered once, in a turn at the time of its
arrival, and the loop ends only with the scenario. -/
structure Sim.OnTime (sc : Scenario) (s : Sim) : Prop where
  once : ∀ p : Frame, p.arrival ≤ s.now → s.deliveries.count (p.arrival, p) = s.queued.count p
  punctual : ∀ d ∈ s.deliveries, d.1 = d.2.arrival
  ends : s.iteration sc = none → 0 < sc.durationMs ∧ sc.durationMs * 1000 ≤ s.now

/-- To deliver on time is to be a punctual agenda. -/
theorem Sim.Ready.onTime_iff {s : Sim} (h : s.Ready) (sc : Scenario) :
    s.OnTime sc ↔ s.agenda.Punctual Frame.arrival := by
  refine ⟨fun hontime => hontime.punctual, fun hpunctual => ⟨fun p hp => ?_, hpunctual, ?_⟩⟩
  · exact h.accounted.count_delivered hpunctual hp
  · intro hend
    rcases h.iteration_cases sc with ⟨hpos, hle, -⟩ | ⟨next, -, -, hnext⟩
    · exact ⟨hpos, hle⟩
    · rw [hend] at hnext
      exact absurd hnext (by simp)

/-- A turn delivers on time exactly from a wakeful state. -/
theorem Sim.Ready.punctual_turn_iff {sc : Scenario} {s s' : Sim} (h : s.Ready)
    (hturn : s.iteration sc = some s') :
    s'.agenda.Punctual Frame.arrival ↔ s.agenda.Punctual Frame.arrival ∧ s.Wakeful := by
  obtain ⟨next, hmem, hle, rfl⟩ := h.turn_eq hturn
  obtain ⟨before, after, hbefore, -, hagenda⟩ := s.agenda_advance sc next
  rw [hagenda, Agenda.punctual_advance_iff hbefore]
  refine and_congr_right fun _ => forall₂_congr fun p _ => ?_
  constructor
  · exact fun hp => ⟨next, hmem, hp⟩
  · rintro ⟨t, ht, hp⟩
    exact (hle t ht).trans hp

/-- The simulation delivers on time exactly if each of its turns starts from a wakeful state. -/
theorem onTime_iff_wakeful (sc : Scenario) :
    (∀ s, Sim.Reachable sc s → s.OnTime sc) ↔
      ∀ s s', Sim.Reachable sc s → s.iteration sc = some s' → s.Wakeful := by
  constructor
  · intro hontime s s' hs hturn
    have hpunctual := (hontime s' (hs.turn hturn)).punctual
    exact ((hs.ready.punctual_turn_iff hturn).mp hpunctual).2
  · intro hwakeful s hs
    rw [hs.ready.onTime_iff]
    induction hs with
    | init => exact fun d hd => absurd hd List.not_mem_nil
    | turn h hturn ih =>
      exact (h.ready.punctual_turn_iff hturn).mpr ⟨ih, hwakeful _ _ h hturn⟩

/-! ### The calendar -/

/-- The times that the scenario fixes: the updates of the ECUs every 10 ms, the ticks of the plant,
the driver inputs, the faults and the injected frames. -/
def Scenario.Scheduled (sc : Scenario) (t : Nat) : Prop :=
  10000 ∣ t ∨ (sc.plantType = "microcar" ∧ sc.tickMs * 1000 ∣ t) ∨
    (∃ i ∈ sc.inputs, i.type = "driver_input" ∧ t = i.atMs * 1000) ∨
    (∃ f ∈ sc.faults, t = f.atMs * 1000) ∨ ∃ i ∈ sc.busInjects, t = i.atMs * 1000

/-- What is left of a schedule at a time: all that lies ahead, in order. -/
structure Rest {α : Type} (atMs : α → Nat) (schedule rest : List α) (now : Nat) : Prop where
  sorted : SortedByKey (fun a => atMs a * 1000) rest
  mem : ∀ a ∈ rest, a ∈ schedule
  ahead : ∀ a ∈ schedule, now < atMs a * 1000 → a ∈ rest

section Rest

variable {α : Type} {atMs : α → Nat} {schedule rest : List α} {now : Nat}

/-- At first all of it is left. -/
theorem rest_sortByKey (atMs : α → Nat) (schedule : List α) :
    Rest atMs schedule (sortByKey (fun a => atMs a * 1000) schedule) 0 where
  sorted := sortedByKey_sortByKey _ schedule
  mem _ ha := (perm_sortByKey _ schedule).mem_iff.mp ha
  ahead _ ha _ := (perm_sortByKey _ schedule).mem_iff.mpr ha

/-- A turn takes off what is due. -/
theorem Rest.advance (h : Rest atMs schedule rest now) {t : Nat} (hforward : now ≤ t) :
    Rest atMs schedule (rest.dropWhile fun a => dueBy t (atMs a)) t where
  sorted := h.sorted.sublist (List.dropWhile_sublist _)
  mem a ha := h.mem a ((List.dropWhile_sublist _).mem ha)
  ahead a ha hahead := by
    have hrest := h.ahead a ha (hforward.trans_lt hahead)
    rw [← List.takeWhile_append_dropWhile (p := fun a => dueBy t (atMs a)) (l := rest)] at hrest
    rcases List.mem_append.mp hrest with hdue | hleft
    · have hdue := List.mem_takeWhile_imp hdue
      rw [dueBy, decide_eq_true_eq] at hdue
      exact absurd hdue (not_le.mpr hahead)
    · exact hleft

/-- The head of the rest comes no later than what lies ahead. -/
theorem Rest.head_le (h : Rest atMs schedule rest now) {a : α} (ha : a ∈ schedule)
    (hahead : now < atMs a * 1000) : ∃ b ∈ rest.head?, atMs b * 1000 ≤ atMs a * 1000 := by
  have hmem := h.ahead a ha hahead
  cases rest with
  | nil => exact absurd hmem List.not_mem_nil
  | cons b rest =>
    refine ⟨b, rfl, ?_⟩
    rcases List.mem_cons.mp hmem with rfl | hmem
    · exact le_rfl
    · exact (List.pairwise_cons.mp h.sorted).1 a hmem

end Rest

/-- The heartbeats lie on multiples of 10 ms. -/
def EcuHeartbeats.Round (hb : EcuHeartbeats) : Prop :=
  ∀ mid next, hb.nextHbTime.lookup mid = some next → 10000 ∣ next

/-- Turns of the heartbeats keep them there. -/
theorem EcuHeartbeats.Beats.round {hb hb' : EcuHeartbeats} (h : hb.Beats hb') (hround : hb.Round) :
    hb'.Round := by
  intro mid next' hnext'
  obtain ⟨next, periods, hnext, rfl⟩ := h.next mid next' hnext'
  have hperiod : 10000 ∣ 100000 := by decide
  exact Nat.dvd_add (hround mid next hnext) (hperiod.mul_right periods)

/-- The first heartbeats lie there. -/
theorem EcuHeartbeats.round_new (machines : List Machine) : (new machines).Round := by
  intro mid next hnext
  obtain ⟨-, m, -, -, -, -, rfl⟩ := (lookup_assignAll _ _ _ _ _).mp hnext
  exact ⟨m.id + 4, by omega⟩

/-- What holds of the wake-ups at the head of the loop: the frames pend in the order in which they
were queued, and the other wake-ups are the next times of the calendar. -/
structure Sim.Planned (sc : Scenario) (s : Sim) : Prop where
  order : s.agenda.InOrder Frame.arrival
  plant : s.world.plant.isSome = true ↔ sc.plantType = "microcar"
  update : 10000 ∣ s.lastEcuUpdate ∧ s.lastEcuUpdate ≤ s.now
  tick : sc.tickMs * 1000 ∣ s.nextPlantTick
  nextTick : ∀ t, sc.tickMs * 1000 ∣ t → s.now < t → s.nextPlantTick ≤ t
  round : s.world.heartbeats.Round
  inputs : Rest Input.atMs (sc.inputs.filter fun i => i.type = "driver_input") s.inputs s.now
  faults : Rest Fault.atMs sc.faults s.faults s.now
  injects : Rest BusInject.atMs sc.busInjects s.injects s.now

/-- It holds at first. -/
theorem Sim.planned_init (sc : Scenario) : (init sc).Planned sc where
  order := rfl
  plant := by
    rw [init]
    dsimp only
    split
    next h => simp [h]
    next h => simp [h]
  update := ⟨Nat.dvd_zero _, le_rfl⟩
  tick := Nat.dvd_refl _
  nextTick t ht hpos := Nat.le_of_dvd hpos ht
  round := EcuHeartbeats.round_new sc.machines
  inputs := rest_sortByKey _ _
  faults := rest_sortByKey _ _
  injects := rest_sortByKey _ _

/-- A turn at the earliest wake-up keeps it. -/
theorem Sim.Planned.advance {sc : Scenario} {s : Sim} (h : s.Planned sc) (hready : s.Ready)
    {now : Nat} (hmem : now ∈ s.wakeUps) (hnow : ∀ t ∈ s.wakeUps, now ≤ t) :
    (s.advance sc now).Planned sc := by
  have hforward : s.now ≤ now := hready.wakeUps now hmem
  obtain ⟨hsent, -, -⟩ := send_spec sc hready hnow
  obtain ⟨hplant, hheartbeats⟩ := world_advance sc s now
  constructor
  · obtain ⟨before, after, -, hafter, hagenda⟩ := s.agenda_advance sc now
    rw [hagenda]
    exact h.order.advance hforward hafter
  · rw [hplant, hsent]
    exact h.plant
  · have hnext : (s.advance sc now).lastEcuUpdate =
        if s.updates now then now else s.lastEcuUpdate := rfl
    have hupdate : now ≤ s.lastEcuUpdate + 10000 := hnow _ (mem_wakeUps.mpr (by simp))
    obtain ⟨hround, hpast⟩ := h.update
    rw [hnext]
    by_cases hdue : s.lastEcuUpdate + 10000 ≤ now
    · rw [if_pos (by simp [updates, hdue])]
      refine ⟨?_, le_rfl⟩
      rw [le_antisymm hupdate hdue]
      exact Nat.dvd_add hround (Nat.dvd_refl _)
    · rw [if_neg (by simp [updates, hdue])]
      exact ⟨hround, hpast.trans hforward⟩
  · have hnext : (s.advance sc now).nextPlantTick =
        if s.ticks now then s.nextPlantTick + sc.tickMs * 1000 else s.nextPlantTick := rfl
    rw [hnext]
    split
    · exact Nat.dvd_add h.tick (Nat.dvd_refl _)
    · exact h.tick
  · intro t ht hlt
    have hnext : (s.advance sc now).nextPlantTick =
        if s.ticks now then s.nextPlantTick + sc.tickMs * 1000 else s.nextPlantTick := rfl
    have hlater : s.nextPlantTick ≤ t := h.nextTick t ht (hforward.trans_lt hlt)
    rw [hnext]
    split
    next hticks =>
      rw [ticks, Bool.and_eq_true, decide_eq_true_eq] at hticks
      -- the next multiple behind the tick lies a period later
      obtain ⟨k, hk⟩ := h.tick
      obtain ⟨m, rfl⟩ := ht
      have hbehind : sc.tickMs * 1000 * k < sc.tickMs * 1000 * m := by
        rw [← hk]
        exact hticks.2.trans_lt hlt
      rw [hk, ← Nat.mul_succ]
      exact Nat.mul_le_mul_left _ (Nat.lt_of_mul_lt_mul_left hbehind)
    next => exact hlater
  · rw [hheartbeats]
    have hkeeps := keeps_foldl_applyFault sc now (s.faults.takeWhile fun f => dueBy now f.atMs)
      (s.world, [])
    refine (EcuHeartbeats.foldl_beat_spec sc _ now _ _).1.round fun mid next hnext => ?_
    rw [hkeeps.nextHbTime] at hnext
    exact h.round mid next hnext
  · exact h.inputs.advance hforward
  · exact h.faults.advance hforward
  · exact h.injects.advance hforward

/-- Every reachable state keeps to the calendar of the scenario. -/
theorem Sim.Reachable.planned {sc : Scenario} {s : Sim} (h : Reachable sc s) : s.Planned sc := by
  induction h with
  | init => exact planned_init sc
  | turn h hturn ih =>
    obtain ⟨next, hmem, hle, rfl⟩ := h.ready.turn_eq hturn
    exact ih.advance h.ready hmem hle

/-- A wake-up that is not the first pending frame is in the calendar. -/
theorem Sim.Planned.scheduled {sc : Scenario} {s : Sim} (h : s.Planned sc) {t : Nat}
    (ht : t ∈ s.wakeUps) : (∃ p ∈ s.pendingFrames.head?, p.arrival = t) ∨ sc.Scheduled t := by
  rcases mem_wakeUps.mp ht with hframe | hbeat | ⟨hsome, rfl⟩ | rfl | ⟨i, hi, rfl⟩ |
    ⟨f, hf, rfl⟩ | ⟨i, hi, rfl⟩
  · exact .inl hframe
  · have hmem := (List.min?_eq_some_iff.mp hbeat).1
    obtain ⟨mid, -, hlookup⟩ := List.mem_filterMap.mp hmem
    exact .inr (.inl (h.round mid t hlookup))
  · exact .inr (.inr (.inl ⟨h.plant.mp hsome, h.tick⟩))
  · exact .inr (.inl (Nat.dvd_add h.update.1 (Nat.dvd_refl _)))
  · obtain ⟨hmem, htype⟩ := List.mem_filter.mp (h.inputs.mem i (List.mem_of_mem_head? hi))
    exact .inr (.inr (.inr (.inl ⟨i, hmem, of_decide_eq_true htype, rfl⟩)))
  · exact .inr (.inr (.inr (.inr (.inl
      ⟨f, h.faults.mem f (List.mem_of_mem_head? hf), rfl⟩))))
  · exact .inr (.inr (.inr (.inr (.inr
      ⟨i, h.injects.mem i (List.mem_of_mem_head? hi), rfl⟩))))

/-- No time of the calendar that lies ahead comes before the next wake-up. -/
theorem Sim.Planned.wakeUp_le {sc : Scenario} {s : Sim} (h : s.Planned sc) {t : Nat}
    (ht : sc.Scheduled t) (hahead : s.now < t) : ∃ next ∈ s.wakeUps, next ≤ t := by
  rcases ht with hround | ⟨htype, htick⟩ | ⟨i, hi, htype, rfl⟩ | ⟨f, hf, rfl⟩ | ⟨i, hi, rfl⟩
  · refine ⟨_, mem_wakeUps.mpr (.inr (.inr (.inr (.inl rfl)))), ?_⟩
    obtain ⟨k, hk⟩ := h.update.1
    obtain ⟨m, rfl⟩ := hround
    have hpast := h.update.2
    omega
  · exact ⟨_, mem_wakeUps.mpr (.inr (.inr (.inl ⟨h.plant.mpr htype, rfl⟩))),
      h.nextTick t htick hahead⟩
  · obtain ⟨j, hj, hle⟩ := h.inputs.head_le (List.mem_filter.mpr ⟨hi, decide_eq_true htype⟩) hahead
    exact ⟨_, mem_wakeUps.mpr (.inr (.inr (.inr (.inr (.inl ⟨j, hj, rfl⟩))))), hle⟩
  · obtain ⟨g, hg, hle⟩ := h.faults.head_le hf hahead
    exact ⟨_, mem_wakeUps.mpr (.inr (.inr (.inr (.inr (.inr (.inl ⟨g, hg, rfl⟩)))))), hle⟩
  · obtain ⟨j, hj, hle⟩ := h.injects.head_le hi hahead
    exact ⟨_, mem_wakeUps.mpr (.inr (.inr (.inr (.inr (.inr (.inr ⟨j, hj, rfl⟩)))))), hle⟩

/-! ### The order of the frames -/

/-- A frame that has arrived came at a time of the calendar, or of the frames that arrive no
earlier the one queued first arrives with it. -/
def Sim.Unblocked (sc : Scenario) (s : Sim) : Prop :=
  ∀ p ∈ s.queued, p.arrival ≤ s.now →
    sc.Scheduled p.arrival ∨ Agenda.FirstAt Frame.arrival s.queued p.arrival

/-- What a turn queues stands behind what was queued, and arrives behind it. -/
theorem Sim.queued_advance (sc : Scenario) (s : Sim) (now : Nat) :
    ∃ new, ArriveAfter now new ∧ (s.advance sc now).queued = s.queued ++ new := by
  obtain ⟨before, after, hbefore, hafter, hagenda⟩ := s.agenda_advance sc now
  refine ⟨before ++ after, hbefore.append hafter, ?_⟩
  have hqueued := congrArg Agenda.queued hagenda
  rw [← List.append_assoc]
  exact hqueued

/-- A turn from a wakeful state takes place at the arrival of each frame that it delivers, so it
blocks none. -/
theorem Sim.Unblocked.turn {sc : Scenario} {s s' : Sim} (h : s.Unblocked sc)
    (hs : Reachable sc s) (hwake : s.Wakeful) (hturn : s.iteration sc = some s') :
    s'.Unblocked sc := by
  intro p hp hpast
  obtain ⟨next, hmem, hle, rfl⟩ := hs.ready.turn_eq hturn
  obtain ⟨new, hnew, hqueued⟩ := s.queued_advance sc next
  rw [hqueued] at hp ⊢
  have hold : p ∈ s.queued := by
    rcases List.mem_append.mp hp with hp | hp
    · exact hp
    · exact absurd (hnew p hp) (not_lt.mpr hpast)
  rcases Nat.lt_or_ge s.now p.arrival with hahead | hgone
  · -- the frame is pending, so this turn takes place at its arrival
    have hpending : p ∈ s.pendingFrames := by
      rw [show s.pendingFrames = _ from hs.planned.order]
      exact List.mem_filter.mpr ⟨hold, decide_eq_true hahead⟩
    obtain ⟨t, ht, htp⟩ := hwake p hpending
    obtain rfl : p.arrival = next := le_antisymm hpast ((hle t ht).trans htp)
    rcases hs.planned.scheduled hmem with ⟨q, hq, hqp⟩ | hscheduled
    · refine .inr (Agenda.FirstAt.append ?_ new)
      rw [← hqp]
      exact hs.planned.order.firstAt_head hq
    · exact .inl hscheduled
  · exact (h p hold hgone).imp_right fun hfirst => hfirst.append new

/-- A turn that blocks no frame starts from a wakeful state: a frame that arrives before the turn
would have had a time of the calendar or an earlier head of the list to wake for. -/
theorem Sim.Reachable.wakeful {sc : Scenario} {s s' : Sim} (hs : Reachable sc s)
    (hturn : s.iteration sc = some s') (hfree : s'.Unblocked sc) : s.Wakeful := by
  intro p hp
  obtain ⟨next, hmem, hle, rfl⟩ := hs.ready.turn_eq hturn
  obtain ⟨new, -, hqueued⟩ := s.queued_advance sc next
  have hahead : s.now < p.arrival := hs.ready.accounted.later p hp
  have hold : p ∈ s.queued := by
    rw [show s.pendingFrames = _ from hs.planned.order] at hp
    exact List.mem_of_mem_filter hp
  by_contra hnone
  have hlate : p.arrival < next := by
    by_contra hge
    exact hnone ⟨next, hmem, not_lt.mp hge⟩
  have hqueuedp : p ∈ (s.advance sc next).queued := by
    rw [hqueued]
    exact List.mem_append_left _ hold
  rcases hfree p hqueuedp hlate.le with hscheduled | hfirst
  · exact hnone (hs.planned.wakeUp_le hscheduled hahead)
  · rw [hqueued] at hfirst
    obtain ⟨q, hq, hqp⟩ := hs.planned.order.head_le hahead (hfirst.of_append hold le_rfl)
    exact hnone ⟨_, Sim.mem_wakeUps.mpr (.inl ⟨q, hq, rfl⟩), hqp⟩

/-- The simulation delivers on time exactly if no frame is blocked: each arrives at a time of the
calendar, or no frame stands in front of it that arrives later, unless another one in front of
that arrives with it. -/
theorem deliversOnTime_iff (sc : Scenario) :
    (∀ s, Sim.Reachable sc s → s.OnTime sc) ↔ ∀ s, Sim.Reachable sc s → s.Unblocked sc := by
  rw [onTime_iff_wakeful]
  constructor
  · intro hwakeful s hs
    induction hs with
    | init => exact fun p hp => absurd hp List.not_mem_nil
    | turn hs hturn ih => exact ih.turn hs (hwakeful _ _ hs hturn) hturn
  · intro hunblocked s s' hs hturn
    exact hs.wakeful hturn (hunblocked s' (hs.turn hturn))

/-! ### Without delays -/

/-- No fault of the scenario delays frames. -/
def Scenario.Undelayed (sc : Scenario) : Prop := ∀ f ∈ sc.faults, f.type ≠ "delay_frame"

/-- A fault of another kind delays nothing. -/
theorem delayed_applyFault (sc : Scenario) (now : Nat) (found : World × List TraceLine) {f : Fault}
    (hf : f.type ≠ "delay_frame") :
    (applyFault sc now found f).1.bus.delayed = found.1.bus.delayed := by
  obtain ⟨world, lines⟩ := found
  rw [applyFault]
  dsimp only
  split
  · rfl
  · split
    · rw [applyBusFault]
      split
      · rfl
      · -- the branch that delays is out by what the fault is not
        split <;> rfl
    · split
      · rw [applyMachineFault]
        split
        · rfl
        · split
          · rfl
          · split <;> rfl
      · rfl

/-- Faults other than `delay_frame` add no delay to the bus. -/
theorem delayed_foldl_applyFault (sc : Scenario) (now : Nat) {faults : List Fault}
    (hfaults : ∀ f ∈ faults, f.type ≠ "delay_frame") (found : World × List TraceLine) :
    (faults.foldl (applyFault sc now) found).1.bus.delayed = found.1.bus.delayed := by
  induction faults generalizing found with
  | nil => rfl
  | cons f faults ih =>
    obtain ⟨hf, hfaults⟩ := List.forall_mem_cons.mp hfaults
    rw [List.foldl_cons, ih hfaults, delayed_applyFault sc now found hf]

/-- Driver inputs do not touch the bus. -/
theorem bus_foldl_setDriverInput (inputs : List Input) (world : World) :
    (inputs.foldl World.setDriverInput world).bus = world.bus := by
  induction inputs generalizing world with
  | nil => rfl
  | cons input inputs ih => exact ih (world.setDriverInput input)

/-- What the delays of a scenario without delay faults leave: the frames are queued in the order
of their arrival. -/
structure Sim.Prompt (sc : Scenario) (s : Sim) : Prop where
  delayed : s.world.bus.delayed = []
  sorted : SortedByKey Frame.arrival s.queued
  last : ∀ p ∈ s.queued, p.arrival ≤ s.now + sc.busLatencyUs

/-- A turn queues frames that arrive together, behind all that were queued before. -/
theorem Sim.Prompt.advance {sc : Scenario} {s : Sim} (h : s.Prompt sc) (hundelayed : sc.Undelayed)
    (hfaults : ∀ f ∈ s.faults, f ∈ sc.faults) {now : Nat} (hforward : s.now ≤ now) :
    (s.advance sc now).Prompt sc := by
  have hsent : (s.send sc now).1.bus.delayed = [] := by
    refine (delayed_foldl_applyFault sc now (fun f hf => ?_) (s.world, [])).trans h.delayed
    exact hundelayed f (hfaults f ((List.takeWhile_prefix _).subset hf))
  have hqueued : (s.advance sc now).queued = s.queued ++ ((s.send sc now).2.2 ++
      (s.publish sc now { (s.send sc now).1 with
        ecus := (deliverFrames now (s.pendingFrames ++ (s.send sc now).2.2)
          (s.send sc now).1.ecus).ecus }).2.2) := List.append_assoc ..
  have hnew := ((sentAt_send sc s now).append (sentAt_publish sc s now
    { (s.send sc now).1 with
      ecus := (deliverFrames now (s.pendingFrames ++ (s.send sc now).2.2)
        (s.send sc now).1.ecus).ecus })).arrival_eq hsent
  have hself : (s.advance sc now).now = now := rfl
  refine ⟨?_, ?_, ?_⟩
  · have hbus : (s.advance sc now).world.bus = (s.send sc now).1.bus :=
      bus_foldl_setDriverInput _ _
    rw [hbus, hsent]
  · rw [hqueued]
    refine List.pairwise_append.mpr ⟨h.sorted, ?_, fun p hp q hq => ?_⟩
    · refine List.pairwise_of_forall_mem_list fun p hp q hq => ?_
      rw [hnew p hp, hnew q hq]
    · rw [hnew q hq]
      exact (h.last p hp).trans (Nat.add_le_add_right hforward _)
  · intro p hp
    rw [hqueued] at hp
    rw [hself]
    rcases List.mem_append.mp hp with hp | hp
    · exact (h.last p hp).trans (Nat.add_le_add_right hforward _)
    · exact (hnew p hp).le

/-- Without a `delay_frame` fault every reachable state has its frames in the order of their
arrival. -/
theorem Sim.Reachable.prompt {sc : Scenario} (hundelayed : sc.Undelayed) {s : Sim}
    (h : Reachable sc s) : s.Prompt sc := by
  induction h with
  | init => exact ⟨rfl, List.Pairwise.nil, fun p hp => absurd hp List.not_mem_nil⟩
  | turn h hturn ih =>
    obtain ⟨next, hmem, -, rfl⟩ := h.ready.turn_eq hturn
    exact ih.advance hundelayed h.planned.faults.mem (h.ready.wakeUps next hmem)

/-- Without delayed frames everything is delivered on time. -/
theorem deliversOnTime_of_undelayed {sc : Scenario} (hundelayed : sc.Undelayed) {s : Sim}
    (hs : Sim.Reachable sc s) : s.OnTime sc := by
  refine (deliversOnTime_iff sc).mpr (fun s hs p hp _ => ?_) s hs
  exact .inr (Agenda.firstAt_of_sorted (hs.prompt hundelayed).sorted hp)

/-! ### The end of the loop -/

/-- The loop goes on with the state behind one turn. -/
theorem Sim.loop_turn {sc : Scenario} {s s' : Sim} (hturn : s.iteration sc = some s')
    (fuel : Nat) : s.loop sc (fuel + 1) = s'.loop sc fuel := by
  simp only [loop, hturn]

/-- The loop ends in a state that it reaches and from where it takes no turn. -/
theorem Sim.Reachable.loop {sc : Scenario} {fuel : Nat} {s last : Sim} (h : Reachable sc s)
    (hloop : s.loop sc fuel = some last) : Reachable sc last ∧ last.iteration sc = none := by
  induction fuel generalizing s with
  | zero => exact absurd hloop (by simp [Sim.loop])
  | succ fuel ih =>
    rw [Sim.loop] at hloop
    cases hturn : s.iteration sc with
    | none =>
      rw [hturn] at hloop
      obtain rfl := Option.some.inj hloop
      exact ⟨h, hturn⟩
    | some next =>
      rw [hturn] at hloop
      exact ih (h.turn hturn) hloop

/-- A plant is there only where the scenario asks for one. -/
theorem Sim.Reachable.plant {sc : Scenario} {s : Sim} (h : Reachable sc s)
    (hplant : s.world.plant.isSome = true) : sc.plantType = "microcar" := by
  have hkept : s.world.plant.isSome = (Sim.init sc).world.plant.isSome := by
    clear hplant
    induction h with
    | init => rfl
    | turn h hturn ih =>
      obtain ⟨next, -, hle, rfl⟩ := h.ready.turn_eq hturn
      rw [(world_advance sc _ next).1, (send_spec sc h.ready hle).1, ih]
  by_contra hother
  rw [hkept, Sim.init] at hplant
  simp [hother] at hplant

/-- From a state whose wake-ups all lie ahead the time grows until the scenario ends. -/
theorem Sim.Reachable.loop_returns {sc : Scenario} (hduration : 0 < sc.durationMs)
    (htick : sc.plantType = "microcar" → 0 < sc.tickMs) {s : Sim} (h : Reachable sc s)
    (hahead : ∀ t ∈ s.wakeUps, s.now < t) : ∃ fuel last, s.loop sc fuel = some last := by
  obtain ⟨left, hleft⟩ : ∃ left, sc.durationMs * 1000 - s.now = left := ⟨_, rfl⟩
  induction left using Nat.strong_induction_on generalizing s with
  | _ left ih =>
    rcases h.ready.iteration_cases sc with ⟨-, -, hend⟩ | ⟨next, hmem, hle, hnext⟩
    · exact ⟨1, s, by rw [Sim.loop, hend]⟩
    · have hgrows := hahead next hmem
      have hnow : (s.advance sc next).now = next := rfl
      have hrunning : ¬ sc.durationMs * 1000 ≤ s.now := by
        intro hover
        rw [iteration, if_pos ⟨hduration, hover⟩] at hnext
        exact absurd hnext (by simp)
      have hahead' : ∀ t ∈ (s.advance sc next).wakeUps, (s.advance sc next).now < t := by
        intro t ht
        rcases wakeUps_advance h.ready hle t ht with hlt | ⟨hplant, hzero, -⟩
        · exact hlt
        · have := htick (h.plant hplant)
          omega
      obtain ⟨fuel, last, hloop⟩ := ih _ (by omega) (h.turn hnext) hahead' rfl
      exact ⟨fuel + 1, last, (loop_turn hnext fuel).trans hloop⟩

/-- Unless the plant ticks every 0 ms, the simulation of a scenario that ends returns a trace. -/
theorem simulateScenario_returns {sc : Scenario} (hduration : 0 < sc.durationMs)
    (htick : sc.plantType = "microcar" → 0 < sc.tickMs) :
    ∃ fuel trace, simulateScenario sc fuel = some trace := by
  have hinit : Sim.Reachable sc (.init sc) := .init
  rcases hinit.ready.iteration_cases sc with ⟨-, -, hend⟩ | ⟨next, -, hle, hnext⟩
  · exact ⟨1, _, by rw [simulateScenario, Sim.loop, hend, Option.map_some]⟩
  · have hahead : ∀ t ∈ ((Sim.init sc).advance sc next).wakeUps, next < t := by
      intro t ht
      rcases Sim.wakeUps_advance hinit.ready hle t ht with hlt | ⟨hplant, hzero, -⟩
      · exact hlt
      · have := htick (hinit.plant hplant)
        omega
    obtain ⟨fuel, last, hloop⟩ := (hinit.turn hnext).loop_returns hduration htick hahead
    exact ⟨fuel + 1, _, by rw [simulateScenario, Sim.loop_turn hnext, hloop, Option.map_some]⟩

/-! ### A late frame -/

/-- A delayed frame is queued in front of one without delay. -/
def delayedFrame : Scenario where
  machines := [⟨1, "gateway"⟩, ⟨2, "powertrain"⟩]
  durationMs := 100
  faults :=
    [{ atMs := 0
       target := "bus.vcan0"
       type := "delay_frame"
       id := some 0x101
       delayMs := some 50 }]
  busInjects := [⟨1, "gateway", 0x101, [0, 1]⟩, ⟨2, "gateway", 0x400, [3, 1]⟩]

/-- The state behind some turns. -/
def Sim.turns (sc : Scenario) : Nat → Sim → Option Sim
  | 0, s => some s
  | n + 1, s => (s.iteration sc).bind (turns sc n)

/-- Turns lead from reachable states to reachable states. -/
theorem Sim.Reachable.turns {sc : Scenario} {n : Nat} {s last : Sim} (h : Reachable sc s)
    (hturns : s.turns sc n = some last) : Reachable sc last := by
  induction n generalizing s with
  | zero => exact Option.some.inj hturns ▸ h
  | succ n ih =>
    obtain ⟨next, hturn, hrest⟩ := Option.bind_eq_some_iff.mp hturns
    exact ih (h.turn hturn) hrest

/-- The frame that arrives at 2500 µs is delivered at 10000 µs, with the update of the ECUs. -/
theorem delayedFrame_late : ¬∀ s, Sim.Reachable delayedFrame s → s.OnTime delayedFrame := by
  intro hontime
  have hlate : (((Sim.init delayedFrame).turns delayedFrame 4).map fun s =>
      s.deliveries.map fun d => (d.1, d.2.arrival)) = some [(10000, 2500)] := by decide +kernel
  obtain ⟨s, hturns, hdeliveries⟩ := Option.map_eq_some_iff.mp hlate
  have hs : Sim.Reachable delayedFrame s := Sim.Reachable.init.turns hturns
  have hmem : (10000, 2500) ∈ s.deliveries.map fun d => (d.1, d.2.arrival) := by
    rw [hdeliveries]
    exact List.mem_singleton_self _
  obtain ⟨d, hd, heq⟩ := List.mem_map.mp hmem
  obtain ⟨htime, harrival⟩ := Prod.mk.inj heq
  have := (hontime s hs).punctual d hd
  omega

end Microcar.Checker
