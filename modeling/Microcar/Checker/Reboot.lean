import Microcar.Checker.OnTime
import Microcar.Core.Run

/-!
# Rebooted machines

The trace simulator drives `EcuHeartbeats` by three calls: `generate` in each turn, `stop_heartbeat`
and `reboot` for faults. Both faults put their machine among the stopped ones, and no call takes it
out again. A rebooted machine sends no heartbeat any more, at whatever time its reboot completes.
-/

namespace Microcar.Checker

open Microcar.Core

/-! ### Calls -/

/-- A call of the heartbeat generator. -/
inductive HeartbeatCall where
  | generate (bus : Bus) (now : Nat)
  | stopHeartbeat (mid : Nat)
  | reboot (mid now : Nat)

/-- What a fault does to its machine. -/
inductive HeartbeatFault where
  | stopHeartbeat
  | reboot (now : Nat)

/-- The fault that a call applies to a machine. -/
def HeartbeatCall.faultOn (m : Nat) : HeartbeatCall → Option HeartbeatFault
  | generate _ _ => none
  | stopHeartbeat mid => if mid = m then some .stopHeartbeat else none
  | reboot mid now => if mid = m then some (.reboot now) else none

/-- The time that a call is given. -/
def HeartbeatCall.time : HeartbeatCall → Option Nat
  | generate _ now => some now
  | stopHeartbeat _ => none
  | reboot _ now => some now

/-- The times of the calls do not decrease. -/
def InOrder (calls : List HeartbeatCall) : Prop :=
  (calls.filterMap HeartbeatCall.time).Pairwise (· ≤ ·)

/-- The last fault that was applied to a machine. -/
def lastFault (m : Nat) (calls : List HeartbeatCall) : Option HeartbeatFault :=
  (calls.filterMap (HeartbeatCall.faultOn m)).getLast?

namespace EcuHeartbeats

/-- The generator behind a call. -/
def call (sc : Scenario) (hb : EcuHeartbeats) : HeartbeatCall → EcuHeartbeats
  | .generate bus now => (hb.generate sc bus now).1
  | .stopHeartbeat mid => hb.stopHeartbeat mid
  | .reboot mid now => hb.reboot mid now

/-- The heartbeats of a scenario behind some calls. -/
def behind (sc : Scenario) (calls : List HeartbeatCall) : EcuHeartbeats :=
  run (call sc) (.new sc.machines) calls

/-- `next_hb_time[m] <= now`. -/
def Due (hb : EcuHeartbeats) (now m : Nat) : Prop :=
  ∃ next ≤ now, hb.nextHbTime.lookup m = some next

/-- What lets a machine send its heartbeat. -/
def Sends (hb : EcuHeartbeats) (bus : Bus) (now m : Nat) : Prop :=
  m ∉ hb.stopped ∧ hb.Due now m ∧ mcMsgHeartbeat ∉ bus.dropped

end EcuHeartbeats

/-- Among the frames is a heartbeat from one machine to another. -/
def BeatTo (frames : List Frame) (m r : Nat) : Prop :=
  ∃ frame ∈ frames, frame.sender = m ∧ frame.receiver = r ∧ frame.id = mcMsgHeartbeat

/-! ### Which heartbeats are sent -/

/-- A heartbeat in two lists of frames. -/
theorem beatTo_append {first rest : List Frame} {m r : Nat} :
    BeatTo (first ++ rest) m r ↔ BeatTo first m r ∨ BeatTo rest m r := by
  simp only [BeatTo, List.mem_append, or_and_right, exists_or]

/-- A broadcast heartbeat goes to every other machine. -/
theorem beatTo_broadcast {sc : Scenario} {arrival sender : Nat} {data : List Nat} {m r : Nat} :
    BeatTo (broadcast sc arrival sender mcMsgHeartbeat data) m r ↔
      m = sender ∧ r ∈ sc.machines.map Machine.id ∧ r ≠ m := by
  constructor
  · rintro ⟨frame, hframe, rfl, rfl, -⟩
    obtain ⟨machine, hmachine, rfl⟩ := List.mem_map.mp hframe
    obtain ⟨hmem, hne⟩ := List.mem_filter.mp hmachine
    exact ⟨rfl, List.mem_map_of_mem hmem, of_decide_eq_true hne⟩
  · rintro ⟨rfl, hr, hne⟩
    obtain ⟨machine, hmem, rfl⟩ := List.mem_map.mp hr
    have hmachine : machine ∈ sc.machines.filter fun machine => machine.id ≠ m :=
      List.mem_filter.mpr ⟨hmem, decide_eq_true hne⟩
    exact ⟨_, List.mem_map_of_mem hmachine, rfl, rfl, rfl⟩

namespace EcuHeartbeats

/-- Whoever sends behind the turns of other machines would have sent in front of them. -/
theorem Beats.sends {hb hb' : EcuHeartbeats} (h : hb.Beats hb') {bus : Bus} {now m : Nat}
    (hsends : hb'.Sends bus now m) : hb.Sends bus now m := by
  obtain ⟨hstopped, ⟨next', hdue, hnext'⟩, hdropped⟩ := hsends
  obtain ⟨next, periods, hnext, rfl⟩ := h.next m next' hnext'
  rw [h.stopped] at hstopped
  exact ⟨hstopped, ⟨next, (Nat.le_add_right _ _).trans hdue, hnext⟩, hdropped⟩

section Generate

variable (sc : Scenario) (bus : Bus) (now : Nat)

/-- A turn in which nothing reboots that is not stopped: the machine sends its heartbeat to the
others where it may, and no other machine is delayed by it. -/
theorem beat_frames {found : EcuHeartbeats × List TraceLine × List Frame}
    (hreboot : found.1.RebootingStopped) (mid : Nat) :
    ((found.1.Sends bus now mid ∧ ∃ data, (beat sc bus now found mid).2.2 = found.2.2 ++
        broadcast sc (bus.arrival sc now mcMsgHeartbeat) mid mcMsgHeartbeat data) ∨
      (¬found.1.Sends bus now mid ∧ (beat sc bus now found mid).2.2 = found.2.2)) ∧
    ∀ m ≠ mid, (beat sc bus now found mid).1.nextHbTime.lookup m = found.1.nextHbTime.lookup m := by
  obtain ⟨hb, lines, frames⟩ := found
  rw [beat]
  split
  next hskip =>
    refine ⟨.inr ⟨fun hsends => ?_, rfl⟩, fun _ _ => rfl⟩
    rcases hskip with hskip | hskip
    · exact hsends.1 hskip
    · rw [hreboot mid hsends.1] at hskip
      exact absurd hskip (by simp)
  next hpass =>
    simp only
    split
    next hnone =>
      refine ⟨.inr ⟨?_, rfl⟩, fun _ _ => rfl⟩
      rintro ⟨-, ⟨next, -, hnext⟩, -⟩
      exact absurd (hnone.symm.trans hnext) (by simp)
    next next hsome =>
      split
      next hdue =>
        split
        next hdropped =>
          exact ⟨.inr ⟨fun hsends => hsends.2.2 hdropped, rfl⟩,
            fun m hm => lookup_assign_of_ne hm _ _⟩
        next hdropped =>
          have hsends : hb.Sends bus now mid :=
            ⟨fun hstopped => hpass (.inl hstopped), ⟨next, hdue, hsome⟩, hdropped⟩
          exact ⟨.inl ⟨hsends, _, rfl⟩, fun m hm => lookup_assign_of_ne hm _ _⟩
      next hlater =>
        refine ⟨.inr ⟨?_, rfl⟩, fun _ _ => rfl⟩
        rintro ⟨-, ⟨next', hle, hnext'⟩, -⟩
        obtain rfl := Option.some.inj (hsome.symm.trans hnext')
        exact hlater hle

/-- The heartbeats behind one turn. -/
theorem beatTo_beat_iff {found : EcuHeartbeats × List TraceLine × List Frame}
    (hreboot : found.1.RebootingStopped) {mid m r : Nat} :
    BeatTo (beat sc bus now found mid).2.2 m r ↔ BeatTo found.2.2 m r ∨
      (m = mid ∧ found.1.Sends bus now m) ∧ r ∈ sc.machines.map Machine.id ∧ r ≠ m := by
  rcases (beat_frames sc bus now hreboot mid).1 with ⟨hsends, data, hframes⟩ | ⟨hsilent, hframes⟩
  · rw [hframes, beatTo_append, beatTo_broadcast]
    apply or_congr_right
    constructor
    · rintro ⟨rfl, hr⟩
      exact ⟨⟨rfl, hsends⟩, hr⟩
    · rintro ⟨⟨rfl, -⟩, hr⟩
      exact ⟨rfl, hr⟩
  · rw [hframes]
    refine (or_iff_left ?_).symm
    rintro ⟨⟨rfl, hsends⟩, -⟩
    exact hsilent hsends

/-- The heartbeats behind the turns of some machines. -/
theorem beatTo_foldl_iff {found : EcuHeartbeats × List TraceLine × List Frame}
    (hreboot : found.1.RebootingStopped) {mids : List Nat} {m r : Nat} :
    BeatTo (mids.foldl (beat sc bus now) found).2.2 m r ↔ BeatTo found.2.2 m r ∨
      (m ∈ mids ∧ found.1.Sends bus now m) ∧ r ∈ sc.machines.map Machine.id ∧ r ≠ m := by
  induction mids generalizing found with
  | nil => simp
  | cons mid mids ih =>
    have hbeats := (beat_spec sc bus now found mid).1
    rw [List.foldl_cons, ih (hbeats.rebootingStopped hreboot), beatTo_beat_iff sc bus now hreboot,
      or_assoc, ← or_and_right]
    refine or_congr_right (and_congr_left fun _ => ?_)
    constructor
    · rintro (⟨rfl, hsends⟩ | ⟨hmem, hsends⟩)
      · exact ⟨List.mem_cons_self, hsends⟩
      · exact ⟨List.mem_cons_of_mem mid hmem, hbeats.sends hsends⟩
    · rintro ⟨hmem, hsends⟩
      by_cases hmid : m = mid
      · exact .inl ⟨hmid, hsends⟩
      · -- The turn of another machine leaves the next heartbeat of this one as it is.
        have hkept := (beat_frames sc bus now hreboot mid).2 m hmid
        refine .inr ⟨(List.mem_cons.mp hmem).resolve_left hmid, ?_⟩
        rwa [Sends, Due, hbeats.stopped, hkept]

/-- What `generate` sends, where nothing reboots that is not stopped. -/
theorem beatTo_generate_iff {hb : EcuHeartbeats} (hreboot : hb.RebootingStopped) {m r : Nat} :
    BeatTo (hb.generate sc bus now).2.2 m r ↔
      (m ∈ hb.machineIds ∧ hb.Sends bus now m) ∧ r ∈ sc.machines.map Machine.id ∧ r ≠ m := by
  rw [generate, beatTo_foldl_iff sc bus now hreboot]
  exact or_iff_right (by simp [BeatTo])

end Generate

/-! ### Behind some calls -/

/-- What holds behind a sequence of calls: all machines have their turns, nothing reboots that is
not stopped, and the stopped machines are those that some fault was applied to. -/
structure Follows (sc : Scenario) (calls : List HeartbeatCall) (hb : EcuHeartbeats) : Prop where
  machineIds : hb.machineIds = sc.machines.map Machine.id
  rebooting : hb.RebootingStopped
  stopped : ∀ m, m ∉ hb.stopped ↔ lastFault m calls = none

/-- A fault of either kind stops its machine. -/
theorem Follows.not_mem_insert_iff {sc : Scenario} {calls : List HeartbeatCall}
    {hb : EcuHeartbeats} (h : Follows sc calls hb) {c : HeartbeatCall} {mid : Nat}
    {fault : HeartbeatFault} (hc : ∀ m, c.faultOn m = if mid = m then some fault else none)
    (m : Nat) : m ∉ hb.stopped.insert mid ↔ lastFault m (calls ++ [c]) = none := by
  rw [lastFault, getLast?_filterMap_snoc, hc, List.mem_insert_iff, not_or, h.stopped]
  by_cases hmid : mid = m
  · simp [hmid]
  · simp [hmid, Ne.symm hmid, lastFault]

/-- No call takes a machine out of the stopped ones. -/
theorem Follows.snoc {sc : Scenario} {calls : List HeartbeatCall} {hb : EcuHeartbeats}
    (h : Follows sc calls hb) (c : HeartbeatCall) : Follows sc (calls ++ [c]) (hb.call sc c) := by
  cases c with
  | generate bus now =>
    have hbeats := (foldl_beat_spec sc bus now hb.machineIds (hb, [], [])).1
    refine ⟨hbeats.machineIds.trans h.machineIds, hbeats.rebootingStopped h.rebooting, fun m => ?_⟩
    rw [call, generate, hbeats.stopped, lastFault, getLast?_filterMap_snoc]
    exact h.stopped m
  | stopHeartbeat mid =>
    exact ⟨h.machineIds, rebootingStopped_stopHeartbeat h.rebooting mid,
      h.not_mem_insert_iff fun _ => rfl⟩
  | reboot mid now =>
    exact ⟨h.machineIds, rebootingStopped_reboot h.rebooting mid now,
      h.not_mem_insert_iff fun _ => rfl⟩

/-- The state behind a list of calls follows them. -/
theorem follows_behind (sc : Scenario) (calls : List HeartbeatCall) :
    Follows sc calls (behind sc calls) := by
  apply run_history_invariant
  · exact ⟨rfl, fun _ _ => rfl, fun _ => iff_of_true List.not_mem_nil rfl⟩
  · exact fun calls hb c h => h.snoc c

/-- A machine sends a heartbeat exactly if no fault was ever applied to it, its next heartbeat is
due and heartbeats are not dropped. -/
theorem beatTo_behind_iff (sc : Scenario) (calls : List HeartbeatCall) (bus : Bus) (now m r : Nat) :
    BeatTo ((behind sc calls).generate sc bus now).2.2 m r ↔
      (m ∈ sc.machines.map Machine.id ∧ lastFault m calls = none ∧ (behind sc calls).Due now m ∧
        mcMsgHeartbeat ∉ bus.dropped) ∧ r ∈ sc.machines.map Machine.id ∧ r ≠ m := by
  have hfollows := follows_behind sc calls
  rw [beatTo_generate_iff sc bus now hfollows.rebooting, Sends, hfollows.machineIds,
    hfollows.stopped]

end EcuHeartbeats

/-! ### After a reboot -/

/-- A machine beats again: where its last fault is a reboot, each `generate` behind the 500 ms of
the reboot sends its heartbeat to every other machine, if it is due and heartbeats are not dropped,
and each one within them sends none. -/
def BeatsAgain (sc : Scenario) (calls : List HeartbeatCall) (m : Nat) : Prop :=
  ∀ before bus now after t, calls = before ++ .generate bus now :: after →
    lastFault m before = some (.reboot t) →
    (t + 500000 ≤ now → (EcuHeartbeats.behind sc before).Due now m →
      mcMsgHeartbeat ∉ bus.dropped → ∀ r ∈ sc.machines.map Machine.id, r ≠ m →
        BeatTo ((EcuHeartbeats.behind sc before).generate sc bus now).2.2 m r) ∧
    (t ≤ now → now < t + 500000 →
      ∀ r, ¬BeatTo ((EcuHeartbeats.behind sc before).generate sc bus now).2.2 m r)

/-- No heartbeat is to be sent again: where the last fault of the machine is a reboot, no
`generate` comes behind its 500 ms with a heartbeat due and not dropped, unless there is no other
machine. -/
def NoneAwaited (sc : Scenario) (calls : List HeartbeatCall) (m : Nat) : Prop :=
  ∀ before bus now after t, calls = before ++ .generate bus now :: after →
    lastFault m before = some (.reboot t) → t + 500000 ≤ now →
    (EcuHeartbeats.behind sc before).Due now m → mcMsgHeartbeat ∉ bus.dropped →
    ∀ r ∈ sc.machines.map Machine.id, r = m

/-- Behind a fault a machine is silent, so it beats again only where no heartbeat is awaited. -/
theorem beatsAgain_iff (sc : Scenario) (calls : List HeartbeatCall) (m : Nat) :
    BeatsAgain sc calls m ↔ NoneAwaited sc calls m := by
  have hsilent : ∀ before bus now t, lastFault m before = some (.reboot t) →
      ∀ r, ¬BeatTo ((EcuHeartbeats.behind sc before).generate sc bus now).2.2 m r := by
    intro before bus now t hfault r hbeat
    obtain ⟨⟨-, hnone, -⟩, -⟩ :=
      (EcuHeartbeats.beatTo_behind_iff sc before bus now m r).mp hbeat
    exact absurd (hfault.symm.trans hnone) (by simp)
  constructor
  · intro h before bus now after t hsplit hfault hlater hdue hdropped r hr
    by_contra hne
    have hbeat := (h before bus now after t hsplit hfault).1 hlater hdue hdropped r hr hne
    exact hsilent before bus now t hfault r hbeat
  · intro h before bus now after t hsplit hfault
    refine ⟨fun hlater hdue hdropped r hr hne => ?_, fun _ _ => hsilent before bus now t hfault⟩
    exact absurd (h before bus now after t hsplit hfault hlater hdue hdropped r hr) hne

/-- The gateway and the BMS. -/
def gatewayAndBms : Scenario where
  machines := [⟨1, "gateway"⟩, ⟨3, "bms"⟩]

/-- The BMS reboots at 1500 ms. At 2000 ms its heartbeat is due, and the gateway gets none. -/
theorem rebootedBms_silent :
    ¬∀ calls, InOrder calls → ∀ m, BeatsAgain gatewayAndBms calls m := by
  intro h
  have horder : InOrder [.reboot 3 1500000, .generate ⟨[], []⟩ 2000000] := by
    simp [InOrder, HeartbeatCall.time]
  obtain ⟨hlater, -⟩ :=
    h _ horder 3 [.reboot 3 1500000] ⟨[], []⟩ 2000000 [] 1500000 rfl rfl
  have hbeat := hlater (by omega) ⟨70000, by omega, rfl⟩ List.not_mem_nil 1
    (by simp [gatewayAndBms]) (by omega)
  obtain ⟨⟨-, hnone, -⟩, -⟩ := (EcuHeartbeats.beatTo_behind_iff _ _ _ _ _ _).mp hbeat
  exact absurd hnone (by simp [lastFault, HeartbeatCall.faultOn])

/-! ### In the simulation -/

/-- Calls at one time lead from one state of the heartbeats to another. -/
def EcuHeartbeats.CallsAt (sc : Scenario) (now : Nat) (hb hb' : EcuHeartbeats) : Prop :=
  ∃ calls, (∀ t ∈ calls.filterMap HeartbeatCall.time, t = now) ∧ run (call sc) hb calls = hb'

section Simulation

variable {sc : Scenario} {now : Nat}

open EcuHeartbeats

/-- Without a call nothing changes. -/
theorem callsAt_refl (hb : EcuHeartbeats) : CallsAt sc now hb hb :=
  ⟨[], by simp, rfl⟩

/-- A call at a time is a call at that time. -/
theorem callsAt_call {hb : EcuHeartbeats} {c : HeartbeatCall} (h : ∀ t ∈ c.time, t = now) :
    CallsAt sc now hb (hb.call sc c) := by
  refine ⟨[c], fun t ht => ?_, rfl⟩
  obtain ⟨c', hc', htime⟩ := List.mem_filterMap.mp ht
  obtain rfl := List.mem_singleton.mp hc'
  exact h t htime

/-- Two series of calls are one. -/
theorem EcuHeartbeats.CallsAt.trans {hb mid hb' : EcuHeartbeats} (h : CallsAt sc now hb mid)
    (h' : CallsAt sc now mid hb') : CallsAt sc now hb hb' := by
  obtain ⟨first, hfirst, rfl⟩ := h
  obtain ⟨rest, hrest, rfl⟩ := h'
  refine ⟨first ++ rest, fun t ht => ?_, run_append _ _ first rest⟩
  rw [List.filterMap_append] at ht
  rcases List.mem_append.mp ht with ht | ht
  · exact hfirst t ht
  · exact hrest t ht

/-- A fault makes its calls at the time of the turn. -/
theorem callsAt_applyFault (found : World × List TraceLine) (f : Fault) :
    CallsAt sc now found.1.heartbeats (applyFault sc now found f).1.heartbeats := by
  obtain ⟨world, lines⟩ := found
  rw [applyFault]
  simp only
  split
  · exact callsAt_refl _
  split
  · exact callsAt_refl _
  split
  · rw [applyMachineFault]
    split
    · exact callsAt_refl _
    next target _ =>
      split
      · exact callsAt_call (c := .stopHeartbeat target) (by simp [HeartbeatCall.time])
      split
      · exact callsAt_call (c := .reboot target now) (by simp [HeartbeatCall.time])
      · exact callsAt_refl _
  · exact callsAt_refl _

/-- So do all the faults of a turn. -/
theorem callsAt_foldl_applyFault (faults : List Fault) (found : World × List TraceLine) :
    CallsAt sc now found.1.heartbeats (faults.foldl (applyFault sc now) found).1.heartbeats := by
  induction faults generalizing found with
  | nil => exact callsAt_refl _
  | cons f faults ih => exact (callsAt_applyFault found f).trans (ih _)

/-- A turn applies the faults that are due and generates the heartbeats. -/
theorem Sim.callsAt_advance (s : Sim) :
    CallsAt sc now s.world.heartbeats (s.advance sc now).world.heartbeats := by
  rw [(world_advance sc s now).2]
  let world := ((s.faults.takeWhile fun f => dueBy now f.atMs).foldl (applyFault sc now)
    (s.world, [])).1
  have hgenerate : CallsAt sc now world.heartbeats
      (world.heartbeats.call sc (.generate world.bus now)) :=
    callsAt_call (by simp [HeartbeatCall.time])
  exact (callsAt_foldl_applyFault _ (s.world, [])).trans hgenerate

/-- In a simulation the heartbeats stand behind calls at non-decreasing times. -/
theorem Sim.Reachable.exists_calls {s : Sim} (h : Reachable sc s) :
    ∃ calls, InOrder calls ∧ (∀ t ∈ calls.filterMap HeartbeatCall.time, t ≤ s.now) ∧
      s.world.heartbeats = behind sc calls := by
  induction h with
  | init => exact ⟨[], List.Pairwise.nil, by simp, rfl⟩
  | @turn s s' h hturn ih =>
    obtain ⟨next, hmem, -, rfl⟩ := h.ready.turn_eq hturn
    have hforward : s.now ≤ next := h.ready.wakeUps next hmem
    obtain ⟨calls, horder, hpast, hbehind⟩ := ih
    have hcalls : CallsAt sc next s.world.heartbeats (s.advance sc next).world.heartbeats :=
      s.callsAt_advance
    obtain ⟨new, hnew, hrun⟩ := hcalls
    refine ⟨calls ++ new, ?_, fun t ht => ?_, ?_⟩
    · rw [InOrder, List.filterMap_append, List.pairwise_append]
      refine ⟨horder, ?_, fun t ht t' ht' => ?_⟩
      · exact List.pairwise_of_forall_mem_list fun t ht t' ht' =>
          ((hnew t ht).trans (hnew t' ht').symm).le
      · rw [hnew t' ht']
        exact (hpast t ht).trans hforward
    · rw [List.filterMap_append] at ht
      rcases List.mem_append.mp ht with ht | ht
      · exact (hpast t ht).trans hforward
      · exact (hnew t ht).le
    · rw [behind, run_append, ← behind, ← hbehind, hrun]

end Simulation

end Microcar.Checker
