import Microcar.Core.Deadline
import Microcar.Gateway.HeartbeatMonitor
import Microcar.Powertrain.Torque

/-!
# Timeout monitors across the clock wrap

The gateway monitors its nodes and the powertrain monitors the gateway on a millisecond
counter of 32 bits. Both are driven by beats and checks at real times; as long as the checks
are not too far apart, both decide every timeout by real time, for runs that are longer than
one turn of the counter.
-/

namespace Microcar.Vehicle

open Microcar.Core (TimedCall clockAt callClock lastBeat Timely Tracks Alive)
open Microcar.Gateway
open Microcar.Powertrain (WatchdogTask watchdogInit watchdogGatewayBeat watchdogCheck)

/-! ### The heartbeat monitor of the gateway -/

/-- The monitor behind its registrations, in order. -/
def registerAll (regs : List (UInt8 × UInt32)) : HeartbeatMonitor :=
  regs.foldl (fun hm r => (heartbeatMonitorRegister hm r.1 r.2).1) heartbeatMonitorInit

/-- The monitor behind a call at a real time. -/
def monitorStep (hm : HeartbeatMonitor) : TimedCall UInt8 → HeartbeatMonitor
  | .beat nodeId time => heartbeatMonitorBeat hm nodeId (clockAt time)
  | .check time => (heartbeatMonitorCheck hm (clockAt time)).1

/-- The monitor behind its registrations and a sequence of calls. -/
def monitorRun (regs : List (UInt8 × UInt32)) (calls : List (TimedCall UInt8)) :
    HeartbeatMonitor :=
  Core.run monitorStep (registerAll regs) calls

/-- The longest timeout of the registrations. -/
def maxTimeout : List (UInt8 × UInt32) → Nat
  | [] => 0
  | r :: regs => max r.2.toNat (maxTimeout regs)

theorem le_maxTimeout {regs : List (UInt8 × UInt32)} {r : UInt8 × UInt32} (h : r ∈ regs) :
    r.2.toNat ≤ maxTimeout regs := by
  induction regs with
  | nil => exact absurd h List.not_mem_nil
  | cons r' regs ih =>
    rw [maxTimeout]
    rcases List.mem_cons.mp h with rfl | hmem
    · exact Nat.le_max_left _ _
    · exact Nat.le_trans (ih hmem) (Nat.le_max_right _ _)

theorem maxTimeout_lt (regs : List (UInt8 × UInt32)) : maxTimeout regs < 4294967296 := by
  induction regs with
  | nil => decide
  | cons r regs ih =>
    rw [maxTimeout]
    have hlt : r.2.toNat < 4294967296 := r.2.toNat_lt
    omega

theorem gap_add_timeout_le {regs : List (UInt8 × UInt32)} {r : UInt8 × UInt32} (h : r ∈ regs) :
    4294967296 - maxTimeout regs + r.2.toNat ≤ 4294967296 := by
  have hmax := le_maxTimeout h
  have hlt := maxTimeout_lt regs
  omega

/-- Registrations within the capacity are in the table, offline and without a beat. -/
theorem entries_registerAll {regs : List (UInt8 × UInt32)} (h : regs.length ≤ hmMaxNodes) :
    (registerAll regs).nodes.entries = regs.map fun r => ⟨r.1, false, 0, r.2⟩ := by
  induction regs using List.reverseRecOn with
  | nil => rfl
  | append_singleton regs r ih =>
    have hlen : regs.length < hmMaxNodes := by simpa [Nat.succ_le_iff] using h
    have hbefore := ih (Nat.le_of_lt hlen)
    have hroom : (registerAll regs).nodes.isFull = false := by
      simp [Core.Table.isFull, hbefore, hlen]
    have hlast : registerAll (regs ++ [r]) =
        (heartbeatMonitorRegister (registerAll regs) r.1 r.2).1 := by
      unfold registerAll
      rw [List.foldl_append, List.foldl_cons, List.foldl_nil]
    rw [hlast]
    simp [heartbeatMonitorRegister, hroom, Core.Table.entries_push, hbefore]

/-- Calls keep the registrations. -/
theorem registers_monitorRun {regs : List (UInt8 × UInt32)} (h : regs.length ≤ hmMaxNodes)
    (calls : List (TimedCall UInt8)) : (monitorRun regs calls).Registers regs := by
  refine Core.run_invariant (I := fun hm : HeartbeatMonitor => hm.Registers regs) ?_ ?_ calls
  · intro hm call hregs
    cases call with
    | beat nodeId time => exact hregs.beat nodeId _
    | check time => exact hregs.check _
  · unfold HeartbeatMonitor.Registers
    rw [entries_registerAll h, List.map_map]
    exact List.map_id' regs

/-- With distinct identifiers every entry is the lookup of its identifier. -/
theorem node?_of_mem {hm : HeartbeatMonitor} {regs : List (UInt8 × UInt32)}
    (hregs : hm.Registers regs) (hnodup : (regs.map Prod.fst).Nodup) {n : HmNode}
    (hn : n ∈ hm.nodes.entries) : hm.node? n.nodeId = some n := by
  have hids : (hm.nodes.entries.map HmNode.nodeId).Nodup := by
    rw [← hregs, List.map_map] at hnodup
    exact hnodup
  unfold HeartbeatMonitor.node?
  cases hfind : hm.nodes.entries.find? fun m => m.nodeId == n.nodeId with
  | none => simpa using List.find?_eq_none.mp hfind n hn
  | some m =>
    have hsame : m.nodeId = n.nodeId := by simpa using List.find?_some hfind
    rw [List.inj_on_of_nodup_map hids (List.mem_of_find?_eq_some hfind) hn hsame]

/-- With distinct identifiers an entry is online exactly when its identifier is. -/
theorem isOnline_of_mem {hm : HeartbeatMonitor} {regs : List (UInt8 × UInt32)}
    (hregs : hm.Registers regs) (hnodup : (regs.map Prod.fst).Nodup) {n : HmNode}
    (hn : n ∈ hm.nodes.entries) : heartbeatMonitorIsOnline hm n.nodeId = n.online := by
  unfold heartbeatMonitorIsOnline
  rw [node?_of_mem hregs hnodup hn]

/-- Every registered node is tracked along timely calls. -/
theorem tracks_monitorRun {regs : List (UInt8 × UInt32)} (hnodup : (regs.map Prod.fst).Nodup)
    (hlen : regs.length ≤ hmMaxNodes) {calls : List (TimedCall UInt8)}
    (htimely : Timely (4294967296 - maxTimeout regs) calls) {r : UInt8 × UInt32} (hr : r ∈ regs) :
    ∃ n, (monitorRun regs calls).node? r.1 = some n ∧ n.timeoutMs = r.2 ∧
      Tracks r.2.toNat (callClock calls) (lastBeat r.1 calls) n.online n.lastBeatMs := by
  induction calls using List.reverseRecOn with
  | nil =>
    have hmem : (⟨r.1, false, 0, r.2⟩ : HmNode) ∈ (monitorRun regs []).nodes.entries := by
      rw [monitorRun, Core.run_nil, entries_registerAll hlen]
      exact List.mem_map_of_mem hr
    exact ⟨_, node?_of_mem (registers_monitorRun hlen []) hnodup hmem, rfl, Tracks.silent _ _ _⟩
  | append_singleton calls call ih =>
    obtain ⟨hbefore, hallows⟩ := Core.timely_snoc.mp htimely
    obtain ⟨n, hn, htimeout, htracks⟩ := ih hbefore
    have hclock := Core.callClock_lastCheck_le hbefore
    have hgap := gap_add_timeout_le hr
    rw [monitorRun, Core.run_snoc, callClock, Core.run_snoc, Core.lastBeat_snoc]
    cases call with
    | beat nodeId time =>
      simp only [monitorStep, node?_beat]
      by_cases hid : nodeId = r.1
      · refine ⟨n.beat (clockAt time), ?_, htimeout, ?_⟩
        · rw [if_pos hid]
          exact congrArg (Option.map _) hn
        · rw [TimedCall.beatOf, if_pos hid, Option.some_or]
          exact Tracks.beat hclock hallows _
      · refine ⟨n, ?_, htimeout, ?_⟩
        · rw [if_neg hid]
          exact hn
        · rw [TimedCall.beatOf, if_neg hid, Option.none_or]
          exact htracks.later hallows
    | check time =>
      simp only [monitorStep, node?_check]
      refine ⟨n.check (clockAt time), congrArg (Option.map _) hn, ?_, ?_⟩
      · rw [HmNode.check_timeoutMs, htimeout]
      · rw [TimedCall.beatOf, Option.none_or, HmNode.check_lastBeatMs]
        refine htracks.check hgap hallows.1 hallows.2 hclock ?_
        rw [HmNode.check_online, HmNode.expires, ← htimeout]
        cases n.online <;> simp

/-- What a check of the monitor at a real time reports, behind a sequence of calls. -/
structure MonitorExact (regs : List (UInt8 × UInt32)) (calls : List (TimedCall UInt8))
    (time : Nat) : Prop where
  /-- A node is online exactly when it has beaten less than its timeout ago. -/
  online : ∀ r ∈ regs,
    heartbeatMonitorIsOnline (heartbeatMonitorCheck (monitorRun regs calls) (clockAt time)).1 r.1 =
      true ↔ ∃ t, lastBeat r.1 calls = some t ∧ time - t < r.2.toNat
  /-- All nodes are reported online exactly when each of them is, and there is one. -/
  allOnline :
    heartbeatMonitorAllOnline (heartbeatMonitorCheck (monitorRun regs calls) (clockAt time)).1 =
      true ↔ regs ≠ [] ∧ ∀ r ∈ regs, heartbeatMonitorIsOnline
        (heartbeatMonitorCheck (monitorRun regs calls) (clockAt time)).1 r.1 = true
  /-- The return value counts the nodes that go offline. -/
  transitions : (heartbeatMonitorCheck (monitorRun regs calls) (clockAt time)).2 =
    regs.countP fun r => heartbeatMonitorIsOnline (monitorRun regs calls) r.1 &&
      !heartbeatMonitorIsOnline
        (heartbeatMonitorCheck (monitorRun regs calls) (clockAt time)).1 r.1

/-- The number of expired entries is the number of registered nodes that go offline. -/
theorem countP_expires {hm : HeartbeatMonitor} {regs : List (UInt8 × UInt32)}
    (hregs : hm.Registers regs) (hnodup : (regs.map Prod.fst).Nodup) (nowMs : UInt32) :
    (heartbeatMonitorCheck hm nowMs).2 = regs.countP fun r => heartbeatMonitorIsOnline hm r.1 &&
      !heartbeatMonitorIsOnline (heartbeatMonitorCheck hm nowMs).1 r.1 := by
  conv => rhs; rw [← hregs]
  rw [List.countP_map]
  refine List.countP_congr fun n hn => ?_
  have hchecked : n.check nowMs ∈ (heartbeatMonitorCheck hm nowMs).1.nodes.entries :=
    List.mem_map_of_mem hn
  have hafter := isOnline_of_mem (hregs.check nowMs) hnodup hchecked
  rw [HmNode.check_nodeId, HmNode.check_online] at hafter
  simp only [Function.comp, isOnline_of_mem hregs hnodup hn, hafter]
  cases honline : n.online <;> simp [HmNode.expires, honline]

/-- All entries are online exactly when every registered node is. -/
theorem allOnline_iff {hm : HeartbeatMonitor} {regs : List (UInt8 × UInt32)}
    (hregs : hm.Registers regs) (hnodup : (regs.map Prod.fst).Nodup) :
    heartbeatMonitorAllOnline hm = true ↔
      regs ≠ [] ∧ ∀ r ∈ regs, heartbeatMonitorIsOnline hm r.1 = true := by
  have hempty : hm.nodes.entries.isEmpty = regs.isEmpty := by
    rw [← hregs, List.isEmpty_map]
  unfold heartbeatMonitorAllOnline
  rw [hempty, Bool.and_eq_true, List.all_eq_true]
  refine and_congr (by simp) ?_
  constructor
  · intro hall r hr
    rw [← hregs] at hr
    obtain ⟨n, hn, rfl⟩ := List.mem_map.mp hr
    exact (isOnline_of_mem hregs hnodup hn).trans (hall n hn)
  · intro hall n hn
    have hr : (n.nodeId, n.timeoutMs) ∈ regs := by
      rw [← hregs]
      exact List.mem_map_of_mem hn
    exact (isOnline_of_mem hregs hnodup hn).symm.trans (hall _ hr)

/-- Every check of timely calls is exact. -/
theorem monitorExact_of_timely {regs : List (UInt8 × UInt32)}
    (hnodup : (regs.map Prod.fst).Nodup) (hlen : regs.length ≤ hmMaxNodes)
    {calls : List (TimedCall UInt8)} {time : Nat}
    (htimely : Timely (4294967296 - maxTimeout regs) (calls ++ [.check time])) :
    MonitorExact regs calls time := by
  have hregs := registers_monitorRun hlen calls
  refine ⟨?_, allOnline_iff (hregs.check _) hnodup, countP_expires hregs hnodup _⟩
  intro r hr
  obtain ⟨hbefore, htime, hnear⟩ := Core.timely_snoc.mp htimely
  obtain ⟨n, hn, htimeout, htracks⟩ := tracks_monitorRun hnodup hlen hbefore hr
  have hgap := gap_add_timeout_le hr
  have halive := htracks.check_iff hgap htime hnear (Core.callClock_lastCheck_le hbefore)
  rw [heartbeatMonitorIsOnline_iff, node?_check, hn]
  refine Iff.trans ?_ halive
  simp only [Option.map_some, Option.some.injEq, exists_eq_left', HmNode.check_online,
    HmNode.expires, htimeout]
  cases n.online <;> simp

/-! ### The gateway watchdog of the powertrain -/

/-- The watchdog behind a call at a real time; the gateway is the only source. -/
def watchdogStep (wd : WatchdogTask) : TimedCall Unit → WatchdogTask
  | .beat _ time => watchdogGatewayBeat wd (clockAt time)
  | .check time => (watchdogCheck wd (clockAt time)).1

/-- The watchdog behind a sequence of calls from its initial state. -/
def watchdogRun (calls : List (TimedCall Unit)) : WatchdogTask :=
  Core.run watchdogStep watchdogInit calls

/-- A check leaves the gateway online exactly when it reports no timeout. -/
theorem watchdogCheck_online_iff (wd : WatchdogTask) (nowMs : UInt32) :
    ((watchdogCheck wd nowMs).1.gatewayOnline = true ↔ wd.gatewayOnline = true ∧
        ¬ mcSafetyGatewayTimeoutMs ≤ nowMs - wd.lastGatewayBeatMs) ∧
      ((watchdogCheck wd nowMs).2 = true ↔ ¬ (wd.gatewayOnline = true ∧
        ¬ mcSafetyGatewayTimeoutMs ≤ nowMs - wd.lastGatewayBeatMs)) ∧
      (watchdogCheck wd nowMs).1.lastGatewayBeatMs = wd.lastGatewayBeatMs := by
  unfold watchdogCheck
  cases hon : wd.gatewayOnline with
  | false => simp
  | true =>
    by_cases hlate : mcSafetyGatewayTimeoutMs ≤ nowMs - wd.lastGatewayBeatMs
    · simp [hlate]
    · simp [hlate]

/-- The gateway is tracked along timely calls. -/
theorem tracks_watchdogRun {calls : List (TimedCall Unit)}
    (htimely : Timely (4294967296 - mcSafetyGatewayTimeoutMs.toNat) calls) :
    Tracks mcSafetyGatewayTimeoutMs.toNat (callClock calls) (lastBeat () calls)
      (watchdogRun calls).gatewayOnline (watchdogRun calls).lastGatewayBeatMs := by
  induction calls using List.reverseRecOn with
  | nil => exact Tracks.silent _ _ _
  | append_singleton calls call ih =>
    obtain ⟨hbefore, hallows⟩ := Core.timely_snoc.mp htimely
    have htracks := ih hbefore
    have hclock := Core.callClock_lastCheck_le hbefore
    rw [watchdogRun, Core.run_snoc, callClock, Core.run_snoc, Core.lastBeat_snoc]
    cases call with
    | beat source time => exact Tracks.beat hclock hallows _
    | check time =>
      obtain ⟨honline, -, hlast⟩ := watchdogCheck_online_iff (watchdogRun calls) (clockAt time)
      rw [TimedCall.beatOf, Option.none_or]
      show Tracks _ _ _ _ (watchdogCheck (watchdogRun calls) (clockAt time)).1.lastGatewayBeatMs
      rw [hlast]
      exact htracks.check (by decide) hallows.1 hallows.2 hclock honline

/-- Every check of timely calls reports a timeout exactly when the gateway has not beaten, or
not lately. -/
theorem watchdogCheck_of_timely {calls : List (TimedCall Unit)} {time : Nat}
    (htimely : Timely (4294967296 - mcSafetyGatewayTimeoutMs.toNat) (calls ++ [.check time])) :
    (watchdogCheck (watchdogRun calls) (clockAt time)).2 = true ↔ lastBeat () calls = none ∨
      ∃ t, lastBeat () calls = some t ∧ mcSafetyGatewayTimeoutMs.toNat ≤ time - t := by
  obtain ⟨hbefore, htime, hnear⟩ := Core.timely_snoc.mp htimely
  have halive := (tracks_watchdogRun hbefore).check_iff (by decide) htime hnear
    (Core.callClock_lastCheck_le hbefore)
  rw [(watchdogCheck_online_iff _ _).2.1, halive, Alive]
  cases lastBeat () calls with
  | none => simp
  | some t => simp

/-! ### Both monitors -/

/-- For distinct registrations within the capacity and calls at non-decreasing real times from
zero, with checks closer together than one turn of the counter less the longest timeout: every
check of the heartbeat monitor is exact in real time, and so is every check of the watchdog. -/
theorem timeouts_exact_across_wrap {regs : List (UInt8 × UInt32)}
    (hnodup : (regs.map Prod.fst).Nodup) (hlen : regs.length ≤ hmMaxNodes)
    {calls : List (TimedCall UInt8)} (hcalls : Timely (2 ^ 32 - maxTimeout regs) calls)
    {wdCalls : List (TimedCall Unit)} (hwdCalls : Timely (2 ^ 32 - 250) wdCalls) :
    (∀ before time after, calls = before ++ .check time :: after →
      MonitorExact regs before time) ∧
    (∀ before time after, wdCalls = before ++ .check time :: after →
      ((watchdogCheck (watchdogRun before) (clockAt time)).2 = true ↔
        lastBeat () before = none ∨ ∃ t, lastBeat () before = some t ∧ 250 ≤ time - t)) := by
  constructor
  · rintro before time after rfl
    rw [List.append_cons] at hcalls
    exact monitorExact_of_timely hnodup hlen hcalls.of_append
  · rintro before time after rfl
    rw [List.append_cons] at hwdCalls
    exact watchdogCheck_of_timely hwdCalls.of_append

/-- Two nodes over the first wrap: both beat before it and one of them behind it. -/
def wrappingCalls : List (TimedCall UInt8) :=
  [.beat 3 100, .check 1000, .beat 2 4294967100, .beat 3 4294967100, .check 4294967200,
    .beat 3 4294967400, .check 4294967600]

/-- The gateway beats before the first wrap and is checked behind it. -/
def wrappingGateway : List (TimedCall Unit) :=
  [.beat () 100, .check 4294967000, .beat () 4294967200, .check 4294967300]

theorem timeouts_exact_over_first_wrap :
    MonitorExact [(2, 300), (3, 300)] (wrappingCalls.take 6) 4294967600 ∧
      ((watchdogCheck (watchdogRun (wrappingGateway.take 3)) (clockAt 4294967300)).2 = true ↔
        lastBeat () (wrappingGateway.take 3) = none ∨
          ∃ t, lastBeat () (wrappingGateway.take 3) = some t ∧ 250 ≤ 4294967300 - t) := by
  have hcalls : Timely (2 ^ 32 - maxTimeout [(2, 300), (3, 300)]) wrappingCalls := by
    simp [Timely, wrappingCalls, maxTimeout, Core.CallClock.Allows, Core.CallClock.advance]
  have hgateway : Timely (2 ^ 32 - 250) wrappingGateway := by
    simp [Timely, wrappingGateway, Core.CallClock.Allows, Core.CallClock.advance]
  have hexact := timeouts_exact_across_wrap (by decide) (by decide) hcalls hgateway
  exact ⟨hexact.1 _ 4294967600 [] rfl, hexact.2 _ 4294967300 [] rfl⟩

end Microcar.Vehicle
