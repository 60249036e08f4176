import Microcar.Gateway.Interleaving
import Microcar.Gateway.Nodes

/-!
# Heartbeats through the queue

The receive task queues the heartbeats and the loop applies them when it wakes up. The queue
has sixteen slots and a heartbeat that finds it full is lost without notice, so that other
traffic can take the BMS offline. The main result says that the BMS stays online in every
interleaving in which every 200 ms one of its heartbeats reaches the queue.
-/

namespace Microcar.Gateway

/-- The monitor and the queue are left alone. -/
structure MonitorKept (ctx ctx' : GatewayCtx) : Prop where
  /-- The monitor stays. -/
  hm : ctx'.hm = ctx.hm
  /-- The queue stays. -/
  hbQueue : ctx'.hbQueue = ctx.hbQueue

/-- A service keeps the monitor and the queue. -/
theorem monitorKept_diagService (ctx : GatewayCtx) (service : UInt8) (take : Bool) :
    MonitorKept ctx (diagService ctx service take).1 := by
  unfold diagService
  split_ifs
  · unfold startSession
    split_ifs <;> exact ⟨rfl, rfl⟩
  · exact ⟨rfl, rfl⟩
  · exact ⟨rfl, rfl⟩
  · exact ⟨rfl, rfl⟩
  · rw [clearDtcs_eq]
    split_ifs <;> exact ⟨rfl, rfl⟩
  all_goals exact ⟨rfl, rfl⟩

/-- Whatever a script does, it keeps the monitor and the queue. -/
theorem monitorKept_scriptRule : ScriptRule MonitorKept where
  writes h := ⟨h.hm, h.hbQueue⟩
  trans h h' := ⟨h'.hm.trans h.hm, h'.hbQueue.trans h.hbQueue⟩
  request c frame take := by
    by_cases hlen : frame.len < mcDiagRequestMsgSize
    · rw [handleDiagRequest, if_pos hlen]
      exact ⟨rfl, rfl⟩
    · obtain ⟨out, heq⟩ := handleDiagRequest_eq (UInt8.not_lt.mp hlen) c take
      have hkept := monitorKept_diagService c (frame.data.get 1) take
      rw [heq]
      exact ⟨hkept.hm, hkept.hbQueue⟩
  fault c take := by
    unfold synthBmsFault handleBmsFault reportFault
    dsimp only
    split_ifs <;> exact ⟨rfl, rfl⟩
  warning c take := by
    unfold reportFault
    split_ifs <;> exact ⟨rfl, rfl⟩

/-- The monitor behind a step: the wake-up applies the queue, and two phases check it. -/
def monitorAfter (ctx : GatewayCtx) : GatewayOp → HeartbeatMonitor
  | .dequeue nowMs => beatAll ctx.hm ctx.hbQueue.entries nowMs
  | .process nowMs _ => (heartbeatMonitorCheck ctx.hm nowMs).1
  | .updateMode nowMs _ => (heartbeatMonitorCheck ctx.hm nowMs).1
  | _ => ctx.hm

/-- The queue behind a step: a received heartbeat is pushed, and the wake-up empties it. -/
def queueAfter (ctx : GatewayCtx) : GatewayOp → Core.Table HbEvent hbQueueLength
  | .frame f _ =>
    if f.id = mcMsgHeartbeat then ctx.hbQueue.push (hbEventOf f.toMcCanFrame) else ctx.hbQueue
  | .dequeue _ => .empty
  | _ => ctx.hbQueue

/-- A received frame is queued exactly when it is a heartbeat. -/
theorem FrameMove.monitor_eq {ctx ctx' : GatewayCtx} {f : RxFrame} {take : Bool}
    (h : FrameMove ctx f.toMcCanFrame take ctx') :
    ctx'.hm = ctx.hm ∧ ctx'.hbQueue = queueAfter ctx (.frame f take) := by
  have hother : f.id ≠ mcMsgHeartbeat → ctx.hbQueue = queueAfter ctx (.frame f take) :=
    fun hbeat => (if_neg hbeat).symm
  cases h with
  | beat hid => exact ⟨rfl, (if_pos hid).symm⟩
  | fault hid =>
    refine ⟨rfl, hother ?_⟩
    rw [hid]
    decide
  | opened hservice | closed hservice | cleared hservice | answered hservice =>
    refine ⟨rfl, hother ?_⟩
    rw [(diagServiceOf_eq_some_iff.mp hservice).1.1]
    decide
  | ignored hbeat => exact ⟨rfl, hother hbeat⟩

/-- Every step that runs no script arrives at the described monitor and queue. -/
theorem GatewayMove.monitor_eq {ctx ctx' : GatewayCtx} {op : GatewayOp}
    (h : GatewayMove ctx op ctx') :
    ctx'.hm = monitorAfter ctx op ∧ ctx'.hbQueue = queueAfter ctx op := by
  cases h with
  | frame hframe => exact hframe.monitor_eq
  | passive hop _ =>
    cases op with
    | enterDrive | aggregate | scripts | notify | readOldMode | heartbeat | readMode
    | readFaultCd | sendMode => exact ⟨rfl, rfl⟩
    | frame | dequeue | process | updateMode => exact absurd hop Bool.false_ne_true
  | drive | beats | process | update => exact ⟨rfl, rfl⟩

/-- Whatever the flags, every step arrives at the described monitor and queue. -/
theorem gatewayStep_monitor (ctx : GatewayCtx) (op : GatewayOp) :
    (gatewayStep ctx op).hm = monitorAfter ctx op ∧
      (gatewayStep ctx op).hbQueue = queueAfter ctx op := by
  by_cases hscripts : ∃ take, op = .scripts take
  · obtain ⟨take, rfl⟩ := hscripts
    have hkept := monitorKept_scriptRule.scripts ctx take
    exact ⟨hkept.hm, hkept.hbQueue⟩
  · have hmove : GatewayMove ctx op (gatewayStep ctx op) :=
      gatewayStep_move fun take hop => absurd ⟨take, hop⟩ hscripts
    exact hmove.monitor_eq

/-- What a scheduled step does to the monitor, the queue and the time of the loop. -/
inductive MonitorStep (s : TaskState) (e : TaskEvent) (s' : TaskState) : Prop
  | receive {f : RxFrame} {take : Bool} (hchoice : e.choice = .rx f take)
      (hm : s'.ctx.hm = s.ctx.hm) (hqueue : s'.ctx.hbQueue = queueAfter s.ctx (.frame f take))
      (hnow : s'.now = s.now)
  | wake (hrx : ∀ f take, e.choice ≠ .rx f take)
      (hm : s'.ctx.hm = beatAll s.ctx.hm s.ctx.hbQueue.entries (UInt32.ofNat e.time))
      (hqueue : s'.ctx.hbQueue = .empty) (hnow : s'.now = e.time)
  | check (hrx : ∀ f take, e.choice ≠ .rx f take)
      (hm : s'.ctx.hm = (heartbeatMonitorCheck s.ctx.hm (UInt32.ofNat s.now)).1)
      (hqueue : s'.ctx.hbQueue = s.ctx.hbQueue) (hnow : s'.now = s.now)
  | idle (hrx : ∀ f take, e.choice ≠ .rx f take) (hm : s'.ctx.hm = s.ctx.hm)
      (hqueue : s'.ctx.hbQueue = s.ctx.hbQueue) (hnow : s'.now = s.now)

/-- Every scheduled step makes one of the four. -/
theorem taskStep_monitor (s : TaskState) (e : TaskEvent) : MonitorStep s e (taskStep s e) := by
  obtain ⟨hm, hqueue⟩ := gatewayStep_monitor s.ctx (taskOp s e)
  obtain ⟨ctx, phase, now⟩ := s
  obtain ⟨time, choice⟩ := e
  cases choice with
  | rx f take => exact .receive rfl hm hqueue rfl
  | aggregate take => exact .idle (fun _ _ h => nomatch h) hm hqueue rfl
  | loop take =>
    cases phase with
    | dequeue => exact .wake (fun _ _ h => nomatch h) hm hqueue rfl
    | process | updateMode => exact .check (fun _ _ h => nomatch h) hm hqueue rfl
    | scripts | notify | readOldMode | heartbeat | readMode | readFaultCd | sendMode =>
      exact .idle (fun _ _ h => nomatch h) hm hqueue rfl

/-- A heartbeat of the BMS waits in the queue. -/
def BmsQueued (ctx : GatewayCtx) : Prop := ∃ ev ∈ ctx.hbQueue.entries, ev.sender = mcNodeBms

/-- The receive task dispatches a heartbeat of the BMS. -/
def TaskEvent.IsBmsHeartbeat (e : TaskEvent) : Prop :=
  ∃ f take, e.choice = .rx f take ∧ f.id = mcMsgHeartbeat ∧ f.sender = mcNodeBms

/-- A heartbeat of the BMS is dispatched and finds a free slot, or another one of the BMS
waiting. -/
def KeepsBms (s : TaskState) (e : TaskEvent) : Prop :=
  e.IsBmsHeartbeat ∧ (s.ctx.hbQueue.isFull = false ∨ BmsQueued s.ctx)

/-- The step does not take the BMS offline. -/
def BmsStaysOnline (s : TaskState) (e : TaskEvent) : Prop :=
  heartbeatMonitorIsOnline s.ctx.hm mcNodeBms = true →
    heartbeatMonitorIsOnline (taskStep s e).ctx.hm mcNodeBms = true

/-- Every window of 200 ms that the history covers holds an event with the property, given
the events before it. -/
def InEveryWindow (P : List TaskEvent → TaskEvent → Prop) (evs : List TaskEvent) : Prop :=
  ∀ start, (∃ e ∈ evs, start + 200 ≤ e.time) →
    ∃ before e after, evs = before ++ e :: after ∧ P before e ∧ start ≤ e.time ∧
      e.time ≤ start + 200

/-- What waits in the queue stays in an untouched queue. -/
theorem BmsQueued.kept {ctx ctx' : GatewayCtx} (h : BmsQueued ctx)
    (hqueue : ctx'.hbQueue = ctx.hbQueue) : BmsQueued ctx' := by
  rw [BmsQueued, hqueue]
  exact h

/-- What waits in the queue stays there when a frame is received. -/
theorem BmsQueued.receive {ctx ctx' : GatewayCtx} (h : BmsQueued ctx) {f : RxFrame} {take : Bool}
    (hqueue : ctx'.hbQueue = queueAfter ctx (.frame f take)) : BmsQueued ctx' := by
  obtain ⟨ev, hev, hsender⟩ := h
  refine ⟨ev, ?_, hsender⟩
  rw [hqueue, queueAfter]
  split_ifs
  · rw [Core.Table.entries_push]
    split_ifs
    · exact hev
    · exact List.mem_append_left _ hev
  · exact hev

/-- Behind a kept heartbeat one of the BMS waits in the queue. -/
theorem KeepsBms.queued {s : TaskState} {e : TaskEvent} (h : KeepsBms s e) {f : RxFrame}
    {take : Bool} (hchoice : e.choice = .rx f take) {ctx' : GatewayCtx}
    (hqueue : ctx'.hbQueue = queueAfter s.ctx (.frame f take)) : BmsQueued ctx' := by
  obtain ⟨⟨f', take', hchoice', hid, hsender⟩, hroom⟩ := h
  obtain ⟨rfl, -⟩ := TaskChoice.rx.inj (hchoice.symm.trans hchoice')
  rcases hroom with hfree | hqueued
  · refine ⟨hbEventOf f.toMcCanFrame, ?_, hsender⟩
    rw [hqueue, queueAfter, if_pos hid, Core.Table.entries_push, hfree]
    simp
  · exact hqueued.receive hqueue

/-- A step of another task keeps no heartbeat. -/
theorem not_keepsBms {s : TaskState} {e : TaskEvent} (h : ∀ f take, e.choice ≠ .rx f take) :
    ¬ KeepsBms s e := by
  rintro ⟨⟨f, take, hchoice, -⟩, -⟩
  exact h f take hchoice

/-- The last beat of an online BMS was applied at the given time, and every heartbeat kept
before is not younger or still waits in the queue. -/
structure BeatAt (cfg : GatewayConfig) (evs : List TaskEvent) (s : TaskState) (n : HmNode)
    (time : Nat) : Prop where
  /-- The monitor holds the 32-bit time. -/
  stored : n.lastBeatMs = UInt32.ofNat time
  /-- The loop has applied it. -/
  applied : time ≤ s.now
  /-- No kept heartbeat is forgotten. -/
  accounts : ∀ before e after, evs = before ++ e :: after →
    KeepsBms (Core.run taskStep (taskBoot cfg) before) e →
      e.time ≤ time ∨ (BmsQueued s.ctx ∧ s.now ≤ e.time)

/-- What a history in order of time says about the state behind it. -/
structure BeatsAccounted (cfg : GatewayConfig) (evs : List TaskEvent) (s : TaskState) : Prop where
  /-- The history leads to the state. -/
  reached : s = Core.run taskStep (taskBoot cfg) evs
  /-- The monitored nodes are the registered ones. -/
  registered : s.ctx.hm.Registers monitoredNodes
  /-- The loop is not ahead of the history. -/
  clock : ∀ time, (∀ e ∈ evs, e.time ≤ time) → s.now ≤ time
  /-- The beats of an online BMS are accounted for. -/
  beat : ∀ n, s.ctx.hm.node? mcNodeBms = some n → n.online = true → ∃ time, BeatAt cfg evs s n time

/-- A check that leaves a node online leaves it as it is. -/
theorem HmNode.check_eq_self {nowMs : UInt32} {n : HmNode} (h : (n.check nowMs).online = true) :
    n.check nowMs = n := by
  rw [HmNode.check_online, Bool.and_eq_true, Bool.not_eq_true'] at h
  rw [HmNode.check, h.2]
  exact if_neg Bool.false_ne_true

/-- A step that does not wake the loop up keeps the beats accounted for, if it brings no node
online and a kept heartbeat goes into the queue. -/
theorem BeatsAccounted.keep {cfg : GatewayConfig} {evs : List TaskEvent} {s s' : TaskState}
    {e : TaskEvent} (h : BeatsAccounted cfg evs s) (hlate : ∀ x ∈ evs, x.time ≤ e.time)
    (hnow : s'.now = s.now) (hqueued : BmsQueued s.ctx → BmsQueued s'.ctx)
    (hkept : KeepsBms s e → BmsQueued s'.ctx) {n : HmNode}
    (hn : s.ctx.hm.node? mcNodeBms = some n) (honline : n.online = true) :
    ∃ time, BeatAt cfg (evs ++ [e]) s' n time := by
  obtain ⟨time, hbeat⟩ := h.beat n hn honline
  refine ⟨time, hbeat.stored, ?_, ?_⟩
  · rw [hnow]
    exact hbeat.applied
  · rw [hnow]
    refine Core.forall_cut_snoc_iff.mpr ⟨?_, ?_⟩
    · intro before x after hsplit hx
      rcases hbeat.accounts before x after hsplit hx with hle | ⟨hwaits, hyounger⟩
      · exact .inl hle
      · exact .inr ⟨hqueued hwaits, hyounger⟩
    · rw [← h.reached]
      intro he
      exact .inr ⟨hkept he, h.clock e.time hlate⟩

/-- The wake-up applies a waiting heartbeat of the BMS, and otherwise finds its beat
accounted for. -/
theorem BeatsAccounted.wake {cfg : GatewayConfig} {evs : List TaskEvent} {s s' : TaskState}
    {e : TaskEvent} (h : BeatsAccounted cfg evs s) (hlate : ∀ x ∈ evs, x.time ≤ e.time)
    (hrx : ∀ f take, e.choice ≠ .rx f take)
    (hm : s'.ctx.hm = beatAll s.ctx.hm s.ctx.hbQueue.entries (UInt32.ofNat e.time))
    (hnow : s'.now = e.time) {n : HmNode} (hn : s'.ctx.hm.node? mcNodeBms = some n)
    (honline : n.online = true) : ∃ time, BeatAt cfg (evs ++ [e]) s' n time := by
  rw [hm, node?_beatAll] at hn
  by_cases hqueued : ∃ ev ∈ s.ctx.hbQueue.entries, ev.sender = mcNodeBms
  · rw [if_pos hqueued] at hn
    obtain ⟨b, -, rfl⟩ := Option.map_eq_some_iff.mp hn
    refine ⟨e.time, rfl, hnow.ge, ?_⟩
    refine Core.forall_cut_snoc_iff.mpr ⟨?_, ?_⟩
    · rintro before x after rfl -
      exact .inl (hlate x (by simp))
    · intro hkept
      exact absurd hkept (not_keepsBms hrx)
  · rw [if_neg hqueued] at hn
    obtain ⟨time, hbeat⟩ := h.beat n hn honline
    refine ⟨time, hbeat.stored, ?_, ?_⟩
    · rw [hnow]
      exact hbeat.applied.trans (h.clock e.time hlate)
    · refine Core.forall_cut_snoc_iff.mpr ⟨?_, ?_⟩
      · intro before x after hsplit hx
        rcases hbeat.accounts before x after hsplit hx with hle | ⟨hwaits, -⟩
        · exact .inl hle
        · exact absurd hwaits hqueued
      · intro hkept
        exact absurd hkept (not_keepsBms hrx)

/-- Every step in order of time keeps the account. -/
theorem BeatsAccounted.step {cfg : GatewayConfig} {evs : List TaskEvent} {s : TaskState}
    (h : BeatsAccounted cfg evs s) {e : TaskEvent} (hlate : ∀ x ∈ evs, x.time ≤ e.time) :
    BeatsAccounted cfg (evs ++ [e]) (taskStep s e) := by
  have hmove := taskStep_monitor s e
  have hreached : taskStep s e = Core.run taskStep (taskBoot cfg) (evs ++ [e]) := by
    rw [Core.run_snoc, ← h.reached]
  generalize taskStep s e = s' at hmove hreached ⊢
  have hclock : s'.now = s.now → ∀ time, (∀ x ∈ evs ++ [e], x.time ≤ time) → s'.now ≤ time := by
    intro hsame time hall
    rw [hsame]
    exact h.clock time fun x hx => hall x (List.mem_append_left _ hx)
  cases hmove with
  | receive hchoice hm hqueue hsame =>
    refine ⟨hreached, hm ▸ h.registered, hclock hsame, ?_⟩
    rw [hm]
    intro n hn honline
    exact h.keep hlate hsame (fun hq => hq.receive hqueue)
      (fun hkept => hkept.queued hchoice hqueue) hn honline
  | wake hrx hm hqueue hwoken =>
    refine ⟨hreached, ?_, ?_, fun n hn => h.wake hlate hrx hm hwoken hn⟩
    · rw [hm]
      exact registers_beatAll h.registered _ _
    · intro time hall
      rw [hwoken]
      exact hall e (by simp)
  | check hrx hm hqueue hsame =>
    refine ⟨hreached, ?_, hclock hsame, ?_⟩
    · rw [hm]
      exact h.registered.check _
    · rw [hm, node?_check]
      intro n hn honline
      obtain ⟨b, hb, rfl⟩ := Option.map_eq_some_iff.mp hn
      have hself := HmNode.check_eq_self honline
      rw [hself] at honline ⊢
      exact h.keep hlate hsame (fun hq => hq.kept hqueue)
        (fun hkept => absurd hkept (not_keepsBms hrx)) hb honline
  | idle hrx hm hqueue hsame =>
    refine ⟨hreached, hm ▸ h.registered, hclock hsame, ?_⟩
    rw [hm]
    intro n hn honline
    exact h.keep hlate hsame (fun hq => hq.kept hqueue)
      (fun hkept => absurd hkept (not_keepsBms hrx)) hn honline

/-- Every history in order of time accounts for the beats. -/
theorem beatsAccounted_run (cfg : GatewayConfig) {evs : List TaskEvent}
    (hsorted : evs.Pairwise fun x y => x.time ≤ y.time) :
    BeatsAccounted cfg evs (Core.run taskStep (taskBoot cfg) evs) := by
  refine Core.run_history_invariant (R := fun evs s =>
    evs.Pairwise (fun x y => x.time ≤ y.time) → BeatsAccounted cfg evs s) ?_ ?_ evs hsorted
  · intro _
    refine ⟨rfl, rfl, fun time _ => Nat.zero_le time, ?_⟩
    intro n hn honline
    obtain rfl : _ = n := Option.some.inj hn
    exact absurd honline Bool.false_ne_true
  · intro evs s e h hsorted
    obtain ⟨hevs, -, hlate⟩ := List.pairwise_append.mp hsorted
    exact (h hevs).step fun x hx => hlate x hx e (by simp)

/-- A beat less than 300 ms old does not expire. -/
theorem BeatAt.not_expires {cfg : GatewayConfig} {evs : List TaskEvent} {s : TaskState} {n : HmNode}
    {time : Nat} (h : BeatAt cfg evs s n time)
    (htimeout : n.timeoutMs = mcSafetyBmsHeartbeatTimeoutMs) (hyoung : s.now < time + 300) :
    n.expires (UInt32.ofNat s.now) = false := by
  have hfits : s.now - time < 2 ^ 32 := by omega
  have helapsed : (UInt32.ofNat s.now - n.lastBeatMs).toNat = s.now - time := by
    rw [h.stored, ← UInt32.ofNat_sub h.applied]
    exact UInt32.toNat_ofNat_of_lt' hfits
  have hlt : ¬ n.timeoutMs ≤ UInt32.ofNat s.now - n.lastBeatMs := by
    rw [UInt32.le_iff_toNat_le, helapsed, htimeout]
    change ¬ 300 ≤ s.now - time
    omega
  rw [HmNode.expires, decide_eq_false hlt, Bool.and_false]

/-- At a check, the beat of an online BMS is less than 300 ms old if one of its heartbeats
reaches the queue in every window. -/
theorem BeatAt.young {cfg : GatewayConfig} {before after : List TaskEvent} {e : TaskEvent}
    {s : TaskState} {n : HmNode} {time : Nat} (h : BeatAt cfg before s n time)
    (hlate : s.now ≤ e.time) (hsorted : (before ++ e :: after).Pairwise fun x y => x.time ≤ y.time)
    (hkept : InEveryWindow (fun past x => KeepsBms (Core.run taskStep (taskBoot cfg) past) x)
      (before ++ e :: after)) : s.now < time + 300 := by
  by_cases hearly : s.now ≤ 200
  · omega
  have hcovered : ∃ x ∈ before ++ e :: after, s.now - 201 + 200 ≤ x.time :=
    ⟨e, by simp, by omega⟩
  obtain ⟨past, x, rest, hsplit, hx, hstart, hend⟩ := hkept (s.now - 201) hcovered
  have hbehind : ∀ y ∈ after, e.time ≤ y.time :=
    (List.pairwise_cons.mp (List.pairwise_append.mp hsorted).2.1).1
  rcases Core.cut_cases hsplit with ⟨mid, hbefore⟩ | ⟨-, rfl⟩ | ⟨mid, hafter⟩
  · rcases h.accounts past x mid hbefore hx with hle | ⟨-, hwaits⟩
    · omega
    · omega
  · omega
  · have hx_late : e.time ≤ x.time := hbehind x (by simp [hafter])
    omega

/-- In every interleaving of the gateway tasks in which every 200 ms a heartbeat of the BMS
reaches the queue, no check takes the BMS offline. -/
theorem taskRun_bms_stays_online {cfg : GatewayConfig} {evs : List TaskEvent}
    (hsorted : evs.Pairwise fun x y => x.time ≤ y.time)
    (hkept : InEveryWindow (fun past x => KeepsBms (Core.run taskStep (taskBoot cfg) past) x) evs) :
    Core.StepsMeet taskStep BmsStaysOnline (taskBoot cfg) evs := by
  rw [Core.stepsMeet_iff]
  rintro before e after rfl
  have hbefore := (List.pairwise_append.mp hsorted).1
  have haccount := beatsAccounted_run cfg hbefore
  generalize Core.run taskStep (taskBoot cfg) before = s at haccount ⊢
  have hlate : s.now ≤ e.time := haccount.clock e.time fun x hx =>
    (List.pairwise_append.mp hsorted).2.2 x hx e (by simp)
  have hmove := taskStep_monitor s e
  intro honline
  generalize taskStep s e = s' at hmove ⊢
  obtain ⟨n, hn, hup⟩ := (heartbeatMonitorIsOnline_iff _ _).mp honline
  cases hmove with
  | receive _ hm | idle _ hm =>
    rw [hm]
    exact honline
  | wake _ hm =>
    rw [hm, heartbeatMonitorIsOnline_iff, node?_beatAll, hn]
    split_ifs
    · exact ⟨_, rfl, rfl⟩
    · exact ⟨n, rfl, hup⟩
  | check _ hm =>
    rw [hm, isOnline_check_iff]
    obtain ⟨time, hbeat⟩ := haccount.beat n hn hup
    have hyoung := hbeat.young hlate hsorted hkept
    exact ⟨n, hn, hup, hbeat.not_expires (haccount.registered.timeout hn) hyoung⟩

/-- One event within the first 200 ms serves a history that ends at most 200 ms later. -/
theorem inEveryWindow_of_cut {P : List TaskEvent → TaskEvent → Prop}
    {evs before after : List TaskEvent} {e : TaskEvent} (hsplit : evs = before ++ e :: after)
    (he : P before e) (hfirst : e.time ≤ 200) (hlast : ∀ x ∈ evs, x.time ≤ e.time + 200) :
    InEveryWindow P evs := by
  rintro start ⟨x, hx, hcovered⟩
  have hend := hlast x hx
  exact ⟨before, e, after, hsplit, he, by omega, by omega⟩

/-- The BMS beats at 10 ms and at 110 ms, and the loop runs behind each beat and at 310 ms. -/
def steadyRun : List TaskEvent :=
  (⟨10, .rx (heartbeatOf mcNodeBms) true⟩ :: iterationEvents 10) ++
    ⟨110, .rx (heartbeatOf mcNodeBms) true⟩ :: (iterationEvents 110 ++ iterationEvents 310)

/-- The BMS stays online in the steady run. -/
theorem taskRun_bms_stays_online_steadyRun :
    steadyRun.Pairwise (fun x y => x.time ≤ y.time) ∧
      Core.StepsMeet taskStep BmsStaysOnline (taskBoot .off) steadyRun := by
  have hsorted : steadyRun.Pairwise fun x y => x.time ≤ y.time := by decide +kernel
  refine ⟨hsorted, taskRun_bms_stays_online hsorted ?_⟩
  refine inEveryWindow_of_cut rfl ?_ (by decide) (by decide +kernel)
  refine ⟨⟨heartbeatOf mcNodeBms, true, rfl, rfl, rfl⟩, .inl ?_⟩
  decide +kernel

/-- Iterations every 10 ms. -/
def iterationsFrom (time count : Nat) : List TaskEvent :=
  (List.range count).flatMap fun k => iterationEvents (time + 10 * k)

/-- Sixteen heartbeats of the powertrain and one of the BMS behind them. -/
def crowdedBeat (time : Nat) : List TaskEvent :=
  List.replicate 16 ⟨time, .rx (heartbeatOf mcNodePowertrain) true⟩ ++
    [⟨time, .rx (heartbeatOf mcNodeBms) true⟩]

/-- The BMS beats every 100 ms from 10 ms on, and all its heartbeats but the first come behind
a crowd; the history ends before the check at 310 ms. -/
def crowdedRun : List TaskEvent :=
  ⟨10, .rx (heartbeatOf mcNodeBms) true⟩ :: iterationsFrom 10 10 ++
    (crowdedBeat 110 ++ iterationsFrom 110 10) ++ (crowdedBeat 210 ++ iterationsFrom 210 10) ++
    List.replicate 3 ⟨310, .loop true⟩

/-- The check at 310 ms takes the BMS offline although one of its heartbeats is dispatched in
every window. -/
theorem bms_lost_in_crowd :
    ¬ ∀ evs : List TaskEvent, evs.Pairwise (fun x y => x.time ≤ y.time) →
      InEveryWindow (fun _ e => e.IsBmsHeartbeat) evs →
        Core.StepsMeet taskStep BmsStaysOnline (taskBoot .off) evs := by
  intro hall
  let check : TaskEvent := ⟨310, .loop true⟩
  have hsorted : (crowdedRun ++ [check]).Pairwise fun x y => x.time ≤ y.time := by
    decide +kernel
  have hmem : (⟨110, .rx (heartbeatOf mcNodeBms) true⟩ : TaskEvent) ∈ crowdedRun ++ [check] := by
    decide +kernel
  obtain ⟨before, after, hsplit⟩ := List.append_of_mem hmem
  have hheard : InEveryWindow (fun _ e => e.IsBmsHeartbeat) (crowdedRun ++ [check]) :=
    inEveryWindow_of_cut hsplit ⟨heartbeatOf mcNodeBms, true, rfl, rfl, rfl⟩ (by decide)
      (by decide +kernel)
  have hcheck := Core.stepsMeet_iff.mp (hall _ hsorted hheard) crowdedRun check [] rfl
  have hoffline := hcheck (by decide +kernel)
  exact absurd hoffline (by decide +kernel)

end Microcar.Gateway
