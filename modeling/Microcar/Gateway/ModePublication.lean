import Microcar.Gateway.CriticalFault
import Microcar.Gateway.Interleaving

/-!
# The vehicle mode on the bus

The loop publishes the mode when its own update changed it, and every 50 ms. A session
request handled by the receive task changes the mode as well, and the loop misses the change
where it comes before the mode is read for the comparison, or behind the reading of the mode
that is sent. The main result says which interleavings end every iteration with the current
mode published.
-/

namespace Microcar.Gateway

/-- The mode byte of the last vehicle mode frame sent. -/
def publishedMode (ctx : GatewayCtx) : Option UInt8 :=
  (framesOf mcMsgVehicleMode ctx.out).getLast?.map fun f => f.data.get 0

/-- Silent steps publish no mode. -/
theorem publishedMode_of_silent {ctx ctx' : GatewayCtx} (h : Silent mcMsgVehicleMode ctx ctx') :
    publishedMode ctx' = publishedMode ctx := by
  obtain ⟨new, hout, hnew⟩ := h
  rw [publishedMode, hout, framesOf_append, hnew, List.append_nil]
  rfl

/-- The last step of an iteration publishes the mode that was read. -/
theorem publishedMode_sendMode (ctx : GatewayCtx) :
    publishedMode (gatewayStep ctx .sendMode) =
      (ctx.modeRead.map McVehicleMode.toByte).or (publishedMode ctx) := by
  rw [publishedMode, framesOf_sendMode]
  cases ctx.modeRead with
  | none =>
    rw [Option.toList_none, List.map_nil, List.append_nil]
    rfl
  | some mode =>
    rw [Option.toList_some, List.map_singleton, List.getLast?_append, List.getLast?_singleton,
      Option.some_or, Option.map_some, sendVehicleMode_data]
    rfl

/-- It leaves the mode alone. -/
theorem mode_sendMode (ctx : GatewayCtx) :
    (gatewayStep ctx .sendMode).gs.mode = ctx.gs.mode := by
  obtain ⟨out, heq⟩ := sendMode_eq ctx
  rw [gatewayStep, heq]

/-- At the end of an iteration the mode published last is the current one, if any was
published yet. -/
def ModePublished (s : TaskState) (e : TaskEvent) : Prop :=
  endsIteration s e = true → ∀ b, publishedMode (taskStep s e).ctx = some b →
    b = (taskStep s e).ctx.gs.mode.toByte

/-- The gateway with a note whether a change of the mode is pending that the loop has missed. -/
structure ModeWatch where
  /-- The gateway. -/
  state : TaskState
  /-- A missed change is pending. -/
  missed : Bool

/-- The step changes the mode and is not the mode update of the loop. -/
def changesModeOutsideUpdate (s : TaskState) (e : TaskEvent) : Bool :=
  !(taskOp s e).isUpdate && decide ((taskStep s e).ctx.gs.mode ≠ s.ctx.gs.mode)

/-- The loop misses a change that another step makes here. It compares the mode behind its update
with the one read before, and sends the one it reads after a difference. -/
def missesChange (s : TaskState) : Bool :=
  match s.phase with
  | .updateMode => false
  | .heartbeat | .readMode => decide (s.ctx.gs.mode = s.ctx.oldMode)
  | _ => true

/-- A mode update leaves the mode it read before: it finds a critical fault under the mutex, or
SERVICE with the session closed again. -/
def leavesOldMode (ctx : GatewayCtx) (take : Bool) : Bool :=
  (take && faultManagerHasCritical ctx.fm && decide (ctx.oldMode ≠ .fault)) ||
    (!ctx.diagSessionActive && decide (ctx.oldMode = .service ∧ ctx.gs.mode = .service))

/-- The step makes up for a missed change: the update leaves the mode it read before, or the mode
is read for a periodic frame. -/
def makesUp (s : TaskState) (e : TaskEvent) : Bool :=
  match taskOp s e with
  | .updateMode _ take => leavesOldMode s.ctx take
  | .readMode nowMs => decide (nowMs % 50 = 0)
  | _ => false

/-- The gateway step with the missed changes noted; the note is taken back at the end of an
iteration. -/
def watchStep (w : ModeWatch) (e : TaskEvent) : ModeWatch where
  state := taskStep w.state e
  missed := !endsIteration w.state e && !makesUp w.state e &&
    (w.missed || changesModeOutsideUpdate w.state e && missesChange w.state)

/-- An iteration ends without a missed change, or before the first publication. -/
def PublicationCovered (w : ModeWatch) (e : TaskEvent) : Prop :=
  endsIteration w.state e = true → publishedMode (taskStep w.state e).ctx ≠ none →
    w.missed = false

/-- Behind a step inside an iteration that makes up for nothing, no change is missed if none was
before and the loop misses none made by the step. -/
theorem watchStep_missed {w : ModeWatch} {e : TaskEvent} (hends : endsIteration w.state e = false)
    (hmakes : makesUp w.state e = false) :
    (watchStep w e).missed = false ↔ w.missed = false ∧
      (changesModeOutsideUpdate w.state e = true → missesChange w.state = false) := by
  rw [watchStep, hends, hmakes, Bool.not_false, Bool.true_and, Bool.true_and,
    Bool.or_eq_false_iff, Bool.and_eq_false_imp]

/-- A step other than the mode update that changes nothing outside of it keeps the mode. -/
theorem mode_eq_of_not_changes {s : TaskState} {e : TaskEvent}
    (hupdate : (taskOp s e).isUpdate = false)
    (h : changesModeOutsideUpdate s e ≠ true) : (taskStep s e).ctx.gs.mode = s.ctx.gs.mode := by
  simpa [changesModeOutsideUpdate, hupdate] using h

/-- The receive task and the aggregator leave the locals of the loop alone. -/
theorem locals_taskStep {s : TaskState} {e : TaskEvent} (h : ∀ take, e.choice ≠ .loop take) :
    (taskStep s e).phase = s.phase ∧ (taskStep s e).ctx.oldMode = s.ctx.oldMode ∧
      (taskStep s e).ctx.modeChanged = s.ctx.modeChanged ∧
      (taskStep s e).ctx.modeRead = s.ctx.modeRead := by
  obtain ⟨hphase, hwrites⟩ : (taskStep s e).phase = s.phase ∧
      (taskOp s e).writesLocals = false := by
    obtain ⟨time, choice⟩ := e
    cases choice with
    | loop take => exact absurd rfl (h take)
    | rx | aggregate => exact ⟨rfl, rfl⟩
  have hlocals : (taskStep s e).ctx.locals = s.ctx.locals := locals_gatewayStep s.ctx hwrites
  rw [GatewayCtx.locals, GatewayCtx.locals, Prod.mk.injEq, Prod.mk.injEq, Prod.mk.injEq] at hlocals
  exact ⟨hphase, hlocals.1, hlocals.2.1, hlocals.2.2.1⟩

/-- They make up for nothing either. -/
theorem makesUp_otherTask {s : TaskState} {e : TaskEvent} (h : ∀ take, e.choice ≠ .loop take) :
    makesUp s e = false ∧ (taskOp s e).isUpdate = false := by
  obtain ⟨time, choice⟩ := e
  cases choice with
  | loop take => exact absurd rfl (h take)
  | rx | aggregate => exact ⟨rfl, rfl⟩

/-- A heartbeat that is due only extends the log. -/
theorem taskStep_heartbeat (ctx : GatewayCtx) (now time : Nat) (take : Bool) :
    ∃ out, taskStep ⟨ctx, .heartbeat, now⟩ ⟨time, .loop take⟩ =
      ⟨{ ctx with out := out }, .readMode, now⟩ := by
  obtain ⟨out, heq⟩ := heartbeatPhase_eq ctx (UInt32.ofNat now)
  exact ⟨out, congrArg (TaskState.mk · _ _) heq⟩

/-- The reading of the fault flag only writes the flag. -/
theorem taskStep_readFaultCd (ctx : GatewayCtx) (now time : Nat) (take : Bool) :
    ∃ faultCd, taskStep ⟨ctx, .readFaultCd, now⟩ ⟨time, .loop take⟩ =
      ⟨{ ctx with faultCd := faultCd }, .sendMode, now⟩ := by
  obtain ⟨faultCd, heq⟩ := readFaultCd_eq ctx take
  exact ⟨faultCd, congrArg (TaskState.mk · _ _) heq⟩

/-- A step inside an iteration publishes nothing. -/
theorem publishedMode_taskStep {s : TaskState} {e : TaskEvent} (h : endsIteration s e = false) :
    publishedMode (taskStep s e).ctx = publishedMode s.ctx :=
  publishedMode_of_silent (silent_of_ne_sendMode (taskOp_ne_sendMode h))

/-- A mode update that leaves the mode read before arrives at another one. -/
theorem updatedMode_ne_of_leaves {ctx : GatewayCtx} {take : Bool}
    (h : leavesOldMode ctx take = true) (nowMs : UInt32) :
    updatedMode ctx nowMs take ≠ ctx.oldMode := by
  unfold updatedMode
  rcases Bool.or_eq_true_iff.mp h with hcritical | hclosed
  · rw [Bool.and_eq_true, Bool.and_eq_true, decide_eq_true_eq] at hcritical
    rw [if_pos hcritical.1]
    exact hcritical.2.symm
  · rw [Bool.and_eq_true, Bool.not_eq_true', decide_eq_true_eq] at hclosed
    obtain ⟨hsession, hold, hmode⟩ := hclosed
    rw [hold, hmode]
    split_ifs with hcritical hopen
    · decide
    · exact absurd (hsession.symm.trans hopen) (by decide)
    · rw [mcGatewayDetermineMode_service]
      decide

/-- A mode update in SERVICE that does not leave it stays there. -/
theorem updatedMode_of_not_leaves {ctx : GatewayCtx} {take : Bool}
    (h : leavesOldMode ctx take = false) (hold : ctx.oldMode = .service)
    (hmode : ctx.gs.mode = .service) (nowMs : UInt32) : updatedMode ctx nowMs take = .service := by
  simp only [leavesOldMode, hold, hmode, and_self, decide_true, Bool.and_true,
    Bool.or_eq_false_iff, Bool.not_eq_false', ne_eq, reduceCtorEq, not_false_eq_true] at h
  rw [updatedMode, if_neg (by simpa using h.1), if_pos h.2]

/-! ### Covered iterations publish their mode -/

/-- The published mode is the current one; from the comparison with `old_mode` on it is the mode
that the comparison would restore, or the mode to send is read. -/
def Tracks (s : TaskState) : Prop :=
  match s.phase with
  | .updateMode => ∀ b ∈ publishedMode s.ctx, b = s.ctx.oldMode.toByte
  | .heartbeat | .readMode => s.ctx.modeChanged = true ∨
      (s.ctx.gs.mode = s.ctx.oldMode ∧ ∀ b ∈ publishedMode s.ctx, b = s.ctx.oldMode.toByte)
  | .readFaultCd | .sendMode =>
      (∀ mode ∈ s.ctx.modeRead, mode = s.ctx.gs.mode) ∧
        (s.ctx.modeRead = none → ∀ b ∈ publishedMode s.ctx, b = s.ctx.gs.mode.toByte)
  | _ => ∀ b ∈ publishedMode s.ctx, b = s.ctx.gs.mode.toByte

/-- Without a missed change the published mode is tracked. -/
def Tracked (w : ModeWatch) : Prop := w.missed = false → Tracks w.state

/-- A step of another task keeps track, unless the loop misses a change by it. -/
theorem Tracks.foreign {s : TaskState} (h : Tracks s) {e : TaskEvent}
    (hloop : ∀ take, e.choice ≠ .loop take) (hends : endsIteration s e = false)
    (hseen : (taskStep s e).ctx.gs.mode = s.ctx.gs.mode ∨ missesChange s = false) :
    Tracks (taskStep s e) := by
  obtain ⟨hphase, hold, hchanged, hread⟩ := locals_taskStep hloop
  have hpublished := publishedMode_taskStep hends
  unfold Tracks at h ⊢
  unfold missesChange at hseen
  rw [hphase, hold, hchanged, hread, hpublished]
  cases hp : s.phase with
  | updateMode =>
    rw [hp] at h
    exact h
  | heartbeat | readMode =>
    rw [hp] at h hseen
    rcases hseen with hmode | hmode
    · rw [hmode]
      exact h
    · exact .inl (h.resolve_right fun hsame => of_decide_eq_false hmode hsame.1)
  | _ =>
    rw [hp] at h hseen
    rw [hseen.resolve_right (by simp)]
    exact h

/-- A step of the loop inside an iteration keeps track if it finds the mode tracked or makes up
for what it missed. -/
theorem Tracks.loop {s : TaskState} {e : TaskEvent} (h : makesUp s e = false → Tracks s)
    {take : Bool} (hloop : e.choice = .loop take) (hends : endsIteration s e = false)
    (hseen : makesUp s e = false → (taskOp s e).isUpdate = false →
      (taskStep s e).ctx.gs.mode = s.ctx.gs.mode ∨ missesChange s = false) :
    Tracks (taskStep s e) := by
  have hpublished := publishedMode_taskStep hends
  obtain ⟨ctx, phase, now⟩ := s
  obtain ⟨time, choice⟩ := e
  cases hloop
  cases phase with
  | dequeue | scripts | notify | process =>
    have hmode := (hseen rfl rfl).resolve_right (by simp [missesChange])
    change ∀ b ∈ publishedMode _, b = McVehicleMode.toByte _
    rw [hpublished, hmode]
    exact h rfl
  | readOldMode => exact h rfl
  | updateMode =>
    have hchanged := modePhase_modeChanged ctx (UInt32.ofNat now) take
    have hmode := gatewayStep_updateMode ctx (UInt32.ofNat now) take
    by_cases hsame : updatedMode ctx (UInt32.ofNat now) take = ctx.oldMode
    · have hkept : leavesOldMode ctx take = false :=
        Bool.eq_false_iff.mpr fun hleaves => updatedMode_ne_of_leaves hleaves _ hsame
      obtain ⟨gs, changed, modeEvents, out, heq, -⟩ := modePhase_eq ctx (UInt32.ofNat now) take
      have hold : (modePhase ctx (UInt32.ofNat now) take).oldMode = ctx.oldMode := by rw [heq]
      refine .inr ⟨(hmode.trans hsame).trans hold.symm, ?_⟩
      change ∀ b ∈ publishedMode _, b = (modePhase ctx (UInt32.ofNat now) take).oldMode.toByte
      rw [hpublished, hold]
      exact h hkept
    · exact .inl (hchanged.trans (decide_eq_true hsame))
  | heartbeat =>
    obtain ⟨out, hafter⟩ := taskStep_heartbeat ctx now time take
    rw [hafter] at hpublished ⊢
    change ctx.modeChanged = true ∨ (ctx.gs.mode = ctx.oldMode ∧
      ∀ b ∈ publishedMode { ctx with out := out }, b = ctx.oldMode.toByte)
    rw [hpublished]
    exact h rfl
  | readMode =>
    change (∀ mode ∈ (if ctx.modeChanged = true ∨ UInt32.ofNat now % 50 = 0 then
        some ctx.gs.mode else none), mode = ctx.gs.mode) ∧
      ((if ctx.modeChanged = true ∨ UInt32.ofNat now % 50 = 0 then
        some ctx.gs.mode else none) = none → ∀ b ∈ publishedMode ctx, b = ctx.gs.mode.toByte)
    split_ifs with hsends
    · exact ⟨fun mode hmode => (Option.some.inj hmode).symm, fun hnone => nomatch hnone⟩
    · refine ⟨by simp, fun _ b hb => ?_⟩
      obtain ⟨hchanged, hdue⟩ := not_or.mp hsends
      obtain ⟨hmode, hkept⟩ := (h (decide_eq_false hdue)).resolve_left hchanged
      rw [hmode]
      exact hkept b hb
  | readFaultCd =>
    obtain ⟨faultCd, hafter⟩ := taskStep_readFaultCd ctx now time take
    rw [hafter]
    exact h rfl
  | sendMode => exact absurd hends.symm Bool.false_ne_true

/-- As long as iterations end with the mode published, the published mode is tracked. -/
theorem Tracked.step {w : ModeWatch} (h : Tracked w) {e : TaskEvent}
    (hpublished : ModePublished w.state e) : Tracked (watchStep w e) := by
  intro hmissed
  change Tracks (taskStep w.state e)
  cases hends : endsIteration w.state e with
  | true =>
    unfold Tracks
    rw [(endsIteration_op hends).2.1]
    exact hpublished hends
  | false =>
    have hbefore : makesUp w.state e = false → w.missed = false ∧
        (changesModeOutsideUpdate w.state e = true → missesChange w.state = false) :=
      fun hmakes => (watchStep_missed hends hmakes).mp hmissed
    have hseen : makesUp w.state e = false → (taskOp w.state e).isUpdate = false →
        (taskStep w.state e).ctx.gs.mode = w.state.ctx.gs.mode ∨
          missesChange w.state = false := by
      intro hmakes hupdate
      by_cases hchanges : changesModeOutsideUpdate w.state e = true
      · exact .inr ((hbefore hmakes).2 hchanges)
      · exact .inl (mode_eq_of_not_changes hupdate hchanges)
    by_cases hloop : ∃ take, e.choice = .loop take
    · obtain ⟨take, hloop⟩ := hloop
      exact Tracks.loop (fun hmakes => h (hbefore hmakes).1) hloop hends hseen
    · push Not at hloop
      obtain ⟨hmakes, hupdate⟩ := @makesUp_otherTask w.state e hloop
      exact (h (hbefore hmakes).1).foreign hloop hends (hseen hmakes hupdate)

/-- A covered iteration ends with the mode published. -/
theorem Tracked.published {w : ModeWatch} (h : Tracked w) {e : TaskEvent}
    (hcovered : PublicationCovered w e) : ModePublished w.state e := by
  intro hends b hb
  have htracks := h (hcovered hends (Option.ne_none_iff_exists'.mpr ⟨b, hb⟩))
  obtain ⟨hphase, -, hop⟩ := endsIteration_op hends
  unfold Tracks at htracks
  rw [hphase] at htracks
  obtain ⟨hread, hkept⟩ := htracks
  simp only [taskStep, hop] at hb ⊢
  rw [publishedMode_sendMode] at hb
  rw [mode_sendMode]
  cases hnone : w.state.ctx.modeRead with
  | none =>
    rw [hnone] at hb
    exact hkept hnone b hb
  | some mode =>
    rw [hnone] at hb
    rw [← hread mode hnone]
    exact (Option.some.inj hb).symm

/-! ### With the scripts off, no other iteration does -/

/-- With the scripts off, the mode is not changed by the loop but in its update, and by other
tasks to SERVICE. -/
theorem mode_outsideUpdate {s : TaskState} {e : TaskEvent} (hscripts : s.ctx.cfg.ScriptsOff)
    (hupdate : (taskOp s e).isUpdate = false) :
    (taskStep s e).ctx.gs.mode = s.ctx.gs.mode ∨
      ((taskStep s e).ctx.gs.mode = .service ∧ ∀ take, e.choice ≠ .loop take) := by
  have hmove : GatewayMove s.ctx (taskOp s e) (taskStep s e).ctx :=
    gatewayStep_move fun _ _ => hscripts
  rw [hmove.mode_eq]
  obtain ⟨ctx, phase, now⟩ := s
  obtain ⟨time, choice⟩ := e
  cases choice with
  | rx f take =>
    simp only [taskOp, modeAfter]
    split
    · refine .inr ⟨rfl, fun _ hloop => ?_⟩
      cases hloop
    · exact .inl rfl
  | aggregate take => exact .inl rfl
  | loop take =>
    cases phase with
    | updateMode => exact absurd hupdate.symm Bool.false_ne_true
    | _ => exact .inl rfl

/-- Only SERVICE has its byte. -/
theorem toByte_ne_service {mode : McVehicleMode} (h : mode ≠ .service) :
    mode.toByte ≠ McVehicleMode.service.toByte := by
  intro hbyte
  have hmode := congrArg McVehicleMode.ofByte hbyte
  rw [McVehicleMode.ofByte_toByte, McVehicleMode.ofByte_toByte] at hmode
  exact h hmode

/-- The vehicle is in SERVICE with another mode published, and this iteration will not make up
for it. -/
def Diverges (s : TaskState) : Prop :=
  s.ctx.gs.mode = .service ∧
    match s.phase with
    | .updateMode => s.ctx.oldMode = .service ∧
        ∀ b ∈ publishedMode s.ctx, b ≠ McVehicleMode.service.toByte
    | .heartbeat | .readMode => s.ctx.modeChanged = false ∧
        ∀ b ∈ publishedMode s.ctx, b ≠ McVehicleMode.service.toByte
    | .readFaultCd | .sendMode => (∀ mode ∈ s.ctx.modeRead, mode ≠ .service) ∧
        (s.ctx.modeRead = none → ∀ b ∈ publishedMode s.ctx, b ≠ McVehicleMode.service.toByte)
    | _ => ∀ b ∈ publishedMode s.ctx, b ≠ McVehicleMode.service.toByte

/-- A mode that the update changed is back at the mode before only in SERVICE. -/
def ChangeStands (s : TaskState) : Prop :=
  s.phase = .heartbeat ∨ s.phase = .readMode → s.ctx.modeChanged = true →
    s.ctx.gs.mode = s.ctx.oldMode → s.ctx.gs.mode = .service

/-- With the scripts off a missed change leaves the modes apart. -/
structure Diverged (w : ModeWatch) : Prop where
  /-- No script is enabled. -/
  scriptsOff : w.state.ctx.cfg.ScriptsOff
  /-- The update's change stands. -/
  stands : ChangeStands w.state
  /-- A missed change is a divergence. -/
  diverges : w.missed = true → Diverges w.state

/-- Steps of other tasks let the update's change stand. -/
theorem ChangeStands.foreign {s : TaskState} (h : ChangeStands s)
    (hscripts : s.ctx.cfg.ScriptsOff) {e : TaskEvent} (hloop : ∀ take, e.choice ≠ .loop take) :
    ChangeStands (taskStep s e) := by
  obtain ⟨hphase, hold, hchanged, -⟩ := locals_taskStep hloop
  intro hat hset hback
  rcases mode_outsideUpdate hscripts (makesUp_otherTask hloop).2 with hmode | ⟨hservice, -⟩
  · rw [hmode] at hback ⊢
    exact h (hphase ▸ hat) (hchanged.symm.trans hset) (hback.trans hold)
  · exact hservice

/-- Steps of the loop do so as well. -/
theorem ChangeStands.loop {s : TaskState} (h : ChangeStands s) {e : TaskEvent} {take : Bool}
    (hloop : e.choice = .loop take) : ChangeStands (taskStep s e) := by
  obtain ⟨ctx, phase, now⟩ := s
  obtain ⟨time, choice⟩ := e
  cases hloop
  cases phase with
  | updateMode =>
    intro _ hset hback
    have hchanged := modePhase_modeChanged ctx (UInt32.ofNat now) take
    have hmode := gatewayStep_updateMode ctx (UInt32.ofNat now) take
    obtain ⟨gs, changed, modeEvents, out, heq, -⟩ := modePhase_eq ctx (UInt32.ofNat now) take
    have hold : (modePhase ctx (UInt32.ofNat now) take).oldMode = ctx.oldMode := by rw [heq]
    have hne := of_decide_eq_true (hchanged.symm.trans hset)
    exact absurd ((hmode.symm.trans hback).trans hold) hne
  | heartbeat =>
    obtain ⟨out, hafter⟩ := taskStep_heartbeat ctx now time take
    rw [hafter]
    exact fun _ => h (.inl rfl)
  | _ => exact fun hat => absurd hat (by simp [taskStep, LoopPhase.next])

/-- Every step lets the update's change stand. -/
theorem ChangeStands.step {s : TaskState} (h : ChangeStands s) (hscripts : s.ctx.cfg.ScriptsOff)
    {e : TaskEvent} : ChangeStands (taskStep s e) := by
  by_cases hloop : ∃ take, e.choice = .loop take
  · obtain ⟨take, hloop⟩ := hloop
    exact h.loop hloop
  · push Not at hloop
    exact h.foreign hscripts hloop

/-- Steps of other tasks keep the modes apart. -/
theorem Diverges.foreign {s : TaskState} (h : Diverges s) (hscripts : s.ctx.cfg.ScriptsOff)
    {e : TaskEvent} (hloop : ∀ take, e.choice ≠ .loop take)
    (hends : endsIteration s e = false) : Diverges (taskStep s e) := by
  obtain ⟨hphase, hold, hchanged, hread⟩ := locals_taskStep hloop
  have hpublished := publishedMode_taskStep hends
  refine ⟨?_, ?_⟩
  · rcases mode_outsideUpdate hscripts (makesUp_otherTask hloop).2 with hmode | ⟨hservice, -⟩
    · exact hmode.trans h.1
    · exact hservice
  · rw [hphase, hold, hchanged, hread, hpublished]
    exact h.2

/-- A missed change of a tracked mode drives the modes apart. -/
theorem Tracks.diverges {s : TaskState} (h : Tracks s) (hstands : ChangeStands s)
    (hscripts : s.ctx.cfg.ScriptsOff) {e : TaskEvent} (hends : endsIteration s e = false)
    (hchanges : changesModeOutsideUpdate s e = true) (hmisses : missesChange s = true) :
    Diverges (taskStep s e) := by
  obtain ⟨hupdate, hmoved⟩ : (taskOp s e).isUpdate = false ∧
      (taskStep s e).ctx.gs.mode ≠ s.ctx.gs.mode := by
    simpa [changesModeOutsideUpdate] using hchanges
  obtain ⟨hservice, hloop⟩ := (mode_outsideUpdate hscripts hupdate).resolve_left hmoved
  obtain ⟨hphase, hold, hchanged, hread⟩ := locals_taskStep hloop
  have hpublished := publishedMode_taskStep hends
  have hmode : s.ctx.gs.mode ≠ .service := fun hwas => hmoved (hservice.trans hwas.symm)
  refine ⟨hservice, ?_⟩
  unfold Tracks at h
  unfold missesChange at hmisses
  unfold ChangeStands at hstands
  rw [hphase, hold, hchanged, hread, hpublished]
  cases hp : s.phase with
  | updateMode =>
    rw [hp] at hmisses
    exact absurd hmisses Bool.false_ne_true
  | heartbeat | readMode =>
    rw [hp] at h hmisses
    have hsame : s.ctx.gs.mode = s.ctx.oldMode := of_decide_eq_true hmisses
    have hunset : ¬ s.ctx.modeChanged = true := fun hset =>
      hmode (hstands (by simp [hp]) hset hsame)
    refine ⟨Bool.eq_false_iff.mpr hunset, fun b hb => ?_⟩
    rw [(h.resolve_left hunset).2 b hb, ← hsame]
    exact toByte_ne_service hmode
  | readFaultCd | sendMode =>
    rw [hp] at h
    refine ⟨fun mode hm => (h.1 mode hm).trans_ne hmode, fun hnone b hb => ?_⟩
    rw [h.2 hnone b hb]
    exact toByte_ne_service hmode
  | _ =>
    rw [hp] at h
    intro b hb
    rw [h b hb]
    exact toByte_ne_service hmode

/-- Steps of the loop that make up for nothing keep the modes apart. -/
theorem Diverges.loop {s : TaskState} (h : Diverges s) (hscripts : s.ctx.cfg.ScriptsOff)
    {e : TaskEvent} {take : Bool} (hloop : e.choice = .loop take)
    (hends : endsIteration s e = false) (hmakes : makesUp s e = false) :
    Diverges (taskStep s e) := by
  have hpublished := publishedMode_taskStep hends
  obtain ⟨ctx, phase, now⟩ := s
  obtain ⟨time, choice⟩ := e
  cases hloop
  obtain ⟨hservice, hapart⟩ := h
  have hkept : (taskOp ⟨ctx, phase, now⟩ ⟨time, .loop take⟩).isUpdate = false →
      (taskStep ⟨ctx, phase, now⟩ ⟨time, .loop take⟩).ctx.gs.mode = .service := by
    intro hupdate
    rcases mode_outsideUpdate hscripts hupdate with hmode | hmode
    · exact hmode.trans hservice
    · exact hmode.1
  cases phase with
  | dequeue | scripts | notify | process =>
    refine ⟨hkept rfl, ?_⟩
    change ∀ b ∈ publishedMode _, b ≠ _
    rw [hpublished]
    exact hapart
  | readOldMode => exact ⟨hservice, hservice, hapart⟩
  | updateMode =>
    obtain ⟨hold, hbyte⟩ := hapart
    have hmode := updatedMode_of_not_leaves hmakes hold hservice (UInt32.ofNat now)
    have hchanged := modePhase_modeChanged ctx (UInt32.ofNat now) take
    rw [hmode, hold] at hchanged
    refine ⟨(gatewayStep_updateMode ctx (UInt32.ofNat now) take).trans hmode, hchanged, ?_⟩
    rw [hpublished]
    exact hbyte
  | heartbeat =>
    obtain ⟨out, hafter⟩ := taskStep_heartbeat ctx now time take
    rw [hafter] at hpublished ⊢
    refine ⟨hservice, hapart.1, ?_⟩
    change ∀ b ∈ publishedMode { ctx with out := out }, b ≠ _
    rw [hpublished]
    exact hapart.2
  | readMode =>
    have hnone : (if ctx.modeChanged = true ∨ UInt32.ofNat now % 50 = 0 then some ctx.gs.mode
        else none) = none := by
      have hdue : ¬ UInt32.ofNat now % 50 = 0 := of_decide_eq_false hmakes
      rw [hapart.1]
      exact if_neg (by simpa using hdue)
    refine ⟨hservice, ?_⟩
    change (∀ mode ∈ (if ctx.modeChanged = true ∨ UInt32.ofNat now % 50 = 0 then
      some ctx.gs.mode else none), mode ≠ .service) ∧ (_ → ∀ b ∈ publishedMode ctx, b ≠ _)
    rw [hnone]
    exact ⟨by simp, fun _ => hapart.2⟩
  | readFaultCd =>
    obtain ⟨faultCd, hafter⟩ := taskStep_readFaultCd ctx now time take
    rw [hafter]
    exact ⟨hservice, hapart⟩
  | sendMode => exact absurd hends.symm Bool.false_ne_true

/-- Every step that ends no iteration and makes up for nothing keeps the modes apart. -/
theorem Diverges.step {s : TaskState} (h : Diverges s) (hscripts : s.ctx.cfg.ScriptsOff)
    {e : TaskEvent} (hends : endsIteration s e = false) (hmakes : makesUp s e = false) :
    Diverges (taskStep s e) := by
  by_cases hloop : ∃ take, e.choice = .loop take
  · obtain ⟨take, hloop⟩ := hloop
    exact h.loop hscripts hloop hends hmakes
  · push Not at hloop
    exact h.foreign hscripts hloop hends

/-- With the scripts off every step keeps the account of the divergence. -/
theorem Diverged.step {w : ModeWatch} (h : Diverged w) (htracked : Tracked w) (e : TaskEvent) :
    Diverged (watchStep w e) := by
  have hmove : GatewayMove w.state.ctx (taskOp w.state e) (taskStep w.state e).ctx :=
    gatewayStep_move fun _ _ => h.scriptsOff
  have hscripts : (taskStep w.state e).ctx.cfg.ScriptsOff := by
    rw [hmove.cfg_eq]
    exact h.scriptsOff
  have hmissing : (watchStep w e).missed = true → Diverges (taskStep w.state e) := by
    intro hmissed
    obtain ⟨⟨hends, hmakes⟩, hwas⟩ : (endsIteration w.state e = false ∧
        makesUp w.state e = false) ∧ (w.missed = true ∨
          changesModeOutsideUpdate w.state e = true ∧ missesChange w.state = true) := by
      simpa [watchStep] using hmissed
    cases hbefore : w.missed with
    | true => exact (h.diverges hbefore).step h.scriptsOff hends hmakes
    | false =>
      obtain ⟨hchanges, hmisses⟩ := hwas.resolve_left (by simp [hbefore])
      exact (htracked hbefore).diverges h.stands h.scriptsOff hends hchanges hmisses
  exact ⟨hscripts, h.stands.step h.scriptsOff, hmissing⟩

/-- With the scripts off, an iteration that ends with the mode published is covered. -/
theorem Diverged.covered {w : ModeWatch} (h : Diverged w) {e : TaskEvent}
    (hpublished : ModePublished w.state e) : PublicationCovered w e := by
  intro hends hsome
  refine Bool.eq_false_iff.mpr fun hmissed => ?_
  obtain ⟨hservice, hapart⟩ := h.diverges hmissed
  obtain ⟨b, hb⟩ := Option.ne_none_iff_exists'.mp hsome
  have hbyte := hpublished hends b hb
  obtain ⟨hphase, -, hop⟩ := endsIteration_op hends
  rw [hphase] at hapart
  obtain ⟨hread, hkept⟩ := hapart
  simp only [taskStep, hop] at hb hbyte
  rw [publishedMode_sendMode] at hb
  rw [mode_sendMode, hservice] at hbyte
  cases hnone : w.state.ctx.modeRead with
  | none =>
    rw [hnone] at hb
    exact hkept hnone b hb hbyte
  | some mode =>
    rw [hnone] at hb
    exact toByte_ne_service (hread mode hnone) ((Option.some.inj hb).trans hbyte)

/-- Whatever the flags, in every interleaving of the gateway tasks in which every iteration is
covered, every iteration ends with the current mode published; with the scripts off, no
other interleaving does. -/
theorem taskRun_mode_published (cfg : GatewayConfig) (evs : List TaskEvent) :
    (Core.StepsMeet watchStep PublicationCovered ⟨taskBoot cfg, false⟩ evs →
      Core.StepsMeet taskStep ModePublished (taskBoot cfg) evs) ∧
    (cfg.ScriptsOff → Core.StepsMeet taskStep ModePublished (taskBoot cfg) evs →
      Core.StepsMeet watchStep PublicationCovered ⟨taskBoot cfg, false⟩ evs) := by
  have herase : Core.StepsMeet watchStep (fun w e => ModePublished w.state e)
      ⟨taskBoot cfg, false⟩ evs ↔ Core.StepsMeet taskStep ModePublished (taskBoot cfg) evs :=
    Core.stepsMeet_map (f := ModeWatch.state) (fun _ _ => rfl) ModePublished
  have htracked : Tracked ⟨taskBoot cfg, false⟩ := fun _ b hb => nomatch hb
  rw [← herase]
  refine ⟨?_, ?_⟩
  · intro hcovered
    refine hcovered.imp (I := Tracked) ?_ ?_ htracked
    · intro w e hw he
      exact hw.published he
    · intro w e hw he
      exact hw.step (hw.published he)
  · intro hscripts hpublished
    have hdiverged : Diverged ⟨taskBoot cfg, false⟩ :=
      ⟨hscripts, fun hat => by simp [taskBoot] at hat, fun hmissed => nomatch hmissed⟩
    refine hpublished.imp (I := fun w => Tracked w ∧ Diverged w) ?_ ?_ ⟨htracked, hdiverged⟩
    · intro w e hw he
      exact hw.2.covered he
    · intro w e hw he
      exact ⟨hw.1.step he, hw.2.step hw.1 e⟩

/-- The mode is published at 50 ms, and a session is opened before the next iteration. -/
def sessionBetweenIterations : List TaskEvent :=
  iterationEvents 50 ++ [⟨55, .rx (diagFrame mcDiagStartSession) true⟩] ++ iterationEvents 60

/-- The iteration at 60 ms ends in SERVICE with OFF published. -/
theorem session_left_unpublished :
    ¬ ∀ evs, Core.StepsMeet taskStep ModePublished (taskBoot .off) evs := by
  intro hall
  have hend := Core.stepsMeet_iff.mp (hall sessionBetweenIterations)
    (sessionBetweenIterations.dropLast) ⟨60, .loop true⟩ [] rfl
  have hoff := hend (by decide +kernel) McVehicleMode.off.toByte (by decide +kernel)
  exact absurd hoff (by decide +kernel)

end Microcar.Gateway
