import Microcar.Gateway.Firmware

/-!
# What each step of the gateway does

Every step is described once: a received frame by the moves it can make, and each phase
of the loop by the fields it writes. Later proofs use these descriptions and never open
the firmware functions.
-/

namespace Microcar.Gateway

/-- The service of a diagnostic request of full length. -/
def diagServiceOf (f : McCanFrame) : Option UInt8 :=
  if f.id = mcMsgDiagRequest ∧ mcDiagRequestMsgSize ≤ f.len then some (f.data.get 1) else none

/-- What it takes for a frame to ask for a service. -/
theorem diagServiceOf_eq_some_iff {f : McCanFrame} {service : UInt8} :
    diagServiceOf f = some service ↔
      (f.id = mcMsgDiagRequest ∧ mcDiagRequestMsgSize ≤ f.len) ∧ f.data.get 1 = service := by
  unfold diagServiceOf
  split
  · rename_i h
    simp [h]
  · rename_i h
    simp [h]

/-- A session may not be started in DRIVE. -/
def SessionBlocked (ctx : GatewayCtx) : Prop :=
  ctx.gs.mode = .drive ∧ ctx.cfg.diagStartsessionDriveBug = false

instance (ctx : GatewayCtx) : Decidable (SessionBlocked ctx) :=
  inferInstanceAs (Decidable (_ ∧ _))

/-- The fault table behind an accepted request to clear the codes. -/
def clearedFaults (ctx : GatewayCtx) : FaultManager :=
  if ctx.cfg.diagClearAllBug then faultManagerClearAll ctx.fm
  else faultManagerClearNode ctx.fm mcNodeBms

/-- Everything a received frame can do. -/
inductive FrameMove (ctx : GatewayCtx) (f : McCanFrame) (take : Bool) : GatewayCtx → Prop
  | beat (hid : f.id = mcMsgHeartbeat) :
      FrameMove ctx f take { ctx with hbQueue := ctx.hbQueue.push (hbEventOf f) }
  | fault {notification : Option UInt32} (hid : f.id = mcMsgBmsFault) (htake : take = true) :
      FrameMove ctx f take { ctx with
        fm := (faultManagerReport ctx.fm mcNodeBms (f.data.get 0)
          (faultManagerBmsSeverity (f.data.get 0))).1
        notification := notification }
  | opened {modeEvents : UInt32} {out : List Emission}
      (hservice : diagServiceOf f = some mcDiagStartSession) (hfree : ¬ SessionBlocked ctx) :
      FrameMove ctx f take { ctx with
        gs := { ctx.gs with mode := .service }, diagSessionActive := true
        modeEvents := modeEvents, out := out }
  | closed {out : List Emission} (hservice : diagServiceOf f = some mcDiagEndSession) :
      FrameMove ctx f take { ctx with diagSessionActive := false, out := out }
  | cleared {out : List Emission} (hservice : diagServiceOf f = some mcDiagClearDtcs)
      (hsession : ctx.diagSessionActive = true) (htake : take = true) :
      FrameMove ctx f take { ctx with fm := clearedFaults ctx, out := out }
  | answered {out : List Emission} {service : UInt8} (hservice : diagServiceOf f = some service)
      (hstart : service = mcDiagStartSession → SessionBlocked ctx)
      (hend : service ≠ mcDiagEndSession) :
      FrameMove ctx f take { ctx with out := out }
  | ignored (hbeat : f.id ≠ mcMsgHeartbeat) (hfault : f.id = mcMsgBmsFault → take = false)
      (hservice : diagServiceOf f = none) : FrameMove ctx f take ctx

/-- A blocked request opens nothing. -/
theorem startSession_of_blocked {ctx : GatewayCtx} (h : SessionBlocked ctx) :
    (startSession ctx).1 = ctx := by
  rw [startSession, if_pos ⟨h.1, h.2⟩]

/-- Any other request opens a session and enters SERVICE. -/
theorem startSession_of_free {ctx : GatewayCtx} (h : ¬ SessionBlocked ctx) :
    ∃ modeEvents out, (startSession ctx).1 = { ctx with
      gs := { ctx.gs with mode := .service }, diagSessionActive := true
      modeEvents := modeEvents, out := out } := by
  have hfree : ¬ (ctx.gs.mode = .drive ∧ ctx.cfg.diagStartsessionDriveBug = false) := h
  rw [startSession, if_neg hfree]
  exact ⟨_, _, rfl⟩

/-- Codes are cleared inside a session under the mutex, and left alone otherwise. -/
theorem clearDtcs_eq (ctx : GatewayCtx) (take : Bool) :
    (clearDtcs ctx take).1 =
      if ctx.diagSessionActive = true ∧ take = true then { ctx with fm := clearedFaults ctx }
      else ctx := by
  unfold clearDtcs clearedFaults
  by_cases hsession : ctx.diagSessionActive = true
  · cases take <;> simp [hsession]
  · simp [hsession]

/-- A response only appends to the log. -/
theorem sendDiagResponse_eq (ctx : GatewayCtx) (service requestId : UInt8) (reply : DiagReply) :
    ∃ out, sendDiagResponse ctx service requestId reply = { ctx with out := out } := ⟨_, rfl⟩

/-- A diagnostic request of full length runs its service and extends the log. -/
theorem handleDiagRequest_eq {f : McCanFrame} (hlen : mcDiagRequestMsgSize ≤ f.len)
    (ctx : GatewayCtx) (take : Bool) :
    ∃ out, handleDiagRequest ctx f take =
      { (diagService ctx (f.data.get 1) take).1 with out := out } := by
  obtain ⟨out, hsend⟩ := sendDiagResponse_eq (diagService ctx (f.data.get 1) take).1
    (f.data.get 1) (f.data.get 2) (diagService ctx (f.data.get 1) take).2
  refine ⟨out, ?_⟩
  rw [handleDiagRequest, if_neg (UInt8.not_lt.mpr hlen)]
  exact hsend

/-- A diagnostic request of full length makes one of the four service moves. -/
theorem handleDiagRequest_move {ctx : GatewayCtx} {f : McCanFrame} {service : UInt8}
    (hservice : diagServiceOf f = some service) (take : Bool) :
    FrameMove ctx f take (handleDiagRequest ctx f take) := by
  obtain ⟨⟨-, hlen⟩, hdata⟩ := diagServiceOf_eq_some_iff.mp hservice
  obtain ⟨out, heq⟩ := handleDiagRequest_eq hlen ctx take
  rw [heq, hdata]
  unfold diagService
  by_cases hstart : service = mcDiagStartSession
  · subst hstart
    rw [if_pos rfl]
    by_cases hblocked : SessionBlocked ctx
    · rw [startSession_of_blocked hblocked]
      exact .answered hservice (fun _ => hblocked) (by decide)
    · obtain ⟨modeEvents, out', hopened⟩ := startSession_of_free hblocked
      rw [hopened]
      exact .opened hservice hblocked
  rw [if_neg hstart]
  by_cases hend : service = mcDiagEndSession
  · subst hend
    rw [if_pos rfl]
    exact .closed hservice
  rw [if_neg hend]
  have hanswered : ∀ out, FrameMove ctx f take { ctx with out := out } := fun out =>
    .answered hservice (fun h => absurd h hstart) hend
  by_cases hmode : service = mcDiagReadMode
  · rw [if_pos hmode]
    exact hanswered out
  rw [if_neg hmode]
  by_cases hdtcs : service = mcDiagReadDtcs
  · rw [if_pos hdtcs]
    exact hanswered out
  rw [if_neg hdtcs]
  by_cases hclear : service = mcDiagClearDtcs
  · subst hclear
    rw [if_pos rfl]
    rw [clearDtcs_eq]
    split
    · rename_i hcleared
      exact .cleared hservice hcleared.1 hcleared.2
    · exact hanswered out
  rw [if_neg hclear]
  split <;> exact hanswered out

/-- Every received frame makes one of the moves. -/
theorem dispatchFrameInRx_move (ctx : GatewayCtx) (f : McCanFrame) (take : Bool) :
    FrameMove ctx f take (dispatchFrameInRx ctx f take) := by
  unfold dispatchFrameInRx
  by_cases hbeat : f.id = mcMsgHeartbeat
  · rw [if_pos hbeat]
    exact .beat hbeat
  rw [if_neg hbeat]
  by_cases hfault : f.id = mcMsgBmsFault
  · rw [if_pos hfault]
    have hservice : diagServiceOf f = none := by
      rw [diagServiceOf, hfault]
      exact if_neg fun h => absurd h.1 (by decide)
    cases take with
    | true =>
      unfold handleBmsFault
      dsimp only
      split
      · exact .fault hfault rfl
      · exact .fault hfault rfl
    | false => exact .ignored hbeat (fun _ => rfl) hservice
  rw [if_neg hfault]
  by_cases hdiag : f.id = mcMsgDiagRequest
  · rw [if_pos hdiag]
    cases hservice : diagServiceOf f with
    | some service => exact handleDiagRequest_move hservice take
    | none =>
      have hshort : f.len < mcDiagRequestMsgSize := by
        by_contra hlen
        have hsome := diagServiceOf_eq_some_iff.mpr ⟨⟨hdiag, UInt8.not_lt.mp hlen⟩, rfl⟩
        exact absurd (hservice.symm.trans hsome) (by simp)
      rw [handleDiagRequest, if_pos hshort]
      exact .ignored hbeat (fun h => absurd h hfault) hservice
  · rw [if_neg hdiag]
    exact .ignored hbeat (fun h => absurd h hfault) (if_neg fun h => hdiag h.1)

/-- The aggregator writes event bits and the log. -/
theorem faultAggregator_eq (ctx : GatewayCtx) (take : Bool) :
    ∃ modeEvents out, faultAggregator ctx take =
      { ctx with modeEvents := modeEvents, out := out } := by
  unfold faultAggregator
  dsimp only
  split_ifs <;> exact ⟨_, _, rfl⟩

/-- The monitor behind a series of queued heartbeats. -/
def beatAll (hm : HeartbeatMonitor) (events : List HbEvent) (nowMs : UInt32) : HeartbeatMonitor :=
  events.foldl (fun hm ev => heartbeatMonitorBeat hm ev.sender nowMs) hm

/-- Dequeuing applies the queued heartbeats and empties the queue. -/
theorem dequeueHeartbeats_eq (ctx : GatewayCtx) (nowMs : UInt32) :
    dequeueHeartbeats ctx nowMs =
      { ctx with hm := beatAll ctx.hm ctx.hbQueue.entries nowMs, hbQueue := .empty } := by
  have hfold : ∀ events : List HbEvent,
      events.foldl (fun ctx ev => handleHeartbeat ctx nowMs ev) ctx =
        { ctx with hm := beatAll ctx.hm events nowMs } := by
    intro events
    induction events using List.reverseRecOn with
    | nil => rfl
    | append_singleton events ev ih =>
      rw [List.foldl_append, ih]
      simp [handleHeartbeat, beatAll]
  rw [dequeueHeartbeats, hfold]

/-- Taking a notification writes the notification and the log. -/
theorem takeNotification_eq (ctx : GatewayCtx) :
    ∃ notification out, takeNotification ctx =
      { ctx with notification := notification, out := out } := by
  unfold takeNotification
  split <;> exact ⟨_, _, rfl⟩

/-- The process phase attributes a timeout of this check to the BMS. -/
def attributesToBms (hm : HeartbeatMonitor) (nowMs : UInt32) : Prop :=
  0 < (heartbeatMonitorCheck hm nowMs).2 ∧
    heartbeatMonitorLastTransitionNode (heartbeatMonitorCheck hm nowMs).1 = mcNodeBms

instance (hm : HeartbeatMonitor) (nowMs : UInt32) : Decidable (attributesToBms hm nowMs) :=
  inferInstanceAs (Decidable (_ ∧ _))

/-- The process phase checks the monitor and reports a timeout attributed to the BMS. -/
theorem processPhase_eq (ctx : GatewayCtx) (nowMs : UInt32) (take : Bool) :
    processPhase ctx nowMs take = { ctx with
      hm := (heartbeatMonitorCheck ctx.hm nowMs).1
      fm := if attributesToBms ctx.hm nowMs ∧ take = true then
          (faultManagerReport ctx.fm mcNodeBms mcBmsFaultCommError 2).1
        else ctx.fm } := by
  unfold processPhase attributesToBms reportFault
  dsimp only
  by_cases htransition : 0 < (heartbeatMonitorCheck ctx.hm nowMs).2
  · by_cases hnode : heartbeatMonitorLastTransitionNode
        (heartbeatMonitorCheck ctx.hm nowMs).1 = mcNodeBms
    · cases take <;> simp [htransition, hnode]
    · simp [htransition, hnode]
  · simp [htransition]

/-- The mode an update arrives at. -/
def updatedMode (ctx : GatewayCtx) (nowMs : UInt32) (take : Bool) : McVehicleMode :=
  if take = true ∧ faultManagerHasCritical ctx.fm = true then .fault
  else if ctx.diagSessionActive = true then .service
  else mcGatewayDetermineMode ctx.gs.mode
    (heartbeatMonitorAllOnline (heartbeatMonitorCheck ctx.hm nowMs).1) false false

/-- An update arrives at FAULT exactly on a critical fault seen under the mutex, or from FAULT
outside a session. -/
theorem updatedMode_eq_fault_iff (ctx : GatewayCtx) (nowMs : UInt32) (take : Bool) :
    updatedMode ctx nowMs take = .fault ↔
      (take = true ∧ faultManagerHasCritical ctx.fm = true) ∨
        (ctx.diagSessionActive = false ∧ ctx.gs.mode = .fault) := by
  unfold updatedMode
  by_cases hcritical : take = true ∧ faultManagerHasCritical ctx.fm = true
  · rw [if_pos hcritical]
    exact iff_of_true rfl (.inl hcritical)
  · rw [if_neg hcritical]
    cases hsession : ctx.diagSessionActive with
    | true => simp [hcritical]
    | false => simp [hcritical, mcGatewayDetermineMode_eq_fault_iff]

/-- A mode update checks the monitor and writes the mode state. -/
theorem updateVehicleMode_eq (ctx : GatewayCtx) (nowMs : UInt32) (take : Bool) :
    ∃ gs, updateVehicleMode ctx nowMs take =
        { ctx with hm := (heartbeatMonitorCheck ctx.hm nowMs).1, gs := gs } ∧
      gs.mode = updatedMode ctx nowMs take := by
  unfold updateVehicleMode updatedMode
  dsimp only
  by_cases hcritical : take = true ∧ faultManagerHasCritical ctx.fm = true
  · have hfault : (take && faultManagerHasCritical ctx.fm) = true := by simp [hcritical]
    rw [hfault, if_neg (by simp), if_pos hcritical]
    refine ⟨_, rfl, ?_⟩
    exact (mcGatewayDetermineMode_eq_fault_iff _ _ _ _).mpr (.inr rfl)
  · have hfault : (take && faultManagerHasCritical ctx.fm) = false := by
      rw [Bool.eq_false_iff]
      intro h
      exact hcritical (Bool.and_eq_true_iff.mp h)
    rw [hfault, if_neg hcritical]
    by_cases hsession : ctx.diagSessionActive = true
    · rw [if_pos ⟨rfl, hsession⟩, if_pos hsession]
      exact ⟨_, rfl, rfl⟩
    · rw [if_neg (fun h => hsession h.2), if_neg hsession]
      exact ⟨_, rfl, rfl⟩

/-- The mode phase writes what the update writes, the change flag, event bits and the log. -/
theorem modePhase_eq (ctx : GatewayCtx) (nowMs : UInt32) (take : Bool) :
    ∃ gs modeChanged modeEvents out, modePhase ctx nowMs take = { ctx with
        hm := (heartbeatMonitorCheck ctx.hm nowMs).1, gs := gs, modeChanged := modeChanged
        modeEvents := modeEvents, out := out } ∧
      gs.mode = updatedMode ctx nowMs take := by
  obtain ⟨gs, hupdate, hmode⟩ := updateVehicleMode_eq ctx nowMs take
  unfold modePhase
  dsimp only
  rw [hupdate]
  split_ifs <;> exact ⟨gs, _, _, _, rfl, hmode⟩

/-- The change flag says whether the update arrives at another mode than was read before it. -/
theorem modePhase_modeChanged (ctx : GatewayCtx) (nowMs : UInt32) (take : Bool) :
    (modePhase ctx nowMs take).modeChanged = decide (updatedMode ctx nowMs take ≠ ctx.oldMode) := by
  obtain ⟨gs, hupdate, hmode⟩ := updateVehicleMode_eq ctx nowMs take
  unfold modePhase
  dsimp only
  rw [hupdate, ← hmode]
  split_ifs <;> rfl

/-- The mode behind an update step. -/
theorem gatewayStep_updateMode (ctx : GatewayCtx) (nowMs : UInt32) (take : Bool) :
    (gatewayStep ctx (.updateMode nowMs take)).gs.mode = updatedMode ctx nowMs take := by
  obtain ⟨gs, changed, modeEvents, out, heq, hmode⟩ := modePhase_eq ctx nowMs take
  rw [gatewayStep, heq]
  exact hmode

/-- The heartbeat phase writes the log. -/
theorem heartbeatPhase_eq (ctx : GatewayCtx) (nowMs : UInt32) :
    ∃ out, heartbeatPhase ctx nowMs = { ctx with out := out } := by
  unfold heartbeatPhase
  split_ifs <;> exact ⟨_, rfl⟩

/-- The critical section of a broadcast writes the fault flag. -/
theorem readFaultCd_eq (ctx : GatewayCtx) (take : Bool) :
    ∃ faultCd, readFaultCd ctx take = { ctx with faultCd := faultCd } := by
  unfold readFaultCd
  split <;> exact ⟨_, rfl⟩

/-- The end of a broadcast writes the log. -/
theorem sendMode_eq (ctx : GatewayCtx) :
    ∃ out, sendMode ctx = { ctx with modeRead := none, out := out } := by
  unfold sendMode
  split
  · exact ⟨_, rfl⟩
  · rename_i hnone
    exact ⟨ctx.out, by rw [← hnone]⟩

/-- The step writes no more than event bits, the notification, locals of a broadcast and the log,
with a request for DRIVE outside READY among them. -/
def GatewayOp.isPassive : GatewayOp → Bool
  | .frame _ _ => false
  | .enterDrive => true
  | .aggregate _ => true
  | .dequeue _ => false
  | .scripts _ => true
  | .notify => true
  | .process _ _ => false
  | .readOldMode => true
  | .updateMode _ _ => false
  | .heartbeat _ => true
  | .readMode _ => true
  | .readFaultCd _ => true
  | .sendMode => true

/-- Everything a step can do when it runs no script. -/
inductive GatewayMove (ctx : GatewayCtx) : GatewayOp → GatewayCtx → Prop
  | frame {f : RxFrame} {take : Bool} {ctx' : GatewayCtx}
      (hmove : FrameMove ctx f.toMcCanFrame take ctx') : GatewayMove ctx (.frame f take) ctx'
  | drive (hready : ctx.gs.mode = .ready) :
      GatewayMove ctx .enterDrive { ctx with gs := { ctx.gs with mode := .drive } }
  | passive {op : GatewayOp} {modeEvents : UInt32} {notification : Option UInt32}
      {oldMode : McVehicleMode} {modeRead : Option McVehicleMode} {faultCd : UInt8}
      {out : List Emission} (hop : op.isPassive = true)
      (hready : op = .enterDrive → ctx.gs.mode ≠ .ready) :
      GatewayMove ctx op { ctx with
        modeEvents := modeEvents, notification := notification, oldMode := oldMode
        modeRead := modeRead, faultCd := faultCd, out := out }
  | beats {nowMs : UInt32} :
      GatewayMove ctx (.dequeue nowMs)
        { ctx with hm := beatAll ctx.hm ctx.hbQueue.entries nowMs, hbQueue := .empty }
  | process {nowMs : UInt32} {take : Bool} :
      GatewayMove ctx (.process nowMs take) { ctx with
        hm := (heartbeatMonitorCheck ctx.hm nowMs).1
        fm := if attributesToBms ctx.hm nowMs ∧ take = true then
            (faultManagerReport ctx.fm mcNodeBms mcBmsFaultCommError 2).1
          else ctx.fm }
  | update {nowMs : UInt32} {take : Bool} {gs : GatewayState} {modeChanged : Bool}
      {modeEvents : UInt32} {out : List Emission} (hmode : gs.mode = updatedMode ctx nowMs take) :
      GatewayMove ctx (.updateMode nowMs take) { ctx with
        hm := (heartbeatMonitorCheck ctx.hm nowMs).1, gs := gs, modeChanged := modeChanged
        modeEvents := modeEvents, out := out }

/-- Every step that runs no script makes one of the moves. -/
theorem gatewayStep_move {ctx : GatewayCtx} {op : GatewayOp}
    (hscripts : ∀ take, op = .scripts take → ctx.cfg.ScriptsOff) :
    GatewayMove ctx op (gatewayStep ctx op) := by
  cases op with
  | frame f take => exact .frame (dispatchFrameInRx_move ctx f.toMcCanFrame take)
  | enterDrive =>
    unfold gatewayStep enterDrive gatewayStateEnterDrive
    by_cases hready : ctx.gs.mode = .ready
    · rw [if_pos hready]
      exact .drive hready
    · rw [if_neg hready]
      exact .passive rfl fun _ => hready
  | aggregate take =>
    obtain ⟨modeEvents, out, heq⟩ := faultAggregator_eq ctx take
    rw [gatewayStep, heq]
    exact .passive rfl (by simp)
  | dequeue nowMs =>
    rw [gatewayStep, dequeueHeartbeats_eq]
    exact .beats
  | scripts take =>
    rw [gatewayStep, runDogfoodScripts_of_off (hscripts take rfl)]
    exact .passive rfl (by simp)
  | notify =>
    obtain ⟨notification, out, heq⟩ := takeNotification_eq ctx
    rw [gatewayStep, heq]
    exact .passive rfl (by simp)
  | process nowMs take =>
    rw [gatewayStep, processPhase_eq]
    exact .process
  | updateMode nowMs take =>
    obtain ⟨gs, changed, modeEvents, out, heq, hmode⟩ := modePhase_eq ctx nowMs take
    rw [gatewayStep, heq]
    exact .update hmode
  | readOldMode => exact .passive rfl (by simp)
  | heartbeat nowMs =>
    obtain ⟨out, heq⟩ := heartbeatPhase_eq ctx nowMs
    rw [gatewayStep, heq]
    exact .passive rfl (by simp)
  | readMode nowMs => exact .passive rfl (by simp)
  | readFaultCd take =>
    obtain ⟨faultCd, heq⟩ := readFaultCd_eq ctx take
    rw [gatewayStep, heq]
    exact .passive rfl (by simp)
  | sendMode =>
    obtain ⟨out, heq⟩ := sendMode_eq ctx
    rw [gatewayStep, heq]
    exact .passive rfl (by simp)

/-- The mode behind a step that runs no script. -/
def modeAfter (ctx : GatewayCtx) : GatewayOp → McVehicleMode
  | .frame f _ =>
    if diagServiceOf f.toMcCanFrame = some mcDiagStartSession ∧ ¬ SessionBlocked ctx then .service
    else ctx.gs.mode
  | .enterDrive => if ctx.gs.mode = .ready then .drive else ctx.gs.mode
  | .updateMode nowMs take => updatedMode ctx nowMs take
  | _ => ctx.gs.mode

/-- A frame with another identifier asks for no service. -/
theorem diagServiceOf_eq_none {f : McCanFrame} (h : f.id ≠ mcMsgDiagRequest) :
    diagServiceOf f = none :=
  if_neg fun hdiag => h hdiag.1

/-- A received frame changes the mode only by opening a session. -/
theorem FrameMove.mode_eq {ctx ctx' : GatewayCtx} {f : RxFrame} {take : Bool}
    (h : FrameMove ctx f.toMcCanFrame take ctx') :
    ctx'.gs.mode = modeAfter ctx (.frame f take) := by
  have hkept : ∀ {service : Option UInt8}, diagServiceOf f.toMcCanFrame = service →
      (service = some mcDiagStartSession → SessionBlocked ctx) →
      ctx.gs.mode = modeAfter ctx (.frame f take) := by
    intro service hservice hstart
    refine (if_neg ?_).symm
    rintro ⟨hasked, hfree⟩
    exact hfree (hstart (hservice.symm.trans hasked))
  cases h with
  | opened hservice hfree => exact (if_pos ⟨hservice, hfree⟩).symm
  | beat hid =>
    have hnone := diagServiceOf_eq_none (f := f.toMcCanFrame) (by rw [hid]; decide)
    exact hkept hnone (fun h => absurd h (by simp))
  | fault hid =>
    have hnone := diagServiceOf_eq_none (f := f.toMcCanFrame) (by rw [hid]; decide)
    exact hkept hnone (fun h => absurd h (by simp))
  | closed hservice => exact hkept hservice (fun h => absurd h (by decide))
  | cleared hservice => exact hkept hservice (fun h => absurd h (by decide))
  | answered hservice hstart => exact hkept hservice (fun h => hstart (Option.some.inj h))
  | ignored _ _ hservice => exact hkept hservice (fun h => absurd h (by simp))

/-- Every step that runs no script arrives at the described mode. -/
theorem GatewayMove.mode_eq {ctx ctx' : GatewayCtx} {op : GatewayOp} (h : GatewayMove ctx op ctx') :
    ctx'.gs.mode = modeAfter ctx op := by
  cases h with
  | frame hframe => exact hframe.mode_eq
  | drive hready => exact (if_pos hready).symm
  | passive hop hready =>
    cases op with
    | enterDrive => exact (if_neg (hready rfl)).symm
    | aggregate | scripts | notify | readOldMode | heartbeat | readMode | readFaultCd | sendMode =>
      rfl
    | frame | dequeue | process | updateMode => exact absurd hop Bool.false_ne_true
  | update hmode => exact hmode
  | beats | process => rfl

/-- Steps never write the flags. -/
theorem GatewayMove.cfg_eq {ctx ctx' : GatewayCtx} {op : GatewayOp} (h : GatewayMove ctx op ctx') :
    ctx'.cfg = ctx.cfg := by
  cases h with
  | frame hframe => cases hframe <;> rfl
  | drive | passive | beats | process | update => rfl

end Microcar.Gateway
