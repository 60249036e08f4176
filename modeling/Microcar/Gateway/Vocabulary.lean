import Microcar.Gateway.Schedule

/-!
# Trace words of the gateway

Every step adds to the log, and each kind of step has a vocabulary of its own: the labels under
which it traces. What was traced under other labels stays as it is.
-/

namespace Microcar.Gateway

open Microcar.Core

/-- The log grows, by frames and by trace words under these labels. -/
def Speaks (labels : List String) (ctx ctx' : GatewayCtx) : Prop :=
  ∃ new, ctx'.out = ctx.out ++ new ∧ ∀ label value, .trace label value ∈ new → label ∈ labels

variable {labels : List String} {ctx ctx' ctx'' : GatewayCtx}

/-- A log that stays as it is says nothing. -/
theorem Speaks.of_eq (h : ctx'.out = ctx.out) : Speaks labels ctx ctx' :=
  ⟨[], by simp [h], by simp⟩

/-- What two steps say in turn is under the labels of both. -/
theorem Speaks.trans (h : Speaks labels ctx ctx') (h' : Speaks labels ctx' ctx'') :
    Speaks labels ctx ctx'' := by
  obtain ⟨new, hout, hnew⟩ := h
  obtain ⟨new', hout', hnew'⟩ := h'
  refine ⟨new ++ new', by rw [hout', hout, List.append_assoc], fun label value hmem => ?_⟩
  rcases List.mem_append.mp hmem with hmem | hmem
  · exact hnew label value hmem
  · exact hnew' label value hmem

/-- A larger vocabulary covers what a smaller one does. -/
theorem Speaks.mono {labels' : List String} (h : Speaks labels ctx ctx')
    (hle : ∀ label ∈ labels, label ∈ labels') : Speaks labels' ctx ctx' := by
  obtain ⟨new, hout, hnew⟩ := h
  exact ⟨new, hout, fun label value hmem => hle label (hnew label value hmem)⟩

/-- A trace word is under its own label. -/
theorem speaks_trace (ctx : GatewayCtx) {label : String} (hlabel : label ∈ labels)
    (value : UInt32) : Speaks labels ctx (ctx.trace label value) := by
  refine ⟨[.trace label value], rfl, fun label' value' hmem => ?_⟩
  obtain ⟨rfl, -⟩ := Emission.trace.inj (List.mem_singleton.mp hmem)
  exact hlabel

/-- A frame is no trace word. -/
theorem speaks_send (ctx : GatewayCtx) (frame : McCanFrame) :
    Speaks labels ctx (ctx.send frame) :=
  ⟨[.can frame], rfl, by simp⟩

/-- The mode is announced under one label. -/
theorem speaks_announceMode (hlabel : "vehicle_mode" ∈ labels) (ctx : GatewayCtx) :
    Speaks labels ctx ctx.announceMode :=
  (speaks_trace ctx hlabel _).trans (.of_eq rfl)

/-- The log only grows. -/
theorem Speaks.grows (h : Speaks labels ctx ctx') : ctx.out <+: ctx'.out := by
  obtain ⟨new, hout, -⟩ := h
  exact ⟨new, hout.symm⟩

/-! ### The tasks -/

/-- Labels of the diagnostic services. -/
def diagLabels : List String :=
  ["diag_session", "vehicle_mode", "gateway_diag_response", "gateway_diag_response_v1"]

/-- Labels of the main loop outside its scripts, and of the fault aggregator. -/
def loopLabels : List String :=
  ["vehicle_mode", "mode_event_group", "urgent_fault_notify", "fault_aggregate"]

/-- A response is traced under the labels of the diagnostics. -/
theorem speaks_sendDiagResponse (ctx : GatewayCtx) (service requestId : UInt8)
    (reply : DiagReply) : Speaks diagLabels ctx (sendDiagResponse ctx service requestId reply) :=
  have hword := speaks_trace ctx (by simp [diagLabels]) _
  (hword.trans (speaks_trace _ (by simp [diagLabels]) _)).trans (speaks_send _ _)

/-- A service traces at most the start of a session and the mode. -/
theorem speaks_diagService (ctx : GatewayCtx) (service : UInt8) (take : Bool) :
    Speaks diagLabels ctx (diagService ctx service take).1 := by
  unfold diagService
  split_ifs
  · unfold startSession
    split_ifs
    · exact .of_eq rfl
    · have hlabel : "diag_session" ∈ diagLabels := by simp [diagLabels]
      have hsession := speaks_trace
        ({ ctx with diagSessionActive := true }.setMode .service) hlabel 1
      have hopened : Speaks diagLabels ctx
          ({ ctx with diagSessionActive := true }.setMode .service) := .of_eq rfl
      exact (hopened.trans hsession).trans (speaks_announceMode (by simp [diagLabels]) _)
  · have hclosed : Speaks diagLabels ctx { ctx with diagSessionActive := false } := .of_eq rfl
    exact hclosed.trans (speaks_trace _ (by simp [diagLabels]) _)
  · exact .of_eq rfl
  · exact .of_eq rfl
  · rw [clearDtcs_eq]
    split_ifs <;> exact .of_eq rfl
  all_goals exact .of_eq rfl

/-- A request is answered under the labels of the diagnostics. -/
theorem speaks_handleDiagRequest (ctx : GatewayCtx) (frame : McCanFrame) (take : Bool) :
    Speaks diagLabels ctx (handleDiagRequest ctx frame take) := by
  unfold handleDiagRequest
  split_ifs
  · exact .of_eq rfl
  · exact (speaks_diagService ctx _ take).trans (speaks_sendDiagResponse _ _ _ _)

/-- A fault frame is logged nowhere when it comes in. -/
theorem out_handleBmsFault (ctx : GatewayCtx) (frame : McCanFrame) (take : Bool) :
    (handleBmsFault ctx frame take).out = ctx.out := by
  unfold handleBmsFault reportFault
  dsimp only
  split_ifs <;> rfl

/-- The decision about the mode traces the mode and its event group, no more. -/
theorem speaks_modePhase (hmode : "vehicle_mode" ∈ labels) (hgroup : "mode_event_group" ∈ labels)
    (ctx : GatewayCtx) (nowMs : UInt32) (take : Bool) :
    Speaks labels ctx (modePhase ctx nowMs take) := by
  obtain ⟨gs, hupdate, -⟩ := updateVehicleMode_eq ctx nowMs take
  have hannounced : ∀ changed : Bool, ∀ updated : GatewayCtx, updated.out = ctx.out →
      Speaks labels ctx (if changed then updated.announceMode else updated) := by
    intro changed updated hout
    have hupdated : Speaks labels ctx updated := .of_eq hout
    split
    · exact hupdated.trans (speaks_announceMode hmode updated)
    · exact hupdated
  have hevents : ∀ c : GatewayCtx, Speaks labels c
      (if c.modeEvents &&& 0x01 ≠ 0 then
        { c.trace "mode_event_group" c.modeEvents with modeEvents := c.modeEvents &&& ~~~0x01 }
      else c) := by
    intro c
    split
    · exact (speaks_trace c hgroup _).trans (.of_eq rfl)
    · exact .of_eq rfl
  unfold modePhase
  exact (hannounced _ _ (by rw [hupdate])).trans (hevents _)

/-- No step but the scripts uses other labels. -/
theorem speaks_gatewayStep {op : GatewayOp} (h : ∀ take, op ≠ .scripts take)
    (ctx : GatewayCtx) : Speaks (diagLabels ++ loopLabels) ctx (gatewayStep ctx op) := by
  have hloop : ∀ {label}, label ∈ loopLabels → label ∈ diagLabels ++ loopLabels :=
    fun hmem => List.mem_append_right _ hmem
  cases op with
  | frame f take =>
    simp only [gatewayStep, dispatchFrameInRx]
    split_ifs
    · exact .of_eq rfl
    · exact .of_eq (out_handleBmsFault ctx _ take)
    · exact (speaks_handleDiagRequest ctx _ take).mono fun _ hmem => List.mem_append_left _ hmem
    · exact .of_eq rfl
  | enterDrive => exact .of_eq rfl
  | aggregate take =>
    have hlabel : "fault_aggregate" ∈ loopLabels := by simp [loopLabels]
    have hcount := speaks_trace ctx (hloop hlabel)
    rw [gatewayStep, faultAggregator]
    split_ifs
    all_goals exact (hcount _).trans (.of_eq rfl)
  | dequeue nowMs =>
    rw [gatewayStep, dequeueHeartbeats_eq]
    exact .of_eq rfl
  | scripts take => exact absurd rfl (h take)
  | notify =>
    rw [gatewayStep, takeNotification]
    split
    · have htaken : Speaks (diagLabels ++ loopLabels) ctx { ctx with notification := none } :=
        .of_eq rfl
      exact htaken.trans (speaks_trace _ (hloop (by simp [loopLabels])) _)
    · exact .of_eq rfl
  | process nowMs take =>
    rw [gatewayStep, processPhase_eq]
    exact .of_eq rfl
  | readOldMode => exact .of_eq rfl
  | updateMode nowMs take =>
    have hmode : "vehicle_mode" ∈ diagLabels ++ loopLabels := hloop (by simp [loopLabels])
    have hgroup : "mode_event_group" ∈ diagLabels ++ loopLabels := hloop (by simp [loopLabels])
    exact speaks_modePhase hmode hgroup ctx nowMs take
  | heartbeat nowMs =>
    rw [gatewayStep, heartbeatPhase]
    split_ifs
    · exact speaks_send ctx _
    · exact .of_eq rfl
  | readMode nowMs => exact .of_eq rfl
  | readFaultCd take =>
    obtain ⟨faultCd, heq⟩ := readFaultCd_eq ctx take
    rw [gatewayStep, heq]
    exact .of_eq rfl
  | sendMode =>
    rw [gatewayStep, sendMode]
    split
    · exact (speaks_send ctx _).trans (.of_eq rfl)
    · exact .of_eq rfl

/-- Nothing a script does takes from the log. -/
theorem logGrows : ScriptRule fun c c' => c.out <+: c'.out where
  writes h := by
    obtain ⟨new, hout, -⟩ := h.out
    exact ⟨new, hout.symm⟩
  trans h h' := h.trans h'
  request c frame take := (speaks_handleDiagRequest c frame take).grows
  fault c take := by
    refine ⟨[], ?_⟩
    rw [synthBmsFault, out_handleBmsFault, List.append_nil]
  warning c take := by
    unfold reportFault
    split_ifs <;> exact List.prefix_rfl

/-- Every step of a gateway task adds to the log. -/
theorem grows_gatewayStep (ctx : GatewayCtx) (op : GatewayOp) :
    ctx.out <+: (gatewayStep ctx op).out := by
  by_cases hscripts : ∃ take, op = .scripts take
  · obtain ⟨take, rfl⟩ := hscripts
    exact logGrows.scripts ctx take
  · exact (speaks_gatewayStep (fun take heq => hscripts ⟨take, heq⟩) ctx).grows

/-- The log of a run is a continuation of the log before it. -/
theorem grows_gatewayRun (ctx : GatewayCtx) (ops : List GatewayOp) :
    ctx.out <+: (run gatewayStep ctx ops).out :=
  run_invariant (I := fun c => ctx.out <+: c.out)
    (fun c op hc => hc.trans (grows_gatewayStep c op)) List.prefix_rfl ops

/-! ### The actions of the scripts -/

/-- Labels of the charging script. -/
def chargingLabels : List String :=
  ["charging_plug", "gateway_charging_state", "vehicle_mode", "charging_drive_blocked"]

/-- The diagnostics script speaks under the labels of the diagnostics. -/
theorem speaks_diagScriptActions (cfg : GatewayConfig) (take : Bool) :
    ∀ a ∈ diagScriptActions cfg take, ∀ ctx, Speaks diagLabels ctx (a.act ctx) := by
  intro a ha ctx
  simp only [diagScriptActions, List.mem_append, List.mem_cons, List.not_mem_nil, or_false] at ha
  rcases ha with ((rfl | rfl) | ha) | rfl | rfl | rfl | rfl
  case inl.inr =>
    split at ha
    · simp only [List.mem_append, List.mem_singleton] at ha
      rcases ha with rfl | ha
      · exact .of_eq (out_handleBmsFault ctx _ take)
      · split at ha
        · rw [List.mem_singleton.mp ha]
          dsimp only [reportFault]
          split_ifs <;> exact .of_eq rfl
        · exact absurd ha List.not_mem_nil
    · exact absurd ha List.not_mem_nil
  all_goals
    dsimp only
    exact speaks_handleDiagRequest ctx _ take

/-- So does the start-drive script. -/
theorem speaks_startdriveScriptActions (take : Bool) :
    ∀ a ∈ startdriveScriptActions take, ∀ ctx, Speaks diagLabels ctx (a.act ctx) := by
  intro a ha ctx
  simp only [startdriveScriptActions, List.mem_cons, List.not_mem_nil, or_false] at ha
  rcases ha with rfl | rfl
  · have hdrive : Speaks diagLabels ctx (ctx.setMode .drive) := .of_eq rfl
    exact (hdrive.trans (speaks_announceMode (by simp [diagLabels]) _)).trans
      (speaks_handleDiagRequest _ _ take)
  · exact speaks_handleDiagRequest ctx _ take

/-- The charging script has labels of its own. -/
theorem speaks_chargingScriptActions :
    ∀ a ∈ chargingScriptActions, ∀ ctx, Speaks chargingLabels ctx (a.act ctx) := by
  intro a ha ctx
  simp only [chargingScriptActions, List.mem_cons, List.not_mem_nil, or_false] at ha
  rcases ha with rfl | rfl
  · have hplug : Speaks chargingLabels ctx (ctx.setMode .charging) := .of_eq rfl
    exact ((hplug.trans (speaks_trace _ (by simp [chargingLabels]) _)).trans
      (speaks_trace _ (by simp [chargingLabels]) _)).trans
        (speaks_announceMode (by simp [chargingLabels]) _)
  · have htried : Speaks chargingLabels ctx { ctx with gs := gatewayStateEnterDrive ctx.gs } :=
      .of_eq rfl
    exact (htried.trans (speaks_trace _ (by simp [chargingLabels]) _)).trans
      (speaks_trace _ (by simp [chargingLabels]) _)

/-- The scripts that leave the update slots alone never speak of them. -/
theorem speaks_aloofActions (cfg : GatewayConfig) (take : Bool) :
    ∀ a ∈ aloofActions cfg take, ∀ ctx, Speaks (diagLabels ++ chargingLabels) ctx (a.act ctx) := by
  intro a ha ctx
  rcases List.mem_append.mp ha with ha | ha
  · have hdiag : Speaks diagLabels ctx (a.act ctx) := by
      rcases List.mem_append.mp ha with ha | ha
      · exact speaks_diagScriptActions cfg take a (mem_if ha) ctx
      · exact speaks_startdriveScriptActions take a (mem_if ha) ctx
    exact hdiag.mono fun _ hmem => List.mem_append_left _ hmem
  · exact (speaks_chargingScriptActions a (mem_if ha) ctx).mono
      fun _ hmem => List.mem_append_right _ hmem

end Microcar.Gateway
