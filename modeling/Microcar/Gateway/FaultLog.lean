import Microcar.Gateway.Emissions

/-!
# The fault table along every step

Whatever the flags and scripts, the gateway reports a key always with the same severity, so
its counters match the table in every reachable state. An active critical fault stays
active in every step that does not answer a request to clear the codes with OK.
-/

namespace Microcar.Gateway

/-- The severity with which the gateway reports a key: that of the code for the BMS, and a
warning for every other node. -/
def reportedSeverity (sourceNode faultCode : UInt8) : UInt8 :=
  if sourceNode = mcNodeBms then faultManagerBmsSeverity faultCode else 1

/-- The counters match the table, and every fault is stored with the severity of its key. -/
structure FaultsConsistent (fm : FaultManager) : Prop where
  /-- The fault counters match the table. -/
  counts : CountsMatch fm
  /-- The stored severities are the reported ones. -/
  severities : ∀ f ∈ fm.faults.entries, f.severity = reportedSeverity f.sourceNode f.faultCode

/-- The severity of a BMS code. -/
theorem reportedSeverity_bms (code : UInt8) :
    reportedSeverity mcNodeBms code = faultManagerBmsSeverity code := if_pos rfl

/-- The empty table is consistent. -/
theorem faultsConsistent_init : FaultsConsistent faultManagerInit where
  counts := ⟨rfl, rfl⟩
  severities := by
    intro f hf
    exact absurd hf List.not_mem_nil

/-- A key is always reported with the severity it is stored with. -/
theorem FaultsConsistent.stable {fm : FaultManager} (h : FaultsConsistent fm)
    (sourceNode faultCode : UInt8) :
    SeverityStable fm sourceNode faultCode (reportedSeverity sourceNode faultCode) := by
  intro f hf hkey
  simp only [Fault.hasKey, Bool.and_eq_true, beq_iff_eq] at hkey
  rw [h.severities f hf, hkey.1, hkey.2]

/-- A report keeps the table consistent. -/
theorem FaultsConsistent.report {fm : FaultManager} (h : FaultsConsistent fm)
    (sourceNode faultCode : UInt8) :
    FaultsConsistent (faultManagerReport fm sourceNode faultCode
      (reportedSeverity sourceNode faultCode)).1 := by
  have hstable := h.stable sourceNode faultCode
  exact ⟨h.counts.report hstable, forall_mem_report h.severities rfl⟩

/-- Clearing keeps the table consistent. -/
theorem FaultsConsistent.clearWhere {fm : FaultManager} (h : FaultsConsistent fm)
    (test : Fault → Bool) : FaultsConsistent (fm.clearWhere test) := by
  exact ⟨h.counts.clearWhere test, forall_mem_clearWhere test h.severities fun _ hf => hf⟩

/-- Behind a report a critical fault is active exactly when one was before or the table
accepts a critical report. -/
theorem FaultsConsistent.hasCritical_report_iff {fm : FaultManager} (h : FaultsConsistent fm)
    (sourceNode faultCode : UInt8) :
    faultManagerHasCritical (faultManagerReport fm sourceNode faultCode
        (reportedSeverity sourceNode faultCode)).1 = true ↔
      faultManagerHasCritical fm = true ∨
        (reportedSeverity sourceNode faultCode = 2 ∧ fm.Accepts sourceNode faultCode) := by
  rw [(h.report sourceNode faultCode).counts.hasCritical_iff, h.counts.hasCritical_iff,
    report_critical_iff (h.stable sourceNode faultCode)]

/-- The frame answers a request to clear the codes with OK. -/
def AnswersClear (f : McCanFrame) : Prop := f.data.get 1 = mcDiagClearDtcs ∧ f.data.get 3 = mcDiagOk

/-- The second context keeps the fault table of the first consistent, and an active critical
fault active unless it answers a request to clear the codes. -/
structure FaultSafe (ctx ctx' : GatewayCtx) : Prop where
  /-- The table stays consistent. -/
  consistent : FaultsConsistent ctx.fm → FaultsConsistent ctx'.fm
  /-- The log grows, and critical faults stay active or a clear request is answered. -/
  log : ∃ new, ctx'.out = ctx.out ++ new ∧ (FaultsConsistent ctx.fm →
    faultManagerHasCritical ctx.fm = true → faultManagerHasCritical ctx'.fm = true ∨
      ∃ f ∈ framesOf mcMsgDiagResponse new, AnswersClear f)

/-- Safety composes. -/
theorem FaultSafe.trans {ctx ctx' ctx'' : GatewayCtx} (h : FaultSafe ctx ctx')
    (h' : FaultSafe ctx' ctx'') : FaultSafe ctx ctx'' := by
  refine ⟨fun hc => h'.consistent (h.consistent hc), ?_⟩
  obtain ⟨new, hout, hkept⟩ := h.log
  obtain ⟨new', hout', hkept'⟩ := h'.log
  refine ⟨new ++ new', by rw [hout', hout, List.append_assoc], ?_⟩
  intro hc hcritical
  rw [framesOf_append]
  rcases hkept hc hcritical with hactive | ⟨f, hf, hclear⟩
  · rcases hkept' (h.consistent hc) hactive with hactive' | ⟨f, hf, hclear⟩
    · exact .inl hactive'
    · exact .inr ⟨f, List.mem_append_right _ hf, hclear⟩
  · exact .inr ⟨f, List.mem_append_left _ hf, hclear⟩

/-- A step that leaves the table alone and extends the log is safe. -/
theorem FaultSafe.of_fm_eq {ctx ctx' : GatewayCtx} (hfm : ctx'.fm = ctx.fm)
    (hout : ctx.out <+: ctx'.out) : FaultSafe ctx ctx' := by
  obtain ⟨new, hnew⟩ := hout
  refine ⟨fun hc => hfm ▸ hc, new, hnew.symm, ?_⟩
  intro _ hcritical
  exact .inl (hfm ▸ hcritical)

/-- Doing nothing is safe. -/
theorem FaultSafe.refl (ctx : GatewayCtx) : FaultSafe ctx ctx := .of_fm_eq rfl List.prefix_rfl

section Writes

variable {ctx c : GatewayCtx}

/-- Tracing is safe. -/
theorem FaultSafe.trace (h : FaultSafe ctx c) (label : String) (value : UInt32) :
    FaultSafe ctx (c.trace label value) :=
  h.trans (.of_fm_eq rfl (List.prefix_append _ _))

/-- Sending is safe. -/
theorem FaultSafe.send (h : FaultSafe ctx c) (frame : McCanFrame) : FaultSafe ctx (c.send frame) :=
  h.trans (.of_fm_eq rfl (List.prefix_append _ _))

/-- Setting event bits is safe. -/
theorem FaultSafe.setModeEvents (h : FaultSafe ctx c) (bits : UInt32) :
    FaultSafe ctx (c.setModeEvents bits) :=
  h.trans (.of_fm_eq rfl List.prefix_rfl)

end Writes

/-- A report of a key with its severity is safe. -/
theorem FaultSafe.of_report {ctx ctx' : GatewayCtx} {sourceNode faultCode : UInt8}
    (hfm : ctx'.fm = (faultManagerReport ctx.fm sourceNode faultCode
      (reportedSeverity sourceNode faultCode)).1) (hout : ctx'.out = ctx.out) :
    FaultSafe ctx ctx' := by
  refine ⟨fun hc => hfm ▸ hc.report sourceNode faultCode, [], by simp [hout], ?_⟩
  intro hc hcritical
  rw [hfm]
  exact .inl ((hc.hasCritical_report_iff sourceNode faultCode).mpr (.inl hcritical))

/-- Reporting under the mutex is safe. -/
theorem faultSafe_reportFault (ctx : GatewayCtx) (sourceNode faultCode : UInt8) (take : Bool) :
    FaultSafe ctx
      (reportFault ctx sourceNode faultCode (reportedSeverity sourceNode faultCode) take) := by
  cases take with
  | true => exact .of_report rfl rfl
  | false => exact .refl ctx

/-- A BMS fault frame is handled safely. -/
theorem faultSafe_handleBmsFault (ctx : GatewayCtx) (f : McCanFrame) (take : Bool) :
    FaultSafe ctx (handleBmsFault ctx f take) := by
  have hreport := faultSafe_reportFault ctx mcNodeBms (f.data.get 0) take
  rw [reportedSeverity_bms] at hreport
  unfold handleBmsFault
  dsimp only
  split
  · exact hreport.trans (.of_fm_eq rfl List.prefix_rfl)
  · exact hreport

/-- A service other than an accepted clear leaves the fault table alone. -/
theorem fm_diagService {ctx : GatewayCtx} {service : UInt8}
    (h : ¬ (service = mcDiagClearDtcs ∧ ctx.diagSessionActive = true)) (take : Bool) :
    (diagService ctx service take).1.fm = ctx.fm := by
  unfold diagService
  split_ifs with hstart hend hmode hdtcs hclear
  · unfold startSession
    split_ifs <;> rfl
  · rfl
  · rfl
  · rfl
  · have hsession : ¬ (ctx.diagSessionActive = true ∧ take = true) := fun hs => h ⟨hclear, hs.1⟩
    rw [clearDtcs_eq, if_neg hsession]
  all_goals rfl

/-- A request to clear the codes is answered with OK exactly inside a session. -/
theorem diagService_clear_status (ctx : GatewayCtx) (take : Bool) :
    (diagService ctx mcDiagClearDtcs take).2.status = mcDiagOk ↔ ctx.diagSessionActive = true := by
  have hservice : diagService ctx mcDiagClearDtcs take = clearDtcs ctx take := rfl
  rw [hservice, clearDtcs]
  cases ctx.diagSessionActive with
  | true => cases take <;> simp
  | false => simp [mcDiagRejected, mcDiagOk]

/-- The response to a service answers a clear request exactly when it was one inside a
session. -/
theorem answersClear_response_iff (ctx : GatewayCtx) (service requestId : UInt8) (take : Bool) :
    AnswersClear (diagResponseFrame service requestId (diagService ctx service take).2) ↔
      service = mcDiagClearDtcs ∧ ctx.diagSessionActive = true := by
  obtain ⟨hservice, hstatus⟩ :=
    diagResponseFrame_data service requestId (diagService ctx service take).2
  rw [AnswersClear, hservice, hstatus]
  refine and_congr_right ?_
  rintro rfl
  exact diagService_clear_status ctx take

/-- A diagnostic request is handled safely. -/
theorem faultSafe_handleDiagRequest (ctx : GatewayCtx) (f : McCanFrame) (take : Bool) :
    FaultSafe ctx (handleDiagRequest ctx f take) := by
  by_cases hlen : f.len < mcDiagRequestMsgSize
  · rw [handleDiagRequest, if_pos hlen]
    exact .of_fm_eq rfl List.prefix_rfl
  have hfm : (handleDiagRequest ctx f take).fm = (diagService ctx (f.data.get 1) take).1.fm := by
    obtain ⟨out, heq⟩ := handleDiagRequest_eq (UInt8.not_lt.mp hlen) ctx take
    rw [heq]
  obtain ⟨new, hout, hresponse⟩ := handleDiagRequest_responds (UInt8.not_lt.mp hlen) ctx take
  by_cases hclear : f.data.get 1 = mcDiagClearDtcs ∧ ctx.diagSessionActive = true
  · rw [hclear.1] at hfm hresponse
    have hanswers := (answersClear_response_iff ctx mcDiagClearDtcs (f.data.get 2) take).mpr
      ⟨rfl, hclear.2⟩
    refine ⟨?_, new, hout, fun _ _ => .inr ⟨_, by rw [hresponse]; simp, hanswers⟩⟩
    intro hc
    have hcleared : (diagService ctx mcDiagClearDtcs take).1 = (clearDtcs ctx take).1 := rfl
    rw [hfm, hcleared, clearDtcs_eq]
    split
    · unfold clearedFaults
      split
      · exact hc.clearWhere _
      · exact hc.clearWhere _
    · exact hc
  · exact .of_fm_eq (hfm.trans (fm_diagService hclear take)) ⟨new, hout.symm⟩

/-- Safety holds across everything a script can do. -/
theorem faultSafe_scriptRule : ScriptRule FaultSafe where
  writes h := by
    obtain ⟨new, hout, -⟩ := h.out
    exact .of_fm_eq h.fm ⟨new, hout.symm⟩
  trans h h' := h.trans h'
  request := faultSafe_handleDiagRequest
  fault c take := faultSafe_handleBmsFault c _ take
  warning c take := faultSafe_reportFault c mcNodePowertrain mcWarnPowertrainOffline take

/-- Every step is safe, whatever the flags. -/
theorem faultSafe_gatewayStep (ctx : GatewayCtx) (op : GatewayOp) :
    FaultSafe ctx (gatewayStep ctx op) := by
  cases op with
  | frame f take =>
    rw [gatewayStep, dispatchFrameInRx]
    split_ifs
    · exact .of_fm_eq rfl List.prefix_rfl
    · exact faultSafe_handleBmsFault ctx _ take
    · exact faultSafe_handleDiagRequest ctx _ take
    · exact .refl ctx
  | enterDrive => exact .of_fm_eq rfl List.prefix_rfl
  | aggregate take =>
    have htraced : ∀ value, FaultSafe ctx (ctx.trace "fault_aggregate" value) :=
      (FaultSafe.refl ctx).trace "fault_aggregate"
    rw [gatewayStep, faultAggregator]
    generalize (if take then ctx.fm.criticalCount else 0) = critical
    split
    · exact (htraced _).setModeEvents _
    · exact htraced _
  | dequeue nowMs =>
    rw [gatewayStep, dequeueHeartbeats_eq]
    exact .of_fm_eq rfl List.prefix_rfl
  | scripts take => exact faultSafe_scriptRule.scripts ctx take
  | notify =>
    rw [gatewayStep, takeNotification]
    split
    · have htaken : FaultSafe ctx { ctx with notification := none } :=
        .of_fm_eq rfl List.prefix_rfl
      exact htaken.trace _ _
    · exact .refl ctx
  | process nowMs take =>
    have hchecked : FaultSafe ctx { ctx with hm := (heartbeatMonitorCheck ctx.hm nowMs).1 } :=
      .of_fm_eq rfl List.prefix_rfl
    rw [gatewayStep, processPhase]
    dsimp only
    split_ifs
    · exact hchecked.trans (faultSafe_reportFault _ mcNodeBms mcBmsFaultCommError take)
    · exact hchecked
    · exact hchecked
  | readOldMode => exact .of_fm_eq rfl List.prefix_rfl
  | updateMode nowMs take =>
    obtain ⟨new, hout, -⟩ := silent_modePhase mcMsgVehicleMode ctx nowMs take
    obtain ⟨gs, changed, modeEvents, out, heq, -⟩ := modePhase_eq ctx nowMs take
    refine .of_fm_eq ?_ ⟨new, hout.symm⟩
    rw [gatewayStep, heq]
  | heartbeat nowMs =>
    rw [gatewayStep, heartbeatPhase]
    split_ifs
    · exact (FaultSafe.refl ctx).send _
    · exact .refl ctx
  | readMode nowMs => exact .of_fm_eq rfl List.prefix_rfl
  | readFaultCd take =>
    obtain ⟨faultCd, heq⟩ := readFaultCd_eq ctx take
    rw [gatewayStep, heq]
    exact .of_fm_eq rfl List.prefix_rfl
  | sendMode =>
    rw [gatewayStep, sendMode]
    split
    · rename_i mode _
      have hsent : FaultSafe ctx (ctx.send (sendVehicleMode mode ctx.faultCd)) :=
        (FaultSafe.refl ctx).send _
      exact hsent.trans (.of_fm_eq rfl List.prefix_rfl)
    · exact .refl ctx

/-- Every reachable state has a consistent fault table, whatever the flags. -/
theorem faultsConsistent_run (cfg : GatewayConfig) (ops : List GatewayOp) :
    FaultsConsistent (Core.run gatewayStep (gatewayBoot cfg) ops).fm :=
  Core.run_invariant (I := fun s : GatewayCtx => FaultsConsistent s.fm)
    (fun s op hs => (faultSafe_gatewayStep s op).consistent hs) faultsConsistent_init ops

/-- The step accepts a request to clear the codes. -/
def AcceptsClear (ctx : GatewayCtx) (op : GatewayOp) : Prop :=
  ∃ f ∈ framesOf mcMsgDiagResponse (emitted ctx op), AnswersClear f

/-- An active critical fault survives every step that does not accept a clear request. -/
theorem hasCritical_step {ctx : GatewayCtx} (h : FaultsConsistent ctx.fm)
    (hcritical : faultManagerHasCritical ctx.fm = true) {op : GatewayOp}
    (hclear : ¬ AcceptsClear ctx op) :
    faultManagerHasCritical (gatewayStep ctx op).fm = true := by
  obtain ⟨new, hout, hkept⟩ := (faultSafe_gatewayStep ctx op).log
  rcases hkept h hcritical with hactive | ⟨f, hf, hanswers⟩
  · exact hactive
  · refine absurd ⟨f, ?_, hanswers⟩ hclear
    rw [emitted, hout, List.drop_left]
    exact hf

/-- A received frame accepts a clear request exactly when it is one of full length inside a
session. -/
theorem acceptsClear_frame_iff (ctx : GatewayCtx) (f : RxFrame) (take : Bool) :
    AcceptsClear ctx (.frame f take) ↔
      diagServiceOf f.toMcCanFrame = some mcDiagClearDtcs ∧ ctx.diagSessionActive = true := by
  cases hservice : diagServiceOf f.toMcCanFrame with
  | some service =>
    rw [AcceptsClear, framesOf_emitted_request hservice]
    simp only [List.mem_singleton, exists_eq_left, answersClear_response_iff, Option.some.injEq]
  | none =>
    have hout : (gatewayStep ctx (.frame f take)).out = ctx.out := by
      have hmove := dispatchFrameInRx_move ctx f.toMcCanFrame take
      rw [gatewayStep]
      generalize dispatchFrameInRx ctx f.toMcCanFrame take = ctx' at hmove ⊢
      cases hmove with
      | beat | fault | ignored => rfl
      | opened hother => exact absurd (hservice.symm.trans hother) (by simp)
      | closed hother => exact absurd (hservice.symm.trans hother) (by simp)
      | cleared hother => exact absurd (hservice.symm.trans hother) (by simp)
      | answered hother => exact absurd (hservice.symm.trans hother) (by simp)
    simp [AcceptsClear, emitted, hout]

end Microcar.Gateway
