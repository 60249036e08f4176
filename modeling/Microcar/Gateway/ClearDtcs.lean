import Microcar.Gateway.SessionSafety

/-!
# Reading and clearing diagnostic codes

The gateway reports every key with one severity, so its counters are exact in every
reachable state. Over such a table a request to clear the codes deactivates the entries of
the BMS and nothing else, and a request to read them counts the active entries. Both look at
the table under its mutex and answer OK when they do not get it, so under contention an
answer is true exactly where a timeout leaves nothing to misreport.
-/

namespace Microcar.Gateway

/-- What the requests for the diagnostic codes do in a gateway state. -/
structure DtcsExact (ctx : GatewayCtx) : Prop where
  /-- The counters are the numbers of active critical faults and warnings. -/
  counts : CountsMatch ctx.fm
  /-- Inside a session a clear deactivates the entries of the BMS, leaves the others as they
  are and keeps the counters exact. -/
  cleared : ∀ f, diagServiceOf (RxFrame.toMcCanFrame f) = some mcDiagClearDtcs →
    ctx.diagSessionActive = true →
    (gatewayStep ctx (.frame f true)).fm.faults.entries = ctx.fm.faults.entries.map
        (fun e => if e.sourceNode = mcNodeBms then { e with active := false } else e) ∧
      CountsMatch (gatewayStep ctx (.frame f true)).fm
  /-- Outside a session a clear is rejected and changes nothing but the log. -/
  rejected : ∀ f take, diagServiceOf (RxFrame.toMcCanFrame f) = some mcDiagClearDtcs →
    ctx.diagSessionActive = false →
    (∃ response, framesOf mcMsgDiagResponse (emitted ctx (.frame f take)) = [response] ∧
        response.data.get 3 = mcDiagRejected) ∧
      (gatewayStep ctx (.frame f take)).fm = ctx.fm ∧
      (gatewayStep ctx (.frame f take)).gs.mode = ctx.gs.mode ∧
      (gatewayStep ctx (.frame f take)).diagSessionActive = ctx.diagSessionActive ∧
      (gatewayStep ctx (.frame f take)).hm = ctx.hm
  /-- A read answers with the number of active entries and the code of the first one. -/
  read : ∀ f, diagServiceOf (RxFrame.toMcCanFrame f) = some mcDiagReadDtcs →
    ∃ response, framesOf mcMsgDiagResponse (emitted ctx (.frame f true)) = [response] ∧
      response.data.get 3 = mcDiagOk ∧
      (response.data.get 4).toNat = ctx.fm.faults.entries.countP (·.active) ∧
      ∀ before e after, ctx.fm.faults.entries = before ++ e :: after →
        (∀ b ∈ before, b.active = false) → e.active = true → response.data.get 5 = e.faultCode

/-- A request for the codes runs its service and extends the log. -/
theorem gatewayStep_request_eq {f : RxFrame} {service : UInt8}
    (h : diagServiceOf f.toMcCanFrame = some service) (ctx : GatewayCtx) (take : Bool) :
    ∃ out, gatewayStep ctx (.frame f take) =
      { (diagService ctx service take).1 with out := out } := by
  obtain ⟨⟨-, hlen⟩, hdata⟩ := diagServiceOf_eq_some_iff.mp h
  obtain ⟨out, hhandled⟩ := handleDiagRequest_eq hlen ctx take
  refine ⟨out, ?_⟩
  rw [gatewayStep_request h, hhandled, hdata]

/-- Clearing a node deactivates its entries and leaves the others as they are. -/
theorem entries_clearNode (fm : FaultManager) (sourceNode : UInt8) :
    (faultManagerClearNode fm sourceNode).faults.entries = fm.faults.entries.map
      fun e => if e.sourceNode = sourceNode then { e with active := false } else e := by
  rw [faultManagerClearNode, FaultManager.clearWhere, Core.Table.entries_map]
  apply List.map_congr_left
  intro e _
  by_cases hnode : e.sourceNode = sourceNode
  · subst hnode
    cases hactive : e.active with
    | true => simp
    | false =>
      have hsame : ({ e with active := false } : Fault) = e := by rw [← hactive]
      simp [hsame]
  · simp [hnode]

/-- The active entries of the table are counted without wrapping. -/
theorem toNat_faultManagerActiveCount (fm : FaultManager) :
    (faultManagerActiveCount fm).toNat = fm.faults.entries.countP (·.active) := by
  have hle : fm.faults.entries.countP (·.active) ≤ 16 :=
    Nat.le_trans List.countP_le_length fm.faults.length_le
  rw [faultManagerActiveCount, UInt8.toNat_ofNat_of_lt']
  exact Nat.lt_of_le_of_lt hle (by decide)

/-- In every state whose counters match the table and whose clear-all flag is off, the
requests for the codes are exact. -/
theorem DtcsExact.of_countsMatch {ctx : GatewayCtx} (hcounts : CountsMatch ctx.fm)
    (hbug : ctx.cfg.diagClearAllBug = false) : DtcsExact ctx where
  counts := hcounts
  cleared f hservice hsession := by
    obtain ⟨out, hstep⟩ := gatewayStep_request_eq hservice ctx true
    have hserved : (diagService ctx mcDiagClearDtcs true).1.fm =
        faultManagerClearNode ctx.fm mcNodeBms := by
      have hclear : (diagService ctx mcDiagClearDtcs true).1 = (clearDtcs ctx true).1 := rfl
      rw [hclear, clearDtcs_eq, if_pos ⟨hsession, rfl⟩]
      exact if_neg (by simp [hbug])
    rw [hstep]
    show (diagService ctx mcDiagClearDtcs true).1.fm.faults.entries = _ ∧
      CountsMatch (diagService ctx mcDiagClearDtcs true).1.fm
    rw [hserved]
    exact ⟨entries_clearNode ctx.fm mcNodeBms, hcounts.clearWhere _⟩
  rejected f take hservice hsession := by
    obtain ⟨out, hstep⟩ := gatewayStep_request_eq hservice ctx take
    have hreply : diagService ctx mcDiagClearDtcs take = (ctx, ⟨mcDiagRejected, 0, 0⟩) :=
      if_pos hsession
    rw [hreply] at hstep
    refine ⟨⟨_, framesOf_emitted_request hservice ctx take, ?_⟩, ?_⟩
    · rw [(diagResponseFrame_data _ _ _).2, hreply]
    · rw [hstep]
      exact ⟨rfl, rfl, rfl, rfl⟩
  read f hservice := by
    have hreply : (diagService ctx mcDiagReadDtcs true).2 =
        ⟨mcDiagOk, (firstActiveDtc ctx true).1, (firstActiveDtc ctx true).2⟩ := rfl
    refine ⟨_, framesOf_emitted_request hservice ctx true, ?_, ?_, ?_⟩
    · rw [(diagResponseFrame_data _ _ _).2, hreply]
    · rw [(diagResponseFrame_values _ _ _).1, hreply]
      exact toNat_faultManagerActiveCount ctx.fm
    · intro before e after hentries hbefore hactive
      have hfirst : ctx.fm.faults.entries.find? (·.active) = some e := by
        rw [List.find?_eq_some_iff_append]
        exact ⟨hactive, before, after, hentries, fun b hb => by simp [hbefore b hb]⟩
      rw [(diagResponseFrame_values _ _ _).2, hreply]
      show ((ctx.fm.faults.entries.find? (·.active)).map (·.faultCode)).getD 0 = e.faultCode
      rw [hfirst]
      rfl

/-- With the scripts and the clear-all flag off, the requests for the codes are exact in every
reachable state. -/
theorem gatewayRun_dtcs_exact {cfg : GatewayConfig} (hscripts : cfg.ScriptsOff)
    (hbug : cfg.diagClearAllBug = false) (ops : List GatewayOp) :
    DtcsExact (Core.run gatewayStep (gatewayBoot cfg) ops) := by
  apply DtcsExact.of_countsMatch
  · exact (faultsConsistent_run cfg ops).counts
  · rw [(sessionGuarded_run hscripts ops).2]
    exact hbug

/-- A critical BMS fault and a session behind the boot: the request to clear is in scope. -/
theorem gatewayRun_dtcs_exact_session :
    (Core.run gatewayStep (gatewayBoot .off)
        [.frame (bmsFaultFrame mcBmsFaultOvertemp) true,
          .frame (diagFrame mcDiagStartSession) true]).diagSessionActive = true ∧
      DtcsExact (Core.run gatewayStep (gatewayBoot .off)
        [.frame (bmsFaultFrame mcBmsFaultOvertemp) true,
          .frame (diagFrame mcDiagStartSession) true]) :=
  ⟨by decide +kernel, gatewayRun_dtcs_exact scriptsOff_off rfl _⟩

/-! ### Answers under contention of the mutex -/

/-- No fault of the BMS is active. -/
def BmsFaultsCleared (fm : FaultManager) : Prop :=
  ∀ e ∈ fm.faults.entries, e.sourceNode = mcNodeBms → e.active = false

/-- What the answer to a request for the codes says is true of the table behind it. -/
structure DtcAnswerTrue (ctx : GatewayCtx) (f : RxFrame) (take : Bool) : Prop where
  /-- Behind a clear answered with OK no fault of the BMS is active. -/
  cleared : diagServiceOf f.toMcCanFrame = some mcDiagClearDtcs →
    ∀ response ∈ framesOf mcMsgDiagResponse (emitted ctx (.frame f take)),
      response.data.get 3 = mcDiagOk → BmsFaultsCleared (gatewayStep ctx (.frame f take)).fm
  /-- A read answered with OK carries the number of active faults. -/
  read : diagServiceOf f.toMcCanFrame = some mcDiagReadDtcs →
    ∀ response ∈ framesOf mcMsgDiagResponse (emitted ctx (.frame f take)),
      response.data.get 3 = mcDiagOk → (response.data.get 4).toNat =
        (gatewayStep ctx (.frame f take)).fm.faults.entries.countP (·.active)

/-- A request that misses the mutex has nothing to misreport. -/
structure TimeoutHarmless (ctx : GatewayCtx) (f : RxFrame) : Prop where
  /-- A clear is rejected for want of a session, or there is no fault of the BMS to clear. -/
  clear : diagServiceOf f.toMcCanFrame = some mcDiagClearDtcs →
    ctx.diagSessionActive = false ∨ BmsFaultsCleared ctx.fm
  /-- A read finds no active fault to count. -/
  read : diagServiceOf f.toMcCanFrame = some mcDiagReadDtcs →
    ∀ e ∈ ctx.fm.faults.entries, e.active = false

/-- Either clear, of the BMS or of every node, leaves no fault of the BMS active. -/
theorem bmsFaultsCleared_clearedFaults (ctx : GatewayCtx) :
    BmsFaultsCleared (clearedFaults ctx) := by
  have hclear (test : Fault → Bool) (htest : ∀ e, e.sourceNode = mcNodeBms → test e = true) :
      BmsFaultsCleared (ctx.fm.clearWhere test) := by
    intro e he hnode
    simp only [FaultManager.clearWhere, Core.Table.entries_map, List.mem_map] at he
    obtain ⟨old, -, rfl⟩ := he
    by_cases hcleared : (test old && old.active) = true
    · rw [if_pos hcleared]
    · rw [if_neg hcleared] at hnode ⊢
      simpa [htest old hnode] using hcleared
  unfold clearedFaults
  split
  · exact hclear _ fun _ _ => rfl
  · exact hclear _ fun e he => by simp [he]

/-- The answer to a clear is true if the mutex was obtained, no session is open or nothing of
the BMS is active, and only then. -/
theorem clearAnswer_true_iff {f : RxFrame} (ctx : GatewayCtx) (take : Bool)
    (hservice : diagServiceOf f.toMcCanFrame = some mcDiagClearDtcs) :
    (∀ response ∈ framesOf mcMsgDiagResponse (emitted ctx (.frame f take)),
      response.data.get 3 = mcDiagOk → BmsFaultsCleared (gatewayStep ctx (.frame f take)).fm) ↔
      take = true ∨ ctx.diagSessionActive = false ∨ BmsFaultsCleared ctx.fm := by
  obtain ⟨out, hstep⟩ := gatewayStep_request_eq hservice ctx take
  have hserved : (diagService ctx mcDiagClearDtcs take).1 =
      if ctx.diagSessionActive = true ∧ take = true then { ctx with fm := clearedFaults ctx }
      else ctx := clearDtcs_eq ctx take
  have hstatus : (diagService ctx mcDiagClearDtcs take).2.status = mcDiagOk ↔
      ctx.diagSessionActive = true := diagService_clear_status ctx take
  rw [framesOf_emitted_request hservice ctx take, List.forall_mem_singleton,
    (diagResponseFrame_data _ _ _).2, hstatus, hstep]
  show (_ → BmsFaultsCleared (diagService ctx mcDiagClearDtcs take).1.fm) ↔ _
  rw [hserved]
  cases hsession : ctx.diagSessionActive with
  | false => simp
  | true =>
    cases take with
    | false => simp
    | true => simpa using bmsFaultsCleared_clearedFaults ctx

/-- The answer to a read is true if the mutex was obtained or no fault is active, and only
then. -/
theorem readAnswer_true_iff {f : RxFrame} (ctx : GatewayCtx) (take : Bool)
    (hservice : diagServiceOf f.toMcCanFrame = some mcDiagReadDtcs) :
    (∀ response ∈ framesOf mcMsgDiagResponse (emitted ctx (.frame f take)),
      response.data.get 3 = mcDiagOk → (response.data.get 4).toNat =
        (gatewayStep ctx (.frame f take)).fm.faults.entries.countP (·.active)) ↔
      take = true ∨ ∀ e ∈ ctx.fm.faults.entries, e.active = false := by
  obtain ⟨out, hstep⟩ := gatewayStep_request_eq hservice ctx take
  have hreply : (diagService ctx mcDiagReadDtcs take).2 =
      ⟨mcDiagOk, (firstActiveDtc ctx take).1, (firstActiveDtc ctx take).2⟩ := rfl
  rw [framesOf_emitted_request hservice ctx take, List.forall_mem_singleton,
    (diagResponseFrame_data _ _ _).2, (diagResponseFrame_values _ _ _).1, hreply, hstep]
  show (mcDiagOk = mcDiagOk → (firstActiveDtc ctx take).1.toNat =
    ctx.fm.faults.entries.countP (·.active)) ↔ _
  rw [forall_prop_of_true rfl]
  cases take with
  | true => exact iff_of_true (toNat_faultManagerActiveCount ctx.fm) (.inl rfl)
  | false =>
    have hzero : (firstActiveDtc ctx false).1.toNat = 0 := rfl
    rw [hzero, eq_comm, List.countP_eq_zero]
    simp

/-- In every gateway state and for every outcome of the mutex, the answer to a request is true
exactly when the mutex was obtained or missing it leaves nothing to misreport. -/
theorem dtcAnswer_true_iff (ctx : GatewayCtx) (f : RxFrame) (take : Bool) :
    DtcAnswerTrue ctx f take ↔ take = true ∨ TimeoutHarmless ctx f := by
  constructor
  · intro h
    by_cases htake : take = true
    · exact .inl htake
    · refine .inr ⟨fun hservice => ?_, fun hservice => ?_⟩
      · exact ((clearAnswer_true_iff ctx take hservice).mp (h.cleared hservice)).resolve_left htake
      · exact ((readAnswer_true_iff ctx take hservice).mp (h.read hservice)).resolve_left htake
  · intro h
    refine ⟨fun hservice => ?_, fun hservice => ?_⟩
    · exact (clearAnswer_true_iff ctx take hservice).mpr (h.imp_right fun h => h.clear hservice)
    · exact (readAnswer_true_iff ctx take hservice).mpr (h.imp_right fun h => h.read hservice)

/-- Inside a session, a clear that misses the mutex is answered with OK while the overtemperature
fault stays active. -/
theorem missedClear_answers_ok : ¬ ∀ ctx f take, DtcAnswerTrue ctx f take := by
  intro hall
  have hservice : diagServiceOf (diagFrame mcDiagClearDtcs).toMcCanFrame =
      some mcDiagClearDtcs := by decide
  have hcleared := (hall (Core.run gatewayStep (gatewayBoot .off)
    [.frame (bmsFaultFrame mcBmsFaultOvertemp) true, .frame (diagFrame mcDiagStartSession) true])
    (diagFrame mcDiagClearDtcs) false).cleared hservice
  have hactive := hcleared _ (by
    rw [framesOf_emitted_request hservice]
    exact List.mem_singleton.mpr rfl) (by decide +kernel)
  exact absurd (hactive ⟨mcNodeBms, mcBmsFaultOvertemp, true, 2⟩ (by decide +kernel) rfl)
    (by decide)

end Microcar.Gateway
