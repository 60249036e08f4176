import Microcar.Gateway.Reachable

/-!
# From a critical BMS fault to FAULT

A critical BMS fault frame is reported into a table of sixteen entries that never frees
one, and the caller ignores a dropped report. The main result says in which reachable
states a critical fault frame takes every next mode update to FAULT, whatever happens in
between short of an accepted request to clear the codes.
-/

namespace Microcar.Gateway

/-- The step updates the vehicle mode. -/
def GatewayOp.isUpdate : GatewayOp → Bool
  | .updateMode _ _ => true
  | _ => false

/-- Behind the fault frame, every next mode update returns FAULT unless a request to clear
the codes is accepted first. -/
def FaultFrameHandled (ctx : GatewayCtx) (f : RxFrame) : Prop :=
  ∀ between nowMs, (∀ op ∈ between, op.isUpdate = false) →
    Core.StepsMeet gatewayStep (fun s op => ¬ AcceptsClear s op) (gatewayStep ctx (.frame f true))
      between →
    (Core.run gatewayStep ctx (.frame f true :: between ++ [.updateMode nowMs true])).gs.mode =
      .fault

/-- A fault frame dispatched under the mutex reports its code. -/
theorem faultFrame_eq {ctx : GatewayCtx} {f : RxFrame} (hid : f.id = mcMsgBmsFault) :
    ∃ notification, gatewayStep ctx (.frame f true) = { ctx with
      fm := (faultManagerReport ctx.fm mcNodeBms (f.data.get 0)
        (faultManagerBmsSeverity (f.data.get 0))).1
      notification := notification } := by
  have hbeat : f.id ≠ mcMsgHeartbeat := by
    rw [hid]
    decide
  rw [gatewayStep, dispatchFrameInRx, if_neg hbeat, if_pos hid, handleBmsFault]
  split <;> exact ⟨_, rfl⟩

/-- Without an active critical fault, an update outside FAULT or inside a session does not
reach FAULT. -/
theorem updatedMode_ne_fault {ctx : GatewayCtx} (hfree : faultManagerHasCritical ctx.fm ≠ true)
    (hmode : ctx.gs.mode ≠ .fault ∨ ctx.diagSessionActive = true) (nowMs : UInt32) (take : Bool) :
    updatedMode ctx nowMs take ≠ .fault := by
  intro hfault
  rcases (updatedMode_eq_fault_iff ctx nowMs take).mp hfault with hcritical | ⟨hclosed, hmode'⟩
  · exact hfree hcritical.2
  · rcases hmode with hmode | hopen
    · exact hmode hmode'
    · exact absurd (hclosed.symm.trans hopen) (by decide)

/-- A request of the tester for the given service. -/
def diagFrame (service : UInt8) : RxFrame :=
  .ofPayload mcMsgDiagRequest mcNodeDiagnostics [service, 1, 0]

/-- Outside DRIVE the request opens a session and leaves the faults alone. -/
theorem startSession_step {ctx : GatewayCtx} (h : ¬ SessionBlocked ctx) :
    (gatewayStep ctx (.frame (diagFrame mcDiagStartSession) true)).fm = ctx.fm ∧
      (gatewayStep ctx (.frame (diagFrame mcDiagStartSession) true)).diagSessionActive = true := by
  have hservice : diagServiceOf (diagFrame mcDiagStartSession).toMcCanFrame =
      some mcDiagStartSession := rfl
  have hmove := dispatchFrameInRx_move ctx (diagFrame mcDiagStartSession).toMcCanFrame true
  rw [gatewayStep]
  generalize dispatchFrameInRx ctx (diagFrame mcDiagStartSession).toMcCanFrame true = ctx'
    at hmove ⊢
  cases hmove with
  | opened => exact ⟨rfl, rfl⟩
  | beat hid => exact absurd hid (by decide)
  | fault hid => exact absurd hid (by decide)
  | closed hother => exact absurd (hservice.symm.trans hother) (by decide)
  | cleared hother => exact absurd (hservice.symm.trans hother) (by decide)
  | answered hother hstart =>
    exact absurd (hstart (Option.some.inj (hother.symm.trans hservice))) h
  | ignored _ _ hnone => exact absurd (hservice.symm.trans hnone) (by decide)

/-- Behind a critical fault frame a critical fault is active exactly when one was before or the
table accepts the report. -/
theorem hasCritical_faultFrame_iff {ctx : GatewayCtx} (h : FaultsConsistent ctx.fm) {f : RxFrame}
    (hid : f.id = mcMsgBmsFault) (hseverity : faultManagerBmsSeverity (f.data.get 0) = 2) :
    faultManagerHasCritical (gatewayStep ctx (.frame f true)).fm = true ↔
      faultManagerHasCritical ctx.fm = true ∨ ctx.fm.Accepts mcNodeBms (f.data.get 0) := by
  obtain ⟨notification, heq⟩ := @faultFrame_eq ctx f hid
  have hreport := h.hasCritical_report_iff mcNodeBms (f.data.get 0)
  rw [reportedSeverity_bms, hseverity] at hreport
  rw [heq, hseverity, hreport]
  simp

/-- The mode of the next update behind the frame. -/
theorem mode_nextUpdate (ctx : GatewayCtx) (f : RxFrame) (between : List GatewayOp)
    (nowMs : UInt32) :
    (Core.run gatewayStep ctx (.frame f true :: between ++ [.updateMode nowMs true])).gs.mode =
      updatedMode (Core.run gatewayStep (gatewayStep ctx (.frame f true)) between) nowMs true := by
  rw [List.cons_append, Core.run_cons, Core.run_snoc, gatewayStep_updateMode]

/-- With a critical fault active behind it, the frame is handled. -/
theorem faultFrameHandled_of_critical {ctx : GatewayCtx} (h : FaultsConsistent ctx.fm)
    {f : RxFrame} (hactive : faultManagerHasCritical (gatewayStep ctx (.frame f true)).fm = true) :
    FaultFrameHandled ctx f := by
  intro between nowMs _ hclear
  have hkept := hclear.run_invariant
    (I := fun s : GatewayCtx => FaultsConsistent s.fm ∧ faultManagerHasCritical s.fm = true)
    (fun s op hs hnot =>
      ⟨(faultSafe_gatewayStep s op).consistent hs.1, hasCritical_step hs.1 hs.2 hnot⟩)
    ⟨(faultSafe_gatewayStep ctx _).consistent h, hactive⟩
  rw [mode_nextUpdate]
  exact if_pos ⟨rfl, hkept.2⟩

/-- A handled frame leaves a critical fault active: otherwise the next update misses FAULT,
from FAULT itself behind a session request. -/
theorem FaultFrameHandled.hasCritical {ctx : GatewayCtx} {f : RxFrame}
    (h : FaultFrameHandled ctx f) (hid : f.id = mcMsgBmsFault) :
    faultManagerHasCritical (gatewayStep ctx (.frame f true)).fm = true := by
  obtain ⟨notification, heq⟩ := @faultFrame_eq ctx f hid
  by_contra hfree
  by_cases hmode : ctx.gs.mode = .fault
  · have hsession : ¬ SessionBlocked (gatewayStep ctx (.frame f true)) := by
      rw [SessionBlocked, heq, hmode]
      simp
    obtain ⟨hfm, hopen⟩ := startSession_step hsession
    have hkeep : ¬ AcceptsClear (gatewayStep ctx (.frame f true))
        (.frame (diagFrame mcDiagStartSession) true) := by
      rw [acceptsClear_frame_iff]
      exact fun hclear => absurd hclear.1 (by decide)
    have hfault := h [.frame (diagFrame mcDiagStartSession) true] 0
      (by simp [GatewayOp.isUpdate]) ⟨hkeep, trivial⟩
    rw [mode_nextUpdate, Core.run_cons, Core.run_nil] at hfault
    exact updatedMode_ne_fault (hfm ▸ hfree) (.inr hopen) 0 true hfault
  · have hfault := h [] 0 (by simp) trivial
    rw [mode_nextUpdate, Core.run_nil] at hfault
    refine updatedMode_ne_fault hfree (.inl ?_) 0 true hfault
    rw [heq]
    exact hmode

/-- Whatever the flags, in every reachable state a critical fault frame takes every next mode
update to FAULT, unless the codes are cleared first, exactly when a critical fault is active
already, its code is tracked already, or the fault table has room. -/
theorem gatewayRun_criticalFault_iff (cfg : GatewayConfig) (before : List GatewayOp) {f : RxFrame}
    (hid : f.id = mcMsgBmsFault) (hseverity : faultManagerBmsSeverity (f.data.get 0) = 2) :
    FaultFrameHandled (Core.run gatewayStep (gatewayBoot cfg) before) f ↔
      faultManagerHasCritical (Core.run gatewayStep (gatewayBoot cfg) before).fm = true ∨
        (Core.run gatewayStep (gatewayBoot cfg) before).fm.Accepts mcNodeBms (f.data.get 0) := by
  have hconsistent := faultsConsistent_run cfg before
  rw [← hasCritical_faultFrame_iff hconsistent hid hseverity]
  constructor
  · intro hhandled
    exact hhandled.hasCritical hid
  · intro hactive
    exact faultFrameHandled_of_critical hconsistent hactive

/-- A BMS fault frame with the given code. -/
def bmsFaultFrame (code : UInt8) : RxFrame :=
  .ofPayload mcMsgBmsFault code []

/-- Sixteen unknown fault codes fill the table. -/
def unknownFaultsRun : List GatewayOp :=
  (List.range 16).map fun k => .frame (bmsFaultFrame (UInt8.ofNat k + 6)) true

/-- The overtemperature fault after an empty history is handled. -/
theorem gatewayRun_criticalFault_overtemp :
    faultManagerBmsSeverity mcBmsFaultOvertemp = 2 ∧
      FaultFrameHandled (gatewayBoot .off) (bmsFaultFrame mcBmsFaultOvertemp) :=
  ⟨rfl, (gatewayRun_criticalFault_iff .off [] (f := bmsFaultFrame mcBmsFaultOvertemp) rfl
    rfl).mpr (.inr (.inr rfl))⟩

/-- Behind sixteen unknown codes an overtemperature frame is dropped, and the next mode
update stays out of FAULT. -/
theorem overtemp_dropped :
    ¬ ∀ before f, f.id = mcMsgBmsFault → faultManagerBmsSeverity (f.data.get 0) = 2 →
      FaultFrameHandled (Core.run gatewayStep (gatewayBoot .off) before) f := by
  intro hall
  have hfault := hall unknownFaultsRun (bmsFaultFrame mcBmsFaultOvertemp) rfl rfl [] 10 (by simp)
    trivial
  have hmode : (Core.run gatewayStep (Core.run gatewayStep (gatewayBoot .off) unknownFaultsRun)
      (.frame (bmsFaultFrame mcBmsFaultOvertemp) true :: [] ++ [.updateMode 10 true])).gs.mode =
      .off := by
    decide +kernel
  rw [hmode] at hfault
  exact absurd hfault (by decide)

end Microcar.Gateway
