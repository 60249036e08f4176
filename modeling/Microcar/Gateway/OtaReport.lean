import Mathlib.Tactic.IntervalCases
import Microcar.Gateway.Vocabulary

/-!
# What the update script reports

The update script takes six actions, one every hundred milliseconds, and traces what becomes of the
update. Nothing else in the gateway touches the slots or traces under these labels, so what has been
reported depends on the fault mode, the flag of the CRC check and the periods of the loop alone.
-/

namespace Microcar.Gateway

open Microcar.Core

/-! ### Words of the update script -/

/-- The labels of the update script. -/
inductive OtaLabel where
  | state
  | crcOk
  | slot
  | bootResult
  | rollback
  | activeSlot
  deriving DecidableEq, Repr

/-- The label as the trace spells it. -/
def OtaLabel.text : OtaLabel → String
  | state => "ota_state"
  | crcOk => "ota_crc_ok"
  | slot => "ota_slot"
  | bootResult => "ota_boot_result"
  | rollback => "ota_rollback"
  | activeSlot => "ota_active_slot"

/-- The label of the update script with this text, if it is one. -/
def otaLabel? (text : String) : Option OtaLabel :=
  [.state, .crcOk, .slot, .bootResult, .rollback, .activeSlot].find? fun label =>
    label.text == text

/-- A text is found as the label that it spells. -/
theorem otaLabel?_eq_some_iff {text : String} {label : OtaLabel} :
    otaLabel? text = some label ↔ text = label.text := by
  constructor
  · intro h
    unfold otaLabel? at h
    have htext := List.find?_some h
    exact (beq_iff_eq.mp htext).symm
  · rintro rfl
    cases label <;> rfl

/-- A label of the update script with its value. -/
abbrev OtaWord := OtaLabel × UInt32

/-- The words of the update script in a log. -/
def otaWords (out : List Emission) : List OtaWord :=
  out.filterMap fun emission =>
    match emission with
    | .trace text value => (otaLabel? text).map fun label => (label, value)
    | .can _ => none

/-- The words of two logs in turn. -/
theorem otaWords_append (out more : List Emission) :
    otaWords (out ++ more) = otaWords out ++ otaWords more := List.filterMap_append

/-- Whoever speaks under other labels reports nothing of the update. -/
theorem Speaks.otaWords {labels : List String} {ctx ctx' : GatewayCtx} (h : Speaks labels ctx ctx')
    (hother : ∀ label ∈ labels, otaLabel? label = none) :
    otaWords ctx'.out = otaWords ctx.out := by
  obtain ⟨new, hout, hnew⟩ := h
  have hnone : Gateway.otaWords new = [] := by
    apply List.filterMap_eq_nil_iff.mpr
    intro emission hmem
    cases emission with
    | trace text value => simp [hother text (hnew text value hmem)]
    | can frame => rfl
  rw [hout, otaWords_append, hnone, List.append_nil]

/-- The other tasks use none of the labels. -/
theorem otaLabel?_tasks : ∀ label ∈ diagLabels ++ loopLabels, otaLabel? label = none := by
  simp [diagLabels, loopLabels, otaLabel?, OtaLabel.text]

/-- Nor do the other scripts. -/
theorem otaLabel?_aloof : ∀ label ∈ diagLabels ++ chargingLabels, otaLabel? label = none := by
  simp [diagLabels, chargingLabels, otaLabel?, OtaLabel.text]

/-! ### The report -/

/-- How the update of a script ends. -/
inductive OtaEnd where
  | healthy
  | badCrc
  | interrupted
  | badHealth
  | powercut
  deriving DecidableEq, Repr

/-- The end that the flags bring about. -/
def GatewayConfig.otaEnd (cfg : GatewayConfig) : OtaEnd :=
  if cfg.otaFaultMode = otaFaultInterruptedWrite then .interrupted
  else if cfg.otaFaultMode = otaFaultBadCrc then if cfg.otaCrcCheckBug then .healthy else .badCrc
  else if cfg.otaFaultMode = otaFaultPowercutPrecommit then .powercut
  else if cfg.otaFaultMode = otaFaultBadHealth then .badHealth
  else .healthy

/-- What a rollback reports: slot A stays the active one. -/
def rollbackReport : List OtaWord :=
  [(.state, 6), (.rollback, 1), (.activeSlot, 0), (.bootResult, 0)]

/-- What the six actions report. -/
def OtaEnd.report : OtaEnd → List (List OtaWord)
  | healthy => [[(.state, 0)], [(.state, 1)], [(.state, 2), (.crcOk, 1)],
      [(.state, 3), (.slot, 1)], [(.state, 4)], [(.state, 5), (.bootResult, 1)]]
  | badCrc => [[(.state, 0)], [(.state, 1)], (.state, 2) :: (.crcOk, 0) :: rollbackReport,
      [], [], []]
  | interrupted => [[(.state, 0)], (.state, 1) :: rollbackReport, [], [], [], []]
  | badHealth => [[(.state, 0)], [(.state, 1)], [(.state, 2), (.crcOk, 1)],
      [(.state, 3), (.slot, 1)], [(.state, 4)], rollbackReport]
  | powercut => [[(.state, 0)], [(.state, 1)], [(.state, 2), (.crcOk, 1)], rollbackReport, [], []]

/-- What has been reported behind `n` periods of the loop, of which ten make an action due. -/
def OtaEnd.reportBy (outcome : OtaEnd) (n : Nat) : List OtaWord :=
  (outcome.report.take (n / 10)).flatten

/-! ### Writes of the actions -/

/-- What an action of the update script makes of the slots, with what it emits. -/
abbrev OtaWrite := Ota.McOtaSlotState → Ota.McOtaSlotState × List Emission

/-- The context behind a write. -/
def GatewayCtx.writeOta (ctx : GatewayCtx) (write : OtaWrite) : GatewayCtx :=
  { ctx with ota := (write ctx.ota).1, out := ctx.out ++ (write ctx.ota).2 }

/-- The word of a state. -/
def emitState (s : Ota.McOtaSlotState) : Emission := .trace "ota_state" s.state.toUInt32

/-- The emissions of a rollback. -/
def emitRollback (s : Ota.McOtaSlotState) : List Emission :=
  [emitState s, .trace "ota_rollback" (if s.rolledBack then 1 else 0),
    .trace "ota_active_slot" s.activeSlot.toUInt32, .trace "ota_boot_result" 0]

/-- The state at the start of the script. -/
def stateWrite : OtaWrite := fun s => (s, [emitState s])

/-- The download. -/
def downloadWrite (complete : Int) : OtaWrite := fun s =>
  let begun := Ota.mcOtaBeginDownload s
  let (ended, finished) := Ota.mcOtaFinishDownload begun complete
  (ended, emitState begun :: if finished then [] else emitRollback ended)

/-- The verification. -/
def verifyWrite (crcOk : Int) : OtaWrite := fun s =>
  if s.state = Ota.mcOtaDownloading then
    let (checked, verified) := Ota.mcOtaVerify s crcOk
    (checked, .trace "ota_state" Ota.mcOtaVerifying.toUInt32 ::
      .trace "ota_crc_ok" (if checked.crcOk then 1 else 0) ::
        if verified then [] else emitRollback checked)
  else (s, [])

/-- The commit, unless the power is cut. -/
def commitWrite (powercut : Bool) : OtaWrite := fun s =>
  if s.state = Ota.mcOtaVerifying then
    if powercut then (Ota.mcOtaRollback s, emitRollback (Ota.mcOtaRollback s))
    else
      let armed := (Ota.mcOtaCommit s).1
      (armed, [emitState armed, .trace "ota_slot" armed.targetSlot.toUInt32])
  else (s, [])

/-- The reboot. -/
def rebootWrite : OtaWrite := fun s =>
  if s.state = Ota.mcOtaCommitPending then (Ota.mcOtaReboot s, [emitState (Ota.mcOtaReboot s)])
  else (s, [])

/-- The health check. -/
def healthWrite (healthy : Int) : OtaWrite := fun s =>
  if s.state = Ota.mcOtaRebooting then
    let (judged, passed) := Ota.mcOtaHealthCheck s healthy
    (judged, if passed then
        [emitState judged, .trace "ota_boot_result" (if judged.bootHealthy then 1 else 0)]
      else emitRollback judged)
  else (s, [])

/-- A rollback is reported from the slots alone. -/
theorem emitOtaRollback_eq (ctx : GatewayCtx) :
    emitOtaRollback ctx = { ctx with out := ctx.out ++ emitRollback ctx.ota } := by
  simp [emitOtaRollback, GatewayCtx.traceOtaState, GatewayCtx.trace, emitRollback, emitState]

/-- The download is a write. -/
theorem otaScriptDownload_eq (complete : Int) (ctx : GatewayCtx) :
    otaScriptDownload complete ctx = ctx.writeOta (downloadWrite complete) := by
  unfold otaScriptDownload GatewayCtx.writeOta downloadWrite
  dsimp only [GatewayCtx.traceOtaState, GatewayCtx.trace]
  generalize Ota.mcOtaFinishDownload (Ota.mcOtaBeginDownload ctx.ota) complete = result
  obtain ⟨ended, finished⟩ := result
  cases finished with
  | true => simp [emitState]
  | false => simp [emitOtaRollback_eq, emitState]

/-- So is the verification. -/
theorem otaScriptVerify_eq (crcOk : Int) (ctx : GatewayCtx) :
    otaScriptVerify crcOk ctx = ctx.writeOta (verifyWrite crcOk) := by
  unfold otaScriptVerify GatewayCtx.writeOta verifyWrite
  split_ifs with hopen
  · dsimp only [GatewayCtx.trace]
    generalize Ota.mcOtaVerify ctx.ota crcOk = result
    obtain ⟨checked, verified⟩ := result
    cases verified with
    | true => simp
    | false => simp [emitOtaRollback_eq]
  · simp

/-- So is the commit, by the fault mode of the build. -/
theorem otaScriptCommit_eq (ctx : GatewayCtx) : otaScriptCommit ctx = ctx.writeOta
    (commitWrite (decide (ctx.cfg.otaFaultMode = otaFaultPowercutPrecommit))) := by
  unfold otaScriptCommit GatewayCtx.writeOta commitWrite
  by_cases hopen : ctx.ota.state = Ota.mcOtaVerifying
  · by_cases hcut : ctx.cfg.otaFaultMode = otaFaultPowercutPrecommit
    · simp only [if_pos hopen, hcut, if_true, decide_true]
      exact emitOtaRollback_eq _
    · simp only [if_pos hopen, hcut, if_false, decide_false, Bool.false_eq_true]
      simp [GatewayCtx.traceOtaState, GatewayCtx.trace, emitState]
  · rw [if_neg hopen, if_neg hopen]
    simp

/-- So is the restart. -/
theorem otaScriptReboot_eq (ctx : GatewayCtx) :
    otaScriptReboot ctx = ctx.writeOta rebootWrite := by
  unfold otaScriptReboot GatewayCtx.writeOta rebootWrite
  split_ifs with hopen
  · rfl
  · simp

/-- So is the health check. -/
theorem otaScriptHealthCheck_eq (healthy : Int) (ctx : GatewayCtx) :
    otaScriptHealthCheck healthy ctx = ctx.writeOta (healthWrite healthy) := by
  unfold otaScriptHealthCheck GatewayCtx.writeOta healthWrite
  split_ifs with hopen
  · dsimp only [GatewayCtx.traceOtaState, GatewayCtx.trace]
    generalize Ota.mcOtaHealthCheck ctx.ota healthy = result
    obtain ⟨judged, passed⟩ := result
    cases passed with
    | true => simp [emitState]
    | false => simp [emitOtaRollback_eq]
  · simp

/-- The writes of the six actions. -/
def OtaEnd.writes (outcome : OtaEnd) : List OtaWrite :=
  [stateWrite, downloadWrite (if outcome = .interrupted then 0 else 1),
    verifyWrite (if outcome = .badCrc then 0 else 1), commitWrite (decide (outcome = .powercut)),
    rebootWrite, healthWrite (if outcome = .badHealth then 0 else 1)]

/-- The action makes this write. -/
def Makes (cfg : GatewayConfig) (a : ScriptAction) (write : OtaWrite) : Prop :=
  ∀ ctx : GatewayCtx, ctx.cfg = cfg → a.act ctx = ctx.writeOta write

/-- The actions make the writes that the flags ask for. -/
theorem otaScriptActions_make (cfg : GatewayConfig) :
    List.Forall₂ (Makes cfg) (otaScriptActions cfg) cfg.otaEnd.writes := by
  have hcomplete : (if cfg.otaFaultMode ≠ otaFaultInterruptedWrite then (1 : Int) else 0) =
      if cfg.otaEnd = .interrupted then 0 else 1 := by
    unfold GatewayConfig.otaEnd
    split_ifs <;> simp_all
  have hcrc : (if cfg.otaFaultMode ≠ otaFaultBadCrc ∨ cfg.otaCrcCheckBug then (1 : Int) else 0) =
      if cfg.otaEnd = .badCrc then 0 else 1 := by
    unfold GatewayConfig.otaEnd
    split_ifs <;> simp_all [otaFaultInterruptedWrite, otaFaultBadCrc]
  have hcut : decide (cfg.otaFaultMode = otaFaultPowercutPrecommit) =
      decide (cfg.otaEnd = .powercut) := by
    unfold GatewayConfig.otaEnd
    split_ifs <;> simp_all [otaFaultInterruptedWrite, otaFaultBadCrc, otaFaultPowercutPrecommit]
  have hhealthy : (if cfg.otaFaultMode ≠ otaFaultBadHealth then (1 : Int) else 0) =
      if cfg.otaEnd = .badHealth then 0 else 1 := by
    unfold GatewayConfig.otaEnd
    split_ifs <;> simp_all [otaFaultInterruptedWrite, otaFaultBadCrc, otaFaultPowercutPrecommit,
      otaFaultBadHealth]
  unfold otaScriptActions OtaEnd.writes
  dsimp only
  rw [hcomplete, hcrc, hhealthy, ← hcut]
  refine .cons ?_ (.cons ?_ (.cons ?_ (.cons ?_ (.cons ?_ (.cons ?_ .nil)))))
  · exact fun _ _ => rfl
  · exact fun ctx _ => otaScriptDownload_eq _ ctx
  · exact fun ctx _ => otaScriptVerify_eq _ ctx
  · rintro ctx rfl
    exact otaScriptCommit_eq ctx
  · exact fun ctx _ => otaScriptReboot_eq ctx
  · exact fun ctx _ => otaScriptHealthCheck_eq _ ctx

/-! ### The report of a run -/

/-- What the update script has made of a context: the slots, and the words so far. -/
def otaView (ctx : GatewayCtx) : Ota.McOtaSlotState × List OtaWord :=
  (ctx.ota, otaWords ctx.out)

/-- Slots and words behind one more write. -/
def writeView (view : Ota.McOtaSlotState × List OtaWord) (write : OtaWrite) :
    Ota.McOtaSlotState × List OtaWord :=
  ((write view.1).1, view.2 ++ otaWords (write view.1).2)

/-- The view behind a write is that of the write. -/
theorem otaView_writeOta (ctx : GatewayCtx) (write : OtaWrite) :
    otaView (ctx.writeOta write) = writeView (otaView ctx) write := by
  rw [otaView, GatewayCtx.writeOta, otaWords_append]
  rfl

/-- Actions that make writes change the view by them. -/
theorem otaView_actAll {cfg : GatewayConfig} {actions : List ScriptAction}
    {writes : List OtaWrite} (h : List.Forall₂ (Makes cfg) actions writes) {ctx : GatewayCtx}
    (hcfg : ctx.cfg = cfg) :
    otaView (actAll ScriptAction.act actions ctx) = writes.foldl writeView (otaView ctx) := by
  induction h generalizing ctx with
  | nil => rfl
  | cons hmakes _ ih =>
    rw [actAll_cons, hmakes ctx hcfg, ih (by exact hcfg), List.foldl_cons, otaView_writeOta]

/-- Ten periods make an action of the update script due. -/
theorem dueBy_ota (cfg : GatewayConfig) (n : Nat) :
    dueBy ScriptAction.dueMs periodMs n (otaScriptActions cfg) =
      (otaScriptActions cfg).take (n / 10) := by
  have hdue : ∀ a ∈ otaScriptActions cfg,
      decide (a.dueMs.toNat ≤ periodMs * n) = decide (a.dueMs.toNat / 100 ≤ n / 10) := by
    intro a ha
    rw [decide_eq_decide]
    simp only [otaScriptActions, List.mem_cons, List.not_mem_nil, or_false] at ha
    rcases ha with rfl | rfl | rfl | rfl | rfl | rfl <;> simp [periodMs] <;> omega
  rw [dueBy, List.filter_congr hdue]
  generalize n / 10 = k
  rcases Nat.lt_or_ge k 6 with hlt | hge
  · interval_cases k <;> simp [otaScriptActions]
  · rw [List.take_of_length_le hge, List.filter_eq_self]
    simp only [otaScriptActions, List.mem_cons, List.not_mem_nil, or_false]
    rintro a (rfl | rfl | rfl | rfl | rfl | rfl) <;> rw [decide_eq_true_iff] <;> simp <;> omega

/-- A longer initial stretch is a shorter one with what lies between. -/
theorem take_eq_take_append {α : Type} (l : List α) {k m : Nat} (h : k ≤ m) :
    l.take m = l.take k ++ (l.take m).drop k := by
  have hsplit := List.take_append_drop k (l.take m)
  rw [List.take_take, Nat.min_eq_left h] at hsplit
  exact hsplit.symm

/-- The actions of a period make the writes that its number adds. -/
theorem fallingDue_ota_make (cfg : GatewayConfig) (n : Nat) :
    ∃ writes, List.Forall₂ (Makes cfg) (fallingDue n (otaScriptActions cfg)) writes ∧
      cfg.otaEnd.writes.take ((n + 1) / 10) = cfg.otaEnd.writes.take (n / 10) ++ writes := by
  have hordered : InOrder ScriptAction.dueMs (otaScriptActions cfg) := by
    simp [InOrder, otaScriptActions]
  have hle : n / 10 ≤ (n + 1) / 10 := Nat.div_le_div_right n.le_succ
  have hsplit := dueBy_succ hordered periodMs n
  rw [dueBy_ota, dueBy_ota, take_eq_take_append _ hle] at hsplit
  rw [fallingDue, ← List.append_cancel_left hsplit]
  have hmakes := List.forall₂_take ((n + 1) / 10) (otaScriptActions_make cfg)
  exact ⟨_, List.forall₂_drop (n / 10) hmakes, take_eq_take_append _ hle⟩

/-- The view behind `n` periods. -/
def OtaEnd.viewBy (outcome : OtaEnd) (n : Nat) : Ota.McOtaSlotState × List OtaWord :=
  (outcome.writes.take (n / 10)).foldl writeView (Ota.mcOtaInit, [])

/-- Steps that use neither the slots nor their labels leave the view as it is. -/
theorem otaView_of_speaks {labels : List String} {ctx ctx' : GatewayCtx}
    (h : Speaks labels ctx ctx') (hother : ∀ label ∈ labels, otaLabel? label = none)
    (hota : ctx'.ota = ctx.ota) : otaView ctx' = otaView ctx := by
  rw [otaView, otaView, h.otaWords hother, hota]

/-- The other scripts leave the view as it is. -/
theorem otaView_aloof {cfg : GatewayConfig} {take : Bool} {actions : List ScriptAction}
    (h : ∀ a ∈ actions, a ∈ aloofActions cfg take) (ctx : GatewayCtx) :
    otaView (actAll ScriptAction.act actions ctx) = otaView ctx := by
  refine actAll_invariant (I := fun c => otaView c = otaView ctx) (fun a ha c hc => ?_) rfl
  have hspeaks := speaks_aloofActions cfg take a (h a ha) c
  exact (otaView_of_speaks hspeaks otaLabel?_aloof
    ((aloof_aloofActions cfg take a (h a ha)).ota c)).trans hc

/-- Behind any history the view is that of the periods so far. -/
theorem otaView_run {cfg : GatewayConfig} (hota : cfg.otaDogfoodScript = true)
    (ops : List GatewayOp) :
    (run plannedStep (plannedBoot cfg) ops).ctx.cfg = cfg ∧
      otaView (run plannedStep (plannedBoot cfg) ops).ctx =
        cfg.otaEnd.viewBy (run plannedStep (plannedBoot cfg) ops).period := by
  induction ops using List.reverseRecOn with
  | nil =>
    refine ⟨rfl, ?_⟩
    rw [run_nil, plannedBoot, OtaEnd.viewBy, Nat.zero_div, List.take_zero]
    rfl
  | append_singleton ops op ih =>
    rw [run_snoc]
    generalize run plannedStep (plannedBoot cfg) ops = s at ih ⊢
    obtain ⟨hcfg, hview⟩ := ih
    refine ⟨(cfg_plannedStep s op).trans hcfg, ?_⟩
    by_cases hscripts : ∃ take, op = .scripts take
    · obtain ⟨take, rfl⟩ := hscripts
      obtain ⟨writes, hmakes, hsplit⟩ := fallingDue_ota_make cfg s.period
      have hperiod : fallingDue s.period (enabledActions cfg take) =
          fallingDue s.period (aloofActions cfg take) ++
            fallingDue s.period (otaScriptActions cfg) := by
        rw [enabledActions, hota]
        exact falling_append periodMs s.period _ _
      have haloof : ∀ a ∈ fallingDue s.period (aloofActions cfg take),
          a ∈ aloofActions cfg take := fun a ha => List.mem_of_mem_filter ha
      have henabled : ∀ a ∈ fallingDue s.period (aloofActions cfg take),
          a ∈ enabledActions cfg take := fun a ha => List.mem_append_left _ (haloof a ha)
      have hkept := cfg_actAll henabled s.ctx
      rw [plannedStep, hcfg]
      dsimp only
      rw [hperiod, actAll_append, otaView_actAll hmakes (hkept.trans hcfg), otaView_aloof haloof,
        hview, OtaEnd.viewBy, OtaEnd.viewBy, hsplit, List.foldl_append]
    · have hother : ∀ take, op ≠ .scripts take := fun take heq => hscripts ⟨take, heq⟩
      rw [plannedStep_of_ne hother]
      exact (otaView_of_speaks (speaks_gatewayStep hother s.ctx) otaLabel?_tasks
        ((aloof_gatewayStep hother).ota s.ctx)).trans hview

/-- The words of the writes are the report, and only a healthy end changes the active slot. -/
theorem viewBy_eq (outcome : OtaEnd) (n : Nat) :
    (outcome.viewBy n).2 = outcome.reportBy n ∧
      ((outcome.viewBy n).1.activeSlot = Ota.mcOtaSlotB ↔ outcome = .healthy ∧ 60 ≤ n) := by
  have hfew : ∀ k ≤ 6, ((outcome.writes.take k).foldl writeView (Ota.mcOtaInit, [])).2 =
      (outcome.report.take k).flatten ∧
        (((outcome.writes.take k).foldl writeView (Ota.mcOtaInit, [])).1.activeSlot =
          Ota.mcOtaSlotB ↔ outcome = .healthy ∧ 6 ≤ k) := by
    intro k hk
    interval_cases k <;> cases outcome <;> exact ⟨rfl, by decide⟩
  have hsixty : 60 ≤ n ↔ 6 ≤ n / 10 := by omega
  unfold OtaEnd.viewBy OtaEnd.reportBy
  rw [hsixty]
  rcases Nat.le_total (n / 10) 6 with hle | hge
  · exact hfew (n / 10) hle
  · have hwrites : outcome.writes.length ≤ n / 10 := hge
    have hreport : outcome.report.length ≤ n / 10 := by
      cases outcome <;> exact hge
    have hall := hfew 6 le_rfl
    rw [List.take_of_length_le (by rfl), List.take_of_length_le (by cases outcome <;> rfl)] at hall
    rw [List.take_of_length_le hwrites, List.take_of_length_le hreport]
    simpa only [hge, le_refl] using hall

/-- With the update script on, the view behind a run depends on the number of its periods only. -/
theorem otaView_gatewayRun {cfg : GatewayConfig} (hota : cfg.otaDogfoodScript = true)
    (ops : List GatewayOp) :
    otaView (run gatewayStep (gatewayBoot cfg) ops) = cfg.otaEnd.viewBy (periods ops) := by
  rw [← period_run cfg ops, ← (otaView_run hota ops).2, ← (followsPlan_run cfg ops).same]
  rfl

/-- A gateway without the update script reports nothing of an update. -/
theorem otaWords_gatewayRun_off {cfg : GatewayConfig} (hota : cfg.otaDogfoodScript = false)
    (ops : List GatewayOp) : otaWords (run gatewayStep (gatewayBoot cfg) ops).out = [] := by
  have hplan : (run plannedStep (plannedBoot cfg) ops).ctx.cfg = cfg ∧
      otaView (run plannedStep (plannedBoot cfg) ops).ctx = (Ota.mcOtaInit, []) := by
    induction ops using List.reverseRecOn with
    | nil => exact ⟨rfl, rfl⟩
    | append_singleton ops op ih =>
      rw [run_snoc]
      generalize run plannedStep (plannedBoot cfg) ops = s at ih ⊢
      obtain ⟨hcfg, hview⟩ := ih
      refine ⟨(cfg_plannedStep s op).trans hcfg, ?_⟩
      by_cases hscripts : ∃ take, op = .scripts take
      · obtain ⟨take, rfl⟩ := hscripts
        have hperiod : ∀ a ∈ fallingDue s.period (enabledActions cfg take),
            a ∈ aloofActions cfg take := by
          intro a ha
          have henabled := List.mem_of_mem_filter ha
          rwa [enabledActions, hota, if_neg Bool.false_ne_true, List.append_nil] at henabled
        rw [plannedStep, hcfg]
        exact (otaView_aloof hperiod s.ctx).trans hview
      · have hother : ∀ take, op ≠ .scripts take := fun take heq => hscripts ⟨take, heq⟩
        rw [plannedStep_of_ne hother]
        exact (otaView_of_speaks (speaks_gatewayStep hother s.ctx) otaLabel?_tasks
          ((aloof_gatewayStep hother).ota s.ctx)).trans hview
  have hsame : otaView (run gatewayStep (gatewayBoot cfg) ops) = (Ota.mcOtaInit, []) := by
    rw [← hplan.2, ← (followsPlan_run cfg ops).same]
    rfl
  exact congrArg Prod.snd hsame

/-- In every run of a gateway with the update script, whatever the other tasks do, the words
reported of the update depend on the end that the fault mode and the flag of the CRC check bring
about and on the periods of the loop, and the bootloader runs the new slot exactly if the update
ends healthy and sixty periods have passed. -/
theorem gatewayRun_reports_update {cfg : GatewayConfig} (hota : cfg.otaDogfoodScript = true)
    (ops : List GatewayOp) :
    otaWords (run gatewayStep (gatewayBoot cfg) ops).out = cfg.otaEnd.reportBy (periods ops) ∧
      ((run gatewayStep (gatewayBoot cfg) ops).ota.activeSlot = Ota.mcOtaSlotB ↔
        cfg.otaEnd = .healthy ∧ 60 ≤ periods ops) := by
  have hend := viewBy_eq cfg.otaEnd (periods ops)
  rw [← otaView_gatewayRun hota ops] at hend
  exact hend

/-- A healthy update. -/
theorem gatewayRun_reports_update_healthy :
    (run gatewayStep (gatewayBoot { GatewayConfig.off with otaDogfoodScript := true })
      (List.replicate 60 (.scripts true))).ota.activeSlot = Ota.mcOtaSlotB := by
  have hreports := @gatewayRun_reports_update
    { GatewayConfig.off with otaDogfoodScript := true } rfl (List.replicate 60 (.scripts true))
  exact hreports.2.mpr ⟨rfl, (periods_replicate 60 true).ge⟩

end Microcar.Gateway
