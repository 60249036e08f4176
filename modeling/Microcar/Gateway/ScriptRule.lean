import Microcar.Gateway.Scripts

/-!
# A rule for the dogfood scripts

Apart from the diagnostic requests and the faults a script makes up, its actions write the
mode, event bits, the update slots, the script's own progress and trace words. A reflexive
and transitive relation that holds across such writes and across the made-up requests and
faults therefore holds across every loop period of every script.
-/

namespace Microcar.Gateway

/-- What the writes of a script leave alone; of the log they only add trace words. -/
structure ScriptWrite (ctx ctx' : GatewayCtx) : Prop where
  /-- The heartbeat monitor stays. -/
  hm : ctx'.hm = ctx.hm
  /-- The faults stay. -/
  fm : ctx'.fm = ctx.fm
  /-- The queue stays. -/
  hbQueue : ctx'.hbQueue = ctx.hbQueue
  /-- The flags stay. -/
  cfg : ctx'.cfg = ctx.cfg
  /-- The locals of the loop stay. -/
  locals : ctx'.locals = ctx.locals
  /-- The log grows by trace words. -/
  out : ∃ new, ctx'.out = ctx.out ++ new ∧ ∀ e ∈ new, ∃ label value, e = .trace label value

/-- A write outside these fields and the log. -/
theorem ScriptWrite.of_out_eq {ctx ctx' : GatewayCtx} (hm : ctx'.hm = ctx.hm)
    (fm : ctx'.fm = ctx.fm) (hbQueue : ctx'.hbQueue = ctx.hbQueue) (cfg : ctx'.cfg = ctx.cfg)
    (locals : ctx'.locals = ctx.locals) (out : ctx'.out = ctx.out) : ScriptWrite ctx ctx' :=
  ⟨hm, fm, hbQueue, cfg, locals, [], by simp [out], by simp⟩

/-- Writing nothing. -/
theorem ScriptWrite.refl (ctx : GatewayCtx) : ScriptWrite ctx ctx :=
  .of_out_eq rfl rfl rfl rfl rfl rfl

/-- Writes compose. -/
theorem ScriptWrite.trans {ctx ctx' ctx'' : GatewayCtx} (h : ScriptWrite ctx ctx')
    (h' : ScriptWrite ctx' ctx'') : ScriptWrite ctx ctx'' := by
  obtain ⟨new, hout, hnew⟩ := h.out
  obtain ⟨new', hout', hnew'⟩ := h'.out
  refine ⟨h'.hm.trans h.hm, h'.fm.trans h.fm, h'.hbQueue.trans h.hbQueue, h'.cfg.trans h.cfg,
    h'.locals.trans h.locals, new ++ new', ?_, ?_⟩
  · rw [hout', hout, List.append_assoc]
  · intro e he
    rcases List.mem_append.mp he with he | he
    · exact hnew e he
    · exact hnew' e he

section Writes

variable {ctx c : GatewayCtx}

/-- A trace word is such a write. -/
theorem ScriptWrite.trace (h : ScriptWrite ctx c) (label : String) (value : UInt32) :
    ScriptWrite ctx (c.trace label value) := by
  refine h.trans ⟨rfl, rfl, rfl, rfl, rfl, [.trace label value], rfl, ?_⟩
  intro e he
  exact ⟨label, value, List.mem_singleton.mp he⟩

/-- So is a new mode. -/
theorem ScriptWrite.setMode (h : ScriptWrite ctx c) (mode : McVehicleMode) :
    ScriptWrite ctx (c.setMode mode) :=
  h.trans (.of_out_eq rfl rfl rfl rfl rfl rfl)

/-- So are event bits. -/
theorem ScriptWrite.setModeEvents (h : ScriptWrite ctx c) (bits : UInt32) :
    ScriptWrite ctx (c.setModeEvents bits) :=
  h.trans (.of_out_eq rfl rfl rfl rfl rfl rfl)

/-- So is an announced mode. -/
theorem ScriptWrite.announceMode (h : ScriptWrite ctx c) : ScriptWrite ctx c.announceMode :=
  (h.trace _ _).setModeEvents _

/-- So are the update slots. -/
theorem ScriptWrite.ota (h : ScriptWrite ctx c) (ota : Ota.McOtaSlotState) :
    ScriptWrite ctx { c with ota := ota } :=
  h.trans (.of_out_eq rfl rfl rfl rfl rfl rfl)

/-- So is an emitted rollback. -/
theorem ScriptWrite.rollback (h : ScriptWrite ctx c) : ScriptWrite ctx (emitOtaRollback c) :=
  (((h.trace _ _).trace _ _).trace _ _).trace _ _

end Writes

/-- Plugging the charger in. -/
theorem scriptWrite_plugCharger (c : GatewayCtx) : ScriptWrite c (plugCharger c) :=
  ((((ScriptWrite.refl c).setMode .charging).trace _ _).trace _ _).announceMode

/-- Trying to drive off. -/
theorem scriptWrite_tryDriveOff (c : GatewayCtx) : ScriptWrite c (tryDriveOff c) := by
  have henter : ScriptWrite c { c with gs := gatewayStateEnterDrive c.gs } :=
    .of_out_eq rfl rfl rfl rfl rfl rfl
  exact (henter.trace _ _).trace _ _

/-- Downloading the image. -/
theorem scriptWrite_otaScriptDownload (complete : Int) (c : GatewayCtx) :
    ScriptWrite c (otaScriptDownload complete c) := by
  have hbegun : ScriptWrite c { c with ota := Ota.mcOtaBeginDownload c.ota }.traceOtaState :=
    ((ScriptWrite.refl c).ota _).trace _ _
  unfold otaScriptDownload
  generalize { c with ota := Ota.mcOtaBeginDownload c.ota }.traceOtaState = begun at hbegun ⊢
  dsimp only
  cases Ota.mcOtaFinishDownload begun.ota complete with
  | mk ota finished =>
    cases finished with
    | true => exact hbegun.ota ota
    | false => exact (hbegun.ota ota).rollback

/-- Verifying the image. -/
theorem scriptWrite_otaScriptVerify (crcOk : Int) (c : GatewayCtx) :
    ScriptWrite c (otaScriptVerify crcOk c) := by
  have hbegun : ScriptWrite c (c.trace "ota_state" Ota.mcOtaVerifying.toUInt32) :=
    (ScriptWrite.refl c).trace _ _
  unfold otaScriptVerify
  split
  · generalize c.trace "ota_state" Ota.mcOtaVerifying.toUInt32 = begun at hbegun ⊢
    dsimp only
    cases Ota.mcOtaVerify begun.ota crcOk with
    | mk ota verified =>
      have htraced := (hbegun.ota ota).trace "ota_crc_ok" (if ota.crcOk then 1 else 0)
      cases verified with
      | true => exact htraced
      | false => exact htraced.rollback
  · exact .refl c

/-- Committing the image. -/
theorem scriptWrite_otaScriptCommit (c : GatewayCtx) : ScriptWrite c (otaScriptCommit c) := by
  unfold otaScriptCommit
  split
  · split
    · exact ((ScriptWrite.refl c).ota _).rollback
    · have hcommitted : ScriptWrite c { c with ota := (Ota.mcOtaCommit c.ota).1 }.traceOtaState :=
        ((ScriptWrite.refl c).ota _).trace _ _
      exact hcommitted.trace "ota_slot" _
  · exact .refl c

/-- Rebooting into the image. -/
theorem scriptWrite_otaScriptReboot (c : GatewayCtx) : ScriptWrite c (otaScriptReboot c) := by
  unfold otaScriptReboot
  split
  · exact ((ScriptWrite.refl c).ota _).trace _ _
  · exact .refl c

/-- Judging the image. -/
theorem scriptWrite_otaScriptHealthCheck (healthy : Int) (c : GatewayCtx) :
    ScriptWrite c (otaScriptHealthCheck healthy c) := by
  unfold otaScriptHealthCheck
  split
  · cases Ota.mcOtaHealthCheck c.ota healthy with
    | mk ota passed =>
      have hchecked := (ScriptWrite.refl c).ota ota
      cases passed with
      | true => exact (hchecked.trace "ota_state" _).trace "ota_boot_result" _
      | false => exact hchecked.rollback
  · exact .refl c

/-- A relation that holds across everything a script can do. -/
structure ScriptRule (R : GatewayCtx → GatewayCtx → Prop) : Prop where
  /-- It holds across the writes of a script. -/
  writes : ∀ {c c'}, ScriptWrite c c' → R c c'
  /-- It composes. -/
  trans : ∀ {c c' c''}, R c c' → R c' c'' → R c c''
  /-- It holds across a made-up request. -/
  request : ∀ c frame take, R c (handleDiagRequest c frame take)
  /-- It holds across the made-up BMS fault. -/
  fault : ∀ c take, R c (synthBmsFault mcBmsFaultOvertemp take c)
  /-- It holds across the made-up powertrain warning. -/
  warning : ∀ c take, R c (reportFault c mcNodePowertrain mcWarnPowertrainOffline 1 take)

namespace ScriptRule

variable {R : GatewayCtx → GatewayCtx → Prop}

/-- The rule for a series of actions, by one action after the other. -/
theorem runActions (h : ScriptRule R) {actions : List ScriptAction}
    (hact : ∀ a ∈ actions, ∀ c, R c (a.act c)) (s : GatewayCtx × ScriptCursor) :
    R s.1 (runActions actions s).1 := by
  induction actions generalizing s with
  | nil => exact h.writes (.refl s.1)
  | cons a actions ih =>
    have hstep : R s.1 (a.step s).1 := by
      unfold ScriptAction.step
      split
      · exact hact a List.mem_cons_self s.1
      · exact h.writes (.refl s.1)
    exact h.trans hstep (ih (fun b hb => hact b (List.mem_cons_of_mem a hb)) (a.step s))

/-- The rule for a request made up by a script. -/
theorem synthRequest (h : ScriptRule R) (service requestId : UInt8) (take : Bool)
    (c : GatewayCtx) : R c (synthDiagRequest service requestId take c) :=
  h.request c _ take

/-- The rule for the diagnostics script. -/
theorem diagScript (h : ScriptRule R) (ctx : GatewayCtx) (take : Bool) :
    R ctx (runDogfoodDiagScript ctx take) := by
  have hactions : ∀ a ∈ diagScriptActions ctx.cfg take, ∀ c, R c (a.act c) := by
    intro a ha c
    simp only [diagScriptActions, List.mem_append, List.mem_cons, List.not_mem_nil, or_false] at ha
    rcases ha with ((rfl | rfl) | ha) | rfl | rfl | rfl | rfl
    case inl.inr =>
      split at ha
      · simp only [List.mem_append, List.mem_singleton] at ha
        rcases ha with rfl | ha
        · exact h.fault c take
        · split at ha
          · rw [List.mem_singleton.mp ha]
            exact h.warning c take
          · exact absurd ha List.not_mem_nil
      · exact absurd ha List.not_mem_nil
    all_goals
      dsimp only
      exact h.synthRequest _ _ take c
  unfold runDogfoodDiagScript
  split
  · exact h.writes (.refl ctx)
  · have hrun := h.runActions hactions (ctx, ctx.diagScript.advance)
    exact h.trans hrun (h.writes (.of_out_eq rfl rfl rfl rfl rfl rfl))

/-- The rule for the start-session-in-DRIVE script. -/
theorem startdriveScript (h : ScriptRule R) (ctx : GatewayCtx) (take : Bool) :
    R ctx (runDogfoodDiagStartdriveScript ctx take) := by
  have hactions : ∀ a ∈ startdriveScriptActions take, ∀ c, R c (a.act c) := by
    intro a ha c
    simp only [startdriveScriptActions, List.mem_cons, List.not_mem_nil, or_false] at ha
    rcases ha with rfl | rfl
    · have hdrive := ((ScriptWrite.refl c).setMode .drive).announceMode
      exact h.trans (h.writes hdrive) (h.synthRequest mcDiagStartSession 1 take _)
    · exact h.synthRequest mcDiagReadMode 2 take c
  unfold runDogfoodDiagStartdriveScript
  split
  · exact h.writes (.refl ctx)
  · have hrun := h.runActions hactions (ctx, ctx.startdriveScript.advance)
    exact h.trans hrun (h.writes (.of_out_eq rfl rfl rfl rfl rfl rfl))

/-- The rule for the charging script. -/
theorem chargingScript (h : ScriptRule R) (ctx : GatewayCtx) :
    R ctx (runDogfoodChargingScript ctx) := by
  have hactions : ∀ a ∈ ([⟨100, 0x01, plugCharger⟩, ⟨300, 0x02, tryDriveOff⟩] : List ScriptAction),
      ∀ c, R c (a.act c) := by
    intro a ha c
    simp only [List.mem_cons, List.not_mem_nil, or_false] at ha
    rcases ha with rfl | rfl
    · exact h.writes (scriptWrite_plugCharger c)
    · exact h.writes (scriptWrite_tryDriveOff c)
  unfold runDogfoodChargingScript
  split
  · exact h.writes (.refl ctx)
  · have hrun := h.runActions hactions (ctx, ctx.chargingScript.advance)
    exact h.trans hrun (h.writes (.of_out_eq rfl rfl rfl rfl rfl rfl))

/-- The rule for the update script. -/
theorem otaScript (h : ScriptRule R) (ctx : GatewayCtx) : R ctx (runDogfoodOtaScript ctx) := by
  have hactions : ∀ cfg, ∀ a ∈ otaScriptActions cfg, ∀ c, R c (a.act c) := by
    intro cfg a ha c
    refine h.writes ?_
    simp only [otaScriptActions, List.mem_cons, List.not_mem_nil, or_false] at ha
    rcases ha with rfl | rfl | rfl | rfl | rfl | rfl
    · exact (ScriptWrite.refl c).trace _ _
    · exact scriptWrite_otaScriptDownload _ c
    · exact scriptWrite_otaScriptVerify _ c
    · exact scriptWrite_otaScriptCommit c
    · exact scriptWrite_otaScriptReboot c
    · exact scriptWrite_otaScriptHealthCheck _ c
  have hinit : ScriptWrite ctx
      (if ctx.otaInited then ctx else { ctx with ota := Ota.mcOtaInit, otaInited := true }) := by
    split
    · exact .refl ctx
    · exact .of_out_eq rfl rfl rfl rfl rfl rfl
  unfold runDogfoodOtaScript
  split
  · exact h.writes (.refl ctx)
  · generalize
      (if ctx.otaInited then ctx else { ctx with ota := Ota.mcOtaInit, otaInited := true }) = inited
      at hinit ⊢
    have hrun := h.runActions (hactions inited.cfg) (inited, inited.otaScript.advance)
    dsimp only
    generalize
      Gateway.runActions (otaScriptActions inited.cfg) (inited, inited.otaScript.advance) = s
      at hrun ⊢
    exact h.trans (h.trans (h.writes hinit) hrun) (h.writes (.of_out_eq rfl rfl rfl rfl rfl rfl))

/-- The rule for the scripts of a loop period. -/
theorem scripts (h : ScriptRule R) (ctx : GatewayCtx) (take : Bool) :
    R ctx (runDogfoodScripts ctx take) := by
  have hdiag := h.diagScript ctx take
  unfold runDogfoodScripts
  generalize runDogfoodDiagScript ctx take = diag at hdiag ⊢
  have hdrive := h.trans hdiag (h.startdriveScript diag take)
  dsimp only
  generalize runDogfoodDiagStartdriveScript diag take = drive at hdrive ⊢
  have hcharging := h.trans hdrive (h.chargingScript drive)
  generalize runDogfoodChargingScript drive = charging at hcharging ⊢
  exact h.trans hcharging (h.otaScript charging)

end ScriptRule

end Microcar.Gateway
