import Microcar.Core.Script
import Microcar.Gateway.Effects
import Microcar.Gateway.ScriptRule

/-!
# The scripts as a schedule

The dogfood scripts count their time in cursors and keep masks of the actions they have taken. A
planned gateway has neither: its loop counts its periods, and a period takes the actions whose time
falls into it. Apart from the progress of the scripts, the firmware and the planned gateway go
through the same states, whatever the other tasks do in between.
-/

namespace Microcar.Gateway

open Microcar.Core

/-- Milliseconds in a period of the loop. -/
def periodMs : Nat := 10

/-! ### Progress of the scripts -/

/-- The fields that only the scripts use for their own progress. -/
structure ScriptProgress where
  otaInited : Bool
  diagScript : ScriptCursor
  chargingScript : ScriptCursor
  otaScript : ScriptCursor
  startdriveScript : ScriptCursor

/-- The progress of a context. -/
def GatewayCtx.progress (ctx : GatewayCtx) : ScriptProgress :=
  ⟨ctx.otaInited, ctx.diagScript, ctx.chargingScript, ctx.otaScript, ctx.startdriveScript⟩

/-- The context with another progress. -/
def GatewayCtx.withProgress (ctx : GatewayCtx) (p : ScriptProgress) : GatewayCtx :=
  { ctx with otaInited := p.otaInited, diagScript := p.diagScript
             chargingScript := p.chargingScript, otaScript := p.otaScript
             startdriveScript := p.startdriveScript }

/-- Progress before the first period. -/
def ScriptProgress.start : ScriptProgress := ⟨false, ⟨0, 0⟩, ⟨0, 0⟩, ⟨0, 0⟩, ⟨0, 0⟩⟩

@[simp] theorem withProgress_withProgress (ctx : GatewayCtx) (p q : ScriptProgress) :
    (ctx.withProgress p).withProgress q = ctx.withProgress q := rfl

@[simp] theorem withProgress_progress (ctx : GatewayCtx) :
    ctx.withProgress ctx.progress = ctx := rfl

/-- The context with another progress and other update slots. -/
def GatewayCtx.withScripts (ctx : GatewayCtx) (p : ScriptProgress) (ota : Ota.McOtaSlotState) :
    GatewayCtx :=
  { ctx.withProgress p with ota := ota }

/-- A function of the context that neither reads nor writes the progress of the scripts. -/
def Blind (f : GatewayCtx → GatewayCtx) : Prop :=
  ∀ ctx p, f (ctx.withProgress p) = (f ctx).withProgress p

/-- A function that uses neither the progress nor the update slots. -/
def Aloof (f : GatewayCtx → GatewayCtx) : Prop :=
  ∀ ctx p ota, f (ctx.withScripts p ota) = (f ctx).withScripts p ota

/-- The progress stays as it is where it is not used. -/
theorem Blind.progress {f : GatewayCtx → GatewayCtx} (h : Blind f) (ctx : GatewayCtx) :
    (f ctx).progress = ctx.progress := by
  have heq : (f ctx).progress = ((f ctx).withProgress ctx.progress).progress :=
    congrArg GatewayCtx.progress (h ctx ctx.progress)
  exact heq

/-- So do the update slots. -/
theorem Aloof.ota {f : GatewayCtx → GatewayCtx} (h : Aloof f) (ctx : GatewayCtx) :
    (f ctx).ota = ctx.ota := by
  have heq : (f ctx).ota = ((f ctx).withScripts ctx.progress ctx.ota).ota :=
    congrArg GatewayCtx.ota (h ctx ctx.progress ctx.ota)
  exact heq

/-- What leaves the slots alone as well is blind to the progress. -/
theorem Aloof.blind {f : GatewayCtx → GatewayCtx} (h : Aloof f) : Blind f := by
  intro ctx p
  have heq : f (ctx.withProgress p) = (f ctx).withScripts p ctx.ota := h ctx p ctx.ota
  rw [heq, ← h.ota ctx]
  rfl

/-- Two blind functions in turn are blind. -/
theorem Blind.comp {f g : GatewayCtx → GatewayCtx} (hf : Blind f) (hg : Blind g) :
    Blind fun ctx => g (f ctx) := by
  intro ctx p
  exact (congrArg g (hf ctx p)).trans (hg (f ctx) p)

/-- Two aloof functions in turn are aloof. -/
theorem Aloof.comp {f g : GatewayCtx → GatewayCtx} (hf : Aloof f) (hg : Aloof g) :
    Aloof fun ctx => g (f ctx) := by
  intro ctx p ota
  exact (congrArg g (hf ctx p ota)).trans (hg (f ctx) p ota)

/-- A choice that does not look at the progress. -/
theorem Blind.ite {c : GatewayCtx → Prop} [DecidablePred c] {f g : GatewayCtx → GatewayCtx}
    (hc : ∀ ctx p, c (GatewayCtx.withProgress ctx p) ↔ c ctx) (hf : Blind f) (hg : Blind g) :
    Blind fun ctx => if c ctx then f ctx else g ctx := by
  intro ctx p
  by_cases h : c ctx
  · dsimp only
    rw [if_pos h, if_pos ((hc ctx p).mpr h), hf]
  · dsimp only
    rw [if_neg h, if_neg fun h' => h ((hc ctx p).mp h'), hg]

/-- A choice that does not look at the slots either. -/
theorem Aloof.ite {c : GatewayCtx → Prop} [DecidablePred c] {f g : GatewayCtx → GatewayCtx}
    (hc : ∀ ctx p ota, c (GatewayCtx.withScripts ctx p ota) ↔ c ctx) (hf : Aloof f)
    (hg : Aloof g) : Aloof fun ctx => if c ctx then f ctx else g ctx := by
  intro ctx p ota
  by_cases h : c ctx
  · dsimp only
    rw [if_pos h, if_pos ((hc ctx p ota).mpr h), hf]
  · dsimp only
    rw [if_neg h, if_neg fun h' => h ((hc ctx p ota).mp h'), hg]

/-- Doing nothing is blind. -/
theorem blind_id : Blind fun ctx => ctx := fun _ _ => rfl

/-- Doing nothing is aloof. -/
theorem aloof_id : Aloof fun ctx => ctx := fun _ _ _ => rfl

/-- A report to the fault manager has nothing to do with the scripts. -/
theorem aloof_reportFault (node code severity : UInt8) (take : Bool) :
    Aloof fun ctx => reportFault ctx node code severity take := by
  intro ctx p ota
  unfold reportFault
  split_ifs <;> rfl

/-- Nor has a fault frame of the BMS. -/
theorem aloof_handleBmsFault (frame : McCanFrame) (take : Bool) :
    Aloof fun ctx => handleBmsFault ctx frame take := by
  intro ctx p ota
  unfold handleBmsFault reportFault
  dsimp only
  split_ifs <;> rfl

/-- A session starts in the same way whatever the scripts have done. -/
theorem startSession_withScripts (ctx : GatewayCtx) (p : ScriptProgress)
    (ota : Ota.McOtaSlotState) :
    startSession (ctx.withScripts p ota) =
      ((startSession ctx).1.withScripts p ota, (startSession ctx).2) := by
  unfold startSession
  by_cases h : ctx.gs.mode = .drive ∧ ctx.cfg.diagStartsessionDriveBug = false
  · have h' : (ctx.withScripts p ota).gs.mode = .drive ∧
        (ctx.withScripts p ota).cfg.diagStartsessionDriveBug = false := h
    rw [if_pos h, if_pos h']
    rfl
  · have h' : ¬ ((ctx.withScripts p ota).gs.mode = .drive ∧
        (ctx.withScripts p ota).cfg.diagStartsessionDriveBug = false) := h
    rw [if_neg h, if_neg h']
    rfl

/-- The codes are cleared in the same way whatever the scripts have done. -/
theorem clearDtcs_withScripts (ctx : GatewayCtx) (p : ScriptProgress)
    (ota : Ota.McOtaSlotState) (take : Bool) :
    clearDtcs (ctx.withScripts p ota) take =
      ((clearDtcs ctx take).1.withScripts p ota, (clearDtcs ctx take).2) := by
  unfold clearDtcs
  by_cases h : ctx.diagSessionActive = false
  · have h' : (ctx.withScripts p ota).diagSessionActive = false := h
    rw [if_pos h, if_pos h']
  · have h' : ¬ (ctx.withScripts p ota).diagSessionActive = false := h
    rw [if_neg h, if_neg h']
    cases take <;> rfl

/-- A choice between two services takes over the progress of either. -/
theorem ite_withScripts {c : Prop} [Decidable c] {p : ScriptProgress} {ota : Ota.McOtaSlotState}
    {a b a' b' : GatewayCtx × DiagReply} (ha : a = (a'.1.withScripts p ota, a'.2))
    (hb : b = (b'.1.withScripts p ota, b'.2)) :
    (if c then a else b) =
      ((if c then a' else b').1.withScripts p ota, (if c then a' else b').2) := by
  split_ifs
  · exact ha
  · exact hb

/-- The services do not use the progress, and answer the same. -/
theorem diagService_withScripts (ctx : GatewayCtx) (p : ScriptProgress)
    (ota : Ota.McOtaSlotState) (service : UInt8)
    (take : Bool) : diagService (ctx.withScripts p ota) service take =
      ((diagService ctx service take).1.withScripts p ota, (diagService ctx service take).2) := by
  unfold diagService
  refine ite_withScripts (startSession_withScripts ctx p ota) ?_
  refine ite_withScripts rfl (ite_withScripts rfl (ite_withScripts rfl ?_))
  exact ite_withScripts (clearDtcs_withScripts ctx p ota take) (ite_withScripts rfl rfl)

/-- A diagnostic request is answered without a look at the scripts. -/
theorem aloof_handleDiagRequest (frame : McCanFrame) (take : Bool) :
    Aloof fun ctx => handleDiagRequest ctx frame take := by
  intro ctx p ota
  unfold handleDiagRequest
  split_ifs
  · rfl
  · dsimp only
    rw [diagService_withScripts]
    rfl

/-- The aggregation of the faults leaves the scripts alone. -/
theorem aloof_faultAggregator (take : Bool) : Aloof fun ctx => faultAggregator ctx take := by
  have hraise : Aloof fun ctx =>
      if 0 < (if take then ctx.fm.criticalCount else 0) then ctx.setModeEvents 0x02 else ctx :=
    Aloof.ite (fun _ _ _ => Iff.rfl) (fun _ _ _ => rfl) aloof_id
  intro ctx p ota
  exact hraise (ctx.trace "fault_aggregate" _) p ota

/-- Taking a notification leaves the scripts alone. -/
theorem aloof_takeNotification : Aloof takeNotification := by
  intro ctx p ota
  have hsame : (ctx.withScripts p ota).notification = ctx.notification := rfl
  unfold takeNotification
  rw [hsame]
  cases ctx.notification <;> rfl

/-- The mode is decided without a look at the scripts. -/
theorem aloof_updateVehicleMode (nowMs : UInt32) (take : Bool) :
    Aloof fun ctx => updateVehicleMode ctx nowMs take := by
  unfold updateVehicleMode
  dsimp only
  exact Aloof.ite (c := fun ctx =>
    (take && faultManagerHasCritical ctx.fm) = false ∧ ctx.diagSessionActive = true)
    (fun _ _ _ => Iff.rfl) (fun _ _ _ => rfl) (fun _ _ _ => rfl)

/-- No task but the scripts uses their progress. -/
theorem aloof_gatewayStep {op : GatewayOp} (h : ∀ take, op ≠ .scripts take) :
    Aloof fun ctx => gatewayStep ctx op := by
  cases op with
  | frame f take =>
    intro ctx p ota
    simp only [gatewayStep, dispatchFrameInRx]
    split_ifs
    · rfl
    · exact aloof_handleBmsFault f.toMcCanFrame take ctx p ota
    · exact aloof_handleDiagRequest f.toMcCanFrame take ctx p ota
    · rfl
  | enterDrive => exact fun _ _ _ => rfl
  | aggregate take => exact aloof_faultAggregator take
  | dequeue nowMs =>
    intro ctx p ota
    simp only [gatewayStep, dequeueHeartbeats_eq]
    rfl
  | scripts take => exact absurd rfl (h take)
  | notify => exact aloof_takeNotification
  | process nowMs take =>
    intro ctx p ota
    simp only [gatewayStep, processPhase_eq]
    rfl
  | readOldMode => exact fun _ _ _ => rfl
  | updateMode nowMs take =>
    intro ctx p ota
    have hannounce : Aloof fun ctx =>
        if decide (ctx.gs.mode ≠ ctx.oldMode) then
          ({ ctx with modeChanged := decide (ctx.gs.mode ≠ ctx.oldMode) } : GatewayCtx).announceMode
        else { ctx with modeChanged := decide (ctx.gs.mode ≠ ctx.oldMode) } :=
      Aloof.ite (fun _ _ _ => Iff.rfl) (fun _ _ _ => rfl) (fun _ _ _ => rfl)
    have hevents : Aloof fun ctx =>
        if ctx.modeEvents &&& 0x01 ≠ 0 then
          { ctx.trace "mode_event_group" ctx.modeEvents with
            modeEvents := ctx.modeEvents &&& ~~~0x01 }
        else ctx := Aloof.ite (fun _ _ _ => Iff.rfl) (fun _ _ _ => rfl) aloof_id
    have hmode := (aloof_updateVehicleMode nowMs take).comp hannounce
    exact (hmode.comp hevents) ctx p ota
  | heartbeat nowMs => exact Aloof.ite (fun _ _ _ => Iff.rfl) (fun _ _ _ => rfl) aloof_id
  | readMode nowMs => exact fun _ _ _ => rfl
  | readFaultCd take =>
    intro ctx p ota
    have hread : (ctx.withScripts p ota).modeRead = ctx.modeRead := rfl
    simp only [gatewayStep, readFaultCd, hread]
    cases ctx.modeRead <;> rfl
  | sendMode =>
    intro ctx p ota
    have hread : (ctx.withScripts p ota).modeRead = ctx.modeRead := rfl
    simp only [gatewayStep, sendMode, hread]
    cases ctx.modeRead <;> rfl

/-! ### Actions of the scripts -/

/-- The download works on the slots, not on the progress. -/
theorem blind_otaScriptDownload (complete : Int) : Blind (otaScriptDownload complete) := by
  have hbegin : Blind fun ctx =>
      { ctx with ota := Ota.mcOtaBeginDownload ctx.ota }.traceOtaState := fun _ _ => rfl
  have hfinish : Blind fun ctx =>
      if (Ota.mcOtaFinishDownload ctx.ota complete).2 = true then
        { ctx with ota := (Ota.mcOtaFinishDownload ctx.ota complete).1 }
      else emitOtaRollback { ctx with ota := (Ota.mcOtaFinishDownload ctx.ota complete).1 } :=
    Blind.ite (fun _ _ => Iff.rfl) (fun _ _ => rfl) (fun _ _ => rfl)
  exact hbegin.comp hfinish

/-- The verification works on the slots, not on the progress. -/
theorem blind_otaScriptVerify (crcOk : Int) : Blind (otaScriptVerify crcOk) := by
  intro ctx p
  unfold otaScriptVerify
  by_cases h : ctx.ota.state = Ota.mcOtaDownloading
  · have h' : (ctx.withProgress p).ota.state = Ota.mcOtaDownloading := h
    have hsame : Ota.mcOtaVerify
        ((ctx.withProgress p).trace "ota_state" Ota.mcOtaVerifying.toUInt32).ota crcOk =
          Ota.mcOtaVerify (ctx.trace "ota_state" Ota.mcOtaVerifying.toUInt32).ota crcOk := rfl
    rw [if_pos h, if_pos h']
    dsimp only
    rw [hsame]
    generalize Ota.mcOtaVerify (ctx.trace "ota_state" _).ota crcOk = checked
    obtain ⟨ota, verified⟩ := checked
    cases verified <;> rfl
  · have h' : ¬ (ctx.withProgress p).ota.state = Ota.mcOtaDownloading := h
    rw [if_neg h, if_neg h']

/-- The commit works on the slots, not on the progress. -/
theorem blind_otaScriptCommit : Blind otaScriptCommit :=
  Blind.ite (c := fun ctx => ctx.ota.state = Ota.mcOtaVerifying) (fun _ _ => Iff.rfl)
    (Blind.ite (c := fun ctx => ctx.cfg.otaFaultMode = otaFaultPowercutPrecommit)
      (fun _ _ => Iff.rfl) (fun _ _ => rfl) (fun _ _ => rfl)) blind_id

/-- The restart works on the slots, not on the progress. -/
theorem blind_otaScriptReboot : Blind otaScriptReboot :=
  Blind.ite (c := fun ctx => ctx.ota.state = Ota.mcOtaCommitPending) (fun _ _ => Iff.rfl)
    (fun _ _ => rfl) blind_id

/-- The health check works on the slots, not on the progress. -/
theorem blind_otaScriptHealthCheck (healthy : Int) : Blind (otaScriptHealthCheck healthy) := by
  have hcheck : Blind fun ctx =>
      if (Ota.mcOtaHealthCheck ctx.ota healthy).2 = true then
        ({ ctx with ota := (Ota.mcOtaHealthCheck ctx.ota healthy).1 }.traceOtaState).trace
          "ota_boot_result" (if (Ota.mcOtaHealthCheck ctx.ota healthy).1.bootHealthy then 1 else 0)
      else emitOtaRollback { ctx with ota := (Ota.mcOtaHealthCheck ctx.ota healthy).1 } :=
    Blind.ite (fun _ _ => Iff.rfl) (fun _ _ => rfl) (fun _ _ => rfl)
  exact Blind.ite (c := fun ctx => ctx.ota.state = Ota.mcOtaRebooting) (fun _ _ => Iff.rfl) hcheck
    blind_id

/-- A request that the gateway makes up is handled like any other. -/
theorem aloof_synthDiagRequest (service requestId : UInt8) (take : Bool) :
    Aloof (synthDiagRequest service requestId take) := aloof_handleDiagRequest _ take

/-- The actions of the charging script. -/
def chargingScriptActions : List ScriptAction :=
  [⟨100, 0x01, plugCharger⟩, ⟨300, 0x02, tryDriveOff⟩]

/-- The actions of the enabled scripts that leave the update slots alone. -/
def aloofActions (cfg : GatewayConfig) (take : Bool) : List ScriptAction :=
  (if cfg.diagDogfoodScript then diagScriptActions cfg take else []) ++
  (if cfg.diagStartdriveScript then startdriveScriptActions take else []) ++
  (if cfg.chargingDogfoodScript then chargingScriptActions else [])

/-- The actions of the enabled scripts, in the order in which a period runs them. -/
def enabledActions (cfg : GatewayConfig) (take : Bool) : List ScriptAction :=
  aloofActions cfg take ++ (if cfg.otaDogfoodScript then otaScriptActions cfg else [])

/-- An action of an optional script is an action of the script. -/
theorem mem_if {flag : Bool} {actions : List ScriptAction} {a : ScriptAction}
    (h : a ∈ (if flag then actions else [])) : a ∈ actions := by
  cases flag with
  | true => exact h
  | false => exact absurd h List.not_mem_nil

/-- The actions of the diagnostics script are aloof. -/
theorem aloof_diagScriptActions (cfg : GatewayConfig) (take : Bool) :
    ∀ a ∈ diagScriptActions cfg take, Aloof a.act := by
  intro a ha
  simp only [diagScriptActions, List.mem_append, List.mem_cons, List.not_mem_nil, or_false] at ha
  rcases ha with ((rfl | rfl) | ha) | rfl | rfl | rfl | rfl
  case inl.inr =>
    split at ha
    · simp only [List.mem_append, List.mem_singleton] at ha
      rcases ha with rfl | ha
      · exact aloof_handleBmsFault _ take
      · split at ha
        · rw [List.mem_singleton.mp ha]
          exact aloof_reportFault _ _ _ take
        · exact absurd ha List.not_mem_nil
    · exact absurd ha List.not_mem_nil
  all_goals
    dsimp only
    exact aloof_synthDiagRequest _ _ take

/-- So are those of the start-drive script. -/
theorem aloof_startdriveScriptActions (take : Bool) :
    ∀ a ∈ startdriveScriptActions take, Aloof a.act := by
  intro a ha
  simp only [startdriveScriptActions, List.mem_cons, List.not_mem_nil, or_false] at ha
  rcases ha with rfl | rfl
  · have hdrive : Aloof fun ctx => (ctx.setMode .drive).announceMode := fun _ _ _ => rfl
    exact hdrive.comp (aloof_synthDiagRequest mcDiagStartSession 1 take)
  · exact aloof_synthDiagRequest mcDiagReadMode 2 take

/-- So are those of the charging script. -/
theorem aloof_chargingScriptActions : ∀ a ∈ chargingScriptActions, Aloof a.act := by
  intro a ha
  simp only [chargingScriptActions, List.mem_cons, List.not_mem_nil, or_false] at ha
  rcases ha with rfl | rfl
  · exact fun _ _ _ => rfl
  · exact fun _ _ _ => rfl

/-- The actions of the update script are blind, and no more: they move the slots. -/
theorem blind_otaScriptActions (cfg : GatewayConfig) :
    ∀ a ∈ otaScriptActions cfg, Blind a.act := by
  intro a ha
  simp only [otaScriptActions, List.mem_cons, List.not_mem_nil, or_false] at ha
  rcases ha with rfl | rfl | rfl | rfl | rfl | rfl
  · exact fun _ _ => rfl
  · exact blind_otaScriptDownload _
  · exact blind_otaScriptVerify _
  · exact blind_otaScriptCommit
  · exact blind_otaScriptReboot
  · exact blind_otaScriptHealthCheck _

/-! ### The flags and times of the actions -/

/-- Every action of the diagnostics script has a flag of its own. -/
theorem ownFlags_diag (cfg : GatewayConfig) (take : Bool) :
    OwnFlags ScriptAction.mask (diagScriptActions cfg take) := by
  unfold diagScriptActions
  constructor
  · split_ifs <;> simp
  · split_ifs <;> simp <;> decide

/-- The cursor of the diagnostics script comes to the time of every action. -/
theorem reachable_diag (cfg : GatewayConfig) (take : Bool) :
    Reachable ScriptAction.dueMs periodMs (diagScriptActions cfg take) := by
  unfold diagScriptActions
  constructor
  · split_ifs <;> simp
  · split_ifs <;> simp [periodMs, UInt32.size]

/-- The times and flags of the diagnostics script do not depend on the mutex. -/
theorem slots_diag (cfg : GatewayConfig) (take take' : Bool) :
    (diagScriptActions cfg take).map (fun a => (a.dueMs, a.mask)) =
      (diagScriptActions cfg take').map fun a => (a.dueMs, a.mask) := by
  unfold diagScriptActions
  split_ifs <;> rfl

/-- Every action of the start-drive script has a flag of its own. -/
theorem ownFlags_startdrive (take : Bool) :
    OwnFlags ScriptAction.mask (startdriveScriptActions take) := by
  unfold startdriveScriptActions
  constructor
  · simp
  · simp
    decide

/-- The cursor of the start-drive script comes to the time of every action. -/
theorem reachable_startdrive (take : Bool) :
    Reachable ScriptAction.dueMs periodMs (startdriveScriptActions take) := by
  unfold startdriveScriptActions
  constructor
  · simp
  · simp [periodMs, UInt32.size]

/-- Every action of the charging script has a flag of its own. -/
theorem ownFlags_charging : OwnFlags ScriptAction.mask chargingScriptActions := by
  unfold chargingScriptActions
  constructor
  · simp
  · simp
    decide

/-- The cursor of the charging script comes to the time of every action. -/
theorem reachable_charging :
    Reachable ScriptAction.dueMs periodMs chargingScriptActions := by
  unfold chargingScriptActions
  constructor
  · simp
  · simp [periodMs, UInt32.size]

/-- Every action of the update script has a flag of its own. -/
theorem ownFlags_ota (cfg : GatewayConfig) :
    OwnFlags ScriptAction.mask (otaScriptActions cfg) := by
  unfold otaScriptActions
  constructor
  · simp
  · simp
    decide

/-- The cursor of the update script comes to the time of every action. -/
theorem reachable_ota (cfg : GatewayConfig) :
    Reachable ScriptAction.dueMs periodMs (otaScriptActions cfg) := by
  unfold otaScriptActions
  constructor
  · simp
  · simp [periodMs, UInt32.size]

/-! ### A period of one script -/

/-- A script is played in the terms of its actions. -/
theorem runActions_eq (actions : List ScriptAction) (ctx : GatewayCtx) (c : ScriptCursor) :
    runActions actions (ctx, c) =
      ((playScript ScriptAction.dueMs ScriptAction.mask ScriptAction.act c.ms actions
          (ctx, c.sent)).1,
        ⟨c.ms, (playScript ScriptAction.dueMs ScriptAction.mask ScriptAction.act c.ms actions
          (ctx, c.sent)).2⟩) := by
  induction actions generalizing ctx c with
  | nil => rfl
  | cons a actions ih =>
    rw [runActions, playScript, List.foldl_cons, List.foldl_cons]
    by_cases htaken : a.dueMs ≤ c.ms ∧ c.sent &&& a.mask = 0
    · have hstep : ScriptAction.step (ctx, c) a = (a.act ctx, ⟨c.ms, c.sent ||| a.mask⟩) :=
        if_pos htaken
      have htake : takeDue ScriptAction.dueMs ScriptAction.mask ScriptAction.act c.ms
          (ctx, c.sent) a = (a.act ctx, c.sent ||| a.mask) := if_pos htaken
      rw [hstep, htake]
      exact ih (a.act ctx) ⟨c.ms, c.sent ||| a.mask⟩
    · have hstep : ScriptAction.step (ctx, c) a = (ctx, c) := if_neg htaken
      have htake : takeDue ScriptAction.dueMs ScriptAction.mask ScriptAction.act c.ms
          (ctx, c.sent) a = (ctx, c.sent) := if_neg htaken
      rw [hstep, htake]
      exact ih ctx c

/-- A cursor behind `n` periods of a script. -/
def ScriptCursor.Behind (c : ScriptCursor) (n : Nat) (actions : List ScriptAction) : Prop :=
  Played ScriptAction.dueMs ScriptAction.mask periodMs n actions c.ms c.sent

/-- The actions that fall into the period behind `n` periods. -/
def fallingDue (n : Nat) (actions : List ScriptAction) : List ScriptAction :=
  falling ScriptAction.dueMs periodMs n actions

/-- A period of a script takes the actions that fall into it. -/
theorem runActions_period {n : Nat} {actions : List ScriptAction} {c : ScriptCursor}
    (h : c.Behind n actions) (hflags : OwnFlags ScriptAction.mask actions)
    (htimes : Reachable ScriptAction.dueMs periodMs actions) (ctx : GatewayCtx) :
    ∃ c', runActions actions (ctx, c.advance) =
      (actAll ScriptAction.act (fallingDue n actions) ctx, c') ∧ c'.Behind (n + 1) actions := by
  obtain ⟨hplay, hbehind⟩ :=
    @Played.step _ _ _ _ ScriptAction.act _ _ _ _ _ h hflags htimes ctx
  refine ⟨⟨c.advance.ms, recordAll ScriptAction.mask (fallingDue n actions) c.sent⟩, ?_, hbehind⟩
  have hadvance : c.advance = ⟨c.ms + UInt32.ofNat periodMs, c.sent⟩ := rfl
  rw [runActions_eq, hadvance]
  dsimp only
  rw [hplay]
  rfl

/-- The actions that are due in a period are blind together. -/
theorem blind_actAll {actions : List ScriptAction} (h : ∀ a ∈ actions, Blind a.act) (n : Nat) :
    Blind (actAll ScriptAction.act (fallingDue n actions)) := by
  intro ctx p
  have hcomm := @actAll_comm _ _ ScriptAction.act (fallingDue n actions)
    (fun ctx => GatewayCtx.withProgress ctx p)
    (fun a ha ctx => (h a (List.mem_of_mem_filter ha) ctx p).symm) ctx
  exact hcomm.symm

/-- A context takes the actions of a period and gets another progress. -/
def Takes (n : Nat) (actions : List ScriptAction) (ctx ctx' : GatewayCtx) : Prop :=
  ∃ p, ctx' = (actAll ScriptAction.act (fallingDue n actions) ctx).withProgress p

/-- It is enough that the contexts agree up to their progress. -/
theorem takes_of_eq {n : Nat} {actions : List ScriptAction} {ctx ctx' : GatewayCtx}
    (h : ctx'.withProgress .start =
      (actAll ScriptAction.act (fallingDue n actions) ctx).withProgress .start) :
    Takes n actions ctx ctx' := by
  refine ⟨ctx'.progress, ?_⟩
  have heq := congrArg (fun ctx => GatewayCtx.withProgress ctx ctx'.progress) h
  exact heq

/-- A script without actions does nothing but move its own progress. -/
theorem Takes.nil {n : Nat} (ctx : GatewayCtx) : Takes n [] ctx ctx := ⟨ctx.progress, rfl⟩

/-- Scripts run one after the other take the actions of both. -/
theorem Takes.append {n : Nat} {first rest : List ScriptAction} {ctx ctx' ctx'' : GatewayCtx}
    (h : Takes n first ctx ctx') (h' : Takes n rest ctx' ctx'')
    (hblind : ∀ a ∈ rest, Blind a.act) : Takes n (first ++ rest) ctx ctx'' := by
  obtain ⟨p, rfl⟩ := h
  obtain ⟨q, rfl⟩ := h'
  refine ⟨q, ?_⟩
  have hboth : fallingDue n (first ++ rest) = fallingDue n first ++ fallingDue n rest :=
    falling_append periodMs n first rest
  rw [blind_actAll hblind n, withProgress_withProgress, hboth, actAll_append]

/-! ### The flags stay -/

/-- The scripts leave the flags as they are. -/
theorem cfgKept : ScriptRule fun c c' => c'.cfg = c.cfg where
  writes h := h.cfg
  trans h h' := h'.trans h
  request c frame take := by
    have hservice : ∀ service, (diagService c service take).1.cfg = c.cfg := by
      intro service
      unfold diagService
      split_ifs
      · unfold startSession
        split_ifs <;> rfl
      · rfl
      · rfl
      · rfl
      · rw [clearDtcs_eq]
        split_ifs <;> rfl
      all_goals rfl
    by_cases hlen : mcDiagRequestMsgSize ≤ frame.len
    · obtain ⟨out, heq⟩ := handleDiagRequest_eq hlen c take
      rw [heq]
      exact hservice (frame.data.get 1)
    · rw [handleDiagRequest, if_pos (UInt8.not_le.mp hlen)]
  fault c take := by
    unfold synthBmsFault handleBmsFault reportFault
    dsimp only
    split_ifs <;> rfl
  warning c take := by
    unfold reportFault
    split_ifs <;> rfl

/-- What holds across everything a script can do holds across each of its actions. -/
theorem ScriptRule.enabledActions {R : GatewayCtx → GatewayCtx → Prop} (h : ScriptRule R)
    {cfg : GatewayConfig} {take : Bool} :
    ∀ a ∈ enabledActions cfg take, ∀ c, R c (a.act c) := by
  have hdiag : ∀ a ∈ diagScriptActions cfg take, ∀ c, R c (a.act c) := by
    intro a ha c
    simp only [diagScriptActions, List.mem_append, List.mem_cons, List.not_mem_nil, or_false] at ha
    rcases ha with ((rfl | rfl) | ha) | rfl | rfl | rfl | rfl
    case inl.inr =>
      split at ha
      · simp only [List.mem_append, List.mem_singleton] at ha
        rcases ha with rfl | ha
        · exact h.fault c take
        · split at ha
          · rw [List.mem_singleton.mp ha]
            exact h.warning c take
          · exact absurd ha List.not_mem_nil
      · exact absurd ha List.not_mem_nil
    all_goals
      dsimp only
      exact h.synthRequest _ _ take c
  have hdrive : ∀ a ∈ startdriveScriptActions take, ∀ c, R c (a.act c) := by
    intro a ha c
    simp only [startdriveScriptActions, List.mem_cons, List.not_mem_nil, or_false] at ha
    rcases ha with rfl | rfl
    · have hentered := ((ScriptWrite.refl c).setMode .drive).announceMode
      exact h.trans (h.writes hentered) (h.synthRequest mcDiagStartSession 1 take _)
    · exact h.synthRequest mcDiagReadMode 2 take c
  have hcharging : ∀ a ∈ chargingScriptActions, ∀ c, R c (a.act c) := by
    intro a ha c
    simp only [chargingScriptActions, List.mem_cons, List.not_mem_nil, or_false] at ha
    rcases ha with rfl | rfl
    · exact h.writes (scriptWrite_plugCharger c)
    · exact h.writes (scriptWrite_tryDriveOff c)
  have hota : ∀ a ∈ otaScriptActions cfg, ∀ c, R c (a.act c) := by
    intro a ha c
    refine h.writes ?_
    simp only [otaScriptActions, List.mem_cons, List.not_mem_nil, or_false] at ha
    rcases ha with rfl | rfl | rfl | rfl | rfl | rfl
    · exact (ScriptWrite.refl c).trace _ _
    · exact scriptWrite_otaScriptDownload _ c
    · exact scriptWrite_otaScriptVerify _ c
    · exact scriptWrite_otaScriptCommit c
    · exact scriptWrite_otaScriptReboot c
    · exact scriptWrite_otaScriptHealthCheck _ c
  intro a ha
  rcases List.mem_append.mp ha with ha | ha
  · rcases List.mem_append.mp ha with ha | ha
    · rcases List.mem_append.mp ha with ha | ha
      · exact hdiag a (mem_if ha)
      · exact hdrive a (mem_if ha)
    · exact hcharging a (mem_if ha)
  · exact hota a (mem_if ha)

/-- The actions of a period leave the flags as they are. -/
theorem cfg_actAll {cfg : GatewayConfig} {take : Bool} {actions : List ScriptAction}
    (h : ∀ a ∈ actions, a ∈ enabledActions cfg take) (ctx : GatewayCtx) :
    (actAll ScriptAction.act actions ctx).cfg = ctx.cfg :=
  actAll_invariant (I := fun c => c.cfg = ctx.cfg)
    (fun a ha c hc => (cfgKept.enabledActions a (h a ha) c).trans hc) rfl

/-- No step changes the configuration of the build. -/
theorem cfg_gatewayStep (ctx : GatewayCtx) (op : GatewayOp) :
    (gatewayStep ctx op).cfg = ctx.cfg := by
  by_cases hscripts : ∃ take, op = .scripts take
  · obtain ⟨take, rfl⟩ := hscripts
    exact cfgKept.scripts ctx take
  · exact (gatewayStep_move fun take h => absurd ⟨take, h⟩ hscripts).cfg_eq

/-! ### The planned gateway -/

/-- A gateway whose loop counts its periods, with neither cursors nor masks. -/
structure PlannedGateway where
  ctx : GatewayCtx
  /-- Periods of the loop so far. -/
  period : Nat

/-- A period takes the actions whose time falls into it; every other step is the firmware's. -/
def plannedStep (s : PlannedGateway) : GatewayOp → PlannedGateway
  | .scripts take =>
    ⟨actAll ScriptAction.act (fallingDue s.period (enabledActions s.ctx.cfg take)) s.ctx,
      s.period + 1⟩
  | op => ⟨gatewayStep s.ctx op, s.period⟩

/-- Steps of the planned gateway leave the flags as they are. -/
theorem cfg_plannedStep (s : PlannedGateway) (op : GatewayOp) :
    (plannedStep s op).ctx.cfg = s.ctx.cfg := by
  cases op with
  | scripts take => exact cfg_actAll (fun a ha => List.mem_of_mem_filter ha) s.ctx
  | _ => exact cfg_gatewayStep s.ctx _

/-- The planned gateway at boot. -/
def plannedBoot (cfg : GatewayConfig) : PlannedGateway := ⟨gatewayBoot cfg, 0⟩

/-- The planned gateway keeps its configuration too. -/
theorem cfg_plannedRun (cfg : GatewayConfig) (ops : List GatewayOp) :
    (run plannedStep (plannedBoot cfg) ops).ctx.cfg = cfg := by
  induction ops using List.reverseRecOn with
  | nil => rfl
  | append_singleton ops op ih =>
    rw [run_snoc, cfg_plannedStep]
    exact ih

/-- Apart from the scripts, the planned gateway does what the firmware does. -/
theorem plannedStep_of_ne {s : PlannedGateway} {op : GatewayOp} (h : ∀ take, op ≠ .scripts take) :
    plannedStep s op = ⟨gatewayStep s.ctx op, s.period⟩ := by
  cases op with
  | scripts take => exact absurd rfl (h take)
  | _ => rfl

/-- The progress of the enabled scripts behind `n` periods, and slots that the update script has
yet to initialise. -/
structure ScriptsBehind (n : Nat) (ctx : GatewayCtx) : Prop where
  diag : ctx.cfg.diagDogfoodScript = true →
    ctx.diagScript.Behind n (diagScriptActions ctx.cfg true)
  startdrive : ctx.cfg.diagStartdriveScript = true →
    ctx.startdriveScript.Behind n (startdriveScriptActions true)
  charging : ctx.cfg.chargingDogfoodScript = true →
    ctx.chargingScript.Behind n chargingScriptActions
  ota : ctx.cfg.otaDogfoodScript = true → ctx.otaScript.Behind n (otaScriptActions ctx.cfg)
  slots : ctx.otaInited = false → ctx.ota = Ota.mcOtaInit

/-- At boot no period has been taken. -/
theorem scriptsBehind_boot (cfg : GatewayConfig) : ScriptsBehind 0 (gatewayBoot cfg) where
  diag _ := .start (reachable_diag cfg true)
  startdrive _ := .start (reachable_startdrive true)
  charging _ := .start reachable_charging
  ota _ := .start (reachable_ota cfg)
  slots _ := rfl

/-- Only the flags, the progress and the slots matter to it. -/
theorem ScriptsBehind.congr {n : Nat} {ctx ctx' : GatewayCtx} (h : ScriptsBehind n ctx)
    (hcfg : ctx'.cfg = ctx.cfg) (hprogress : ctx'.progress = ctx.progress)
    (hota : ctx'.ota = ctx.ota) : ScriptsBehind n ctx' := by
  obtain ⟨hinited, hdiag, hcharging, hupdate, hdrive⟩ := ScriptProgress.mk.inj hprogress
  constructor
  · rw [hcfg, hdiag]
    exact h.diag
  · rw [hcfg, hdrive]
    exact h.startdrive
  · rw [hcfg, hcharging]
    exact h.charging
  · rw [hcfg, hupdate]
    exact h.ota
  · rw [hinited, hota]
    exact h.slots

section Periods

variable {n : Nat} {ctx : GatewayCtx}

/-- A period of the diagnostics script. -/
theorem diagScript_period (h : ctx.cfg.diagDogfoodScript = true →
      ctx.diagScript.Behind n (diagScriptActions ctx.cfg true)) (take : Bool) :
    ∃ c, (runDogfoodDiagScript ctx take).progress = { ctx.progress with diagScript := c } ∧
      (ctx.cfg.diagDogfoodScript = true → c.Behind (n + 1) (diagScriptActions ctx.cfg true)) ∧
      Takes n (if ctx.cfg.diagDogfoodScript then diagScriptActions ctx.cfg take else []) ctx
        (runDogfoodDiagScript ctx take) := by
  unfold runDogfoodDiagScript
  by_cases hflag : ctx.cfg.diagDogfoodScript = false
  · rw [if_pos hflag, hflag]
    exact ⟨ctx.diagScript, rfl, fun hon => absurd hon (by simp), .nil ctx⟩
  · have hon : ctx.cfg.diagDogfoodScript = true := by simpa using hflag
    obtain ⟨c, hrun, hbehind⟩ := runActions_period ((h hon).congr (slots_diag ctx.cfg take true))
      (ownFlags_diag ctx.cfg take) (reachable_diag ctx.cfg take) ctx
    have hblind := fun a ha => (aloof_diagScriptActions ctx.cfg take a ha).blind
    have hkept := (blind_actAll hblind n).progress ctx
    rw [if_neg hflag, if_pos hon, hrun]
    dsimp only
    rw [← hkept]
    exact ⟨c, rfl, fun _ => hbehind.congr (slots_diag ctx.cfg true take), takes_of_eq rfl⟩

/-- A period of the start-session-in-DRIVE script. -/
theorem startdriveScript_period (h : ctx.cfg.diagStartdriveScript = true →
      ctx.startdriveScript.Behind n (startdriveScriptActions true)) (take : Bool) :
    ∃ c, (runDogfoodDiagStartdriveScript ctx take).progress =
        { ctx.progress with startdriveScript := c } ∧
      (ctx.cfg.diagStartdriveScript = true → c.Behind (n + 1) (startdriveScriptActions true)) ∧
      Takes n (if ctx.cfg.diagStartdriveScript then startdriveScriptActions take else []) ctx
        (runDogfoodDiagStartdriveScript ctx take) := by
  unfold runDogfoodDiagStartdriveScript
  by_cases hflag : ctx.cfg.diagStartdriveScript = false
  · rw [if_pos hflag, hflag]
    exact ⟨ctx.startdriveScript, rfl, fun hon => absurd hon (by simp), .nil ctx⟩
  · have hon : ctx.cfg.diagStartdriveScript = true := by simpa using hflag
    have hold : ctx.startdriveScript.Behind n (startdriveScriptActions take) := (h hon).congr rfl
    obtain ⟨c, hrun, hbehind⟩ :=
      runActions_period hold (ownFlags_startdrive take) (reachable_startdrive take) ctx
    have hblind := fun a ha => (aloof_startdriveScriptActions take a ha).blind
    have hkept := (blind_actAll hblind n).progress ctx
    rw [if_neg hflag, if_pos hon, hrun]
    dsimp only
    rw [← hkept]
    exact ⟨c, rfl, fun _ => hbehind.congr rfl, takes_of_eq rfl⟩

/-- A period of the charging script. -/
theorem chargingScript_period (h : ctx.cfg.chargingDogfoodScript = true →
      ctx.chargingScript.Behind n chargingScriptActions) :
    ∃ c, (runDogfoodChargingScript ctx).progress = { ctx.progress with chargingScript := c } ∧
      (ctx.cfg.chargingDogfoodScript = true → c.Behind (n + 1) chargingScriptActions) ∧
      Takes n (if ctx.cfg.chargingDogfoodScript then chargingScriptActions else []) ctx
        (runDogfoodChargingScript ctx) := by
  unfold runDogfoodChargingScript
  by_cases hflag : ctx.cfg.chargingDogfoodScript = false
  · rw [if_pos hflag, hflag]
    exact ⟨ctx.chargingScript, rfl, fun hon => absurd hon (by simp), .nil ctx⟩
  · have hon : ctx.cfg.chargingDogfoodScript = true := by simpa using hflag
    obtain ⟨c, hrun, hbehind⟩ := runActions_period (h hon) ownFlags_charging reachable_charging ctx
    have hblind := fun a ha => (aloof_chargingScriptActions a ha).blind
    have hkept := (blind_actAll hblind n).progress ctx
    rw [← chargingScriptActions, if_neg hflag, if_pos hon, hrun]
    dsimp only
    rw [← hkept]
    exact ⟨c, rfl, fun _ => hbehind, takes_of_eq rfl⟩

/-- A period of the update script. -/
theorem otaScript_period (h : ctx.cfg.otaDogfoodScript = true →
      ctx.otaScript.Behind n (otaScriptActions ctx.cfg))
    (hslots : ctx.otaInited = false → ctx.ota = Ota.mcOtaInit) :
    ∃ inited c, (runDogfoodOtaScript ctx).progress =
        { ctx.progress with otaInited := inited, otaScript := c } ∧
      (ctx.cfg.otaDogfoodScript = true → c.Behind (n + 1) (otaScriptActions ctx.cfg)) ∧
      (inited = false → ctx.otaInited = false ∧ ctx.cfg.otaDogfoodScript = false) ∧
      Takes n (if ctx.cfg.otaDogfoodScript then otaScriptActions ctx.cfg else []) ctx
        (runDogfoodOtaScript ctx) := by
  unfold runDogfoodOtaScript
  by_cases hflag : ctx.cfg.otaDogfoodScript = false
  · rw [if_pos hflag, hflag]
    exact ⟨ctx.otaInited, ctx.otaScript, rfl, fun hon => absurd hon (by simp),
      fun hinited => ⟨hinited, rfl⟩, .nil ctx⟩
  · have hon : ctx.cfg.otaDogfoodScript = true := by simpa using hflag
    have hinit : (if ctx.otaInited then ctx
        else { ctx with ota := Ota.mcOtaInit, otaInited := true }) =
          ctx.withProgress { ctx.progress with otaInited := true } := by
      cases hinited : ctx.otaInited with
      | true =>
        rw [if_pos rfl, ← hinited]
        rfl
      | false =>
        rw [if_neg (by simp), ← hslots hinited]
        rfl
    have hblind := blind_actAll (blind_otaScriptActions ctx.cfg) n
    obtain ⟨c, hrun, hbehind⟩ := runActions_period (h hon) (ownFlags_ota ctx.cfg)
      (reachable_ota ctx.cfg) (ctx.withProgress { ctx.progress with otaInited := true })
    have hkept := (blind_actAll (blind_otaScriptActions ctx.cfg) n).progress ctx
    rw [if_neg hflag, if_pos hon]
    dsimp only
    rw [hinit]
    have hcursor : (ctx.withProgress { ctx.progress with otaInited := true }).otaScript.advance =
        ctx.otaScript.advance := rfl
    have hcfg : (ctx.withProgress { ctx.progress with otaInited := true }).cfg = ctx.cfg := rfl
    rw [hcursor, hcfg, hrun, hblind]
    dsimp only
    rw [← hkept]
    exact ⟨true, c, rfl, fun _ => hbehind, fun hinited => absurd hinited (by simp),
      takes_of_eq rfl⟩

end Periods

/-- Whatever is enabled beside the update script is aloof. -/
theorem aloof_aloofActions (cfg : GatewayConfig) (take : Bool) :
    ∀ a ∈ aloofActions cfg take, Aloof a.act := by
  intro a ha
  rcases List.mem_append.mp ha with ha | ha
  · rcases List.mem_append.mp ha with ha | ha
    · exact aloof_diagScriptActions cfg take a (mem_if ha)
    · exact aloof_startdriveScriptActions take a (mem_if ha)
  · exact aloof_chargingScriptActions a (mem_if ha)

/-- Whatever is enabled is blind. -/
theorem blind_enabledActions (cfg : GatewayConfig) (take : Bool) :
    ∀ a ∈ enabledActions cfg take, Blind a.act := by
  intro a ha
  rcases List.mem_append.mp ha with ha | ha
  · exact (aloof_aloofActions cfg take a ha).blind
  · exact blind_otaScriptActions cfg a (mem_if ha)

/-- A period of the firmware takes the planned actions, and its progress keeps up. -/
theorem scripts_period {n : Nat} {ctx : GatewayCtx} (h : ScriptsBehind n ctx) (take : Bool) :
    Takes n (enabledActions ctx.cfg take) ctx (runDogfoodScripts ctx take) ∧
      ScriptsBehind (n + 1) (runDogfoodScripts ctx take) := by
  obtain ⟨c₁, hprogress₁, hbehind₁, htakes₁⟩ := diagScript_period h.diag take
  have hcfg₁ := cfgKept.diagScript ctx take
  unfold runDogfoodScripts
  generalize runDogfoodDiagScript ctx take = ctx₁ at hprogress₁ htakes₁ hcfg₁ ⊢
  have hstartdrive : ctx₁.startdriveScript = ctx.startdriveScript :=
    congrArg ScriptProgress.startdriveScript hprogress₁
  have hold₂ : ctx₁.cfg.diagStartdriveScript = true →
      ctx₁.startdriveScript.Behind n (startdriveScriptActions true) := by
    rw [hcfg₁, hstartdrive]
    exact h.startdrive
  obtain ⟨c₂, hprogress₂, hbehind₂, htakes₂⟩ := startdriveScript_period hold₂ take
  have hcfg₂ := (cfgKept.startdriveScript ctx₁ take).trans hcfg₁
  rw [hcfg₁] at hbehind₂ htakes₂
  rw [hprogress₁] at hprogress₂
  dsimp only
  generalize runDogfoodDiagStartdriveScript ctx₁ take = ctx₂ at hprogress₂ htakes₂ hcfg₂ ⊢
  have hcharging : ctx₂.chargingScript = ctx.chargingScript :=
    congrArg ScriptProgress.chargingScript hprogress₂
  have hold₃ : ctx₂.cfg.chargingDogfoodScript = true →
      ctx₂.chargingScript.Behind n chargingScriptActions := by
    rw [hcfg₂, hcharging]
    exact h.charging
  obtain ⟨c₃, hprogress₃, hbehind₃, htakes₃⟩ := chargingScript_period hold₃
  have hcfg₃ := (cfgKept.chargingScript ctx₂).trans hcfg₂
  rw [hcfg₂] at hbehind₃ htakes₃
  rw [hprogress₂] at hprogress₃
  generalize runDogfoodChargingScript ctx₂ = ctx₃ at hprogress₃ htakes₃ hcfg₃ ⊢
  have htakes : Takes n (aloofActions ctx.cfg take) ctx ctx₃ :=
    (htakes₁.append htakes₂
      fun a ha => (aloof_startdriveScriptActions take a (mem_if ha)).blind).append htakes₃
      fun a ha => (aloof_chargingScriptActions a (mem_if ha)).blind
  have hota : ctx₃.ota = ctx.ota := by
    obtain ⟨p, rfl⟩ := htakes
    exact actAll_invariant (I := fun c => c.ota = ctx.ota)
      (fun a ha c hc => ((aloof_aloofActions _ _ a (List.mem_of_mem_filter ha)).ota c).trans hc) rfl
  have hinited : ctx₃.otaInited = ctx.otaInited := congrArg ScriptProgress.otaInited hprogress₃
  have hcursor : ctx₃.otaScript = ctx.otaScript := congrArg ScriptProgress.otaScript hprogress₃
  have hold₄ : ctx₃.cfg.otaDogfoodScript = true →
      ctx₃.otaScript.Behind n (otaScriptActions ctx₃.cfg) := by
    rw [hcfg₃, hcursor]
    exact h.ota
  obtain ⟨inited, c₄, hprogress₄, hbehind₄, hfresh, htakes₄⟩ :=
    otaScript_period hold₄ (by rw [hinited, hota]; exact h.slots)
  have hcfg₄ := (cfgKept.otaScript ctx₃).trans hcfg₃
  rw [hcfg₃] at hbehind₄ htakes₄ hfresh
  rw [hprogress₃] at hprogress₄
  refine ⟨htakes.append htakes₄ fun a ha => blind_otaScriptActions ctx.cfg a (mem_if ha), ?_⟩
  obtain ⟨hdone, hdiag, hcharge, hupdate, hdrive⟩ := ScriptProgress.mk.inj hprogress₄
  constructor
  · rw [hcfg₄, hdiag]
    exact hbehind₁
  · rw [hcfg₄, hdrive]
    exact hbehind₂
  · rw [hcfg₄, hcharge]
    exact hbehind₃
  · rw [hcfg₄, hupdate]
    exact hbehind₄
  · rw [hdone]
    intro hopen
    obtain ⟨hold, hoff⟩ := hfresh hopen
    have hidle : runDogfoodOtaScript ctx₃ = ctx₃ := if_pos (by rw [hcfg₃]; exact hoff)
    rw [hidle, hota]
    exact h.slots (hinited.symm.trans hold)

/-! ### The firmware follows the plan -/

/-- The firmware and the planned gateway are in the same state up to the progress of the scripts,
which is that of the periods so far. -/
structure FollowsPlan (ctx : GatewayCtx) (s : PlannedGateway) : Prop where
  same : ctx.withProgress .start = s.ctx
  behind : ScriptsBehind s.period ctx

/-- A step keeps the firmware on the plan: a period of the scripts takes what is due, and every
other step is the same on both sides. -/
theorem FollowsPlan.step {ctx : GatewayCtx} {s : PlannedGateway} (h : FollowsPlan ctx s)
    (op : GatewayOp) : FollowsPlan (gatewayStep ctx op) (plannedStep s op) := by
  by_cases hscripts : ∃ take, op = .scripts take
  · obtain ⟨take, rfl⟩ := hscripts
    obtain ⟨⟨p, htakes⟩, hbehind⟩ := scripts_period h.behind take
    refine ⟨?_, hbehind⟩
    have hcfg : s.ctx.cfg = ctx.cfg := by
      rw [← h.same]
      rfl
    rw [gatewayStep, htakes, plannedStep, withProgress_withProgress, hcfg, ← h.same]
    exact (blind_actAll (blind_enabledActions ctx.cfg take) s.period ctx .start).symm
  · have hother : ∀ take, op ≠ .scripts take := fun take heq => hscripts ⟨take, heq⟩
    have haloof := aloof_gatewayStep hother
    rw [plannedStep_of_ne hother]
    refine ⟨?_, h.behind.congr (cfg_gatewayStep ctx op) (haloof.blind.progress ctx)
      (haloof.ota ctx)⟩
    dsimp only
    rw [← h.same]
    exact (haloof.blind ctx .start).symm

/-- A whole run keeps the firmware on the plan. -/
theorem followsPlan_run (cfg : GatewayConfig) (ops : List GatewayOp) :
    FollowsPlan (run gatewayStep (gatewayBoot cfg) ops)
      (run plannedStep (plannedBoot cfg) ops) := by
  induction ops using List.reverseRecOn with
  | nil => exact ⟨rfl, scriptsBehind_boot cfg⟩
  | append_singleton ops op ih =>
    rw [run_snoc, run_snoc]
    exact ih.step op

/-- Both write the same log. -/
theorem out_plannedRun (cfg : GatewayConfig) (ops : List GatewayOp) :
    (run plannedStep (plannedBoot cfg) ops).ctx.out =
      (run gatewayStep (gatewayBoot cfg) ops).out := by
  rw [← (followsPlan_run cfg ops).same]
  rfl

/-- The step runs the scripts. -/
def GatewayOp.isPeriod : GatewayOp → Bool
  | .scripts _ => true
  | _ => false

/-- Periods of the loop in a history. -/
def periods (ops : List GatewayOp) : Nat := ops.countP GatewayOp.isPeriod

/-- A run of nothing but script steps counts each as a period. -/
theorem periods_replicate (n : Nat) (take : Bool) :
    periods (List.replicate n (.scripts take)) = n :=
  List.countP_replicate.trans (if_pos rfl)

/-- A history with more than `n` periods comes to the period behind `n` others. -/
theorem exists_period_cut {n : Nat} {ops : List GatewayOp} (h : n < periods ops) :
    ∃ before take after, ops = before ++ .scripts take :: after ∧ periods before = n := by
  induction ops using List.reverseRecOn with
  | nil => exact absurd h (Nat.not_lt_zero n)
  | append_singleton ops op ih =>
    have hcount : periods (ops ++ [op]) = periods ops + if op.isPeriod then 1 else 0 := by
      rw [periods, List.countP_append, List.countP_singleton]
      rfl
    rcases Nat.lt_or_ge n (periods ops) with hlt | hge
    · obtain ⟨before, take, after, rfl, hperiods⟩ := ih hlt
      exact ⟨before, take, after ++ [op], by simp, hperiods⟩
    · cases op with
      | scripts take =>
        refine ⟨ops, take, [], rfl, ?_⟩
        rw [hcount] at h
        exact Nat.le_antisymm hge (Nat.lt_succ_iff.mp h)
      | _ =>
        rw [hcount] at h
        exact absurd h (Nat.not_lt.mpr hge)

/-- The planned gateway counts the script steps of its run. -/
theorem period_run (cfg : GatewayConfig) (ops : List GatewayOp) :
    (run plannedStep (plannedBoot cfg) ops).period = periods ops := by
  induction ops using List.reverseRecOn with
  | nil => rfl
  | append_singleton ops op ih =>
    rw [run_snoc, periods, List.countP_append, ← periods, ← ih]
    cases op <;> rfl

/-- No action is due at time zero. -/
theorem enabledActions_pos {cfg : GatewayConfig} {take : Bool} :
    ∀ a ∈ enabledActions cfg take, 0 < a.dueMs.toNat := by
  intro a ha
  rcases List.mem_append.mp ha with ha | ha
  · rcases List.mem_append.mp ha with ha | ha
    · rcases List.mem_append.mp ha with ha | ha
      · exact (reachable_diag cfg take).pos a (mem_if ha)
      · exact (reachable_startdrive take).pos a (mem_if ha)
    · exact reachable_charging.pos a (mem_if ha)
  · exact (reachable_ota cfg).pos a (mem_if ha)

/-- In every run, whatever the other tasks do between two periods of the loop and however long it
goes on, the firmware goes through the states of the planned gateway, apart from the progress of
the scripts, and the plan takes each action of an enabled script in exactly one period. -/
theorem gatewayRun_scripts_scheduled (cfg : GatewayConfig) (ops : List GatewayOp) :
    (run gatewayStep (gatewayBoot cfg) ops).withProgress .start =
        (run plannedStep (plannedBoot cfg) ops).ctx ∧
      (run plannedStep (plannedBoot cfg) ops).period = periods ops ∧
      ∀ take, ∀ a ∈ enabledActions cfg take,
        ∃! n, a ∈ fallingDue n (enabledActions cfg take) := by
  refine ⟨(followsPlan_run cfg ops).same, period_run cfg ops, fun take a ha => ?_⟩
  exact existsUnique_falling (by decide) ha (enabledActions_pos a ha)

end Microcar.Gateway
