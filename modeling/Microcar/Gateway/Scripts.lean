import Microcar.Gateway.Handlers

/-!
# Dogfood scripts of the gateway

The four scripts the main loop can run. Each keeps a cursor with the elapsed script
time and a mask of the actions it has taken; an action is taken once, when its time has
come. With its flag off a script does nothing.
-/

namespace Microcar.Gateway

/-- One action of a script. -/
structure ScriptAction where
  /-- Script time from which the action is due. -/
  dueMs : UInt32
  /-- Bit of the action in the mask. -/
  mask : UInt32
  /-- What the action does. -/
  act : GatewayCtx → GatewayCtx

/-- Take an action once its time has come. -/
def ScriptAction.step (s : GatewayCtx × ScriptCursor) (a : ScriptAction) :
    GatewayCtx × ScriptCursor :=
  if a.dueMs ≤ s.2.ms ∧ s.2.sent &&& a.mask = 0 then
    (a.act s.1, { s.2 with sent := s.2.sent ||| a.mask })
  else s

/-- The actions of one loop period, in order. -/
def runActions (actions : List ScriptAction) (s : GatewayCtx × ScriptCursor) :
    GatewayCtx × ScriptCursor :=
  actions.foldl ScriptAction.step s

/-- The cursor one loop period later. -/
def ScriptCursor.advance (c : ScriptCursor) : ScriptCursor := { c with ms := c.ms + 10 }

/-- Handle a diagnostic request made up by a script, `synth_diag_request`. -/
def synthDiagRequest (service requestId : UInt8) (take : Bool) (ctx : GatewayCtx) : GatewayCtx :=
  handleDiagRequest ctx (mcFrameInit mcMsgDiagRequest mcNodeDiagnostics mcDiagRequestMsgSize
    |>.put 0 mcNodeDiagnostics |>.put 1 service |>.put 2 requestId) take

/-- Handle a BMS fault made up by a script, `synth_bms_fault`. -/
def synthBmsFault (faultCode : UInt8) (take : Bool) (ctx : GatewayCtx) : GatewayCtx :=
  handleBmsFault ctx (mcFrameInit mcMsgBmsFault mcNodeBms 1 |>.put 0 faultCode) take

/-- The warning code of a lost powertrain, `MC_WARN_POWERTRAIN_OFFLINE`. -/
def mcWarnPowertrainOffline : UInt8 := 3

/-- The actions of the diagnostics script; at most one falls due in a period, so one mutex
outcome is enough. -/
def diagScriptActions (cfg : GatewayConfig) (take : Bool) : List ScriptAction :=
  [⟨100, 0x01, synthDiagRequest mcDiagStartSession 1 take⟩,
    ⟨200, 0x02, synthDiagRequest mcDiagReadMode 2 take⟩] ++
  (if cfg.diagDogfoodInjectFault then
    [⟨300, 0x04, synthBmsFault mcBmsFaultOvertemp take⟩] ++
    (if cfg.diagExtraPtFault then
      [⟨310, 0x80, fun ctx => reportFault ctx mcNodePowertrain mcWarnPowertrainOffline 1 take⟩]
    else [])
  else []) ++
  [⟨350, 0x08, synthDiagRequest mcDiagActuatorTest 6 take⟩,
    ⟨450, 0x10, synthDiagRequest mcDiagReadDtcs 3 take⟩,
    ⟨650, 0x20, synthDiagRequest mcDiagClearDtcs 4 take⟩,
    ⟨750, 0x40, synthDiagRequest mcDiagReadDtcs 5 take⟩]

/-- The diagnostics script, `run_dogfood_diag_script`. -/
def runDogfoodDiagScript (ctx : GatewayCtx) (take : Bool) : GatewayCtx :=
  if ctx.cfg.diagDogfoodScript = false then ctx
  else
    let s := runActions (diagScriptActions ctx.cfg take) (ctx, ctx.diagScript.advance)
    { s.1 with diagScript := s.2 }

/-- The actions of the start-session-in-DRIVE script. -/
def startdriveScriptActions (take : Bool) : List ScriptAction :=
  [⟨100, 0x01,
      fun ctx => synthDiagRequest mcDiagStartSession 1 take (ctx.setMode .drive).announceMode⟩,
    ⟨200, 0x02, synthDiagRequest mcDiagReadMode 2 take⟩]

/-- The start-session-in-DRIVE script, `run_dogfood_diag_startdrive_script`. -/
def runDogfoodDiagStartdriveScript (ctx : GatewayCtx) (take : Bool) : GatewayCtx :=
  if ctx.cfg.diagStartdriveScript = false then ctx
  else
    let s := runActions (startdriveScriptActions take) (ctx, ctx.startdriveScript.advance)
    { s.1 with startdriveScript := s.2 }

/-- Plug the charger in. -/
def plugCharger (ctx : GatewayCtx) : GatewayCtx :=
  let ctx := (ctx.setMode .charging).trace "charging_plug" 1
  (ctx.trace "gateway_charging_state" ctx.gs.mode.toByte.toUInt32).announceMode

/-- Try to drive off while charging. -/
def tryDriveOff (ctx : GatewayCtx) : GatewayCtx :=
  let ctx := { ctx with gs := gatewayStateEnterDrive ctx.gs }
  let ctx := ctx.trace "charging_drive_blocked" (if ctx.gs.mode = .charging then 1 else 0)
  ctx.trace "gateway_charging_state" ctx.gs.mode.toByte.toUInt32

/-- The charging script, `run_dogfood_charging_script`. -/
def runDogfoodChargingScript (ctx : GatewayCtx) : GatewayCtx :=
  if ctx.cfg.chargingDogfoodScript = false then ctx
  else
    let s := runActions [⟨100, 0x01, plugCharger⟩, ⟨300, 0x02, tryDriveOff⟩]
      (ctx, ctx.chargingScript.advance)
    { s.1 with chargingScript := s.2 }

/-- Faults the update script can inject, `OTA_FAULT_*`. -/
def otaFaultBadCrc : UInt8 := 1
/-- `OTA_FAULT_INTERRUPTED_WRITE`. -/
def otaFaultInterruptedWrite : UInt8 := 2
/-- `OTA_FAULT_BAD_HEALTH`. -/
def otaFaultBadHealth : UInt8 := 3
/-- `OTA_FAULT_POWERCUT_PRECOMMIT`. -/
def otaFaultPowercutPrecommit : UInt8 := 4

/-- Emit the state of the update slots. -/
def GatewayCtx.traceOtaState (ctx : GatewayCtx) : GatewayCtx :=
  ctx.trace "ota_state" ctx.ota.state.toUInt32

/-- Emit a rolled back update, `emit_ota_rollback`. -/
def emitOtaRollback (ctx : GatewayCtx) : GatewayCtx :=
  let ctx := ctx.traceOtaState.trace "ota_rollback" (if ctx.ota.rolledBack then 1 else 0)
  (ctx.trace "ota_active_slot" ctx.ota.activeSlot.toUInt32).trace "ota_boot_result" 0

/-- Download the image. -/
def otaScriptDownload (complete : Int) (ctx : GatewayCtx) : GatewayCtx :=
  let ctx := { ctx with ota := Ota.mcOtaBeginDownload ctx.ota }.traceOtaState
  let (ota, finished) := Ota.mcOtaFinishDownload ctx.ota complete
  let ctx := { ctx with ota := ota }
  if finished then ctx else emitOtaRollback ctx

/-- Verify the image. -/
def otaScriptVerify (crcOk : Int) (ctx : GatewayCtx) : GatewayCtx :=
  if ctx.ota.state = Ota.mcOtaDownloading then
    let ctx := ctx.trace "ota_state" Ota.mcOtaVerifying.toUInt32
    let (ota, verified) := Ota.mcOtaVerify ctx.ota crcOk
    let ctx := { ctx with ota := ota }.trace "ota_crc_ok" (if ota.crcOk then 1 else 0)
    if verified then ctx else emitOtaRollback ctx
  else ctx

/-- Commit the image, or lose power just before. -/
def otaScriptCommit (ctx : GatewayCtx) : GatewayCtx :=
  if ctx.ota.state = Ota.mcOtaVerifying then
    if ctx.cfg.otaFaultMode = otaFaultPowercutPrecommit then
      emitOtaRollback { ctx with ota := Ota.mcOtaRollback ctx.ota }
    else
      let ctx := { ctx with ota := (Ota.mcOtaCommit ctx.ota).1 }.traceOtaState
      ctx.trace "ota_slot" ctx.ota.targetSlot.toUInt32
  else ctx

/-- Reboot into the image. -/
def otaScriptReboot (ctx : GatewayCtx) : GatewayCtx :=
  if ctx.ota.state = Ota.mcOtaCommitPending then
    { ctx with ota := Ota.mcOtaReboot ctx.ota }.traceOtaState
  else ctx

/-- Judge the rebooted image. -/
def otaScriptHealthCheck (healthy : Int) (ctx : GatewayCtx) : GatewayCtx :=
  if ctx.ota.state = Ota.mcOtaRebooting then
    let (ota, passed) := Ota.mcOtaHealthCheck ctx.ota healthy
    let ctx := { ctx with ota := ota }
    if passed then
      ctx.traceOtaState.trace "ota_boot_result" (if ota.bootHealthy then 1 else 0)
    else emitOtaRollback ctx
  else ctx

/-- The actions of the update script under the injected fault. -/
def otaScriptActions (cfg : GatewayConfig) : List ScriptAction :=
  let complete : Int := if cfg.otaFaultMode ≠ otaFaultInterruptedWrite then 1 else 0
  let crcOk : Int := if cfg.otaFaultMode ≠ otaFaultBadCrc ∨ cfg.otaCrcCheckBug then 1 else 0
  let healthy : Int := if cfg.otaFaultMode ≠ otaFaultBadHealth then 1 else 0
  [⟨100, 0x01, GatewayCtx.traceOtaState⟩, ⟨200, 0x02, otaScriptDownload complete⟩,
    ⟨300, 0x04, otaScriptVerify crcOk⟩, ⟨400, 0x08, otaScriptCommit⟩,
    ⟨500, 0x10, otaScriptReboot⟩, ⟨600, 0x20, otaScriptHealthCheck healthy⟩]

/-- The update script, `run_dogfood_ota_script`. -/
def runDogfoodOtaScript (ctx : GatewayCtx) : GatewayCtx :=
  if ctx.cfg.otaDogfoodScript = false then ctx
  else
    let ctx := if ctx.otaInited then ctx
      else { ctx with ota := Ota.mcOtaInit, otaInited := true }
    let s := runActions (otaScriptActions ctx.cfg) (ctx, ctx.otaScript.advance)
    { s.1 with otaScript := s.2 }

/-- The scripts of one loop period, in order. -/
def runDogfoodScripts (ctx : GatewayCtx) (take : Bool) : GatewayCtx :=
  let ctx := runDogfoodDiagScript ctx take
  let ctx := runDogfoodDiagStartdriveScript ctx take
  let ctx := runDogfoodChargingScript ctx
  runDogfoodOtaScript ctx

/-- No script is enabled. -/
def GatewayConfig.ScriptsOff (cfg : GatewayConfig) : Prop :=
  cfg.diagDogfoodScript = false ∧ cfg.diagStartdriveScript = false ∧
    cfg.chargingDogfoodScript = false ∧ cfg.otaDogfoodScript = false

/-- The zero-initialised flags enable no script. -/
theorem scriptsOff_off : GatewayConfig.off.ScriptsOff := ⟨rfl, rfl, rfl, rfl⟩

/-- With the scripts off the loop period does nothing here. -/
theorem runDogfoodScripts_of_off {ctx : GatewayCtx} (h : ctx.cfg.ScriptsOff) (take : Bool) :
    runDogfoodScripts ctx take = ctx := by
  obtain ⟨hdiag, hdrive, hcharging, hota⟩ := h
  have h1 : runDogfoodDiagScript ctx take = ctx := if_pos hdiag
  have h2 : runDogfoodDiagStartdriveScript ctx take = ctx := if_pos hdrive
  have h3 : runDogfoodChargingScript ctx = ctx := if_pos hcharging
  have h4 : runDogfoodOtaScript ctx = ctx := if_pos hota
  rw [runDogfoodScripts, h1, h2, h3, h4]

end Microcar.Gateway
