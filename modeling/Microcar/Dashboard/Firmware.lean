import Microcar.Core.Bytes
import Microcar.Core.Run
import Microcar.Dashboard.Render
import Microcar.Dashboard.State
import Microcar.Ota.Slot

/-!
# The dashboard firmware

The context of `dashboard_ecu/src/main.c`, its frame handlers, the display task and the main
loop. The display task can run between two frames of the receive phase and around the
heartbeat. The calls that set up the display have no effect on the context.
-/

namespace Microcar.Dashboard

/-- Message identifiers only the dashboard handles. -/
def mcMsgWarning : UInt32 := 0x400
/-- Identifier of the update status frame. -/
def mcMsgOtaStatus : UInt32 := 0x633

/-- The context `dashboard_ctx_t` with the pending notification and the locals of the display
task, and the log of everything the ECU emitted. -/
structure DashboardCtx where
  /-- Displayed values. -/
  ds : DashboardState
  /-- Shown warning. -/
  wd : WarningDisplay
  /-- Rendered state. -/
  dash : McDashState
  /-- The display is initialised. -/
  displayInitialized : Bool
  /-- Framebuffer. -/
  framebuffer : Framebuffer
  /-- Pending notification of the display task. -/
  notification : Option UInt32
  /-- Notification traced last, a local of the display task. -/
  prevNotifyVal : UInt32
  /-- Time of the last picture, a local of the display task. -/
  lastRenderMs : UInt32
  /-- Everything emitted so far. -/
  out : List Emission

/-- Emit a trace word. -/
def DashboardCtx.trace (ctx : DashboardCtx) (label : String) (value : UInt32) : DashboardCtx :=
  { ctx with out := ctx.out ++ [.trace label value] }

/-- Put a frame on the bus. -/
def DashboardCtx.send (ctx : DashboardCtx) (frame : McCanFrame) : DashboardCtx :=
  { ctx with out := ctx.out ++ [.can frame] }

/-- Cast and store the vehicle mode, `handle_vehicle_mode`. -/
def handleVehicleMode (ctx : DashboardCtx) (frame : McCanFrame) : DashboardCtx :=
  let mode := McVehicleMode.ofByte (frame.data.get 0)
  { ctx with ds := dashboardStateSetMode ctx.ds mode, dash := mcDashSetMode ctx.dash mode }

/-- Store the wheel speed, `handle_wheel_speed`. -/
def handleWheelSpeed (ctx : DashboardCtx) (frame : McCanFrame) : DashboardCtx :=
  let speedKphX10 := Core.wordOfBytes (frame.data.get 0) (frame.data.get 1)
  { ctx with
    dash := { ctx.dash with speedKmh := (speedKphX10 / 10).toUInt8 }
    ds := dashboardStateSetSpeed ctx.ds speedKphX10 }

/-- Store the battery readings, `handle_plant_sensors`; the current is taken without its
sign. -/
def handlePlantSensors (ctx : DashboardCtx) (frame : McCanFrame) : DashboardCtx :=
  if frame.len < 7 then ctx
  else
    let socPercent := frame.data.get 0
    let voltageMv := Core.wordOfBytes (frame.data.get 1) (frame.data.get 2)
    let tempCX10 := (Core.wordOfBytes (frame.data.get 3) (frame.data.get 4)).toInt16
    let currentRaw := Core.wordOfBytes (frame.data.get 5) (frame.data.get 6)
    { ctx with
      ds := dashboardStateSetBattery ctx.ds socPercent tempCX10 voltageMv
      dash := { ctx.dash with
        socPercent := socPercent
        currentAX2 := (currentRaw / 500).toUInt8 } }

/-- Add a warning and notify the display task, `handle_warning`. -/
def handleWarning (ctx : DashboardCtx) (frame : McCanFrame) : DashboardCtx :=
  let sourceNode := frame.data.get 0
  let warningCode := frame.data.get 1
  let severity := warningDisplaySeverityFor warningCode
  { ctx with
    ds := dashboardStateAddWarning ctx.ds warningCode sourceNode
    wd := warningDisplayUpdate ctx.wd warningCode severity
    notification :=
      ctx.notification.or (some ((severity.toUInt32 <<< 8) ||| warningCode.toUInt32)) }

/-- The progress shown for an update state. -/
def otaProgressOf (otaState : UInt8) : UInt8 :=
  if otaState = Ota.mcOtaDownloading then 25
  else if otaState = Ota.mcOtaVerifying then 50
  else if otaState = Ota.mcOtaCommitPending then 75
  else if otaState = Ota.mcOtaRebooting then 90
  else if otaState = Ota.mcOtaHealthy then 100
  else 0

/-- Store the progress of an update, `handle_ota_status`. -/
def handleOtaStatus (ctx : DashboardCtx) (frame : McCanFrame) : DashboardCtx :=
  if frame.len < 8 then ctx
  else { ctx with dash := { ctx.dash with otaProgress := otaProgressOf (frame.data.get 2) } }

/-- Store the torque of a motor command, `handle_motor_command`. -/
def handleMotorCommand (ctx : DashboardCtx) (frame : McCanFrame) : DashboardCtx :=
  { ctx with dash := { ctx.dash with torquePercent := (frame.data.get 0).toInt8 } }

/-- Route a received frame, `dispatch_frame`. -/
def dispatchFrame (ctx : DashboardCtx) (frame : McCanFrame) : DashboardCtx :=
  if frame.id = mcMsgVehicleMode then handleVehicleMode ctx frame
  else if frame.id = mcMsgWheelSpeed then handleWheelSpeed ctx frame
  else if frame.id = mcMsgPlantSensors then handlePlantSensors ctx frame
  else if frame.id = mcMsgWarning then handleWarning ctx frame
  else if frame.id = mcMsgOtaStatus then handleOtaStatus ctx frame
  else if frame.id = mcMsgMotorCommand then handleMotorCommand ctx frame
  else ctx

/-- The dashboard heartbeat, `send_heartbeat`. -/
def sendHeartbeat (nowMs : UInt32) : McCanFrame := heartbeatFrame mcNodeDashboard nowMs

/-- An event of the touch panel. -/
structure TouchEvent where
  /-- Horizontal position. -/
  x : UInt16
  /-- Vertical position. -/
  y : UInt16
  /-- Type of the event, 1 for a press. -/
  evType : UInt32
  deriving DecidableEq

/-- Take a pending notification and trace a new value. -/
def takeNotification (ctx : DashboardCtx) : DashboardCtx :=
  match ctx.notification with
  | none => ctx
  | some value =>
    let ctx := { ctx with notification := none }
    if value ≠ ctx.prevNotifyVal then
      { ctx.trace "display_warning" value with prevNotifyVal := value }
    else ctx

/-- Initialise the display once. -/
def initDisplay (ctx : DashboardCtx) : DashboardCtx :=
  if ctx.displayInitialized then ctx
  else { ctx with displayInitialized := true }.trace "display_init" 1

/-- Toggle the page on a press in the upper right corner. -/
def pollTouch (ctx : DashboardCtx) (ev : TouchEvent) : DashboardCtx :=
  if ev.evType = 1 ∧ 280 ≤ ev.x ∧ ev.x ≤ 319 ∧ ev.y ≤ 39 then
    let page := if ctx.dash.page ≠ 0 then 0 else 1
    { ctx with dash := { ctx.dash with page := page } }.trace "dash_page" page.toUInt32
  else ctx

/-- Render a picture every 100 ms. -/
def renderDisplay (ctx : DashboardCtx) (nowMs : UInt32) : DashboardCtx :=
  if 100 ≤ nowMs - ctx.lastRenderMs then
    let (dash, framebuffer) := mcDashRender ctx.dash ctx.framebuffer
    { ctx with dash := dash, framebuffer := framebuffer, lastRenderMs := nowMs }
  else ctx

/-- Trace the top warning every 500 ms. -/
def traceTopWarning (ctx : DashboardCtx) (nowMs : UInt32) : DashboardCtx :=
  if nowMs % 500 = 0 then
    ctx.trace "display_update" (dashboardStateTopWarning ctx.ds).toUInt32
  else ctx

/-- One iteration of the display task, `display_update`. -/
def displayUpdate (ctx : DashboardCtx) (nowMs : UInt32) (touches : List TouchEvent) :
    DashboardCtx :=
  let ctx := initDisplay (takeNotification ctx)
  traceTopWarning (renderDisplay (touches.foldl pollTouch ctx) nowMs) nowMs

/-- The loop of `dashboard_main` behind its receive phase. -/
def publishHeartbeat (ctx : DashboardCtx) (nowMs : UInt32) : DashboardCtx :=
  if nowMs % 100 = 0 then ctx.send (sendHeartbeat nowMs) else ctx

/-- The context when the loop of `dashboard_main` starts, over whatever the framebuffer
held. -/
def dashboardBoot (framebuffer : Framebuffer) : DashboardCtx where
  ds := dashboardStateInit
  wd := warningDisplayInit
  dash := mcDashInit
  displayInitialized := false
  framebuffer := framebuffer
  notification := none
  prevNotifyVal := 0
  lastRenderMs := 0
  out := [.can (sendHeartbeat 0)]

/-- One step of a dashboard task. -/
inductive DashboardOp where
  /-- The receive loop dispatches a frame. -/
  | dispatch (frame : RxFrame)
  /-- The main loop ends an iteration. -/
  | heartbeat (nowMs : UInt32)
  /-- The display task runs one iteration. -/
  | display (nowMs : UInt32) (touches : List TouchEvent)
  deriving DecidableEq

/-- The effect of one step. -/
def dashboardStep (ctx : DashboardCtx) : DashboardOp → DashboardCtx
  | .dispatch frame => dispatchFrame ctx frame.toMcCanFrame
  | .heartbeat nowMs => publishHeartbeat ctx nowMs
  | .display nowMs touches => displayUpdate ctx nowMs touches

/-- The second context has the values and warnings of the first. -/
structure StateKept (ctx ctx' : DashboardCtx) : Prop where
  /-- The displayed values stay. -/
  ds : ctx'.ds = ctx.ds
  /-- The shown warning stays. -/
  wd : ctx'.wd = ctx.wd

/-- Without a step the state is kept. -/
theorem StateKept.refl (ctx : DashboardCtx) : StateKept ctx ctx := ⟨rfl, rfl⟩

/-- Two steps keep what both keep. -/
theorem StateKept.trans {ctx ctx' ctx'' : DashboardCtx} (h : StateKept ctx ctx')
    (h' : StateKept ctx' ctx'') : StateKept ctx ctx'' := ⟨h'.ds.trans h.ds, h'.wd.trans h.wd⟩

/-- Taking a notification keeps the state. -/
theorem stateKept_takeNotification (ctx : DashboardCtx) :
    StateKept ctx (takeNotification ctx) := by
  unfold takeNotification
  split
  · exact .refl ctx
  · dsimp only
    split
    · exact ⟨rfl, rfl⟩
    · exact ⟨rfl, rfl⟩

/-- The set-up of the display keeps the state. -/
theorem stateKept_initDisplay (ctx : DashboardCtx) : StateKept ctx (initDisplay ctx) := by
  unfold initDisplay
  split
  · exact .refl ctx
  · exact ⟨rfl, rfl⟩

/-- Touches turn the page and keep the state. -/
theorem stateKept_pollTouches (ctx : DashboardCtx) (touches : List TouchEvent) :
    StateKept ctx (touches.foldl pollTouch ctx) := by
  induction touches generalizing ctx with
  | nil => exact .refl ctx
  | cons ev touches ih =>
    have hpoll : StateKept ctx (pollTouch ctx ev) := by
      unfold pollTouch
      split
      · exact ⟨rfl, rfl⟩
      · exact .refl ctx
    exact hpoll.trans (ih (pollTouch ctx ev))

/-- Rendering keeps the state. -/
theorem stateKept_renderDisplay (ctx : DashboardCtx) (nowMs : UInt32) :
    StateKept ctx (renderDisplay ctx nowMs) := by
  unfold renderDisplay
  split
  · exact ⟨rfl, rfl⟩
  · exact .refl ctx

/-- Tracing the top warning keeps the state. -/
theorem stateKept_traceTopWarning (ctx : DashboardCtx) (nowMs : UInt32) :
    StateKept ctx (traceTopWarning ctx nowMs) := by
  unfold traceTopWarning
  split
  · exact ⟨rfl, rfl⟩
  · exact .refl ctx

/-- The display task changes neither the displayed values nor the warnings. -/
theorem stateKept_displayUpdate (ctx : DashboardCtx) (nowMs : UInt32)
    (touches : List TouchEvent) : StateKept ctx (displayUpdate ctx nowMs touches) := by
  have htaken := (stateKept_takeNotification ctx).trans (stateKept_initDisplay _)
  have htouched := htaken.trans (stateKept_pollTouches _ touches)
  exact (htouched.trans (stateKept_renderDisplay _ nowMs)).trans (stateKept_traceTopWarning _ nowMs)

end Microcar.Dashboard
