import Microcar.Dashboard.Warnings
import Microcar.Protocol.Mirror

/-!
# The dashboard mirror of the state tests

The state tests keep the warnings in a vector that grows, the firmware in a table of sixteen. The
table holds the first sixteen warnings of the vector at all times, active where they are active
there, and everything else is the same. So the two report the same top warning exactly as long as
no active warning behind the sixteenth is more severe than those of the table.
-/

namespace Microcar.Dashboard

/-- Start over without the boot flag, `dashboard_state_reboot`. -/
def dashboardStateReboot (_ : DashboardState) : DashboardState :=
  { dashboardStateInit with booted := false }

namespace Mirror

open Microcar.Mirror (VehicleMode)

/-- The mirrored values, `DashboardState`; a warning has the fields of `dashboard_warning_t`. -/
structure DashboardState where
  vehicleMode : VehicleMode
  speedKphX10 : UInt16
  socPercent : UInt8
  batteryTempCX10 : Int16
  batteryVoltageMv : UInt16
  /-- Tracked warnings in order of their first report. -/
  warnings : List DashboardWarning
  initialized : Bool
  booted : Bool

/-- `DashboardState::default`. -/
def DashboardState.default : DashboardState := ⟨.off, 0, 0, 0, 0, [], false, true⟩

namespace DashboardState

variable (ds : DashboardState)

/-- `DashboardState::set_mode`. -/
def setMode (mode : VehicleMode) : DashboardState :=
  { ds with vehicleMode := mode, initialized := true }

/-- `DashboardState::set_speed`. -/
def setSpeed (speedKphX10 : UInt16) : DashboardState :=
  { ds with speedKphX10 := speedKphX10, initialized := true }

/-- `DashboardState::set_battery`. -/
def setBattery (socPercent : UInt8) (tempCX10 : Int16) (voltageMv : UInt16) : DashboardState :=
  { ds with
    socPercent := socPercent
    batteryTempCX10 := tempCX10
    batteryVoltageMv := voltageMv
    initialized := true }

/-- `DashboardState::add_warning`. -/
def addWarning (warningCode sourceNode : UInt8) : DashboardState :=
  if ds.warnings.any (DashboardWarning.hasKey warningCode sourceNode) then
    { ds with
      warnings := Core.modifyFirst (DashboardWarning.hasKey warningCode sourceNode)
        (fun w => { w with active := true }) ds.warnings }
  else { ds with warnings := ds.warnings ++ [⟨warningCode, true, sourceNode⟩] }

/-- Deactivate the warnings that pass a test. -/
def deactivate (test : DashboardWarning → Bool) : DashboardState :=
  { ds with
    warnings := ds.warnings.map fun w => if test w then { w with active := false } else w }

/-- `DashboardState::clear_warning`. -/
def clearWarning (warningCode : UInt8) : DashboardState :=
  ds.deactivate fun w => w.warningCode == warningCode

/-- `DashboardState::clear_node_warnings`. -/
def clearNodeWarnings (sourceNode : UInt8) : DashboardState :=
  ds.deactivate fun w => w.sourceNode == sourceNode

/-- `DashboardState::reboot`. -/
def reboot (_ : DashboardState) : DashboardState := { DashboardState.default with booted := false }

end DashboardState

/-- `warning_severity`: the arms of the match, one by one. -/
def warningSeverity (code : UInt8) : UInt8 :=
  if code = mcWarnCriticalBmsFault then 3
  else if code = mcWarnBmsOvertemp then 2
  else if code = mcWarnPowertrainOffline then 2
  else if code = mcWarnGatewayRestarted then 2
  else if code = mcWarnBmsOffline then 1
  else if code = mcWarnDashboardOffline then 1
  else if code = mcWarnInvalidThrottle then 1
  else if code = mcWarnChargerPlugged then 1
  else 0

/-- One round of the loop of `top_warning`: code and severity found so far. -/
def topWarningRound (top : UInt8 × UInt8) (w : DashboardWarning) : UInt8 × UInt8 :=
  if !w.active then top
  else if top.2 < warningSeverity w.warningCode then (w.warningCode, warningSeverity w.warningCode)
  else top

/-- `DashboardState::top_warning`. -/
def DashboardState.topWarning (ds : DashboardState) : UInt8 :=
  (ds.warnings.foldl topWarningRound (mcWarnNone, 0)).1

/-- A call of the dashboard logic. -/
inductive MirrorOp where
  | setMode (mode : VehicleMode)
  | setSpeed (speedKphX10 : UInt16)
  | setBattery (socPercent : UInt8) (tempCX10 : Int16) (voltageMv : UInt16)
  | addWarning (warningCode sourceNode : UInt8)
  | clearWarning (warningCode : UInt8)
  | clearNodeWarnings (sourceNode : UInt8)
  | reboot

/-- The call in the firmware. -/
def firmwareStep (ds : Dashboard.DashboardState) : MirrorOp → Dashboard.DashboardState
  | .setMode mode => dashboardStateSetMode ds mode.firmware
  | .setSpeed speedKphX10 => dashboardStateSetSpeed ds speedKphX10
  | .setBattery socPercent tempCX10 voltageMv =>
    dashboardStateSetBattery ds socPercent tempCX10 voltageMv
  | .addWarning warningCode sourceNode => dashboardStateAddWarning ds warningCode sourceNode
  | .clearWarning warningCode => dashboardStateClearWarning ds warningCode
  | .clearNodeWarnings sourceNode => dashboardStateClearNodeWarnings ds sourceNode
  | .reboot => dashboardStateReboot ds

/-- The call in the mirror. -/
def mirrorStep (ds : DashboardState) : MirrorOp → DashboardState
  | .setMode mode => ds.setMode mode
  | .setSpeed speedKphX10 => ds.setSpeed speedKphX10
  | .setBattery socPercent tempCX10 voltageMv => ds.setBattery socPercent tempCX10 voltageMv
  | .addWarning warningCode sourceNode => ds.addWarning warningCode sourceNode
  | .clearWarning warningCode => ds.clearWarning warningCode
  | .clearNodeWarnings sourceNode => ds.clearNodeWarnings sourceNode
  | .reboot => ds.reboot

/-- The firmware shows the values of the mirror and tracks the first of its warnings. -/
structure Shows (c : Dashboard.DashboardState) (r : DashboardState) : Prop where
  mode : c.vehicleMode = r.vehicleMode.firmware
  speed : c.speedKphX10 = r.speedKphX10
  soc : c.socPercent = r.socPercent
  temp : c.batteryTempCX10 = r.batteryTempCX10
  voltage : c.batteryVoltageMv = r.batteryVoltageMv
  warnings : c.warnings.entries = r.warnings.take dashboardMaxWarnings
  initialized : c.initialized = r.initialized
  booted : c.booted = r.booted

theorem shows_boot : Shows dashboardStateInit .default :=
  ⟨rfl, rfl, rfl, rfl, rfl, rfl, rfl, rfl⟩

section Steps

variable {c : Dashboard.DashboardState} {r : DashboardState}

/-- The table after a warning was added. -/
theorem Shows.entries_addWarning (h : Shows c r) (warningCode sourceNode : UInt8) :
    (dashboardStateAddWarning c warningCode sourceNode).warnings.entries =
      (r.addWarning warningCode sourceNode).warnings.take dashboardMaxWarnings := by
  unfold dashboardStateAddWarning DashboardState.addWarning
  by_cases htracked : c.warnings.entries.any (DashboardWarning.hasKey warningCode sourceNode) = true
  · have hknown : r.warnings.any (DashboardWarning.hasKey warningCode sourceNode) = true := by
      obtain ⟨w, hw, hkey⟩ := List.any_eq_true.mp htracked
      rw [h.warnings] at hw
      exact List.any_eq_true.mpr ⟨w, List.mem_of_mem_take hw, hkey⟩
    rw [if_pos htracked, if_pos hknown, Core.Table.entries_modify, h.warnings,
      Core.take_modifyFirst]
  · rw [if_neg htracked]
    by_cases hknown : r.warnings.any (DashboardWarning.hasKey warningCode sourceNode) = true
    · -- the warning stands behind the table, which is full
      have hfull : c.warnings.isFull = true := by
        by_contra hroom
        have hshort : r.warnings.length ≤ dashboardMaxWarnings := by
          have hlength :
              c.warnings.entries.length = min dashboardMaxWarnings r.warnings.length := by
            rw [h.warnings, List.length_take]
          have hlt : ¬ dashboardMaxWarnings ≤ c.warnings.entries.length :=
            fun hle => hroom (decide_eq_true hle)
          omega
        rw [h.warnings, List.take_of_length_le hshort] at htracked
        exact htracked hknown
      rw [if_pos hfull, if_pos hknown, Core.take_modifyFirst, ← h.warnings,
        Core.modifyFirst_eq_self]
      intro w hw hkey
      exact absurd (List.any_eq_true.mpr ⟨w, hw, hkey⟩) htracked
    · rw [if_neg hknown, ← Core.Table.entries_push_take h.warnings]
      by_cases hfull : c.warnings.isFull = true
      · rw [if_pos hfull, Core.Table.entries_push, if_pos hfull]
      · rw [if_neg hfull]

/-- Adding a warning changes nothing but the table. -/
theorem addWarning_kept (ds : Dashboard.DashboardState) (warningCode sourceNode : UInt8) :
    { dashboardStateAddWarning ds warningCode sourceNode with warnings := ds.warnings } = ds := by
  unfold dashboardStateAddWarning
  split_ifs
  · rfl
  · rfl
  · rfl

/-- Adding a warning changes nothing but the vector. -/
theorem DashboardState.addWarning_kept (ds : DashboardState) (warningCode sourceNode : UInt8) :
    { ds.addWarning warningCode sourceNode with warnings := ds.warnings } = ds := by
  unfold DashboardState.addWarning
  split_ifs
  · rfl
  · rfl

theorem Shows.entries_deactivate (h : Shows c r) (test : DashboardWarning → Bool) :
    (c.deactivate test).warnings.entries =
      (r.deactivate test).warnings.take dashboardMaxWarnings := by
  rw [Dashboard.DashboardState.deactivate, Core.Table.entries_map, h.warnings,
    DashboardState.deactivate, List.map_take]

/-- Every call keeps the two in step. -/
theorem Shows.step (h : Shows c r) (op : MirrorOp) :
    Shows (firmwareStep c op) (mirrorStep r op) := by
  cases op with
  | setMode mode => exact { h with mode := rfl, initialized := rfl }
  | setSpeed speedKphX10 => exact { h with speed := rfl, initialized := rfl }
  | setBattery socPercent tempCX10 voltageMv =>
    exact { h with soc := rfl, temp := rfl, voltage := rfl, initialized := rfl }
  | addWarning warningCode sourceNode =>
    have hc := addWarning_kept c warningCode sourceNode
    have hr := r.addWarning_kept warningCode sourceNode
    have hold : Shows { dashboardStateAddWarning c warningCode sourceNode with
        warnings := c.warnings } { r.addWarning warningCode sourceNode with
        warnings := r.warnings } := by
      rw [hc, hr]
      exact h
    exact { mode := hold.mode, speed := hold.speed, soc := hold.soc, temp := hold.temp
            voltage := hold.voltage, initialized := hold.initialized, booted := hold.booted
            warnings := h.entries_addWarning warningCode sourceNode }
  | clearWarning warningCode => exact { h with warnings := h.entries_deactivate _ }
  | clearNodeWarnings sourceNode => exact { h with warnings := h.entries_deactivate _ }
  | reboot => exact ⟨rfl, rfl, rfl, rfl, rfl, rfl, rfl, rfl⟩

end Steps

/-- Behind every history of calls the firmware shows the values of the mirror. -/
theorem shows_run (ops : List MirrorOp) :
    Shows (Core.run firmwareStep dashboardStateInit ops)
      (Core.run mirrorStep .default ops) := by
  induction ops using List.reverseRecOn with
  | nil => exact shows_boot
  | append_singleton ops op ih =>
    rw [Core.run_snoc, Core.run_snoc]
    exact ih.step op

/-! ### The top warning -/

theorem warningSeverity_eq (code : UInt8) : warningSeverity code = topWarningSeverity code := by
  unfold warningSeverity topWarningSeverity
  split_ifs <;> simp_all

theorem topWarningRound_eq : topWarningRound = topWarningScan := by
  funext top w
  unfold topWarningRound topWarningScan
  rw [warningSeverity_eq]
  cases w.active with
  | false => rfl
  | true => rfl

/-- Entries that are not more severe do not change what the scan has found. -/
theorem foldl_topWarningScan_eq {top : UInt8 × UInt8} {entries : List DashboardWarning}
    (h : ∀ w ∈ entries, w.active = true → topWarningSeverity w.warningCode ≤ top.2) :
    entries.foldl topWarningScan top = top := by
  induction entries with
  | nil => rfl
  | cons w entries ih =>
    have hskip : topWarningScan top w = top := by
      unfold topWarningScan
      cases hactive : w.active with
      | false => rw [if_pos rfl]
      | true =>
        have hle := h w List.mem_cons_self hactive
        rw [if_neg (by simp), if_neg (UInt8.not_lt.mpr hle)]
    rw [List.foldl_cons, hskip]
    exact ih fun v hv => h v (List.mem_cons_of_mem w hv)

/-- Where the firmware shows the mirror, the top warnings agree as long as no active warning
behind the table is more severe. -/
theorem Shows.topWarning_iff {c : Dashboard.DashboardState} {r : DashboardState} (h : Shows c r) :
    dashboardStateTopWarning c = r.topWarning ↔
      ∀ w ∈ r.warnings.drop dashboardMaxWarnings, w.active = true →
        topWarningSeverity w.warningCode ≤ topWarningSeverity (dashboardStateTopWarning c) := by
  obtain ⟨-, hseverity⟩ := topWarningScan_spec c.warnings.entries
  have hmirror : r.topWarning = ((r.warnings.drop dashboardMaxWarnings).foldl topWarningScan
      (c.warnings.entries.foldl topWarningScan (mcWarnNone, 0))).1 := by
    rw [DashboardState.topWarning, topWarningRound_eq, h.warnings, ← List.foldl_append,
      List.take_append_drop]
  constructor
  · intro heq w hw hactive
    obtain ⟨htop, -⟩ := topWarningScan_spec r.warnings
    rw [heq, DashboardState.topWarning, topWarningRound_eq]
    exact htop.severity_le (List.mem_of_mem_drop hw) hactive
  · intro hle
    rw [hmirror, foldl_topWarningScan_eq, dashboardStateTopWarning]
    intro w hw hactive
    rw [hseverity]
    exact hle w hw hactive

/-- Behind every history of calls the firmware's dashboard is that of the state tests with the
warnings behind the sixteenth cut off, and the two report the same top warning exactly if no
active warning that was cut off is more severe than the one the firmware reports. -/
theorem dashboardMirror_along_history (ops : List MirrorOp) :
    Shows (Core.run firmwareStep dashboardStateInit ops) (Core.run mirrorStep .default ops) ∧
      (dashboardStateTopWarning (Core.run firmwareStep dashboardStateInit ops) =
          (Core.run mirrorStep .default ops).topWarning ↔
        ∀ w ∈ (Core.run mirrorStep .default ops).warnings.drop dashboardMaxWarnings,
          w.active = true → topWarningSeverity w.warningCode ≤ topWarningSeverity
            (dashboardStateTopWarning (Core.run firmwareStep dashboardStateInit ops))) :=
  ⟨shows_run ops, (shows_run ops).topWarning_iff⟩

end Mirror

end Microcar.Dashboard
