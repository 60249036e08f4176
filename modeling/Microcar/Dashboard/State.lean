import Microcar.Core.Table
import Microcar.Protocol.Modes

/-!
# Display state and warnings of the dashboard

The two modules behind the dashboard's message handlers: the values it displays together
with its bounded table of warnings, and the single warning of highest severity that is
shown.
-/

namespace Microcar.Dashboard

/-- Warning codes, `MC_WARN_*`. -/
def mcWarnNone : UInt8 := 0
/-- `MC_WARN_BMS_OVERTEMP`. -/
def mcWarnBmsOvertemp : UInt8 := 1
/-- `MC_WARN_BMS_OFFLINE`. -/
def mcWarnBmsOffline : UInt8 := 2
/-- `MC_WARN_POWERTRAIN_OFFLINE`. -/
def mcWarnPowertrainOffline : UInt8 := 3
/-- `MC_WARN_GATEWAY_RESTARTED`. -/
def mcWarnGatewayRestarted : UInt8 := 4
/-- `MC_WARN_DASHBOARD_OFFLINE`. -/
def mcWarnDashboardOffline : UInt8 := 5
/-- `MC_WARN_INVALID_THROTTLE`. -/
def mcWarnInvalidThrottle : UInt8 := 6
/-- `MC_WARN_CRITICAL_BMS_FAULT`. -/
def mcWarnCriticalBmsFault : UInt8 := 7
/-- `MC_WARN_CHARGER_PLUGGED`. -/
def mcWarnChargerPlugged : UInt8 := 8

/-- Capacity of the warning table, `DASHBOARD_MAX_WARNINGS`. -/
def dashboardMaxWarnings : Nat := 16

/-- A tracked warning, `dashboard_warning_t`. -/
structure DashboardWarning where
  /-- Warning code. -/
  warningCode : UInt8
  /-- The warning is active. -/
  active : Bool
  /-- Node that originated the warning. -/
  sourceNode : UInt8
  deriving DecidableEq

/-- The displayed values, `dashboard_state_t`. -/
structure DashboardState where
  /-- Vehicle mode. -/
  vehicleMode : McVehicleMode
  /-- Wheel speed in tenths of a kilometre per hour. -/
  speedKphX10 : UInt16
  /-- State of charge in percent. -/
  socPercent : UInt8
  /-- Battery temperature in tenths of a degree. -/
  batteryTempCX10 : Int16
  /-- Battery voltage in millivolts. -/
  batteryVoltageMv : UInt16
  /-- Tracked warnings in order of their first report. -/
  warnings : Core.Table DashboardWarning dashboardMaxWarnings
  /-- At least one update was received. -/
  initialized : Bool
  /-- The dashboard has booted. -/
  booted : Bool
  deriving DecidableEq

/-- The values at boot, `dashboard_state_init`. -/
def dashboardStateInit : DashboardState where
  vehicleMode := .off
  speedKphX10 := 0
  socPercent := 0
  batteryTempCX10 := 0
  batteryVoltageMv := 0
  warnings := .empty
  initialized := false
  booted := true

/-- Store a vehicle mode, `dashboard_state_set_mode`. -/
def dashboardStateSetMode (ds : DashboardState) (mode : McVehicleMode) : DashboardState :=
  { ds with vehicleMode := mode, initialized := true }

/-- Store a wheel speed, `dashboard_state_set_speed`. -/
def dashboardStateSetSpeed (ds : DashboardState) (speedKphX10 : UInt16) : DashboardState :=
  { ds with speedKphX10 := speedKphX10, initialized := true }

/-- Store a battery state, `dashboard_state_set_battery`. -/
def dashboardStateSetBattery (ds : DashboardState) (socPercent : UInt8) (tempCX10 : Int16)
    (voltageMv : UInt16) : DashboardState :=
  { ds with
    socPercent := socPercent
    batteryTempCX10 := tempCX10
    batteryVoltageMv := voltageMv
    initialized := true }

/-- The warning has the given code and source. -/
def DashboardWarning.hasKey (warningCode sourceNode : UInt8) (w : DashboardWarning) : Bool :=
  w.warningCode == warningCode && w.sourceNode == sourceNode

/-- Activate the warning of the key or append it; a full table drops it,
`dashboard_state_add_warning`. -/
def dashboardStateAddWarning (ds : DashboardState) (warningCode sourceNode : UInt8) :
    DashboardState :=
  if ds.warnings.entries.any (DashboardWarning.hasKey warningCode sourceNode) then
    { ds with
      warnings := ds.warnings.modify (DashboardWarning.hasKey warningCode sourceNode)
        fun w => { w with active := true } }
  else if ds.warnings.isFull then ds
  else { ds with warnings := ds.warnings.push ⟨warningCode, true, sourceNode⟩ }

/-- Deactivate the warnings that pass a test. -/
def DashboardState.deactivate (ds : DashboardState) (test : DashboardWarning → Bool) :
    DashboardState :=
  { ds with
    warnings := ds.warnings.map fun w => if test w then { w with active := false } else w }

/-- Deactivate the warnings of a code, `dashboard_state_clear_warning`. -/
def dashboardStateClearWarning (ds : DashboardState) (warningCode : UInt8) : DashboardState :=
  ds.deactivate fun w => w.warningCode == warningCode

/-- Deactivate the warnings of a node, `dashboard_state_clear_node_warnings`. -/
def dashboardStateClearNodeWarnings (ds : DashboardState) (sourceNode : UInt8) :
    DashboardState :=
  ds.deactivate fun w => w.sourceNode == sourceNode

/-- Severity of a warning code: 0 none, 1 info, 2 warning, 3 critical,
`warning_display_severity_for`. -/
def warningDisplaySeverityFor (warningCode : UInt8) : UInt8 :=
  if warningCode = mcWarnCriticalBmsFault then 3
  else if warningCode = mcWarnBmsOvertemp ∨ warningCode = mcWarnPowertrainOffline ∨
      warningCode = mcWarnGatewayRestarted then 2
  else if warningCode = mcWarnBmsOffline ∨ warningCode = mcWarnDashboardOffline ∨
      warningCode = mcWarnInvalidThrottle ∨ warningCode = mcWarnChargerPlugged then 1
  else 0

/-- The severities `dashboard_state_top_warning` goes by: its own switch over the codes. -/
def topWarningSeverity (warningCode : UInt8) : UInt8 :=
  if warningCode = mcWarnCriticalBmsFault then 3
  else if warningCode = mcWarnBmsOvertemp ∨ warningCode = mcWarnPowertrainOffline ∨
      warningCode = mcWarnGatewayRestarted then 2
  else if warningCode = mcWarnBmsOffline ∨ warningCode = mcWarnDashboardOffline ∨
      warningCode = mcWarnInvalidThrottle ∨ warningCode = mcWarnChargerPlugged then 1
  else 0

/-- One entry of the scan for the top warning: code and severity found so far. -/
def topWarningScan (top : UInt8 × UInt8) (w : DashboardWarning) : UInt8 × UInt8 :=
  if w.active = false then top
  else if top.2 < topWarningSeverity w.warningCode then
    (w.warningCode, topWarningSeverity w.warningCode)
  else top

/-- The most severe active warning, the earliest of them, `dashboard_state_top_warning`. -/
def dashboardStateTopWarning (ds : DashboardState) : UInt8 :=
  (ds.warnings.entries.foldl topWarningScan (mcWarnNone, 0)).1

/-- The shown warning, `warning_display_t`. -/
structure WarningDisplay where
  /-- Code of the shown warning. -/
  displayedWarning : UInt8
  /-- Its severity. -/
  severity : UInt8
  deriving DecidableEq

/-- Nothing is shown at boot, `warning_display_init`. -/
def warningDisplayInit : WarningDisplay := ⟨mcWarnNone, 0⟩

/-- A warning of higher severity replaces the shown one; the returned code is the code
field, `warning_display_update`. -/
def warningDisplayUpdate (wd : WarningDisplay) (warningCode severity : UInt8) : WarningDisplay :=
  if wd.severity < severity then ⟨warningCode, severity⟩ else wd

/-- No code is more than critical, and only a critical fault is. -/
theorem warningDisplaySeverityFor_le (warningCode : UInt8) :
    warningDisplaySeverityFor warningCode ≤ 3 ∧
      (warningDisplaySeverityFor warningCode = 3 ↔ warningCode = mcWarnCriticalBmsFault) := by
  unfold warningDisplaySeverityFor
  by_cases hcritical : warningCode = mcWarnCriticalBmsFault
  · rw [if_pos hcritical]
    exact ⟨UInt8.le_refl 3, iff_of_true rfl hcritical⟩
  · rw [if_neg hcritical]
    split_ifs
    · exact ⟨by decide, iff_of_false (by decide) hcritical⟩
    · exact ⟨by decide, iff_of_false (by decide) hcritical⟩
    · exact ⟨by decide, iff_of_false (by decide) hcritical⟩

/-- Everything adding a warning can do to the table. -/
inductive WarningMove (ds : DashboardState) (warningCode sourceNode : UInt8) :
    DashboardState → Prop
  | renewed (hkey : ∃ w ∈ ds.warnings.entries, w.hasKey warningCode sourceNode = true) :
      WarningMove ds warningCode sourceNode
        { ds with
          warnings := ds.warnings.modify (DashboardWarning.hasKey warningCode sourceNode)
            fun w => { w with active := true } }
  | appended {warnings : Core.Table DashboardWarning dashboardMaxWarnings}
      (hnew : ∀ w ∈ ds.warnings.entries, w.hasKey warningCode sourceNode = false)
      (hroom : ds.warnings.entries.length < dashboardMaxWarnings)
      (hentries : warnings.entries = ds.warnings.entries ++ [⟨warningCode, true, sourceNode⟩]) :
      WarningMove ds warningCode sourceNode { ds with warnings := warnings }
  | dropped (hnew : ∀ w ∈ ds.warnings.entries, w.hasKey warningCode sourceNode = false)
      (hfull : dashboardMaxWarnings ≤ ds.warnings.entries.length) :
      WarningMove ds warningCode sourceNode ds

/-- Adding a warning makes one of the moves. -/
theorem dashboardStateAddWarning_move (ds : DashboardState) (warningCode sourceNode : UInt8) :
    WarningMove ds warningCode sourceNode
      (dashboardStateAddWarning ds warningCode sourceNode) := by
  unfold dashboardStateAddWarning
  by_cases hkey : ds.warnings.entries.any (DashboardWarning.hasKey warningCode sourceNode) = true
  · rw [if_pos hkey]
    exact .renewed (List.any_eq_true.mp hkey)
  · have hnew : ∀ w ∈ ds.warnings.entries, w.hasKey warningCode sourceNode = false := by
      intro w hw
      rw [Bool.not_eq_true, List.any_eq_false] at hkey
      exact Bool.not_eq_true _ ▸ hkey w hw
    rw [if_neg hkey]
    by_cases hfull : ds.warnings.isFull = true
    · rw [if_pos hfull]
      exact .dropped hnew (of_decide_eq_true hfull)
    · have hroom : ds.warnings.entries.length < dashboardMaxWarnings := by
        rw [Core.Table.isFull, decide_eq_true_iff] at hfull
        exact Nat.lt_of_not_le hfull
      rw [if_neg hfull]
      refine .appended hnew hroom ?_
      rw [Core.Table.entries_push, if_neg hfull]

/-- A property of all warnings that activation keeps and the added one has holds behind the
addition. -/
theorem forall_mem_addWarning {ds : DashboardState} {P : DashboardWarning → Prop}
    {warningCode sourceNode : UInt8} (hold : ∀ w ∈ ds.warnings.entries, P w)
    (hactivated : ∀ w ∈ ds.warnings.entries, P { w with active := true })
    (hadded : P ⟨warningCode, true, sourceNode⟩) :
    ∀ w ∈ (dashboardStateAddWarning ds warningCode sourceNode).warnings.entries, P w := by
  have hmove := dashboardStateAddWarning_move ds warningCode sourceNode
  generalize dashboardStateAddWarning ds warningCode sourceNode = added at hmove ⊢
  intro w hw
  cases hmove with
  | renewed =>
    rcases Core.mem_modifyFirst hw with hw | ⟨v, hv, -, rfl⟩
    · exact hold w hw
    · exact hactivated v hv
  | appended _ _ hentries =>
    rw [hentries] at hw
    rcases List.mem_append.mp hw with hw | hw
    · exact hold w hw
    · rw [List.mem_singleton.mp hw]
      exact hadded
  | dropped => exact hold w hw

end Microcar.Dashboard
