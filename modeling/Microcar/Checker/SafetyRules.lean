import Microcar.Checker.Assertions
import Microcar.Checker.TraceEcus
import Microcar.Core.StableSort

/-!
# The safety rules on a trace

`check_safety_rules` reads the rules S1 to S8 off a trace, each in a loop of its own. On a trace
whose gateway events stand in the order of their times the eight loops together ask for five
things. The 300 ms that S3 grants are no grace, the torque that S8 forbids is forbidden by S2, and
S1 and S6 ask for nothing.
-/

namespace Microcar.Checker

open Microcar.Core

/-! ### Events -/

/-- An event whose torque, where it has one, is a number. -/
structure SafetyEvent extends TraceEvent where
  torque_int : ∀ value, fields.lookup "torque" = some value → ∃ n, value = .int n

/-- `event.get("torque", 0)`. -/
def SafetyEvent.torque (event : SafetyEvent) : Int :=
  match event.fields.lookup "torque" with
  | some (.int n) => n
  | _ => 0

/-- `event.get("machine") == machine`. A truth value is a number too. -/
def TraceEvent.isOf (event : TraceEvent) (machine : Nat) : Bool :=
  match event.fields.lookup "machine" with
  | some (.int n) => n == machine
  | some (.bool b) => b.toNat == machine
  | _ => false

/-- `event.get(key) == text`. -/
def TraceEvent.says (event : TraceEvent) (key text : String) : Bool :=
  match event.fields.lookup key with
  | some (.str s) => s == text
  | _ => false

/-- `str(event.get("at"))`. -/
def TraceEvent.atText (event : TraceEvent) : String :=
  match event.fields.lookup "at" with
  | some (.int n) => String.ofList (decimal n)
  | _ => "None"

/-- The event has a type and belongs to a machine. -/
def SafetyEvent.is (event : SafetyEvent) (machine : Nat) (type : String) : Bool :=
  event.isOf machine && event.hasType type

/-- The machine has changed to this mode. -/
def SafetyEvent.isMode (event : SafetyEvent) (machine : Nat) (mode : String) : Bool :=
  event.is machine "vehicle_mode" && event.says "value" mode

/-- The machine has lost this node. -/
def SafetyEvent.isLoss (event : SafetyEvent) (machine : Nat) (node : String) : Bool :=
  event.is machine "node_lost" && event.says "node" node

/-- The machine has a critical fault. -/
def SafetyEvent.isCriticalFault (event : SafetyEvent) (machine : Nat) : Bool :=
  event.is machine "fault" && event.says "value" "CRITICAL_BMS_FAULT"

/-! ### Rules -/

/-- How long a lost node may go unnoticed. -/
def heartbeatTimeoutUs : Int := 300000
/-- How long limp mode may take to cap the torque. -/
def limpResponseUs : Int := 300000

/-- What a rule returns. -/
structure Ruling where
  passed : Bool
  rule : String
  detail : String

/-- A rule fails with what its loop returns, and passes where the loop ends. -/
def ruling (rule description : String) : Option String → Ruling
  | none => ⟨true, rule, description⟩
  | some detail => ⟨false, rule, detail⟩

/-- A rule passes where it finds nothing. -/
theorem passed_ruling_iff {rule description : String} {finding : Option String} :
    (ruling rule description finding).passed = true ↔ finding = none := by
  cases finding with
  | none => exact ⟨fun _ => rfl, fun _ => rfl⟩
  | some detail => exact ⟨fun h => absurd h Bool.false_ne_true, fun h => absurd h (by simp)⟩

section Rules

variable (events : List SafetyEvent)

/-- The first change to a mode from a time on. -/
def findModeTransition (machine : Nat) (mode : String) (afterAt : Int) : Option SafetyEvent :=
  events.find? fun e => e.isMode machine mode && afterAt ≤ e.time

/-- The motor commands from a time on. -/
def findMotorCommandAfter (machine : Nat) (afterAt : Int) : List SafetyEvent :=
  events.filter fun e => e.is machine "motor_command" && afterAt ≤ e.time

/-- The gateway timeouts of the powertrain. -/
def findGatewayTimeout (powertrain : Nat) : List SafetyEvent :=
  events.filter fun e => e.is powertrain "gateway_timeout"

/-- The losses of a node. -/
def findNodeLost (gateway : Nat) (node : String) : List SafetyEvent :=
  events.filter fun e => e.isLoss gateway node

/-- The inner loop: the first command that a test refuses is reported. -/
def refusedCommand (refuses : Int → Bool) (report : SafetyEvent → String)
    (commands : List SafetyEvent) : Option String :=
  commands.findSome? fun cmd => if refuses cmd.torque then some (report cmd) else none

-- `name_to_id`, and the IDs that stand in for names it does not have.
variable (nameToId : List (String × Nat))

/-- The ID of a name, or the one that stands in for it. -/
def idOf (name : String) (fallback : Nat) : Nat := (nameToId.lookup name).getD fallback

/-- S1 asks for nothing. -/
def checkS1 : Ruling := ruling "S1" "Brake-torque interlock" none

/-- S2: no torque from a change to FAULT on. -/
def checkS2 : Ruling :=
  let gateway := idOf nameToId "gateway" mcNodeGateway
  let powertrain := idOf nameToId "powertrain" mcNodePowertrain
  let faultModes := events.filter fun e => e.isMode gateway "FAULT"
  ruling "S2" "FAULT disables motor" <| faultModes.findSome? fun fm =>
    refusedCommand (fun torque => torque != 0)
      (fun cmd => s!"motor_command torque={String.ofList (decimal cmd.torque)} " ++
        s!"at t={cmd.atText} after FAULT mode entered at t={String.ofList (decimal fm.time)}")
      (findMotorCommandAfter events powertrain fm.time)

/-- S3: at most 25 % from a change to LIMP on, up to the deadline and from it on. -/
def checkS3 : Ruling :=
  let gateway := idOf nameToId "gateway" mcNodeGateway
  let powertrain := idOf nameToId "powertrain" mcNodePowertrain
  let limpModes := events.filter fun e => e.isMode gateway "LIMP"
  ruling "S3" "LIMP caps torque ≤25%" <| limpModes.findSome? fun lm =>
    let limpAt := lm.time
    let deadline := limpAt + limpResponseUs
    let cmdsBeforeDeadline := events.filter fun e =>
      e.is powertrain "motor_command" && limpAt ≤ e.time && e.time ≤ deadline
    (refusedCommand (fun torque => (torqueLimpMax : Int) < torque)
      (fun cmd => s!"torque={String.ofList (decimal cmd.torque)} > {torqueLimpMax} " ++
        s!"within {String.ofList (decimal limpResponseUs)}µs of LIMP " ++
        s!"at t={String.ofList (decimal limpAt)}")
      cmdsBeforeDeadline).or
    (refusedCommand (fun torque => (torqueLimpMax : Int) < torque)
      (fun cmd => s!"torque={String.ofList (decimal cmd.torque)} > {torqueLimpMax} " ++
        s!"after LIMP deadline t={String.ofList (decimal deadline)} " ++
        s!"(LIMP at t={String.ofList (decimal limpAt)})")
      (findMotorCommandAfter events powertrain deadline))

/-- S4: no torque from a gateway timeout on. -/
def checkS4 : Ruling :=
  let powertrain := idOf nameToId "powertrain" mcNodePowertrain
  let timeouts := findGatewayTimeout events powertrain
  if timeouts.isEmpty then ruling "S4" "No gateway timeout detected (not tested)" none
  else
    ruling "S4" "Gateway timeout disables torque" <| timeouts.findSome? fun gt =>
      refusedCommand (fun torque => torque != 0)
        (fun cmd => s!"torque={String.ofList (decimal cmd.torque)} " ++
          s!"after gateway_timeout at t={String.ofList (decimal gt.time)}")
        (findMotorCommandAfter events powertrain gt.time)

/-- S5: the loss of the BMS brings FAULT within 300 ms. -/
def checkS5 : Ruling :=
  let gateway := idOf nameToId "gateway" mcNodeGateway
  let bmsLost := findNodeLost events gateway "bms"
  if bmsLost.isEmpty then ruling "S5" "No BMS heartbeat loss (not tested)" none
  else
    ruling "S5" "BMS heartbeat loss → FAULT" <| bmsLost.findSome? fun lost =>
      let deadline := lost.time + heartbeatTimeoutUs
      match findModeTransition events gateway "FAULT" lost.time with
      | none => some s!"no FAULT mode after bms node_lost at t={String.ofList (decimal lost.time)}"
      | some fault =>
        if deadline < fault.time then
          some (s!"FAULT at t={fault.atText} > deadline {String.ofList (decimal deadline)} " ++
            s!"(BMS lost at t={String.ofList (decimal lost.time)})")
        else none

/-- S6 asks for nothing. -/
def checkS6 : Ruling := ruling "S6" "Invalid throttle handled" none

/-- S7: the loss of the dashboard alone does not. -/
def checkS7 : Ruling :=
  let gateway := idOf nameToId "gateway" mcNodeGateway
  let dashLost := findNodeLost events gateway "dashboard"
  if dashLost.isEmpty then ruling "S7" "Dashboard failure not tested in this scenario" none
  else
    ruling "S7" "Dashboard failure doesn't inhibit drive" <| dashLost.findSome? fun lost =>
      let bmsLostBefore :=
        (findNodeLost events gateway "bms").any fun bl => bl.time ≤ lost.time + 10
      match findModeTransition events gateway "FAULT" lost.time with
      | none => none
      | some fault =>
        if !bmsLostBefore && fault.time ≤ lost.time + heartbeatTimeoutUs then
          some (s!"gateway entered FAULT at t={String.ofList (decimal fault.time)} " ++
            s!"after dashboard loss at t={String.ofList (decimal lost.time)} (should only warn)")
        else none

/-- S8: a critical fault brings FAULT, and no torque from there on. -/
def checkS8 : Ruling :=
  let gateway := idOf nameToId "gateway" mcNodeGateway
  let powertrain := idOf nameToId "powertrain" mcNodePowertrain
  let bms := idOf nameToId "bms" mcNodeBms
  let bmsFaults := events.filter fun e => e.isCriticalFault bms
  if bmsFaults.isEmpty then ruling "S8" "No critical BMS fault (not tested)" none
  else
    ruling "S8" "Critical BMS fault shuts down drive" <| bmsFaults.findSome? fun bf =>
      match findModeTransition events gateway "FAULT" bf.time with
      | none =>
        some ("gateway did not enter FAULT after BMS critical fault " ++
          s!"at t={String.ofList (decimal bf.time)}")
      | some fault =>
        refusedCommand (fun torque => torque != 0)
          (fun cmd => s!"torque={String.ofList (decimal cmd.torque)} " ++
            s!"after critical BMS fault shutdown (FAULT at t={fault.atText})")
          (findMotorCommandAfter events powertrain fault.time)

/-- How many rules passed, how many there are, and what is said of those that failed. -/
def checkSafetyRules : Nat × Nat × List String :=
  let rules := [checkS1, checkS2 events nameToId, checkS3 events nameToId, checkS4 events nameToId,
    checkS5 events nameToId, checkS6, checkS7 events nameToId, checkS8 events nameToId]
  (rules.countP Ruling.passed, rules.length,
    (rules.filter fun r => !r.passed).map fun r => s!"  {r.rule}: FAIL — {r.detail}")

end Rules

/-! ### What the rules ask -/

section Meaning

variable {events : List SafetyEvent} {nameToId : List (String × Nat)}

/-- The events of a machine stand in the order of their times. -/
def InTimeOrder (machine : Nat) (events : List SafetyEvent) : Prop :=
  SortedByKey (fun e => e.time) (events.filter fun e => e.isOf machine)

/-- A mode transition of a machine is an event of the machine. -/
theorem SafetyEvent.isOf_of_isMode {e : SafetyEvent} {machine : Nat} {mode : String}
    (h : e.isMode machine mode = true) : e.isOf machine = true :=
  (Bool.and_eq_true_iff.mp (Bool.and_eq_true_iff.mp h).1).1

/-- No transition is found where all of them come before the time. -/
theorem findModeTransition_eq_none_iff {machine : Nat} {mode : String} {afterAt : Int} :
    findModeTransition events machine mode afterAt = none ↔
      ∀ e ∈ events, e.isMode machine mode = true → e.time < afterAt := by
  rw [findModeTransition, List.find?_eq_none]
  refine forall₂_congr fun e _ => ?_
  rw [Bool.and_eq_true, not_and, decide_eq_true_iff, not_le]

/-- The transition that is found is the earliest. -/
theorem findModeTransition_eq_some {machine : Nat} {mode : String} {afterAt : Int}
    (horder : InTimeOrder machine events) {found : SafetyEvent}
    (h : findModeTransition events machine mode afterAt = some found) :
    found ∈ events ∧ found.isMode machine mode = true ∧ afterAt ≤ found.time ∧
      ∀ e ∈ events, e.isMode machine mode = true → afterAt ≤ e.time → found.time ≤ e.time := by
  have hmem := List.mem_of_find?_eq_some h
  have htest := List.find?_some h
  rw [Bool.and_eq_true, decide_eq_true_iff] at htest
  refine ⟨hmem, htest.1, htest.2, fun e he hmode hle => ?_⟩
  have hfilter : (events.filter fun e => e.isOf machine).find?
      (fun e => e.isMode machine mode && afterAt ≤ e.time) = some found := by
    rw [List.find?_filter, ← h, findModeTransition]
    congr 1
    funext e
    by_cases hmode : e.isMode machine mode = true
    · simp [SafetyEvent.isOf_of_isMode hmode]
    · simp [hmode]
  exact horder.find?_le hfilter (List.mem_filter.mpr ⟨he, SafetyEvent.isOf_of_isMode hmode⟩)
    (Bool.and_eq_true_iff.mpr ⟨hmode, decide_eq_true hle⟩)

/-- The motor commands from a time on state torques of a kind. -/
def CommandsFrom (powertrain : Nat) (events : List SafetyEvent) (afterAt : Int)
    (ok : Int → Prop) : Prop :=
  ∀ cmd ∈ events, cmd.is powertrain "motor_command" = true → afterAt ≤ cmd.time → ok cmd.torque

/-- No command is refused where the test refuses none. -/
theorem refusedCommand_eq_none_iff {refuses : Int → Bool} {report : SafetyEvent → String}
    {commands : List SafetyEvent} :
    refusedCommand refuses report commands = none ↔
      ∀ cmd ∈ commands, refuses cmd.torque = false := by
  rw [refusedCommand, List.findSome?_eq_none_iff]
  refine forall₂_congr fun cmd _ => ?_
  cases refuses cmd.torque <;> simp

/-- The inner loop behind a time finds nothing. -/
theorem refusedCommand_after_iff {refuses : Int → Bool} {report : SafetyEvent → String}
    {powertrain : Nat} {afterAt : Int} :
    refusedCommand refuses report (findMotorCommandAfter events powertrain afterAt) = none ↔
      CommandsFrom powertrain events afterAt fun torque => refuses torque = false := by
  rw [refusedCommand_eq_none_iff, findMotorCommandAfter]
  constructor
  · intro h cmd hcmd hmotor hle
    exact h cmd (List.mem_filter.mpr ⟨hcmd, by simp [hmotor, hle]⟩)
  · intro h cmd hcmd
    obtain ⟨hmem, htest⟩ := List.mem_filter.mp hcmd
    rw [Bool.and_eq_true, decide_eq_true_iff] at htest
    exact h cmd hmem htest.1 htest.2

/-- The search for torque from a time on, in terms of all the commands. -/
theorem noTorque_after_iff {report : SafetyEvent → String} {powertrain : Nat} {afterAt : Int} :
    refusedCommand (fun torque => torque != 0) report
        (findMotorCommandAfter events powertrain afterAt) = none ↔
      CommandsFrom powertrain events afterAt (· = 0) := by
  rw [refusedCommand_after_iff]
  simp [CommandsFrom]

/-- What the rules ask of a trace. -/
structure Obeys (gateway powertrain bms : Nat) (events : List SafetyEvent) : Prop where
  /-- No torque from a change to FAULT or a gateway timeout on. -/
  stopped : ∀ e ∈ events,
    e.isMode gateway "FAULT" = true ∨ e.is powertrain "gateway_timeout" = true →
      CommandsFrom powertrain events e.time (· = 0)
  /-- At most 25 % from a change to LIMP on. -/
  limited : ∀ e ∈ events, e.isMode gateway "LIMP" = true →
    CommandsFrom powertrain events e.time (· ≤ 25)
  /-- Within 300 ms of the loss of the BMS the mode changes to FAULT. -/
  bmsLoss : ∀ lost ∈ events, lost.isLoss gateway "bms" = true →
    ∃ e ∈ events, e.isMode gateway "FAULT" = true ∧
      lost.time ≤ e.time ∧ e.time ≤ lost.time + heartbeatTimeoutUs
  /-- Within 300 ms of the loss of the dashboard alone it does not. -/
  dashboardLoss : ∀ lost ∈ events, lost.isLoss gateway "dashboard" = true →
    (∀ e ∈ events, e.isLoss gateway "bms" = true → lost.time + 10 < e.time) →
      ∀ e ∈ events, e.isMode gateway "FAULT" = true → lost.time ≤ e.time →
        lost.time + heartbeatTimeoutUs < e.time
  /-- A critical fault of the BMS brings FAULT. -/
  criticalFault : ∀ e ∈ events, e.isCriticalFault bms = true →
    ∃ mode ∈ events, mode.isMode gateway "FAULT" = true ∧ e.time ≤ mode.time

/-- A loop over the events of a kind that finds nothing. -/
theorem findSome?_filter_eq_none_iff {kind : SafetyEvent → Bool}
    {find : SafetyEvent → Option String} :
    (events.filter kind).findSome? find = none ↔
      ∀ e ∈ events, kind e = true → find e = none := by
  rw [List.findSome?_eq_none_iff]
  simp [List.mem_filter]

/-- S2: from every FAULT on, the powertrain commands no torque. -/
theorem checkS2_passed_iff : (checkS2 events nameToId).passed = true ↔
    ∀ e ∈ events, e.isMode (idOf nameToId "gateway" mcNodeGateway) "FAULT" = true →
      CommandsFrom (idOf nameToId "powertrain" mcNodePowertrain) events e.time (· = 0) := by
  rw [checkS2, passed_ruling_iff, findSome?_filter_eq_none_iff]
  exact forall₂_congr fun e _ => imp_congr_right fun _ => noTorque_after_iff

/-- The bound of the limp mode. -/
theorem not_above_iff {torque : Int} :
    decide ((torqueLimpMax : Int) < torque) = false ↔ torque ≤ 25 := by
  rw [decide_eq_false_iff_not, not_lt]
  exact Iff.rfl

/-- Up to the deadline and from it on together are from the change on. -/
theorem checkS3_passed_iff : (checkS3 events nameToId).passed = true ↔
    ∀ e ∈ events, e.isMode (idOf nameToId "gateway" mcNodeGateway) "LIMP" = true →
      CommandsFrom (idOf nameToId "powertrain" mcNodePowertrain) events e.time (· ≤ 25) := by
  rw [checkS3, passed_ruling_iff, findSome?_filter_eq_none_iff]
  refine forall₂_congr fun e _ => imp_congr_right fun _ => ?_
  dsimp only
  rw [Option.or_eq_none_iff, refusedCommand_after_iff, refusedCommand_eq_none_iff]
  constructor
  · rintro ⟨hbefore, hafter⟩ cmd hcmd hmotor hle
    by_cases hdeadline : cmd.time ≤ e.time + limpResponseUs
    · refine not_above_iff.mp (hbefore cmd (List.mem_filter.mpr ⟨hcmd, ?_⟩))
      simp [hmotor, hle, hdeadline]
    · exact not_above_iff.mp (hafter cmd hcmd hmotor (not_le.mp hdeadline).le)
  · intro h
    constructor
    · intro cmd hcmd
      obtain ⟨hmem, htest⟩ := List.mem_filter.mp hcmd
      simp only [Bool.and_eq_true, decide_eq_true_iff] at htest
      exact not_above_iff.mpr (h cmd hmem htest.1.1 htest.1.2)
    · intro cmd hcmd hmotor hle
      have hfrom : e.time ≤ cmd.time := by
        rw [limpResponseUs] at hle
        omega
      exact not_above_iff.mpr (h cmd hcmd hmotor hfrom)

/-- The rule of a loop that is not entered where nothing triggers it. -/
theorem passed_ite_iff {triggers : List SafetyEvent} {rule untested description : String}
    {find : SafetyEvent → Option String} :
    (if triggers.isEmpty then ruling rule untested none
      else ruling rule description (triggers.findSome? find)).passed = true ↔
      triggers.findSome? find = none := by
  cases triggers with
  | nil => exact ⟨fun _ => rfl, fun _ => rfl⟩
  | cons first rest => exact passed_ruling_iff

/-- S4: from every gateway timeout on, the powertrain commands no torque. -/
theorem checkS4_passed_iff : (checkS4 events nameToId).passed = true ↔
    ∀ e ∈ events, e.is (idOf nameToId "powertrain" mcNodePowertrain) "gateway_timeout" = true →
      CommandsFrom (idOf nameToId "powertrain" mcNodePowertrain) events e.time (· = 0) := by
  rw [checkS4, passed_ite_iff, findGatewayTimeout, findSome?_filter_eq_none_iff]
  exact forall₂_congr fun e _ => imp_congr_right fun _ => noTorque_after_iff

/-- S5: FAULT follows each loss of the BMS within the timeout. -/
theorem checkS5_passed_iff
    (horder : InTimeOrder (idOf nameToId "gateway" mcNodeGateway) events) :
    (checkS5 events nameToId).passed = true ↔
      ∀ lost ∈ events, lost.isLoss (idOf nameToId "gateway" mcNodeGateway) "bms" = true →
        ∃ e ∈ events, e.isMode (idOf nameToId "gateway" mcNodeGateway) "FAULT" = true ∧
          lost.time ≤ e.time ∧ e.time ≤ lost.time + heartbeatTimeoutUs := by
  rw [checkS5, passed_ite_iff, findNodeLost, findSome?_filter_eq_none_iff]
  refine forall₂_congr fun lost _ => imp_congr_right fun _ => ?_
  dsimp only
  cases hfind : findModeTransition events (idOf nameToId "gateway" mcNodeGateway) "FAULT"
    lost.time with
  | none =>
    rw [findModeTransition_eq_none_iff] at hfind
    simp only [reduceCtorEq, false_iff]
    rintro ⟨e, he, hmode, hle, -⟩
    exact absurd (hfind e he hmode) (not_lt.mpr hle)
  | some fault =>
    obtain ⟨hmem, hmode, hle, hleast⟩ := findModeTransition_eq_some horder hfind
    dsimp only
    constructor
    · intro h
      refine ⟨fault, hmem, hmode, hle, ?_⟩
      by_contra hlate
      rw [if_pos (not_le.mp hlate)] at h
      exact absurd h (by simp)
    · rintro ⟨e, he, hfault, hfrom, hdeadline⟩
      exact if_neg (not_lt.mpr ((hleast e he hfault hfrom).trans hdeadline))

/-- S7: no FAULT follows the loss of the dashboard within the timeout, unless the BMS was lost by
then as well. -/
theorem checkS7_passed_iff
    (horder : InTimeOrder (idOf nameToId "gateway" mcNodeGateway) events) :
    (checkS7 events nameToId).passed = true ↔
      ∀ lost ∈ events, lost.isLoss (idOf nameToId "gateway" mcNodeGateway) "dashboard" = true →
        (∀ e ∈ events, e.isLoss (idOf nameToId "gateway" mcNodeGateway) "bms" = true →
          lost.time + 10 < e.time) →
        ∀ e ∈ events, e.isMode (idOf nameToId "gateway" mcNodeGateway) "FAULT" = true →
          lost.time ≤ e.time → lost.time + heartbeatTimeoutUs < e.time := by
  have hlost : findNodeLost events (idOf nameToId "gateway" mcNodeGateway) "dashboard" =
      events.filter fun e => e.isLoss (idOf nameToId "gateway" mcNodeGateway) "dashboard" := rfl
  rw [checkS7, passed_ite_iff, hlost, findSome?_filter_eq_none_iff]
  refine forall₂_congr fun lost _ => imp_congr_right fun _ => ?_
  have hbefore : (!(findNodeLost events (idOf nameToId "gateway" mcNodeGateway) "bms").any
      fun bl => bl.time ≤ lost.time + 10) = true ↔
      ∀ e ∈ events, e.isLoss (idOf nameToId "gateway" mcNodeGateway) "bms" = true →
        lost.time + 10 < e.time := by
    simp [findNodeLost]
  dsimp only
  rw [← hbefore]
  cases hfind : findModeTransition events (idOf nameToId "gateway" mcNodeGateway) "FAULT"
    lost.time with
  | none =>
    rw [findModeTransition_eq_none_iff] at hfind
    simp only [true_iff]
    exact fun _ e he hmode hle => absurd (hfind e he hmode) (not_lt.mpr hle)
  | some fault =>
    obtain ⟨hmem, hmode, hle, hleast⟩ := findModeTransition_eq_some horder hfind
    dsimp only
    constructor
    · intro h halone e he hfault hfrom
      refine lt_of_lt_of_le ?_ (hleast e he hfault hfrom)
      by_contra hearly
      rw [if_pos (by simp [halone, not_lt.mp hearly])] at h
      exact absurd h (by simp)
    · intro h
      refine if_neg fun htest => ?_
      rw [Bool.and_eq_true, decide_eq_true_iff] at htest
      exact absurd (h htest.1 fault hmem hmode hle) (not_lt.mpr htest.2)

/-- S8: FAULT follows each critical fault, and no torque follows the first FAULT. -/
theorem checkS8_passed_iff
    (horder : InTimeOrder (idOf nameToId "gateway" mcNodeGateway) events) :
    (checkS8 events nameToId).passed = true ↔
      ∀ e ∈ events, e.isCriticalFault (idOf nameToId "bms" mcNodeBms) = true →
        ∃ mode ∈ events, mode.isMode (idOf nameToId "gateway" mcNodeGateway) "FAULT" = true ∧
          e.time ≤ mode.time ∧
          CommandsFrom (idOf nameToId "powertrain" mcNodePowertrain) events mode.time (· = 0) ∧
          ∀ other ∈ events,
            other.isMode (idOf nameToId "gateway" mcNodeGateway) "FAULT" = true →
            e.time ≤ other.time → mode.time ≤ other.time := by
  rw [checkS8, passed_ite_iff, findSome?_filter_eq_none_iff]
  refine forall₂_congr fun e _ => imp_congr_right fun _ => ?_
  cases hfind : findModeTransition events (idOf nameToId "gateway" mcNodeGateway) "FAULT"
    e.time with
  | none =>
    rw [findModeTransition_eq_none_iff] at hfind
    simp only [reduceCtorEq, false_iff]
    rintro ⟨mode, hmem, hmode, hle, -⟩
    exact absurd (hfind mode hmem hmode) (not_lt.mpr hle)
  | some fault =>
    obtain ⟨hmem, hmode, hle, hleast⟩ := findModeTransition_eq_some horder hfind
    dsimp only
    rw [noTorque_after_iff]
    constructor
    · exact fun h => ⟨fault, hmem, hmode, hle, h, hleast⟩
    · rintro ⟨mode, hmem', hmode', hle', h, hleast'⟩ cmd hcmd hmotor hfrom
      exact h cmd hcmd hmotor ((hleast' fault hmem hmode hle).trans hfrom)

/-- No rule fails exactly on the traces that obey them. -/
theorem checkSafetyRules_iff
    (horder : InTimeOrder (idOf nameToId "gateway" mcNodeGateway) events) :
    (checkSafetyRules events nameToId).2.2 = [] ↔
      Obeys (idOf nameToId "gateway" mcNodeGateway) (idOf nameToId "powertrain" mcNodePowertrain)
        (idOf nameToId "bms" mcNodeBms) events := by
  have hpassed : (checkSafetyRules events nameToId).2.2 = [] ↔
      ∀ r ∈ [checkS1, checkS2 events nameToId, checkS3 events nameToId, checkS4 events nameToId,
        checkS5 events nameToId, checkS6, checkS7 events nameToId, checkS8 events nameToId],
        Ruling.passed r = true := by
    rw [checkSafetyRules, List.map_eq_nil_iff, List.filter_eq_nil_iff]
    simp
  have htrivial : checkS1.passed = true ∧ checkS6.passed = true := ⟨rfl, rfl⟩
  rw [hpassed]
  simp only [List.forall_mem_cons, List.not_mem_nil, false_imp_iff, implies_true, and_true,
    htrivial, true_and, checkS2_passed_iff, checkS3_passed_iff, checkS4_passed_iff,
    checkS5_passed_iff horder, checkS7_passed_iff horder, checkS8_passed_iff horder]
  constructor
  · rintro ⟨h2, h3, h4, h5, h7, h8⟩
    refine ⟨?_, h3, h5, h7, ?_⟩
    · rintro e he (hmode | htimeout)
      · exact h2 e he hmode
      · exact h4 e he htimeout
    · intro e he hfault
      obtain ⟨mode, hmem, hmode, hle, -⟩ := h8 e he hfault
      exact ⟨mode, hmem, hmode, hle⟩
  · intro h
    refine ⟨fun e he hmode => h.stopped e he (.inl hmode), h.limited,
      fun e he htimeout => h.stopped e he (.inr htimeout), h.bmsLoss, h.dashboardLoss, ?_⟩
    intro e he hfault
    obtain ⟨mode, hmem, hmode, hle⟩ := h.criticalFault e he hfault
    cases hfind : findModeTransition events (idOf nameToId "gateway" mcNodeGateway) "FAULT"
      e.time with
    | none =>
      rw [findModeTransition_eq_none_iff] at hfind
      exact absurd (hfind mode hmem hmode) (not_lt.mpr hle)
    | some first =>
      obtain ⟨hmem', hmode', hle', hleast⟩ := findModeTransition_eq_some horder hfind
      exact ⟨first, hmem', hmode', hle', h.stopped first hmem' (.inl hmode'), hleast⟩

end Meaning

end Microcar.Checker
