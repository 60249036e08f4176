import Microcar.Dogfood.Diagnostics

/-!
# The charging lane

The lane of `charging.rs` reads whether the gateway entered CHARGING, whether it was there still
when its script tried to drive off, and what the powertrain commanded in CHARGING. Where the
charging script is the only one, the first is a matter of time alone, and the second one of the mode
that the gateway is in when the thirtieth period of its loop begins.
-/

namespace Microcar.Dogfood.Charging

open Microcar.Core Microcar.Gateway Microcar.Powertrain

/-! ### The lane -/

/-- The verdict on one expectation. -/
structure ChargingCheck where
  name : String
  passed : Bool
  detail : String

/-- The verdict on one scenario. -/
structure ChargingScenarioResult where
  name : String
  passed : Bool
  runError : Option String
  checks : List ChargingCheck

/-- A directive `charging-expect`. -/
inductive Expectation where
  | chargingMode
  | driveBlocked
  | motorTorque (max : Int8)
  deriving DecidableEq

/-- The mode CHARGING, `VEHICLE_CHARGING`. -/
def vehicleCharging : UInt32 := 5

/-- A motor command as the powertrain traces it. -/
structure MotorCommand where
  torque : Int8
  enable : UInt8
  deriving DecidableEq

/-- The motor commands of a trace. -/
def motorCommands (trace : List UserTrace) : List MotorCommand :=
  (trace.filter fun e => e.machine == nodePowertrain && e.label == "charging_motor_command").map
    fun e => ⟨(e.value >>> (8 : UInt32)).toUInt8.toInt8, (e.value &&& 0xff).toUInt8⟩

/-- The pairs of torque and enable as the format `?` writes them. -/
def debugCommands (commands : List MotorCommand) : String :=
  "[" ++ ", ".intercalate (commands.map fun c =>
    "(" ++ toString c.torque ++ ", " ++ toString c.enable ++ ")") ++ "]"

/-- The check of one expectation. -/
def evaluate (trace : List UserTrace) : Expectation → ChargingCheck
  | .chargingMode =>
    let passed := anyValue trace nodeGateway "gateway_charging_state" vehicleCharging
    { name := "charging-mode"
      passed := passed
      detail := if passed then "gateway entered CHARGING after plug-in"
        else "expected a gateway_charging_state == " ++ toString vehicleCharging ++
          "; last was " ++
            debugOption toString (lastValue trace nodeGateway "gateway_charging_state") }
  | .driveBlocked =>
    let blocked := lastValue trace nodeGateway "charging_drive_blocked"
    let stillCharging :=
      lastValue trace nodeGateway "gateway_charging_state" == some vehicleCharging
    let passed := blocked == some 1 && stillCharging
    { name := "drive-blocked"
      passed := passed
      detail := if passed then
          "drive request while plugged was refused; vehicle stayed in CHARGING"
        else "expected charging_drive_blocked=1 and mode still CHARGING; got blocked=" ++
          debugOption toString blocked ++ " still_charging=" ++ toString stillCharging }
  | .motorTorque max =>
    let cmds := motorCommands trace
    let passed := !cmds.isEmpty && cmds.all fun c => c.torque ≤ max && c.enable == 0
    { name := "motor-torque"
      passed := passed
      detail := if passed then "all " ++ toString cmds.length ++
          " CHARGING motor command(s) clamped torque <= " ++ toString max ++
            " with motor disabled"
        else if cmds.isEmpty then "expected charging_motor_command trace events; saw none"
        else "expected CHARGING torque <= " ++ toString max ++ " and motor disabled; saw " ++
          debugCommands cmds }

/-- A file without directives asks for CHARGING, as `parse_expectations` ends. -/
def orChargingMode (directives : List Expectation) : List Expectation :=
  if directives.isEmpty then [.chargingMode] else directives

/-- The end of `run_charging_scenario`, behind a run that passed and a file that was read. -/
def runChargingScenario (name : String) (directives : List Expectation)
    (trace : List UserTrace) : ChargingScenarioResult :=
  let checks := (orChargingMode directives).map (evaluate trace)
  { name := name
    passed := !checks.isEmpty && checks.all ChargingCheck.passed
    runError := none
    checks := checks }

/-! ### The words of the charging script -/

/-- The charging script is enabled, and no other. -/
structure ChargesAlone (cfg : GatewayConfig) : Prop where
  script : cfg.chargingDogfoodScript = true
  diag : cfg.diagDogfoodScript = false
  startdrive : cfg.diagStartdriveScript = false
  ota : cfg.otaDogfoodScript = false

/-- What a period of the charging script emits, behind `n` others. -/
def periodEmissions (n : Nat) (ctx : GatewayCtx) : List Emission :=
  if n = 9 then
    [.trace "charging_plug" 1, .trace "gateway_charging_state" vehicleCharging,
      .trace "vehicle_mode" vehicleCharging]
  else if n = 29 then
    [.trace "charging_drive_blocked" (if ctx.gs.mode = .charging then 1 else 0),
      .trace "gateway_charging_state" (gatewayStateEnterDrive ctx.gs).mode.toByte.toUInt32]
  else []

/-- The drive request neither starts nor ends charging. -/
theorem enterDrive_charging_iff (gs : GatewayState) :
    (gatewayStateEnterDrive gs).mode = .charging ↔ gs.mode = .charging := by
  unfold gatewayStateEnterDrive
  split
  next hready => simp [hready]
  next => rfl

/-- What plugging in traces. -/
theorem out_plugCharger (ctx : GatewayCtx) :
    (plugCharger ctx).out = ctx.out ++ [.trace "charging_plug" 1,
      .trace "gateway_charging_state" vehicleCharging, .trace "vehicle_mode" vehicleCharging] := by
  have hout : (plugCharger ctx).out = ctx.out ++ [.trace "charging_plug" 1] ++
      [.trace "gateway_charging_state" vehicleCharging] ++
        [.trace "vehicle_mode" vehicleCharging] := rfl
  rw [hout, List.append_assoc, List.append_assoc]
  rfl

/-- What the attempt to drive off traces. -/
theorem out_tryDriveOff (ctx : GatewayCtx) :
    (tryDriveOff ctx).out = ctx.out ++
      [.trace "charging_drive_blocked" (if ctx.gs.mode = .charging then 1 else 0),
        .trace "gateway_charging_state"
          (gatewayStateEnterDrive ctx.gs).mode.toByte.toUInt32] := by
  have hout : (tryDriveOff ctx).out = ctx.out ++ [.trace "charging_drive_blocked"
      (if (gatewayStateEnterDrive ctx.gs).mode = .charging then 1 else 0)] ++
        [.trace "gateway_charging_state"
          (gatewayStateEnterDrive ctx.gs).mode.toByte.toUInt32] := rfl
  rw [hout, List.append_assoc]
  simp only [enterDrive_charging_iff, List.cons_append, List.nil_append]

/-- The tenth period plugs the charger in, and the thirtieth tries to drive off. -/
theorem fallingDue_charging {cfg : GatewayConfig} (hcfg : ChargesAlone cfg) (n : Nat)
    (take : Bool) : fallingDue n (enabledActions cfg take) =
      if n = 9 then [⟨100, 0x01, plugCharger⟩]
      else if n = 29 then [⟨300, 0x02, tryDriveOff⟩] else [] := by
  have hactions : enabledActions cfg take = chargingScriptActions := by
    simp [enabledActions, aloofActions, hcfg.script, hcfg.diag, hcfg.startdrive, hcfg.ota]
  have hplug : (periodMs * n < (100 : UInt32).toNat ∧
      (100 : UInt32).toNat ≤ periodMs * (n + 1)) ↔ n = 9 := by
    have htime : (100 : UInt32).toNat = 100 := rfl
    unfold periodMs
    omega
  have hdrive : (periodMs * n < (300 : UInt32).toNat ∧
      (300 : UInt32).toNat ≤ periodMs * (n + 1)) ↔ n = 29 := by
    have htime : (300 : UInt32).toNat = 300 := rfl
    unfold periodMs
    omega
  rw [hactions, fallingDue, falling, chargingScriptActions]
  simp only [List.filter_cons, List.filter_nil, hplug, hdrive, decide_eq_true_iff]
  split_ifs with hnine hlate
  · omega
  · rfl
  · rfl
  · rfl

/-- What a period traces where charging is the only script. -/
theorem out_chargingPeriod {cfg : GatewayConfig} (hcfg : ChargesAlone cfg) (n : Nat) (take : Bool)
    (ctx : GatewayCtx) :
    (actAll ScriptAction.act (fallingDue n (enabledActions cfg take)) ctx).out =
      ctx.out ++ periodEmissions n ctx := by
  rw [fallingDue_charging hcfg, periodEmissions]
  by_cases hnine : n = 9
  · rw [if_pos hnine, if_pos hnine]
    exact out_plugCharger ctx
  · rw [if_neg hnine, if_neg hnine]
    by_cases hlate : n = 29
    · rw [if_pos hlate, if_pos hlate]
      exact out_tryDriveOff ctx
    · rw [if_neg hlate, if_neg hlate]
      exact (List.append_nil _).symm

/-- Where nothing comes between its periods, the gateway stays in CHARGING from the tenth on. -/
theorem mode_chargingPeriods {cfg : GatewayConfig} (hcfg : ChargesAlone cfg) (take : Bool) {n : Nat}
    (hn : 9 < n) :
    (run gatewayStep (gatewayBoot cfg) (List.replicate n (.scripts take))).gs.mode =
      .charging := by
  have hplanned : (run plannedStep (plannedBoot cfg)
      (List.replicate n (.scripts take))).ctx.gs.mode = .charging := by
    induction n with
    | zero => exact absurd hn (by decide)
    | succ n ih =>
      have hflags : ChargesAlone (run plannedStep (plannedBoot cfg)
          (List.replicate n (.scripts take))).ctx.cfg := by
        rwa [cfg_plannedRun]
      rw [List.replicate_succ', run_snoc, plannedStep, fallingDue_charging hflags, period_run,
        periods_replicate]
      by_cases hnine : n = 9
      · rw [if_pos hnine]
        rfl
      · have hcharging := ih (by omega)
        rw [if_neg hnine]
        split
        · exact (enterDrive_charging_iff _).mpr hcharging
        · exact hcharging
  rw [← hplanned, ← (followsPlan_run cfg (List.replicate n (.scripts take))).same]
  rfl

/-- The labels that the lane reads of the gateway. -/
def chargingWords : List String := ["gateway_charging_state", "charging_drive_blocked"]

/-- What is stated under labels of another vocabulary does not change. -/
theorem wordsUnder_of_speaks {labels : List String} {ctx ctx' : GatewayCtx}
    (h : Speaks labels ctx ctx') {label : String} (hlabel : label ∉ labels) :
    wordsUnder label ctx'.out = wordsUnder label ctx.out := by
  obtain ⟨new, hout, hnew⟩ := h
  have hsilent : wordsUnder label new = [] := by
    rw [wordsUnder, List.filterMap_eq_nil_iff]
    intro emission hmem
    cases emission with
    | can f => rfl
    | trace other value =>
      refine if_neg fun heq => hlabel ?_
      rw [← heq]
      exact hnew other value hmem
  rw [hout, wordsUnder_append, hsilent, List.append_nil]

/-- No other step of the gateway states anything under these labels. -/
theorem wordsUnder_plannedStep {s : PlannedGateway} (hcfg : ChargesAlone s.ctx.cfg)
    (op : GatewayOp) {label : String} (hlabel : label ∈ chargingWords) :
    wordsUnder label (plannedStep s op).ctx.out = wordsUnder label s.ctx.out ++
      if op.isPeriod then wordsUnder label (periodEmissions s.period s.ctx) else [] := by
  by_cases hscripts : ∃ take, op = .scripts take
  · obtain ⟨take, rfl⟩ := hscripts
    rw [plannedStep, out_chargingPeriod hcfg, wordsUnder_append]
    rfl
  · have hother : ∀ take, op ≠ .scripts take := fun take heq => hscripts ⟨take, heq⟩
    have hperiod : op.isPeriod = false := by
      cases op with
      | scripts take => exact absurd rfl (hother take)
      | _ => rfl
    have hsilent : label ∉ diagLabels ++ loopLabels := by
      simp only [chargingWords, List.mem_cons, List.not_mem_nil, or_false] at hlabel
      rcases hlabel with rfl | rfl
      · simp [diagLabels, loopLabels]
      · simp [diagLabels, loopLabels]
    rw [plannedStep_of_ne hother, hperiod]
    dsimp only
    rw [wordsUnder_of_speaks (speaks_gatewayStep hother s.ctx) hsilent]
    exact (List.append_nil _).symm

/-- A cut of a history with one more step is at that step or one of the history. -/
theorem cut_snoc {ops before after : List GatewayOp} {op : GatewayOp} {take : Bool}
    (h : ops ++ [op] = before ++ .scripts take :: after) :
    (ops = before ∧ op = .scripts take) ∨ ∃ after', ops = before ++ .scripts take :: after' := by
  rcases List.eq_nil_or_concat after with rfl | ⟨after', last, rfl⟩
  · obtain ⟨hops, hop⟩ := List.append_inj' h rfl
    exact .inl ⟨hops, (List.cons.inj hop).1⟩
  · have hsplit : ops ++ [op] = (before ++ .scripts take :: after') ++ [last] := by
      rw [h, List.concat_eq_append, List.append_assoc, List.cons_append]
    exact .inr ⟨after', (List.append_inj' hsplit rfl).1⟩

/-- What the gateway has stated of charging, if it was in the mode when its thirtieth period
began. -/
structure States (n : Nat) (mode : McVehicleMode) (out : List Emission) : Prop where
  states : wordsUnder "gateway_charging_state" out =
    (if 9 < n then [vehicleCharging] else []) ++
      if 29 < n then [(if mode = .ready then .drive else mode).toByte.toUInt32] else []
  blocked : wordsUnder "charging_drive_blocked" out =
    if 29 < n then [if mode = .charging then 1 else 0] else []

/-- The charging states that a period traces. -/
theorem wordsUnder_states (n : Nat) (ctx : GatewayCtx) :
    wordsUnder "gateway_charging_state" (periodEmissions n ctx) =
      if n = 9 then [vehicleCharging] else if n = 29 then
        [(if ctx.gs.mode = .ready then .drive else ctx.gs.mode).toByte.toUInt32] else [] := by
  have hmode : (gatewayStateEnterDrive ctx.gs).mode =
      if ctx.gs.mode = .ready then .drive else ctx.gs.mode := by
    unfold gatewayStateEnterDrive
    split <;> rfl
  rw [periodEmissions, hmode]
  split_ifs <;> rfl

/-- The blocked drives that a period traces. -/
theorem wordsUnder_blocked (n : Nat) (ctx : GatewayCtx) :
    wordsUnder "charging_drive_blocked" (periodEmissions n ctx) =
      if n = 29 then [if ctx.gs.mode = .charging then 1 else 0] else [] := by
  rw [periodEmissions]
  by_cases hnine : n = 9
  · have hearly : n ≠ 29 := by omega
    rw [if_pos hnine, if_neg hearly]
    rfl
  · rw [if_neg hnine]
    split_ifs <;> rfl

/-- A step keeps this, with the mode that it finds where it begins the thirtieth period. -/
theorem States.step {s : PlannedGateway} {mode : McVehicleMode}
    (h : States s.period mode s.ctx.out) (hcfg : ChargesAlone s.ctx.cfg) (op : GatewayOp) :
    States (plannedStep s op).period
      (if op.isPeriod ∧ s.period = 29 then s.ctx.gs.mode else mode) (plannedStep s op).ctx.out := by
  have hperiod : (plannedStep s op).period = s.period + if op.isPeriod then 1 else 0 := by
    cases op <;> rfl
  have hadded := @wordsUnder_plannedStep _ hcfg op "gateway_charging_state"
    (by simp [chargingWords])
  have hadded' := @wordsUnder_plannedStep _ hcfg op "charging_drive_blocked"
    (by simp [chargingWords])
  rw [h.states, wordsUnder_states] at hadded
  rw [h.blocked, wordsUnder_blocked] at hadded'
  rw [hperiod]
  cases hop : op.isPeriod with
  | false =>
    rw [hop] at hadded hadded'
    exact ⟨by simpa using hadded, by simpa using hadded'⟩
  | true =>
    rw [hop] at hadded hadded'
    by_cases hnine : s.period = 9
    · exact ⟨by simpa [hnine] using hadded, by simpa [hnine] using hadded'⟩
    · have hplugged : 9 < s.period + 1 ↔ 9 < s.period := by omega
      by_cases hlate : s.period = 29
      · exact ⟨by simpa [hlate] using hadded, by simpa [hlate] using hadded'⟩
      · have hdriven : 29 < s.period + 1 ↔ 29 < s.period := by omega
        exact ⟨by simpa [hnine, hlate, hplugged, hdriven] using hadded,
          by simpa [hlate, hdriven] using hadded'⟩

/-- Behind every history the gateway has stated so, for the mode behind the history's part before
its thirtieth period. -/
theorem states_run {cfg : GatewayConfig} (hcfg : ChargesAlone cfg) (ops : List GatewayOp) :
    ∃ mode, States (periods ops) mode (run gatewayStep (gatewayBoot cfg) ops).out ∧
      ∀ before take after, ops = before ++ .scripts take :: after → periods before = 29 →
        (run gatewayStep (gatewayBoot cfg) before).gs.mode = mode := by
  induction ops using List.reverseRecOn with
  | nil =>
    refine ⟨.off, ⟨rfl, rfl⟩, fun before take after hcut _ => ?_⟩
    exact absurd hcut.symm (by simp)
  | append_singleton ops op ih =>
    obtain ⟨mode, hstates, hmode⟩ := ih
    have hflags : ChargesAlone (run plannedStep (plannedBoot cfg) ops).ctx.cfg := by
      rwa [cfg_plannedRun]
    rw [← out_plannedRun, ← period_run] at hstates
    have hstep := hstates.step hflags op
    have hrun : plannedStep (run plannedStep (plannedBoot cfg) ops) op =
        run plannedStep (plannedBoot cfg) (ops ++ [op]) := (run_snoc ..).symm
    rw [hrun, period_run, out_plannedRun, period_run] at hstep
    refine ⟨_, hstep, fun before take after hcut hperiods => ?_⟩
    rcases cut_snoc hcut with ⟨rfl, rfl⟩ | ⟨after', rfl⟩
    · rw [if_pos ⟨rfl, hperiods⟩, ← (followsPlan_run cfg ops).same]
      rfl
    · have hpast : periods (before ++ .scripts take :: after') ≠ 29 := by
        rw [periods, List.countP_append, ← periods, hperiods]
        simp [GatewayOp.isPeriod]
      rw [if_neg fun h => hpast h.2]
      exact hmode before take after' rfl hperiods

/-! ### The verdict -/

/-- A directive, read from the gateway's history and the number of the motor commands that the
powertrain stated in CHARGING. -/
def Expectation.MetBy (cfg : GatewayConfig) (ops : List GatewayOp) (commands : Nat) :
    Expectation → Prop
  | chargingMode => 9 < periods ops
  | driveBlocked => ∃ before take after, ops = before ++ .scripts take :: after ∧
      periods before = 29 ∧ (run gatewayStep (gatewayBoot cfg) before).gs.mode = .charging
  | motorTorque max => 0 < commands ∧ 0 ≤ max

/-- What the lane reads of the powertrain. -/
theorem motorCommands_eq {out : List Emission} {trace : List UserTrace}
    (htrace : Records ["charging_motor_command"] nodePowertrain out trace) :
    motorCommands trace = (wordsUnder "charging_motor_command" out).map
      fun word => ⟨(word >>> (8 : UInt32)).toUInt8.toInt8, (word &&& 0xff).toUInt8⟩ := by
  rw [← htrace.values List.mem_cons_self, List.map_map]
  rfl

/-- The last value in the trace is the last word in the log. -/
theorem lastValue_eq {out : List Emission} {trace : List UserTrace}
    (htrace : Records chargingWords nodeGateway out trace) {label : String}
    (hlabel : label ∈ chargingWords) :
    lastValue trace nodeGateway label = (wordsUnder label out).getLast? := by
  rw [← htrace.values hlabel]
  rfl

/-- A check passes when its directive is met. -/
theorem evaluate_passed_iff {cfg : GatewayConfig} (hcfg : ChargesAlone cfg)
    (ops : List GatewayOp) {trace : List UserTrace}
    (hgateway : Records chargingWords nodeGateway (run gatewayStep (gatewayBoot cfg) ops).out trace)
    {commands : Nat} (hcommands : motorCommands trace = List.replicate commands ⟨0, 0⟩)
    (exp : Expectation) :
    (evaluate trace exp).passed = true ↔ exp.MetBy cfg ops commands := by
  obtain ⟨mode, hstates, hmode⟩ := states_run hcfg ops
  have hlast := lastValue_eq hgateway List.mem_cons_self
  have hblocked := lastValue_eq hgateway (List.mem_cons_of_mem _ List.mem_cons_self)
  rw [hstates.states] at hlast
  rw [hstates.blocked] at hblocked
  cases exp with
  | chargingMode =>
    have hany := hgateway.any List.mem_cons_self vehicleCharging
    rw [hstates.states] at hany
    rw [Expectation.MetBy, evaluate, anyValue]
    dsimp only
    rw [hany]
    by_cases hplugged : 9 < periods ops
    · simp [hplugged]
    · have hearly : ¬ 29 < periods ops := by omega
      simp [hplugged, hearly]
  | driveBlocked =>
    have hverdict : (evaluate trace .driveBlocked).passed = true ↔
        29 < periods ops ∧ mode = .charging := by
      rw [evaluate]
      dsimp only
      rw [hlast, hblocked]
      by_cases hdriven : 29 < periods ops
      · by_cases hcharging : mode = .charging
        · simp [hdriven, hcharging, McVehicleMode.toByte, vehicleCharging]
        · simp [hdriven, hcharging]
      · simp [hdriven]
    rw [hverdict, Expectation.MetBy]
    constructor
    · rintro ⟨hdriven, rfl⟩
      obtain ⟨before, take, after, hcut, hperiods⟩ := exists_period_cut hdriven
      exact ⟨before, take, after, hcut, hperiods, hmode before take after hcut hperiods⟩
    · rintro ⟨before, take, after, hcut, hperiods, hcharging⟩
      refine ⟨?_, (hmode before take after hcut hperiods).symm.trans hcharging⟩
      rw [hcut, periods, List.countP_append, ← periods, hperiods]
      simp [GatewayOp.isPeriod]
  | motorTorque max =>
    simp only [evaluate, hcommands, Expectation.MetBy]
    cases commands <;> simp

/-- Events of another machine are not read. -/
theorem filter_tracedBy_other {labels : List String} {machine other : Nat} (h : other ≠ machine)
    (out : List Emission) :
    (tracedBy other out).filter (fun e => e.machine == machine && labels.contains e.label) =
      [] := by
  rw [List.filter_eq_nil_iff]
  intro e hmem
  obtain ⟨emission, -, hevent⟩ := List.mem_filterMap.mp hmem
  cases emission with
  | trace label value =>
    obtain rfl := Option.some.inj hevent
    simp [h]
  | can frame => exact absurd hevent (by simp)

/-- Where the charging script is the only one, the lane passes a scenario exactly if the loop has
come far enough for what the scenario's file asks for, the thirtieth period found the gateway in
CHARGING, and the powertrain stated commands in CHARGING, none of which states torque. -/
theorem chargingLane_passes_iff {cfg : GatewayConfig} (hcfg : ChargesAlone cfg)
    (ops : List GatewayOp) (forceService forceCharging : Bool) (commands : List PowertrainOp)
    {trace : List UserTrace}
    (hgateway : Records chargingWords nodeGateway (run gatewayStep (gatewayBoot cfg) ops).out trace)
    (hpowertrain : Records ["charging_motor_command"] nodePowertrain
      (run powertrainStep (powertrainBoot forceService forceCharging false) commands).out trace)
    (name : String) (directives : List Expectation) :
    (runChargingScenario name directives trace).passed = true ↔
      ∀ exp ∈ orChargingMode directives, exp.MetBy cfg ops
        (wordsUnder "charging_motor_command" (run powertrainStep
          (powertrainBoot forceService forceCharging false) commands).out).length := by
  have hclamped : motorCommands trace = List.replicate
      (wordsUnder "charging_motor_command" (run powertrainStep
        (powertrainBoot forceService forceCharging false) commands).out).length ⟨0, 0⟩ := by
    rw [motorCommands_eq hpowertrain, List.eq_replicate_iff]
    refine ⟨List.length_map _, fun command hcommand => ?_⟩
    obtain ⟨word, hword, rfl⟩ := List.mem_map.mp hcommand
    rw [wordsUnder_clampedRun ⟨.charging, rfl⟩ commands word hword]
    rfl
  have hsome : (orChargingMode directives).isEmpty = false := by
    cases directives <;> rfl
  rw [runChargingScenario]
  simp only [List.isEmpty_map, hsome, Bool.not_false, Bool.true_and, List.all_eq_true,
    List.forall_mem_map, evaluate_passed_iff hcfg ops hgateway hclamped]

/-- The directives of `plug_blocks_drive.toml`. -/
def plugBlocksDrive : List Expectation := [.chargingMode, .driveBlocked, .motorTorque 0]

/-- On the variants of the scenario thirty periods and one command iteration are enough. -/
theorem chargingLane_passes_plugBlocksDrive :
    ∃ cfg, bootedConfig "gateway" "firmware/gateway_charging_ecu" = some cfg ∧
      (runChargingScenario "plug_blocks_drive" plugBlocksDrive
        (tracedBy nodeGateway
            (run gatewayStep (gatewayBoot cfg) (List.replicate 30 (.scripts true))).out ++
          tracedBy nodePowertrain
            (run powertrainStep (powertrainBoot false true false) [.command 10 {}]).out)).passed =
        true := by
  have hcfg : ChargesAlone { GatewayConfig.off with chargingDogfoodScript := true } :=
    ⟨rfl, rfl, rfl, rfl⟩
  refine ⟨_, rfl, (chargingLane_passes_iff hcfg (List.replicate 30 (.scripts true)) false true
    [.command 10 {}] ?_ ?_ _ _).mpr ?_⟩
  · have hother : nodePowertrain ≠ nodeGateway := by decide
    rw [Records, List.filter_append, filter_tracedBy_other hother, List.append_nil]
    exact records_tracedBy _ _ _
  · have hother : nodeGateway ≠ nodePowertrain := by decide
    rw [Records, List.filter_append, filter_tracedBy_other hother, List.nil_append]
    exact records_tracedBy _ _ _
  · intro exp hexp
    rw [orChargingMode, plugBlocksDrive] at hexp
    simp only [List.isEmpty_cons, Bool.false_eq_true, if_false, List.mem_cons, List.not_mem_nil,
      or_false] at hexp
    rcases hexp with rfl | rfl | rfl
    · rw [Expectation.MetBy, periods_replicate]
      decide
    · exact ⟨List.replicate 29 (.scripts true), true, [], rfl, periods_replicate 29 true,
        mode_chargingPeriods hcfg true (by decide)⟩
    · exact ⟨by decide, by decide⟩

end Microcar.Dogfood.Charging
