import Microcar.Bms.Firmware
import Microcar.Core.Binary64
import Microcar.Core.Run

/-!
# Three classifications of the pack temperature

The firmware classifies a temperature in tenths of a degree, the state tests in whole degrees
after a truncating division, and the trace checker in floating-point degrees decoded from the
frame without a sign. The firmware's thresholds are inclusive, the other two exclusive. The
three go through the same states exactly on the readings that are neither negative nor in the
first degree above a threshold.
-/

namespace Microcar.Bms

namespace Mirror

/-- Classification of a temperature in whole degrees, `bms_determine_state`; the division
truncates. -/
def bmsDetermineState (tempCX10 : Int16) : McBmsState :=
  let tempC := tempCX10 / 10
  if mcBmsTempCritical < tempC then .criticalFault
  else if mcBmsTempLimp < tempC then .limpRequest
  else if mcBmsTempWarn < tempC then .warnHot
  else .ok

/-- The mirrored pack state, `BmsStateMachine`; a fault code is its discriminant. -/
structure BmsStateMachine where
  /-- Current BMS state. -/
  state : McBmsState
  /-- Last temperature in tenths of a degree. -/
  tempCX10 : Int16
  /-- Last pack voltage in millivolts. -/
  voltageMv : UInt16
  /-- Last pack current in milliamperes. -/
  currentMa : Int16
  /-- State of charge in percent. -/
  socPercent : UInt8
  /-- Most recent fault code. -/
  faultCode : UInt8
  deriving DecidableEq

/-- The pack state by default, `BmsStateMachine::default`. -/
def BmsStateMachine.default : BmsStateMachine := ⟨.ok, 250, 48000, 0, 80, mcBmsFaultNone⟩

/-- The fault code of a state, `determine_fault_code`. -/
def determineFaultCode : McBmsState → UInt8
  | .criticalFault => mcBmsFaultOvertemp
  | _ => mcBmsFaultNone

/-- Store a measurement, `BmsStateMachine::update`. -/
def BmsStateMachine.update (_ : BmsStateMachine) (tempCX10 : Int16) (voltageMv : UInt16)
    (currentMa : Int16) (socPercent : UInt8) : BmsStateMachine where
  state := bmsDetermineState tempCX10
  tempCX10 := tempCX10
  voltageMv := voltageMv
  currentMa := currentMa
  socPercent := socPercent
  faultCode := determineFaultCode (bmsDetermineState tempCX10)

/-- The mirrored limits, `BmsLimits`. -/
structure BmsLimits where
  /-- Maximum torque percent, 255 for unlimited. -/
  maxTorquePercent : UInt8
  /-- Reason code. -/
  reason : UInt8
  deriving DecidableEq

/-- The limits by default, `BmsLimits::default`. -/
def BmsLimits.default : BmsLimits := ⟨255, 0⟩

/-- The limit of a state, `BmsLimits::compute`. -/
def BmsLimits.compute (_ : BmsLimits) : McBmsState → BmsLimits
  | .ok => ⟨255, 0⟩
  | .warnHot => ⟨255, 1⟩
  | .limpRequest => ⟨mcTorqueLimpMaxPercent, 2⟩
  | .criticalFault => ⟨mcTorqueFaultMaxPercent, 3⟩

end Mirror

namespace Checker

/-- Constants of the trace checker; its status identifier is the bus' limits identifier. -/
def mcMsgWheelSpeed : UInt32 := 0x200
/-- Identifier of the status frame in `check_trace.py`. -/
def mcMsgBmsStatus : UInt32 := 0x201
/-- Above this temperature the Python BMS is hot. -/
def bmsTempOk : Nat := 60
/-- Above this temperature it asks for limp mode. -/
def bmsTempLimp : Nat := 75
/-- Above this temperature it has a critical fault. -/
def bmsTempCritical : Nat := 90

/-- A line of the generated trace. -/
inductive TraceLine where
  /-- The state changed, `battery_temp`. -/
  | batteryTemp (nowUs : Nat) (state : McBmsState)
  /-- A critical fault is published, `fault`. -/
  | criticalBmsFault (nowUs : Nat)
  deriving DecidableEq

/-- The BMS of the trace checker, `BmsState`. -/
structure BmsState where
  /-- Current BMS state. -/
  state : McBmsState
  /-- Last temperature in tenths of a degree. -/
  tempCX10 : Nat
  /-- Fault code of the last published fault. -/
  lastFaultPublished : Nat
  /-- The trace so far. -/
  trace : List TraceLine
  deriving DecidableEq

/-- The BMS at the start of a simulation, `BmsState.__init__`. -/
def BmsState.init : BmsState := ⟨.ok, 250, 0, []⟩

/-- The threshold comparisons of `process_frame`, on a temperature in tenths of a degree that
is divided as a floating-point number. -/
def classify (tempCX10 : Nat) : McBmsState :=
  let tempC := Core.round64 ((tempCX10 : ℚ) / 10)
  if (bmsTempCritical : ℚ) < tempC then .criticalFault
  else if (bmsTempLimp : ℚ) < tempC then .limpRequest
  else if (bmsTempOk : ℚ) < tempC then .warnHot
  else .ok

/-- Process a frame, `BmsState.process_frame`; the two temperature bytes are composed without a
sign. -/
def BmsState.processFrame (s : BmsState) (frameId : UInt32) (data : List UInt8) (nowUs : Nat) :
    BmsState :=
  if frameId = mcMsgWheelSpeed then s
  else if frameId = mcMsgBmsStatus ∧ 7 ≤ data.length then
    let tempHi := (data.getD 3 0).toNat
    let tempLo := (data.getD 4 0).toNat
    let tempCX10 := tempHi <<< 8 ||| tempLo
    let state := classify tempCX10
    let changed := if state ≠ s.state then [TraceLine.batteryTemp nowUs state] else []
    let raised := state ≠ s.state ∧ state = .criticalFault ∧ s.lastFaultPublished ≠ 1
    { state := state
      tempCX10 := tempCX10
      lastFaultPublished := if raised then 1 else s.lastFaultPublished
      trace := s.trace ++ changed ++ if raised then [.criticalBmsFault nowUs] else [] }
  else s

end Checker

/-- The state of a temperature between three inclusive thresholds. -/
def stateBetween (critical limp warn temp : Int) : McBmsState :=
  if critical ≤ temp then .criticalFault
  else if limp ≤ temp then .limpRequest
  else if warn ≤ temp then .warnHot
  else .ok

/-- Two temperatures are in the same state of their scales exactly when they stand on the same
side of every threshold. -/
theorem stateBetween_eq_iff {critical limp warn temp critical' limp' warn' temp' : Int}
    (hsorted : warn ≤ limp ∧ limp ≤ critical) (hsorted' : warn' ≤ limp' ∧ limp' ≤ critical') :
    stateBetween critical limp warn temp = stateBetween critical' limp' warn' temp' ↔
      (critical ≤ temp ↔ critical' ≤ temp') ∧ (limp ≤ temp ↔ limp' ≤ temp') ∧
        (warn ≤ temp ↔ warn' ≤ temp') := by
  unfold stateBetween
  split_ifs <;> simp only [true_iff, false_iff] <;> omega

/-- The firmware's thresholds in tenths of a degree. -/
theorem mcBmsDetermineState_eq (t : Int16) :
    mcBmsDetermineState t = stateBetween 900 750 600 t.toInt := by
  have hcritical : mcBmsTempCritical * 10 ≤ t ↔ 900 ≤ t.toInt := Int16.le_iff_toInt_le
  have hlimp : mcBmsTempLimp * 10 ≤ t ↔ 750 ≤ t.toInt := Int16.le_iff_toInt_le
  have hwarn : mcBmsTempWarn * 10 ≤ t ↔ 600 ≤ t.toInt := Int16.le_iff_toInt_le
  unfold mcBmsDetermineState stateBetween
  simp only [hcritical, hlimp, hwarn]

/-- A truncated quotient exceeds a whole number of degrees one degree later. -/
theorem lt_tdiv_ten_iff {k : Int} (hk : 0 ≤ k) (t : Int) : k < t.tdiv 10 ↔ 10 * k + 10 ≤ t := by
  by_cases ht : 0 ≤ t
  · rw [Int.tdiv_eq_ediv_of_nonneg ht]
    omega
  · have hneg : t.tdiv 10 = -((-t).tdiv 10) := by rw [Int.neg_tdiv, Int.neg_neg]
    rw [hneg, Int.tdiv_eq_ediv_of_nonneg (by omega)]
    omega

/-- The mirror's thresholds in tenths of a degree. -/
theorem Mirror.bmsDetermineState_eq (t : Int16) :
    Mirror.bmsDetermineState t = stateBetween 910 760 610 t.toInt := by
  have hdiv : (t / 10).toInt = t.toInt.tdiv 10 := Int16.toInt_div_of_ne_right t 10 (by decide)
  have hcritical : mcBmsTempCritical < t / 10 ↔ 910 ≤ t.toInt := by
    rw [Int16.lt_iff_toInt_lt, hdiv]
    exact lt_tdiv_ten_iff (by decide) t.toInt
  have hlimp : mcBmsTempLimp < t / 10 ↔ 760 ≤ t.toInt := by
    rw [Int16.lt_iff_toInt_lt, hdiv]
    exact lt_tdiv_ten_iff (by decide) t.toInt
  have hwarn : mcBmsTempWarn < t / 10 ↔ 610 ≤ t.toInt := by
    rw [Int16.lt_iff_toInt_lt, hdiv]
    exact lt_tdiv_ten_iff (by decide) t.toInt
  unfold Mirror.bmsDetermineState stateBetween
  simp only [hcritical, hlimp, hwarn]

/-- The checker's thresholds in tenths of a degree. -/
theorem Checker.classify_eq {n : Nat} (hn : n < 2 ^ 16) :
    Checker.classify n = stateBetween 901 751 601 n := by
  have hthreshold (k : Nat) (m : Int) (hm : m = 10 * k + 1) :
      (k : ℚ) < Core.round64 ((n : ℚ) / 10) ↔ m ≤ n := by
    rw [Core.lt_round64_div_ten_iff hn]
    omega
  have hcritical := hthreshold Checker.bmsTempCritical 901 rfl
  have hlimp := hthreshold Checker.bmsTempLimp 751 rfl
  have hwarn := hthreshold Checker.bmsTempOk 601 rfl
  unfold Checker.classify stateBetween
  simp only [hcritical, hlimp, hwarn]

/-- The reading is neither negative nor in the first degree above a threshold. -/
def TempCovered (t : Int16) : Prop :=
  0 ≤ t.toInt ∧ ¬ (600 ≤ t.toInt ∧ t.toInt ≤ 609) ∧ ¬ (750 ≤ t.toInt ∧ t.toInt ≤ 759) ∧
    ¬ (900 ≤ t.toInt ∧ t.toInt ≤ 909)

/-- All three classifications agree exactly on the covered readings. -/
theorem classifications_agree_iff (t : Int16) :
    (Mirror.bmsDetermineState t = mcBmsDetermineState t ∧
        Checker.classify t.toUInt16.toNat = mcBmsDetermineState t) ↔ TempCovered t := by
  have hword : t.toUInt16.toNat < 2 ^ 16 := t.toUInt16.toNat_lt
  have hsign := Core.toInt_eq_toNat_toUInt16 t
  rw [mcBmsDetermineState_eq, Mirror.bmsDetermineState_eq, Checker.classify_eq hword]
  rw [stateBetween_eq_iff (by omega) (by omega), stateBetween_eq_iff (by omega) (by omega)]
  unfold TempCovered
  split_ifs at hsign
  · omega
  · omega

/-- The seven bytes the plant publishes for its readings, words with the high byte first. -/
def sensorPayload (r : PlantReadings) : List UInt8 :=
  [r.socPercent, Core.hiByte r.voltageMv, Core.loByte r.voltageMv,
    Core.hiByte r.tempCX10.toUInt16, Core.loByte r.tempCX10.toUInt16,
    Core.hiByte r.currentMa.toUInt16, Core.loByte r.currentMa.toUInt16]

/-- The checker decodes the word of the temperature without its sign. -/
theorem sensorPayload_temp (r : PlantReadings) :
    ((sensorPayload r).getD 3 0).toNat <<< 8 ||| ((sensorPayload r).getD 4 0).toNat =
      r.tempCX10.toUInt16.toNat := by
  let hi := Core.hiByte r.tempCX10.toUInt16
  let lo := Core.loByte r.tempCX10.toUInt16
  have hlo : lo.toNat < 2 ^ 8 := lo.toNat_lt
  calc hi.toNat <<< 8 ||| lo.toNat
      = hi.toNat <<< 8 + lo.toNat := (Nat.shiftLeft_add_eq_or_of_lt hlo hi.toNat).symm
    _ = (Core.wordOfBytes hi lo).toNat := by rw [Core.toNat_wordOfBytes, Nat.shiftLeft_eq]
    _ = r.tempCX10.toUInt16.toNat := by rw [Core.wordOfBytes_hiByte_loByte]

/-- Readings and the time at which they are taken. -/
structure SensorSample where
  /-- Readings of the plant. -/
  readings : PlantReadings
  /-- Time of the sample in microseconds. -/
  nowUs : Nat
  deriving DecidableEq

/-- The three implementations side by side. -/
structure Classifiers where
  /-- The firmware's pack state. -/
  bs : BmsState
  /-- The firmware's limits. -/
  bl : BmsLimits
  /-- The mirrored pack state. -/
  machine : Mirror.BmsStateMachine
  /-- The mirrored limits. -/
  limits : Mirror.BmsLimits
  /-- The checker's BMS. -/
  checker : Checker.BmsState
  deriving DecidableEq

/-- Each implementation in its own initial state. -/
def Classifiers.init : Classifiers where
  bs := bmsStateInit
  bl := bmsLimitsInit
  machine := Mirror.BmsStateMachine.default
  limits := Mirror.BmsLimits.default
  checker := Checker.BmsState.init

/-- Each implementation takes over one sample. -/
def Classifiers.update (c : Classifiers) (sample : SensorSample) : Classifiers :=
  let r := sample.readings
  let bs := bmsStateUpdate c.bs r.tempCX10 r.voltageMv r.currentMa r.socPercent
  let machine := c.machine.update r.tempCX10 r.voltageMv r.currentMa r.socPercent
  { bs := bs
    bl := bmsLimitsCompute bs.state
    machine := machine
    limits := c.limits.compute machine.state
    checker := c.checker.processFrame Checker.mcMsgBmsStatus (sensorPayload r) sample.nowUs }

/-- The three implementations are in the same state, and the first two have the same limits
and fault code. -/
structure Classifiers.Agree (c : Classifiers) : Prop where
  machineState : c.machine.state = c.bs.state
  checkerState : c.checker.state = c.bs.state
  maxTorquePercent : c.limits.maxTorquePercent = c.bl.maxTorquePercent
  reason : c.limits.reason = c.bl.reason
  faultCode : c.machine.faultCode = c.bs.faultCode

theorem Classifiers.agree_init : Classifiers.init.Agree := ⟨rfl, rfl, rfl, rfl, rfl⟩

/-- Equal states have equal limits and fault codes. -/
theorem Mirror.BmsLimits.compute_maxTorquePercent (limits : Mirror.BmsLimits)
    (state : McBmsState) :
    (limits.compute state).maxTorquePercent = (bmsLimitsCompute state).maxTorquePercent := by
  cases state <;> rfl

theorem Mirror.BmsLimits.compute_reason (limits : Mirror.BmsLimits) (state : McBmsState) :
    (limits.compute state).reason = (bmsLimitsCompute state).reason := by
  cases state <;> rfl

theorem Mirror.determineFaultCode_eq (state : McBmsState) :
    Mirror.determineFaultCode state = bmsStateFaultCode state := by
  cases state <;> rfl

/-- A sample puts the checker into the state it classifies. -/
theorem Classifiers.update_checker_state (c : Classifiers) (sample : SensorSample) :
    (c.update sample).checker.state =
      Checker.classify sample.readings.tempCX10.toUInt16.toNat := by
  rw [← sensorPayload_temp]
  rfl

/-- Whatever came before, a sample makes the implementations agree exactly if they classify it
alike. -/
theorem Classifiers.agree_update_iff (c : Classifiers) (sample : SensorSample) :
    (c.update sample).Agree ↔ TempCovered sample.readings.tempCX10 := by
  rw [← classifications_agree_iff]
  constructor
  · intro h
    have hchecker := h.checkerState
    rw [update_checker_state] at hchecker
    exact ⟨h.machineState, hchecker⟩
  · rintro ⟨hmachine, hchecker⟩
    have hstate : (c.update sample).machine.state = (c.update sample).bs.state := hmachine
    have hlimits : (c.update sample).limits = c.limits.compute (c.update sample).bs.state :=
      congrArg c.limits.compute hstate
    have hfault : (c.update sample).machine.faultCode =
        Mirror.determineFaultCode (c.update sample).bs.state :=
      congrArg Mirror.determineFaultCode hstate
    refine ⟨hstate, ?_, ?_, ?_, ?_⟩
    · rw [update_checker_state]
      exact hchecker
    · rw [hlimits]
      exact Mirror.BmsLimits.compute_maxTorquePercent c.limits _
    · rw [hlimits]
      exact Mirror.BmsLimits.compute_reason c.limits _
    · rw [hfault]
      exact Mirror.determineFaultCode_eq _

/-- The implementations go through the same states, with the same limits and fault codes, on
exactly the sequences of covered readings. -/
theorem classifiers_agree_iff (samples : List SensorSample) :
    (∀ before, before <+: samples → (Core.run Classifiers.update Classifiers.init before).Agree) ↔
      ∀ sample ∈ samples, TempCovered sample.readings.tempCX10 :=
  Core.forall_prefix_iff_forall_mem Classifiers.agree_update_iff Classifiers.agree_init

/-- At 60 degrees the firmware warns and the mirror does not. -/
theorem classifiers_disagree_at_threshold :
    ¬ ∀ samples before, before <+: samples →
      (Core.run Classifiers.update Classifiers.init before).Agree := by
  intro h
  let samples : List SensorSample := [⟨⟨80, 48000, 600, 0⟩, 0⟩]
  have hstate := (h samples samples List.prefix_rfl).machineState
  exact absurd hstate (by decide +kernel)

end Microcar.Bms
