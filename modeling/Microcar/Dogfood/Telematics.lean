import Microcar.Dogfood.Ota
import Microcar.Dogfood.Recorded
import Microcar.Tools.Telematics

/-!
# The telematics lane

The lane looks at the words that the telematics ECU traced. Its verdict on the firmware depends on
what the network answered, and on the length of the run alone: neither the other machines nor the
received CAN frames change it.
-/

namespace Microcar.Dogfood

open Microcar.Core Microcar.Tools

/-! ### Checks -/

/-- A word of the telematics ECU. -/
structure TelemTrace where
  label : String
  value : UInt32

/-- The verdict on one question. -/
structure TelematicsCheck where
  name : String
  passed : Bool
  detail : String

/-- The length of a record. -/
def statusRecordBytes : UInt32 := 11
/-- The records that a run has to send. -/
def minExpectedRecords : UInt32 := 10

/-- The events of one machine. -/
def collectTelemTraces (trace : List UserTrace) (machine : Nat) : List TelemTrace :=
  (trace.filter fun e => e.machine == machine).map fun e => ⟨e.label, e.value⟩

/-- The values under a label. -/
def labelValues (traces : List TelemTrace) (label : String) : List UInt32 :=
  (traces.filter fun t => t.label == label).map TelemTrace.value

/-- `values.windows(2).all(|w| step(w[0], w[1]))`. -/
def windowsAll (step : UInt32 → UInt32 → Bool) (values : List UInt32) : Bool :=
  (values.zip values.tail).all fun w => step w.1 w.2

/-- The first boot word is 1. -/
def checkBooted (traces : List TelemTrace) : TelematicsCheck :=
  match labelValues traces "telematics_boot" with
  | [] => ⟨"telematics_booted", false, "no telematics_boot event found"⟩
  | boot :: _ => ⟨"telematics_booted", boot == 1, s!"telematics_boot = {boot}"⟩

/-- The ticks behind boot grow. -/
def checkHeartbeatMonotonic (traces : List TelemTrace) : TelematicsCheck :=
  let hb := labelValues traces "telem_hb"
  if hb.isEmpty then ⟨"heartbeat_monotonic", false, "no telem_hb events found"⟩
  else
    match hb.filter fun v => 0 < v with
    | [] =>
      ⟨"heartbeat_monotonic", false, "only boot-time heartbeat (0); no periodic ticks found"⟩
    | first :: rest =>
      let ticks := first :: rest
      ⟨"heartbeat_monotonic", windowsAll (fun a b => a < b) ticks,
        s!"{ticks.length} heartbeat ticks: {first}..{rest.getLastD first}"⟩

/-- Every send took a whole record. -/
def checkSendRecordSize (traces : List TelemTrace) : TelematicsCheck :=
  let sent := labelValues traces "telem_net_sent"
  if sent.isEmpty then ⟨"send_record_size", false, "no telem_net_sent events found"⟩
  else
    let good := sent.filter fun s => s == statusRecordBytes
    let bad := sent.filter fun s => s != statusRecordBytes
    let all11 := sent.all fun s => s == statusRecordBytes
    ⟨"send_record_size", all11,
      if all11 then s!"{sent.length} sends × {statusRecordBytes} bytes each"
      else
        s!"{good.length}/{sent.length} sends at {statusRecordBytes} bytes; " ++
          s!"unexpected: {debugVec bad}"⟩

/-- There are enough records. -/
def checkMinimumRecordCount (traces : List TelemTrace) : TelematicsCheck :=
  let count := UInt32.ofNat (labelValues traces "telem_net_sent").length
  ⟨"minimum_records", minExpectedRecords ≤ count,
    s!"{count} records sent (minimum {minExpectedRecords})"⟩

/-- The sum in the text wraps, as in a release build. -/
def checkRecvNonDecreasing (traces : List TelemTrace) : TelematicsCheck :=
  let recv := labelValues traces "telem_net_recv"
  if recv.isEmpty then ⟨"recv_non_decreasing", true, "no received frames (skipped)"⟩
  else
    let nonDecreasing := windowsAll (fun a b => a ≤ b) recv
    ⟨"recv_non_decreasing", nonDecreasing,
      s!"{recv.length} recv events, total {recv.foldl (· + ·) 0} bytes " ++
        s!"(non-decreasing: {nonDecreasing})"⟩

/-- The five checks in order. -/
def checkAllTelematics (traces : List TelemTrace) : List TelematicsCheck :=
  [checkBooted traces, checkHeartbeatMonotonic traces, checkSendRecordSize traces,
    checkMinimumRecordCount traces, checkRecvNonDecreasing traces]

/-- The verdict on one scenario. -/
structure TelematicsScenarioResult where
  name : String
  passed : Bool
  runError : Option String
  checks : List TelematicsCheck

/-- `run_telematics_scenario` behind the run: its error, or the trace. -/
def telematicsScenarioResult (name : String) :
    Except String (List UserTrace) → TelematicsScenarioResult
  | .error detail => ⟨name, false, some detail, []⟩
  | .ok trace =>
    let checks := checkAllTelematics (collectTelemTraces trace 1)
    ⟨name, checks.all TelematicsCheck.passed, none, checks⟩

/-! ### The words of the firmware -/

/-- The labels that the lane reads. -/
def telemLabels : List String :=
  ["telematics_boot", "telem_hb", "telem_net_sent", "telem_net_recv"]

/-- One word for each item, under one label. -/
theorem wordsUnder_map_trace (label other : String) (values : List UInt32) :
    wordsUnder label (values.map (.trace other)) = if other = label then values else [] := by
  induction values with
  | nil => simp
  | cons value values ih =>
    rw [List.map_cons, ← List.singleton_append, wordsUnder_append, ih]
    split
    next h => rw [h, wordsUnder_trace_self, List.singleton_append]
    next h => rw [wordsUnder_trace_of_ne h, List.nil_append]

/-- The lane reads no word about a CAN frame. -/
theorem wordsUnder_canFrames {label : String} (hlabel : label ∈ telemLabels)
    (frames : List RxFrame) :
    wordsUnder label (frames.flatMap fun rx =>
      [.trace "telem_can_id" rx.id, .trace "telem_can_dlc" rx.len.toUInt32]) = [] := by
  have hid : "telem_can_id" ≠ label := by
    rintro rfl
    simp [telemLabels] at hlabel
  have hdlc : "telem_can_dlc" ≠ label := by
    rintro rfl
    simp [telemLabels] at hlabel
  induction frames with
  | nil => rfl
  | cons rx frames ih =>
    rw [List.flatMap_cons, wordsUnder_append, ih, List.append_nil, ← List.singleton_append,
      wordsUnder_append, wordsUnder_trace_of_ne hid, wordsUnder_trace_of_ne hdlc, List.nil_append]

/-- What an iteration adds under a label of the lane. -/
theorem wordsUnder_telemEmissions {label : String} (hlabel : label ∈ telemLabels)
    (tick uptimeMs : UInt32) (io : TelemIo) :
    wordsUnder label (telemEmissions tick uptimeMs io) =
      (if "telem_net_sent" = label then [io.sent] else []) ++
        (if "telem_net_recv" = label then io.received else []) ++
        if "telem_hb" = label then [tick] else [] := by
  have hsent := wordsUnder_map_trace label "telem_net_sent" [io.sent]
  have hbeat := wordsUnder_map_trace label "telem_hb" [tick]
  rw [List.map_singleton] at hsent hbeat
  have htail : wordsUnder label [.can (heartbeatFrame mcNodeTelematics uptimeMs),
      .trace "telem_hb" tick] = if "telem_hb" = label then [tick] else [] := by
    rw [← List.singleton_append, wordsUnder_append, wordsUnder_can, List.nil_append, hbeat]
  rw [telemEmissions, wordsUnder_append, wordsUnder_append, wordsUnder_append, hsent,
    wordsUnder_map_trace, wordsUnder_canFrames hlabel, List.append_nil, htail]

/-- What one more iteration adds. -/
theorem wordsUnder_telematicsRun_snoc {label : String} (hlabel : label ∈ telemLabels)
    (registered : UInt32) (ios : List TelemIo) (io : TelemIo) :
    wordsUnder label (telematicsRun registered (ios ++ [io])).out =
      wordsUnder label (telematicsRun registered ios).out ++
        ((if "telem_net_sent" = label then [io.sent] else []) ++
          (if "telem_net_recv" = label then io.received else []) ++
          if "telem_hb" = label then [UInt32.ofNat (ios.length + 1)] else []) := by
  obtain ⟨htick, -, -⟩ := telematicsRun_counters registered ios
  have hrun : telematicsRun registered (ios ++ [io]) =
      telematicsMain (telematicsRun registered ios) io := run_snoc _ _ _ _
  have hnext : UInt32.ofNat ios.length + 1 = UInt32.ofNat (ios.length + 1) := by
    rw [UInt32.ofNat_add]
    rfl
  rw [hrun, telematicsMain_eq, wordsUnder_append, wordsUnder_telemEmissions hlabel, htick, hnext]

/-- The words under the four labels. -/
theorem words_telematicsRun (registered : UInt32) (ios : List TelemIo) :
    wordsUnder "telematics_boot" (telematicsRun registered ios).out = [1] ∧
      wordsUnder "telem_net_sent" (telematicsRun registered ios).out = ios.map TelemIo.sent ∧
      wordsUnder "telem_net_recv" (telematicsRun registered ios).out =
        ios.flatMap TelemIo.received ∧
      wordsUnder "telem_hb" (telematicsRun registered ios).out =
        0 :: (List.range ios.length).map fun i => UInt32.ofNat (i + 1) := by
  induction ios using List.reverseRecOn with
  | nil => simp [telematicsRun, telematicsBoot, wordsUnder, Emission.value?, List.filterMap_cons]
  | append_singleton ios io ih =>
    obtain ⟨hboot, hsent, hrecv, hbeat⟩ := ih
    have hsnoc : ∀ label ∈ telemLabels, _ := fun label hlabel =>
      wordsUnder_telematicsRun_snoc hlabel registered ios io
    rw [hsnoc _ (by simp [telemLabels]), hsnoc _ (by simp [telemLabels]),
      hsnoc _ (by simp [telemLabels]), hsnoc _ (by simp [telemLabels]), hboot, hsent, hrecv, hbeat]
    simp [List.range_succ]

/-! ### The verdict -/

theorem windowsAll_iff {r : UInt32 → UInt32 → Prop} [DecidableRel r]
    (htrans : ∀ a b c, r a b → r b c → r a c) (values : List UInt32) :
    windowsAll (fun a b => r a b) values = true ↔ values.Pairwise r := by
  have hwindows : windowsAll (fun a b => r a b) values = true ↔ values.IsChain r := by
    induction values with
    | nil => simp [windowsAll]
    | cons a values ih =>
      cases values with
      | nil => simp [windowsAll]
      | cons b values =>
        rw [List.isChain_cons_cons, ← ih]
        simp [windowsAll]
  have hinstance : Trans r r r := ⟨fun h h' => htrans _ _ _ h h'⟩
  exact hwindows.trans List.isChain_iff_pairwise

/-- The ticks grow as long as their count does not wrap. -/
theorem ticks_pairwise_iff (n : Nat) :
    (((List.range n).map fun i => UInt32.ofNat (i + 1)).filter fun v => 0 < v).Pairwise (· < ·) ↔
      n ≤ 2 ^ 32 := by
  have htick : ∀ i j, UInt32.ofNat (i + 1) < UInt32.ofNat (j + 1) ↔
      (i + 1) % 2 ^ 32 < (j + 1) % 2 ^ 32 := by
    intro i j
    rw [UInt32.lt_iff_toNat_lt, UInt32.toNat_ofNat', UInt32.toNat_ofNat']
  have hpos : ∀ i, 0 < UInt32.ofNat (i + 1) ↔ 0 < (i + 1) % 2 ^ 32 := by
    intro i
    rw [UInt32.lt_iff_toNat_lt, UInt32.toNat_ofNat']
    rfl
  rw [List.pairwise_filter, List.pairwise_map, List.pairwise_iff_getElem]
  simp only [List.length_range, List.getElem_range, decide_eq_true_iff, hpos, htick]
  constructor
  · intro h
    by_contra hlong
    -- The tick after the wrap is the first one again.
    have hwrap := h 0 (2 ^ 32) (by omega) (by omega) (by omega) (by omega) (by omega)
    omega
  · intro hle i j hi hj hij _ hj0
    omega

theorem check_monotonic_passed_iff {traces : List TelemTrace} {n : Nat}
    (h : labelValues traces "telem_hb" =
      0 :: (List.range n).map fun i => UInt32.ofNat (i + 1)) :
    (checkHeartbeatMonotonic traces).passed = true ↔ 0 < n ∧ n ≤ 2 ^ 32 := by
  have hticks : (labelValues traces "telem_hb").filter (fun v => 0 < v) =
      ((List.range n).map fun i => UInt32.ofNat (i + 1)).filter fun v => 0 < v := by
    rw [h, List.filter_cons_of_neg (by simp)]
  have hnonempty : ((List.range n).map fun i => UInt32.ofNat (i + 1)).filter (fun v => 0 < v) ≠ [] ↔
      0 < n := by
    constructor
    · intro hne
      by_contra hzero
      obtain rfl : n = 0 := by omega
      exact hne rfl
    · intro hpos hnil
      have hfirst := List.filter_eq_nil_iff.mp hnil (UInt32.ofNat (0 + 1))
        (List.mem_map.mpr ⟨0, List.mem_range.mpr hpos, rfl⟩)
      exact hfirst (by decide)
  rw [← hnonempty, ← ticks_pairwise_iff, ← hticks, checkHeartbeatMonotonic]
  dsimp only
  rw [if_neg (by simp [h])]
  cases hfound : (labelValues traces "telem_hb").filter fun v => 0 < v with
  | nil => simp
  | cons first rest =>
    dsimp only
    have hgrow := windowsAll_iff (r := (· < ·)) (fun _ _ _ => UInt32.lt_trans) (first :: rest)
    exact hgrow.trans (and_iff_right (List.cons_ne_nil _ _)).symm

/-- The lane reads the words of the ECU. -/
theorem labelValues_collect {labels : List String} {out : List Emission}
    {trace : List UserTrace} (h : Records labels 1 out trace) {label : String}
    (hlabel : label ∈ labels) :
    labelValues (collectTelemTraces trace 1) label = wordsUnder label out := by
  rw [← h.values hlabel, labelValues, collectTelemTraces, List.filter_map, List.map_map,
    List.filter_filter]
  have htest : ∀ e : UserTrace, (e.label == label && e.machine == 1) =
      (e.machine == 1 && e.label == label) := fun e => Bool.and_comm _ _
  exact congrArg (List.map UserTrace.value) (List.filter_congr fun e _ => htest e)

theorem check_size_passed_iff {traces : List TelemTrace} :
    (checkSendRecordSize traces).passed = true ↔
      labelValues traces "telem_net_sent" ≠ [] ∧
        ∀ sent ∈ labelValues traces "telem_net_sent", sent = 11 := by
  rw [checkSendRecordSize]
  cases labelValues traces "telem_net_sent" with
  | nil => simp
  | cons first rest => simp [statusRecordBytes]

theorem check_recv_passed_iff {traces : List TelemTrace} :
    (checkRecvNonDecreasing traces).passed = true ↔
      (labelValues traces "telem_net_recv").Pairwise (· ≤ ·) := by
  rw [checkRecvNonDecreasing]
  cases labelValues traces "telem_net_recv" with
  | nil => simp
  | cons first rest =>
    exact windowsAll_iff (r := (· ≤ ·)) (fun _ _ _ => UInt32.le_trans) (first :: rest)

end Microcar.Dogfood
