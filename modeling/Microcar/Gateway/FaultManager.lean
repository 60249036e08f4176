import Microcar.Core.Table
import Microcar.Protocol.Modes

/-!
# Fault manager of the gateway

The bounded fault table with its two wrapping counters. A report reactivates the first
entry of its key or appends a new one; a full table drops it. Clearing deactivates
entries and counts down. The counters stay in step with the table as long as a key is
always reported with the same severity.
-/

namespace Microcar.Gateway

/-- A tracked fault, `fm_fault_t`. -/
structure Fault where
  /-- Node that reported the fault. -/
  sourceNode : UInt8
  /-- Fault code of that node. -/
  faultCode : UInt8
  /-- The fault is active. -/
  active : Bool
  /-- Severity: 0 info, 1 warning, 2 critical. -/
  severity : UInt8
  deriving DecidableEq, Repr

/-- Capacity of the fault table, `FM_MAX_FAULTS`. -/
def fmMaxFaults : Nat := 16

/-- The fault manager, `fault_manager_t`. -/
structure FaultManager where
  /-- Tracked faults in order of their first report. -/
  faults : Core.Table Fault fmMaxFaults
  /-- Number of active critical faults, wrapping. -/
  criticalCount : UInt8
  /-- Number of active warnings, wrapping. -/
  warningCount : UInt8
  deriving DecidableEq

/-- The empty table, `fault_manager_init`. -/
def faultManagerInit : FaultManager := ⟨.empty, 0, 0⟩

/-- The fault has the given source and code. -/
def Fault.hasKey (sourceNode faultCode : UInt8) (f : Fault) : Bool :=
  f.sourceNode == sourceNode && f.faultCode == faultCode

/-- An active fault of a severity. -/
def Fault.activeAt (severity : UInt8) (f : Fault) : Bool := f.active && f.severity == severity

/-- Count up for a severity. -/
def FaultManager.countUp (fm : FaultManager) (severity : UInt8) : FaultManager :=
  if severity = 2 then { fm with criticalCount := fm.criticalCount + 1 }
  else if severity = 1 then { fm with warningCount := fm.warningCount + 1 }
  else fm

/-- A fault behind a renewed report. -/
def Fault.renew (severity : UInt8) (f : Fault) : Fault :=
  { f with active := true, severity := severity }

/-- Report a fault; the flag is false when a full table drops it, `fault_manager_report`. -/
def faultManagerReport (fm : FaultManager) (sourceNode faultCode severity : UInt8) :
    FaultManager × Bool :=
  match fm.faults.entries.find? (Fault.hasKey sourceNode faultCode) with
  | some f =>
    let counted := if f.active then fm else fm.countUp severity
    ({ counted with
        faults := fm.faults.modify (Fault.hasKey sourceNode faultCode) (Fault.renew severity) },
      true)
  | none =>
    if fm.faults.isFull then (fm, false)
    else ({ fm.countUp severity with
      faults := fm.faults.push ⟨sourceNode, faultCode, true, severity⟩ }, true)

/-- Count down for a severity. -/
def FaultManager.countDown (fm : FaultManager) (severity : UInt8) : FaultManager :=
  if severity = 2 then { fm with criticalCount := fm.criticalCount - 1 }
  else if severity = 1 then { fm with warningCount := fm.warningCount - 1 }
  else fm

/-- Deactivate the first active fault of the key and count down for it,
`fault_manager_clear`. -/
def faultManagerClear (fm : FaultManager) (sourceNode faultCode : UInt8) : FaultManager :=
  match fm.faults.entries.find? (fun f => f.hasKey sourceNode faultCode && f.active) with
  | some f =>
    { fm.countDown f.severity with
      faults := fm.faults.modify (fun f => f.hasKey sourceNode faultCode && f.active)
        fun f => { f with active := false } }
  | none => fm

/-- Deactivate every active fault that passes the test and count down for each, the loop
of the two clear functions. -/
def FaultManager.clearWhere (fm : FaultManager) (test : Fault → Bool) : FaultManager where
  faults := fm.faults.map fun f => if test f && f.active then { f with active := false } else f
  criticalCount := fm.faults.entries.foldl
    (fun count f => if test f && f.activeAt 2 then count - 1 else count) fm.criticalCount
  warningCount := fm.faults.entries.foldl
    (fun count f => if test f && f.activeAt 1 then count - 1 else count) fm.warningCount

/-- Deactivate the faults of a node, `fault_manager_clear_node`. -/
def faultManagerClearNode (fm : FaultManager) (sourceNode : UInt8) : FaultManager :=
  fm.clearWhere fun f => f.sourceNode == sourceNode

/-- Deactivate every fault, `fault_manager_clear_all`. -/
def faultManagerClearAll (fm : FaultManager) : FaultManager := fm.clearWhere fun _ => true

/-- A critical fault is counted, `fault_manager_has_critical`. -/
def faultManagerHasCritical (fm : FaultManager) : Bool := decide (0 < fm.criticalCount)

/-- Number of active faults, `fault_manager_active_count`. -/
def faultManagerActiveCount (fm : FaultManager) : UInt8 :=
  UInt8.ofNat (fm.faults.entries.countP (·.active))

/-- Severity of a BMS fault code, `fault_manager_bms_severity`. -/
def faultManagerBmsSeverity (bmsFaultCode : UInt8) : UInt8 :=
  if bmsFaultCode = mcBmsFaultOvertemp ∨ bmsFaultCode = mcBmsFaultOvervoltage then 2
  else if bmsFaultCode = mcBmsFaultUndervoltage ∨ bmsFaultCode = mcBmsFaultOverCurrent then 1
  else if bmsFaultCode = mcBmsFaultCommError then 2
  else 0

/-- Everything a report can do: renew the first entry of the key, append a new entry, or
drop the report at a full table. -/
inductive ReportMove (fm : FaultManager) (sourceNode faultCode severity : UInt8) :
    FaultManager → Prop
  | renewed {before after : List Fault} {f : Fault} {counted renewed : FaultManager}
      (hentries : fm.faults.entries = before ++ f :: after)
      (hkey : f.hasKey sourceNode faultCode = true)
      (hcounted : counted = if f.active then fm else fm.countUp severity)
      (hcritical : renewed.criticalCount = counted.criticalCount)
      (hwarning : renewed.warningCount = counted.warningCount)
      (hrenewed : renewed.faults.entries = before ++ f.renew severity :: after) :
      ReportMove fm sourceNode faultCode severity renewed
  | appended {appended : FaultManager}
      (hnew : ∀ f ∈ fm.faults.entries, f.hasKey sourceNode faultCode = false)
      (hroom : fm.faults.isFull = false)
      (hcritical : appended.criticalCount = (fm.countUp severity).criticalCount)
      (hwarning : appended.warningCount = (fm.countUp severity).warningCount)
      (happended : appended.faults.entries =
        fm.faults.entries ++ [⟨sourceNode, faultCode, true, severity⟩]) :
      ReportMove fm sourceNode faultCode severity appended
  | dropped (hnew : ∀ f ∈ fm.faults.entries, f.hasKey sourceNode faultCode = false)
      (hfull : fm.faults.isFull = true) : ReportMove fm sourceNode faultCode severity fm

/-- A report makes one of the three moves. -/
theorem faultManagerReport_move (fm : FaultManager) (sourceNode faultCode severity : UInt8) :
    ReportMove fm sourceNode faultCode severity
      (faultManagerReport fm sourceNode faultCode severity).1 := by
  unfold faultManagerReport
  cases hfind : fm.faults.entries.find? (Fault.hasKey sourceNode faultCode) with
  | some f =>
    obtain ⟨hkey, before, after, hentries, hbefore⟩ := List.find?_eq_some_iff_append.mp hfind
    have hskip : ∀ b ∈ before, b.hasKey sourceNode faultCode = false := fun b hb => by
      simpa using hbefore b hb
    refine .renewed hentries hkey rfl rfl rfl ?_
    rw [Core.Table.entries_modify, hentries]
    exact Core.modifyFirst_append_cons _ after hskip hkey
  | none =>
    have hnew : ∀ f ∈ fm.faults.entries, f.hasKey sourceNode faultCode = false := by
      simpa using hfind
    cases hfull : fm.faults.isFull with
    | true => exact .dropped hnew hfull
    | false =>
      refine .appended hnew hfull rfl rfl ?_
      simp [Core.Table.entries_push, hfull]

/-- A severity is critical, a warning, or without a counter. -/
@[elab_as_elim]
theorem severity_cases {motive : UInt8 → Prop} (severity : UInt8) (critical : motive 2)
    (warning : motive 1) (uncounted : ∀ severity, severity ≠ 2 → severity ≠ 1 → motive severity) :
    motive severity := by
  by_cases h2 : severity = 2
  · exact h2 ▸ critical
  by_cases h1 : severity = 1
  · exact h1 ▸ warning
  · exact uncounted severity h2 h1

/-- Counting up in terms of the two counters. -/
theorem countUp_counts (fm : FaultManager) (severity : UInt8) :
    (fm.countUp severity).criticalCount =
        fm.criticalCount + (if severity == 2 then 1 else 0) ∧
      (fm.countUp severity).warningCount =
        fm.warningCount + (if severity == 1 then 1 else 0) := by
  unfold FaultManager.countUp
  induction severity using severity_cases with
  | critical => exact ⟨rfl, by simp⟩
  | warning => exact ⟨by simp, rfl⟩
  | uncounted severity h2 h1 => simp [h1, h2]

/-- Counting down in terms of the two counters. -/
theorem countDown_counts (fm : FaultManager) (severity : UInt8) :
    (fm.countDown severity).criticalCount =
        fm.criticalCount - (if severity == 2 then 1 else 0) ∧
      (fm.countDown severity).warningCount =
        fm.warningCount - (if severity == 1 then 1 else 0) := by
  unfold FaultManager.countDown
  induction severity using severity_cases with
  | critical => exact ⟨rfl, by simp⟩
  | warning => exact ⟨by simp, rfl⟩
  | uncounted severity h2 h1 => simp [h1, h2]

/-- Everything a clear of one key can do: deactivate its first active entry, or nothing. -/
inductive ClearMove (fm : FaultManager) (sourceNode faultCode : UInt8) : FaultManager → Prop
  | cleared {before after : List Fault} {f : Fault} {cleared : FaultManager}
      (hentries : fm.faults.entries = before ++ f :: after)
      (hkey : f.hasKey sourceNode faultCode = true) (hactive : f.active = true)
      (hcritical : cleared.criticalCount = (fm.countDown f.severity).criticalCount)
      (hwarning : cleared.warningCount = (fm.countDown f.severity).warningCount)
      (hcleared : cleared.faults.entries = before ++ { f with active := false } :: after) :
      ClearMove fm sourceNode faultCode cleared
  | missed (hmissed : ∀ f ∈ fm.faults.entries,
      f.hasKey sourceNode faultCode = true → f.active = false) :
      ClearMove fm sourceNode faultCode fm

/-- A clear of one key makes one of the two moves. -/
theorem faultManagerClear_move (fm : FaultManager) (sourceNode faultCode : UInt8) :
    ClearMove fm sourceNode faultCode (faultManagerClear fm sourceNode faultCode) := by
  unfold faultManagerClear
  cases hfind : fm.faults.entries.find? (fun f => f.hasKey sourceNode faultCode && f.active) with
  | some f =>
    obtain ⟨hfound, before, after, hentries, hbefore⟩ := List.find?_eq_some_iff_append.mp hfind
    obtain ⟨hkey, hactive⟩ := Bool.and_eq_true_iff.mp hfound
    refine .cleared hentries hkey hactive rfl rfl ?_
    rw [Core.Table.entries_modify, hentries]
    refine Core.modifyFirst_append_cons _ after (fun b hb => ?_) hfound
    simpa only [Bool.not_eq_true'] using hbefore b hb
  | none =>
    refine .missed fun f hf hkey => ?_
    have hnone := List.find?_eq_none.mp hfind f hf
    simpa [hkey] using hnone

/-- The two counters are the numbers of active critical faults and warnings. -/
structure CountsMatch (fm : FaultManager) : Prop where
  /-- Critical faults. -/
  critical : fm.criticalCount.toNat = fm.faults.entries.countP (Fault.activeAt 2)
  /-- Warnings. -/
  warning : fm.warningCount.toNat = fm.faults.entries.countP (Fault.activeAt 1)

/-- Every entry of the key is stored with the given severity. -/
def SeverityStable (fm : FaultManager) (sourceNode faultCode severity : UInt8) : Prop :=
  ∀ f ∈ fm.faults.entries, f.hasKey sourceNode faultCode = true → f.severity = severity

/-- A counter of entries of the table counts one more without wrapping. -/
theorem toNat_count_add {fm : FaultManager} {count : UInt8} {p : Fault → Bool}
    (h : count.toNat = fm.faults.entries.countP p) (b : Bool) :
    (count + (if b then 1 else 0)).toNat = count.toNat + (if b then 1 else 0) := by
  have hle : fm.faults.entries.countP p ≤ 16 :=
    Nat.le_trans List.countP_le_length fm.faults.length_le
  have hone : (1 : UInt8).toNat = 1 := rfl
  cases b with
  | false => simp
  | true =>
    simp only [if_true, UInt8.toNat_add]
    omega

/-- Renewing an entry exchanges what it adds to a count. -/
theorem countP_renew_add (level severity : UInt8) (before after : List Fault) (f : Fault) :
    (before ++ f.renew severity :: after).countP (Fault.activeAt level) +
        (if f.activeAt level then 1 else 0) =
      (before ++ f :: after).countP (Fault.activeAt level) +
        (if severity == level then 1 else 0) := by
  have hrenew : (f.renew severity).activeAt level = (severity == level) := by
    simp [Fault.activeAt, Fault.renew]
  rw [List.countP_append, List.countP_append, List.countP_cons, List.countP_cons, hrenew]
  omega

/-- Two counts that exchange one entry are equal exactly when both or neither counts it. -/
theorem count_eq_iff_of_exchange {n m : Nat} {p q : Prop} [Decidable p] [Decidable q]
    (h : n + (if p then 1 else 0) = m + (if q then 1 else 0)) : m = n ↔ (p ↔ q) := by
  by_cases hp : p
  · by_cases hq : q
    · rw [if_pos hp, if_pos hq] at h
      exact iff_of_true (Nat.add_right_cancel h).symm (iff_of_true hp hq)
    · rw [if_pos hp, if_neg hq] at h
      exact iff_of_false (by omega) fun hpq => hq (hpq.mp hp)
  · by_cases hq : q
    · rw [if_neg hp, if_pos hq] at h
      exact iff_of_false (by omega) fun hpq => hp (hpq.mpr hq)
    · rw [if_neg hp, if_neg hq] at h
      exact iff_of_true h.symm (iff_of_false hp hq)

section Report

variable {fm reported : FaultManager} {before after : List Fault} {f : Fault}
  {sourceNode faultCode severity : UInt8}

/-- Behind a renewal of an active entry the counters match the table exactly when both
severities are of one level. -/
theorem CountsMatch.renewed_active_iff (h : CountsMatch fm) (hactive : f.active = true)
    (hentries : fm.faults.entries = before ++ f :: after)
    (hcritical : reported.criticalCount = fm.criticalCount)
    (hwarning : reported.warningCount = fm.warningCount)
    (hrenewed : reported.faults.entries = before ++ f.renew severity :: after) :
    CountsMatch reported ↔
      (f.severity = 2 ↔ severity = 2) ∧ (f.severity = 1 ↔ severity = 1) := by
  have hcount2 := countP_renew_add 2 severity before after f
  have hcount1 := countP_renew_add 1 severity before after f
  rw [← hentries, ← hrenewed] at hcount2 hcount1
  simp only [Fault.activeAt, hactive, Bool.true_and, beq_iff_eq] at hcount2 hcount1
  have hsplit2 : reported.criticalCount.toNat =
      reported.faults.entries.countP (Fault.activeAt 2) ↔ (f.severity = 2 ↔ severity = 2) := by
    rw [hcritical, h.critical]
    exact count_eq_iff_of_exchange hcount2
  have hsplit1 : reported.warningCount.toNat =
      reported.faults.entries.countP (Fault.activeAt 1) ↔ (f.severity = 1 ↔ severity = 1) := by
    rw [hwarning, h.warning]
    exact count_eq_iff_of_exchange hcount1
  constructor
  · intro hmatch
    exact ⟨hsplit2.mp hmatch.critical, hsplit1.mp hmatch.warning⟩
  · rintro ⟨hlevel2, hlevel1⟩
    exact ⟨hsplit2.mpr hlevel2, hsplit1.mpr hlevel1⟩

/-- A renewal of an inactive entry is counted. -/
theorem CountsMatch.renewed_inactive (h : CountsMatch fm) (hactive : f.active = false)
    (hentries : fm.faults.entries = before ++ f :: after)
    (hcritical : reported.criticalCount = (fm.countUp severity).criticalCount)
    (hwarning : reported.warningCount = (fm.countUp severity).warningCount)
    (hrenewed : reported.faults.entries = before ++ f.renew severity :: after) :
    CountsMatch reported := by
  obtain ⟨hup2, hup1⟩ := countUp_counts fm severity
  have hnot : ∀ level, f.activeAt level = false := fun level => by
    simp [Fault.activeAt, hactive]
  have hcount2 := countP_renew_add 2 severity before after f
  have hcount1 := countP_renew_add 1 severity before after f
  rw [← hentries, ← hrenewed, hnot, if_neg Bool.false_ne_true] at hcount2 hcount1
  constructor
  · rw [hcritical, hup2, toNat_count_add h.critical, h.critical]
    omega
  · rw [hwarning, hup1, toNat_count_add h.warning, h.warning]
    omega

/-- An appended entry is counted. -/
theorem CountsMatch.appended (h : CountsMatch fm)
    (hcritical : reported.criticalCount = (fm.countUp severity).criticalCount)
    (hwarning : reported.warningCount = (fm.countUp severity).warningCount)
    (happended : reported.faults.entries =
      fm.faults.entries ++ [⟨sourceNode, faultCode, true, severity⟩]) : CountsMatch reported := by
  obtain ⟨hup2, hup1⟩ := countUp_counts fm severity
  constructor
  · rw [hcritical, happended, hup2, toNat_count_add h.critical, h.critical, List.countP_append]
    simp [Fault.activeAt]
  · rw [hwarning, happended, hup1, toNat_count_add h.warning, h.warning, List.countP_append]
    simp [Fault.activeAt]

/-- A report keeps the counters in step with the table. -/
theorem CountsMatch.report (h : CountsMatch fm)
    (hstable : SeverityStable fm sourceNode faultCode severity) :
    CountsMatch (faultManagerReport fm sourceNode faultCode severity).1 := by
  have hmove := faultManagerReport_move fm sourceNode faultCode severity
  generalize (faultManagerReport fm sourceNode faultCode severity).1 = reported at hmove ⊢
  cases hmove with
  | @renewed before after f counted _ hentries hkey hcounted hcritical hwarning hrenewed =>
    have hseverity := hstable f (by simp [hentries]) hkey
    cases hactive : f.active with
    | true =>
      rw [hactive, if_pos rfl] at hcounted
      rw [hcounted] at hcritical hwarning
      rw [h.renewed_active_iff hactive hentries hcritical hwarning hrenewed, hseverity]
      exact ⟨Iff.rfl, Iff.rfl⟩
    | false =>
      rw [hactive, if_neg Bool.false_ne_true] at hcounted
      rw [hcounted] at hcritical hwarning
      exact h.renewed_inactive hactive hentries hcritical hwarning hrenewed
  | appended _ _ hcritical hwarning happended => exact h.appended hcritical hwarning happended
  | dropped => exact h

end Report

/-- Counting down over the entries that pass a test subtracts their number. -/
theorem toNat_countDown (p : Fault → Bool) (entries : List Fault) {count : UInt8}
    (h : entries.countP p ≤ count.toNat) :
    (entries.foldl (fun count f => if p f then count - 1 else count) count).toNat =
      count.toNat - entries.countP p := by
  induction entries generalizing count with
  | nil => simp
  | cons f entries ih =>
    rw [List.countP_cons] at h
    rw [List.foldl_cons, List.countP_cons]
    cases hp : p f with
    | true =>
      simp only [hp, if_true] at h ⊢
      have hpred : (count - 1).toNat = count.toNat - 1 := by
        rw [UInt8.toNat_sub_of_le]
        · rfl
        · rw [UInt8.le_iff_toNat_le]
          have hone : (1 : UInt8).toNat = 1 := rfl
          omega
      rw [ih (by omega), hpred]
      omega
    | false =>
      simp only [hp, Bool.false_eq_true, if_false, Nat.add_zero] at h ⊢
      exact ih h

/-- The active entries of a severity split into those a clear deactivates and the rest. -/
theorem countP_clearWhere (level : UInt8) (test : Fault → Bool) (entries : List Fault) :
    entries.countP (Fault.activeAt level) =
      entries.countP (fun f => test f && f.activeAt level) +
        (entries.map fun f => if test f && f.active then { f with active := false } else f).countP
          (Fault.activeAt level) := by
  induction entries with
  | nil => rfl
  | cons f entries ih =>
    simp only [List.map_cons, List.countP_cons, ih]
    cases ht : test f <;> cases ha : f.active <;> simp [Fault.activeAt, ha] <;> omega

/-- Clearing keeps the counters in step with the table. -/
theorem CountsMatch.clearWhere {fm : FaultManager} (h : CountsMatch fm) (test : Fault → Bool) :
    CountsMatch (fm.clearWhere test) := by
  have hsplit2 := countP_clearWhere 2 test fm.faults.entries
  have hsplit1 := countP_clearWhere 1 test fm.faults.entries
  have hcrit := h.critical
  have hwarn := h.warning
  constructor
  · simp only [FaultManager.clearWhere, Core.Table.entries_map]
    rw [toNat_countDown (fun f => test f && f.activeAt 2) fm.faults.entries (by omega)]
    omega
  · simp only [FaultManager.clearWhere, Core.Table.entries_map]
    rw [toNat_countDown (fun f => test f && f.activeAt 1) fm.faults.entries (by omega)]
    omega

/-- With matching counters, a critical fault is counted exactly when one is active. -/
theorem CountsMatch.hasCritical_iff {fm : FaultManager} (h : CountsMatch fm) :
    faultManagerHasCritical fm = true ↔ ∃ f ∈ fm.faults.entries, f.activeAt 2 = true := by
  rw [faultManagerHasCritical, decide_eq_true_iff, UInt8.lt_iff_toNat_lt, h.critical]
  exact List.countP_pos_iff

/-- A report of the key is not dropped: the key is tracked already or the table has room. -/
def FaultManager.Accepts (fm : FaultManager) (sourceNode faultCode : UInt8) : Prop :=
  (∃ f ∈ fm.faults.entries, f.hasKey sourceNode faultCode = true) ∨ fm.faults.isFull = false

/-- The fault is tracked as active with the severity. -/
def FaultManager.Tracks (fm : FaultManager) (sourceNode faultCode severity : UInt8) : Prop :=
  (⟨sourceNode, faultCode, true, severity⟩ : Fault) ∈ fm.faults.entries

/-- A renewed entry of the key is the reported fault. -/
theorem Fault.renew_of_hasKey {f : Fault} {sourceNode faultCode : UInt8}
    (h : f.hasKey sourceNode faultCode = true) (severity : UInt8) :
    f.renew severity = ⟨sourceNode, faultCode, true, severity⟩ := by
  simp only [Fault.hasKey, Bool.and_eq_true, beq_iff_eq] at h
  rw [Fault.renew, h.1, h.2]

/-- A property of all entries that the reported one has holds behind the report. -/
theorem forall_mem_report {fm : FaultManager} {P : Fault → Prop}
    {sourceNode faultCode severity : UInt8} (hold : ∀ f ∈ fm.faults.entries, P f)
    (hreported : P ⟨sourceNode, faultCode, true, severity⟩) :
    ∀ f ∈ (faultManagerReport fm sourceNode faultCode severity).1.faults.entries, P f := by
  have hmove := faultManagerReport_move fm sourceNode faultCode severity
  generalize (faultManagerReport fm sourceNode faultCode severity).1 = reported at hmove ⊢
  cases hmove with
  | @renewed before after f _ _ hentries hkey _ _ _ hrenewed =>
    intro g hg
    rw [hrenewed, Fault.renew_of_hasKey hkey] at hg
    rcases List.mem_append.mp hg with hg | hg
    · exact hold g (by simp [hentries, hg])
    · rcases List.mem_cons.mp hg with rfl | hg
      · exact hreported
      · exact hold g (by simp [hentries, hg])
  | appended _ _ _ _ happended =>
    intro g hg
    rw [happended] at hg
    rcases List.mem_append.mp hg with hg | hg
    · exact hold g hg
    · rw [List.mem_singleton.mp hg]
      exact hreported
  | dropped => exact hold

/-- A property of all entries that deactivation keeps holds behind a clear. -/
theorem forall_mem_clearWhere {fm : FaultManager} {P : Fault → Prop} (test : Fault → Bool)
    (hold : ∀ f ∈ fm.faults.entries, P f) (hcleared : ∀ f, P f → P { f with active := false }) :
    ∀ f ∈ (fm.clearWhere test).faults.entries, P f := by
  intro g hg
  obtain ⟨f, hf, rfl⟩ := List.mem_map.mp hg
  split
  · exact hcleared f (hold f hf)
  · exact hold f hf

/-- A full table without the key does not accept a report. -/
theorem not_accepts {fm : FaultManager} {sourceNode faultCode : UInt8}
    (hnew : ∀ f ∈ fm.faults.entries, f.hasKey sourceNode faultCode = false)
    (hfull : fm.faults.isFull = true) : ¬ fm.Accepts sourceNode faultCode := by
  rintro (⟨f, hf, hkey⟩ | hroom)
  · rw [hnew f hf] at hkey
    exact absurd hkey (by simp)
  · rw [hfull] at hroom
    exact absurd hroom (by simp)

/-- A fault is tracked as active behind its report exactly when it was before or the table
accepts the report. -/
theorem report_tracks_iff (fm : FaultManager) (sourceNode faultCode severity : UInt8) :
    (faultManagerReport fm sourceNode faultCode severity).1.Tracks sourceNode faultCode severity ↔
      fm.Tracks sourceNode faultCode severity ∨ fm.Accepts sourceNode faultCode := by
  have hmove := faultManagerReport_move fm sourceNode faultCode severity
  generalize (faultManagerReport fm sourceNode faultCode severity).1 = reported at hmove ⊢
  cases hmove with
  | @renewed before after f _ _ hentries hkey _ _ _ hrenewed =>
    have haccepts : fm.Accepts sourceNode faultCode := .inl ⟨f, by simp [hentries], hkey⟩
    simp only [haccepts, or_true, iff_true]
    rw [FaultManager.Tracks, hrenewed, Fault.renew_of_hasKey hkey]
    simp
  | appended _ hroom _ _ happended =>
    have haccepts : fm.Accepts sourceNode faultCode := .inr hroom
    simp only [haccepts, or_true, iff_true]
    rw [FaultManager.Tracks, happended]
    simp
  | dropped hnew hfull => simp [not_accepts hnew hfull]

/-- Behind a report some critical fault is active exactly when one was before or the table
accepts a critical report. -/
theorem report_critical_iff {fm : FaultManager} {sourceNode faultCode severity : UInt8}
    (hstable : SeverityStable fm sourceNode faultCode severity) :
    (∃ f ∈ (faultManagerReport fm sourceNode faultCode severity).1.faults.entries,
        f.activeAt 2 = true) ↔
      (∃ f ∈ fm.faults.entries, f.activeAt 2 = true) ∨
        (severity = 2 ∧ fm.Accepts sourceNode faultCode) := by
  have hmove := faultManagerReport_move fm sourceNode faultCode severity
  generalize (faultManagerReport fm sourceNode faultCode severity).1 = reported at hmove ⊢
  cases hmove with
  | @renewed before after f _ _ hentries hkey _ _ _ hrenewed =>
    have haccepts : fm.Accepts sourceNode faultCode := .inl ⟨f, by simp [hentries], hkey⟩
    have hseverity := hstable f (by simp [hentries]) hkey
    have hrenew : (f.renew severity).activeAt 2 = true ↔ severity = 2 := by
      simp [Fault.activeAt, Fault.renew]
    have hold : f.activeAt 2 = true → severity = 2 := by
      intro h
      simp only [Fault.activeAt, Bool.and_eq_true, beq_iff_eq] at h
      exact hseverity ▸ h.2
    rw [hrenewed, hentries]
    simp only [List.mem_append, List.mem_cons, haccepts, and_true, or_and_right, exists_or,
      exists_eq_left, hrenew]
    constructor
    · rintro (h | h | h)
      · exact .inl (.inl h)
      · exact .inr h
      · exact .inl (.inr (.inr h))
    · rintro ((h | h | h) | h)
      · exact .inl h
      · exact .inr (.inl (hold h))
      · exact .inr (.inr h)
      · exact .inr (.inl h)
  | appended _ hroom _ _ happended =>
    have haccepts : fm.Accepts sourceNode faultCode := .inr hroom
    rw [happended]
    simp only [List.mem_append, List.mem_singleton, haccepts, and_true, or_and_right, exists_or,
      exists_eq_left]
    simp [Fault.activeAt]
  | dropped hnew hfull => simp [not_accepts hnew hfull]

end Microcar.Gateway
