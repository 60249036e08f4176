import Microcar.Core.Run
import Microcar.Gateway.FaultManager

/-!
# Histories of fault manager calls

Reports and clears with arbitrary bytes, in any order. The keys of the table stay distinct
in every history. The counters stay exact precisely along the histories that never renew an
active entry with a severity of another level: such a report rewrites the stored severity
and leaves both counters as they were.
-/

namespace Microcar.Gateway

/-- A call of the fault manager that changes it. -/
inductive FaultOp where
  /-- `fault_manager_report`. -/
  | report (sourceNode faultCode severity : UInt8)
  /-- `fault_manager_clear`. -/
  | clear (sourceNode faultCode : UInt8)
  /-- `fault_manager_clear_node`. -/
  | clearNode (sourceNode : UInt8)
  /-- `fault_manager_clear_all`. -/
  | clearAll
  deriving DecidableEq, Repr

/-- Perform one call. -/
def faultStep (fm : FaultManager) : FaultOp → FaultManager
  | .report sourceNode faultCode severity =>
    (faultManagerReport fm sourceNode faultCode severity).1
  | .clear sourceNode faultCode => faultManagerClear fm sourceNode faultCode
  | .clearNode sourceNode => faultManagerClearNode fm sourceNode
  | .clearAll => faultManagerClearAll fm

/-- Source and code of a fault. -/
def Fault.key (f : Fault) : UInt8 × UInt8 := (f.sourceNode, f.faultCode)

/-- A fault has a key exactly when source and code are those of the key. -/
theorem Fault.hasKey_iff {f : Fault} {sourceNode faultCode : UInt8} :
    f.hasKey sourceNode faultCode = true ↔ f.key = (sourceNode, faultCode) := by
  rw [Fault.hasKey, Bool.and_eq_true, beq_iff_eq, beq_iff_eq, Fault.key, Prod.mk.injEq]

/-- The representation invariant of the fault table. -/
structure FaultTableExact (fm : FaultManager) : Prop where
  /-- The fill count stays inside the array. -/
  bounded : fm.faults.entries.length ≤ 16
  /-- No two entries share source and code. -/
  distinct : fm.faults.entries.Pairwise fun f g => f.key ≠ g.key
  /-- The counters are the numbers of active critical faults and warnings. -/
  counts : CountsMatch fm
  /-- A critical fault is announced exactly when one is active. -/
  announced : faultManagerHasCritical fm = true ↔
    ∃ f ∈ fm.faults.entries, f.active = true ∧ f.severity = 2

/-- The keys of the table are distinct. -/
def KeysDistinct (fm : FaultManager) : Prop := (fm.faults.entries.map Fault.key).Nodup

/-- The invariant consists of distinct keys and matching counters. -/
theorem faultTableExact_iff {fm : FaultManager} :
    FaultTableExact fm ↔ KeysDistinct fm ∧ CountsMatch fm := by
  have hdistinct : fm.faults.entries.Pairwise (fun f g => f.key ≠ g.key) ↔ KeysDistinct fm := by
    rw [KeysDistinct, List.Nodup, List.pairwise_map]
  constructor
  · intro h
    exact ⟨hdistinct.mp h.distinct, h.counts⟩
  · rintro ⟨hkeys, hcounts⟩
    refine ⟨fm.faults.length_le, hdistinct.mpr hkeys, hcounts, ?_⟩
    rw [hcounts.hasCritical_iff]
    simp only [Fault.activeAt, Bool.and_eq_true, beq_iff_eq]

/-- A report keeps the keys distinct. -/
theorem KeysDistinct.report {fm : FaultManager} (h : KeysDistinct fm)
    (sourceNode faultCode severity : UInt8) :
    KeysDistinct (faultManagerReport fm sourceNode faultCode severity).1 := by
  have hmove := faultManagerReport_move fm sourceNode faultCode severity
  generalize (faultManagerReport fm sourceNode faultCode severity).1 = reported at hmove ⊢
  unfold KeysDistinct at h ⊢
  cases hmove with
  | @renewed before after f _ _ hentries _ _ _ _ hrenewed =>
    have hkeys : reported.faults.entries.map Fault.key = fm.faults.entries.map Fault.key := by
      rw [hrenewed, hentries, List.map_append, List.map_append, List.map_cons, List.map_cons]
      rfl
    rw [hkeys]
    exact h
  | appended hnew _ _ _ happended =>
    rw [happended, List.map_append, List.nodup_append]
    refine ⟨h, List.nodup_singleton _, ?_⟩
    intro key hkey key' hkey' heq
    obtain ⟨f, hf, rfl⟩ := List.mem_map.mp hkey
    have hfound : f.hasKey sourceNode faultCode = true := by
      rw [Fault.hasKey_iff, heq]
      exact List.mem_singleton.mp hkey'
    rw [hnew f hf] at hfound
    exact absurd hfound Bool.false_ne_true
  | dropped => exact h

/-- Clearing one key keeps the keys distinct. -/
theorem KeysDistinct.clear {fm : FaultManager} (h : KeysDistinct fm)
    (sourceNode faultCode : UInt8) : KeysDistinct (faultManagerClear fm sourceNode faultCode) := by
  have hmove := faultManagerClear_move fm sourceNode faultCode
  generalize faultManagerClear fm sourceNode faultCode = cleared at hmove ⊢
  unfold KeysDistinct at h ⊢
  cases hmove with
  | @cleared before after f _ hentries _ _ _ _ hcleared =>
    have hkeys : cleared.faults.entries.map Fault.key = fm.faults.entries.map Fault.key := by
      rw [hcleared, hentries, List.map_append, List.map_append, List.map_cons, List.map_cons]
      rfl
    rw [hkeys]
    exact h
  | missed => exact h

/-- Clearing by a test keeps the keys distinct. -/
theorem KeysDistinct.clearWhere {fm : FaultManager} (h : KeysDistinct fm) (test : Fault → Bool) :
    KeysDistinct (fm.clearWhere test) := by
  have hkeys : (fm.clearWhere test).faults.entries.map Fault.key =
      fm.faults.entries.map Fault.key := by
    rw [FaultManager.clearWhere, Core.Table.entries_map, List.map_map]
    apply List.map_congr_left
    intro f _
    rw [Function.comp_apply]
    split <;> rfl
  rw [KeysDistinct, hkeys]
  exact h

/-- With distinct keys an entry of the key is the entry of the key. -/
theorem KeysDistinct.forall_hasKey_iff {fm : FaultManager} (h : KeysDistinct fm)
    {before after : List Fault} {f : Fault} {sourceNode faultCode : UInt8} {P : Fault → Prop}
    (hentries : fm.faults.entries = before ++ f :: after)
    (hkey : f.hasKey sourceNode faultCode = true) :
    (∀ g ∈ fm.faults.entries, g.hasKey sourceNode faultCode = true → P g) ↔ P f := by
  constructor
  · intro hall
    exact hall f (by simp [hentries]) hkey
  · intro hf g hg hkey'
    have heq : g = f := by
      apply List.inj_on_of_nodup_map h hg (by simp [hentries])
      rw [Fault.hasKey_iff.mp hkey', Fault.hasKey_iff.mp hkey]
    exact heq ▸ hf

/-- The two severities are of one level: both critical, both warnings, or neither. -/
def SameLevel (severity severity' : UInt8) : Prop :=
  (severity = 2 ↔ severity' = 2) ∧ (severity = 1 ↔ severity' = 1)

/-- Deactivating an active entry takes it out of the count of its severity. -/
theorem countP_deactivate (level : UInt8) (before after : List Fault) {f : Fault}
    (hactive : f.active = true) :
    (before ++ { f with active := false } :: after).countP (Fault.activeAt level) +
        (if f.severity == level then 1 else 0) =
      (before ++ f :: after).countP (Fault.activeAt level) := by
  have hcleared : ({ f with active := false } : Fault).activeAt level = false := rfl
  have hold : f.activeAt level = (f.severity == level) := by simp [Fault.activeAt, hactive]
  rw [List.countP_append, List.countP_append, List.countP_cons, List.countP_cons, hcleared, hold,
    if_neg Bool.false_ne_true]
  omega

/-- Counting down a counter that covers what is taken away does not wrap. -/
theorem toNat_count_sub {count : UInt8} {b : Bool} (h : (if b then 1 else 0) ≤ count.toNat) :
    (count - (if b then 1 else 0)).toNat = count.toNat - (if b then 1 else 0) := by
  cases b with
  | false => simp
  | true =>
    have hone : (1 : UInt8).toNat = 1 := rfl
    rw [if_pos rfl, if_pos rfl, UInt8.toNat_sub_of_le]
    · rfl
    · rw [UInt8.le_iff_toNat_le, hone]
      simpa using h

/-- Clearing one key keeps the counters in step with the table. -/
theorem CountsMatch.clear {fm : FaultManager} (h : CountsMatch fm)
    (sourceNode faultCode : UInt8) : CountsMatch (faultManagerClear fm sourceNode faultCode) := by
  have hmove := faultManagerClear_move fm sourceNode faultCode
  generalize faultManagerClear fm sourceNode faultCode = cleared at hmove ⊢
  cases hmove with
  | @cleared before after f _ hentries _ hactive hcritical hwarning hcleared =>
    obtain ⟨hdown2, hdown1⟩ := countDown_counts fm f.severity
    have hcount2 := countP_deactivate 2 before after hactive
    have hcount1 := countP_deactivate 1 before after hactive
    rw [← hentries, ← hcleared] at hcount2 hcount1
    have hcritical' := h.critical
    have hwarning' := h.warning
    constructor
    · rw [hcritical, hdown2, toNat_count_sub (by omega)]
      omega
    · rw [hwarning, hdown1, toNat_count_sub (by omega)]
      omega
  | missed => exact h

/-- Behind a report the counters match the table exactly when the report does not renew an
active entry with a severity of another level. -/
theorem countsMatch_report_iff {fm : FaultManager} (hkeys : KeysDistinct fm) (h : CountsMatch fm)
    (sourceNode faultCode severity : UInt8) :
    CountsMatch (faultManagerReport fm sourceNode faultCode severity).1 ↔
      ∀ f ∈ fm.faults.entries, f.hasKey sourceNode faultCode = true →
        f.active = true → SameLevel f.severity severity := by
  have hmove := faultManagerReport_move fm sourceNode faultCode severity
  generalize (faultManagerReport fm sourceNode faultCode severity).1 = reported at hmove ⊢
  cases hmove with
  | @renewed before after f counted _ hentries hkey hcounted hcritical hwarning hrenewed =>
    rw [hkeys.forall_hasKey_iff hentries hkey]
    cases hactive : f.active with
    | true =>
      rw [hactive, if_pos rfl] at hcounted
      rw [hcounted] at hcritical hwarning
      rw [h.renewed_active_iff hactive hentries hcritical hwarning hrenewed]
      exact ⟨fun hlevel _ => hlevel, fun hlevel => hlevel rfl⟩
    | false =>
      rw [hactive, if_neg Bool.false_ne_true] at hcounted
      rw [hcounted] at hcritical hwarning
      exact iff_of_true (h.renewed_inactive hactive hentries hcritical hwarning hrenewed)
        fun hinactive => absurd hinactive Bool.false_ne_true
  | appended hnew _ hcritical hwarning happended =>
    refine iff_of_true (h.appended hcritical hwarning happended) fun f hf hkey => ?_
    rw [hnew f hf] at hkey
    exact absurd hkey Bool.false_ne_true
  | dropped hnew hfull =>
    refine iff_of_true h fun f hf hkey => ?_
    rw [hnew f hf] at hkey
    exact absurd hkey Bool.false_ne_true

/-- The call does not renew an active entry with a severity of another level. -/
def KeepsLevel (fm : FaultManager) : FaultOp → Prop
  | .report sourceNode faultCode severity =>
    ∀ f ∈ fm.faults.entries, f.hasKey sourceNode faultCode = true →
      f.active = true → SameLevel f.severity severity
  | _ => True

/-- From an exact table a call leads to an exact table exactly when it keeps the level of the
active entry it renews. -/
theorem faultTableExact_step_iff {fm : FaultManager} (h : FaultTableExact fm) (op : FaultOp) :
    FaultTableExact (faultStep fm op) ↔ KeepsLevel fm op := by
  obtain ⟨hkeys, hcounts⟩ := faultTableExact_iff.mp h
  cases op with
  | report sourceNode faultCode severity =>
    rw [faultTableExact_iff]
    show KeysDistinct (faultManagerReport fm sourceNode faultCode severity).1 ∧ _ ↔ _
    rw [and_iff_right (hkeys.report sourceNode faultCode severity)]
    exact countsMatch_report_iff hkeys hcounts sourceNode faultCode severity
  | clear sourceNode faultCode =>
    refine iff_of_true (faultTableExact_iff.mpr ⟨?_, ?_⟩) trivial
    · exact hkeys.clear sourceNode faultCode
    · exact hcounts.clear sourceNode faultCode
  | clearNode sourceNode =>
    refine iff_of_true (faultTableExact_iff.mpr ⟨?_, ?_⟩) trivial
    · exact hkeys.clearWhere _
    · exact hcounts.clearWhere _
  | clearAll =>
    refine iff_of_true (faultTableExact_iff.mpr ⟨?_, ?_⟩) trivial
    · exact hkeys.clearWhere _
    · exact hcounts.clearWhere _

/-- The empty table is exact. -/
theorem faultTableExact_init : FaultTableExact faultManagerInit :=
  faultTableExact_iff.mpr ⟨List.nodup_nil, rfl, rfl⟩

/-- The table is exact in every state along a history exactly when no report of the history
renews an active entry with a severity of another level. -/
theorem faultTable_exact_along_iff (ops : List FaultOp) :
    (∀ before, before <+: ops → FaultTableExact (Core.run faultStep faultManagerInit before)) ↔
      Core.StepsMeet faultStep KeepsLevel faultManagerInit ops := by
  rw [Core.forall_prefix_iff, and_iff_right faultTableExact_init]
  exact Core.stepsMeet_congr (I := FaultTableExact)
    (fun fm op h => faultTableExact_step_iff h op) (fun _ _ _ h => h) faultTableExact_init ops

/-- A critical fault reported again as a warning is still announced as critical, and neither
counter is the number of its entries. -/
theorem faultTable_relevelled_not_exact :
    ¬ FaultTableExact
      (Core.run faultStep faultManagerInit [.report 3 1 2, .report 3 1 1]) := by
  intro h
  have hcritical : (1 : Nat) = 0 := h.counts.critical
  exact absurd hcritical Nat.one_ne_zero

end Microcar.Gateway
