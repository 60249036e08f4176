import Microcar.Dashboard.Firmware

/-!
# Histories of dashboard warnings

Warnings are added, cleared by their code and cleared by their node, in any order. Entries are
never removed and never move, so the index order is the order of insertion, and an entry is
active exactly when its pair was added since the last clear that matched it. The scan for the
top warning finds the earliest of the most severe active entries. The shown warning follows the
same frames without a memory; it agrees with the scan until a full table drops a warning that
is more severe than the shown one.
-/

namespace Microcar.Dashboard

/-- A call that changes the warnings. -/
inductive WarningOp where
  /-- `dashboard_state_add_warning`. -/
  | add (warningCode sourceNode : UInt8)
  /-- `dashboard_state_clear_warning`. -/
  | clear (warningCode : UInt8)
  /-- `dashboard_state_clear_node_warnings`. -/
  | clearNode (sourceNode : UInt8)
  deriving DecidableEq, Repr

/-- Perform one call. -/
def warningStep (ds : DashboardState) : WarningOp → DashboardState
  | .add warningCode sourceNode => dashboardStateAddWarning ds warningCode sourceNode
  | .clear warningCode => dashboardStateClearWarning ds warningCode
  | .clearNode sourceNode => dashboardStateClearNodeWarnings ds sourceNode

/-- The state behind a history of calls. -/
def warningRun (ops : List WarningOp) : DashboardState :=
  Core.run warningStep dashboardStateInit ops

/-- Code and source of a warning. -/
def DashboardWarning.key (w : DashboardWarning) : UInt8 × UInt8 := (w.warningCode, w.sourceNode)

/-- The pairs of the table in index order. -/
def DashboardState.keys (ds : DashboardState) : List (UInt8 × UInt8) :=
  ds.warnings.entries.map DashboardWarning.key

/-- A warning has a key exactly when code and source are those of the key. -/
theorem DashboardWarning.hasKey_iff {w : DashboardWarning} {warningCode sourceNode : UInt8} :
    w.hasKey warningCode sourceNode = true ↔ w.key = (warningCode, sourceNode) := by
  rw [DashboardWarning.hasKey, Bool.and_eq_true, beq_iff_eq, beq_iff_eq, DashboardWarning.key,
    Prod.mk.injEq]

/-! ### One call -/

/-- The call is a clear that matches a pair by its code or by its node. -/
def WarningOp.clears (warningCode sourceNode : UInt8) : WarningOp → Bool
  | .add _ _ => false
  | .clear code => code == warningCode
  | .clearNode node => node == sourceNode

/-- What a call does to a tracked warning. -/
def WarningOp.touch (op : WarningOp) (w : DashboardWarning) : DashboardWarning :=
  if op = .add w.warningCode w.sourceNode then { w with active := true }
  else if op.clears w.warningCode w.sourceNode then { w with active := false }
  else w

theorem WarningOp.touch_key (op : WarningOp) (w : DashboardWarning) : (op.touch w).key = w.key := by
  unfold WarningOp.touch
  split
  · rfl
  · split <;> rfl

/-- A touched warning is active when it is added, or was active and is not cleared. -/
theorem WarningOp.touch_active (op : WarningOp) (w : DashboardWarning) :
    (op.touch w).active = true ↔ op = .add w.warningCode w.sourceNode ∨
      (w.active = true ∧ op.clears w.warningCode w.sourceNode = false) := by
  unfold WarningOp.touch
  by_cases hadd : op = .add w.warningCode w.sourceNode
  · simp [hadd]
  · by_cases hclear : op.clears w.warningCode w.sourceNode = true
    · simp [hadd, hclear]
    · simp [hadd, hclear]

/-- Everything a call can do to a table with distinct pairs: it touches every entry, and an
addition of a new pair appends it while there is room. -/
inductive WarningMoves (ds : DashboardState) (op : WarningOp) : List DashboardWarning → Prop
  | touched : WarningMoves ds op (ds.warnings.entries.map op.touch)
  | appended {warningCode sourceNode : UInt8} (hop : op = .add warningCode sourceNode)
      (hnew : (warningCode, sourceNode) ∉ ds.keys) :
      WarningMoves ds op (ds.warnings.entries.map op.touch ++ [⟨warningCode, true, sourceNode⟩])

theorem touch_add (warningCode sourceNode : UInt8) (w : DashboardWarning) :
    (WarningOp.add warningCode sourceNode).touch w =
      if w.hasKey warningCode sourceNode then { w with active := true } else w := by
  have hkey : (WarningOp.add warningCode sourceNode = .add w.warningCode w.sourceNode) ↔
      w.hasKey warningCode sourceNode = true := by
    rw [DashboardWarning.hasKey_iff, WarningOp.add.injEq, DashboardWarning.key, Prod.mk.injEq,
      eq_comm, eq_comm (a := sourceNode)]
  rw [WarningOp.touch, if_congr hkey rfl rfl]
  rfl

theorem touch_clear (warningCode : UInt8) (w : DashboardWarning) :
    (WarningOp.clear warningCode).touch w =
      if w.warningCode == warningCode then { w with active := false } else w := by
  rw [WarningOp.touch, if_neg nofun, WarningOp.clears, BEq.comm]

theorem touch_clearNode (sourceNode : UInt8) (w : DashboardWarning) :
    (WarningOp.clearNode sourceNode).touch w =
      if w.sourceNode == sourceNode then { w with active := false } else w := by
  rw [WarningOp.touch, if_neg nofun, WarningOp.clears, BEq.comm]

/-- An addition touches nothing where the pair is new. -/
theorem map_touch_of_new {ds : DashboardState} {warningCode sourceNode : UInt8}
    (hnew : ∀ w ∈ ds.warnings.entries, w.hasKey warningCode sourceNode = false) :
    ds.warnings.entries.map (WarningOp.add warningCode sourceNode).touch =
      ds.warnings.entries := by
  have hid : ∀ w ∈ ds.warnings.entries,
      (WarningOp.add warningCode sourceNode).touch w = id w := by
    intro w hw
    rw [touch_add, hnew w hw]
    rfl
  rw [List.map_congr_left hid, List.map_id]

theorem warningStep_moves {ds : DashboardState} (hdistinct : ds.keys.Nodup) (op : WarningOp) :
    WarningMoves ds op (warningStep ds op).warnings.entries := by
  cases op with
  | add warningCode sourceNode =>
    have hmove := dashboardStateAddWarning_move ds warningCode sourceNode
    rw [warningStep]
    generalize dashboardStateAddWarning ds warningCode sourceNode = added at hmove ⊢
    cases hmove with
    | renewed =>
      -- the pairs are distinct, so the first match of the scan is the only one
      have hkey : ∀ v w : DashboardWarning, v.hasKey warningCode sourceNode = true →
          (w.hasKey warningCode sourceNode = true ↔ w.key = v.key) := by
        intro v w hv
        rw [DashboardWarning.hasKey_iff, DashboardWarning.hasKey_iff.mp hv]
      rw [Core.Table.entries_modify, Core.modifyFirst_eq_map hkey _ hdistinct,
        ← funext (touch_add warningCode sourceNode)]
      exact .touched
    | appended hnew _ hentries =>
      rw [hentries, ← map_touch_of_new hnew]
      refine .appended rfl fun hmem => ?_
      obtain ⟨w, hw, hkey⟩ := List.mem_map.mp hmem
      have hfound := hnew w hw
      rw [DashboardWarning.hasKey_iff.mpr hkey] at hfound
      cases hfound
    | dropped hnew =>
      rw [← map_touch_of_new hnew]
      exact .touched
  | clear warningCode =>
    have hmap : (warningStep ds (.clear warningCode)).warnings.entries =
        ds.warnings.entries.map (WarningOp.clear warningCode).touch := by
      rw [funext (touch_clear warningCode)]
      rfl
    rw [hmap]
    exact .touched
  | clearNode sourceNode =>
    have hmap : (warningStep ds (.clearNode sourceNode)).warnings.entries =
        ds.warnings.entries.map (WarningOp.clearNode sourceNode).touch := by
      rw [funext (touch_clearNode sourceNode)]
      rfl
    rw [hmap]
    exact .touched

/-! ### Whole histories -/

/-- The pair was added and no later clear matches it. -/
def AddedSinceClear (ops : List WarningOp) (warningCode sourceNode : UInt8) : Prop :=
  ∃ before after, ops = before ++ .add warningCode sourceNode :: after ∧
    ∀ op ∈ after, op.clears warningCode sourceNode = false

/-- The last call decides, or it does not matter. -/
theorem addedSinceClear_snoc {ops : List WarningOp} {op : WarningOp}
    {warningCode sourceNode : UInt8} :
    AddedSinceClear (ops ++ [op]) warningCode sourceNode ↔
      op = .add warningCode sourceNode ∨
        (AddedSinceClear ops warningCode sourceNode ∧
          op.clears warningCode sourceNode = false) := by
  constructor
  · rintro ⟨before, after, hsplit, hafter⟩
    rcases List.eq_nil_or_concat after with rfl | ⟨rest, last, rfl⟩
    · exact .inl (List.append_inj_right' hsplit rfl |> List.singleton_inj.mp)
    · rw [List.concat_eq_append, ← List.cons_append, ← List.append_assoc] at hsplit
      rw [List.concat_eq_append] at hafter
      obtain ⟨rfl, hlast⟩ := List.append_inj' hsplit rfl
      obtain rfl := List.singleton_inj.mp hlast
      refine .inr ⟨⟨before, rest, rfl, fun x hx => hafter x (List.mem_append_left _ hx)⟩, ?_⟩
      exact hafter op (List.mem_append_right _ (List.mem_singleton_self op))
  · rintro (rfl | ⟨⟨before, after, rfl, hafter⟩, hkept⟩)
    · exact ⟨ops, [], rfl, fun _ hx => absurd hx List.not_mem_nil⟩
    · refine ⟨before, after ++ [op], by simp, fun x hx => ?_⟩
      rcases List.mem_append.mp hx with hx | hx
      · exact hafter x hx
      · rw [List.mem_singleton.mp hx]
        exact hkept

/-- The table behind a history: distinct pairs, active exactly where the history says so. -/
structure TracksHistory (ops : List WarningOp) (ds : DashboardState) : Prop where
  /-- No two entries share code and source. -/
  distinct : ds.keys.Nodup
  /-- An entry is active when its pair was added since it was last cleared. -/
  active_iff : ∀ w ∈ ds.warnings.entries,
    w.active = true ↔ AddedSinceClear ops w.warningCode w.sourceNode

theorem map_key_map_touch (op : WarningOp) (entries : List DashboardWarning) :
    (entries.map op.touch).map DashboardWarning.key = entries.map DashboardWarning.key := by
  rw [List.map_map]
  exact List.map_congr_left fun w _ => op.touch_key w

/-- A call keeps the pairs where they are. -/
theorem keys_warningStep {ds : DashboardState} (hdistinct : ds.keys.Nodup) (op : WarningOp) :
    ds.keys <+: (warningStep ds op).keys ∧ (warningStep ds op).keys.Nodup := by
  have hmoves := warningStep_moves hdistinct op
  unfold DashboardState.keys
  generalize (warningStep ds op).warnings.entries = entries at hmoves ⊢
  cases hmoves with
  | touched =>
    rw [map_key_map_touch]
    exact ⟨List.prefix_refl _, hdistinct⟩
  | appended hop hnew =>
    rw [List.map_append, map_key_map_touch]
    refine ⟨List.prefix_append _ _, List.nodup_append.mpr ⟨hdistinct, List.nodup_singleton _, ?_⟩⟩
    rintro key hkey _ hsingle rfl
    rw [List.mem_singleton.mp hsingle] at hkey
    exact hnew hkey

/-- A call appended to the history. -/
theorem TracksHistory.snoc {ops : List WarningOp} {ds : DashboardState}
    (h : TracksHistory ops ds) (op : WarningOp) :
    TracksHistory (ops ++ [op]) (warningStep ds op) := by
  refine ⟨(keys_warningStep h.distinct op).2, fun w hw => ?_⟩
  have htouched : ∀ v ∈ ds.warnings.entries.map op.touch,
      v.active = true ↔ AddedSinceClear (ops ++ [op]) v.warningCode v.sourceNode := by
    intro v hv
    obtain ⟨u, hu, rfl⟩ := List.mem_map.mp hv
    obtain ⟨hcode, hsource⟩ := Prod.mk.inj (op.touch_key u)
    rw [hcode, hsource, op.touch_active, addedSinceClear_snoc, h.active_iff u hu]
  have hmoves := warningStep_moves h.distinct op
  generalize (warningStep ds op).warnings.entries = entries at hmoves hw
  cases hmoves with
  | touched => exact htouched w hw
  | appended hop hnew =>
    rcases List.mem_append.mp hw with hw | hw
    · exact htouched w hw
    · rw [List.mem_singleton.mp hw]
      exact iff_of_true rfl (addedSinceClear_snoc.mpr (.inl hop))

theorem warningRun_snoc (ops : List WarningOp) (op : WarningOp) :
    warningRun (ops ++ [op]) = warningStep (warningRun ops) op :=
  Core.run_snoc warningStep dashboardStateInit ops op

theorem tracksHistory_run (ops : List WarningOp) : TracksHistory ops (warningRun ops) := by
  induction ops using List.reverseRecOn with
  | nil => exact ⟨List.nodup_nil, fun _ hw => absurd hw List.not_mem_nil⟩
  | append_singleton ops op ih =>
    rw [warningRun_snoc]
    exact ih.snoc op

/-- The pairs never move and never leave the table. -/
theorem keys_prefix_run (ops more : List WarningOp) :
    (warningRun ops).keys <+: (warningRun (ops ++ more)).keys := by
  induction more using List.reverseRecOn with
  | nil =>
    rw [List.append_nil]
  | append_singleton more op ih =>
    rw [← List.append_assoc, warningRun_snoc]
    exact ih.trans (keys_warningStep (tracksHistory_run (ops ++ more)).distinct op).1

/-- An added pair is in the table, unless the table is full. -/
theorem mem_keys_add_or_full (ds : DashboardState) (warningCode sourceNode : UInt8) :
    (warningCode, sourceNode) ∈ (warningStep ds (.add warningCode sourceNode)).keys ∨
      dashboardMaxWarnings ≤
        (warningStep ds (.add warningCode sourceNode)).warnings.entries.length := by
  have hmove := dashboardStateAddWarning_move ds warningCode sourceNode
  rw [warningStep]
  generalize dashboardStateAddWarning ds warningCode sourceNode = added at hmove ⊢
  cases hmove with
  | renewed hkey =>
    obtain ⟨w, hw, hfound⟩ := hkey
    have hkeys := @Core.map_modifyFirst _ _ (DashboardWarning.hasKey warningCode sourceNode)
      (fun w => { w with active := true }) DashboardWarning.key (fun _ _ => rfl) ds.warnings.entries
    refine .inl ?_
    rw [DashboardState.keys, Core.Table.entries_modify, hkeys]
    exact List.mem_map.mpr ⟨w, hw, DashboardWarning.hasKey_iff.mp hfound⟩
  | appended _ _ hentries =>
    refine .inl ?_
    rw [DashboardState.keys, hentries, List.map_append]
    exact List.mem_append_right _ (List.mem_singleton_self _)
  | dropped _ hfull => exact .inr hfull

/-- A pair that was ever added is in the table, unless the table is full. -/
theorem mem_keys_or_full {ops : List WarningOp} {warningCode sourceNode : UInt8}
    (h : .add warningCode sourceNode ∈ ops) :
    (warningCode, sourceNode) ∈ (warningRun ops).keys ∨
      (warningRun ops).warnings.entries.length = dashboardMaxWarnings := by
  obtain ⟨before, after, rfl⟩ := List.append_of_mem h
  have hsplit : before ++ .add warningCode sourceNode :: after =
      before ++ [.add warningCode sourceNode] ++ after := by simp
  have hkept := keys_prefix_run (before ++ [.add warningCode sourceNode]) after
  have hlength := hkept.length_le
  rw [← hsplit] at hkept hlength
  rw [DashboardState.keys, DashboardState.keys, List.length_map, List.length_map] at hlength
  have hadded := mem_keys_add_or_full (warningRun before) warningCode sourceNode
  rw [← warningRun_snoc] at hadded
  rcases hadded with hkey | hfull
  · exact .inl (hkept.subset hkey)
  · exact .inr (Nat.le_antisymm (warningRun _).warnings.length_le (hfull.trans hlength))

/-! ### The top warning -/

/-- Both switches over the codes agree. -/
theorem topWarningSeverity_eq (warningCode : UInt8) :
    topWarningSeverity warningCode = warningDisplaySeverityFor warningCode := rfl

/-- The code of the earliest of the active entries of maximal severity, and none where no
active entry has a severity. -/
inductive IsTopWarning (entries : List DashboardWarning) : UInt8 → Prop
  | none (hzero : ∀ w ∈ entries, w.active = true → warningDisplaySeverityFor w.warningCode = 0) :
      IsTopWarning entries mcWarnNone
  | some {before after : List DashboardWarning} {w : DashboardWarning}
      (hentries : entries = before ++ w :: after) (hactive : w.active = true)
      (hsevere : 0 < warningDisplaySeverityFor w.warningCode)
      (hmax : ∀ v ∈ entries, v.active = true →
        warningDisplaySeverityFor v.warningCode ≤ warningDisplaySeverityFor w.warningCode)
      (hearliest : ∀ v ∈ before, v.active = true →
        warningDisplaySeverityFor v.warningCode < warningDisplaySeverityFor w.warningCode) :
      IsTopWarning entries w.warningCode

/-- No active entry is more severe than the top warning. -/
theorem IsTopWarning.severity_le {entries : List DashboardWarning} {code : UInt8}
    (h : IsTopWarning entries code) {w : DashboardWarning} (hw : w ∈ entries)
    (hactive : w.active = true) :
    warningDisplaySeverityFor w.warningCode ≤ warningDisplaySeverityFor code := by
  cases h with
  | none hzero =>
    rw [hzero w hw hactive]
    exact UInt8.zero_le
  | some _ _ _ hmax _ => exact hmax w hw hactive

/-- An entry that the scan passes over does not change the top warning. -/
theorem IsTopWarning.skip {entries : List DashboardWarning} {code : UInt8}
    (h : IsTopWarning entries code) {w : DashboardWarning}
    (hskip : w.active = true →
      warningDisplaySeverityFor w.warningCode ≤ warningDisplaySeverityFor code) :
    IsTopWarning (entries ++ [w]) code := by
  cases h with
  | none hzero =>
    refine .none fun v hv hactive => ?_
    rcases List.mem_append.mp hv with hv | hv
    · exact hzero v hv hactive
    · rw [List.mem_singleton.mp hv] at hactive ⊢
      exact UInt8.le_antisymm (hskip hactive) UInt8.zero_le
  | @some before after u hentries hactive hsevere hmax hearliest =>
    have hsplit : entries ++ [w] = before ++ u :: (after ++ [w]) := by
      rw [hentries, List.append_assoc, List.cons_append]
    refine .some hsplit hactive hsevere ?_ hearliest
    intro v hv hvactive
    rcases List.mem_append.mp hv with hv | hv
    · exact hmax v hv hvactive
    · rw [List.mem_singleton.mp hv] at hvactive ⊢
      exact hskip hvactive

/-- The scan finds the top warning and its severity. -/
theorem topWarningScan_spec (entries : List DashboardWarning) :
    IsTopWarning entries (entries.foldl topWarningScan (mcWarnNone, 0)).1 ∧
      (entries.foldl topWarningScan (mcWarnNone, 0)).2 =
        warningDisplaySeverityFor (entries.foldl topWarningScan (mcWarnNone, 0)).1 := by
  induction entries using List.reverseRecOn with
  | nil => exact ⟨.none fun _ hw => absurd hw List.not_mem_nil, rfl⟩
  | append_singleton entries w ih =>
    rw [List.foldl_append, List.foldl_cons, List.foldl_nil]
    generalize entries.foldl topWarningScan (mcWarnNone, 0) = top at ih ⊢
    obtain ⟨htop, hseverity⟩ := ih
    rw [topWarningScan, topWarningSeverity_eq, hseverity]
    by_cases hactive : w.active = false
    · rw [if_pos hactive]
      refine ⟨htop.skip fun h => ?_, hseverity⟩
      rw [hactive] at h
      cases h
    · rw [if_neg hactive]
      rw [Bool.not_eq_false] at hactive
      by_cases hsevere : warningDisplaySeverityFor top.1 < warningDisplaySeverityFor w.warningCode
      · rw [if_pos hsevere]
        have hbelow : ∀ v ∈ entries, v.active = true →
            warningDisplaySeverityFor v.warningCode < warningDisplaySeverityFor w.warningCode :=
          fun v hv hvactive => UInt8.lt_of_le_of_lt (htop.severity_le hv hvactive) hsevere
        refine ⟨.some rfl hactive (UInt8.lt_of_le_of_lt UInt8.zero_le hsevere) ?_ hbelow, rfl⟩
        intro v hv hvactive
        rcases List.mem_append.mp hv with hv | hv
        · exact UInt8.le_of_lt (hbelow v hv hvactive)
        · rw [List.mem_singleton.mp hv]
          exact UInt8.le_refl _
      · rw [if_neg hsevere]
        exact ⟨htop.skip fun _ => UInt8.not_lt.mp hsevere, hseverity⟩

/-- The warning table behind every history: its fill count is bounded and never decreases, the
pairs are distinct and keep their places, every pair that was added is among them unless the table
is full, an entry is active exactly when its pair was added since the last clear that matched it,
and the top warning is the earliest of the most severe active entries. -/
theorem warningTable_along_history (ops more : List WarningOp) :
    (warningRun ops).warnings.entries.length ≤ dashboardMaxWarnings ∧
      (warningRun ops).warnings.entries.length ≤
        (warningRun (ops ++ more)).warnings.entries.length ∧
      (warningRun ops).keys <+: (warningRun (ops ++ more)).keys ∧
      (warningRun ops).keys.Nodup ∧
      (∀ warningCode sourceNode, .add warningCode sourceNode ∈ ops →
        (warningCode, sourceNode) ∈ (warningRun ops).keys ∨
          (warningRun ops).warnings.entries.length = dashboardMaxWarnings) ∧
      (∀ w ∈ (warningRun ops).warnings.entries,
        w.active = true ↔ AddedSinceClear ops w.warningCode w.sourceNode) ∧
      IsTopWarning (warningRun ops).warnings.entries
        (dashboardStateTopWarning (warningRun ops)) := by
  have hprefix := keys_prefix_run ops more
  have hlength := hprefix.length_le
  rw [DashboardState.keys, DashboardState.keys, List.length_map, List.length_map] at hlength
  obtain ⟨hdistinct, hactive⟩ := tracksHistory_run ops
  exact ⟨(warningRun ops).warnings.length_le, hlength, hprefix, hdistinct,
    fun _ _ => mem_keys_or_full, hactive, (topWarningScan_spec _).1⟩

/-! ### The shown warning -/

/-- The shown warning is the top warning. -/
def ViewsAgree (ctx : DashboardCtx) : Prop :=
  ctx.wd.displayedWarning = dashboardStateTopWarning ctx.ds

/-- The table takes the warning of a frame, or the frame is not more severe than what is
shown. -/
def WarningTaken (ctx : DashboardCtx) (frame : McCanFrame) : Prop :=
  (∃ w ∈ ctx.ds.warnings.entries, w.hasKey (frame.data.get 1) (frame.data.get 0) = true) ∨
    ctx.ds.warnings.entries.length < dashboardMaxWarnings ∨
    warningDisplaySeverityFor (frame.data.get 1) ≤ ctx.wd.severity

/-- The two views hold the same warning at the same severity, and every entry is active. -/
structure ViewsInStep (ctx : DashboardCtx) : Prop where
  /-- No frame deactivates an entry. -/
  active : ∀ w ∈ ctx.ds.warnings.entries, w.active = true
  /-- The scan ends with the shown warning. -/
  scan : ctx.ds.warnings.entries.foldl topWarningScan (mcWarnNone, 0) =
    (ctx.wd.displayedWarning, ctx.wd.severity)

theorem ViewsInStep.agree {ctx : DashboardCtx} (h : ViewsInStep ctx) : ViewsAgree ctx := by
  rw [ViewsAgree, dashboardStateTopWarning, h.scan]

/-- The shown severity is that of the shown warning, and no entry exceeds it. -/
theorem ViewsInStep.severity {ctx : DashboardCtx} (h : ViewsInStep ctx) :
    ctx.wd.severity = warningDisplaySeverityFor ctx.wd.displayedWarning ∧
      ∀ w ∈ ctx.ds.warnings.entries,
        warningDisplaySeverityFor w.warningCode ≤ ctx.wd.severity := by
  have hspec := topWarningScan_spec ctx.ds.warnings.entries
  rw [h.scan] at hspec
  obtain ⟨htop, hseverity⟩ := hspec
  dsimp only at hseverity
  refine ⟨hseverity, fun w hw => ?_⟩
  rw [hseverity]
  exact htop.severity_le hw (h.active w hw)

/-- A warning that is not more severe leaves the shown one. -/
theorem warningDisplayUpdate_of_le {wd : WarningDisplay} {warningCode severity : UInt8}
    (h : severity ≤ wd.severity) : warningDisplayUpdate wd warningCode severity = wd := by
  rw [warningDisplayUpdate, if_neg (UInt8.not_lt.mpr h)]

/-- A warning that the table takes keeps the views in step. -/
theorem ViewsInStep.handleWarning {ctx : DashboardCtx} (h : ViewsInStep ctx)
    {frame : McCanFrame} (htaken : WarningTaken ctx frame) :
    ViewsInStep (handleWarning ctx frame) := by
  refine ⟨forall_mem_addWarning h.active (fun _ _ => rfl) rfl, ?_⟩
  have hmove := dashboardStateAddWarning_move ctx.ds (frame.data.get 1) (frame.data.get 0)
  rw [Dashboard.handleWarning]
  generalize dashboardStateAddWarning ctx.ds (frame.data.get 1) (frame.data.get 0) = added
    at hmove ⊢
  cases hmove with
  | renewed hkey =>
    -- a tracked pair is active already and not more severe than what is shown
    have hsame : Core.modifyFirst (DashboardWarning.hasKey (frame.data.get 1) (frame.data.get 0))
        (fun w => { w with active := true }) ctx.ds.warnings.entries =
          ctx.ds.warnings.entries := by
      apply Core.modifyFirst_eq_self
      intro w hw _
      rw [← h.active w hw]
    obtain ⟨w, hw, hfound⟩ := hkey
    have hle := h.severity.2 w hw
    rw [(Prod.mk.inj (DashboardWarning.hasKey_iff.mp hfound)).1] at hle
    rw [Core.Table.entries_modify, hsame, h.scan, warningDisplayUpdate_of_le hle]
  | appended _ _ hentries =>
    rw [hentries, List.foldl_append, h.scan, List.foldl_cons, List.foldl_nil, topWarningScan,
      if_neg (show ¬ true = false by decide), topWarningSeverity_eq, warningDisplayUpdate]
    split <;> rfl
  | dropped hnew hfull =>
    have hle : warningDisplaySeverityFor (frame.data.get 1) ≤ ctx.wd.severity := by
      rcases htaken with ⟨w, hw, hfound⟩ | hroom | hle
      · rw [hnew w hw] at hfound
        cases hfound
      · exact absurd hroom (Nat.not_lt.mpr hfull)
      · exact hle
    rw [h.scan, warningDisplayUpdate_of_le hle]

/-- Behind a more severe warning that the table drops the views differ. -/
theorem ViewsInStep.taken_of_agree {ctx : DashboardCtx} (h : ViewsInStep ctx)
    {frame : McCanFrame} (hagree : ViewsAgree (Dashboard.handleWarning ctx frame)) :
    WarningTaken ctx frame := by
  by_contra htaken
  simp only [WarningTaken, not_or, not_exists, not_and, Bool.not_eq_true, Nat.not_lt,
    UInt8.not_le] at htaken
  obtain ⟨hnew, hfull, hsevere⟩ := htaken
  have hdropped : dashboardStateAddWarning ctx.ds (frame.data.get 1) (frame.data.get 0) =
      ctx.ds := by
    have hmissing : ¬ ctx.ds.warnings.entries.any
        (DashboardWarning.hasKey (frame.data.get 1) (frame.data.get 0)) = true := by
      rw [List.any_eq_true]
      rintro ⟨w, hw, hfound⟩
      rw [hnew w hw] at hfound
      cases hfound
    have hisFull : ctx.ds.warnings.isFull = true := decide_eq_true hfull
    rw [dashboardStateAddWarning, if_neg hmissing, if_pos hisFull]
  have hshown : frame.data.get 1 = ctx.wd.displayedWarning := by
    rw [ViewsAgree, Dashboard.handleWarning, hdropped, dashboardStateTopWarning, h.scan,
      warningDisplayUpdate, if_pos hsevere] at hagree
    exact hagree
  rw [h.severity.1, hshown] at hsevere
  exact UInt8.lt_irrefl _ hsevere

theorem viewsInStep_boot (framebuffer : Framebuffer) : ViewsInStep (dashboardBoot framebuffer) :=
  ⟨fun _ hw => absurd hw List.not_mem_nil, rfl⟩

/-- From boot and for every sequence of warning frames, the shown warning is the top warning
behind every frame exactly when each frame is taken by the table or is not more severe than
what is shown. -/
theorem viewsAgree_along_iff (framebuffer : Framebuffer) (frames : List McCanFrame) :
    (∀ before, before <+: frames →
      ViewsAgree (Core.run handleWarning (dashboardBoot framebuffer) before)) ↔
      Core.StepsMeet handleWarning WarningTaken (dashboardBoot framebuffer) frames := by
  have hboot := viewsInStep_boot framebuffer
  rw [Core.forall_prefix_iff, and_iff_right hboot.agree]
  exact Core.stepsMeet_congr
    (fun ctx frame h => ⟨h.taken_of_agree, fun htaken => (h.handleWarning htaken).agree⟩)
    (fun ctx frame h hagree => h.handleWarning (h.taken_of_agree hagree)) hboot frames

/-- A warning frame with the given source and code. -/
def warningFrame (sourceNode warningCode : UInt8) : McCanFrame :=
  ((mcFrameInit mcMsgWarning mcNodeGateway 2).put 0 sourceNode).put 1 warningCode

/-- Sixteen warnings of an unlisted code fill the table; the critical fault behind them is
shown, but it is not the top warning. -/
theorem droppedCritical_not_top :
    ¬ ∀ before, before <+: ((List.range 16).map fun node => warningFrame (.ofNat node) 9) ++
        [warningFrame mcNodeBms mcWarnCriticalBmsFault] →
      ViewsAgree (Core.run handleWarning (dashboardBoot fun _ => 0) before) := by
  intro h
  have hagree := h _ (List.prefix_refl _)
  have hshown : (Core.run handleWarning (dashboardBoot fun _ => 0)
      (((List.range 16).map fun node => warningFrame (.ofNat node) 9) ++
        [warningFrame mcNodeBms mcWarnCriticalBmsFault])).wd.displayedWarning = 7 := by
    decide +kernel
  have htop : dashboardStateTopWarning (Core.run handleWarning (dashboardBoot fun _ => 0)
      (((List.range 16).map fun node => warningFrame (.ofNat node) 9) ++
        [warningFrame mcNodeBms mcWarnCriticalBmsFault])).ds = 0 := by
    decide +kernel
  rw [ViewsAgree, hshown, htop] at hagree
  exact absurd hagree (by decide)

end Microcar.Dashboard
