import Microcar.Core.Noninterference
import Microcar.Dashboard.Firmware
import Microcar.Powertrain.Firmware

/-!
# Bytes behind the payload

A received frame brings the bytes of its payload; what the receive buffer holds behind them
is left over from elsewhere. Two runs on the same payloads go through the same states as long
as no handler reads behind the payload. Three handlers read a second byte without checking
that there is one.
-/

namespace Microcar.Vehicle

open Microcar.Dashboard (DashboardCtx DashboardOp DashboardState WarningDisplay dashboardStep)
open Microcar.Powertrain (PowertrainCtx PowertrainOp powertrainStep)

/-- The frames agree on identifier, length and payload. -/
structure SamePayload (f g : RxFrame) : Prop where
  /-- Same identifier. -/
  id : g.id = f.id
  /-- Same length. -/
  len : g.len = f.len
  /-- Same bytes up to the length. -/
  data : ∀ i (hi : i < 8), i < f.len.toNat → g.data[i] = f.data[i]

theorem SamePayload.refl (f : RxFrame) : SamePayload f f := ⟨rfl, rfl, fun _ _ _ => rfl⟩

theorem SamePayload.byte {f g : RxFrame} (h : SamePayload f g) (i : Fin 8)
    (hi : i.val < f.len.toNat) : g.data.get i = f.data.get i :=
  h.data i i.isLt hi

/-- A frame carries its first byte, which is also its sender. -/
theorem SamePayload.first {f g : RxFrame} (h : SamePayload f g) : g.data.get 0 = f.data.get 0 :=
  h.byte 0 f.len_pos

theorem SamePayload.sender {f g : RxFrame} (h : SamePayload f g) : g.sender = f.sender := by
  rw [g.sender_eq, f.sender_eq, h.first]

/-- A frame that is longer than one byte carries its second. -/
theorem SamePayload.second {f g : RxFrame} (h : SamePayload f g) (hlen : f.len ≠ 1) :
    g.data.get 1 = f.data.get 1 := by
  have hpos : 0 < f.len.toNat := f.len_pos
  have hone : f.len.toNat ≠ 1 := fun hlen' => hlen (UInt8.toNat_inj.mp hlen')
  have htwo : 1 < f.len.toNat := by omega
  exact h.byte 1 htwo

/-- The frame over a buffer with another second byte. -/
def withSecond (f : RxFrame) (b : UInt8) : RxFrame :=
  .ofBuffer f.id (f.put 1 b).data f.len f.len_pos f.len_le

@[simp] theorem withSecond_second (f : RxFrame) (b : UInt8) : (withSecond f b).data.get 1 = b := by
  simp [withSecond, RxFrame.ofBuffer, McCanFrame.get_data_put]

@[simp] theorem withSecond_first (f : RxFrame) (b : UInt8) :
    (withSecond f b).data.get 0 = f.data.get 0 := by
  simp [withSecond, RxFrame.ofBuffer, McCanFrame.get_data_put]

/-- The second byte of the buffer is not part of a payload of one byte. -/
theorem samePayload_withSecond {f : RxFrame} (hlen : f.len = 1) (b : UInt8) :
    SamePayload f (withSecond f b) := by
  refine ⟨rfl, rfl, ?_⟩
  intro i hi hpayload
  rw [hlen] at hpayload
  have hzero : i = 0 := Nat.lt_one_iff.mp hpayload
  subst hzero
  exact withSecond_first f b

section Powertrain

/-- The steps agree on everything but the bytes behind a payload. -/
inductive PowertrainAlike : PowertrainOp → PowertrainOp → Prop
  | dispatch {f g : RxFrame} (h : SamePayload f g) (nowMs : UInt32) :
      PowertrainAlike (.dispatch f nowMs) (.dispatch g nowMs)
  | timer (nowMs : UInt32) : PowertrainAlike (.timer nowMs) (.timer nowMs)
  | command (nowMs : UInt32) (preempt : Powertrain.Preemption) :
      PowertrainAlike (.command nowMs preempt) (.command nowMs preempt)

theorem PowertrainAlike.refl : ∀ op, PowertrainAlike op op
  | .dispatch f nowMs => .dispatch (.refl f) nowMs
  | .timer nowMs => .timer nowMs
  | .command nowMs preempt => .command nowMs preempt

/-- The step dispatches a driver input of one byte. -/
def ShortDriverInput (op : PowertrainOp) : Prop :=
  ∃ f nowMs, op = .dispatch f nowMs ∧ f.id = mcMsgDriverInput ∧ f.len = 1

/-- A frame that is not a driver input of one byte is read within its payload. -/
theorem powertrain_dispatchFrame_congr {f g : RxFrame} (h : SamePayload f g)
    (hlong : f.id = mcMsgDriverInput → f.len ≠ 1) (ctx : PowertrainCtx) (nowMs : UInt32) :
    Powertrain.dispatchFrame ctx g.toMcCanFrame nowMs =
      Powertrain.dispatchFrame ctx f.toMcCanFrame nowMs := by
  unfold Powertrain.dispatchFrame
  rw [h.id, h.sender]
  split_ifs with hdriver hmode hlimits hbeat
  · have hgear : (if 3 ≤ g.len then g.data.get 2 else 0) =
        if 3 ≤ f.len then f.data.get 2 else 0 := by
      rw [h.len]
      split
      · rename_i hthree
        exact h.byte 2 (UInt8.le_iff_toNat_le.mp hthree)
      · rfl
    unfold Powertrain.handleDriverInput
    rw [hgear, h.first, h.second (hlong hdriver)]
  · unfold Powertrain.handleVehicleMode
    rw [h.first]
  · unfold Powertrain.handleBmsLimits
    rw [h.first]
  · rfl
  · rfl
  · rfl

/-- A step of the powertrain acts alike on every buffer exactly when it does not dispatch a
driver input of one byte. -/
theorem powertrain_stepAlike_iff (ctx : PowertrainCtx) (op : PowertrainOp) :
    Core.StepAlike powertrainStep PowertrainAlike ctx op ↔ ¬ ShortDriverInput op := by
  constructor
  · rintro halike ⟨f, nowMs, rfl, hid, hlen⟩
    have hsame := halike _ (.dispatch (samePayload_withSecond hlen (f.data.get 1 + 1)) nowMs)
    have hdriver (g : RxFrame) (hg : g.id = mcMsgDriverInput) :
        (powertrainStep ctx (.dispatch g nowMs)).tc.brakePressed = g.data.get 1 := by
      rw [powertrainStep, Powertrain.dispatchFrame, if_pos hg]
      rfl
    have hbrake := congrArg (fun c : PowertrainCtx => c.tc.brakePressed) hsame
    rw [hdriver (withSecond f _) hid, hdriver f hid, withSecond_second] at hbrake
    simp at hbrake
  · intro hlong op' halike
    cases halike with
    | dispatch h nowMs =>
      exact powertrain_dispatchFrame_congr h
        (fun hid hlen => hlong ⟨_, nowMs, rfl, hid, hlen⟩) ctx nowMs
    | timer | command => rfl

/-- A run of the powertrain does not depend on the bytes behind its payloads exactly when no
driver input of one byte is dispatched. -/
theorem powertrain_runsAgree_iff (ctx : PowertrainCtx) (ops : List PowertrainOp) :
    Core.RunsAgree powertrainStep PowertrainAlike ctx ops ↔
      ∀ op ∈ ops, ¬ ShortDriverInput op := by
  rw [Core.runsAgree_iff PowertrainAlike.refl, ← Core.stepsMeet_iff_forall_mem]
  exact Core.stepsMeet_congr (I := fun _ => True)
    (fun s op _ => powertrain_stepAlike_iff s op) (fun _ _ _ _ => trivial) trivial ops

end Powertrain

section Dashboard

/-- The steps agree on everything but the bytes behind a payload. -/
inductive DashboardAlike : DashboardOp → DashboardOp → Prop
  | dispatch {f g : RxFrame} (h : SamePayload f g) : DashboardAlike (.dispatch f) (.dispatch g)
  | heartbeat (nowMs : UInt32) : DashboardAlike (.heartbeat nowMs) (.heartbeat nowMs)
  | display (nowMs : UInt32) (touches : List Dashboard.TouchEvent) :
      DashboardAlike (.display nowMs touches) (.display nowMs touches)

theorem DashboardAlike.refl : ∀ op, DashboardAlike op op
  | .dispatch f => .dispatch (.refl f)
  | .heartbeat nowMs => .heartbeat nowMs
  | .display nowMs touches => .display nowMs touches

/-- No warning can change anything: the table is full, a critical warning is shown and a
notification is pending. -/
structure Saturated (ctx : DashboardCtx) : Prop where
  /-- The table is full. -/
  full : Dashboard.dashboardMaxWarnings ≤ ctx.ds.warnings.entries.length
  /-- The shown warning is critical. -/
  critical : ctx.wd.severity = 3
  /-- A notification is pending. -/
  pending : ctx.notification ≠ none

/-- The step does not dispatch a wheel speed of one byte, and a warning of one byte at most
when no warning can change anything. -/
def ReadsPayload (ctx : DashboardCtx) : DashboardOp → Prop
  | .dispatch f => f.len = 1 → f.id ≠ mcMsgWheelSpeed ∧
      (f.id = Dashboard.mcMsgWarning → Saturated ctx)
  | _ => True

/-- What holds of the warnings in every reachable state: the firmware never clears one. -/
structure WarningsKept (ctx : DashboardCtx) : Prop where
  /-- Every tracked warning is active. -/
  active : ∀ w ∈ ctx.ds.warnings.entries, w.active = true
  /-- A shown warning is at most critical. -/
  severity : ctx.wd.severity ≤ 3

theorem warningsKept_boot (framebuffer : Dashboard.Framebuffer) :
    WarningsKept (Dashboard.dashboardBoot framebuffer) where
  active := fun w hw => absurd hw List.not_mem_nil
  severity := show (0 : UInt8) ≤ 3 by decide

/-- A warning keeps the warnings active and at most critical. -/
theorem WarningsKept.handleWarning {ctx : DashboardCtx} (h : WarningsKept ctx)
    (frame : McCanFrame) : WarningsKept (Dashboard.handleWarning ctx frame) := by
  constructor
  · exact Dashboard.forall_mem_addWarning h.active (fun _ _ => rfl) rfl
  · show (Dashboard.warningDisplayUpdate ctx.wd (frame.data.get 1) _).severity ≤ 3
    unfold Dashboard.warningDisplayUpdate
    split
    · exact (Dashboard.warningDisplaySeverityFor_le (frame.data.get 1)).1
    · exact h.severity

/-- A warning does nothing to a saturated dashboard. -/
theorem Saturated.handleWarning {ctx : DashboardCtx} (hsat : Saturated ctx)
    (h : WarningsKept ctx) (frame : McCanFrame) : Dashboard.handleWarning ctx frame = ctx := by
  have hds : Dashboard.dashboardStateAddWarning ctx.ds (frame.data.get 1) (frame.data.get 0) =
      ctx.ds := by
    have hmove :=
      Dashboard.dashboardStateAddWarning_move ctx.ds (frame.data.get 1) (frame.data.get 0)
    generalize Dashboard.dashboardStateAddWarning ctx.ds (frame.data.get 1) (frame.data.get 0) =
      ds' at hmove
    cases hmove with
    | renewed =>
      have hsame : ctx.ds.warnings.modify (Dashboard.DashboardWarning.hasKey (frame.data.get 1)
          (frame.data.get 0)) (fun w => { w with active := true }) = ctx.ds.warnings := by
        rw [Core.Table.mk.injEq]
        apply Core.modifyFirst_eq_self
        intro w hw _
        rw [← h.active w hw]
      rw [hsame]
    | appended _ hroom _ => exact absurd hsat.full (Nat.not_le.mpr hroom)
    | dropped => rfl
  have hwd : Dashboard.warningDisplayUpdate ctx.wd (frame.data.get 1)
      (Dashboard.warningDisplaySeverityFor (frame.data.get 1)) = ctx.wd := by
    have hle := (Dashboard.warningDisplaySeverityFor_le (frame.data.get 1)).1
    rw [Dashboard.warningDisplayUpdate, hsat.critical, if_neg (UInt8.not_lt.mpr hle)]
  have hnotify (value : UInt32) : ctx.notification.or (some value) = ctx.notification := by
    obtain ⟨old, hpending⟩ := Option.ne_none_iff_exists'.mp hsat.pending
    rw [hpending, Option.some_or]
  unfold Dashboard.handleWarning
  dsimp only
  rw [hds, hwd, hnotify]

/-- Behind an added warning a key was there before or is the added one. -/
theorem hasKey_of_mem_addWarning {ds : DashboardState} {code source other : UInt8}
    {w : Dashboard.DashboardWarning}
    (hw : w ∈ (Dashboard.dashboardStateAddWarning ds code source).warnings.entries)
    (hkey : w.hasKey other source = true) :
    (∃ v ∈ ds.warnings.entries, v.hasKey other source = true) ∨ other = code := by
  let P (w : Dashboard.DashboardWarning) : Prop := w.hasKey other source = true →
    (∃ v ∈ ds.warnings.entries, v.hasKey other source = true) ∨ other = code
  have hbehind : ∀ w ∈ (Dashboard.dashboardStateAddWarning ds code source).warnings.entries,
      P w := by
    apply Dashboard.forall_mem_addWarning
    · exact fun v hv hkey' => .inl ⟨v, hv, hkey'⟩
    · exact fun v hv hkey' => .inl ⟨v, hv, hkey'⟩
    · intro hkey'
      simp only [Dashboard.DashboardWarning.hasKey, Bool.and_eq_true, beq_iff_eq] at hkey'
      exact .inr hkey'.1.symm
  exact hbehind w hw hkey

/-- A new warning enters a table with room. -/
theorem mem_addWarning_of_room {ds : DashboardState} {code source : UInt8}
    (hnew : ∀ w ∈ ds.warnings.entries, w.hasKey code source = false)
    (hroom : ds.warnings.entries.length < Dashboard.dashboardMaxWarnings) :
    ⟨code, true, source⟩ ∈
      (Dashboard.dashboardStateAddWarning ds code source).warnings.entries := by
  have hmove := Dashboard.dashboardStateAddWarning_move ds code source
  generalize Dashboard.dashboardStateAddWarning ds code source = ds' at hmove ⊢
  cases hmove with
  | renewed hkey =>
    obtain ⟨w, hw, hfound⟩ := hkey
    rw [hnew w hw] at hfound
    exact absurd hfound Bool.false_ne_true
  | appended _ _ hentries =>
    rw [hentries]
    exact List.mem_append_right _ (List.mem_singleton.mpr rfl)
  | dropped _ hfull => exact absurd hfull (Nat.not_le.mpr hroom)

/-- With room in the table, some other code leads to another table. -/
theorem exists_code_table {ds : DashboardState} (code source : UInt8)
    (hroom : ds.warnings.entries.length < Dashboard.dashboardMaxWarnings) :
    ∃ other, Dashboard.dashboardStateAddWarning ds other source ≠
      Dashboard.dashboardStateAddWarning ds code source := by
  have hlength : (code :: ds.warnings.entries.map (·.warningCode)).length < 256 := by
    have hcap : Dashboard.dashboardMaxWarnings = 16 := rfl
    rw [List.length_cons, List.length_map]
    omega
  obtain ⟨other, hother⟩ := Core.exists_byte_not_mem hlength
  rw [List.mem_cons, not_or] at hother
  have hnew : ∀ w ∈ ds.warnings.entries, w.hasKey other source = false := by
    intro w hw
    rw [Bool.eq_false_iff]
    intro hkey
    simp only [Dashboard.DashboardWarning.hasKey, Bool.and_eq_true, beq_iff_eq] at hkey
    exact hother.2 (List.mem_map.mpr ⟨w, hw, hkey.1⟩)
  refine ⟨other, fun heq => ?_⟩
  have hmem := mem_addWarning_of_room hnew hroom
  rw [heq] at hmem
  have hadded : Dashboard.DashboardWarning.hasKey other source ⟨other, true, source⟩ = true := by
    simp [Dashboard.DashboardWarning.hasKey]
  rcases hasKey_of_mem_addWarning hmem hadded with ⟨w, hw, hkey⟩ | hcode
  · rw [hnew w hw] at hkey
    exact Bool.false_ne_true hkey
  · exact hother.1 hcode

/-- Below a critical warning, exactly a critical fault makes the shown one critical. -/
theorem warningDisplayUpdate_critical_iff {wd : WarningDisplay} (hbelow : wd.severity < 3)
    (code : UInt8) :
    (Dashboard.warningDisplayUpdate wd code
      (Dashboard.warningDisplaySeverityFor code)).severity = 3 ↔
        code = Dashboard.mcWarnCriticalBmsFault := by
  rw [← (Dashboard.warningDisplaySeverityFor_le code).2, Dashboard.warningDisplayUpdate]
  split
  · exact Iff.rfl
  · rename_i hkept
    refine iff_of_false (UInt8.ne_of_lt hbelow) fun hcritical => hkept ?_
    rw [hcritical]
    exact hbelow

/-- Below a critical warning, some other code leads to another shown warning. -/
theorem exists_code_shown {wd : WarningDisplay} (hbelow : wd.severity < 3) (code : UInt8) :
    ∃ other, Dashboard.warningDisplayUpdate wd other (Dashboard.warningDisplaySeverityFor other) ≠
      Dashboard.warningDisplayUpdate wd code (Dashboard.warningDisplaySeverityFor code) := by
  have hshown := warningDisplayUpdate_critical_iff hbelow
  by_cases hcode : code = Dashboard.mcWarnCriticalBmsFault
  · refine ⟨Dashboard.mcWarnNone, fun heq => ?_⟩
    have hnone := (hshown code).mpr hcode
    rw [← heq, hshown] at hnone
    exact absurd hnone (by decide)
  · refine ⟨Dashboard.mcWarnCriticalBmsFault, fun heq => ?_⟩
    have hcritical := (hshown Dashboard.mcWarnCriticalBmsFault).mpr rfl
    rw [heq, hshown] at hcritical
    exact hcode hcritical

/-- The notification of a warning carries its code. -/
theorem notification_code (severity code : UInt8) :
    ((severity.toUInt32 <<< 8) ||| code.toUInt32).toUInt8 = code := by
  have hshift : (severity.toUInt32 <<< 8).toUInt8 = 0 := by
    apply UInt8.toNat_inj.mp
    rw [UInt32.toNat_toUInt8, UInt32.toNat_shiftLeft, Nat.shiftLeft_eq]
    simp
  rw [UInt32.toUInt8_or, hshift, UInt8.zero_or, UInt8.toUInt8_toUInt32]

/-- Unless the dashboard is saturated, some other code leads to another state. -/
theorem exists_code_state {ctx : DashboardCtx} (h : WarningsKept ctx) (hsat : ¬ Saturated ctx)
    {f : RxFrame} : ∃ b, Dashboard.handleWarning ctx (withSecond f b).toMcCanFrame ≠
      Dashboard.handleWarning ctx f.toMcCanFrame := by
  by_cases hfull : Dashboard.dashboardMaxWarnings ≤ ctx.ds.warnings.entries.length
  · by_cases hcritical : ctx.wd.severity = 3
    · have hnone : ctx.notification = none := by
        by_contra hpending
        exact hsat ⟨hfull, hcritical, hpending⟩
      refine ⟨f.data.get 1 + 1, fun heq => ?_⟩
      have hnotify := congrArg DashboardCtx.notification heq
      simp only [Dashboard.handleWarning, hnone, Option.none_or, Option.some.injEq] at hnotify
      have hcode := congrArg UInt32.toUInt8 hnotify
      rw [notification_code, notification_code, withSecond_second] at hcode
      simp at hcode
    · have hbelow : ctx.wd.severity < 3 := UInt8.lt_of_le_of_ne h.severity hcritical
      obtain ⟨other, hother⟩ := exists_code_shown hbelow (f.data.get 1)
      refine ⟨other, fun heq => hother ?_⟩
      have hshown := congrArg DashboardCtx.wd heq
      simp only [Dashboard.handleWarning, withSecond_second] at hshown
      exact hshown
  · obtain ⟨other, hother⟩ :=
      exists_code_table (f.data.get 1) (f.data.get 0) (Nat.lt_of_not_le hfull)
    refine ⟨other, fun heq => hother ?_⟩
    have htable := congrArg DashboardCtx.ds heq
    simp only [Dashboard.handleWarning, withSecond_second, withSecond_first] at htable
    exact htable

/-- A frame whose second byte is read only if it has one is read within its payload. -/
theorem dashboard_dispatchFrame_congr {f g : RxFrame} (h : SamePayload f g) {ctx : DashboardCtx}
    (hkept : WarningsKept ctx) (hreads : ReadsPayload ctx (.dispatch f)) :
    Dashboard.dispatchFrame ctx g.toMcCanFrame = Dashboard.dispatchFrame ctx f.toMcCanFrame := by
  unfold Dashboard.dispatchFrame
  rw [h.id]
  split_ifs with hmode hspeed hsensors hwarning hota hmotor
  · unfold Dashboard.handleVehicleMode
    rw [h.first]
  · have hlong : f.len ≠ 1 := fun hlen => (hreads hlen).1 hspeed
    unfold Dashboard.handleWheelSpeed
    rw [h.first, h.second hlong]
  · unfold Dashboard.handlePlantSensors
    rw [h.len]
    split
    · rfl
    · rename_i hlen
      have hseven : 7 ≤ f.len.toNat := UInt8.le_iff_toNat_le.mp (UInt8.not_lt.mp hlen)
      have hbyte (i : Fin 8) (hi : i.val < 7) : g.data.get i = f.data.get i :=
        h.byte i (by omega)
      rw [hbyte 0 (by decide), hbyte 1 (by decide), hbyte 2 (by decide), hbyte 3 (by decide),
        hbyte 4 (by decide), hbyte 5 (by decide), hbyte 6 (by decide)]
  · by_cases hlen : f.len = 1
    · have hsat := (hreads hlen).2 hwarning
      rw [hsat.handleWarning hkept, hsat.handleWarning hkept]
    · unfold Dashboard.handleWarning
      rw [h.first, h.second hlen]
  · unfold Dashboard.handleOtaStatus
    rw [h.len]
    split
    · rfl
    · rename_i hlen
      have height : 8 ≤ f.len.toNat := UInt8.le_iff_toNat_le.mp (UInt8.not_lt.mp hlen)
      have hthree : 2 < f.len.toNat := by omega
      rw [h.byte 2 hthree]
  · unfold Dashboard.handleMotorCommand
    rw [h.first]
  · rfl

/-- A wheel speed of one byte is read behind its payload. -/
theorem wheelSpeed_not_alike {ctx : DashboardCtx} {f : RxFrame} (hlen : f.len = 1)
    (hid : f.id = mcMsgWheelSpeed) :
    ¬ Core.StepAlike dashboardStep DashboardAlike ctx (.dispatch f) := by
  intro halike
  have hsame := halike _ (.dispatch (samePayload_withSecond hlen (f.data.get 1 + 1)))
  have hspeed (g : RxFrame) (hg : g.id = mcMsgWheelSpeed) :
      (dashboardStep ctx (.dispatch g)).ds.speedKphX10 =
        Core.wordOfBytes (g.data.get 0) (g.data.get 1) := by
    have hmode : mcMsgWheelSpeed ≠ mcMsgVehicleMode := by decide
    rw [dashboardStep, Dashboard.dispatchFrame, hg, if_neg hmode, if_pos rfl]
    rfl
  have hshown := congrArg (fun c : DashboardCtx => c.ds.speedKphX10) hsame
  rw [hspeed (withSecond f _) hid, hspeed f hid, Core.wordOfBytes_inj, withSecond_second] at hshown
  simp at hshown

/-- A warning of one byte is read behind its payload, unless the dashboard is saturated. -/
theorem warning_not_alike {ctx : DashboardCtx} (h : WarningsKept ctx) (hsat : ¬ Saturated ctx)
    {f : RxFrame} (hlen : f.len = 1) (hid : f.id = Dashboard.mcMsgWarning) :
    ¬ Core.StepAlike dashboardStep DashboardAlike ctx (.dispatch f) := by
  intro halike
  obtain ⟨b, hother⟩ := exists_code_state h hsat (f := f)
  have hsame := halike _ (.dispatch (samePayload_withSecond hlen b))
  have hwarned (g : RxFrame) (hg : g.id = Dashboard.mcMsgWarning) :
      dashboardStep ctx (.dispatch g) = Dashboard.handleWarning ctx g.toMcCanFrame := by
    have hmode : Dashboard.mcMsgWarning ≠ mcMsgVehicleMode := by decide
    have hspeed : Dashboard.mcMsgWarning ≠ mcMsgWheelSpeed := by decide
    have hsensors : Dashboard.mcMsgWarning ≠ mcMsgPlantSensors := by decide
    rw [dashboardStep, Dashboard.dispatchFrame, hg, if_neg hmode, if_neg hspeed, if_neg hsensors,
      if_pos rfl]
  rw [hwarned (withSecond f b) hid, hwarned f hid] at hsame
  exact hother hsame

/-- A step of the dashboard acts alike on every buffer exactly when it reads within the
payload. -/
theorem dashboard_stepAlike_iff {ctx : DashboardCtx} (h : WarningsKept ctx) (op : DashboardOp) :
    Core.StepAlike dashboardStep DashboardAlike ctx op ↔ ReadsPayload ctx op := by
  constructor
  · intro halike
    cases op with
    | dispatch f =>
      intro hlen
      refine ⟨fun hid => wheelSpeed_not_alike hlen hid halike, fun hid => ?_⟩
      by_contra hsat
      exact warning_not_alike h hsat hlen hid halike
    | heartbeat | display => trivial
  · intro hreads op' halike
    cases halike with
    | dispatch hsame => exact dashboard_dispatchFrame_congr hsame h hreads
    | heartbeat | display => rfl

/-- Nothing but a warning touches the warnings. -/
theorem WarningsKept.of_eq {ctx ctx' : DashboardCtx} (h : WarningsKept ctx)
    (hwarnings : ctx'.ds.warnings = ctx.ds.warnings) (hwd : ctx'.wd = ctx.wd) :
    WarningsKept ctx' :=
  ⟨hwarnings ▸ h.active, hwd ▸ h.severity⟩

/-- Every step keeps the warnings active and at most critical. -/
theorem WarningsKept.step {ctx : DashboardCtx} (h : WarningsKept ctx) (op : DashboardOp) :
    WarningsKept (dashboardStep ctx op) := by
  cases op with
  | dispatch f =>
    rw [dashboardStep, Dashboard.dispatchFrame]
    split_ifs
    · exact h.of_eq rfl rfl
    · exact h.of_eq rfl rfl
    · unfold Dashboard.handlePlantSensors
      split
      · exact h
      · exact h.of_eq rfl rfl
    · exact h.handleWarning f.toMcCanFrame
    · unfold Dashboard.handleOtaStatus
      split
      · exact h
      · exact h.of_eq rfl rfl
    · exact h.of_eq rfl rfl
    · exact h
  | heartbeat nowMs =>
    rw [dashboardStep, Dashboard.publishHeartbeat]
    split
    · exact h.of_eq rfl rfl
    · exact h
  | display nowMs touches =>
    have hstate := Dashboard.stateKept_displayUpdate ctx nowMs touches
    exact h.of_eq (congrArg DashboardState.warnings hstate.ds) hstate.wd

/-- A run of the dashboard does not depend on the bytes behind its payloads exactly when all
its steps read within them. -/
theorem dashboard_runsAgree_iff {ctx : DashboardCtx} (h : WarningsKept ctx)
    (ops : List DashboardOp) :
    Core.RunsAgree dashboardStep DashboardAlike ctx ops ↔
      Core.StepsMeet dashboardStep ReadsPayload ctx ops := by
  rw [Core.runsAgree_iff DashboardAlike.refl]
  exact Core.stepsMeet_congr (I := WarningsKept) (fun _ op hs => dashboard_stepAlike_iff hs op)
    (fun _ op hs _ => hs.step op) h ops

end Dashboard

/-- From boot, the runs of both ECUs that do not depend on the bytes behind their payloads. -/
theorem hidden_bytes_unread_iff (forceService forceCharging clampBug : Bool)
    (powertrainOps : List PowertrainOp) (framebuffer : Dashboard.Framebuffer)
    (dashboardOps : List DashboardOp) :
    (Core.RunsAgree powertrainStep PowertrainAlike
        (Powertrain.powertrainBoot forceService forceCharging clampBug) powertrainOps ↔
      ∀ op ∈ powertrainOps, ¬ ShortDriverInput op) ∧
    (Core.RunsAgree dashboardStep DashboardAlike (Dashboard.dashboardBoot framebuffer)
        dashboardOps ↔
      Core.StepsMeet dashboardStep ReadsPayload (Dashboard.dashboardBoot framebuffer)
        dashboardOps) :=
  ⟨powertrain_runsAgree_iff _ powertrainOps,
    dashboard_runsAgree_iff (warningsKept_boot framebuffer) dashboardOps⟩

/-- A driver input whose brake byte is missing. -/
def shortDriverInput : RxFrame :=
  .ofPayload mcMsgDriverInput 50 []

/-- The powertrain takes the brake from behind the payload. -/
theorem brake_read_behind_payload :
    ¬ ((∀ forceService forceCharging clampBug ops,
      Core.RunsAgree powertrainStep PowertrainAlike
        (Powertrain.powertrainBoot forceService forceCharging clampBug) ops) ∧
      ∀ framebuffer ops,
        Core.RunsAgree dashboardStep DashboardAlike (Dashboard.dashboardBoot framebuffer) ops) := by
  rintro ⟨hagree, -⟩
  have halike : List.Forall₂ PowertrainAlike [.dispatch shortDriverInput 0]
      [.dispatch (withSecond shortDriverInput 1) 0] :=
    .cons (.dispatch (samePayload_withSecond rfl 1) 0) .nil
  have hsame := hagree false false false _ _ halike 1
  exact absurd hsame (by decide +kernel)

end Microcar.Vehicle
