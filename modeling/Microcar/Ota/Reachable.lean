import Microcar.Core.Milestones
import Microcar.Ota.Slot

/-!
# Reachable slot states and the update they witness

The flags of every reachable slot state are tied to its update stage, and each stage
carries the calls that led to it. A slot other than the factory slot is only ever
active behind a complete download, a verified image, a commit, a reboot and a healthy
self-test, in that order and without an effective rollback.
-/

namespace Microcar.Ota

/-- The flags and slots each update stage guarantees. -/
structure SlotInvariant (s : McOtaSlotState) : Prop where
  /-- The inactive slot is the one written to. -/
  downloading : s.state = mcOtaDownloading → s.targetSlot ≠ s.activeSlot
  /-- Only a verified image of the inactive slot waits for its commit. -/
  verifying : s.state = mcOtaVerifying → s.crcOk = true ∧ s.targetSlot ≠ s.activeSlot
  /-- An armed slot is inactive and holds a written and verified image. -/
  armed : s.state = mcOtaCommitPending ∨ s.state = mcOtaRebooting → s.committed = true ∧
    s.imageWritten = true ∧ s.crcOk = true ∧ s.targetSlot ≠ s.activeSlot
  /-- A healthy update runs its committed target. -/
  healthy : s.state = mcOtaHealthy → s.activeSlot = s.targetSlot ∧ s.committed = true
  /-- A reverted update targets the running slot and arms nothing. -/
  rolledBack : s.state = mcOtaRolledBack → s.targetSlot = s.activeSlot ∧ s.committed = false
  /-- Only a healthy update replaces the factory slot. -/
  factory : s.state ≠ mcOtaHealthy → s.activeSlot = mcOtaSlotA

/-- The initial slot satisfies the stage guarantees. -/
theorem slotInvariant_init : SlotInvariant mcOtaInit := by
  constructor <;> decide

/-- Every call keeps the stage guarantees. -/
theorem SlotInvariant.step {s : McOtaSlotState} (h : SlotInvariant s) (op : OtaOp) :
    SlotInvariant (otaStep s op) := by
  have hmove := otaStep_move s op
  generalize otaStep s op = t at hmove
  cases hmove with
  | stay _ => exact h
  | begins hs =>
    have hf := h.factory (by rw [hs]; decide)
    refine ⟨fun _ => otherSlot_ne _, ?_, ?_, ?_, ?_, fun _ => hf⟩ <;> simp
  | finishes _ hs =>
    have hd := h.downloading hs
    have hf := h.factory (by rw [hs]; decide)
    refine ⟨fun _ => hd, ?_, ?_, ?_, ?_, fun _ => hf⟩ <;> simp [hs]
  | verifies _ hs =>
    have hd := h.downloading hs
    have hf := h.factory (by rw [hs]; decide)
    refine ⟨?_, fun _ => ⟨rfl, hd⟩, ?_, ?_, ?_, fun _ => hf⟩ <;> simp
  | commits hs hwritten hcrc =>
    have hd := (h.verifying hs).2
    have hf := h.factory (by rw [hs]; decide)
    refine ⟨?_, ?_, fun _ => ⟨rfl, hwritten, hcrc, hd⟩, ?_, ?_, fun _ => hf⟩ <;> simp
  | reboots hs =>
    have harmed := h.armed (.inl hs)
    have hf := h.factory (by rw [hs]; decide)
    refine ⟨?_, ?_, fun _ => harmed, ?_, ?_, fun _ => hf⟩ <;> simp
  | boots _ hs hcommitted =>
    refine ⟨?_, ?_, ?_, fun _ => ⟨rfl, hcommitted⟩, ?_, fun hne => absurd rfl hne⟩ <;> simp
  | reverts hs hstate hactive htarget hcommitted =>
    have hf := h.factory hs
    refine ⟨?_, ?_, ?_, ?_, fun _ => ⟨htarget.trans hactive.symm, hcommitted⟩,
      fun _ => hactive.trans hf⟩ <;> simp [hstate]

/-- Every reachable slot state satisfies the stage guarantees. -/
theorem slotInvariant_otaRun (ops : List OtaOp) : SlotInvariant (otaRun ops) :=
  Core.run_invariant (fun _ op h => h.step op) slotInvariant_init ops

/-- The bootloader runs the active slot in every state with the stage guarantees. -/
theorem SlotInvariant.bootSlot_eq {s : McOtaSlotState} (h : SlotInvariant s) :
    mcOtaBootSlot s = s.activeSlot := by
  unfold mcOtaBootSlot
  split
  · rename_i hs
    exact (h.healthy hs.1).1.symm
  · rfl

/-- A call leaves ROLLED_BACK in ROLLED_BACK. -/
theorem rolledBack_step {s : McOtaSlotState} (hs : s.state = mcOtaRolledBack) (op : OtaOp) :
    (otaStep s op).state = mcOtaRolledBack := by
  have hmove := otaStep_move s op
  generalize otaStep s op = t at hmove
  cases hmove with
  | stay _ => exact hs
  | reverts _ hstate _ _ _ => exact hstate
  | begins h | finishes _ h | verifies _ h | commits h _ _ | reboots h | boots _ h _ =>
    rw [hs] at h
    exact absurd h (by decide)

/-- The calls that drive a complete update, latest first. -/
def updateStages : List (OtaOp → Prop) :=
  [fun op => ∃ healthy, healthy ≠ 0 ∧ op = .healthCheck healthy,
   fun op => op = .reboot,
   fun op => op = .commit,
   fun op => ∃ crcOk, crcOk ≠ 0 ∧ op = .verify crcOk,
   fun op => ∃ complete, complete ≠ 0 ∧ op = .finishDownload complete,
   fun op => op = .beginDownload]

/-- The stages a history has passed when it ends in a given slot state. -/
structure UpdateTrail (ops : List OtaOp) (s : McOtaSlotState) : Prop where
  /-- A download was begun. -/
  downloading : s.state = mcOtaDownloading → Core.Milestones OtaOp.Quiet (updateStages.drop 5) ops
  /-- A written image is a completed download. -/
  written : s.state = mcOtaDownloading → s.imageWritten = true →
    Core.Milestones OtaOp.Quiet (updateStages.drop 4) ops
  /-- A written image under verification has been verified. -/
  verifying : s.state = mcOtaVerifying → s.imageWritten = true →
    Core.Milestones OtaOp.Quiet (updateStages.drop 3) ops
  /-- An armed slot was committed. -/
  commitPending : s.state = mcOtaCommitPending →
    Core.Milestones OtaOp.Quiet (updateStages.drop 2) ops
  /-- A reboot follows the commit. -/
  rebooting : s.state = mcOtaRebooting → Core.Milestones OtaOp.Quiet (updateStages.drop 1) ops
  /-- A healthy update passed every stage; later calls have no effect. -/
  healthy : s.state = mcOtaHealthy →
    ∃ before after, ops = before ++ after ∧ Core.Milestones OtaOp.Quiet updateStages before

/-- A call without an effect keeps the trail. -/
theorem UpdateTrail.stay {ops : List OtaOp} {s : McOtaSlotState} (h : UpdateTrail ops s)
    {op : OtaOp} (hquiet : op.Quiet ∨ s.state = mcOtaHealthy) : UpdateTrail (ops ++ [op]) s := by
  have hq (hs : s.state ≠ mcOtaHealthy) : op.Quiet := hquiet.resolve_right hs
  refine ⟨?_, ?_, ?_, ?_, ?_, ?_⟩
  · intro hs
    exact (h.downloading hs).wait (hq (by rw [hs]; decide))
  · intro hs hw
    exact (h.written hs hw).wait (hq (by rw [hs]; decide))
  · intro hs hw
    exact (h.verifying hs hw).wait (hq (by rw [hs]; decide))
  · intro hs
    exact (h.commitPending hs).wait (hq (by rw [hs]; decide))
  · intro hs
    exact (h.rebooting hs).wait (hq (by rw [hs]; decide))
  · intro hs
    obtain ⟨before, after, rfl, hm⟩ := h.healthy hs
    exact ⟨before, after ++ [op], by simp, hm⟩

/-- Every call extends the trail of the stages it advances. -/
theorem UpdateTrail.step {ops : List OtaOp} {s : McOtaSlotState} (h : UpdateTrail ops s)
    (op : OtaOp) : UpdateTrail (ops ++ [op]) (otaStep s op) := by
  have hmove := otaStep_move s op
  generalize otaStep s op = t at hmove
  cases hmove with
  | stay hquiet => exact h.stay hquiet
  | begins hs =>
    have hm : Core.Milestones OtaOp.Quiet (updateStages.drop 5) (ops ++ [.beginDownload]) :=
      ⟨ops, .beginDownload, [], rfl, rfl, by simp, trivial⟩
    refine ⟨fun _ => hm, ?_, ?_, ?_, ?_, ?_⟩ <;> simp
  | @finishes complete harg hs =>
    have hd := (h.downloading hs).wait (e := .finishDownload complete) (by simp [OtaOp.Quiet])
    have hm : Core.Milestones OtaOp.Quiet (updateStages.drop 4)
        (ops ++ [.finishDownload complete]) :=
      Core.Milestones.reach (h.downloading hs) ⟨complete, harg, rfl⟩
    refine ⟨fun _ => hd, fun _ _ => hm, ?_, ?_, ?_, ?_⟩ <;> simp [hs]
  | @verifies crcOk harg hs =>
    have hm (hw : s.imageWritten = true) : Core.Milestones OtaOp.Quiet (updateStages.drop 3)
        (ops ++ [.verify crcOk]) := Core.Milestones.reach (h.written hs hw) ⟨crcOk, harg, rfl⟩
    refine ⟨?_, ?_, fun _ => hm, ?_, ?_, ?_⟩ <;> simp
  | commits hs hwritten _ =>
    have hm : Core.Milestones OtaOp.Quiet (updateStages.drop 2) (ops ++ [.commit]) :=
      Core.Milestones.reach (h.verifying hs hwritten) rfl
    refine ⟨?_, ?_, ?_, fun _ => hm, ?_, ?_⟩ <;> simp
  | reboots hs =>
    have hm : Core.Milestones OtaOp.Quiet (updateStages.drop 1) (ops ++ [.reboot]) :=
      Core.Milestones.reach (h.commitPending hs) rfl
    refine ⟨?_, ?_, ?_, ?_, fun _ => hm, ?_⟩ <;> simp
  | @boots healthy harg hs _ =>
    have hm : Core.Milestones OtaOp.Quiet updateStages (ops ++ [.healthCheck healthy]) :=
      Core.Milestones.reach (h.rebooting hs) ⟨healthy, harg, rfl⟩
    refine ⟨?_, ?_, ?_, ?_, ?_, fun _ => ⟨_, [], by simp, hm⟩⟩ <;> simp
  | reverts _ hstate _ _ _ =>
    refine ⟨?_, ?_, ?_, ?_, ?_, ?_⟩ <;> simp [hstate]

/-- Every history leaves the trail of its final stage. -/
theorem updateTrail_otaRun (ops : List OtaOp) : UpdateTrail ops (otaRun ops) :=
  Core.run_history_invariant (R := UpdateTrail) (by constructor <;> simp [mcOtaInit])
    (fun _ _ op h => h.step op) ops

/-- A run that is active outside the factory slot never took a rollback. -/
theorem otaRun_not_rolledBack {before after : List OtaOp}
    (h : (otaRun (before ++ after)).activeSlot ≠ mcOtaSlotA) :
    (otaRun before).state ≠ mcOtaRolledBack := by
  intro hs
  have hfinal : (otaRun (before ++ after)).state = mcOtaRolledBack := by
    rw [otaRun, Core.run_append]
    exact Core.run_invariant (I := fun s : McOtaSlotState => s.state = mcOtaRolledBack)
      (fun _ op hs => rolledBack_step hs op) hs after
  exact h ((slotInvariant_otaRun _).factory (by rw [hfinal]; decide))

/-- The reachable slot states: the flags of each stage, the booted slot, and the complete
update behind every slot that replaced the factory image. -/
theorem otaRun_slot_safety (ops : List OtaOp) :
    ((otaRun ops).state = mcOtaCommitPending ∨ (otaRun ops).state = mcOtaRebooting →
      (otaRun ops).committed = true ∧ (otaRun ops).imageWritten = true ∧
      (otaRun ops).crcOk = true ∧ (otaRun ops).targetSlot ≠ (otaRun ops).activeSlot) ∧
    ((otaRun ops).state = mcOtaVerifying →
      (otaRun ops).crcOk = true ∧ (otaRun ops).targetSlot ≠ (otaRun ops).activeSlot) ∧
    ((otaRun ops).state = mcOtaHealthy →
      (otaRun ops).activeSlot = (otaRun ops).targetSlot ∧ (otaRun ops).committed = true) ∧
    ((otaRun ops).state = mcOtaRolledBack →
      (otaRun ops).targetSlot = (otaRun ops).activeSlot ∧ (otaRun ops).committed = false) ∧
    mcOtaBootSlot (otaRun ops) = (otaRun ops).activeSlot ∧
    ((otaRun ops).activeSlot ≠ mcOtaSlotA →
      (∃ before after, ops = before ++ after ∧
        Core.Milestones OtaOp.Quiet updateStages before) ∧
      ∀ before after, ops = before ++ after → (otaRun before).state ≠ mcOtaRolledBack) := by
  have hinv := slotInvariant_otaRun ops
  refine ⟨hinv.armed, hinv.verifying, hinv.healthy, hinv.rolledBack, hinv.bootSlot_eq, ?_⟩
  intro hactive
  have hhealthy : (otaRun ops).state = mcOtaHealthy := by
    by_contra hne
    exact hactive (hinv.factory hne)
  refine ⟨(updateTrail_otaRun ops).healthy hhealthy, ?_⟩
  rintro before after rfl
  exact otaRun_not_rolledBack hactive

end Microcar.Ota
