import Microcar.Core.Run

/-!
# The A/B slot update state machine

The metadata model of `microcar_ota_slot.c`. The state field is the raw byte of the
source, since a recovered record may put any byte there; the flags are only ever
written as zero or one. Operations that report success return it next to the state.
-/

namespace Microcar.Ota

/-- Update states, `mc_ota_state_t`. -/
@[simp] def mcOtaIdle : UInt8 := 0
/-- `MC_OTA_VERIFYING`. -/
@[simp] def mcOtaDownloading : UInt8 := 1
/-- `MC_OTA_COMMIT_PENDING`. -/
@[simp] def mcOtaVerifying : UInt8 := 2
/-- `MC_OTA_REBOOTING`. -/
@[simp] def mcOtaCommitPending : UInt8 := 3
/-- `MC_OTA_HEALTHY`. -/
@[simp] def mcOtaRebooting : UInt8 := 4
/-- `MC_OTA_ROLLED_BACK`. -/
@[simp] def mcOtaHealthy : UInt8 := 5
@[simp] def mcOtaRolledBack : UInt8 := 6

/-- Firmware slots; A is the factory slot. -/
def mcOtaSlotA : UInt8 := 0
/-- `MC_OTA_SLOT_B`. -/
def mcOtaSlotB : UInt8 := 1

/-- The slot metadata, `mc_ota_slot_state_t`. -/
structure McOtaSlotState where
  /-- Slot the bootloader currently runs. -/
  activeSlot : UInt8
  /-- Slot being written or armed. -/
  targetSlot : UInt8
  /-- One of the update states. -/
  state : UInt8
  /-- The image finished downloading into the target slot. -/
  imageWritten : Bool
  /-- The last verification result. -/
  crcOk : Bool
  /-- The boot flag points at the target slot. -/
  committed : Bool
  /-- The self-test result after the reboot. -/
  bootHealthy : Bool
  /-- An update was aborted and the active slot kept. -/
  rolledBack : Bool
  /-- Reason recorded by an abort. -/
  abortReason : UInt8
  deriving DecidableEq, Repr

/-- The slot that is not the given one, `other_slot`. -/
def otherSlot (slot : UInt8) : UInt8 := if slot = mcOtaSlotA then mcOtaSlotB else mcOtaSlotA

/-- The two slots differ. -/
theorem otherSlot_ne (slot : UInt8) : otherSlot slot ≠ slot := by
  unfold otherSlot
  split
  · rename_i h
    subst h
    decide
  · rename_i h
    exact fun he => h he.symm

/-- Running slot A with no update in progress, `mc_ota_init`. -/
def mcOtaInit : McOtaSlotState where
  activeSlot := mcOtaSlotA
  targetSlot := mcOtaSlotA
  state := mcOtaIdle
  imageWritten := false
  crcOk := false
  committed := false
  bootHealthy := false
  rolledBack := false
  abortReason := 0

/-- Start streaming into the inactive slot, `mc_ota_begin_download`. -/
def mcOtaBeginDownload (s : McOtaSlotState) : McOtaSlotState :=
  if s.state ≠ mcOtaIdle then s
  else { s with
    targetSlot := otherSlot s.activeSlot
    imageWritten := false
    crcOk := false
    committed := false
    state := mcOtaDownloading }

/-- Give up the update and keep the known-good slot, `mc_ota_rollback`. -/
def mcOtaRollback (s : McOtaSlotState) : McOtaSlotState :=
  if s.state = mcOtaHealthy then s
  else { s with
    targetSlot := s.activeSlot
    imageWritten := false
    committed := false
    bootHealthy := false
    rolledBack := true
    state := mcOtaRolledBack }

/-- Report the end of the download, `mc_ota_finish_download`. -/
def mcOtaFinishDownload (s : McOtaSlotState) (complete : Int) : McOtaSlotState × Bool :=
  if s.state ≠ mcOtaDownloading then (s, false)
  else if complete = 0 then (mcOtaRollback s, false)
  else ({ s with imageWritten := true }, true)

/-- Record the verification result, `mc_ota_verify`. -/
def mcOtaVerify (s : McOtaSlotState) (crcOk : Int) : McOtaSlotState × Bool :=
  if s.state ≠ mcOtaDownloading then (s, false)
  else
    let t := { s with state := mcOtaVerifying, crcOk := decide (crcOk ≠ 0) }
    if t.crcOk then (t, true) else (mcOtaRollback t, false)

/-- Arm the target slot, `mc_ota_commit`. -/
def mcOtaCommit (s : McOtaSlotState) : McOtaSlotState × Bool :=
  if s.state ≠ mcOtaVerifying then (s, false)
  else if !s.imageWritten || !s.crcOk then (mcOtaRollback s, false)
  else ({ s with committed := true, state := mcOtaCommitPending }, true)

/-- Reboot into the armed slot, `mc_ota_reboot`. -/
def mcOtaReboot (s : McOtaSlotState) : McOtaSlotState :=
  if s.state ≠ mcOtaCommitPending then s else { s with state := mcOtaRebooting }

/-- Judge the rebooted image, `mc_ota_health_check`. -/
def mcOtaHealthCheck (s : McOtaSlotState) (healthy : Int) : McOtaSlotState × Bool :=
  if s.state ≠ mcOtaRebooting then (s, false)
  else if healthy ≠ 0 ∧ s.committed = true then
    ({ s with bootHealthy := true, activeSlot := s.targetSlot, state := mcOtaHealthy }, true)
  else (mcOtaRollback { s with bootHealthy := false }, false)

/-- Give up the update and record why, `mc_ota_abort`. -/
def mcOtaAbort (s : McOtaSlotState) (reason : UInt8) : McOtaSlotState :=
  if s.state = mcOtaHealthy then s else { mcOtaRollback s with abortReason := reason }

/-- The slot the bootloader runs next, `mc_ota_boot_slot`. -/
def mcOtaBootSlot (s : McOtaSlotState) : UInt8 :=
  if s.state = mcOtaHealthy ∧ s.committed = true then s.targetSlot else s.activeSlot

/-- One call of the update interface; the integer arguments are read as truth values. -/
inductive OtaOp where
  | beginDownload
  | finishDownload (complete : Int)
  | verify (crcOk : Int)
  | commit
  | reboot
  | healthCheck (healthy : Int)
  | rollback
  | abort (reason : UInt8)
  deriving DecidableEq, Repr

/-- The state after one call. -/
def otaStep (s : McOtaSlotState) : OtaOp → McOtaSlotState
  | .beginDownload => mcOtaBeginDownload s
  | .finishDownload complete => (mcOtaFinishDownload s complete).1
  | .verify crcOk => (mcOtaVerify s crcOk).1
  | .commit => (mcOtaCommit s).1
  | .reboot => mcOtaReboot s
  | .healthCheck healthy => (mcOtaHealthCheck s healthy).1
  | .rollback => mcOtaRollback s
  | .abort reason => mcOtaAbort s reason

/-- The state after a sequence of calls on a freshly initialised slot. -/
def otaRun (ops : List OtaOp) : McOtaSlotState := Core.run otaStep mcOtaInit ops

/-- The call asks neither for a rollback nor for an abort. -/
def OtaOp.Quiet (op : OtaOp) : Prop := op ≠ .rollback ∧ ∀ reason, op ≠ .abort reason

/-- Everything a call can do: leave the state alone, advance the update by one stage, or
end it in ROLLED_BACK with the active slot as target. -/
inductive OtaMove (s : McOtaSlotState) : OtaOp → McOtaSlotState → Prop
  | stay {op : OtaOp} (hquiet : op.Quiet ∨ s.state = mcOtaHealthy) : OtaMove s op s
  | begins (hs : s.state = mcOtaIdle) : OtaMove s .beginDownload { s with
      targetSlot := otherSlot s.activeSlot, imageWritten := false, crcOk := false,
      committed := false, state := mcOtaDownloading }
  | finishes {complete : Int} (harg : complete ≠ 0) (hs : s.state = mcOtaDownloading) :
      OtaMove s (.finishDownload complete) { s with imageWritten := true }
  | verifies {crcOk : Int} (harg : crcOk ≠ 0) (hs : s.state = mcOtaDownloading) :
      OtaMove s (.verify crcOk) { s with state := mcOtaVerifying, crcOk := true }
  | commits (hs : s.state = mcOtaVerifying) (hwritten : s.imageWritten = true)
      (hcrc : s.crcOk = true) :
      OtaMove s .commit { s with committed := true, state := mcOtaCommitPending }
  | reboots (hs : s.state = mcOtaCommitPending) :
      OtaMove s .reboot { s with state := mcOtaRebooting }
  | boots {healthy : Int} (harg : healthy ≠ 0) (hs : s.state = mcOtaRebooting)
      (hcommitted : s.committed = true) : OtaMove s (.healthCheck healthy) { s with
        bootHealthy := true, activeSlot := s.targetSlot, state := mcOtaHealthy }
  | reverts {op : OtaOp} {t : McOtaSlotState} (hs : s.state ≠ mcOtaHealthy)
      (hstate : t.state = mcOtaRolledBack) (hactive : t.activeSlot = s.activeSlot)
      (htarget : t.targetSlot = s.activeSlot) (hcommitted : t.committed = false) : OtaMove s op t

/-- A rollback outside HEALTHY is a reverting move, whatever call it is made from. -/
theorem OtaMove.of_rollback {s t : McOtaSlotState} (op : OtaOp) (hs : s.state ≠ mcOtaHealthy)
    (ht : t.state ≠ mcOtaHealthy) (hactive : t.activeSlot = s.activeSlot) :
    OtaMove s op (mcOtaRollback t) := by
  rw [mcOtaRollback, if_neg ht]
  exact .reverts hs rfl hactive hactive rfl

/-- The step function makes one of the listed moves. -/
theorem otaStep_move (s : McOtaSlotState) (op : OtaOp) : OtaMove s op (otaStep s op) := by
  have hne (a b : UInt8) (h : s.state = a) (hab : a ≠ b) : s.state ≠ b := fun he => hab (h ▸ he)
  cases op with
  | beginDownload =>
    simp only [otaStep, mcOtaBeginDownload]
    split
    · exact .stay (.inl (by simp [OtaOp.Quiet]))
    · rename_i hs
      exact .begins (not_not.mp hs)
  | finishDownload complete =>
    simp only [otaStep, mcOtaFinishDownload]
    split
    · exact .stay (.inl (by simp [OtaOp.Quiet]))
    · rename_i hs
      have hs := not_not.mp hs
      split
      · have hh := hne _ mcOtaHealthy hs (by decide)
        exact .of_rollback _ hh hh rfl
      · exact .finishes (by assumption) hs
  | verify crcOk =>
    simp only [otaStep, mcOtaVerify]
    split
    · exact .stay (.inl (by simp [OtaOp.Quiet]))
    · rename_i hs
      have hs := not_not.mp hs
      by_cases hc : crcOk = 0
      · simp only [hc, ne_eq, not_true_eq_false, decide_false, Bool.false_eq_true, ite_false]
        exact .of_rollback _ (hne _ _ hs (by decide))
          (show mcOtaVerifying ≠ mcOtaHealthy by decide) rfl
      · simp only [ne_eq, hc, not_false_eq_true, decide_true, ite_true]
        exact .verifies hc hs
  | commit =>
    simp only [otaStep, mcOtaCommit]
    split
    · exact .stay (.inl (by simp [OtaOp.Quiet]))
    · rename_i hs
      have hs := not_not.mp hs
      split
      · have hh := hne _ mcOtaHealthy hs (by decide)
        exact .of_rollback _ hh hh rfl
      · rename_i hflags
        simp only [Bool.or_eq_true, Bool.not_eq_true', not_or, Bool.not_eq_false] at hflags
        exact .commits hs hflags.1 hflags.2
  | reboot =>
    simp only [otaStep, mcOtaReboot]
    split
    · exact .stay (.inl (by simp [OtaOp.Quiet]))
    · rename_i hs
      exact .reboots (not_not.mp hs)
  | healthCheck healthy =>
    simp only [otaStep, mcOtaHealthCheck]
    split
    · exact .stay (.inl (by simp [OtaOp.Quiet]))
    · rename_i hs
      have hs := not_not.mp hs
      have hh := hne _ mcOtaHealthy hs (by decide)
      split
      · rename_i hboot
        exact .boots hboot.1 hs hboot.2
      · exact .of_rollback _ hh hh rfl
  | rollback =>
    by_cases hs : s.state = mcOtaHealthy
    · simpa only [otaStep, mcOtaRollback, hs, ite_true] using OtaMove.stay (.inr hs)
    · exact .of_rollback _ hs hs rfl
  | abort reason =>
    by_cases hs : s.state = mcOtaHealthy
    · simpa only [otaStep, mcOtaAbort, hs, ite_true] using OtaMove.stay (.inr hs)
    · simp only [otaStep, mcOtaAbort, mcOtaRollback, hs, ite_false]
      exact .reverts hs rfl rfl rfl rfl

end Microcar.Ota
