import Microcar.Ota.Recovery

/-!
# The Rust slot model and its simulation of the C model

`ota_slot.rs` repeats the slot metadata rules over an enumeration of the update states.
A recovered state byte is mapped into the enumeration by `OtaState::from_u8`, where every
byte beyond the listed states becomes `RolledBack`, while the C model keeps the byte. Both
sides only ever compare the state with one of the first six, so they never disagree on a
guard.
-/

namespace Microcar.Ota

/-- The update states of the Rust model, in the order of their discriminants. -/
inductive OtaState where
  | idle
  | downloading
  | verifying
  | commitPending
  | rebooting
  | healthy
  | rolledBack
  deriving DecidableEq, Repr

/-- The discriminant of a state, `as u8`. -/
def OtaState.asU8 : OtaState → UInt8
  | .idle => 0
  | .downloading => 1
  | .verifying => 2
  | .commitPending => 3
  | .rebooting => 4
  | .healthy => 5
  | .rolledBack => 6

/-- The state a record's byte stands for, `OtaState::from_u8`. -/
def OtaState.fromU8 (v : UInt8) : OtaState :=
  if v = 0 then .idle
  else if v = 1 then .downloading
  else if v = 2 then .verifying
  else if v = 3 then .commitPending
  else if v = 4 then .rebooting
  else if v = 5 then .healthy
  else .rolledBack

/-- A state before `RolledBack` stands for its discriminant only. -/
theorem OtaState.fromU8_eq_iff {st : OtaState} (hst : st ≠ .rolledBack) (v : UInt8) :
    OtaState.fromU8 v = st ↔ v = st.asU8 := by
  constructor
  · rintro rfl
    unfold OtaState.fromU8 at hst ⊢
    split_ifs at hst ⊢ with h0 h1 h2 h3 h4 h5
    · exact h0
    · exact h1
    · exact h2
    · exact h3
    · exact h4
    · exact h5
    · exact absurd rfl hst
  · rintro rfl
    cases st <;> rfl

/-- The discriminant of the state a byte stands for is the byte, unless the byte is beyond
the listed states. -/
theorem OtaState.asU8_fromU8_iff {v : UInt8} :
    (OtaState.fromU8 v).asU8 = v ↔ v ≤ OtaState.rolledBack.asU8 := by
  constructor
  · intro h
    rw [← h]
    cases OtaState.fromU8 v <;> decide
  · intro hle
    unfold OtaState.fromU8
    split_ifs with h0 h1 h2 h3 h4 h5
    · exact h0.symm
    · exact h1.symm
    · exact h2.symm
    · exact h3.symm
    · exact h4.symm
    · exact h5.symm
    · rw [← UInt8.toNat_inj] at *
      rw [UInt8.le_iff_toNat_le] at hle
      simp only [OtaState.asU8, UInt8.reduceToNat] at *
      omega

/-- The Rust slot metadata, `OtaSlotModel`. -/
structure OtaSlotModel where
  /-- Slot the bootloader currently runs. -/
  activeSlot : UInt8
  /-- Slot being written or armed. -/
  targetSlot : UInt8
  /-- Stage of the update. -/
  state : OtaState
  /-- The image finished downloading into the target slot. -/
  imageWritten : Bool
  /-- The last verification result. -/
  crcOk : Bool
  /-- The boot flag points at the target slot. -/
  committed : Bool
  /-- The self-test result after the reboot. -/
  bootHealthy : Bool
  /-- An update was aborted and the active slot kept. -/
  rolledBack : Bool
  /-- Reason recorded by an abort. -/
  abortReason : UInt8
  deriving DecidableEq, Repr

namespace OtaSlotModel

/-- The Rust record has the fields of the C record at the same types, `MetaRecord`. -/
abbrev MetaRecord := McOtaMetaRecord

/-- Running slot A with no update in progress, `new`. -/
def new : OtaSlotModel where
  activeSlot := mcOtaSlotA
  targetSlot := mcOtaSlotA
  state := .idle
  imageWritten := false
  crcOk := false
  committed := false
  bootHealthy := false
  rolledBack := false
  abortReason := 0

/-- Start streaming into the inactive slot, `begin_download`. -/
def beginDownload (m : OtaSlotModel) : OtaSlotModel :=
  if m.state ≠ .idle then m
  else { m with
    targetSlot := otherSlot m.activeSlot
    imageWritten := false
    crcOk := false
    committed := false
    state := .downloading }

/-- Give up the update and keep the known-good slot, `rollback`. -/
def rollback (m : OtaSlotModel) : OtaSlotModel :=
  if m.state = .healthy then m
  else { m with
    targetSlot := m.activeSlot
    imageWritten := false
    committed := false
    bootHealthy := false
    rolledBack := true
    state := .rolledBack }

/-- Report the end of the download, `finish_download`. -/
def finishDownload (m : OtaSlotModel) (complete : Bool) : OtaSlotModel × Bool :=
  if m.state ≠ .downloading then (m, false)
  else if !complete then (m.rollback, false)
  else ({ m with imageWritten := true }, true)

/-- Record the verification result, `verify`. -/
def verify (m : OtaSlotModel) (crcOk : Bool) : OtaSlotModel × Bool :=
  if m.state ≠ .downloading then (m, false)
  else
    let n := { m with state := .verifying, crcOk := crcOk }
    if !crcOk then (n.rollback, false) else (n, true)

/-- Arm the target slot, `commit`. -/
def commit (m : OtaSlotModel) : OtaSlotModel × Bool :=
  if m.state ≠ .verifying then (m, false)
  else if !m.imageWritten || !m.crcOk then (m.rollback, false)
  else ({ m with committed := true, state := .commitPending }, true)

/-- Reboot into the armed slot, `reboot`. -/
def reboot (m : OtaSlotModel) : OtaSlotModel :=
  if m.state ≠ .commitPending then m else { m with state := .rebooting }

/-- Judge the rebooted image, `health_check`. -/
def healthCheck (m : OtaSlotModel) (healthy : Bool) : OtaSlotModel × Bool :=
  if m.state ≠ .rebooting then (m, false)
  else if healthy && m.committed then
    ({ m with bootHealthy := true, activeSlot := m.targetSlot, state := .healthy }, true)
  else (rollback { m with bootHealthy := false }, false)

/-- The slot the bootloader runs next, `boot_slot`. -/
def bootSlot (m : OtaSlotModel) : UInt8 :=
  if m.state = .healthy && m.committed then m.targetSlot else m.activeSlot

/-- Give up the update and record why, `abort`. -/
def abort (m : OtaSlotModel) (reason : UInt8) : OtaSlotModel :=
  if m.state = .healthy then m else { m.rollback with abortReason := reason }

/-- Rebuild the model from a record, `recover_after_reset`. -/
def recoverAfterReset (m : OtaSlotModel) (r : MetaRecord) : OtaSlotModel :=
  let committedOrLater : Bool := OtaState.commitPending.asU8 ≤ r.state
  { m with
    activeSlot := r.activeSlot
    targetSlot := r.targetSlot
    state := .fromU8 r.state
    committed := r.committed != 0
    bootHealthy := r.healthy != 0
    abortReason := r.abortReason
    imageWritten := committedOrLater
    crcOk := committedOrLater
    rolledBack := r.state == OtaState.rolledBack.asU8 }

end OtaSlotModel

/-! ### Both models side by side -/

/-- One call that both models offer. -/
inductive SlotCall where
  | init
  | op (op : OtaOp)
  | recoverAfterReset (r : McOtaMetaRecord)

/-- The C model after one call, with the result of the calls that return one. -/
def callC (s : McOtaSlotState) : SlotCall → McOtaSlotState × Option Bool
  | .init => (mcOtaInit, none)
  | .op .beginDownload => (mcOtaBeginDownload s, none)
  | .op (.finishDownload complete) =>
    ((mcOtaFinishDownload s complete).1, some (mcOtaFinishDownload s complete).2)
  | .op (.verify crcOk) => ((mcOtaVerify s crcOk).1, some (mcOtaVerify s crcOk).2)
  | .op .commit => ((mcOtaCommit s).1, some (mcOtaCommit s).2)
  | .op .reboot => (mcOtaReboot s, none)
  | .op (.healthCheck healthy) =>
    ((mcOtaHealthCheck s healthy).1, some (mcOtaHealthCheck s healthy).2)
  | .op .rollback => (mcOtaRollback s, none)
  | .op (.abort reason) => (mcOtaAbort s reason, none)
  | .recoverAfterReset r => (mcOtaRecoverAfterReset s r, none)

/-- The Rust model after the same call; a C truth value is passed as a `bool`. -/
def callRust (m : OtaSlotModel) : SlotCall → OtaSlotModel × Option Bool
  | .init => (.new, none)
  | .op .beginDownload => (m.beginDownload, none)
  | .op (.finishDownload complete) =>
    ((m.finishDownload (complete != 0)).1, some (m.finishDownload (complete != 0)).2)
  | .op (.verify crcOk) => ((m.verify (crcOk != 0)).1, some (m.verify (crcOk != 0)).2)
  | .op .commit => (m.commit.1, some m.commit.2)
  | .op .reboot => (m.reboot, none)
  | .op (.healthCheck healthy) =>
    ((m.healthCheck (healthy != 0)).1, some (m.healthCheck (healthy != 0)).2)
  | .op .rollback => (m.rollback, none)
  | .op (.abort reason) => (m.abort reason, none)
  | .recoverAfterReset r => (m.recoverAfterReset r, none)

/-- The C model after a sequence of calls. -/
def slotRunC (calls : List SlotCall) : McOtaSlotState :=
  Core.run (fun s call => (callC s call).1) mcOtaInit calls

/-- The Rust model after the same calls. -/
def slotRunRust (calls : List SlotCall) : OtaSlotModel :=
  Core.run (fun m call => (callRust m call).1) .new calls

/-- The two models correspond field by field; the Rust state is the one the C byte stands
for. -/
structure Mirrors (s : McOtaSlotState) (m : OtaSlotModel) : Prop where
  /-- Same running slot. -/
  activeSlot : m.activeSlot = s.activeSlot
  /-- Same target. -/
  targetSlot : m.targetSlot = s.targetSlot
  /-- Same stage. -/
  state : m.state = .fromU8 s.state
  /-- Same download flag. -/
  imageWritten : m.imageWritten = s.imageWritten
  /-- Same verification flag. -/
  crcOk : m.crcOk = s.crcOk
  /-- Same boot flag. -/
  committed : m.committed = s.committed
  /-- Same self-test flag. -/
  bootHealthy : m.bootHealthy = s.bootHealthy
  /-- Same rollback flag. -/
  rolledBack : m.rolledBack = s.rolledBack
  /-- Same abort reason. -/
  abortReason : m.abortReason = s.abortReason

/-- The Rust model that mirrors a C state. -/
def McOtaSlotState.mirror (s : McOtaSlotState) : OtaSlotModel :=
  { activeSlot := s.activeSlot
    targetSlot := s.targetSlot
    state := .fromU8 s.state
    imageWritten := s.imageWritten
    crcOk := s.crcOk
    committed := s.committed
    bootHealthy := s.bootHealthy
    rolledBack := s.rolledBack
    abortReason := s.abortReason }

/-- The mirror is the only model that corresponds. -/
theorem mirrors_iff {s : McOtaSlotState} {m : OtaSlotModel} : Mirrors s m ↔ m = s.mirror := by
  constructor
  · rintro ⟨h1, h2, h3, h4, h5, h6, h7, h8, h9⟩
    cases m
    simp_all [McOtaSlotState.mirror]
  · rintro rfl
    exact ⟨rfl, rfl, rfl, rfl, rfl, rfl, rfl, rfl, rfl⟩

/-- The mirror passes a guard on one of the first six states exactly when the C state does. -/
theorem mirror_state_eq_iff (s : McOtaSlotState) (st : OtaState) (hst : st ≠ .rolledBack) :
    s.mirror.state = st ↔ s.state = st.asU8 :=
  OtaState.fromU8_eq_iff hst s.state

/-- Rolling back commutes with the mirror. -/
theorem mirror_rollback (s : McOtaSlotState) :
    (mcOtaRollback s).mirror = s.mirror.rollback := by
  have hguard := mirror_state_eq_iff s .healthy (by decide)
  unfold mcOtaRollback OtaSlotModel.rollback
  by_cases hs : s.state = mcOtaHealthy
  · rw [if_pos hs, if_pos (hguard.mpr hs)]
  · rw [if_neg hs, if_neg (mt hguard.mp hs)]
    rfl

/-- Beginning a download commutes with the mirror. -/
theorem mirror_beginDownload (s : McOtaSlotState) :
    (mcOtaBeginDownload s).mirror = s.mirror.beginDownload := by
  have hguard := mirror_state_eq_iff s .idle (by decide)
  unfold mcOtaBeginDownload OtaSlotModel.beginDownload
  by_cases hs : s.state = mcOtaIdle
  · rw [if_neg (not_not.mpr hs), if_neg (not_not.mpr (hguard.mpr hs))]
    rfl
  · rw [if_pos hs, if_pos (mt hguard.mp hs)]

/-- Finishing a download commutes with the mirror and returns the same. -/
theorem mirror_finishDownload (s : McOtaSlotState) (complete : Int) :
    ((mcOtaFinishDownload s complete).1.mirror, (mcOtaFinishDownload s complete).2) =
      s.mirror.finishDownload (complete != 0) := by
  have hguard := mirror_state_eq_iff s .downloading (by decide)
  unfold mcOtaFinishDownload OtaSlotModel.finishDownload
  by_cases hs : s.state = mcOtaDownloading
  · rw [if_neg (not_not.mpr hs), if_neg (not_not.mpr (hguard.mpr hs))]
    by_cases hc : complete = 0
    · simp [hc, mirror_rollback]
    · simp [hc, McOtaSlotState.mirror]
  · rw [if_pos hs, if_pos (mt hguard.mp hs)]

/-- Verifying commutes with the mirror and returns the same. -/
theorem mirror_verify (s : McOtaSlotState) (crcOk : Int) :
    ((mcOtaVerify s crcOk).1.mirror, (mcOtaVerify s crcOk).2) =
      s.mirror.verify (crcOk != 0) := by
  have hguard := mirror_state_eq_iff s .downloading (by decide)
  unfold mcOtaVerify OtaSlotModel.verify
  by_cases hs : s.state = mcOtaDownloading
  · rw [if_neg (not_not.mpr hs), if_neg (not_not.mpr (hguard.mpr hs))]
    by_cases hc : crcOk = 0
    · subst hc
      exact Prod.ext (mirror_rollback _) rfl
    · simp [hc, McOtaSlotState.mirror, OtaState.fromU8]
  · rw [if_pos hs, if_pos (mt hguard.mp hs)]

/-- Committing commutes with the mirror and returns the same. -/
theorem mirror_commit (s : McOtaSlotState) :
    ((mcOtaCommit s).1.mirror, (mcOtaCommit s).2) = s.mirror.commit := by
  have hguard := mirror_state_eq_iff s .verifying (by decide)
  unfold mcOtaCommit OtaSlotModel.commit
  by_cases hs : s.state = mcOtaVerifying
  · rw [if_neg (not_not.mpr hs), if_neg (not_not.mpr (hguard.mpr hs))]
    have hsame : (!s.mirror.imageWritten || !s.mirror.crcOk) = (!s.imageWritten || !s.crcOk) := rfl
    rw [hsame]
    by_cases hflags : (!s.imageWritten || !s.crcOk) = true
    · rw [if_pos hflags, if_pos hflags]
      exact Prod.ext (mirror_rollback s) rfl
    · rw [if_neg hflags, if_neg hflags]
      rfl
  · rw [if_pos hs, if_pos (mt hguard.mp hs)]

/-- Rebooting commutes with the mirror. -/
theorem mirror_reboot (s : McOtaSlotState) : (mcOtaReboot s).mirror = s.mirror.reboot := by
  have hguard := mirror_state_eq_iff s .commitPending (by decide)
  unfold mcOtaReboot OtaSlotModel.reboot
  by_cases hs : s.state = mcOtaCommitPending
  · rw [if_neg (not_not.mpr hs), if_neg (not_not.mpr (hguard.mpr hs))]
    rfl
  · rw [if_pos hs, if_pos (mt hguard.mp hs)]

/-- The self-test commutes with the mirror and returns the same. -/
theorem mirror_healthCheck (s : McOtaSlotState) (healthy : Int) :
    ((mcOtaHealthCheck s healthy).1.mirror, (mcOtaHealthCheck s healthy).2) =
      s.mirror.healthCheck (healthy != 0) := by
  have hguard := mirror_state_eq_iff s .rebooting (by decide)
  unfold mcOtaHealthCheck OtaSlotModel.healthCheck
  by_cases hs : s.state = mcOtaRebooting
  · rw [if_neg (not_not.mpr hs), if_neg (not_not.mpr (hguard.mpr hs))]
    have hboot : (healthy ≠ 0 ∧ s.committed = true) ↔
        (healthy != 0 && s.mirror.committed) = true := by
      rw [Bool.and_eq_true, bne_iff_ne]
      rfl
    by_cases hb : healthy ≠ 0 ∧ s.committed = true
    · rw [if_pos hb, if_pos (hboot.mp hb)]
      rfl
    · rw [if_neg hb, if_neg (mt hboot.mpr hb)]
      exact Prod.ext (mirror_rollback _) rfl
  · rw [if_pos hs, if_pos (mt hguard.mp hs)]

/-- Aborting commutes with the mirror. -/
theorem mirror_abort (s : McOtaSlotState) (reason : UInt8) :
    (mcOtaAbort s reason).mirror = s.mirror.abort reason := by
  have hguard := mirror_state_eq_iff s .healthy (by decide)
  unfold mcOtaAbort OtaSlotModel.abort
  by_cases hs : s.state = mcOtaHealthy
  · rw [if_pos hs, if_pos (hguard.mpr hs)]
  · rw [if_neg hs, if_neg (mt hguard.mp hs), ← mirror_rollback]
    rfl

/-- Both models boot the same slot. -/
theorem mirror_bootSlot (s : McOtaSlotState) : s.mirror.bootSlot = mcOtaBootSlot s := by
  have hguard := mirror_state_eq_iff s .healthy (by decide)
  have hboot : (s.state = mcOtaHealthy ∧ s.committed = true) ↔
      (s.mirror.state = .healthy && s.mirror.committed) = true := by
    rw [Bool.and_eq_true, decide_eq_true_iff, hguard]
    rfl
  unfold mcOtaBootSlot OtaSlotModel.bootSlot
  by_cases hb : s.state = mcOtaHealthy ∧ s.committed = true
  · rw [if_pos hb, if_pos (hboot.mp hb)]
    rfl
  · rw [if_neg hb, if_neg (mt hboot.mpr hb)]
    rfl

/-- Recovering commutes with the mirror, for a record of any bytes. -/
theorem mirror_recover (s : McOtaSlotState) (r : McOtaMetaRecord) :
    (mcOtaRecoverAfterReset s r).mirror = s.mirror.recoverAfterReset r := by
  simp [mcOtaRecoverAfterReset, OtaSlotModel.recoverAfterReset, McOtaSlotState.mirror,
    OtaState.asU8, bne, beq_eq_decide]
  exact ⟨rfl, rfl⟩

/-- One call commutes with the mirror and returns the same. -/
theorem callRust_mirror (s : McOtaSlotState) (call : SlotCall) :
    callRust s.mirror call = ((callC s call).1.mirror, (callC s call).2) := by
  cases call with
  | init => rfl
  | op op =>
    cases op with
    | beginDownload => exact Prod.ext (mirror_beginDownload s).symm rfl
    | finishDownload complete => simp only [callRust, callC, ← mirror_finishDownload]
    | verify crcOk => simp only [callRust, callC, ← mirror_verify]
    | commit => simp only [callRust, callC, ← mirror_commit]
    | reboot => exact Prod.ext (mirror_reboot s).symm rfl
    | healthCheck healthy => simp only [callRust, callC, ← mirror_healthCheck]
    | rollback => exact Prod.ext (mirror_rollback s).symm rfl
    | abort reason => exact Prod.ext (mirror_abort s reason).symm rfl
  | recoverAfterReset r => exact Prod.ext (mirror_recover s r).symm rfl

/-- Along every sequence of calls the Rust model is the mirror of the C model. -/
theorem slotRunRust_eq_mirror (calls : List SlotCall) :
    slotRunRust calls = (slotRunC calls).mirror := by
  have hstep (s : McOtaSlotState) (call : SlotCall) :
      (callRust s.mirror call).1 = (callC s call).1.mirror := by
    rw [callRust_mirror]
  change List.foldl (fun m call => (callRust m call).1) mcOtaInit.mirror calls =
    McOtaSlotState.mirror (List.foldl (fun s call => (callC s call).1) mcOtaInit calls)
  exact List.foldl_hom McOtaSlotState.mirror hstep

/-- The Rust model simulates the C model: after every sequence of calls, with records of
any bytes, the states correspond, the next call returns the same on both sides, and both
boot the same slot. The state bytes themselves agree exactly while the C byte is a listed
state. -/
theorem slotRunRust_mirrors (calls : List SlotCall) :
    Mirrors (slotRunC calls) (slotRunRust calls) ∧
    ((slotRunRust calls).state.asU8 = (slotRunC calls).state ↔
      (slotRunC calls).state ≤ mcOtaRolledBack) ∧
    (∀ call, (callRust (slotRunRust calls) call).2 = (callC (slotRunC calls) call).2) ∧
    mcOtaBootSlot (slotRunC calls) = (slotRunRust calls).bootSlot := by
  rw [slotRunRust_eq_mirror]
  refine ⟨mirrors_iff.mpr rfl, OtaState.asU8_fromU8_iff, ?_, (mirror_bootSlot _).symm⟩
  intro call
  rw [callRust_mirror]

end Microcar.Ota
