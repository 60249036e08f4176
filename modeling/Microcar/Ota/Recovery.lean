import Microcar.Core.Milestones
import Microcar.Ota.Reachable

/-!
# Power loss and recovery from the metadata record

A reset rebuilds the slot state from a metadata record that was persisted earlier, maybe
long before the reset. The record keeps the slots, the state byte and the boot flags; the
flags that only live in memory are derived from the state byte. Runs interleave calls,
persisted records and resets, and the invariant speaks of the live state together with
everything a record on flash could be recovered to.
-/

namespace Microcar.Ota

/-- The persistent metadata record, `mc_ota_meta_record_t`. -/
structure McOtaMetaRecord where
  /-- Marks a record on flash. -/
  magic : UInt32
  /-- Layout of the record. -/
  formatVersion : UInt8
  /-- Slot the bootloader runs. -/
  activeSlot : UInt8
  /-- Slot being written or armed. -/
  targetSlot : UInt8
  /-- Update state, any byte. -/
  state : UInt8
  /-- The boot flag points at the target slot. -/
  committed : UInt8
  /-- Boots tried so far. -/
  bootAttemptCount : UInt8
  /-- The self-test result. -/
  healthy : UInt8
  /-- Reason recorded by an abort. -/
  abortReason : UInt8
  /-- Age of the record, larger is newer. -/
  generation : UInt32
  /-- Bytes of the image. -/
  imageLength : UInt32
  /-- Checksum of the image. -/
  imageCrc32 : UInt32
  /-- Unused, zero. -/
  reserved : UInt32
  /-- Checksum of the record. -/
  recordCrc32 : UInt32
  deriving DecidableEq, Repr

/-- The record with every field zero. -/
def emptyRecord : McOtaMetaRecord := ⟨0, 0, 0, 0, 0, 0, 0, 0, 0, 0, 0, 0, 0, 0⟩

/-- Rebuild the slot state from a record, `mc_ota_recover_after_reset`. -/
def mcOtaRecoverAfterReset (s : McOtaSlotState) (r : McOtaMetaRecord) : McOtaSlotState :=
  { s with
    activeSlot := r.activeSlot
    targetSlot := r.targetSlot
    state := r.state
    committed := decide (r.committed ≠ 0)
    bootHealthy := decide (r.healthy ≠ 0)
    abortReason := r.abortReason
    imageWritten := decide (mcOtaCommitPending ≤ r.state)
    crcOk := decide (mcOtaCommitPending ≤ r.state)
    rolledBack := decide (r.state = mcOtaRolledBack) }

/-- The record that holds the persisted part of a slot state; the fields the slot state does
not have are those of `base`. -/
def McOtaMetaRecord.copyOf (base : McOtaMetaRecord) (s : McOtaSlotState) : McOtaMetaRecord :=
  { base with
    activeSlot := s.activeSlot
    targetSlot := s.targetSlot
    state := s.state
    committed := s.committed.toUInt8
    healthy := s.bootHealthy.toUInt8
    abortReason := s.abortReason }

/-- What a state persisted and recovered looks like: only the derived flags may differ. -/
theorem recover_copyOf (t s : McOtaSlotState) (base : McOtaMetaRecord) :
    mcOtaRecoverAfterReset t (base.copyOf s) = { s with
      imageWritten := decide (mcOtaCommitPending ≤ s.state)
      crcOk := decide (mcOtaCommitPending ≤ s.state)
      rolledBack := decide (s.state = mcOtaRolledBack) } := by
  obtain ⟨active, target, state, written, crc, committed, healthy, rolled, reason⟩ := s
  cases committed <;> cases healthy <;> rfl

/-! ### Runs with power loss -/

/-- The slot state in memory and the records persisted so far, oldest first. -/
structure OtaDevice where
  /-- The state in memory. -/
  live : McOtaSlotState
  /-- Every record written to flash. -/
  records : List McOtaMetaRecord

/-- One step of a device: a call, a persisted record, or a reset that recovers from the
record at a given position. -/
inductive OtaEvent where
  | call (op : OtaOp)
  | persist (base : McOtaMetaRecord)
  | reset (index : Nat)

/-- The device after one step; a reset without a record to recover from has no effect. -/
def otaDeviceStep (d : OtaDevice) : OtaEvent → OtaDevice
  | .call op => { d with live := otaStep d.live op }
  | .persist base => { d with records := d.records ++ [base.copyOf d.live] }
  | .reset index =>
    match d.records[index]? with
    | some r => { d with live := mcOtaRecoverAfterReset d.live r }
    | none => d

/-- The device after a history that starts with `mc_ota_init` and an empty flash. -/
def otaDeviceRun (evs : List OtaEvent) : OtaDevice :=
  Core.run otaDeviceStep ⟨mcOtaInit, []⟩ evs

/-- The call completed a download into slot B. -/
def FinishesB (past : List OtaEvent) (e : OtaEvent) : Prop :=
  ∃ complete, e = .call (.finishDownload complete) ∧ complete ≠ 0 ∧
    (otaDeviceRun past).live.targetSlot = mcOtaSlotB ∧
    (mcOtaFinishDownload (otaDeviceRun past).live complete).2 = true

/-- The call verified the image in slot B, behind a completed download. -/
def VerifiesB (past : List OtaEvent) (e : OtaEvent) : Prop :=
  ∃ crcOk, e = .call (.verify crcOk) ∧ crcOk ≠ 0 ∧
    (otaDeviceRun past).live.targetSlot = mcOtaSlotB ∧
    (mcOtaVerify (otaDeviceRun past).live crcOk).2 = true ∧
    Core.Since FinishesB (fun _ _ => True) past

/-- The call committed slot B, behind its verification. -/
def CommitsB (past : List OtaEvent) (e : OtaEvent) : Prop :=
  e = .call .commit ∧ (otaDeviceRun past).live.targetSlot = mcOtaSlotB ∧
    (mcOtaCommit (otaDeviceRun past).live).2 = true ∧
    Core.Since VerifiesB (fun _ _ => True) past

/-- What the history behind a slot state contains. It mentions no flag that a recovery
derives, except where recovery clears it. -/
structure InstallTrail (evs : List OtaEvent) (s : McOtaSlotState) : Prop where
  /-- An update that is under way installs slot B. -/
  target : s.state = mcOtaDownloading ∨ s.state = mcOtaVerifying ∨ s.state = mcOtaCommitPending ∨
    s.state = mcOtaRebooting → s.targetSlot = mcOtaSlotB
  /-- A written image is a completed download. -/
  written : s.state = mcOtaDownloading → s.imageWritten = true →
    Core.Since FinishesB (fun _ _ => True) evs
  /-- A written image under verification has been verified. -/
  verifying : s.state = mcOtaVerifying → s.imageWritten = true →
    Core.Since VerifiesB (fun _ _ => True) evs
  /-- An armed or booted slot was committed. -/
  committed : s.state = mcOtaCommitPending ∨ s.state = mcOtaRebooting ∨ s.state = mcOtaHealthy →
    Core.Since CommitsB (fun _ _ => True) evs
  /-- Only a healthy update replaces the factory slot. -/
  factory : s.state ≠ mcOtaHealthy → s.activeSlot = mcOtaSlotA

/-- A longer history contains what a shorter one does. -/
theorem InstallTrail.later {evs : List OtaEvent} {s : McOtaSlotState} (h : InstallTrail evs s)
    (e : OtaEvent) : InstallTrail (evs ++ [e]) s := by
  refine ⟨h.target, ?_, ?_, ?_, h.factory⟩
  · intro hs hw
    exact (h.written hs hw).wait trivial
  · intro hs hw
    exact (h.verifying hs hw).wait trivial
  · intro hs
    exact (h.committed hs).wait trivial

/-- A state that is persisted and recovered keeps its trail: below COMMIT_PENDING the
recovery forgets the image. -/
theorem InstallTrail.recover {evs : List OtaEvent} {s : McOtaSlotState} (h : InstallTrail evs s)
    (t : McOtaSlotState) (base : McOtaMetaRecord) :
    InstallTrail evs (mcOtaRecoverAfterReset t (base.copyOf s)) := by
  rw [recover_copyOf]
  refine ⟨h.target, ?_, ?_, h.committed, h.factory⟩
  · intro hs hw
    replace hs : s.state = mcOtaDownloading := hs
    simp [hs] at hw
  · intro hs hw
    replace hs : s.state = mcOtaVerifying := hs
    simp [hs] at hw

/-- Every call extends the trail of the state it leads to. -/
theorem InstallTrail.call {evs : List OtaEvent} (h : InstallTrail evs (otaDeviceRun evs).live)
    (op : OtaOp) :
    InstallTrail (evs ++ [.call op]) (otaStep (otaDeviceRun evs).live op) := by
  have hmove := otaStep_move (otaDeviceRun evs).live op
  generalize hs' : otaStep (otaDeviceRun evs).live op = s' at hmove
  cases hmove with
  | stay _ => exact h.later _
  | begins hs =>
    have hactive := h.factory (by rw [hs]; decide)
    refine ⟨fun _ => ?_, ?_, ?_, ?_, fun _ => hactive⟩
    · rw [hactive]
      rfl
    all_goals simp
  | @finishes complete harg hs =>
    have htarget := h.target (.inl hs)
    have hfinish : FinishesB evs (.call (.finishDownload complete)) :=
      ⟨complete, rfl, harg, htarget, by simp [mcOtaFinishDownload, hs, harg]⟩
    refine ⟨fun _ => htarget, fun _ _ => .reach hfinish, ?_, ?_, h.factory⟩ <;> simp [hs]
  | @verifies crcOk harg hs =>
    have htarget := h.target (.inl hs)
    have hactive := h.factory (by rw [hs]; decide)
    refine ⟨fun _ => htarget, ?_, fun _ hw => .reach ?_, ?_, fun _ => hactive⟩
    · simp
    · exact ⟨crcOk, rfl, harg, htarget, by simp [mcOtaVerify, hs, harg], h.written hs hw⟩
    · simp
  | commits hs hwritten hcrc =>
    have htarget := h.target (.inr (.inl hs))
    have hactive := h.factory (by rw [hs]; decide)
    have hcommit : CommitsB evs (.call .commit) :=
      ⟨rfl, htarget, by simp [mcOtaCommit, hs, hwritten, hcrc], h.verifying hs hwritten⟩
    refine ⟨fun _ => htarget, ?_, ?_, fun _ => .reach hcommit, fun _ => hactive⟩ <;> simp
  | reboots hs =>
    have htarget := h.target (.inr (.inr (.inl hs)))
    have hactive := h.factory (by rw [hs]; decide)
    have hcommitted := (h.committed (.inl hs)).wait (x := .call .reboot) trivial
    refine ⟨fun _ => htarget, ?_, ?_, fun _ => hcommitted, fun _ => hactive⟩ <;> simp
  | @boots healthy _ hs _ =>
    have hcommitted := (h.committed (.inr (.inl hs))).wait (x := .call (.healthCheck healthy))
      trivial
    refine ⟨?_, ?_, ?_, fun _ => hcommitted, fun hne => absurd rfl hne⟩ <;> simp
  | reverts hs hstate hactive _ _ =>
    refine ⟨?_, ?_, ?_, ?_, fun _ => hactive.trans (h.factory hs)⟩ <;> simp [hstate]

/-- The history behind a device: behind its live state and behind whatever one of its records
could be recovered to. -/
structure DeviceTrail (evs : List OtaEvent) (d : OtaDevice) : Prop where
  /-- The device is the one the history leads to. -/
  reached : d = otaDeviceRun evs
  /-- The trail of the live state. -/
  live : InstallTrail evs d.live
  /-- The trail of every recoverable state. -/
  records : ∀ r ∈ d.records, ∀ s, InstallTrail evs (mcOtaRecoverAfterReset s r)

/-- Every step of a device extends its history. -/
theorem DeviceTrail.step {evs : List OtaEvent} {d : OtaDevice} (h : DeviceTrail evs d)
    (e : OtaEvent) : DeviceTrail (evs ++ [e]) (otaDeviceStep d e) := by
  obtain ⟨rfl, hlive, hrecords⟩ := h
  have hreached : otaDeviceStep (otaDeviceRun evs) e = otaDeviceRun (evs ++ [e]) :=
    (Core.run_snoc _ _ evs e).symm
  have hold : ∀ r ∈ (otaDeviceRun evs).records, ∀ s,
      InstallTrail (evs ++ [e]) (mcOtaRecoverAfterReset s r) :=
    fun r hr s => (hrecords r hr s).later e
  refine ⟨hreached, ?_, ?_⟩
  · cases e with
    | call op => exact hlive.call op
    | persist base => exact hlive.later _
    | reset index =>
      simp only [otaDeviceStep]
      split
      · rename_i r hr
        exact hold r (List.mem_of_getElem? hr) (otaDeviceRun evs).live
      · exact hlive.later _
  · cases e with
    | call op => exact hold
    | persist base =>
      intro r hr s
      rcases List.mem_append.mp hr with hr | hr
      · exact hold r hr s
      · rw [List.mem_singleton.mp hr]
        exact (hlive.later _).recover s base
    | reset index =>
      simp only [otaDeviceStep]
      split <;> exact hold

/-- Every history with calls, persisted records and resets leaves its trail. -/
theorem deviceTrail_otaDeviceRun (evs : List OtaEvent) : DeviceTrail evs (otaDeviceRun evs) := by
  refine Core.run_history_invariant (R := DeviceTrail) ?_ (fun _ _ e h => h.step e) evs
  refine ⟨rfl, ?_, by simp⟩
  constructor <;> simp [mcOtaInit]

/-- A slot other than the factory slot is only booted in HEALTHY. -/
theorem InstallTrail.healthy_of_slotB {evs : List OtaEvent} {s : McOtaSlotState}
    (h : InstallTrail evs s) (hb : s.activeSlot = mcOtaSlotB ∨ mcOtaBootSlot s = mcOtaSlotB) :
    s.state = mcOtaHealthy := by
  by_contra hne
  have hactive := h.factory hne
  have hboot : mcOtaBootSlot s = s.activeSlot := by
    rw [mcOtaBootSlot, if_neg fun hs => hne hs.1]
  rw [hboot, or_self, hactive] at hb
  exact absurd hb (by decide)

/-- Whatever was persisted and whenever power was lost, slot B is active or booted only
behind a completed download into it, its verification and its commit, in this order. -/
theorem otaDeviceRun_slotB_installed (evs : List OtaEvent) :
    (otaDeviceRun evs).live.activeSlot = mcOtaSlotB ∨
      mcOtaBootSlot (otaDeviceRun evs).live = mcOtaSlotB →
    ∃ past finish mid verify late commit rest,
      evs = past ++ finish :: (mid ++ verify :: (late ++ commit :: rest)) ∧
      FinishesB past finish ∧ VerifiesB (past ++ finish :: mid) verify ∧
      CommitsB (past ++ finish :: (mid ++ verify :: late)) commit := by
  intro hb
  have htrail := (deviceTrail_otaDeviceRun evs).live
  obtain ⟨p, c, rest, rfl, hc, -⟩ := htrail.committed (.inr (.inr (htrail.healthy_of_slotB hb)))
  obtain ⟨q, v, late, rfl, hv, -⟩ := hc.2.2.2
  obtain ⟨past, f, mid, rfl, hf, -⟩ := hv.choose_spec.2.2.2.2
  refine ⟨past, f, mid, v, late, c, rest, by simp, hf, hv, ?_⟩
  simpa using hc

/-- An update that loses power between its commit and its reboot. -/
def powerCutUpdate (base : McOtaMetaRecord) : List OtaEvent :=
  [.call .beginDownload, .call (.finishDownload 1), .persist base, .call (.verify 1),
   .call .commit, .persist base, .reset 1, .call .reboot, .call (.healthCheck 1)]

/-- The interrupted update still installs slot B, behind its commit. -/
theorem powerCutUpdate_installs :
    (otaDeviceRun (powerCutUpdate emptyRecord)).live.activeSlot = mcOtaSlotB ∧
    ∃ past finish mid verify late commit rest,
      powerCutUpdate emptyRecord = past ++ finish :: (mid ++ verify :: (late ++ commit :: rest)) ∧
      FinishesB past finish ∧ VerifiesB (past ++ finish :: mid) verify ∧
      CommitsB (past ++ finish :: (mid ++ verify :: late)) commit := by
  have hactive : (otaDeviceRun (powerCutUpdate emptyRecord)).live.activeSlot = mcOtaSlotB := by
    decide
  exact ⟨hactive, otaDeviceRun_slotB_installed _ (.inl hactive)⟩

/-! ### What a recovery claims -/

/-- A rollback that takes effect drops the image. -/
theorem mcOtaRollback_flags {t : McOtaSlotState}
    (h : (mcOtaRollback t).state = mcOtaRolledBack) :
    (mcOtaRollback t).imageWritten = false ∧ (mcOtaRollback t).rolledBack = true := by
  have ht : t.state ≠ mcOtaHealthy := by
    intro hs
    rw [mcOtaRollback, if_pos hs, hs] at h
    exact absurd h (by decide)
  rw [mcOtaRollback, if_neg ht]
  exact ⟨rfl, rfl⟩

/-- A call that ends in ROLLED_BACK either found the slot there or dropped the image. -/
theorem otaStep_rolledBack_flags (s : McOtaSlotState) (op : OtaOp)
    (h : (otaStep s op).state = mcOtaRolledBack) :
    otaStep s op = s ∨
      (otaStep s op).imageWritten = false ∧ (otaStep s op).rolledBack = true := by
  cases op with
  | beginDownload =>
    simp only [otaStep, mcOtaBeginDownload] at h ⊢
    split_ifs at h ⊢
    · exact .inl rfl
    · simp at h
  | finishDownload complete =>
    simp only [otaStep, mcOtaFinishDownload] at h ⊢
    split_ifs at h ⊢ with hs
    · exact .inl rfl
    · exact .inr (mcOtaRollback_flags h)
    · exact absurd h (by rw [not_not.mp hs]; decide)
  | verify crcOk =>
    simp only [otaStep, mcOtaVerify] at h ⊢
    split_ifs at h ⊢
    · exact .inl rfl
    · simp at h
    · exact .inr (mcOtaRollback_flags h)
  | commit =>
    simp only [otaStep, mcOtaCommit] at h ⊢
    split_ifs at h ⊢
    · exact .inl rfl
    · exact .inr (mcOtaRollback_flags h)
    · simp at h
  | reboot =>
    simp only [otaStep, mcOtaReboot] at h ⊢
    split_ifs at h ⊢
    · exact .inl rfl
    · simp at h
  | healthCheck healthy =>
    simp only [otaStep, mcOtaHealthCheck] at h ⊢
    split_ifs at h ⊢
    · exact .inl rfl
    · simp at h
    · exact .inr (mcOtaRollback_flags h)
  | rollback => exact .inr (mcOtaRollback_flags h)
  | abort reason =>
    simp only [otaStep, mcOtaAbort] at h ⊢
    split_ifs at h ⊢
    · exact .inl rfl
    · exact .inr (mcOtaRollback_flags h)

/-- The image flags of a finished update, and the flag that marks a reverted one. -/
structure FlagInvariant (s : McOtaSlotState) : Prop where
  /-- Calls only produce the listed update states. -/
  bounded : s.state ≤ mcOtaRolledBack
  /-- A healthy update runs a written and verified image. -/
  healthy : s.state = mcOtaHealthy → s.imageWritten = true ∧ s.crcOk = true
  /-- A reverted update has no image. -/
  reverted : s.state = mcOtaRolledBack → s.imageWritten = false
  /-- The flag marks exactly the reverted updates. -/
  rolledBack : s.rolledBack = true ↔ s.state = mcOtaRolledBack

/-- Every call keeps the image flags. -/
theorem FlagInvariant.step {s : McOtaSlotState} (hslot : SlotInvariant s) (h : FlagInvariant s)
    (op : OtaOp) : FlagInvariant (otaStep s op) := by
  have hmove := otaStep_move s op
  have hflags := otaStep_rolledBack_flags s op
  generalize otaStep s op = t at hmove hflags
  have hunset (hs : s.state ≠ mcOtaRolledBack) : s.rolledBack = false := by
    rw [← Bool.not_eq_true, h.rolledBack]
    exact hs
  cases hmove with
  | stay _ => exact h
  | begins hs | finishes _ hs | verifies _ hs | commits hs _ _ | reboots hs =>
    have hr := hunset (by rw [hs]; decide)
    refine ⟨?_, ?_, ?_, ?_⟩ <;> simp [hs, hr]
  | boots _ hs _ =>
    have hr := hunset (by rw [hs]; decide)
    have harmed := hslot.armed (.inr hs)
    refine ⟨?_, fun _ => ⟨harmed.2.1, harmed.2.2.1⟩, ?_, ?_⟩ <;> simp [hr]
  | reverts hs hstate _ _ _ =>
    rcases hflags hstate with rfl | ⟨hwritten, hset⟩
    · exact h
    · refine ⟨?_, ?_, fun _ => hwritten, ?_⟩ <;> simp [hstate, hset]

/-- Every reachable slot state satisfies both invariants. -/
theorem flagInvariant_otaRun (ops : List OtaOp) : FlagInvariant (otaRun ops) := by
  have hboth : SlotInvariant (otaRun ops) ∧ FlagInvariant (otaRun ops) :=
    Core.run_invariant (I := fun s => SlotInvariant s ∧ FlagInvariant s)
      (fun _ op h => ⟨h.1.step op, h.2.step h.1 op⟩)
      ⟨slotInvariant_init, by constructor <;> simp [mcOtaInit]⟩ ops
  exact hboth.2

/-- The recovered state claims no image flag that the persisted state did not have, and
agrees with it on everything that is stored. -/
def RecoversFaithfully (s recovered : McOtaSlotState) : Prop :=
  (recovered.imageWritten = true → s.imageWritten = true) ∧
  (recovered.crcOk = true → s.crcOk = true) ∧
  recovered.activeSlot = s.activeSlot ∧ recovered.targetSlot = s.targetSlot ∧
  recovered.state = s.state ∧ recovered.committed = s.committed ∧
  recovered.bootHealthy = s.bootHealthy ∧ recovered.rolledBack = s.rolledBack ∧
  recovered.abortReason = s.abortReason

/-- A reachable state is recovered faithfully from a record of it unless it is ROLLED_BACK,
whose state byte passes for a committed one. -/
theorem recovers_faithfully_iff (ops : List OtaOp) (base : McOtaMetaRecord)
    (before : McOtaSlotState) :
    RecoversFaithfully (otaRun ops) (mcOtaRecoverAfterReset before (base.copyOf (otaRun ops))) ↔
      (otaRun ops).state ≠ mcOtaRolledBack := by
  have hslot := slotInvariant_otaRun ops
  have hflag := flagInvariant_otaRun ops
  rw [recover_copyOf]
  generalize otaRun ops = s at hslot hflag
  constructor
  · intro h hs
    have hwritten := h.1 (by simp [hs])
    rw [hflag.reverted hs] at hwritten
    exact absurd hwritten (by decide)
  · intro hs
    have himage (hle : mcOtaCommitPending ≤ s.state) : s.imageWritten = true ∧ s.crcOk = true := by
      have hstates : s.state = mcOtaCommitPending ∨ s.state = mcOtaRebooting ∨
          s.state = mcOtaHealthy := by
        have hbound := hflag.bounded
        simp only [mcOtaCommitPending, mcOtaRebooting, mcOtaHealthy, mcOtaRolledBack, ne_eq,
          UInt8.le_iff_toNat_le, UInt8.toNat_inj.symm] at hle hbound hs ⊢
        simp at *
        omega
      rcases hstates with hs | hs | hs
      · have harmed := hslot.armed (.inl hs)
        exact ⟨harmed.2.1, harmed.2.2.1⟩
      · have harmed := hslot.armed (.inr hs)
        exact ⟨harmed.2.1, harmed.2.2.1⟩
      · exact hflag.healthy hs
    refine ⟨fun hle => (himage (of_decide_eq_true hle)).1,
      fun hle => (himage (of_decide_eq_true hle)).2, rfl, rfl, rfl, rfl, rfl, ?_, rfl⟩
    rw [Bool.eq_iff_iff, decide_eq_true_iff, hflag.rolledBack]

/-- An update given up during its download is recovered with a written and verified image. -/
theorem reverted_update_recovers_image :
    ¬ RecoversFaithfully (otaRun [.beginDownload, .rollback])
      (mcOtaRecoverAfterReset mcOtaInit
        (emptyRecord.copyOf (otaRun [.beginDownload, .rollback]))) := by
  intro h
  have hwritten : (otaRun [.beginDownload, .rollback]).imageWritten = true := h.1 (by decide)
  exact absurd hwritten (by decide)

end Microcar.Ota
