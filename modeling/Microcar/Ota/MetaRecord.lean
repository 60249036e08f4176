import Mathlib.Tactic.IntervalCases
import Microcar.Core.Crc
import Microcar.Ota.SlotModel

/-!
# The persistent metadata record

The record lies in flash as 32 packed bytes, two copies of it, each with a checksum over its
first 28 bytes. Firmware and mirror compute the checksum with the same bit-serial loop; it is
the reflected IEEE remainder, so a write torn within four bytes is always detected and the
other copy is taken.
-/

namespace Microcar.Ota

open Polynomial

/-! ### The checksum -/

/-- One bit of `mc_ota_crc32`; the mask is a signed negation, cast back. -/
def mcOtaCrc32Bit (crc : UInt32) : UInt32 :=
  let mask := (-(crc &&& 1).toInt32).toUInt32
  crc >>> 1 ^^^ (0xEDB88320 &&& mask)

/-- One byte of `mc_ota_crc32`. -/
def mcOtaCrc32Byte (crc : UInt32) (byte : UInt8) : UInt32 :=
  mcOtaCrc32Bit^[8] (crc ^^^ byte.toUInt32)

/-- The checksum of the first `len` bytes of a buffer, `mc_ota_crc32`. -/
def mcOtaCrc32 (data : List UInt8) (len : UInt32) : UInt32 :=
  (data.take len.toNat).foldl mcOtaCrc32Byte 0xFFFFFFFF ^^^ 0xFFFFFFFF

/-- One bit of `crc32`; the mask is a wrapping negation. -/
def crc32Bit (crc : UInt32) : UInt32 :=
  let mask := -(crc &&& 1)
  crc >>> 1 ^^^ (0xEDB88320 &&& mask)

/-- One byte of `crc32`. -/
def crc32Byte (crc : UInt32) (byte : UInt8) : UInt32 := crc32Bit^[8] (crc ^^^ byte.toUInt32)

/-- The checksum of a slice, `crc32` of the mirror. -/
def crc32 (data : List UInt8) : UInt32 := data.foldl crc32Byte 0xFFFFFFFF ^^^ 0xFFFFFFFF

/-- The IEEE polynomial. -/
noncomputable def ieeePoly : (ZMod 2)[X] :=
  X ^ 32 + X ^ 26 + X ^ 23 + X ^ 22 + X ^ 16 + X ^ 12 + X ^ 11 + X ^ 10 + X ^ 8 + X ^ 7 + X ^ 5 +
    X ^ 4 + X ^ 2 + X + 1

/-- The reflected IEEE checksum by its definition: the remainder of the message, lowest bit of
each byte first, behind an initial value of ones, read back reflected and inverted. -/
noncomputable def ieeeCrc32 (data : List UInt8) : UInt32 :=
  .ofBitVec (Core.polyRegister 32
    ((X ^ (8 * data.length) * Core.registerPoly (BitVec.allOnes 32) +
      X ^ 32 * Core.messagePoly (data.map UInt8.toBitVec)) %ₘ ieeePoly)) ^^^ 0xFFFFFFFF

/-- The generator without its highest term, reflected. -/
def ieeeGenerator : BitVec 32 := 0xEDB88320

theorem generatorPoly_ieeeGenerator : Core.generatorPoly ieeeGenerator = ieeePoly := by
  simp only [Core.generatorPoly, Core.registerPoly, ieeeGenerator, Finset.sum_range_succ,
    Finset.sum_range_zero, BitVec.reduceGetMsb, ieeePoly, if_true, Bool.false_eq_true, if_false]
  ring

/-- The lowest bit, as the masks read it. -/
theorem and_one_eq (crc : UInt32) :
    crc &&& 1 = if crc.toBitVec.getLsbD 0 then 1 else 0 := by
  apply UInt32.eq_of_toBitVec_eq
  have hlow : (crc &&& 1).toBitVec = (BitVec.ofBool (crc.toBitVec.getLsbD 0)).setWidth 32 :=
    BitVec.and_one_eq_setWidth_ofBool_getLsbD
  rw [hlow]
  cases crc.toBitVec.getLsbD 0 <;> rfl

/-- The masks select the polynomial exactly where the register drops a one. -/
theorem toBitVec_crc32Bit (crc : UInt32) :
    (crc32Bit crc).toBitVec = Core.crcShift ieeeGenerator crc.toBitVec := by
  rw [crc32Bit, and_one_eq, Core.crcShift]
  split
  · rfl
  · have hmask : (0xEDB88320 &&& -0 : UInt32) = 0 := by decide
    rw [hmask, UInt32.xor_zero]
    rfl

theorem mcOtaCrc32Bit_eq (crc : UInt32) : mcOtaCrc32Bit crc = crc32Bit crc := by
  rw [mcOtaCrc32Bit, crc32Bit, and_one_eq]
  split <;> rfl

theorem mcOtaCrc32_eq (data : List UInt8) (len : UInt32) :
    mcOtaCrc32 data len = crc32 (data.take len.toNat) := by
  have hbyte : mcOtaCrc32Byte = crc32Byte := by
    funext crc byte
    rw [mcOtaCrc32Byte, crc32Byte, funext mcOtaCrc32Bit_eq]
  rw [mcOtaCrc32, crc32, hbyte]

theorem toBitVec_crc32Byte (crc : UInt32) (byte : UInt8) :
    (crc32Byte crc byte).toBitVec =
      Core.crcByte ieeeGenerator crc.toBitVec byte.toBitVec := by
  have hiterate : ∀ (k : Nat) (x : UInt32),
      (crc32Bit^[k] x).toBitVec = (Core.crcShift ieeeGenerator)^[k] x.toBitVec := by
    intro k
    induction k with
    | zero =>
      intro x
      rfl
    | succ k ih =>
      intro x
      rw [Function.iterate_succ_apply, Function.iterate_succ_apply, ih, toBitVec_crc32Bit]
  rw [crc32Byte, hiterate, Core.crcByte]
  rfl

/-- The register behind a run of bytes. -/
theorem toBitVec_foldl_crc32Byte (data : List UInt8) (crc : UInt32) :
    (data.foldl crc32Byte crc).toBitVec =
      Core.crcRun ieeeGenerator crc.toBitVec (data.map UInt8.toBitVec) := by
  induction data generalizing crc with
  | nil => rfl
  | cons byte data ih =>
    rw [List.foldl_cons, ih, toBitVec_crc32Byte]
    rfl

/-- The loop computes the remainder. -/
theorem crc32_eq_ieeeCrc32 (data : List UInt8) : crc32 data = ieeeCrc32 data := by
  have hremainder := Core.registerPoly_crcRun ieeeGenerator (BitVec.allOnes 32) (by decide)
    (data.map UInt8.toBitVec)
  rw [List.length_map, generatorPoly_ieeeGenerator] at hremainder
  have hregister : data.foldl crc32Byte 0xFFFFFFFF = .ofBitVec (Core.crcRun ieeeGenerator
      (BitVec.allOnes 32) (data.map UInt8.toBitVec)) := by
    apply UInt32.eq_of_toBitVec_eq
    rw [toBitVec_foldl_crc32Byte]
    rfl
  rw [crc32, ieeeCrc32, ← hremainder, Core.polyRegister_registerPoly, hregister]

/-! ### Images of the record -/

/-- The bytes of one copy of the record in flash. -/
structure MetaImage where
  /-- The bytes in order. -/
  bytes : List UInt8
  /-- A record takes 32 bytes. -/
  length_eq : bytes.length = 32

/-- The byte at an offset. -/
def MetaImage.byte (m : MetaImage) (k : Nat) : UInt8 := m.bytes.getD k 0

/-- The little-endian word at an offset. -/
def MetaImage.dword (m : MetaImage) (k : Nat) : UInt32 :=
  Core.dwordOfBytes (m.byte (k + 3)) (m.byte (k + 2)) (m.byte (k + 1)) (m.byte k)

/-- The packed record that lies at the address of an image. -/
def MetaImage.record (m : MetaImage) : McOtaMetaRecord where
  magic := m.dword 0
  formatVersion := m.byte 4
  activeSlot := m.byte 5
  targetSlot := m.byte 6
  state := m.byte 7
  committed := m.byte 8
  bootAttemptCount := m.byte 9
  healthy := m.byte 10
  abortReason := m.byte 11
  generation := m.dword 12
  imageLength := m.dword 16
  imageCrc32 := m.dword 20
  reserved := m.dword 24
  recordCrc32 := m.dword 28

/-- Marks a record, `MC_OTA_META_MAGIC`. -/
def mcOtaMetaMagic : UInt32 := 0x4D434F54

/-- The only layout, `MC_OTA_META_FORMAT_VERSION`. -/
def mcOtaMetaFormatVersion : UInt8 := 1

/-- The checksum over bytes 0 to 27, `mc_ota_record_crc32`. -/
def mcOtaRecordCrc32 : Option MetaImage → UInt32
  | none => 0
  | some r => mcOtaCrc32 r.bytes 28

/-- Magic, format and checksum match, `mc_ota_record_valid`. -/
def mcOtaRecordValid : Option MetaImage → Bool
  | none => false
  | some r =>
    if r.record.magic ≠ mcOtaMetaMagic then false
    else if r.record.formatVersion ≠ mcOtaMetaFormatVersion then false
    else r.record.recordCrc32 == mcOtaRecordCrc32 (some r)

/-- The generation behind a pointer; no branch reads it through a null pointer. -/
def generationAt : Option MetaImage → UInt32
  | none => 0
  | some r => r.record.generation

/-- The valid copy with the higher generation, `mc_ota_select_record`. -/
def mcOtaSelectRecord (a b : Option MetaImage) : Option MetaImage :=
  let va := mcOtaRecordValid a
  let vb := mcOtaRecordValid b
  if va && vb then if generationAt b ≤ generationAt a then a else b
  else if va then a
  else if vb then b
  else none

/-! ### The mirror of the record -/

/-- The bytes of a word, lowest first, `to_le_bytes`. -/
def toLeBytes (w : UInt32) : List UInt8 :=
  [w.toUInt8, (w >>> 8).toUInt8, (w >>> 16).toUInt8, (w >>> 24).toUInt8]

namespace McOtaMetaRecord

/-- The layout on flash, `MetaRecord::to_bytes`. -/
def toBytes (r : McOtaMetaRecord) : List UInt8 :=
  toLeBytes r.magic ++
    [r.formatVersion, r.activeSlot, r.targetSlot, r.state, r.committed, r.bootAttemptCount,
      r.healthy, r.abortReason] ++
    toLeBytes r.generation ++ toLeBytes r.imageLength ++ toLeBytes r.imageCrc32 ++
    toLeBytes r.reserved ++ toLeBytes r.recordCrc32

/-- The image that `to_bytes` returns. -/
def toImage (r : McOtaMetaRecord) : MetaImage := ⟨r.toBytes, rfl⟩

/-- The checksum over bytes 0 to 27, `compute_record_crc32`. -/
def computeRecordCrc32 (r : McOtaMetaRecord) : UInt32 := crc32 (r.toBytes.take 28)

/-- Stamp magic, format and checksum, `finalize`. -/
def finalize (r : McOtaMetaRecord) : McOtaMetaRecord :=
  let r := { r with magic := mcOtaMetaMagic, formatVersion := mcOtaMetaFormatVersion }
  { r with recordCrc32 := r.computeRecordCrc32 }

/-- Magic, format and checksum match, `is_valid`. -/
def isValid (r : McOtaMetaRecord) : Bool :=
  r.magic == mcOtaMetaMagic && r.formatVersion == mcOtaMetaFormatVersion &&
    r.recordCrc32 == r.computeRecordCrc32

end McOtaMetaRecord

/-- The valid record with the higher generation, `select_record`. -/
def selectRecord (a b : McOtaMetaRecord) : Option McOtaMetaRecord :=
  match a.isValid, b.isValid with
  | true, true => some (if b.generation ≤ a.generation then a else b)
  | true, false => some a
  | false, true => some b
  | false, false => none

/-- The bytes of a composed word. -/
theorem toLeBytes_dwordOfBytes (b3 b2 b1 b0 : UInt8) :
    toLeBytes (Core.dwordOfBytes b3 b2 b1 b0) = [b0, b1, b2, b3] := by
  obtain ⟨h3, h2, h1, h0⟩ :=
    Core.dwordOfBytes_inj.mp (Core.dwordOfBytes_shifts (Core.dwordOfBytes b3 b2 b1 b0))
  rw [toLeBytes, h0, h1, h2, h3]

theorem MetaImage.ext_bytes {m m' : MetaImage} (h : m.bytes = m'.bytes) : m = m' := by
  cases m
  cases m'
  cases h
  rfl

theorem MetaImage.bytes_eq (m : MetaImage) : m.bytes = (List.range 32).map m.byte := by
  apply List.ext_getElem
  · rw [m.length_eq, List.length_map, List.length_range]
  · intro k hk _
    rw [List.getElem_map, List.getElem_range, MetaImage.byte, List.getD_eq_getElem _ _ hk]

/-- Every image is the layout of the record that lies in it. -/
theorem toImage_record (m : MetaImage) : m.record.toImage = m := by
  apply MetaImage.ext_bytes
  rw [m.bytes_eq]
  simp only [McOtaMetaRecord.toImage, McOtaMetaRecord.toBytes, MetaImage.record, MetaImage.dword,
    toLeBytes_dwordOfBytes]
  rfl

/-- The record in the layout of a record is that record. -/
theorem record_toImage (r : McOtaMetaRecord) : r.toImage.record = r := by
  obtain ⟨magic, version, active, target, state, committed, attempts, healthy, reason, generation,
    imageLength, imageCrc, reserved, recordCrc⟩ := r
  rw [MetaImage.record, McOtaMetaRecord.mk.injEq]
  exact ⟨Core.dwordOfBytes_shifts magic, rfl, rfl, rfl, rfl, rfl, rfl, rfl, rfl,
    Core.dwordOfBytes_shifts generation, Core.dwordOfBytes_shifts imageLength,
    Core.dwordOfBytes_shifts imageCrc, Core.dwordOfBytes_shifts reserved,
    Core.dwordOfBytes_shifts recordCrc⟩

theorem toBytes_record (m : MetaImage) : m.record.toBytes = m.bytes :=
  congrArg MetaImage.bytes (toImage_record m)

/-- An image is valid exactly when its record has the mark, the format and the checksum. -/
theorem mcOtaRecordValid_iff (m : MetaImage) :
    mcOtaRecordValid (some m) = true ↔ m.dword 0 = mcOtaMetaMagic ∧
      m.byte 4 = mcOtaMetaFormatVersion ∧ m.dword 28 = crc32 (m.bytes.take 28) := by
  have hcrc : mcOtaRecordCrc32 (some m) = crc32 (m.bytes.take 28) := mcOtaCrc32_eq m.bytes 28
  have hmagic : m.record.magic = m.dword 0 := rfl
  have hversion : m.record.formatVersion = m.byte 4 := rfl
  have hstored : m.record.recordCrc32 = m.dword 28 := rfl
  rw [mcOtaRecordValid, hcrc, hmagic, hversion, hstored]
  by_cases h0 : m.dword 0 = mcOtaMetaMagic
  · by_cases h4 : m.byte 4 = mcOtaMetaFormatVersion
    · simp [h0, h4]
    · simp [h0, h4]
  · simp [h0]

/-- The mirror accepts exactly the images that the firmware accepts. -/
theorem isValid_record (m : MetaImage) : m.record.isValid = mcOtaRecordValid (some m) := by
  rw [Bool.eq_iff_iff, mcOtaRecordValid_iff, McOtaMetaRecord.isValid,
    McOtaMetaRecord.computeRecordCrc32, toBytes_record]
  simp [MetaImage.record, and_assoc]

/-- Both loops compute the reflected IEEE checksum, every image of 32 bytes is the layout of
exactly one record, and both sides accept the same images. -/
theorem checksums_are_ieee (data : List UInt8) (len : UInt32) (image : MetaImage) :
    crc32 data = ieeeCrc32 data ∧ mcOtaCrc32 data len = crc32 (data.take len.toNat) ∧
      mcOtaCrc32 data len = ieeeCrc32 (data.take len.toNat) ∧
      (∃! r : McOtaMetaRecord, r.toImage = image) ∧
      ∀ r : McOtaMetaRecord, r.isValid = mcOtaRecordValid (some r.toImage) := by
  have hmirror := mcOtaCrc32_eq data len
  refine ⟨crc32_eq_ieeeCrc32 data, hmirror, ?_, ⟨image.record, toImage_record image, ?_⟩, ?_⟩
  · rw [hmirror, crc32_eq_ieeeCrc32]
  · rintro r rfl
    exact (record_toImage r).symm
  · intro r
    rw [← isValid_record, record_toImage]

/-! ### Torn writes -/

/-- The register behind a whole image. -/
def imageRegister (m : MetaImage) : BitVec 32 :=
  Core.crcRun ieeeGenerator (BitVec.allOnes 32) (m.bytes.map UInt8.toBitVec)

theorem bytes_eq_append (m : MetaImage) :
    m.bytes = m.bytes.take 28 ++ [m.byte 28, m.byte 29, m.byte 30, m.byte 31] := by
  rw [m.bytes_eq]
  rfl

/-- All valid images leave the same register, their checksum included. -/
theorem residue_imageRegister {m : MetaImage} (h : mcOtaRecordValid (some m) = true) :
    Core.residue ieeeGenerator (imageRegister m) = AdjoinRoot.mk (Core.generatorPoly ieeeGenerator)
      (X ^ 32 * Core.registerPoly (BitVec.allOnes 32)) := by
  obtain ⟨-, -, hcrc⟩ := (mcOtaRecordValid_iff m).mp h
  have hstored : (m.dword 28).toBitVec = Core.crcRun ieeeGenerator (BitVec.allOnes 32)
      ((m.bytes.take 28).map UInt8.toBitVec) ^^^ BitVec.allOnes 32 := by
    rw [hcrc, crc32, UInt32.toBitVec_xor, toBitVec_foldl_crc32Byte]
    rfl
  rw [imageRegister, bytes_eq_append, List.map_append]
  refine Core.residue_crcRun_check (by decide) ?_ ?_
  · rfl
  · rw [← Core.registerPoly_dwordOfBytes, ← hstored]
    rfl

theorem imageRegister_eq {m m' : MetaImage} (h : mcOtaRecordValid (some m) = true)
    (h' : mcOtaRecordValid (some m') = true) : imageRegister m = imageRegister m' :=
  Core.residue_injective ieeeGenerator
    ((residue_imageRegister h).trans (residue_imageRegister h').symm)

/-- The image differs from a record, and only within four consecutive bytes. -/
def TornFrom (m torn : MetaImage) : Prop :=
  torn ≠ m ∧ ∃ start, ∀ k, ¬ (start ≤ k ∧ k < start + 4) → torn.byte k = m.byte k

/-- Images agree where their bytes do. -/
theorem getElem?_bytes_eq {m m' : MetaImage} {k : Nat} (h : m.byte k = m'.byte k) :
    m.bytes[k]? = m'.bytes[k]? := by
  rw [m.bytes_eq, m'.bytes_eq, List.getElem?_map, List.getElem?_map]
  by_cases hk : k < 32
  · rw [List.getElem?_range hk, Option.map_some, Option.map_some, h]
  · rw [List.getElem?_eq_none (by rw [List.length_range]; omega)]
    rfl

/-- The bytes around a window. -/
theorem bytes_eq_window (m : MetaImage) (start : Nat) :
    m.bytes = m.bytes.take start ++ (m.bytes.drop start).take 4 ++ m.bytes.drop (start + 4) := by
  rw [List.append_assoc, ← List.drop_drop, List.take_append_drop, List.take_append_drop]

/-- A torn image is not valid. -/
theorem TornFrom.not_valid {m torn : MetaImage} (htorn : TornFrom m torn)
    (h : mcOtaRecordValid (some m) = true) : mcOtaRecordValid (some torn) = false := by
  obtain ⟨hne, start, hoff⟩ := htorn
  by_contra hvalid
  -- both images end in the same register, and around the window they agree
  have hregister := imageRegister_eq h (Bool.eq_true_of_not_eq_false hvalid)
  have hfront : torn.bytes.take start = m.bytes.take start := by
    apply List.ext_getElem?
    intro k
    rw [List.getElem?_take, List.getElem?_take]
    split
    · exact getElem?_bytes_eq (hoff k (by omega))
    · rfl
  have hback : torn.bytes.drop (start + 4) = m.bytes.drop (start + 4) := by
    apply List.ext_getElem?
    intro k
    rw [List.getElem?_drop, List.getElem?_drop]
    exact getElem?_bytes_eq (hoff _ (by omega))
  have hlengths : ((m.bytes.drop start).take 4).length =
      ((torn.bytes.drop start).take 4).length := by
    rw [List.length_take, List.length_take, List.length_drop, List.length_drop, m.length_eq,
      torn.length_eq]
  have hfour : ((m.bytes.drop start).take 4).length ≤ 4 := List.length_take_le _ _
  rw [imageRegister, imageRegister, bytes_eq_window m start, bytes_eq_window torn start,
    hfront, hback] at hregister
  simp only [List.map_append] at hregister
  have hwindow := Core.crcRun_window (by decide) (by decide)
    (by rw [List.length_map, List.length_map, hlengths]) (by rw [List.length_map]; omega) hregister
  apply hne
  apply MetaImage.ext_bytes
  rw [bytes_eq_window m start, bytes_eq_window torn start, hfront, hback,
    (List.map_injective_iff.mpr fun _ _ => UInt8.toBitVec_inj.mp) hwindow]

/-! ### The choice between the copies -/

/-- A corrupted copy is passed over. -/
theorem select_of_not_valid_left {a b : Option MetaImage} (ha : mcOtaRecordValid a = false)
    (hb : mcOtaRecordValid b = true) : mcOtaSelectRecord a b = b := by
  simp [mcOtaSelectRecord, ha, hb]

theorem select_of_not_valid_right {a b : Option MetaImage} (ha : mcOtaRecordValid a = true)
    (hb : mcOtaRecordValid b = false) : mcOtaSelectRecord a b = a := by
  simp [mcOtaSelectRecord, ha, hb]

/-- The branches of the choice. -/
theorem select_cases (a b : Option MetaImage) :
    (mcOtaRecordValid a = false ∧ mcOtaRecordValid b = false ∧ mcOtaSelectRecord a b = none) ∨
    (mcOtaRecordValid a = true ∧ mcOtaSelectRecord a b = a ∧
      (mcOtaRecordValid b = true → generationAt b ≤ generationAt a)) ∨
    (mcOtaRecordValid b = true ∧ mcOtaSelectRecord a b = b ∧
      (mcOtaRecordValid a = true → generationAt a ≤ generationAt b)) := by
  cases ha : mcOtaRecordValid a with
  | false =>
    cases hb : mcOtaRecordValid b with
    | false => exact .inl ⟨rfl, rfl, by simp [mcOtaSelectRecord, ha, hb]⟩
    | true => exact .inr (.inr ⟨rfl, select_of_not_valid_left ha hb, nofun⟩)
  | true =>
    cases hb : mcOtaRecordValid b with
    | false => exact .inr (.inl ⟨rfl, select_of_not_valid_right ha hb, nofun⟩)
    | true =>
      by_cases hle : generationAt b ≤ generationAt a
      · exact .inr (.inl ⟨rfl, by simp [mcOtaSelectRecord, ha, hb, hle], fun _ => hle⟩)
      · exact .inr (.inr ⟨rfl, by simp [mcOtaSelectRecord, ha, hb, hle],
          fun _ => UInt32.le_of_lt (UInt32.not_le.mp hle)⟩)

/-- A valid copy is there. -/
theorem exists_of_valid {a : Option MetaImage} (h : mcOtaRecordValid a = true) :
    ∃ r, a = some r := by
  cases a with
  | none => cases h
  | some r => exact ⟨r, rfl⟩

/-- Nothing is returned exactly when neither copy is valid. -/
theorem select_eq_none_iff (a b : Option MetaImage) : mcOtaSelectRecord a b = none ↔
    mcOtaRecordValid a = false ∧ mcOtaRecordValid b = false := by
  obtain ⟨ha, hb, hnone⟩ | ⟨ha, hsel, -⟩ | ⟨hb, hsel, -⟩ := select_cases a b
  · exact iff_of_true hnone ⟨ha, hb⟩
  · obtain ⟨r, rfl⟩ := exists_of_valid ha
    rw [hsel, ha]
    exact iff_of_false nofun nofun
  · obtain ⟨r, rfl⟩ := exists_of_valid hb
    rw [hsel, hb]
    exact iff_of_false nofun nofun

/-- What the choice returns: a copy that is valid, of a generation that no valid copy exceeds. -/
theorem select_eq_some {a b : Option MetaImage} {r : MetaImage}
    (h : mcOtaSelectRecord a b = some r) : (a = some r ∨ b = some r) ∧
      mcOtaRecordValid (some r) = true ∧
      ∀ s, (a = some s ∨ b = some s) → mcOtaRecordValid (some s) = true →
        s.record.generation ≤ r.record.generation := by
  obtain ⟨-, -, hnone⟩ | ⟨ha, hsel, hmax⟩ | ⟨hb, hsel, hmax⟩ := select_cases a b
  · rw [hnone] at h
    cases h
  · rw [hsel] at h
    subst h
    refine ⟨.inl rfl, ha, ?_⟩
    rintro s (hs | rfl) hvalid
    · cases hs
      exact UInt32.le_refl _
    · exact hmax hvalid
  · rw [hsel] at h
    subst h
    refine ⟨.inr rfl, hb, ?_⟩
    rintro s (rfl | hs) hvalid
    · exact hmax hvalid
    · cases hs
      exact UInt32.le_refl _

/-- The mirror chooses the same copy. -/
theorem selectRecord_record (a b : MetaImage) :
    selectRecord a.record b.record =
      (mcOtaSelectRecord (some a) (some b)).map MetaImage.record := by
  rw [selectRecord, isValid_record, isValid_record]
  cases ha : mcOtaRecordValid (some a) <;> cases hb : mcOtaRecordValid (some b)
  · simp [mcOtaSelectRecord, ha, hb]
  · simp [mcOtaSelectRecord, ha, hb]
  · simp [mcOtaSelectRecord, ha, hb]
  · by_cases hle : b.record.generation ≤ a.record.generation
    · simp [mcOtaSelectRecord, ha, hb, generationAt, hle]
    · simp [mcOtaSelectRecord, ha, hb, generationAt, hle]

/-- Every image that differs from a valid one within four consecutive bytes is rejected, so the
other copy is chosen; in general the choice is a valid copy of maximal generation. -/
theorem tornWrites_are_detected :
    (∀ m torn, mcOtaRecordValid (some m) = true → TornFrom m torn →
      mcOtaRecordValid (some torn) = false) ∧
    (∀ a b torn, mcOtaRecordValid (some a) = true → mcOtaRecordValid (some b) = true →
      (TornFrom a torn → mcOtaSelectRecord (some torn) (some b) = some b) ∧
      (TornFrom b torn → mcOtaSelectRecord (some a) (some torn) = some a)) ∧
    (∀ a b, mcOtaSelectRecord a b = none ↔
      mcOtaRecordValid a = false ∧ mcOtaRecordValid b = false) ∧
    ∀ a b r, mcOtaSelectRecord a b = some r → (a = some r ∨ b = some r) ∧
      mcOtaRecordValid (some r) = true ∧
      ∀ s, (a = some s ∨ b = some s) → mcOtaRecordValid (some s) = true →
        s.record.generation ≤ r.record.generation := by
  refine ⟨fun m torn h htorn => htorn.not_valid h, ?_, select_eq_none_iff,
    fun a b r h => select_eq_some h⟩
  intro a b torn ha hb
  exact ⟨fun htorn => select_of_not_valid_left (htorn.not_valid ha) hb,
    fun htorn => select_of_not_valid_right ha (htorn.not_valid hb)⟩

/-- A stamped record is valid. -/
theorem isValid_finalize (r : McOtaMetaRecord) : r.finalize.isValid = true := by
  have hcrc : r.finalize.recordCrc32 = r.finalize.computeRecordCrc32 := rfl
  rw [McOtaMetaRecord.isValid, ← hcrc]
  simp [McOtaMetaRecord.finalize]

/-- A stamped record of generation 1. -/
def firstRecord : McOtaMetaRecord := { emptyRecord with generation := 1 }.finalize

/-- The same record with only its generation rewritten. -/
def tornRecord : McOtaMetaRecord := { firstRecord with generation := 2 }

theorem tornFrom_firstRecord : TornFrom firstRecord.toImage tornRecord.toImage := by
  refine ⟨?_, 12, ?_⟩
  · intro h
    have hgeneration := congrArg (fun m => m.record.generation) h
    simp only [record_toImage] at hgeneration
    exact absurd hgeneration (by decide)
  · intro k hk
    by_cases hsize : k < 32
    · interval_cases k <;> first | rfl | exact absurd ⟨by decide, by decide⟩ hk
    · rw [MetaImage.byte, MetaImage.byte, List.getD_eq_default _ _ (by
        rw [MetaImage.length_eq]; omega), List.getD_eq_default _ _ (by
        rw [MetaImage.length_eq]; omega)]

/-- A torn generation field. -/
theorem tornWrites_are_detected_generation :
    mcOtaRecordValid (some firstRecord.toImage) = true ∧
      mcOtaSelectRecord (some tornRecord.toImage) (some firstRecord.toImage) =
        some firstRecord.toImage := by
  have hvalid : mcOtaRecordValid (some firstRecord.toImage) = true := by
    rw [← isValid_record, record_toImage]
    exact isValid_finalize _
  exact ⟨hvalid, (tornWrites_are_detected.2.1 _ _ _ hvalid hvalid).1 tornFrom_firstRecord⟩

end Microcar.Ota
