import WispDisk.Driver.Scsi
import WispDisk.Foundations.BigEndian

/-! READ and WRITE over unbounded numbers. `decode` is what a CDB asks for, `Acceptable` when it is
granted; the fixed-width code agrees with both, and none of its computations wraps. -/
namespace WispDisk
open Layout
set_option autoImplicit false

namespace Scsi

/-! ## Big-endian fields of a CDB -/

theorem uint32_shift_byte {k : UInt32} (hk : k.toNat ≤ 24) (b : UInt8) :
    (b.toUInt32 <<< k).toNat = b.toNat <<< k.toNat := by
  have hb := b.toNat_lt
  rw [UInt32.toNat_shiftLeft, UInt8.toNat_toUInt32, Nat.mod_eq_of_lt (by omega : k.toNat < 32),
    Nat.mod_eq_of_lt]
  rw [Nat.shiftLeft_eq]
  have hpow : 2 ^ k.toNat ≤ 2 ^ 24 := Nat.pow_le_pow_right (by decide) hk
  exact Nat.lt_of_lt_of_le (Nat.mul_lt_mul_of_lt_of_le hb hpow (by decide)) (by decide)

theorem uint64_shift_byte {k : UInt64} (hk : k.toNat ≤ 24) (b : UInt8) :
    (b.toUInt64 <<< k).toNat = b.toNat <<< k.toNat := by
  have hb := b.toNat_lt
  rw [UInt64.toNat_shiftLeft, UInt8.toNat_toUInt64, Nat.mod_eq_of_lt (by omega : k.toNat < 64),
    Nat.mod_eq_of_lt]
  rw [Nat.shiftLeft_eq]
  have hpow : 2 ^ k.toNat ≤ 2 ^ 24 := Nat.pow_le_pow_right (by decide) hk
  exact Nat.lt_of_lt_of_le (Nat.mul_lt_mul_of_lt_of_le hb hpow (by decide)) (by decide)

theorem shiftLeft_shiftLeft_or (a b k : ℕ) : a <<< (8 + k) ||| b <<< k = (a <<< 8 ||| b) <<< k := by
  rw [Nat.shiftLeft_or_distrib, Nat.shiftLeft_add]

theorem readBigEndian32_toNat (m : Bytes) (o : ℕ) :
    (readBigEndian32 m o).toNat = readBE m o 4 := by
  unfold readBigEndian32
  rw [UInt32.toNat_or, UInt32.toNat_or, UInt32.toNat_or, uint32_shift_byte (by decide),
    uint32_shift_byte (by decide), uint32_shift_byte (by decide), UInt8.toNat_toUInt32]
  change (m o).toNat <<< (8 + 16) ||| _ <<< 16 ||| _ <<< 8 ||| _ = _
  rw [shiftLeft_shiftLeft_or]
  change _ <<< (8 + 8) ||| _ <<< 8 ||| _ = _
  rw [shiftLeft_shiftLeft_or, shiftLeft_or_byte (m (o + 3)).toNat_lt, shiftLeft_or_byte (m (o + 2)).toNat_lt,
    shiftLeft_or_byte (m (o + 1)).toNat_lt]
  simp [readBE]

theorem readBigEndian64_fold (m : Bytes) (o : ℕ) {n : ℕ} (hn : n ≤ 8) :
    ((List.range n).foldl (fun (result : UInt64) index =>
      (result <<< 8) ||| (m (o + index)).toUInt64) 0).toNat = readBE m o n := by
  induction n with
  | zero => rfl
  | succ n ih =>
    have hsegment := ih (by omega)
    have hlt := readBE_lt m o n
    have hpow : 256 ^ n ≤ 256 ^ 7 := Nat.pow_le_pow_right (by decide) (by omega)
    rw [List.range_succ, List.foldl_append, List.foldl_cons, List.foldl_nil,
      uint64_shift_or_byte (by rw [hsegment]; omega), hsegment, readBE]

theorem readBigEndian64_toNat (m : Bytes) (o : ℕ) :
    (readBigEndian64 m o).toNat = readBE m o 8 := readBigEndian64_fold m o (by decide)

/-! ## What a CDB asks for -/

/-- A contiguous run of blocks to read or write. -/
structure Extent where
  lba : ℕ
  blocks : ℕ
  isWrite : Bool
  deriving DecidableEq

/-- A CDB layout of READ and WRITE: its length and the places of its two fields. -/
structure CdbForm where
  length : UCHAR
  lba : Bytes → ℕ
  blocks : Bytes → ℕ

def cdbForm (operation : UCHAR) : Option CdbForm :=
  if operation = scsiopRead6 ∨ operation = scsiopWrite6 then
    some
      { length := 6
        lba := fun cdb => readBE cdb 1 3 % 2 ^ 21
        blocks := fun cdb => if cdb 4 = 0 then 256 else readBE cdb 4 1 }
  else if operation = scsiopRead ∨ operation = scsiopWrite then
    some { length := 10, lba := (readBE · 2 4), blocks := (readBE · 7 2) }
  else if operation = scsiopRead12 ∨ operation = scsiopWrite12 then
    some { length := 12, lba := (readBE · 2 4), blocks := (readBE · 6 4) }
  else if operation = scsiopRead16 ∨ operation = scsiopWrite16 then
    some { length := 16, lba := (readBE · 2 8), blocks := (readBE · 10 4) }
  else none

def decode (srb : ScsiRequestBlock) : Option Extent :=
  match cdbForm (srb.cdb 0) with
  | none => none
  | some form =>
    if srb.cdbLength < form.length then none
    else some
      { lba := form.lba srb.cdb
        blocks := form.blocks srb.cdb
        isWrite := isWriteOperation (srb.cdb 0) }

def Transfer.extent (t : Transfer) : Extent where
  lba := t.logicalBlock.toNat
  blocks := t.blockCount.toNat
  isWrite := t.isWrite

theorem lba6_toNat (b c d : UInt8) :
    (((b &&& 0x1f).toUInt64 <<< 16) ||| (c.toUInt64 <<< 8) ||| d.toUInt64).toNat =
      (65536 * b.toNat + 256 * c.toNat + d.toNat) % 2 ^ 21 := by
  have hmask : (b &&& 0x1f).toNat = b.toNat % 32 := Nat.and_two_pow_sub_one_eq_mod b.toNat 5
  rw [UInt64.toNat_or, UInt64.toNat_or, uint64_shift_byte (by decide),
    uint64_shift_byte (by decide), UInt8.toNat_toUInt64]
  change _ <<< (8 + 8) ||| _ <<< 8 ||| _ = _
  have hc := c.toNat_lt
  have hd := d.toNat_lt
  rw [shiftLeft_shiftLeft_or, shiftLeft_or_byte hd, shiftLeft_or_byte hc, hmask]
  omega

theorem count10_toNat (b c : UInt8) :
    ((b.toUInt32 <<< 8) ||| c.toUInt32).toNat = 256 * b.toNat + c.toNat := by
  rw [UInt32.toNat_or, uint32_shift_byte (by decide), UInt8.toNat_toUInt32]
  exact shiftLeft_or_byte c.toNat_lt

theorem guarded_extent {p : Prop} [Decidable p] {t : Transfer} {e : Extent} (h : t.extent = e) :
    (if p then none else some t).map Transfer.extent = if p then none else some e := by
  split
  · rfl
  · rw [Option.map_some, h]

/-- The four decoders read the fields without loss. -/
theorem parse_decode (srb : ScsiRequestBlock) :
    (parseReadWriteCdb srb).map Transfer.extent = decode srb := by
  unfold parseReadWriteCdb decode cdbForm
  simp only
  split
  · refine guarded_extent (Extent.mk.injEq .. ▸ ⟨?_, ?_, rfl⟩)
    · simp only [lba6_toNat, readBE, Nat.reduceAdd]
      congr 1
      omega
    · simp only [readBE]
      split
      · rfl
      · simp
  split
  · refine guarded_extent (Extent.mk.injEq .. ▸ ⟨?_, ?_, rfl⟩)
    · simp only [UInt32.toNat_toUInt64, readBigEndian32_toNat]
    · refine (count10_toNat _ _).trans ?_
      simp [readBE]
  split
  · refine guarded_extent (Extent.mk.injEq .. ▸ ⟨?_, readBigEndian32_toNat _ _, rfl⟩)
    simp only [UInt32.toNat_toUInt64, readBigEndian32_toNat]
  split
  · exact guarded_extent
      (Extent.mk.injEq .. ▸ ⟨readBigEndian64_toNat _ _, readBigEndian32_toNat _ _, rfl⟩)
  · rfl

/-! ## Granted transfers -/

/-- The numeric conditions under which an extent is transferred. -/
structure Granted (view : LunView) (srb : ScsiRequestBlock) (e : Extent) : Prop where
  decoded : decode srb = some e
  positive : 0 < e.blocks
  inDisk : e.lba + e.blocks ≤ view.sizeBytes.toNat / 512
  inLimit : e.blocks * 512 ≤ 1024 * 1024
  inBuffer : e.blocks * 512 ≤ srb.dataTransferLength.toNat

/-- What a granted transfer leaves: the SRB and the backing store. -/
def moved (backing buffer : Bytes) (srb : ScsiRequestBlock) (e : Extent) :
    ScsiRequestBlock × Bytes :=
  let transferred := UInt32.ofNat (e.blocks * 512)
  if e.isWrite then
    ({ srb with dataTransferLength := transferred },
      copyMemory backing (e.lba * 512) buffer 0 (e.blocks * 512))
  else
    ({ srb with
      dataBuffer := some (copyMemory buffer 0 backing (e.lba * 512) (e.blocks * 512))
      dataTransferLength := transferred }, backing)

theorem setSense_spec (srb : ScsiRequestBlock) (senseKey additionalSenseCode : UCHAR) :
    (setSense srb senseKey additionalSenseCode).1 ≠ srbStatusSuccess ∧
      (setSense srb senseKey additionalSenseCode).2.dataTransferLength = 0 ∧
        (setSense srb senseKey additionalSenseCode).2.dataBuffer = srb.dataBuffer := by
  have herror : srbStatusError ≠ srbStatusSuccess := by decide
  have hautosense : srbStatusError ||| srbStatusAutosenseValid ≠ srbStatusSuccess := by decide
  unfold setSense
  split
  · split
    · exact ⟨hautosense, rfl, rfl⟩
    · exact ⟨herror, rfl, rfl⟩
  · exact ⟨herror, rfl, rfl⟩

/-- The ways through `HandleReadWrite`. -/
inductive Transferred (view : LunView) (backing : Bytes) (srb : ScsiRequestBlock) :
    UCHAR × ScsiRequestBlock × Bytes → Prop
  | moved (e : Extent) (buffer : Bytes) (h : Granted view srb e)
      (hbuffer : srb.dataBuffer = some buffer) :
      Transferred view backing srb (srbStatusSuccess, moved backing buffer srb e)
  | empty (e : Extent) (hdecoded : decode srb = some e) (hblocks : e.blocks = 0) :
      Transferred view backing srb
        (srbStatusSuccess, { srb with dataTransferLength := 0 }, backing)
  | refused (senseKey additionalSenseCode : UCHAR)
      (h : ∀ e, Granted view srb e → srb.dataBuffer = none) :
      Transferred view backing srb ((setSense srb senseKey additionalSenseCode).1,
        (setSense srb senseKey additionalSenseCode).2, backing)

/-- No computation of `HandleReadWrite` wraps where it is made. -/
structure NoWrap (view : LunView) (t : Transfer) : Prop where
  blocks : (view.sizeBytes / kLogicalSectorSize.toUInt64).toNat = view.sizeBytes.toNat / 512
  remaining : t.logicalBlock < view.sizeBytes / kLogicalSectorSize.toUInt64 →
    (view.sizeBytes / kLogicalSectorSize.toUInt64 - t.logicalBlock).toNat =
      view.sizeBytes.toNat / 512 - t.logicalBlock.toNat
  offset : t.logicalBlock < view.sizeBytes / kLogicalSectorSize.toUInt64 →
    (t.logicalBlock * kLogicalSectorSize.toUInt64).toNat = t.logicalBlock.toNat * 512
  count64 : (t.blockCount.toUInt64 * kLogicalSectorSize.toUInt64).toNat = t.blockCount.toNat * 512
  count : ¬0xFFFFFFFF < t.blockCount.toUInt64 * kLogicalSectorSize.toUInt64 →
    (t.blockCount.toUInt64 * kLogicalSectorSize.toUInt64).toUInt32.toNat = t.blockCount.toNat * 512

theorem noWrap (view : LunView) (t : Transfer) : NoWrap view t := by
  have hsize := view.sizeBytes.toNat_lt
  have hcount := t.blockCount.toNat_lt
  have hsector : kLogicalSectorSize.toUInt64.toNat = 512 := by decide
  have hblocks : (view.sizeBytes / kLogicalSectorSize.toUInt64).toNat =
      view.sizeBytes.toNat / 512 := by
    rw [UInt64.toNat_div, hsector]
  have hcount64 : (t.blockCount.toUInt64 * kLogicalSectorSize.toUInt64).toNat =
      t.blockCount.toNat * 512 := by
    rw [UInt64.toNat_mul, UInt32.toNat_toUInt64, hsector, Nat.mod_eq_of_lt (by omega)]
  refine ⟨hblocks, fun hlt => ?_, fun hlt => ?_, hcount64, fun hle => ?_⟩
  · rw [UInt64.toNat_sub_of_le _ _ (UInt64.le_of_lt hlt), hblocks]
  · have hlt := UInt64.lt_iff_toNat_lt.mp hlt
    rw [hblocks] at hlt
    rw [UInt64.toNat_mul, hsector, Nat.mod_eq_of_lt (by omega)]
  · have hle := UInt64.le_iff_toNat_le.mp (UInt64.not_lt.mp hle)
    have hmax : (0xFFFFFFFF : UInt64).toNat = 4294967295 := by decide
    rw [hcount64, hmax] at hle
    rw [UInt64.toNat_toUInt32, hcount64, Nat.mod_eq_of_lt (by omega)]

theorem handleReadWrite_spec (view : LunView) (backing : Bytes) (srb : ScsiRequestBlock) :
    Transferred view backing srb (handleReadWrite view backing srb) := by
  have hdecode := parse_decode srb
  unfold handleReadWrite
  cases hparse : parseReadWriteCdb srb with
  | none =>
    rw [hparse, Option.map_none] at hdecode
    exact Transferred.refused _ _ fun e he => nomatch hdecode.trans he.decoded
  | some t =>
    rw [hparse, Option.map_some] at hdecode
    have hextent : ∀ e, Granted view srb e → e = t.extent := fun e he =>
      (Option.some.inj (hdecode.trans he.decoded)).symm
    have hwrap := noWrap view t
    have hcount := hwrap.count64
    simp only [transfer]
    split
    · rename_i hzero
      refine Transferred.empty t.extent hdecode.symm ?_
      rw [Transfer.extent, hzero]
      rfl
    · rename_i hzero
      have hpositive : 0 < t.blockCount.toNat := Nat.pos_of_ne_zero fun heq =>
        hzero (UInt32.toNat_inj.mp heq)
      split
      · rename_i hbeyond
        refine Transferred.refused _ _ fun e he => ?_
        have hfits := he.inDisk
        rw [hextent e he] at hfits
        simp only [Transfer.extent] at hfits
        rcases hbeyond with hlba | hblocks
        · have hlba := UInt64.le_iff_toNat_le.mp hlba
          rw [hwrap.blocks] at hlba
          omega
        · by_cases hlt : t.logicalBlock < view.sizeBytes / kLogicalSectorSize.toUInt64
          · have hblocks := UInt64.lt_iff_toNat_lt.mp hblocks
            rw [hwrap.remaining hlt, UInt32.toNat_toUInt64] at hblocks
            omega
          · have hlba := UInt64.le_iff_toNat_le.mp (UInt64.not_lt.mp hlt)
            rw [hwrap.blocks] at hlba
            omega
      · rename_i hinside
        rw [not_or, UInt64.not_le, UInt64.not_lt] at hinside
        have hfits := UInt64.le_iff_toNat_le.mp hinside.2
        rw [hwrap.remaining hinside.1, UInt32.toNat_toUInt64] at hfits
        have hlba := UInt64.lt_iff_toNat_lt.mp hinside.1
        rw [hwrap.blocks] at hlba
        split
        · rename_i hbuffer
          exact Transferred.refused _ _ fun _ _ => hbuffer
        · rename_i buffer hbuffer
          split
          · rename_i hlarge
            refine Transferred.refused _ _ fun e he => ?_
            have hlimit := he.inLimit
            have hroom := he.inBuffer
            rw [hextent e he] at hlimit hroom
            simp only [Transfer.extent] at hlimit hroom
            have hmax : kMaximumTransferLength.toUInt64.toNat = 1024 * 1024 := by decide
            have hmax' : (0xFFFFFFFF : UInt64).toNat = 4294967295 := by decide
            rcases hlarge with hlarge | hlarge | hlarge <;>
              have hlarge := UInt64.lt_iff_toNat_lt.mp hlarge <;>
              simp only [hcount, hmax, hmax', UInt32.toNat_toUInt64] at hlarge <;> omega
          · rename_i hsmall
            rw [not_or, not_or] at hsmall
            have hbytes := hwrap.count hsmall.2.1
            have hlimit := UInt64.le_iff_toNat_le.mp (UInt64.not_lt.mp hsmall.1)
            have hroom := UInt64.le_iff_toNat_le.mp (UInt64.not_lt.mp hsmall.2.2)
            have hmax : kMaximumTransferLength.toUInt64.toNat = 1024 * 1024 := by decide
            rw [hcount, hmax] at hlimit
            rw [hcount, UInt32.toNat_toUInt64] at hroom
            have hgranted : Granted view srb t.extent :=
              ⟨hdecode.symm, hpositive, by simp only [Transfer.extent]; omega, hlimit, hroom⟩
            have htransferred : (t.blockCount.toUInt64 * kLogicalSectorSize.toUInt64).toUInt32 =
                UInt32.ofNat (t.blockCount.toNat * 512) := by
              rw [← hbytes, UInt32.ofNat_toNat]
            have hmoved := @Transferred.moved view backing srb t.extent buffer hgranted hbuffer
            rw [htransferred] at hbytes
            simp only [hwrap.offset hinside.1, htransferred, hbytes]
            cases hwrite : t.isWrite with
            | true =>
              simp only [Scsi.moved, Transfer.extent, hwrite, if_true] at hmoved ⊢
              exact hmoved
            | false =>
              simp only [Scsi.moved, Transfer.extent, hwrite, Bool.false_eq_true, if_false]
                at hmoved ⊢
              exact hmoved

/-! ## Forms of one request -/

/-- An SRB with another CDB. -/
def withCdb (srb : ScsiRequestBlock) (cdb : Bytes) (cdbLength : UCHAR) : ScsiRequestBlock :=
  { srb with cdb := cdb, cdbLength := cdbLength }

theorem setSense_withCdb (srb : ScsiRequestBlock) (cdb : Bytes) (cdbLength : UCHAR)
    (senseKey additionalSenseCode : UCHAR) :
    setSense (withCdb srb cdb cdbLength) senseKey additionalSenseCode =
      ((setSense srb senseKey additionalSenseCode).1,
        withCdb (setSense srb senseKey additionalSenseCode).2 cdb cdbLength) := by
  obtain ⟨function, srbStatus, scsiStatus, pathId, targetId, lun, length, senseLength, transfer,
    data, sense, old⟩ := srb
  cases sense with
  | none => rfl
  | some sense =>
    by_cases hroom : kSenseDataLength ≤ senseLength.toNat
    · simp only [setSense, withCdb, if_pos hroom]
      exact if_pos hroom
    · simp only [setSense, withCdb, if_neg hroom]
      exact if_neg hroom

theorem transfer_withCdb (view : LunView) (backing : Bytes) (srb : ScsiRequestBlock) (cdb : Bytes)
    (cdbLength : UCHAR) (t : Transfer) :
    transfer view backing (withCdb srb cdb cdbLength) t =
      ((transfer view backing srb t).1, withCdb (transfer view backing srb t).2.1 cdb cdbLength,
        (transfer view backing srb t).2.2) := by
  unfold transfer
  split
  · rfl
  · simp only [invalidCdb, setSense_withCdb]
    split
    · rfl
    · cases hbuffer : srb.dataBuffer with
      | none => simp only [withCdb, hbuffer]
      | some buffer =>
        simp only [withCdb, hbuffer]
        split
        · rfl
        · split <;> rfl

theorem Transfer.extent_injective {t t' : Transfer} (h : t.extent = t'.extent) : t = t' := by
  obtain ⟨block, count, isWrite⟩ := t
  obtain ⟨block', count', isWrite'⟩ := t'
  simp only [Transfer.extent, Extent.mk.injEq] at h
  rw [UInt64.toNat_inj.mp h.1, UInt32.toNat_inj.mp h.2.1, h.2.2]

/-- Two CDBs that ask for the same blocks have the same effect. -/
theorem handleReadWrite_withCdb (view : LunView) (backing : Bytes) (srb : ScsiRequestBlock)
    (cdb : Bytes) (cdbLength : UCHAR) (h : decode (withCdb srb cdb cdbLength) = decode srb) :
    handleReadWrite view backing (withCdb srb cdb cdbLength) =
      ((handleReadWrite view backing srb).1,
        withCdb (handleReadWrite view backing srb).2.1 cdb cdbLength,
        (handleReadWrite view backing srb).2.2) := by
  have hparse : parseReadWriteCdb (withCdb srb cdb cdbLength) = parseReadWriteCdb srb := by
    rw [← parse_decode, ← parse_decode] at h
    exact Option.map_injective (fun _ _ => Transfer.extent_injective) h
  unfold handleReadWrite
  rw [hparse]
  cases parseReadWriteCdb srb with
  | none => simp only [invalidCdb, setSense_withCdb]
  | some t => exact transfer_withCdb view backing srb cdb cdbLength t

end Scsi

end WispDisk
