import Mathlib.Order.Bounds.Basic
import WispDisk.Driver.Blocks
import WispDisk.Lifecycle.Disks

/-! READ and WRITE on a disk of an admitted size: when data moves, which bytes move, and that the
two READ CAPACITY commands report the last block that can be read. -/
namespace WispDisk
open Layout
set_option autoImplicit false

namespace Scsi

/-! ## The responses of READ CAPACITY -/

theorem bigEndian32_bytesBE (value : ULONG) : bigEndian32 value = bytesBE 4 value.toNat := by
  have hbyte : ∀ k : UInt32, k.toNat < 32 →
      (value >>> k).toUInt8 = UInt8.ofNat (value.toNat / 2 ^ k.toNat) := fun k hk => by
    refine UInt8.toNat_inj.mp ?_
    rw [UInt32.toNat_toUInt8, UInt32.toNat_shiftRight, Nat.mod_eq_of_lt hk, UInt8.toNat_ofNat',
      Nat.shiftRight_eq_div_pow]
  have hlast : value.toUInt8 = UInt8.ofNat value.toNat := by
    refine UInt8.toNat_inj.mp ?_
    rw [UInt32.toNat_toUInt8, UInt8.toNat_ofNat']
  unfold bigEndian32
  rw [hbyte 24 (by decide), hbyte 16 (by decide), hbyte 8 (by decide), hlast]
  simp only [bytesBE, Nat.div_div_eq_div_mul, List.nil_append, List.cons_append]
  rfl

theorem bigEndian64_bytesBE (value : ULONGLONG) : bigEndian64 value = bytesBE 8 value.toNat := by
  have hbyte : ∀ k : UInt64, k.toNat < 64 →
      (value >>> k).toUInt8 = UInt8.ofNat (value.toNat / 2 ^ k.toNat) := fun k hk => by
    refine UInt8.toNat_inj.mp ?_
    rw [UInt64.toNat_toUInt8, UInt64.toNat_shiftRight, Nat.mod_eq_of_lt hk, UInt8.toNat_ofNat',
      Nat.shiftRight_eq_div_pow]
  have hrange : List.range 8 = [0, 1, 2, 3, 4, 5, 6, 7] := by decide
  unfold bigEndian64
  simp only [hrange, List.map_cons, List.map_nil, bytesBE, Nat.div_div_eq_div_mul, List.nil_append,
    List.cons_append]
  rw [hbyte _ (by decide), hbyte _ (by decide), hbyte _ (by decide), hbyte _ (by decide),
    hbyte _ (by decide), hbyte _ (by decide), hbyte _ (by decide), hbyte _ (by decide)]
  simp

theorem bigEndian32_length (value : ULONG) : (bigEndian32 value).length = 4 := rfl

/-- A response that is copied whole, or to a buffer with room for its first `n` bytes. -/
theorem copyScsiResponse_field {srb : ScsiRequestBlock} {buffer : Bytes}
    (hbuffer : srb.dataBuffer = some buffer) (responseLength : ULONG) (n value : ℕ)
    (post : List UInt8) (hlength : n ≤ responseLength.toNat)
    (hroom : n ≤ srb.dataTransferLength.toNat) :
    ∃ reply, (copyScsiResponse srb (bytesBE n value ++ post) responseLength).2.dataBuffer =
      some reply ∧ readBE reply 0 n = value % 256 ^ n := by
  have htransferred : n ≤ (if responseLength < srb.dataTransferLength then responseLength
      else srb.dataTransferLength).toNat := by
    split
    · exact hlength
    · exact hroom
  have htake (k : ℕ) (hk : n ≤ k) : (bytesBE n value ++ post).take k =
      [] ++ (bytesBE n value ++ post.take (k - n)) := by
    rw [List.take_append, bytesBE_length, List.take_of_length_le (by rw [bytesBE_length]; exact hk),
      List.nil_append]
  simp only [copyScsiResponse, hbuffer]
  refine ⟨_, rfl, ?_⟩
  rw [htake _ htransferred]
  exact readBE_bytesBE buffer 0 n value [] _

/-! ## The last block -/

/-- A one-block READ(16). -/
def readOneSrb (lba : ℕ) : ScsiRequestBlock where
  function := srbFunctionExecuteScsi
  cdbLength := 16
  dataTransferLength := 512
  dataBuffer := some fun _ => 0
  cdb := overwrite (fun _ => 0) 0 ([scsiopRead16, 0] ++ (bytesBE 8 lba ++ (bytesBE 4 1 ++ [])))

theorem readOneSrb_decode {lba : ℕ} (hlba : lba < 2 ^ 64) :
    decode (readOneSrb lba) = some { lba := lba, blocks := 1, isWrite := false } := by
  have hoperation : (readOneSrb lba).cdb 0 = scsiopRead16 := by simp [readOneSrb, overwrite]
  have hread : readBE (readOneSrb lba).cdb 2 8 = lba := by
    have h := readBE_bytesBE (fun _ => 0) 0 8 lba [scsiopRead16, 0] (bytesBE 4 1 ++ [])
    rw [Nat.mod_eq_of_lt (show lba < 256 ^ 8 from hlba)] at h
    exact h
  have hcount : readBE (readOneSrb lba).cdb 10 4 = 1 := by
    have h := readBE_bytesBE (fun _ => 0) 0 4 1 ([scsiopRead16, 0] ++ bytesBE 8 lba) []
    rw [List.length_append, bytesBE_length, List.append_assoc] at h
    exact h
  have hform : cdbForm scsiopRead16 =
      some { length := 16, lba := (readBE · 2 8), blocks := (readBE · 10 4) } := by
    unfold cdbForm
    rfl
  unfold decode
  rw [hoperation, hform]
  simp only [hread, hcount]
  rfl

/-- The LBAs of the one-block READs that succeed. -/
def readableBlocks (view : LunView) : Set ℕ :=
  {lba | ∃ backing srb, decode srb = some { lba := lba, blocks := 1, isWrite := false } ∧
    (handleReadWrite view backing srb).1 = srbStatusSuccess}

theorem readableBlocks_lt {view : LunView} {lba : ℕ} (h : lba ∈ readableBlocks view) :
    lba < view.sizeBytes.toNat / 512 := by
  obtain ⟨backing, srb, hdecode, hstatus⟩ := h
  have hspec := handleReadWrite_spec view backing srb
  generalize handleReadWrite view backing srb = result at hspec hstatus
  cases hspec with
  | moved e buffer hgranted hbuffer =>
    have he := Option.some.inj (hgranted.decoded.symm.trans hdecode)
    have hinside := hgranted.inDisk
    rw [he] at hinside
    exact hinside
  | empty e hdecoded hblocks =>
    have he := Option.some.inj (hdecoded.symm.trans hdecode)
    rw [he] at hblocks
    exact absurd hblocks one_ne_zero
  | refused senseKey additionalSenseCode _ =>
    exact absurd hstatus (setSense_spec srb senseKey additionalSenseCode).1

theorem readOneSrb_granted {view : LunView} {lba : ℕ} (h : lba < view.sizeBytes.toNat / 512) :
    Granted view (readOneSrb lba) { lba := lba, blocks := 1, isWrite := false } where
  decoded := readOneSrb_decode (by have := view.sizeBytes.toNat_lt; omega)
  positive := Nat.one_pos
  inDisk := h
  inLimit := show 1 * 512 ≤ 1024 * 1024 by omega
  inBuffer := show 1 * 512 ≤ (512 : ULONG).toNat by decide

theorem readableBlocks_of_lt {view : LunView} {lba : ℕ} (h : lba < view.sizeBytes.toNat / 512) :
    lba ∈ readableBlocks view := by
  have hgranted := readOneSrb_granted h
  refine ⟨fun _ => 0, readOneSrb lba, hgranted.decoded, ?_⟩
  have hspec := handleReadWrite_spec view (fun _ => 0) (readOneSrb lba)
  generalize handleReadWrite view (fun _ => 0) (readOneSrb lba) = result at hspec
  cases hspec with
  | moved => rfl
  | empty => rfl
  | refused _ _ hnone => exact absurd (hnone _ hgranted) nofun

/-- The last block of a disk, as both READ CAPACITY handlers compute it. -/
structure LastBlock (view : LunView) (last : ℕ) : Prop where
  value : (view.sizeBytes / kLogicalSectorSize.toUInt64 - 1).toNat = last
  small : last ≤ 0xFFFFFFFF
  succ : last + 1 = view.sizeBytes.toNat / 512

theorem lastBlock {view : LunView} (hsize : ValidSize view.sizeBytes) :
    LastBlock view (view.sizeBytes.toNat / 512 - 1) := by
  have hblocks : (view.sizeBytes / kLogicalSectorSize.toUInt64).toNat =
      view.sizeBytes.toNat / 512 := by
    rw [UInt64.toNat_div]
    rfl
  have hge := hsize.toNat_ge
  have hle := hsize.toNat_le
  refine ⟨?_, by omega, by omega⟩
  have hone : (1 : UInt64) ≤ view.sizeBytes / kLogicalSectorSize.toUInt64 := by
    rw [UInt64.le_iff_toNat_le, hblocks]
    change 1 ≤ _
    omega
  rw [UInt64.toNat_sub_of_le _ _ hone, hblocks]
  rfl

theorem LastBlock.reported {view : LunView} {last : ℕ} (h : LastBlock view last) :
    (if 0xFFFFFFFF < view.sizeBytes / kLogicalSectorSize.toUInt64 - 1 then (0xFFFFFFFF : ULONG)
      else (view.sizeBytes / kLogicalSectorSize.toUInt64 - 1).toUInt32).toNat = last := by
  have hsmall := h.small
  have hmax : (0xFFFFFFFF : UInt64).toNat = 4294967295 := by decide
  rw [if_neg (by rw [UInt64.lt_iff_toNat_lt, h.value, hmax]; omega), UInt64.toNat_toUInt32,
    h.value, Nat.mod_eq_of_lt (by omega)]

/-! ## Acceptance and capacity -/

/-- `HandleReadWrite` for one SRB: a granted transfer is made exactly, any other moves nothing. -/
structure TransfersExactly (view : LunView) (backing : Bytes) (srb : ScsiRequestBlock) : Prop where
  granted : ∀ e buffer, Granted view srb e → srb.dataBuffer = some buffer →
    handleReadWrite view backing srb = (srbStatusSuccess, moved backing buffer srb e)
  transferred : ∀ e buffer, Granted view srb e →
    (moved backing buffer srb e).1.dataTransferLength.toNat = e.blocks * 512
  inside : ∀ e, Granted view srb e → e.lba * 512 + e.blocks * 512 ≤ view.sizeBytes.toNat
  refused : (∀ e, Granted view srb e → srb.dataBuffer = none) →
    (handleReadWrite view backing srb).2.2 = backing ∧
      (handleReadWrite view backing srb).2.1.dataBuffer = srb.dataBuffer ∧
        (handleReadWrite view backing srb).2.1.dataTransferLength = 0
  parsed : (parseReadWriteCdb srb).map Transfer.extent = decode srb
  noWrap : ∀ t, parseReadWriteCdb srb = some t → NoWrap view t

/-- The READ CAPACITY commands report the last block that can be read. -/
def CapacityAgrees (view : LunView) : Prop :=
  ∃ last, IsGreatest (readableBlocks view) last ∧
    (∀ srb buffer, srb.dataBuffer = some buffer → 4 ≤ srb.dataTransferLength.toNat →
      ∃ reply, (handleReadCapacity10 view srb).2.dataBuffer = some reply ∧
        readBE reply 0 4 = last) ∧
    ∀ srb buffer, srb.dataBuffer = some buffer → 8 ≤ srb.dataTransferLength.toNat →
      16 ≤ srb.cdbLength → srb.cdb 1 &&& 0x1f = serviceActionReadCapacity16 →
      ∃ reply, (handleReadCapacity16 view srb).2.dataBuffer = some reply ∧
        readBE reply 0 8 = last

theorem transfersExactly (view : LunView) (backing : Bytes) (srb : ScsiRequestBlock) :
    TransfersExactly view backing srb := by
  have hspec := handleReadWrite_spec view backing srb
  refine ⟨fun e buffer hgranted hbuffer => ?_, fun e buffer hgranted => ?_, fun e hgranted => ?_,
    fun hnone => ?_, parse_decode srb, fun t _ => noWrap view t⟩
  · generalize handleReadWrite view backing srb = result at hspec ⊢
    cases hspec with
    | moved e' buffer' hgranted' hbuffer' =>
      rw [Option.some.inj (hgranted.decoded.symm.trans hgranted'.decoded),
        Option.some.inj (hbuffer.symm.trans hbuffer')]
    | empty e' hdecoded hblocks =>
      have hpositive := hgranted.positive
      rw [Option.some.inj (hgranted.decoded.symm.trans hdecoded), hblocks] at hpositive
      exact absurd hpositive (Nat.lt_irrefl 0)
    | refused _ _ hnone => exact nomatch hbuffer.symm.trans (hnone e hgranted)
  · have hlength : (moved backing buffer srb e).1.dataTransferLength =
        UInt32.ofNat (e.blocks * 512) := by
      unfold moved
      split <;> rfl
    have hlimit := hgranted.inLimit
    rw [hlength, UInt32.toNat_ofNat', Nat.mod_eq_of_lt (by omega)]
  · have hinside := hgranted.inDisk
    omega
  · generalize handleReadWrite view backing srb = result at hspec ⊢
    cases hspec with
    | moved e' buffer' hgranted' hbuffer' => exact nomatch hbuffer'.symm.trans (hnone e' hgranted')
    | empty => exact ⟨rfl, rfl, rfl⟩
    | refused senseKey additionalSenseCode _ =>
      have hsense := setSense_spec srb senseKey additionalSenseCode
      exact ⟨rfl, hsense.2.2, hsense.2.1⟩

theorem capacityAgrees {view : LunView} (hsize : ValidSize view.sizeBytes) :
    CapacityAgrees view := by
  have hlast := lastBlock hsize
  generalize view.sizeBytes.toNat / 512 - 1 = last at hlast
  have hsucc := hlast.succ
  have hsmall := hlast.small
  refine ⟨last, ⟨readableBlocks_of_lt (by omega), fun lba hlba => ?_⟩,
    fun srb buffer hbuffer hroom => ?_, fun srb buffer hbuffer hroom hcdb haction => ?_⟩
  · have hlt := readableBlocks_lt hlba
    omega
  · have hreply := copyScsiResponse_field hbuffer 8 4 last (bigEndian32 kLogicalSectorSize)
      (by decide) hroom
    simp only [handleReadCapacity10, bigEndian32_bytesBE, hlast.reported]
    rw [bigEndian32_bytesBE, Nat.mod_eq_of_lt (by omega)] at hreply
    exact hreply
  · have hreply := copyScsiResponse_field hbuffer 32 8 last
      (bigEndian32 kLogicalSectorSize ++ List.replicate 20 0) (by decide) hroom
    rw [Nat.mod_eq_of_lt (by omega)] at hreply
    unfold handleReadCapacity16
    rw [if_neg (by rw [not_or, UInt8.not_lt, not_not]; exact ⟨hcdb, haction⟩)]
    simp only [responseBuffer, bigEndian64_bytesBE, hlast.value, List.length_append,
      bytesBE_length, bigEndian32_length, List.append_assoc]
    exact hreply

/-- READ and WRITE move data exactly when the request fits, for every disk of an admitted size. -/
theorem read_write_capacity (view : LunView) (hsize : ValidSize view.sizeBytes) :
    (∀ backing srb, srb.cdb 0 ∈ readWriteOperations → TransfersExactly view backing srb) ∧
      CapacityAgrees view :=
  ⟨fun backing srb _ => transfersExactly view backing srb, capacityAgrees hsize⟩

/-- The smallest disk. -/
theorem read_write_capacity_smallest :
    let view : LunView :=
      { backingStore := 0, sizeBytes := kMinimumDiskSize, mediaKind := wispDiskMediaFixed,
        deviceId := 1 }
    (∀ backing srb, srb.cdb 0 ∈ readWriteOperations → TransfersExactly view backing srb) ∧
      CapacityAgrees view :=
  read_write_capacity _ ⟨by decide, by decide, by decide⟩

end Scsi

end WispDisk
