import WispDisk.Driver.Adapter
import WispDisk.Driver.Blocks

/-! The SCSI commands that return data honour two lengths: the allocation length of the CDB and the
length of the buffer. READ CAPACITY(16) alone passes over the first. -/
namespace WispDisk
open Layout
set_option autoImplicit false

namespace Scsi

/-! ## The commands -/

/-- The commands other than READ that return data. -/
inductive DataCommand
  | inquiry
  | requestSense
  | modeSense6
  | modeSense10
  | readCapacity10
  | readCapacity16
  | reportLuns
  deriving DecidableEq

namespace DataCommand

def operation : DataCommand → UCHAR
  | inquiry => scsiopInquiry
  | requestSense => scsiopRequestSense
  | modeSense6 => scsiopModeSense
  | modeSense10 => scsiopModeSense10
  | readCapacity10 => scsiopReadCapacity
  | readCapacity16 => scsiopReadCapacity16
  | reportLuns => scsiopReportLuns

/-- The allocation length in the CDB, for the commands that have one. -/
def allocationLength (cdb : Bytes) : DataCommand → Option ℕ
  | inquiry => some (readBE cdb 4 1)
  | requestSense => some (readBE cdb 4 1)
  | modeSense6 => some (readBE cdb 4 1)
  | modeSense10 => some (readBE cdb 7 2)
  | readCapacity10 => none
  | readCapacity16 => some (readBE cdb 10 4)
  | reportLuns => some (readBE cdb 6 4)

/-- The caching mode page, when the page code asks for it. -/
def modePages (pageCode : UCHAR) : List UCHAR :=
  if pageCode = 0x08 ∨ pageCode = 0x3f then [0x08, 0x12] ++ List.replicate 18 0 else []

/-- The whole response of a command, before either length cuts it. -/
def fullResponse (ext : AdapterExtension) (view : LunView) (cdb : Bytes) : DataCommand → List UCHAR
  | inquiry =>
    match inquiryResponse view (cdb 1 &&& 0x01 ≠ 0) (cdb 2) with
    | none => []
    | some (response, _) => response
  | requestSense => [scsiSenseErrorcodeFixedCurrent, 0, 0, 0, 0, 0, 0, 10] ++ List.replicate 10 0
  | modeSense6 =>
    let pages := modePages (cdb 2 &&& 0x3f)
    [UInt8.ofNat (3 + pages.length), 0, 0, 0] ++ pages
  | modeSense10 =>
    let pages := modePages (cdb 2 &&& 0x3f)
    [0, UInt8.ofNat (6 + pages.length), 0, 0, 0, 0, 0, 0] ++ pages
  | readCapacity10 =>
    let lastLba := view.sizeBytes / kLogicalSectorSize.toUInt64 - 1
    bigEndian32 (if 0xFFFFFFFF < lastLba then 0xFFFFFFFF else lastLba.toUInt32) ++
      bigEndian32 kLogicalSectorSize
  | readCapacity16 =>
    bigEndian64 (view.sizeBytes / kLogicalSectorSize.toUInt64 - 1) ++
      bigEndian32 kLogicalSectorSize ++ List.replicate 20 0
  | reportLuns => (reportLunsResponse (LunStore.snapshotOnlineLuns ext)).1

/-- How much of a full response the allocation length lets through. -/
def allowed (command : DataCommand) (cdb : Bytes) (full : ℕ) : ℕ :=
  match command.allocationLength cdb with
  | none => full
  | some allocation => min full allocation

end DataCommand

/-! ## Both lengths respected -/

/-- Of a response the first `limit` bytes were to be returned; the buffer and the SRB have exactly
those of them that fit. -/
structure Delivers (full : List UCHAR) (limit : ℕ) (srb : ScsiRequestBlock)
    (result : UCHAR × ScsiRequestBlock) : Prop where
  count : result.2.dataTransferLength.toNat = min limit srb.dataTransferLength.toNat
  written : ∀ buffer, srb.dataBuffer = some buffer → ∃ after, result.2.dataBuffer = some after ∧
    (∀ i, i < min limit srb.dataTransferLength.toNat → full[i]? = some (after i)) ∧
    ∀ i, min limit srb.dataTransferLength.toNat ≤ i → after i = buffer i
  /-- Without a buffer there is nothing to write. -/
  unbuffered : srb.dataBuffer = none → result.2.dataBuffer = none ∧ limit = 0
  overrun : result.1 = srbStatusDataOverrun ↔ srb.dataTransferLength.toNat < limit

/-- The command ended in a check condition with sense data. -/
def FailedWithSense (result : UCHAR × ScsiRequestBlock) : Prop :=
  result.1 &&& 0x3f = srbStatusError

theorem setSense_failed (srb : ScsiRequestBlock) (senseKey additionalSenseCode : UCHAR) :
    FailedWithSense (setSense srb senseKey additionalSenseCode) := by
  have hautosense : (srbStatusError ||| srbStatusAutosenseValid) &&& 0x3f = srbStatusError := by
    decide
  have herror : srbStatusError &&& 0x3f = srbStatusError := by decide
  unfold setSense
  split
  · split
    · exact hautosense
    · exact herror
  · exact herror

theorem invalidCdb_failed (srb : ScsiRequestBlock) : FailedWithSense (invalidCdb srb) :=
  setSense_failed _ _ _

/-- `CopyScsiResponse` delivers, unless it has no buffer for a response that is not empty. -/
theorem copyScsiResponse_delivers {srb : ScsiRequestBlock} {response full : List UCHAR}
    {responseLength : ULONG} (hfull : full <+: response) (hlength : responseLength.toNat ≤ full.length)
    (hsense : ¬ FailedWithSense (copyScsiResponse srb response responseLength)) :
    Delivers full responseLength.toNat srb (copyScsiResponse srb response responseLength) := by
  obtain ⟨rest, rfl⟩ := hfull
  unfold copyScsiResponse at hsense ⊢
  cases hbuffer : srb.dataBuffer with
  | none =>
    rw [hbuffer] at hsense
    by_cases hzero : responseLength = 0
    · subst hzero
      have hovershoot : srbStatusSuccess ≠ srbStatusDataOverrun := by decide
      refine ⟨(Nat.zero_min _).symm, fun buffer hsome => ?_, fun _ => ⟨rfl, rfl⟩,
        fun hstatus => absurd hstatus hovershoot, fun hlt => absurd hlt (Nat.not_lt_zero _)⟩
      rw [hbuffer] at hsome
      cases hsome
    · simp only [ne_eq, hzero, not_false_eq_true, if_true] at hsense
      exact absurd (invalidCdb_failed srb) hsense
  | some buffer =>
    simp only
    have htransferred : (if responseLength < srb.dataTransferLength then responseLength
        else srb.dataTransferLength).toNat =
          min responseLength.toNat srb.dataTransferLength.toNat := by
      by_cases hlt : responseLength < srb.dataTransferLength
      · rw [if_pos hlt]
        rw [UInt32.lt_iff_toNat_lt] at hlt
        omega
      · rw [if_neg hlt]
        rw [UInt32.lt_iff_toNat_lt] at hlt
        omega
    refine ⟨htransferred, fun given hgiven => ?_, fun hnone => ?_, ?_⟩
    · rw [hbuffer] at hgiven
      cases hgiven
      refine ⟨_, rfl, fun i hi => ?_, fun i hi => ?_⟩
      · have htaken : i < ((full ++ rest).take
            (min responseLength.toNat srb.dataTransferLength.toNat)).length := by
          rw [List.length_take, List.length_append]
          omega
        have hinside := overwrite_inside buffer 0 _ htaken
        rw [Nat.zero_add, List.getElem_take, List.getElem_append_left (by omega)] at hinside
        rw [htransferred, hinside]
        exact List.getElem?_eq_getElem (by omega)
      · apply overwrite_after
        rw [htransferred, List.length_take, List.length_append]
        omega
    · rw [hbuffer] at hnone
      cases hnone
    · have hdifferent : srbStatusSuccess ≠ srbStatusDataOverrun := by decide
      rw [← UInt32.lt_iff_toNat_lt]
      by_cases hlt : srb.dataTransferLength < responseLength
      · rw [if_pos hlt]
        exact ⟨fun _ => hlt, fun _ => rfl⟩
      · rw [if_neg hlt]
        exact ⟨fun hstatus => absurd hstatus hdifferent, fun h => absurd h hlt⟩

theorem clamp_toNat (responseLength allocationLength : ULONG) :
    (clamp responseLength allocationLength).toNat =
      min responseLength.toNat allocationLength.toNat := by
  unfold clamp
  by_cases hlt : allocationLength < responseLength
  · rw [if_pos hlt]
    rw [UInt32.lt_iff_toNat_lt] at hlt
    omega
  · rw [if_neg hlt]
    rw [UInt32.lt_iff_toNat_lt] at hlt
    omega

/-- A response clamped to its allocation length delivers. -/
theorem clamped_delivers {srb : ScsiRequestBlock} {response full : List UCHAR}
    {responseLength allocationLength : ULONG} {allocation : ℕ} (hfull : full <+: response)
    (hlength : responseLength.toNat = full.length) (hallocation : allocationLength.toNat = allocation)
    (hsense : ¬ FailedWithSense
      (copyScsiResponse srb response (clamp responseLength allocationLength))) :
    Delivers full (min full.length allocation) srb
      (copyScsiResponse srb response (clamp responseLength allocationLength)) := by
  have hclamp := clamp_toNat responseLength allocationLength
  rw [hlength, hallocation] at hclamp
  rw [← hclamp]
  apply copyScsiResponse_delivers hfull _ hsense
  rw [hclamp]
  exact Nat.min_le_left _ _

/-! ## One command at a time -/

variable {ext : AdapterExtension} {view : LunView} {srb : ScsiRequestBlock}

theorem readBE_one (m : Bytes) (o : ℕ) : readBE m o 1 = (m o).toNat := by
  simp [readBE]

theorem responseBuffer_begins (size : ℕ) (bytes : List UCHAR) : bytes <+: responseBuffer size bytes :=
  List.prefix_append _ _

theorem inquiryResponse_length {enableVitalProductData : Bool} {pageCode : UCHAR}
    {response : List UCHAR} {responseLength : ULONG}
    (h : inquiryResponse view enableVitalProductData pageCode = some (response, responseLength)) :
    responseLength.toNat = response.length := by
  unfold inquiryResponse at h
  repeat' split at h
  all_goals cases h
  all_goals rfl

theorem handleInquiry_delivers (hsense : ¬ FailedWithSense (handleInquiry view srb)) :
    Delivers (DataCommand.inquiry.fullResponse ext view srb.cdb)
      (DataCommand.inquiry.allowed srb.cdb
        (DataCommand.inquiry.fullResponse ext view srb.cdb).length) srb (handleInquiry view srb) := by
  show Delivers _ (min _ (readBE srb.cdb 4 1)) _ _
  rw [readBE_one]
  unfold handleInquiry DataCommand.fullResponse at *
  split at hsense
  · exact absurd (invalidCdb_failed srb) hsense
  rename_i hcdb
  rw [if_neg hcdb]
  cases hresponse : inquiryResponse view (srb.cdb 1 &&& 0x01 ≠ 0) (srb.cdb 2) with
  | none =>
    rw [hresponse] at hsense
    exact absurd (invalidCdb_failed srb) hsense
  | some pair =>
    obtain ⟨response, responseLength⟩ := pair
    rw [hresponse] at hsense
    exact clamped_delivers (responseBuffer_begins _ _) (inquiryResponse_length hresponse)
      (UInt8.toNat_toUInt32 _) hsense

variable (ext view) in
theorem handleRequestSense_delivers (hsense : ¬ FailedWithSense (handleRequestSense srb)) :
    Delivers (DataCommand.requestSense.fullResponse ext view srb.cdb)
      (DataCommand.requestSense.allowed srb.cdb
        (DataCommand.requestSense.fullResponse ext view srb.cdb).length) srb
      (handleRequestSense srb) := by
  show Delivers _ (min _ (readBE srb.cdb 4 1)) _ _
  rw [readBE_one]
  unfold handleRequestSense at *
  split at hsense
  · exact absurd (invalidCdb_failed srb) hsense
  rename_i hcdb
  rw [if_neg hcdb]
  exact clamped_delivers List.prefix_rfl rfl (UInt8.toNat_toUInt32 _) hsense

/-- The buffer of MODE SENSE begins with the whole response. -/
theorem modeSenseResponse_full (tenByte : Bool) (pageCode : UCHAR) :
    let full := if tenByte then
        [0, UInt8.ofNat (6 + (DataCommand.modePages pageCode).length), 0, 0, 0, 0, 0, 0] ++
          DataCommand.modePages pageCode
      else [UInt8.ofNat (3 + (DataCommand.modePages pageCode).length), 0, 0, 0] ++
        DataCommand.modePages pageCode
    let sent := modeSenseResponse tenByte (pageCode = 0x08 ∨ pageCode = 0x3f)
    full <+: responseBuffer 32 sent.1 ∧ sent.2.toNat = full.length := by
  unfold DataCommand.modePages
  by_cases hpage : pageCode = 0x08 ∨ pageCode = 0x3f
  · simp only [hpage, decide_true, if_true]
    cases tenByte with
    | true => decide
    | false => decide
  · simp only [hpage, decide_false, if_false]
    cases tenByte with
    | true => decide
    | false => decide

theorem handleModeSense_delivers {tenByte : Bool} {full : List UCHAR} {allocation : ℕ}
    (hfull : full = if tenByte then
        [0, UInt8.ofNat (6 + (DataCommand.modePages (srb.cdb 2 &&& 0x3f)).length), 0, 0, 0, 0, 0, 0] ++
          DataCommand.modePages (srb.cdb 2 &&& 0x3f)
      else [UInt8.ofNat (3 + (DataCommand.modePages (srb.cdb 2 &&& 0x3f)).length), 0, 0, 0] ++
        DataCommand.modePages (srb.cdb 2 &&& 0x3f))
    (hallocation : (if tenByte then ((srb.cdb 7).toUInt32 <<< 8) ||| (srb.cdb 8).toUInt32
      else (srb.cdb 4).toUInt32).toNat = allocation)
    (hsense : ¬ FailedWithSense (handleModeSense srb tenByte)) :
    Delivers full (min full.length allocation) srb (handleModeSense srb tenByte) := by
  obtain ⟨hbegins, hlength⟩ := modeSenseResponse_full tenByte (srb.cdb 2 &&& 0x3f)
  rw [← hfull] at hbegins hlength
  unfold handleModeSense at *
  by_cases hcdb : srb.cdbLength < if tenByte then 10 else 6
  · rw [if_pos hcdb] at hsense
    exact absurd (invalidCdb_failed srb) hsense
  rw [if_neg hcdb] at hsense ⊢
  by_cases hpage : srb.cdb 2 &&& 0x3f ≠ 0x00 ∧ srb.cdb 2 &&& 0x3f ≠ 0x08 ∧ srb.cdb 2 &&& 0x3f ≠ 0x3f
  · simp only [hpage, and_self, ne_eq, not_false_eq_true, if_true] at hsense
    exact absurd (invalidCdb_failed srb) hsense
  simp only [if_neg hpage] at hsense ⊢
  exact clamped_delivers hbegins hlength hallocation hsense

theorem handleReadCapacity10_delivers (hsense : ¬ FailedWithSense (handleReadCapacity10 view srb)) :
    Delivers (DataCommand.readCapacity10.fullResponse ext view srb.cdb)
      (DataCommand.readCapacity10.allowed srb.cdb
        (DataCommand.readCapacity10.fullResponse ext view srb.cdb).length) srb
      (handleReadCapacity10 view srb) := by
  show Delivers _ (8 : ULONG).toNat _ _
  apply copyScsiResponse_delivers List.prefix_rfl _ hsense
  exact Nat.le_refl 8

theorem entries_length (luns : List UCHAR) :
    (luns.flatMap fun lun => ([0, lun, 0, 0, 0, 0, 0, 0] : List UCHAR)).length =
      8 * luns.length := by
  induction luns with
  | nil => rfl
  | cons lun luns ih =>
    rw [List.flatMap_cons, List.length_append, ih]
    show 8 + 8 * luns.length = 8 * (luns.length + 1)
    omega

variable (ext view) in
theorem handleReportLuns_delivers (hsense : ¬ FailedWithSense (handleReportLuns ext srb)) :
    Delivers (DataCommand.reportLuns.fullResponse ext view srb.cdb)
      (DataCommand.reportLuns.allowed srb.cdb
        (DataCommand.reportLuns.fullResponse ext view srb.cdb).length) srb
      (handleReportLuns ext srb) := by
  show Delivers _ (min _ (readBE srb.cdb 6 4)) _ _
  unfold handleReportLuns DataCommand.fullResponse at *
  split at hsense
  · exact absurd (invalidCdb_failed srb) hsense
  rename_i hcdb
  rw [if_neg hcdb]
  apply clamped_delivers (responseBuffer_begins _ _) _ (readBigEndian32_toNat _ _) hsense
  have honline : (LunStore.snapshotOnlineLuns ext).length ≤ 16 := by
    have hindices : LunStore.indices.length = 16 := List.length_finRange
    rw [LunStore.snapshotOnlineLuns, List.length_map, ← hindices]
    exact List.length_filter_le _ _
  have hentries := entries_length (LunStore.snapshotOnlineLuns ext)
  show (8 + UInt32.ofNat (LunStore.snapshotOnlineLuns ext).length * 8).toNat =
    (_ ++ (LunStore.snapshotOnlineLuns ext).flatMap _).length
  rw [List.length_append, hentries, UInt32.toNat_add, UInt32.toNat_mul, UInt32.toNat_ofNat']
  show (8 + _ % 2 ^ 32 * 8 % 2 ^ 32) % 2 ^ 32 = 8 + _
  omega

/-- The handler of each command. -/
def DataCommand.respond (ext : AdapterExtension) (view : LunView) (srb : ScsiRequestBlock) :
    DataCommand → UCHAR × ScsiRequestBlock
  | inquiry => handleInquiry view srb
  | requestSense => handleRequestSense srb
  | modeSense6 => handleModeSense srb false
  | modeSense10 => handleModeSense srb true
  | readCapacity10 => handleReadCapacity10 view srb
  | readCapacity16 => handleReadCapacity16 view srb
  | reportLuns => handleReportLuns ext srb

theorem DataCommand.respond_delivers (command : DataCommand) (hother : command ≠ .readCapacity16)
    (hsense : ¬ FailedWithSense (command.respond ext view srb)) :
    Delivers (command.fullResponse ext view srb.cdb)
      (command.allowed srb.cdb (command.fullResponse ext view srb.cdb).length) srb
      (command.respond ext view srb) := by
  cases command with
  | inquiry => exact handleInquiry_delivers hsense
  | requestSense => exact handleRequestSense_delivers ext view hsense
  | modeSense6 =>
    exact handleModeSense_delivers rfl ((UInt8.toNat_toUInt32 _).trans (readBE_one _ _).symm) hsense
  | modeSense10 =>
    apply handleModeSense_delivers rfl _ hsense
    refine (count10_toNat _ _).trans ?_
    simp [readBE]
  | readCapacity10 => exact handleReadCapacity10_delivers hsense
  | readCapacity16 => exact absurd rfl hother
  | reportLuns => exact handleReportLuns_delivers ext view hsense

/-! ## READ CAPACITY(16) -/

/-- The inputs on which READ CAPACITY(16) returns its response although the allocation length cuts
it. -/
structure Overlooked (srb : ScsiRequestBlock) : Prop where
  length : ¬ srb.cdbLength < 16
  action : srb.cdb 1 &&& 0x1f = serviceActionReadCapacity16
  buffered : srb.dataBuffer ≠ none
  short : readBE srb.cdb 10 4 < 32
  space : readBE srb.cdb 10 4 ≤ srb.dataTransferLength.toNat

variable (ext view) in
theorem handleReadCapacity16_copies (hlength : ¬ srb.cdbLength < 16)
    (haction : srb.cdb 1 &&& 0x1f = serviceActionReadCapacity16) :
    handleReadCapacity16 view srb =
      copyScsiResponse srb (DataCommand.readCapacity16.fullResponse ext view srb.cdb) 32 := by
  unfold handleReadCapacity16
  rw [if_neg]
  · rfl
  · rintro (hshort | hother)
    · exact hlength hshort
    · exact hother haction

variable (ext view) in
/-- What READ CAPACITY(16) delivers is cut by the buffer alone. -/
theorem handleReadCapacity16_delivers (hsense : ¬ FailedWithSense (handleReadCapacity16 view srb)) :
    ¬ srb.cdbLength < 16 ∧ srb.cdb 1 &&& 0x1f = serviceActionReadCapacity16 ∧
      srb.dataBuffer ≠ none ∧
      Delivers (DataCommand.readCapacity16.fullResponse ext view srb.cdb) 32 srb
        (handleReadCapacity16 view srb) := by
  by_cases hinvalid : srb.cdbLength < 16 ∨ srb.cdb 1 &&& 0x1f ≠ serviceActionReadCapacity16
  · unfold handleReadCapacity16 at hsense
    rw [if_pos hinvalid] at hsense
    exact absurd (invalidCdb_failed srb) hsense
  obtain ⟨hlength, haction⟩ := not_or.mp hinvalid
  rw [ne_eq, not_not] at haction
  have hcopies := handleReadCapacity16_copies ext view hlength haction
  rw [hcopies] at hsense ⊢
  have hdelivers : Delivers (DataCommand.readCapacity16.fullResponse ext view srb.cdb)
      (32 : ULONG).toNat srb
      (copyScsiResponse srb (DataCommand.readCapacity16.fullResponse ext view srb.cdb) 32) :=
    copyScsiResponse_delivers List.prefix_rfl (Nat.le_refl 32) hsense
  refine ⟨hlength, haction, fun hnone => ?_, hdelivers⟩
  have hzero : 32 = 0 := (hdelivers.unbuffered hnone).2
  cases hzero

variable (ext view srb) in
/-- The two lengths agree with the one exactly where nothing is overlooked. -/
theorem handleReadCapacity16_iff :
    (¬ FailedWithSense (handleReadCapacity16 view srb) →
      Delivers (DataCommand.readCapacity16.fullResponse ext view srb.cdb)
        (min 32 (readBE srb.cdb 10 4)) srb (handleReadCapacity16 view srb)) ↔ ¬ Overlooked srb := by
  constructor
  · intro h hover
    have hsense : ¬ FailedWithSense (handleReadCapacity16 view srb) := by
      rw [handleReadCapacity16_copies ext view hover.length hover.action]
      have hbuffered := hover.buffered
      unfold copyScsiResponse
      cases hbuffer : srb.dataBuffer with
      | none => exact absurd hbuffer hbuffered
      | some buffer =>
        have hsuccess : ¬ srbStatusSuccess &&& 0x3f = srbStatusError := by decide
        have hoverrun : ¬ srbStatusDataOverrun &&& 0x3f = srbStatusError := by decide
        show ¬ (if srb.dataTransferLength < 32 then srbStatusDataOverrun
          else srbStatusSuccess) &&& 0x3f = srbStatusError
        split
        · exact hoverrun
        · exact hsuccess
    have hboth := h hsense
    obtain ⟨_, _, _, hone⟩ := handleReadCapacity16_delivers ext view hsense
    have hcount := hboth.count.symm.trans hone.count
    have hoverrun := hboth.overrun.symm.trans hone.overrun
    have hshort := hover.short
    have hspace := hover.space
    omega
  · intro hnot hsense
    obtain ⟨hlength, haction, hbuffered, hone⟩ := handleReadCapacity16_delivers ext view hsense
    have hcut : 32 ≤ readBE srb.cdb 10 4 ∨
        srb.dataTransferLength.toNat < readBE srb.cdb 10 4 := by
      by_contra hneither
      rw [not_or, not_le, not_lt] at hneither
      exact hnot ⟨hlength, haction, hbuffered, hneither.1, hneither.2⟩
    have hmin : min (min 32 (readBE srb.cdb 10 4)) srb.dataTransferLength.toNat =
        min 32 srb.dataTransferLength.toNat := by
      omega
    refine ⟨?_, ?_, fun hnone => absurd hnone hbuffered, ?_⟩
    · rw [hmin]
      exact hone.count
    · rw [hmin]
      exact hone.written
    · rw [hone.overrun]
      omega

end Scsi

/-! ## Every command -/

open Scsi

/-- `WispDiskHandleExecuteScsi` of a command whose lease has that view of its LUN. -/
def Adapter.executeScsi (a : Adapter) (view : LunView) (srb : ScsiRequestBlock) :
    UCHAR × ScsiRequestBlock :=
  if srb.cdbLength = 0 then invalidCdb srb
  else if srb.cdb 0 = scsiopReportLuns then handleReportLuns a.extension srb
  else
    let (status, srb, _) := dispatchScsiCommand view (a.pool.contents view.backingStore) srb
    (status, srb)

theorem Adapter.executeScsi_respond (a : Adapter) (view : LunView) {srb : ScsiRequestBlock}
    {command : DataCommand} (hlength : srb.cdbLength ≠ 0)
    (hcommand : srb.cdb 0 = command.operation) :
    a.executeScsi view srb = command.respond a.extension view srb := by
  rw [executeScsi, if_neg hlength]
  unfold dispatchScsiCommand
  rw [hcommand]
  cases command <;> rfl

/-- The driver respects the allocation length and the buffer length of every command that returns
data, except where READ CAPACITY(16) overlooks the first. -/
theorem Adapter.executeScsi_delivers_iff (a : Adapter) (view : LunView) (srb : ScsiRequestBlock)
    (command : DataCommand) (hcommand : srb.cdb 0 = command.operation) :
    (¬ FailedWithSense (a.executeScsi view srb) →
      Delivers (command.fullResponse a.extension view srb.cdb)
        (command.allowed srb.cdb (command.fullResponse a.extension view srb.cdb).length) srb
        (a.executeScsi view srb)) ↔
    ¬ (command = .readCapacity16 ∧ Overlooked srb) := by
  by_cases hempty : srb.cdbLength = 0
  · have hnot : ¬ Overlooked srb := by
      intro hover
      have hlength := hover.length
      rw [hempty] at hlength
      exact hlength (by decide)
    rw [executeScsi, if_pos hempty]
    constructor
    · exact fun _ hover => hnot hover.2
    · exact fun _ hsense => absurd (invalidCdb_failed srb) hsense
  rw [a.executeScsi_respond view hempty hcommand]
  by_cases hcapacity : command = .readCapacity16
  · subst hcapacity
    have hiff := handleReadCapacity16_iff a.extension view srb
    exact ⟨fun h hover => hiff.mp h hover.2, fun h => hiff.mpr fun hover => h ⟨rfl, hover⟩⟩
  · exact ⟨fun _ hover => hcapacity hover.1, fun _ => command.respond_delivers hcapacity⟩

/-- READ CAPACITY(16) with an allocation length of 8 and a buffer of 32 bytes. -/
def shortCapacity : ScsiRequestBlock where
  function := srbFunctionExecuteScsi
  cdbLength := 16
  dataTransferLength := 32
  dataBuffer := some fun _ => 0
  cdb := fun i => [0x9E, 0x10, 0, 0, 0, 0, 0, 0, 0, 0, 0, 0, 0, 8, 0, 0].getD i 0

/-- An adapter before its first request, and a view of a disk of one megabyte. -/
def idleAdapter : Adapter := .initial 1 false fun _ _ => 0

def megabyteView : LunView where
  backingStore := 0
  sizeBytes := 1048576
  mediaKind := 0
  deviceId := 1

theorem shortCapacity_delivers_iff :
    (¬ FailedWithSense (idleAdapter.executeScsi megabyteView shortCapacity) →
      Delivers
        (DataCommand.readCapacity16.fullResponse idleAdapter.extension megabyteView
          shortCapacity.cdb)
        (DataCommand.readCapacity16.allowed shortCapacity.cdb
          (DataCommand.readCapacity16.fullResponse idleAdapter.extension megabyteView
            shortCapacity.cdb).length) shortCapacity
        (idleAdapter.executeScsi megabyteView shortCapacity)) ↔
    ¬ (DataCommand.readCapacity16 = .readCapacity16 ∧ Overlooked shortCapacity) :=
  idleAdapter.executeScsi_delivers_iff megabyteView shortCapacity .readCapacity16 rfl

/-- All 32 bytes are returned where the allocation length allows 8. -/
theorem shortCapacity_overlooked :
    shortCapacity.cdb 0 = DataCommand.readCapacity16.operation ∧
    ¬ FailedWithSense (idleAdapter.executeScsi megabyteView shortCapacity) ∧
    ¬ Delivers
      (DataCommand.readCapacity16.fullResponse idleAdapter.extension megabyteView
        shortCapacity.cdb)
      (DataCommand.readCapacity16.allowed shortCapacity.cdb
        (DataCommand.readCapacity16.fullResponse idleAdapter.extension megabyteView
          shortCapacity.cdb).length) shortCapacity
      (idleAdapter.executeScsi megabyteView shortCapacity) := by
  have hcount : (idleAdapter.executeScsi megabyteView shortCapacity).2.dataTransferLength = 32 :=
    rfl
  have hsuccess : ¬ srbStatusSuccess &&& 0x3f = srbStatusError := by decide
  refine ⟨rfl, hsuccess, fun hdelivers => ?_⟩
  have hwrong := hdelivers.count
  rw [hcount] at hwrong
  cases hwrong

end WispDisk
