import WispDisk.Guarantees.ReadWrite
import WispDisk.Guarantees.Schedules
import WispDisk.Guarantees.ScsiResponses
import WispDisk.Lifecycle.Contents
import WispDisk.Lifecycle.Descriptions
import WispDisk.Lifecycle.Simulation

/-! A disk as the host sees it. What a command meets at a LUN is what the create request asked for;
the unit serial number and the device identification tell any two disks of an adapter apart, at any
two times; and REPORT LUNS names exactly the LUNs that take a command. -/
namespace WispDisk
open Layout Transition
set_option autoImplicit false

/-! ## Serial numbers -/

namespace Scsi

theorem hexDigits_injective :
    ∀ a < 16, ∀ b < 16, hexDigits.getD a 0 = hexDigits.getD b 0 → a = b := by
  decide

/-- The hexadecimal digit that `WriteDeviceIdHex` writes at a position. -/
theorem nibble_toNat (deviceId : ULONG) {k : ℕ} (hk : k ≤ 7) :
    ((deviceId >>> (k * 4).toUInt32) &&& 0x0f).toNat = deviceId.toNat / 16 ^ k % 16 := by
  have hshift : (k * 4).toUInt32.toNat % 32 = 4 * k := by
    show (UInt32.ofNat (k * 4)).toNat % 32 = 4 * k
    rw [UInt32.toNat_ofNat']
    omega
  have hmask : (0x0f : ULONG).toNat = 2 ^ 4 - 1 := rfl
  rw [UInt32.toNat_and, UInt32.toNat_shiftRight, hshift, hmask, Nat.and_two_pow_sub_one_eq_mod,
    Nat.shiftRight_eq_div_pow, Nat.pow_mul]

theorem mod_eq_of_digits {a b n : ℕ} (h : ∀ k < n, a / 16 ^ k % 16 = b / 16 ^ k % 16) :
    a % 16 ^ n = b % 16 ^ n := by
  induction n with
  | zero => rw [Nat.pow_zero, Nat.mod_one, Nat.mod_one]
  | succ n ih =>
    rw [Nat.mod_pow_succ, Nat.mod_pow_succ, h n (Nat.lt_succ_self n),
      ih fun k hk => h k (Nat.lt_succ_of_lt hk)]

theorem deviceIdHex_injective {a b : ULONG} (h : deviceIdHex a = deviceIdHex b) : a = b := by
  have hdigit : ∀ k ≤ 7, a.toNat / 16 ^ k % 16 = b.toNat / 16 ^ k % 16 := by
    intro k hk
    have hentry := congrArg (fun digits => digits.getD (7 - k) 0) h
    have hlt : 7 - k < 8 := by omega
    have hback : 7 - (7 - k) = k := by omega
    simp only [deviceIdHex, List.getD_eq_getElem?_getD, List.getElem?_map,
      List.getElem?_range hlt, Option.map_some, Option.getD_some, hback] at hentry
    rw [← nibble_toNat a hk, ← nibble_toNat b hk]
    refine hexDigits_injective _ ?_ _ ?_ ?_
    · rw [nibble_toNat a hk]
      exact Nat.mod_lt _ (by decide)
    · rw [nibble_toNat b hk]
      exact Nat.mod_lt _ (by decide)
    · simpa only [List.getD_eq_getElem?_getD] using hentry
  have hmod := mod_eq_of_digits fun k (hk : k < 8) => hdigit k (by omega)
  have hwidth : 16 ^ 8 = 2 ^ 32 := by decide
  rw [hwidth, Nat.mod_eq_of_lt a.toNat_lt, Nat.mod_eq_of_lt b.toNat_lt] at hmod
  exact UInt32.toNat.inj hmod

/-- Both identifying pages name the device ID. -/
theorem identifies {page : UCHAR}
    (hpage : page = kVpdUnitSerialNumber ∨ page = kVpdDeviceIdentification) (v w : LunView) :
    inquiryResponse v true page = inquiryResponse w true page ↔ v.deviceId = w.deviceId := by
  have hsupported : kVpdUnitSerialNumber ≠ kVpdSupportedPages := by decide
  have hsupported' : kVpdDeviceIdentification ≠ kVpdSupportedPages := by decide
  have hserial : kVpdDeviceIdentification ≠ kVpdUnitSerialNumber := by decide
  unfold inquiryResponse
  constructor
  · intro h
    rcases hpage with rfl | rfl
    · simp only [Bool.not_true, Bool.false_eq_true, if_false, if_neg hsupported, if_true,
        Option.some.injEq, Prod.mk.injEq, and_true] at h
      exact deviceIdHex_injective (List.append_cancel_left h)
    · simp only [Bool.not_true, Bool.false_eq_true, if_false, if_neg hsupported', if_neg hserial,
        if_true, Option.some.injEq, Prod.mk.injEq, and_true] at h
      exact deviceIdHex_injective (List.append_cancel_left h)
  · intro h
    simp only [h, Bool.not_true, Bool.false_eq_true, if_false]

/-! ## The LUN inventory -/

/-- What a host reads from the data of REPORT LUNS: as many entries as the header announces, each
with the LUN in its second byte. -/
def decodeLuns (m : Bytes) : List UCHAR :=
  (List.range (readBE m 0 4 / 8)).map fun i => m (8 + 8 * i + 1)

theorem entries_getElem (luns : List UCHAR) (i : ℕ) :
    (luns.flatMap fun lun => ([0, lun, 0, 0, 0, 0, 0, 0] : List UCHAR))[8 * i + 1]? = luns[i]? := by
  induction luns generalizing i with
  | nil => rfl
  | cons lun luns ih =>
    rw [List.flatMap_cons]
    cases i with
    | zero => rfl
    | succ i =>
      have hskip : 8 * (i + 1) + 1 = 8 + (8 * i + 1) := by omega
      have hlength : ([0, lun, 0, 0, 0, 0, 0, 0] : List UCHAR).length = 8 := rfl
      rw [List.getElem?_cons_succ, ← ih i, hskip, List.getElem?_append_right (by omega), hlength,
        Nat.add_sub_cancel_left]

/-- A big-endian number at the front of some bytes. -/
theorem readBE_front {m : Bytes} {n : ℕ} (value : ℕ) {post : List UInt8}
    (h : ∀ i < n, (bytesBE n value ++ post)[i]? = some (m i)) : readBE m 0 n = value % 256 ^ n := by
  have hwritten := readBE_bytesBE m 0 n value [] post
  rw [← hwritten]
  apply readBE_congr
  intro i _ hi
  rw [Nat.zero_add] at hi
  have hlength : i < (bytesBE n value ++ post).length := by
    rw [List.length_append, bytesBE_length]
    omega
  have hinside := overwrite_inside m 0 (bytesBE n value ++ post) hlength
  rw [Nat.zero_add] at hinside
  have hi := h i hi
  rw [List.getElem?_eq_getElem hlength] at hi
  exact (Option.some.inj hi).symm.trans hinside.symm

theorem snapshotOnlineLuns_length (ext : AdapterExtension) :
    (LunStore.snapshotOnlineLuns ext).length ≤ 16 := by
  have hindices : LunStore.indices.length = 16 := List.length_finRange
  rw [LunStore.snapshotOnlineLuns, List.length_map, ← hindices]
  exact List.length_filter_le _ _

theorem reportLunsResponse_length (luns : List UCHAR) :
    (reportLunsResponse luns).1.length = 8 + 8 * luns.length := by
  show (_ ++ luns.flatMap _).length = _
  rw [List.length_append, entries_length]
  rfl

/-- The first word of the data is the length of the entries. -/
theorem reportLunsResponse_header {luns : List UCHAR} (hsmall : luns.length ≤ 16) {reply : Bytes}
    (h : ∀ i < 4, (reportLunsResponse luns).1[i]? = some (reply i)) :
    readBE reply 0 4 = 8 * luns.length := by
  have hcount : (UInt32.ofNat luns.length * 8).toNat = 8 * luns.length := by
    rw [UInt32.toNat_mul, UInt32.toNat_ofNat']
    show _ % 2 ^ 32 * 8 % 2 ^ 32 = _
    omega
  have hfront := readBE_front (m := reply) (8 * luns.length) fun i (hi : i < 4) => by
    rw [← hcount, ← bigEndian32_bytesBE, ← h i hi]
    exact congrArg (fun bytes : List UCHAR => bytes[i]?) (List.append_assoc _ _ _).symm
  rw [hfront]
  exact Nat.mod_eq_of_lt (by omega)

/-- The second byte of an entry is its LUN. -/
theorem reportLunsResponse_entry (luns : List UCHAR) (i : ℕ) :
    (reportLunsResponse luns).1[8 + 8 * i + 1]? = luns[i]? := by
  have hentry : 8 + 8 * i + 1 = 8 + (8 * i + 1) := Nat.add_assoc _ _ _
  unfold reportLunsResponse
  rw [hentry, List.getElem?_append_right (by simp [bigEndian32_length])]
  simp only [List.length_append, bigEndian32_length, List.length_cons, List.length_nil]
  rw [Nat.add_sub_cancel_left]
  exact entries_getElem luns i

/-- REPORT LUNS is never refused where it applies. -/
theorem handleReportLuns_accepted {ext : AdapterExtension} {srb : ScsiRequestBlock} {buffer : Bytes}
    (hcdb : ¬ (srb.cdbLength < 12 ∨ srb.pathId ≠ 0 ∨ srb.targetId ≠ 0))
    (hbuffer : srb.dataBuffer = some buffer) : ¬ FailedWithSense (handleReportLuns ext srb) := by
  have hsuccess : srbStatusSuccess &&& 0x3f ≠ srbStatusError := by decide
  have hoverrun : srbStatusDataOverrun &&& 0x3f ≠ srbStatusError := by decide
  unfold FailedWithSense handleReportLuns copyScsiResponse
  rw [if_neg hcdb]
  simp only [hbuffer]
  split
  · exact hoverrun
  · exact hsuccess

/-- The data that REPORT LUNS returns: the header counts all LUNs however much is returned, and
where everything is, the host reads them all. -/
theorem reportLuns_decodes {ext : AdapterExtension} {srb : ScsiRequestBlock} {buffer : Bytes}
    (hcdb : ¬ (srb.cdbLength < 12 ∨ srb.pathId ≠ 0 ∨ srb.targetId ≠ 0))
    (hbuffer : srb.dataBuffer = some buffer) :
    ∃ reply, (handleReportLuns ext srb).2.dataBuffer = some reply ∧
      let luns := LunStore.snapshotOnlineLuns ext
      let returned := (handleReportLuns ext srb).2.dataTransferLength.toNat
      returned = min (min (8 + 8 * luns.length) (readBE srb.cdb 6 4)) srb.dataTransferLength.toNat ∧
        (4 ≤ returned → readBE reply 0 4 = 8 * luns.length) ∧
        (returned = 8 + 8 * luns.length → decodeLuns reply = luns) := by
  have hsmall := snapshotOnlineLuns_length ext
  have hdelivers : Delivers (reportLunsResponse (LunStore.snapshotOnlineLuns ext)).1
      (min (reportLunsResponse (LunStore.snapshotOnlineLuns ext)).1.length (readBE srb.cdb 6 4))
      srb (handleReportLuns ext srb) :=
    handleReportLuns_delivers ext ⟨0, 0, 0, 0⟩ (handleReportLuns_accepted hcdb hbuffer)
  rw [reportLunsResponse_length] at hdelivers
  obtain ⟨reply, hreply, hwritten, _⟩ := hdelivers.written buffer hbuffer
  have hreturned := hdelivers.count
  rw [← hreturned] at hwritten
  have hheader : 4 ≤ (handleReportLuns ext srb).2.dataTransferLength.toNat →
      readBE reply 0 4 = 8 * (LunStore.snapshotOnlineLuns ext).length := fun hfour =>
    reportLunsResponse_header hsmall fun i hi => hwritten i (Nat.lt_of_lt_of_le hi hfour)
  refine ⟨reply, hreply, hreturned, hheader, fun hall => ?_⟩
  unfold decodeLuns
  rw [hheader (by omega), Nat.mul_div_cancel_left _ (by decide)]
  apply List.ext_getElem?
  intro i
  by_cases hi : i < (LunStore.snapshotOnlineLuns ext).length
  · rw [List.getElem?_map, List.getElem?_range hi, ← reportLunsResponse_entry,
      hwritten (8 + 8 * i + 1) (by omega)]
    rfl
  · rw [List.getElem?_eq_none (by rw [List.length_map, List.length_range]; omega),
      List.getElem?_eq_none (by omega)]

end Scsi

theorem mem_snapshotOnlineLuns {ext : AdapterExtension}
    (hnumber : ∀ l, (ext.luns l).lun = UInt8.ofNat l.val) (l : Fin kMaximumDiskCount) :
    UInt8.ofNat l.val ∈ LunStore.snapshotOnlineLuns ext ↔ (ext.luns l).state = .online := by
  unfold LunStore.snapshotOnlineLuns LunStore.onlineLuns
  simp only [List.mem_map, List.mem_filter, beq_iff_eq]
  constructor
  · rintro ⟨m, ⟨_, honline⟩, hm⟩
    rw [hnumber] at hm
    exact lunNumber_inj hm ▸ honline
  · intro honline
    exact ⟨l, ⟨LunStore.mem_indices l, honline⟩, hnumber l⟩

/-- A command is let through to a LUN exactly where the snapshot has its number. -/
theorem acquireLunIo_iff {ext : AdapterExtension} {commits : List Commit}
    (hnumber : ∀ l, (ext.luns l).lun = UInt8.ofNat l.val) (h : Described ext.luns commits)
    {command : ScsiRequestBlock} (hpath : command.pathId = 0) (htarget : command.targetId = 0) :
    (LunStore.acquireLunIo ext command).isSome = true ↔
      command.lun ∈ LunStore.snapshotOnlineLuns ext := by
  by_cases hlun : command.lun.toNat < kMaximumDiskCount
  · have hmember := mem_snapshotOnlineLuns hnumber ⟨command.lun.toNat, hlun⟩
    rw [show UInt8.ofNat command.lun.toNat = command.lun from UInt8.ofNat_toNat] at hmember
    rw [hmember]
    unfold LunStore.acquireLunIo
    rw [if_neg (by simp [hpath, htarget]), dif_pos hlun]
    simp only
    constructor
    · intro hsome
      split at hsome
      · assumption
      · cases hsome
    · intro honline
      obtain ⟨backing, hbacking⟩ := Option.isSome_iff_exists.mp (h.backed _ honline)
      rw [honline, hbacking]
      rfl
  · have hnone : LunStore.acquireLunIo ext command = none := by
      unfold LunStore.acquireLunIo
      rw [if_neg (by simp [hpath, htarget]), dif_neg hlun]
    rw [hnone]
    refine iff_of_false (fun hsome => by cases hsome) fun hmember => hlun ?_
    obtain ⟨m, _, hm⟩ := List.mem_map.mp hmember
    rw [hnumber] at hm
    rw [← hm, lunNumber_toNat]
    exact m.isLt

theorem snapshotOnlineLuns_sorted {ext : AdapterExtension}
    (hnumber : ∀ l, (ext.luns l).lun = UInt8.ofNat l.val) :
    (LunStore.snapshotOnlineLuns ext).Pairwise (· < ·) := by
  unfold LunStore.snapshotOnlineLuns
  rw [List.pairwise_map]
  have hindices : LunStore.indices.Pairwise (· < ·) := List.pairwise_lt_finRange _
  refine (hindices.sublist List.filter_sublist).imp fun {l m} hlt => ?_
  rw [hnumber, hnumber, UInt8.lt_iff_toNat_lt, lunNumber_toNat, lunNumber_toNat]
  exact hlt

theorem Machine.commits_run {restartable : Machine → Prop} {c c' : Machine}
    (h : Relation.ReflTransGen (Machine.Step restartable) c c') : c.commits <+: c'.commits := by
  induction h with
  | refl => exact List.prefix_refl _
  | tail _ hs ih =>
    cases hs.disks with
    | kept hcommits => exact hcommits ▸ ih
    | committed _ _ _ _ _ _ hcommits => exact hcommits ▸ ih.trans (List.prefix_append _ _)

namespace Adapter

/-- In every reachable state REPORT LUNS, answered in full, is read as the list of the LUNs that
take a command, in order; a shorter answer still has the length of the whole list. -/
theorem reportLuns_names {C : Contract Adapter Action} {a : Adapter} {srb : ScsiRequestBlock}
    {buffer : Bytes} (h : Reachable system C a)
    (hcdb : ¬ (srb.cdbLength < 12 ∨ srb.pathId ≠ 0 ∨ srb.targetId ≠ 0))
    (hbuffer : srb.dataBuffer = some buffer) :
    ∃ reply luns, (Scsi.handleReportLuns a.extension srb).2.dataBuffer = some reply ∧
      luns.Pairwise (· < ·) ∧
      (∀ command : ScsiRequestBlock, command.pathId = 0 → command.targetId = 0 →
        ((LunStore.acquireLunIo a.extension command).isSome = true ↔ command.lun ∈ luns)) ∧
      let returned := (Scsi.handleReportLuns a.extension srb).2.dataTransferLength.toNat
      returned = min (min (8 + 8 * luns.length) (readBE srb.cdb 6 4)) srb.dataTransferLength.toNat ∧
        (4 ≤ returned → readBE reply 0 4 = 8 * luns.length) ∧
        (returned = 8 + 8 * luns.length → Scsi.decodeLuns reply = luns) := by
  have hmachine := reachable_anywhere h
  have hnumber := (Accounting.reachable hmachine).number
  obtain ⟨reply, hreply, hdecodes⟩ := @Scsi.reportLuns_decodes a.extension _ _ hcdb hbuffer
  exact ⟨reply, _, hreply, snapshotOnlineLuns_sorted hnumber, fun command hpath htarget =>
    acquireLunIo_iff hnumber (Described.reachable hmachine) hpath htarget, hdecodes⟩

/-- An adapter with one disk, and the same adapter when its LUN has been used again. -/
def oneDisk : Adapter := fresh.after (createDisk 1048576 82)
def reused : Adapter := oneDisk.after (deleteDisk 1 ++ createDisk 1048576 83)

theorem oneDisk_reachable : Reachable system anyAction oneDisk :=
  reachable_after (by decide +kernel)

theorem reused_steps : Steps system anyAction oneDisk reused :=
  (path_after (by decide +kernel) (by decide +kernel)).mono fun _ _ _ => trivial

/-- REPORT LUNS with room for two LUNs. -/
def reportLunsSrb : ScsiRequestBlock where
  function := srbFunctionExecuteScsi
  cdbLength := 12
  cdb := overwrite (fun _ => 0) 0 [Scsi.scsiopReportLuns, 0, 0, 0, 0, 0, 0, 0, 0, 24, 0, 0]
  dataTransferLength := 24
  dataBuffer := some fun _ => 0

theorem oneDisk_names :
    ∃ reply luns,
      (Scsi.handleReportLuns oneDisk.extension reportLunsSrb).2.dataBuffer = some reply ∧
      luns.Pairwise (· < ·) ∧
      (∀ command : ScsiRequestBlock, command.pathId = 0 → command.targetId = 0 →
        ((LunStore.acquireLunIo oneDisk.extension command).isSome = true ↔ command.lun ∈ luns)) ∧
      let returned :=
        (Scsi.handleReportLuns oneDisk.extension reportLunsSrb).2.dataTransferLength.toNat
      returned = min (min (8 + 8 * luns.length) (readBE reportLunsSrb.cdb 6 4)) 24 ∧
        (4 ≤ returned → readBE reply 0 4 = 8 * luns.length) ∧
        (returned = 8 + 8 * luns.length → Scsi.decodeLuns reply = luns) :=
  reportLuns_names oneDisk_reachable (by decide +kernel) rfl

/-- A command that arrives now meets this view at the LUN. -/
def Presents (a : Adapter) (l : Fin kMaximumDiskCount) (view : LunView) : Prop :=
  ∃ srb ext, LunStore.acquireLunIo a.extension srb = some (ext, l, view)

end Adapter

/-- The view is of the disk that was committed. -/
structure Commit.Presented (commit : Commit) (l : Fin kMaximumDiskCount) (view : LunView) :
    Prop where
  number : commit.lun = l
  deviceId : view.deviceId = commit.deviceId
  size : view.sizeBytes = commit.request.sizeBytes
  media : view.mediaKind = commit.request.mediaKind

namespace Adapter

variable {C : Contract Adapter Action} {a b : Adapter} {l m : Fin kMaximumDiskCount}
  {view other : LunView}

theorem Presents.online (h : a.Presents l view) : (a.extension.luns l).state = .online := by
  obtain ⟨srb, ext, hacquire⟩ := h
  exact (LunStore.acquireLunIo_some hacquire).2.2.2.1

theorem Presents.committed (h : a.Presents l view) (ha : Reachable system C a) :
    ∃ commit ∈ a.history.commits, commit.Presented l view := by
  have honline := h.online
  obtain ⟨srb, ext, hacquire⟩ := h
  obtain ⟨_, _, _, _, _, hsize, hmedia, hdeviceId, _⟩ := LunStore.acquireLunIo_some hacquire
  have hstate : (a.machine.luns l).state ≠ .empty := fun hempty =>
    LunState.noConfusion (honline.symm.trans hempty)
  obtain ⟨commit, hcommit, hdescribes⟩ :=
    (Described.reachable (reachable_anywhere ha)).committed l hstate
  exact ⟨commit, hcommit, hdescribes.number, hdeviceId.trans hdescribes.deviceId,
    hsize.trans hdescribes.size, hmedia.trans hdescribes.media⟩

/-- At any two times of a run, two LUNs have the same identifying page exactly when they hold the
disk of one and the same create. -/
theorem disks_identified {page : UCHAR}
    (hpage : page = Scsi.kVpdUnitSerialNumber ∨ page = Scsi.kVpdDeviceIdentification)
    (ha : Reachable system C a) (hrun : Steps system C a b) (hview : a.Presents l view)
    (hother : b.Presents m other) :
    Scsi.inquiryResponse view true page = Scsi.inquiryResponse other true page ↔
      ∃ commit ∈ b.history.commits, commit.Presented l view ∧ commit.Presented m other := by
  rw [Scsi.identifies hpage]
  constructor
  · intro hsame
    obtain ⟨commit, hcommit, hpresented⟩ := hview.committed ha
    obtain ⟨commit', hcommit', hpresented'⟩ := hother.committed (ha.path hrun)
    have hlater : commit ∈ b.history.commits :=
      (Machine.commits_run (path_anywhere ha hrun)).subset hcommit
    have hdistinct := (Accounting.reachable (reachable_anywhere (ha.path hrun))).issued.nodup
    have hids : commit.deviceId = commit'.deviceId := by
      rw [← hpresented.deviceId, ← hpresented'.deviceId]
      exact hsame
    have heq : commit = commit' := List.inj_on_of_nodup_map hdistinct hlater hcommit' hids
    exact ⟨commit, hlater, hpresented, heq ▸ hpresented'⟩
  · rintro ⟨commit, _, hpresented, hpresented'⟩
    rw [hpresented.deviceId, hpresented'.deviceId]

/-- What a command meets at a LUN is the disk that a create asked for: its blocks are those that can
be read, READ CAPACITY reports the last of them, and INQUIRY reports the media. -/
theorem disk_as_requested (ha : Reachable system C a) (hview : a.Presents l view) :
    ∃ commit ∈ a.history.commits, commit.Presented l view ∧
      (∀ lba, lba ∈ Scsi.readableBlocks view ↔ lba < commit.request.sizeBytes.toNat / 512) ∧
      Scsi.CapacityAgrees view ∧
      ∃ response, Scsi.inquiryResponse view false 0 = some (response, 36) ∧
        (response[1]? = some 0x80 ↔ commit.request.mediaKind = wispDiskMediaRemovable) := by
  obtain ⟨commit, hcommit, hpresented⟩ := hview.committed ha
  have hstate : (a.machine.luns l).state ≠ .empty := fun hempty =>
    LunState.noConfusion (hview.online.symm.trans hempty)
  have hvalid : ValidSize view.sizeBytes := by
    have hsize := (Accounting.reachable (reachable_anywhere ha)).valid l hstate
    obtain ⟨srb, ext, hacquire⟩ := hview
    obtain ⟨_, _, _, _, _, hsame, _⟩ := LunStore.acquireLunIo_some hacquire
    exact hsame ▸ hsize
  refine ⟨commit, hcommit, hpresented, fun lba => ?_, Scsi.capacityAgrees hvalid, _, rfl, ?_⟩
  · rw [← hpresented.size]
    exact ⟨Scsi.readableBlocks_lt, Scsi.readableBlocks_of_lt⟩
  · rw [← hpresented.media]
    show some (if view.mediaKind = wispDiskMediaRemovable then (0x80 : UCHAR) else 0x00) = _ ↔ _
    split
    · rename_i hremovable
      exact iff_of_true rfl hremovable
    · rename_i hfixed
      exact iff_of_false (by decide) hfixed

/-! ## A LUN that is used again -/

theorem presents_of_acquired (srb : ScsiRequestBlock)
    (h : (LunStore.acquireLunIo a.extension srb).map Prod.snd = some (l, view)) :
    a.Presents l view := by
  obtain ⟨⟨ext, found⟩, hacquire, hfound⟩ := Option.map_eq_some_iff.mp h
  cases hfound
  exact ⟨srb, ext, hacquire⟩

def firstView : LunView := ⟨0, 1048576, wispDiskMediaFixed, 1⟩
def secondView : LunView := ⟨1, 1048576, wispDiskMediaFixed, 2⟩

theorem oneDisk_presents : oneDisk.Presents 0 firstView :=
  presents_of_acquired (testUnitReadySrb 0) (by decide +kernel)

theorem reused_presents : reused.Presents 0 secondView :=
  presents_of_acquired (testUnitReadySrb 0) (by decide +kernel)

theorem reused_identified :
    Scsi.inquiryResponse firstView true Scsi.kVpdUnitSerialNumber =
        Scsi.inquiryResponse secondView true Scsi.kVpdUnitSerialNumber ↔
      ∃ commit ∈ reused.history.commits,
        commit.Presented 0 firstView ∧ commit.Presented 0 secondView :=
  disks_identified (.inl rfl) oneDisk_reachable reused_steps oneDisk_presents reused_presents

theorem oneDisk_as_requested :
    ∃ commit ∈ oneDisk.history.commits, commit.Presented 0 firstView ∧
      (∀ lba, lba ∈ Scsi.readableBlocks firstView ↔ lba < commit.request.sizeBytes.toNat / 512) ∧
      Scsi.CapacityAgrees firstView ∧
      ∃ response, Scsi.inquiryResponse firstView false 0 = some (response, 36) ∧
        (response[1]? = some 0x80 ↔ commit.request.mediaKind = wispDiskMediaRemovable) :=
  disk_as_requested oneDisk_reachable oneDisk_presents

end Adapter

end WispDisk
