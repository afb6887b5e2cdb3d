import WispDisk.Guarantees.Schedules
import WispDisk.Lifecycle.Disks
import WispDisk.Lifecycle.Simulation

/-! Allocation accounting on the adapter: the byte count, the sizes and the device IDs of the LUN
table, the arithmetic that relies on them, and what a ListState reply says about them. -/
namespace WispDisk
open ControlDispatch ManagementController Transition SlotTable
set_option autoImplicit false

/-! ## The ListState reply -/

/-- A ListState reply agrees with the LUN table: it lists every owned LUN once and nothing else,
and `AllocatedBytes` is the sum of the listed sizes. -/
structure StateResponse.Reports (response : StateResponse) (ext : AdapterExtension) : Prop where
  sum : response.allocatedBytes.toNat =
    (response.disks.map fun entry => entry.disk.sizeBytes.toNat).sum
  count : response.diskCount.toNat = response.disks.length
  once : ∀ l : Fin kMaximumDiskCount, (ext.luns l).state ≠ .empty →
    response.disks.countP (fun entry => entry.disk.lun == UInt8.ofNat l.val) = 1
  owned : ∀ entry ∈ response.disks, ∃ l, (ext.luns l).state ≠ .empty ∧
    entry.disk = LunStore.diskInfo (ext.luns l) ∧
      entry.createOperationId = (ext.luns l).createOperationId ∧
      entry.state = (ext.luns l).state.code

/-- The sizes of a table's owned LUNs, listed in order. -/
theorem sum_owned (ext : AdapterExtension) (hblank : ∀ l, (ext.luns l).state = .empty →
    (ext.luns l).sizeBytes = 0) :
    ((LunStore.ownedLuns ext).map fun l => (ext.luns l).sizeBytes.toNat).sum =
      lunBytes ext.luns := by
  unfold LunStore.ownedLuns LunStore.indices lunBytes
  rw [← List.sum_toFinset _ ((List.nodup_finRange _).filter _), List.toFinset_filter,
    List.toFinset_finRange]
  refine Finset.sum_filter_of_ne fun l _ hsize => ?_
  simp only [bne_iff_ne, ne_eq]
  intro hempty
  rw [hblank l hempty] at hsize
  exact hsize rfl

theorem ownedLuns_nodup (ext : AdapterExtension) : (LunStore.ownedLuns ext).Nodup :=
  (List.nodup_finRange _).filter _

theorem mem_ownedLuns {ext : AdapterExtension} {l : Fin kMaximumDiskCount} :
    l ∈ LunStore.ownedLuns ext ↔ (ext.luns l).state ≠ .empty := by
  unfold LunStore.ownedLuns
  rw [List.mem_filter, bne_iff_ne]
  exact and_iff_right (LunStore.mem_indices l)

theorem ownedLuns_length (ext : AdapterExtension) :
    (LunStore.ownedLuns ext).length ≤ kMaximumDiskCount := by
  have hle := List.length_filter_le (fun l => (ext.luns l).state != .empty) LunStore.indices
  have hlength : LunStore.indices.length = kMaximumDiskCount := List.length_finRange
  rw [hlength] at hle
  exact hle

theorem Accounting.reports {ext : AdapterExtension} {commits : List Commit} {task : Option Task}
    (h : Accounting { nextDeviceId := ext.nextDeviceId
                      total := ext.totalAllocatedBytes
                      luns := ext.luns
                      commits := commits } task) (response : StateResponse) :
    (snapshotState ext response).Reports ext where
  sum := by
    unfold snapshotState LunStore.snapshotStateLocked
    simp only [List.map_map]
    rw [h.total, ← sum_owned ext fun l hl => (h.blank l hl).1]
    rfl
  count := by
    have hle : (LunStore.ownedLuns ext).length ≤ 16 := ownedLuns_length ext
    unfold snapshotState LunStore.snapshotStateLocked
    simp only [List.length_map]
    rw [UInt32.toNat_ofNat']
    exact Nat.mod_eq_of_lt (by omega)
  once := fun l hl => by
    have hnumber : ∀ m ∈ LunStore.ownedLuns ext,
        ((ext.luns m).lun == UInt8.ofNat l.val) = true ↔ (m == l) = true := fun m _ => by
      rw [beq_iff_eq, beq_iff_eq, h.number m]
      exact ⟨lunNumber_inj, fun heq => by rw [heq]⟩
    unfold snapshotState LunStore.snapshotStateLocked
    simp only [List.countP_map]
    exact (List.countP_congr hnumber).trans
      (List.count_eq_one_of_mem (ownedLuns_nodup ext) (mem_ownedLuns.mpr hl))
  owned := fun entry hentry => by
    unfold snapshotState LunStore.snapshotStateLocked at hentry
    simp only [List.mem_map] at hentry
    obtain ⟨l, hl, heq⟩ := hentry
    subst heq
    exact ⟨l, mem_ownedLuns.mp hl, rfl, rfl, rfl⟩

/-- What `HandleListState` refuses: a header that does not validate, or a buffer that the reply does
not fit. -/
def ControlRequest.ListRefused (control : ControlRequest) : Prop :=
  ntSuccess (readAndValidateRequestHeader control.payload control.ioControl.length
    RequestHeader.size wispDiskControlListState).1 = false ∨
    control.ioControl.length < StateResponse.size

/-! ## Every reachable adapter -/

/-- The LUN table of the adapter and the arithmetic of the creates on their way. -/
structure Adapter.Accounted (a : Adapter) : Prop where
  total : a.extension.totalAllocatedBytes.toNat =
    ∑ l, if (a.extension.luns l).state = .empty then 0 else (a.extension.luns l).sizeBytes.toNat
  bounded : a.extension.totalAllocatedBytes.toNat ≤ 512 * 1024 * 1024
  size : ∀ l, (a.extension.luns l).state ≠ .empty →
    (a.extension.luns l).sizeBytes.toNat % 512 = 0 ∧
      1024 * 1024 ≤ (a.extension.luns l).sizeBytes.toNat ∧
        (a.extension.luns l).sizeBytes.toNat ≤ 256 * 1024 * 1024
  deviceId : ∀ l, (a.extension.luns l).state ≠ .empty → (a.extension.luns l).deviceId ≠ 0 ∧
    ∀ m, m ≠ l → (a.extension.luns m).deviceId ≠ (a.extension.luns l).deviceId
  /-- The subtraction of `SelectAvailableLun` does not underflow for any create that makes it. -/
  room : ∀ s ∈ a.submissions, ∀ work, s.phase = .selectLun work →
    work.request.sizeBytes ≤ kMaximumTotalDiskBytes
  /-- `FinalizeRemovalLocked` does not take its saturating branch for any LUN. -/
  release : ∀ l, (a.extension.luns l).sizeBytes ≤ a.extension.totalAllocatedBytes
  /-- A ListState request gets a reply that agrees with the LUN table, or an error if it is refused. -/
  listed : ∀ control, (control.ListRefused ∧ ∃ status correlation, ntSuccess status = false ∧
      handleListState a.extension control = .complete a.extension
        (control.writeError wispDiskControlListState status correlation)) ∨
    ¬ control.ListRefused ∧ ∃ response : StateResponse, response.Reports a.extension ∧
      handleListState a.extension control = .complete a.extension
        (control.writeResponse StateResponse.size response.fields statusSuccess)

theorem handleListState_reports {ext : AdapterExtension}
    (h : ∀ response, (snapshotState ext response).Reports ext) (control : ControlRequest) :
    (control.ListRefused ∧ ∃ status correlation, ntSuccess status = false ∧
      handleListState ext control = .complete ext
        (control.writeError wispDiskControlListState status correlation)) ∨
      ¬ control.ListRefused ∧ ∃ response : StateResponse, response.Reports ext ∧
        handleListState ext control = .complete ext
          (control.writeResponse StateResponse.size response.fields statusSuccess) := by
  unfold handleListState
  simp only
  split
  · rename_i hshort
    exact Or.inl ⟨Or.inr hshort.2, statusBufferTooSmall, _, ntSuccess_bufferTooSmall, rfl⟩
  · rename_i hfits
    split
    · rename_i hfailed
      rw [Bool.not_eq_true'] at hfailed
      exact Or.inl ⟨Or.inl hfailed, _, _, hfailed, rfl⟩
    · rename_i hsuccess
      refine Or.inr ⟨fun hrefused => ?_, _, h _, rfl⟩
      rw [Bool.not_eq_true', Bool.not_eq_false] at hsuccess
      cases hrefused with
      | inl hheader => exact Bool.noConfusion (hsuccess.symm.trans hheader)
      | inr hshort => exact hfits ⟨hsuccess, hshort⟩

/-- Allocation accounting holds in every state that any interleaving reaches. -/
theorem allocation_accounting (a : Adapter) (h : Reachable Adapter.system anyAction a) :
    a.Accounted := by
  have hmachine := Adapter.reachable_anywhere h
  have haccounting := Accounting.reachable hmachine
  have hrecords := Records.reachable hmachine
  have hshaped := Shaped.reachable hmachine
  have hgate := Adapter.Gate.reachable h
  refine ⟨haccounting.total_owned, haccounting.bounded, fun l hl => ?_, fun l hl => ?_,
    fun s hs work hphase => ?_, haccounting.size_le_total, handleListState_reports ?_⟩
  · have hvalid := haccounting.valid l hl
    exact ⟨hvalid.toNat_mod, hvalid.toNat_ge, hvalid.toNat_le⟩
  · refine ⟨haccounting.deviceId_ne_zero hl, fun m hm heq => hm ?_⟩
    exact (haccounting.distinct l m hl heq.symm).symm
  · obtain ⟨i, hi⟩ := List.mem_iff_getElem?.mp hs
    have htask : a.machine.task = some ⟨s.command, .select work⟩ := by
      rw [Adapter.machine_active (hgate.only hi).2]
      exact Adapter.task_eq hphase
    have hvalid := (hrecords.inFlight _ _ htask).validSize rfl (hshaped _ htask)
    rw [UInt64.le_iff_toNat_le]
    have hle := hvalid.toNat_le
    have hmax : kMaximumTotalDiskBytes.toNat = 512 * 1024 * 1024 := by decide
    omega
  · intro response
    exact haccounting.reports response

theorem allocation_accounting_created :
    (Adapter.fresh.after (createDisk 1048576 82)).Accounted :=
  allocation_accounting _ (Adapter.reachable_after (by decide +kernel))

end WispDisk
