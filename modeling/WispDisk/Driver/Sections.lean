import WispDisk.Driver.ControlDispatch

/-! What each lock-protected section can do to the tables: one lemma for each function, which the
later proofs use in place of its body. -/
namespace WispDisk
set_option autoImplicit false

/-! ## LunStore -/

namespace LunStore

theorem mem_indices (l : Fin kMaximumDiskCount) : l ∈ indices := List.mem_finRange l

theorem selectAvailableLun_ok {ext : AdapterExtension} {size : ULONGLONG}
    {selected : Fin kMaximumDiskCount} (h : selectAvailableLun ext size = .ok selected) :
    ext.adapterStopping = false ∧ ext.totalAllocatedBytes ≤ kMaximumTotalDiskBytes - size ∧
      (ext.luns selected).state = .empty := by
  unfold selectAvailableLun at h
  split at h
  · cases h
  · rename_i hopen
    split at h
    · cases h
    · rename_i hquota
      split at h
      · rename_i found hfind
        cases h
        have hempty := List.find?_some hfind
        exact ⟨Bool.eq_false_iff.mpr hopen, UInt64.not_lt.mp hquota, beq_iff_eq.mp hempty⟩
      · cases h

theorem selectAvailableLun_error {ext : AdapterExtension} {size : ULONGLONG} {status : NTSTATUS}
    (h : selectAvailableLun ext size = .error status) : ntSuccess status = false := by
  unfold selectAvailableLun at h
  split at h
  · cases h
    exact ntSuccess_deviceNotReady
  · split at h
    · cases h
      exact ntSuccess_quotaExceeded
    · split at h
      · cases h
      · cases h
        exact ntSuccess_insufficientResources

theorem commitNewLun_ok {ext ext' : AdapterExtension} {request : CreateRequest}
    {selected : Fin kMaximumDiskCount} {allocation : Allocation} {deviceId : ULONG}
    (h : commitNewLun ext request selected allocation = .ok (ext', deviceId)) :
    ext.adapterStopping = false ∧ (ext.luns selected).state = .empty ∧ ext.nextDeviceId ≠ 0 ∧
      deviceId = ext.nextDeviceId ∧ ext' = { ext with
        luns := Function.update ext.luns selected
          (newLun request selected allocation ext.nextDeviceId)
        nextDeviceId := ext.nextDeviceId + 1
        totalAllocatedBytes := ext.totalAllocatedBytes + request.sizeBytes } := by
  unfold commitNewLun at h
  split at h
  · cases h
  · rename_i hready
    rw [not_or, not_not] at hready
    split at h
    · cases h
    · rename_i hnext
      cases h
      exact ⟨Bool.eq_false_iff.mpr hready.1, hready.2, hnext, rfl, rfl⟩

theorem commitNewLun_error {ext : AdapterExtension} {request : CreateRequest}
    {selected : Fin kMaximumDiskCount} {allocation : Allocation} {status : NTSTATUS}
    (h : commitNewLun ext request selected allocation = .error status) :
    ntSuccess status = false := by
  unfold commitNewLun at h
  split at h
  · cases h
    exact ntSuccess_deviceNotReady
  · split at h
    · cases h
      exact ntSuccess_insufficientResources
    · cases h

theorem markLunStopping_some {ext ext' : AdapterExtension} {deviceId : ULONG}
    {l : Fin kMaximumDiskCount} (h : markLunStopping ext deviceId = some (ext', l)) :
    (ext.luns l).state = .online ∧ (ext.luns l).deviceId = deviceId ∧
      ext' = { ext with luns := Function.update ext.luns l { ext.luns l with state := .stopping } } := by
  unfold markLunStopping at h
  split at h
  · rename_i i hfind
    cases h
    have hmatch := List.find?_some hfind
    rw [Bool.and_eq_true, beq_iff_eq, beq_iff_eq] at hmatch
    exact ⟨hmatch.1, hmatch.2, rfl⟩
  · cases h

theorem markLunStopping_none {ext : AdapterExtension} {deviceId : ULONG}
    (h : markLunStopping ext deviceId = none) (l : Fin kMaximumDiskCount)
    (honline : (ext.luns l).state = .online) : (ext.luns l).deviceId ≠ deviceId := by
  unfold markLunStopping at h
  split at h
  · cases h
  · rename_i hfind
    have hl := List.find?_eq_none.mp hfind l (mem_indices l)
    rw [Bool.and_eq_true, beq_iff_eq, beq_iff_eq] at hl
    exact fun heq => hl ⟨honline, heq⟩

theorem firstStoppingLun_some {ext : AdapterExtension} {l : Fin kMaximumDiskCount}
    (h : firstStoppingLun ext = some l) : (ext.luns l).state = .stopping := by
  have hmatch := List.find?_some h
  exact beq_iff_eq.mp hmatch

theorem firstStoppingLun_none {ext : AdapterExtension} (h : firstStoppingLun ext = none)
    (l : Fin kMaximumDiskCount) : (ext.luns l).state ≠ .stopping := fun hstate =>
  List.find?_eq_none.mp h l (mem_indices l) (beq_iff_eq.mpr hstate)

theorem acquireLunIo_some {ext ext' : AdapterExtension} {srb : ScsiRequestBlock}
    {l : Fin kMaximumDiskCount} {view : LunView} (h : acquireLunIo ext srb = some (ext', l, view)) :
    srb.pathId = 0 ∧ srb.targetId = 0 ∧ srb.lun.toNat = l.val ∧ (ext.luns l).state = .online ∧
      (ext.luns l).backingStore = some view.backingStore ∧
      view.sizeBytes = (ext.luns l).sizeBytes ∧ view.mediaKind = (ext.luns l).mediaKind ∧
      view.deviceId = (ext.luns l).deviceId ∧ ext' = { ext with
        luns := Function.update ext.luns l { ext.luns l with
          activeRequests := (ext.luns l).activeRequests + 1
          noActiveRequestsEvent :=
            if (ext.luns l).activeRequests = 0 then false
            else (ext.luns l).noActiveRequestsEvent } } := by
  unfold acquireLunIo at h
  split at h
  · cases h
  · rename_i haddress
    rw [not_or, not_not, not_not] at haddress
    split at h
    · simp only at h
      split at h
      · rename_i honline hbacking
        cases h
        exact ⟨haddress.1, haddress.2, rfl, honline, hbacking, rfl, rfl, rfl, rfl⟩
      · cases h
    · cases h

/-- `DetachBackingStore` takes the backing of the stopping LUN that still has the device ID. -/
theorem detachBackingStore_taken {ext : AdapterExtension} {l : Fin kMaximumDiskCount}
    (hstate : (ext.luns l).state = .stopping) :
    detachBackingStore ext l (ext.luns l).deviceId =
      ({ ext with luns := Function.update ext.luns l { ext.luns l with backingStore := none } },
        (ext.luns l).backingStore) := by
  unfold detachBackingStore
  rw [if_neg (by simp [hstate])]
  rfl

theorem detachBackingStore_refused {ext : AdapterExtension} {l : Fin kMaximumDiskCount}
    {deviceId : ULONG}
    (h : (ext.luns l).state ≠ .stopping ∨ (ext.luns l).deviceId ≠ deviceId) :
    detachBackingStore ext l deviceId = (ext, none) := by
  unfold detachBackingStore
  rw [if_pos h]

end LunStore

/-! ## The operation table -/

namespace ManagementController

theorem findOperationLocked_some {ext : AdapterExtension} {id : ULONGLONG}
    {i : Fin kMaximumOperationCount} (h : findOperationLocked ext id = some i) :
    (ext.operations i).id = id ∧ id ≠ 0 := by
  unfold findOperationLocked at h
  split at h
  · cases h
  · rename_i hzero
    have hmatch := List.find?_some h
    exact ⟨beq_iff_eq.mp hmatch, hzero⟩

theorem findOperationLocked_none {ext : AdapterExtension} {id : ULONGLONG}
    (h : findOperationLocked ext id = none) : id = 0 ∨ ∀ i, (ext.operations i).id ≠ id := by
  unfold findOperationLocked at h
  split at h
  · exact Or.inl ‹_›
  · exact Or.inr fun i heq => List.find?_eq_none.mp h i (List.mem_finRange i) (beq_iff_eq.mpr heq)

theorem reserveOperation_ok {ext ext' : AdapterExtension} {mutation : ULONG}
    {result : OperationResult} (h : reserveOperation ext mutation = .ok (ext', result)) :
    (mutation = wispDiskControlCreateDisk ∨ mutation = wispDiskControlDeleteDisk) ∧
      ext.adapterStopping = false ∧ ext.nextOperationId ≠ 0 ∧
      result = copyResultLocked ext (reservedRecord ext.nextOperationId mutation) ∧
      ∃ i, selectSlot ext.operations recordIndices none = some i ∧ ext' = { ext with
        operations := Function.update ext.operations i (reservedRecord ext.nextOperationId mutation)
        nextOperationId := ext.nextOperationId + 1 } := by
  unfold reserveOperation at h
  split at h
  · cases h
  · rename_i hmutation
    rw [not_and_or, not_not, not_not] at hmutation
    split at h
    · cases h
    · rename_i hopen
      split at h
      · cases h
      · rename_i i hslot
        split at h
        · cases h
        · rename_i hnext
          cases h
          exact ⟨hmutation, Bool.eq_false_iff.mpr hopen, hnext, rfl, i, hslot, rfl⟩

/-- `BeginManagementLocked` opens the gate for one submission at a time. -/
theorem beginManagementLocked_success {ext : AdapterExtension}
    (h : ntSuccess (beginManagementLocked ext).2 = true) :
    ext.adapterStopping = false ∧ ext.managementBusy = false ∧
      (beginManagementLocked ext).1 =
        { ext with managementBusy := true, managementIdleEvent := false } := by
  unfold beginManagementLocked at h ⊢
  cases hstopping : ext.adapterStopping with
  | true =>
    rw [hstopping, if_pos rfl] at h
    cases h
  | false =>
    cases hbusy : ext.managementBusy with
    | true =>
      rw [hstopping, hbusy, if_neg (by decide), if_pos rfl] at h
      cases h
    | false => exact ⟨rfl, rfl, rfl⟩

theorem beginManagementLocked_refused {ext : AdapterExtension}
    (h : ntSuccess (beginManagementLocked ext).2 = false) :
    (beginManagementLocked ext).1 = ext ∧
      ((beginManagementLocked ext).2 = statusDeviceNotReady ∧ ext.adapterStopping = true ∨
        (beginManagementLocked ext).2 = statusDeviceBusy ∧ ext.managementBusy = true) := by
  unfold beginManagementLocked at h ⊢
  cases hstopping : ext.adapterStopping with
  | true => exact ⟨rfl, Or.inl ⟨rfl, rfl⟩⟩
  | false =>
    cases hbusy : ext.managementBusy with
    | true => exact ⟨rfl, Or.inr ⟨rfl, rfl⟩⟩
    | false =>
      rw [hstopping, hbusy, if_neg (by decide), if_neg (by decide)] at h
      cases h

/-- The extension while a submission holds the gate. -/
def begun (ext : AdapterExtension) : AdapterExtension :=
  { ext with managementBusy := true, managementIdleEvent := false }

/-- The ways through `PrepareSubmission`. -/
inductive Prepared (ext : AdapterExtension) (control : ControlRequest) (command : MutationCommand)
    (now : LONGLONG) : Preparation → Prop
  | refused (status : NTSTATUS)
      (hstatus : status = statusDeviceNotReady ∧ ext.adapterStopping = true ∨
        status = statusDeviceBusy ∧ ext.managementBusy = true) :
      Prepared ext control command now
        (.answered ext (control.writeError command.operation.code status command.correlationId))
  | unbound (status : NTSTATUS) (hopen : ext.adapterStopping = false)
      (hidle : ext.managementBusy = false) (hkind : command.isReserved = true)
      (hstatus : status = statusNotFound ∧ (command.identity.adapterInstance ≠ ext.adapterInstance ∨
          command.identity.operationId = 0 ∨
            ∀ i, (ext.operations i).id ≠ command.identity.operationId) ∨
        status = statusInvalidParameter ∧
          ∃ i, (ext.operations i).id = command.identity.operationId ∧
            ((ext.operations i).mutation ≠ command.mutation ∨
              (ext.operations i).state ≠ .reserved ∧
                sameParameters (ext.operations i) command = false)) :
      Prepared ext control command now (.answered (endManagementLocked (begun ext))
        (control.writeError command.operation.code status command.correlationId))
  | replayed (i : Fin kMaximumOperationCount) (hopen : ext.adapterStopping = false)
      (hidle : ext.managementBusy = false) (hkind : command.isReserved = true)
      (hinstance : command.identity.adapterInstance = ext.adapterInstance)
      (hid : (ext.operations i).id = command.identity.operationId)
      (hzero : (ext.operations i).id ≠ 0)
      (hmutation : (ext.operations i).mutation = command.mutation)
      (hstate : (ext.operations i).state ≠ .reserved)
      (hparameters : sameParameters (ext.operations i) command = true) :
      Prepared ext control command now (.answered (endManagementLocked (begun ext))
        (writeOperationResponse control (copyResultLocked ext (ext.operations i))
          command.correlationId))
  | legacy (hopen : ext.adapterStopping = false) (hidle : ext.managementBusy = false)
      (hkind : command.isReserved = false) :
      Prepared ext control command now
        (.admitted (Diagnostics.traceLocked (begun ext) (acceptedEvent command) now)
          (markPending control))
  | bound (i : Fin kMaximumOperationCount) (hopen : ext.adapterStopping = false)
      (hidle : ext.managementBusy = false) (hkind : command.isReserved = true)
      (hinstance : command.identity.adapterInstance = ext.adapterInstance)
      (hid : (ext.operations i).id = command.identity.operationId)
      (hzero : (ext.operations i).id ≠ 0)
      (hmutation : (ext.operations i).mutation = command.mutation)
      (hstate : (ext.operations i).state = .reserved) :
      Prepared ext control command now
        (.admitted (Diagnostics.traceLocked
          ((begun ext).setOperation i (boundRecord (ext.operations i) command))
          (acceptedEvent command) now) (markPending control))

theorem prepareSubmission_spec (ext : AdapterExtension) (control : ControlRequest)
    (command : MutationCommand) (now : LONGLONG) :
    Prepared ext control command now (prepareSubmission ext control command now) := by
  unfold prepareSubmission
  cases hstatus' : ntSuccess (beginManagementLocked ext).2 with
  | false =>
    obtain ⟨hext, hstatus⟩ := beginManagementLocked_refused hstatus'
    simp only [hstatus', Bool.not_false, if_true, hext]
    exact Prepared.refused _ hstatus
  | true =>
    obtain ⟨hopen, hidle, hbegun⟩ := beginManagementLocked_success hstatus'
    simp only [hstatus', Bool.not_true, Bool.false_eq_true, if_false, hbegun]
    cases hkind : command.isReserved with
    | false => exact Prepared.legacy hopen hidle hkind
    | true =>
      rw [if_pos rfl]
      unfold bindOperationLocked
      cases hfind : findOperationLocked (begun ext) command.identity.operationId with
      | none =>
        have hnone := findOperationLocked_none hfind
        simp only [begun] at hfind
        simp only [hfind]
        exact Prepared.unbound _ hopen hidle hkind (Or.inl ⟨rfl, Or.inr hnone⟩)
      | some i =>
        obtain ⟨hid, hzero⟩ := findOperationLocked_some hfind
        have hid : (ext.operations i).id = command.identity.operationId := hid
        simp only [begun] at hfind
        simp only [hfind]
        by_cases hinstance : command.identity.adapterInstance = ext.adapterInstance
        · rw [if_neg (not_not.mpr hinstance)]
          by_cases hmutation : (ext.operations i).mutation = command.mutation
          · rw [if_neg (not_not.mpr hmutation)]
            by_cases hstate : (ext.operations i).state = .reserved
            · rw [if_neg (not_not.mpr hstate)]
              exact Prepared.bound i hopen hidle hkind hinstance hid (hid ▸ hzero) hmutation hstate
            · rw [if_pos hstate]
              cases hsame : sameParameters (ext.operations i) command with
              | false =>
                exact Prepared.unbound _ hopen hidle hkind
                  (Or.inr ⟨rfl, i, hid, Or.inr ⟨hstate, hsame⟩⟩)
              | true =>
                exact Prepared.replayed i hopen hidle hkind hinstance hid (hid ▸ hzero) hmutation
                  hstate hsame
          · rw [if_pos hmutation]
            exact Prepared.unbound _ hopen hidle hkind (Or.inr ⟨rfl, i, hid, Or.inl hmutation⟩)
        · rw [if_pos hinstance]
          exact Prepared.unbound _ hopen hidle hkind (Or.inl ⟨rfl, Or.inl hinstance⟩)

/-- `FailOperationLocked` finds no record, or moves one to Failed. -/
theorem failOperationLocked_spec (ext : AdapterExtension) (id : ULONGLONG) (status : NTSTATUS)
    (control : ControlRequest) (correlation : ULONGLONG) (now : LONGLONG) :
    (failOperationLocked ext id status control correlation now).1 = ext ∧
        (id = 0 ∨ ∀ i, (ext.operations i).id ≠ id) ∨
      ∃ (i : Fin kMaximumOperationCount) (debug : Option DebugState),
        (ext.operations i).id = id ∧ id ≠ 0 ∧
          (failOperationLocked ext id status control correlation now).1 = { ext with
            operations := Function.update ext.operations i
              { ext.operations i with state := .failed, result := status }
            debug := debug } ∧
          (failOperationLocked ext id status control correlation now).2 =
            writeOperationResponse control (copyResultLocked ext
              { ext.operations i with state := .failed, result := status }) correlation := by
  unfold failOperationLocked
  cases hfind : findOperationLocked ext id with
  | none => exact Or.inl ⟨rfl, findOperationLocked_none hfind⟩
  | some i =>
    obtain ⟨hid, hzero⟩ := findOperationLocked_some hfind
    exact Or.inr ⟨i, _, hid, hzero, rfl, rfl⟩

theorem snapshotPendingOperation_ok {ext : AdapterExtension} {control : ControlRequest}
    {identity : OperationRequest} {snapshot : OperationRecord}
    (h : snapshotPendingOperation ext control identity = .ok snapshot) :
    ∃ i, snapshot = ext.operations i ∧ (ext.operations i).id = identity.operationId ∧
      identity.operationId ≠ 0 ∧ (ext.operations i).state = .pending := by
  unfold snapshotPendingOperation at h
  cases hfind : findOperationLocked ext identity.operationId with
  | none =>
    simp only [hfind] at h
    cases h
  | some i =>
    obtain ⟨hid, hzero⟩ := findOperationLocked_some hfind
    simp only [hfind] at h
    split at h
    · cases h
    · rename_i hpending
      rw [not_or, not_not, not_not] at hpending
      cases h
      exact ⟨i, rfl, hid, hzero, hpending.2⟩

theorem snapshotPendingOperation_error {ext : AdapterExtension} {control control' : ControlRequest}
    {identity : OperationRequest}
    (h : snapshotPendingOperation ext control identity = .error control') :
    (identity.operationId = 0 ∨ ∀ i, (ext.operations i).id ≠ identity.operationId) ∨
      ∃ i, (ext.operations i).id = identity.operationId ∧
        (identity.adapterInstance ≠ ext.adapterInstance ∨
          (ext.operations i).state ≠ .pending) := by
  unfold snapshotPendingOperation at h
  cases hfind : findOperationLocked ext identity.operationId with
  | none => exact Or.inl (findOperationLocked_none hfind)
  | some i =>
    simp only [hfind] at h
    split at h
    · rename_i hmissing
      exact Or.inr ⟨i, (findOperationLocked_some hfind).1, hmissing⟩
    · cases h

/-- `PublishOperationResult` finds no record, or overwrites it with the snapshot and binds the
LUN of a successful create. -/
theorem publishOperationResult_spec (ext : AdapterExtension) (control : ControlRequest)
    (snapshot : OperationRecord) (correlation : ULONGLONG) (now : LONGLONG) :
    (publishOperationResult ext control snapshot correlation now).1 = ext ∧
        (snapshot.id = 0 ∨ ∀ i, (ext.operations i).id ≠ snapshot.id) ∨
      ∃ i, (ext.operations i).id = snapshot.id ∧ snapshot.id ≠ 0 ∧
        ∃ (debug : Option DebugState),
          (publishOperationResult ext control snapshot correlation now).1 = { ext with
            operations := Function.update ext.operations i snapshot
            luns :=
              if ntSuccess snapshot.result ∧ snapshot.mutation = wispDiskControlCreateDisk then
                (LunStore.bindCreateOperationLocked ext snapshot.lun snapshot.id).luns
              else ext.luns
            debug := debug } ∧
          (publishOperationResult ext control snapshot correlation now).2 =
            writeOperationResponse control (copyResultLocked ext snapshot) correlation := by
  unfold publishOperationResult
  cases hfind : findOperationLocked ext snapshot.id with
  | none => exact Or.inl ⟨rfl, findOperationLocked_none hfind⟩
  | some i =>
    obtain ⟨hid, hzero⟩ := findOperationLocked_some hfind
    refine Or.inr ⟨i, hid, hzero, ?_⟩
    simp only
    split
    · unfold LunStore.bindCreateOperationLocked
      split
      · exact ⟨_, rfl, trivial⟩
      · exact ⟨_, rfl, trivial⟩
    · exact ⟨_, rfl, trivial⟩

end ManagementController

end WispDisk
