import WispDisk.Driver.ControlRequest

/-! `lun_store.cpp`: the lock-protected sections that read and change the LUN table, one function
for each. The blocking parts between them (pool calls, waiting for I/O) are steps of the adapter. -/
namespace WispDisk
set_option autoImplicit false

/-- `LunView`. -/
structure LunView where
  backingStore : Allocation
  sizeBytes : ULONGLONG
  mediaKind : ULONG
  deviceId : ULONG
  deriving DecidableEq

namespace LunStore

def indices : List (Fin kMaximumDiskCount) := List.finRange kMaximumDiskCount

def diskInfo (lun : Lun) : DiskInfo where
  deviceId := lun.deviceId
  lun := lun.lun
  sizeBytes := lun.sizeBytes
  logicalSectorSize := kLogicalSectorSize
  mediaKind := lun.mediaKind
  requestedDriveLetter := lun.requestedDriveLetter

def onlineLuns (ext : AdapterExtension) : List (Fin kMaximumDiskCount) :=
  indices.filter fun i => (ext.luns i).state == .online

def ownedLuns (ext : AdapterExtension) : List (Fin kMaximumDiskCount) :=
  indices.filter fun i => (ext.luns i).state != .empty

def snapshotOnlineDisks (ext : AdapterExtension) (response : ListResponse) : ListResponse :=
  { response with
    disks := (onlineLuns ext).map fun i => diskInfo (ext.luns i)
    diskCount := UInt32.ofNat (onlineLuns ext).length }

def snapshotStateLocked (ext : AdapterExtension) (response : StateResponse) : StateResponse :=
  { response with
    allocatedBytes := ext.totalAllocatedBytes
    disks := (ownedLuns ext).map fun i =>
      { disk := diskInfo (ext.luns i)
        createOperationId := (ext.luns i).createOperationId
        state := (ext.luns i).state.code }
    diskCount := UInt32.ofNat (ownedLuns ext).length }

-- the source asserts the bound; every caller passes the number of a selected LUN
def bindCreateOperationLocked (ext : AdapterExtension) (lun : UCHAR) (operation : ULONGLONG) :
    AdapterExtension :=
  if hlun : lun.toNat < kMaximumDiskCount then
    let i : Fin kMaximumDiskCount := ⟨lun.toNat, hlun⟩
    ext.setLun i { ext.luns i with createOperationId := operation }
  else ext

def snapshotOnlineLuns (ext : AdapterExtension) : List UCHAR :=
  (onlineLuns ext).map fun i => (ext.luns i).lun

def selectAvailableLun (ext : AdapterExtension) (sizeBytes : ULONGLONG) :
    Except NTSTATUS (Fin kMaximumDiskCount) :=
  if ext.adapterStopping then .error statusDeviceNotReady
  else if kMaximumTotalDiskBytes - sizeBytes < ext.totalAllocatedBytes then
    .error statusQuotaExceeded
  else
    match indices.find? fun i => (ext.luns i).state == .empty with
    | some selected => .ok selected
    | none => .error statusInsufficientResources

/-- The LUN that `CommitNewLun` publishes. -/
def newLun (request : CreateRequest) (selected : Fin kMaximumDiskCount) (allocation : Allocation)
    (deviceId : ULONG) : Lun where
  state := .online
  deviceId := deviceId
  lun := UInt8.ofNat selected.val
  mediaKind := request.mediaKind
  requestedDriveLetter := request.requestedDriveLetter
  sizeBytes := request.sizeBytes
  createOperationId := 0
  backingStore := some allocation
  activeRequests := 0
  noActiveRequestsEvent := true

/-- `CommitNewLun`: the changed extension and the new device ID, or the status of a refusal. -/
def commitNewLun (ext : AdapterExtension) (request : CreateRequest)
    (selected : Fin kMaximumDiskCount) (allocation : Allocation) :
    Except NTSTATUS (AdapterExtension × ULONG) :=
  if ext.adapterStopping ∨ (ext.luns selected).state ≠ .empty then .error statusDeviceNotReady
  else if ext.nextDeviceId = 0 then .error statusInsufficientResources
  else
    let deviceId := ext.nextDeviceId
    let committed := ext.setLun selected (newLun request selected allocation deviceId)
    .ok ({ committed with
      nextDeviceId := deviceId + 1
      totalAllocatedBytes := ext.totalAllocatedBytes + request.sizeBytes }, deviceId)

def markLunStopping (ext : AdapterExtension) (deviceId : ULONG) :
    Option (AdapterExtension × Fin kMaximumDiskCount) :=
  match indices.find? fun i =>
    (ext.luns i).state == .online && (ext.luns i).deviceId == deviceId with
  | some i => some (ext.setLun i { ext.luns i with state := .stopping }, i)
  | none => none

def detachBackingStore (ext : AdapterExtension) (lun : Fin kMaximumDiskCount) (deviceId : ULONG) :
    AdapterExtension × Option Allocation :=
  if (ext.luns lun).state ≠ .stopping ∨ (ext.luns lun).deviceId ≠ deviceId then (ext, none)
  else (ext.setLun lun { ext.luns lun with backingStore := none }, (ext.luns lun).backingStore)

/-- The LUN that `FinalizeRemovalLocked` leaves. -/
def removedLun (lun : Lun) : Lun :=
  { lun with
    backingStore := none
    sizeBytes := 0
    deviceId := 0
    mediaKind := 0
    requestedDriveLetter := 0
    createOperationId := 0
    state := .empty }

def finalizeRemovalLocked (ext : AdapterExtension) (lun : Fin kMaximumDiskCount) :
    AdapterExtension :=
  let removed := ext.setLun lun (removedLun (ext.luns lun))
  { removed with
    totalAllocatedBytes :=
      if (ext.luns lun).sizeBytes ≤ ext.totalAllocatedBytes then
        ext.totalAllocatedBytes - (ext.luns lun).sizeBytes
      else 0 }

def markAllLunsStopping (ext : AdapterExtension) : AdapterExtension :=
  { ext with
    luns := fun i =>
      if (ext.luns i).state = .online then { ext.luns i with state := .stopping }
      else ext.luns i }

def firstStoppingLun (ext : AdapterExtension) : Option (Fin kMaximumDiskCount) :=
  indices.find? fun i => (ext.luns i).state == .stopping

/-- `AcquireLunIo`: the LUN whose reference the lease holds and the view of it. -/
def acquireLunIo (ext : AdapterExtension) (srb : ScsiRequestBlock) :
    Option (AdapterExtension × Fin kMaximumDiskCount × LunView) :=
  if srb.pathId ≠ 0 ∨ srb.targetId ≠ 0 then none
  else if hlun : srb.lun.toNat < kMaximumDiskCount then
    let i : Fin kMaximumDiskCount := ⟨srb.lun.toNat, hlun⟩
    let lun := ext.luns i
    match lun.state, lun.backingStore with
    | .online, some backing =>
      let event := if lun.activeRequests = 0 then false else lun.noActiveRequestsEvent
      some (ext.setLun i { lun with
          activeRequests := lun.activeRequests + 1
          noActiveRequestsEvent := event }, i,
        { backingStore := backing
          sizeBytes := lun.sizeBytes
          mediaKind := lun.mediaKind
          deviceId := lun.deviceId })
    | _, _ => none
  else none

def releaseLunIo (ext : AdapterExtension) (i : Fin kMaximumDiskCount) : AdapterExtension :=
  let lun := ext.luns i
  if lun.activeRequests = 0 then ext
  else
    let event := if lun.activeRequests - 1 = 0 then true else lun.noActiveRequestsEvent
    ext.setLun i { lun with
      activeRequests := lun.activeRequests - 1
      noActiveRequestsEvent := event }

end LunStore

end WispDisk
