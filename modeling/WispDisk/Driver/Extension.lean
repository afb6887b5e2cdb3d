import Mathlib.Data.List.FinRange
import WispDisk.Protocol.Wire

/-! The adapter extension of `driver.h`: the LUN table, the operation table, the management gate
and the allocation counters, all guarded by `LunLock`, and the Debug diagnostic state. -/
namespace WispDisk
open Layout
set_option autoImplicit false

def kAdapterExtensionSignature : ULONG := 0x57697370
abbrev kMaximumDiskCount : ℕ := 16
abbrev kMaximumOperationCount : ℕ := 128
def kLogicalSectorSize : ULONG := 512
def kMaximumTransferLength : ULONG := 1024 * 1024
def kMinimumDiskSize : ULONGLONG := 1024 * 1024
def kMaximumDiskSize : ULONGLONG := 256 * 1024 * 1024
def kMaximumTotalDiskBytes : ULONGLONG := 512 * 1024 * 1024

/-- The identity of one successful pool allocation; no two allocations share one. -/
abbrev Allocation := ℕ

/-- `WispDiskLunState`. -/
inductive LunState
  | empty
  | online
  | stopping
  deriving DecidableEq, Repr

def LunState.code : LunState → ULONG
  | empty => 0
  | online => 1
  | stopping => 2

/-- `WISPDISK_LUN`; `noActiveRequestsEvent` is true while the event is signalled. -/
structure Lun where
  state : LunState := .empty
  deviceId : ULONG := 0
  lun : UCHAR := 0
  mediaKind : ULONG := 0
  requestedDriveLetter : USHORT := 0
  sizeBytes : ULONGLONG := 0
  createOperationId : ULONGLONG := 0
  backingStore : Option Allocation := none
  activeRequests : ULONG := 0
  noActiveRequestsEvent : Bool := false
  deriving DecidableEq

/-- `WISPDISK_OPERATION_RECORD`. -/
structure OperationRecord where
  id : ULONGLONG := 0
  mutation : ULONG := 0
  state : OperationState := .unset
  result : NTSTATUS := 0
  deviceId : ULONG := 0
  lun : UCHAR := 0
  create : CreateRequest := {}
  delete : DeleteRequest := {}
  deriving DecidableEq

/-- `diagnostics::Mode`. -/
inductive Mode
  | disabled
  | traceOnly
  | failResponseTransport
  | rejectOperation
  | delayWorker
  deriving DecidableEq, Repr

def Mode.ofCode : ULONG → Option Mode
  | 0 => some .disabled
  | 1 => some .traceOnly
  | 2 => some .failResponseTransport
  | 3 => some .rejectOperation
  | 4 => some .delayWorker
  | _ => none

/-- `TracePhase`. -/
inductive TracePhase
  | accepted
  | worker
  | committed
  | response
  | complete
  | busChange
  | rejected
  deriving DecidableEq, Repr

def TracePhase.code : TracePhase → ULONG
  | accepted => 1
  | worker => 2
  | committed => 3
  | response => 4
  | complete => 5
  | busChange => 6
  | rejected => 7

structure TraceEntry where
  sequence : ULONGLONG := 0
  operationId : ULONGLONG := 0
  timestamp : LONGLONG := 0
  deviceId : ULONG := 0
  phase : ULONG := 0
  status : NTSTATUS := 0
  srbStatus : ULONG := 0
  deriving DecidableEq

abbrev traceEntryCount : ℕ := 128

/-- The fields under `#if DBG`. -/
structure DebugState where
  traceEnabled : Bool := false
  faultMode : Mode := .disabled
  faultRemaining : ULONG := 0
  traceSequence : ULONGLONG := 0
  trace : Fin traceEntryCount → TraceEntry := fun _ => {}

/-- `WISPDISK_ADAPTER_EXTENSION`; a Release build has no `debug` part. `managementWorker` tells
whether the worker pointer is non-null. -/
structure AdapterExtension where
  signature : ULONG := 0
  adapterStopping : Bool := false
  managementBusy : Bool := false
  managementIdleEvent : Bool := false
  managementWorker : Bool := false
  nextDeviceId : ULONG := 0
  adapterInstance : ULONGLONG := 0
  nextOperationId : ULONGLONG := 0
  operations : Fin kMaximumOperationCount → OperationRecord := fun _ => {}
  totalAllocatedBytes : ULONGLONG := 0
  luns : Fin kMaximumDiskCount → Lun := fun _ => {}
  debug : Option DebugState := none

/-- Replacing one LUN of the table. -/
def AdapterExtension.setLun (ext : AdapterExtension) (i : Fin kMaximumDiskCount) (l : Lun) :
    AdapterExtension :=
  { ext with luns := Function.update ext.luns i l }

/-- Replacing one record of the operation table. -/
def AdapterExtension.setOperation (ext : AdapterExtension) (i : Fin kMaximumOperationCount)
    (r : OperationRecord) : AdapterExtension :=
  { ext with operations := Function.update ext.operations i r }

/-- `LunStore::Initialize`: each LUN learns its number and starts with its event signalled. -/
def initialLun (i : Fin kMaximumDiskCount) : Lun :=
  { lun := UInt8.ofNat i.val, noActiveRequestsEvent := true }

/-- The extension after a successful `AdapterContext::Initialize` that chose `adapterInstance`, in
a Debug or Release build. -/
def AdapterExtension.initialize (adapterInstance : ULONGLONG) (dbg : Bool) :
    AdapterExtension where
  signature := kAdapterExtensionSignature
  managementIdleEvent := true
  managementWorker := true
  nextDeviceId := 1
  adapterInstance := adapterInstance
  nextOperationId := 1
  luns := initialLun
  debug := if dbg then some {} else none

end WispDisk
