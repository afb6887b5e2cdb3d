import WispDisk.Driver.Diagnostics

/-! `management_controller.cpp`: admission, the operation table and the lock-protected sections of
the worker. A function whose name ends in `Locked`, and each function below that takes the lock
itself, is one critical section; the worker's order of them is in `Adapter.lean`. -/
namespace WispDisk
open Layout
set_option autoImplicit false

/-- `OperationResult`: a copied result, independent of the table. -/
structure OperationResult where
  adapterInstance : ULONGLONG := 0
  operationId : ULONGLONG := 0
  mutation : ULONG := 0
  state : OperationState := .unset
  status : NTSTATUS := 0
  deviceId : ULONG := 0
  lun : UCHAR := 0
  deriving DecidableEq

/-- The four operations that the submission overloads select. -/
inductive MutationOperation
  | createDisk
  | deleteDisk
  | createReserved
  | deleteReserved
  deriving DecidableEq, Repr

def MutationOperation.code : MutationOperation → ULONG
  | createDisk => wispDiskControlCreateDisk
  | deleteDisk => wispDiskControlDeleteDisk
  | createReserved => wispDiskControlCreateReserved
  | deleteReserved => wispDiskControlDeleteReserved

/-- `ManagementController::MutationCommand`. -/
structure MutationCommand where
  operation : MutationOperation
  identity : OperationRequest := {}
  create : CreateRequest := {}
  remove : DeleteRequest := {}
  deriving DecidableEq

namespace MutationCommand

def isReserved (command : MutationCommand) : Bool :=
  command.operation = .createReserved ∨ command.operation = .deleteReserved

def mutation (command : MutationCommand) : ULONG :=
  match command.operation with
  | .createDisk | .createReserved => wispDiskControlCreateDisk
  | .deleteDisk | .deleteReserved => wispDiskControlDeleteDisk

def correlationId (command : MutationCommand) : ULONGLONG :=
  if command.mutation = wispDiskControlCreateDisk then command.create.header.correlationId
  else command.remove.header.correlationId

end MutationCommand

namespace ManagementController

def recordIndices : List (Fin kMaximumOperationCount) := List.finRange kMaximumOperationCount

def closeAdmission (ext : AdapterExtension) : AdapterExtension :=
  { ext with adapterStopping := true }

def copyResultLocked (ext : AdapterExtension) (record : OperationRecord) : OperationResult where
  adapterInstance := ext.adapterInstance
  operationId := record.id
  mutation := record.mutation
  state := record.state
  status := record.result
  deviceId := record.deviceId
  lun := record.lun

def findOperationLocked (ext : AdapterExtension) (id : ULONGLONG) :
    Option (Fin kMaximumOperationCount) :=
  if id = 0 then none else recordIndices.find? fun i => (ext.operations i).id == id

/-- Pending work and live create identities are never evicted. -/
def pinned (record : OperationRecord) : Bool :=
  record.state == .pending ||
    (record.state == .succeeded && record.mutation == wispDiskControlCreateDisk)

/-- The slot search of `ReserveOperation` over the slots still to visit. -/
def selectSlot {n : ℕ} (operations : Fin n → OperationRecord) :
    List (Fin n) → Option (Fin n) → Option (Fin n)
  | [], selected => selected
  | candidate :: rest, selected =>
    if (operations candidate).id = 0 then some candidate
    else if pinned (operations candidate) then selectSlot operations rest selected
    else
      match selected with
      | none => selectSlot operations rest (some candidate)
      | some best =>
        if (operations candidate).id < (operations best).id then
          selectSlot operations rest (some candidate)
        else selectSlot operations rest (some best)

/-- The record a reservation writes. -/
def reservedRecord (id : ULONGLONG) (mutation : ULONG) : OperationRecord where
  id := id
  mutation := mutation
  state := .reserved
  result := statusPending

def reserveOperation (ext : AdapterExtension) (mutation : ULONG) :
    Except NTSTATUS (AdapterExtension × OperationResult) :=
  if mutation ≠ wispDiskControlCreateDisk ∧ mutation ≠ wispDiskControlDeleteDisk then
    .error statusInvalidParameter
  else if ext.adapterStopping then .error statusDeviceNotReady
  else
    match selectSlot ext.operations recordIndices none with
    | none => .error statusInsufficientResources
    | some selected =>
      if ext.nextOperationId = 0 then .error statusInsufficientResources
      else
        let record := reservedRecord ext.nextOperationId mutation
        let reserved := ext.setOperation selected record
        .ok ({ reserved with nextOperationId := ext.nextOperationId + 1 },
          copyResultLocked ext record)

def queryOperation (ext : AdapterExtension) (adapterInstance operation : ULONGLONG) :
    Except NTSTATUS OperationResult :=
  match findOperationLocked ext operation with
  | none => .error statusNotFound
  | some i =>
    if adapterInstance ≠ ext.adapterInstance then .error statusNotFound
    else .ok (copyResultLocked ext (ext.operations i))

def pendingOperations (ext : AdapterExtension) : ℕ :=
  recordIndices.countP fun i => (ext.operations i).state == .pending

def snapshotState (ext : AdapterExtension) (response : StateResponse) : StateResponse :=
  LunStore.snapshotStateLocked ext { response with
    adapterInstance := ext.adapterInstance
    pendingOperations := UInt32.ofNat (pendingOperations ext) }

/-! ## The management gate -/

def beginManagementLocked (ext : AdapterExtension) : AdapterExtension × NTSTATUS :=
  if ext.adapterStopping then (ext, statusDeviceNotReady)
  else if ext.managementBusy then (ext, statusDeviceBusy)
  else ({ ext with managementBusy := true, managementIdleEvent := false }, statusSuccess)

def endManagementLocked (ext : AdapterExtension) : AdapterExtension :=
  { ext with managementBusy := false, managementIdleEvent := true }

/-! ## Binding and resolving an operation -/

/-- Whether a replay names the parameters that were bound. -/
def sameParameters (record : OperationRecord) (command : MutationCommand) : Bool :=
  if command.mutation = wispDiskControlCreateDisk then
    record.create.sizeBytes == command.create.sizeBytes &&
      record.create.mediaKind == command.create.mediaKind &&
      record.create.requestedDriveLetter == command.create.requestedDriveLetter &&
      record.create.logicalSectorSize == command.create.logicalSectorSize
  else record.delete.deviceId == command.remove.deviceId

/-- The record that binding a command leaves. -/
def boundRecord (record : OperationRecord) (command : MutationCommand) : OperationRecord :=
  { record with
    create := command.create
    delete := command.remove
    deviceId :=
      if command.mutation = wispDiskControlDeleteDisk then command.remove.deviceId
      else record.deviceId
    state := .pending }

/-- `BindOperationLocked`: a refusal, a replay of the recorded result, or acceptance. -/
inductive Binding
  | refused (status : NTSTATUS)
  | replayed (result : OperationResult)
  | accepted (ext : AdapterExtension)

def bindOperationLocked (ext : AdapterExtension) (command : MutationCommand) : Binding :=
  match findOperationLocked ext command.identity.operationId with
  | none => .refused statusNotFound
  | some i =>
    let record := ext.operations i
    if command.identity.adapterInstance ≠ ext.adapterInstance then .refused statusNotFound
    else if record.mutation ≠ command.mutation then .refused statusInvalidParameter
    else if record.state ≠ .reserved then
      if !sameParameters record command then .refused statusInvalidParameter
      else .replayed (copyResultLocked ext record)
    else .accepted (ext.setOperation i (boundRecord record command))

def operationResponse (control : ControlRequest) (result : OperationResult)
    (correlation : ULONGLONG) : OperationResponse where
  header := makeResponseHeader OperationResponse.size control.ioControl.controlCode statusSuccess
    correlation
  adapterInstance := result.adapterInstance
  operationId := result.operationId
  mutation := result.mutation
  state := result.state.code
  resultStatus := result.status
  deviceId := result.deviceId
  lun := result.lun

def writeOperationResponse (control : ControlRequest) (result : OperationResult)
    (correlation : ULONGLONG) : ControlRequest :=
  control.writeResponse OperationResponse.size (operationResponse control result correlation).fields
    statusSuccess

def failOperationLocked (ext : AdapterExtension) (id : ULONGLONG) (status : NTSTATUS)
    (control : ControlRequest) (correlation : ULONGLONG) (now : LONGLONG) :
    AdapterExtension × ControlRequest :=
  match findOperationLocked ext id with
  | none => (ext, control.writeError control.ioControl.controlCode statusNotFound correlation)
  | some i =>
    let record := { ext.operations i with state := .failed, result := status }
    let failed := ext.setOperation i record
    (Diagnostics.traceLocked failed
      { operation := record.id, device := record.deviceId, phase := .rejected, status := status }
      now,
      writeOperationResponse control (copyResultLocked ext record) correlation)

/-- `PrepareSubmission`: either the SRB has its answer, or the command is admitted and pending. -/
inductive Preparation
  | answered (ext : AdapterExtension) (control : ControlRequest)
  | admitted (ext : AdapterExtension) (control : ControlRequest)

/-- The SRB published as pending before the worker can see it. -/
def markPending (control : ControlRequest) : ControlRequest :=
  { control with
    ioControl := { control.ioControl with returnCode := statusPending.toUInt32 }
    srb := { control.srb with srbStatus := srbStatusPending } }

def acceptedEvent (command : MutationCommand) : Diagnostics.TraceEvent where
  operation :=
    if command.isReserved then command.identity.operationId else command.correlationId
  device := 0
  phase := .accepted
  status := statusPending
  srbStatus := srbStatusPending.toUInt32

def prepareSubmission (ext : AdapterExtension) (control : ControlRequest)
    (command : MutationCommand) (now : LONGLONG) : Preparation :=
  let correlation := command.correlationId
  let (begun, status) := beginManagementLocked ext
  if !ntSuccess status then
    .answered begun (control.writeError command.operation.code status correlation)
  else if command.isReserved then
    match bindOperationLocked begun command with
    | .refused status =>
      .answered (endManagementLocked begun)
        (control.writeError command.operation.code status correlation)
    | .replayed result =>
      .answered (endManagementLocked begun) (writeOperationResponse control result correlation)
    | .accepted bound =>
      .admitted (Diagnostics.traceLocked bound (acceptedEvent command) now) (markPending control)
  else
    .admitted (Diagnostics.traceLocked begun (acceptedEvent command) now) (markPending control)

/-- The section of `Submit` after `StorPortQueueWorkItem` has failed. -/
def failQueueing (ext : AdapterExtension) (control : ControlRequest) (command : MutationCommand)
    (now : LONGLONG) : AdapterExtension × ControlRequest :=
  let (ext, control) :=
    if command.isReserved then
      failOperationLocked ext command.identity.operationId statusInsufficientResources control
        command.correlationId now
    else
      (ext, control.writeError command.operation.code statusInsufficientResources
        command.correlationId)
  (endManagementLocked ext, control)

/-! ## Removal -/

/-- `MarkCreatesDeletedLocked` on one record. -/
def markDeleted (deviceId : ULONG) (record : OperationRecord) : OperationRecord :=
  if record.mutation = wispDiskControlCreateDisk ∧ record.deviceId = deviceId ∧
      record.state = .succeeded then
    { record with state := .deleted }
  else record

def markCreatesDeletedLocked (ext : AdapterExtension) (deviceId : ULONG) : AdapterExtension :=
  { ext with operations := fun i => markDeleted deviceId (ext.operations i) }

def finalizeDiskRemoval (ext : AdapterExtension) (lun : Fin kMaximumDiskCount) (deviceId : ULONG) :
    AdapterExtension :=
  LunStore.finalizeRemovalLocked (markCreatesDeletedLocked ext deviceId) lun

/-! ## The worker's reserved requests -/

/-- `SnapshotPendingOperation`: the pending record, or the answer that there is none. -/
def snapshotPendingOperation (ext : AdapterExtension) (control : ControlRequest)
    (identity : OperationRequest) : Except ControlRequest OperationRecord :=
  let missing := control.writeError control.ioControl.controlCode statusNotFound
    identity.header.correlationId
  match findOperationLocked ext identity.operationId with
  | none => .error missing
  | some i =>
    if identity.adapterInstance ≠ ext.adapterInstance ∨ (ext.operations i).state ≠ .pending then
      .error missing
    else .ok (ext.operations i)

def publishOperationResult (ext : AdapterExtension) (control : ControlRequest)
    (snapshot : OperationRecord) (correlation : ULONGLONG) (now : LONGLONG) :
    AdapterExtension × ControlRequest :=
  match findOperationLocked ext snapshot.id with
  | none => (ext, control.writeError control.ioControl.controlCode statusNotFound correlation)
  | some i =>
    let bound :=
      if ntSuccess snapshot.result ∧ snapshot.mutation = wispDiskControlCreateDisk then
        LunStore.bindCreateOperationLocked ext snapshot.lun snapshot.id
      else ext
    let published := bound.setOperation i snapshot
    (Diagnostics.traceLocked published
      { operation := snapshot.id
        device := snapshot.deviceId
        phase := if ntSuccess snapshot.result then .committed else .rejected
        status := snapshot.result }
      now,
      writeOperationResponse control (copyResultLocked ext snapshot) correlation)

end ManagementController

end WispDisk
