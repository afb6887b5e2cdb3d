import WispDisk.Driver.ControlDispatch
import WispDisk.Driver.Scsi
import WispDisk.Foundations.Transition

/-! One adapter and everything that runs on it. A step is one lock-protected section or one
unlocked action of a thread: a call of `HwStartIo`, a SCSI command holding its I/O lease, a
management SRB between `PrepareSubmission` and `EndManagementLocked` (the caller until the work
item is queued, then the worker), a stop/restart callback, or the teardown thread. The outcome of a
StorPort call is part of the action. `history` records what has happened and is never read. -/
namespace WispDisk
open Layout ControlDispatch ManagementController Transition
set_option autoImplicit false

def srbFunctionExecuteScsi : UCHAR := 0x00
def srbFunctionIoControl : UCHAR := 0x02
def srbFunctionShutdown : UCHAR := 0x07
def srbFunctionFlush : UCHAR := 0x08
def srbFunctionPower : UCHAR := 0x24
def srbFunctionPnp : UCHAR := 0x25

/-- What `StorPortAllocatePool` has handed out, the bytes there, and what has been freed. -/
structure Pool where
  next : Allocation := 0
  contents : Allocation → Bytes
  frees : List Allocation := []

/-! ## The worker's program -/

/-- The mutation that the worker executes, with the stack variables it answers from. -/
inductive Work
  | legacyCreate (request : CreateRequest)
  | legacyDelete (request : DeleteRequest)
  | reserved (snapshot : OperationRecord) (correlation : ULONGLONG)

namespace Work

def isCreate : Work → Bool
  | legacyCreate _ => true
  | legacyDelete _ => false
  | reserved snapshot _ => snapshot.mutation == wispDiskControlCreateDisk

def request : Work → CreateRequest
  | legacyCreate request => request
  | legacyDelete _ => {}
  | reserved snapshot _ => snapshot.create

def target : Work → ULONG
  | legacyCreate _ => 0
  | legacyDelete request => request.deviceId
  | reserved snapshot _ => snapshot.delete.deviceId

def operation : Work → Option ULONGLONG
  | reserved snapshot _ => some snapshot.id
  | _ => none

end Work

/-- The snapshot that `ProcessReservedRequest` publishes. -/
def resolvedRecord (snapshot : OperationRecord) (status : NTSTATUS)
    (created : Option (ULONG × UCHAR)) : OperationRecord :=
  let state : OperationState := if ntSuccess status then .succeeded else .failed
  if snapshot.mutation = wispDiskControlCreateDisk then
    match created with
    | some (deviceId, lun) =>
      { snapshot with deviceId := deviceId, lun := lun, result := status, state := state }
    | none => { snapshot with result := status, state := state }
  else
    { snapshot with deviceId := snapshot.delete.deviceId, result := status, state := state }

/-- What the worker copies before the SRB is completed. -/
structure Metadata where
  busChanged : Bool := false
  operationId : ULONGLONG := 0
  deviceId : ULONG := 0
  resultStatus : NTSTATUS := statusInvalidDeviceRequest
  srbStatus : UCHAR

def isReservedCode (code : ULONG) : Bool :=
  code = wispDiskControlCreateReserved ∨ code = wispDiskControlDeleteReserved

def isMutationCode (code : ULONG) : Bool :=
  code = wispDiskControlCreateDisk ∨ code = wispDiskControlDeleteDisk ∨ isReservedCode code

def metadata (control : ControlRequest) : Metadata :=
  let code := control.ioControl.controlCode
  if isReservedCode code ∧ control.ioControl.length = OperationResponse.size then
    let response := OperationResponse.read control.payload 0
    { busChanged := response.state = OperationState.succeeded.code ∧ ntSuccess response.resultStatus
      operationId := response.operationId
      deviceId := response.deviceId
      resultStatus := response.resultStatus
      srbStatus := control.srb.srbStatus }
  else
    { busChanged := control.ioControl.returnCode = statusSuccess.toUInt32 ∧ isMutationCode code
      srbStatus := control.srb.srbStatus }

/-- Where an admitted management SRB is. `prepared` and `queueFailed` belong to the caller of
`Submit`, the others to the worker; each names what happens next. -/
inductive Phase
  | prepared
  | queueFailed
  | queued
  | takeFault
  | rejectOperation
  | snapshotPending
  | selectLun (work : Work)
  | allocate (work : Work) (selected : Fin kMaximumDiskCount)
  | zeroMemory (work : Work) (selected : Fin kMaximumDiskCount) (allocation : Allocation)
  | commit (work : Work) (selected : Fin kMaximumDiskCount) (allocation : Allocation)
  | freeAllocation (work : Work) (allocation : Allocation) (status : NTSTATUS)
  | markStopping (work : Work)
  | waitForLunIo (work : Work) (lun : Fin kMaximumDiskCount)
  | detach (work : Work) (lun : Fin kMaximumDiskCount)
  | freePool (work : Work) (lun : Fin kMaximumDiskCount) (backing : Option Allocation)
  | finalize (work : Work) (lun : Fin kMaximumDiskCount)
  | publish (work : Work) (status : NTSTATUS) (created : Option (ULONG × UCHAR))
  | respond
  | traceResponse (metadata : Metadata)
  | complete (metadata : Metadata)
  | notifyBus (metadata : Metadata)
  | endManagement

/-- The call of `CreateDisk` or `DeleteDisk`. -/
def Work.start (work : Work) : Phase :=
  if work.isCreate then .selectLun work else .markStopping work

/-- An admitted management SRB. -/
structure Submission where
  id : ℕ
  control : ControlRequest
  command : MutationCommand
  fault : Mode := .disabled
  phase : Phase := .prepared

/-- A SCSI command between `AcquireIo` and the lease's destructor; `status` is set once the command
has been dispatched. -/
structure ScsiCommand where
  id : ℕ
  srb : ScsiRequestBlock
  lun : Fin kMaximumDiskCount
  view : LunView
  status : Option UCHAR := none

/-- An SRB whose handler has returned to `StartIo`, before `CompleteRequest`. -/
structure Returned where
  id : ℕ
  srb : ScsiRequestBlock
  status : UCHAR

/-- Where `HwFreeAdapterResources` is. -/
inductive Teardown
  | notStarted
  | closeAdmission
  | waitForIdle
  | idleObserved
  | markAllStopping
  | firstStopping
  | readTarget (lun : Fin kMaximumDiskCount)
  | waitForLunIo (lun : Fin kMaximumDiskCount) (deviceId : ULONG)
  | detach (lun : Fin kMaximumDiskCount) (deviceId : ULONG)
  | freePool (lun : Fin kMaximumDiskCount) (backing : Option Allocation)
  | readRemoved (lun : Fin kMaximumDiskCount)
  | finalize (lun : Fin kMaximumDiskCount) (deviceId : ULONG)
  | releaseWorker
  | invalidate
  | done
  deriving DecidableEq

/-! ## History -/

/-- A call of `CreateDisk` or `DeleteDisk` for a reserved operation. -/
structure Execution where
  operationId : ULONGLONG
  mutation : ULONG
  create : CreateRequest
  delete : DeleteRequest
  deriving DecidableEq

/-- A successful `CommitNewLun`; `operation` is the reserved operation it ran for. -/
structure Commit where
  operation : Option ULONGLONG
  request : CreateRequest
  deviceId : ULONG
  lun : Fin kMaximumDiskCount
  allocation : Allocation

/-- A finished `DeleteDisk`; `operation` is the reserved operation it ran for. -/
structure Removal where
  operation : Option ULONGLONG
  deviceId : ULONG

structure History where
  /-- Operation IDs that `ReserveOperation` returned. -/
  reservations : List ULONGLONG := []
  /-- Commands that `BindOperationLocked` accepted. -/
  accepted : List MutationCommand := []
  executions : List Execution := []
  commits : List Commit := []
  removals : List Removal := []
  /-- SRBs that `PrepareSubmission` admitted. -/
  admitted : List ℕ := []
  /-- SRBs whose admitted submission has run `EndManagementLocked`. -/
  ended : List ℕ := []
  /-- `RequestComplete` notifications. -/
  completions : List (ℕ × ScsiRequestBlock) := []
  /-- SRBs whose worker run issued `BusChangeDetected`. -/
  busChanges : List ℕ := []
  /-- LUNs that the loop of `DrainAndReleaseDisks` has selected. -/
  drained : List (Fin kMaximumDiskCount) := []

structure Adapter where
  extension : AdapterExtension
  pool : Pool
  commands : List ScsiCommand := []
  submissions : List Submission := []
  returned : List Returned := []
  teardown : Teardown := .notStarted
  nextSrb : ℕ := 0
  history : History := {}

namespace Adapter

/-! ## HwStartIo -/

/-- StorPort keeps at most `PORT_CONFIGURATION_INFORMATION::MaxNumberOfIO` requests outstanding,
and that field is a ULONG. -/
def maximumNumberOfIo : ℕ := 2 ^ 32 - 1

def outstanding (a : Adapter) : ℕ :=
  a.commands.length + a.submissions.length + a.returned.length

def giveBack (a : Adapter) (id : ℕ) (srb : ScsiRequestBlock) (status : UCHAR) : Adapter :=
  { a with returned := a.returned ++ [{ id := id, srb := srb, status := status }] }

/-- The status that `StartIo` completes a control request with. -/
def controlStatus (srb : ScsiRequestBlock) : UCHAR :=
  if srb.srbStatus = srbStatusPending then srbStatusInvalidRequest else srb.srbStatus

/-- The reservation that a control request has made, as the change of the ID counter shows it. -/
def reservationOf (before after : AdapterExtension) : List ULONGLONG :=
  if before.nextOperationId = after.nextOperationId then [] else [before.nextOperationId]

def startIoControl (a : Adapter) (id : ℕ) (srb : ScsiRequestBlock) (now : LONGLONG) : Adapter :=
  match handleIoControl a.extension srb now with
  | .complete ext srb =>
    { a with
      extension := ext
      history := { a.history with
        reservations := a.history.reservations ++ reservationOf a.extension ext } }.giveBack id srb
      (controlStatus srb)
  | .submitted ext control command =>
    { a with
      extension := ext
      submissions := a.submissions ++ [{ id := id, control := control, command := command }]
      history := { a.history with
        admitted := a.history.admitted ++ [id]
        accepted :=
          a.history.accepted ++ if command.isReserved then [command] else [] } }

/-- `WispDiskHandleExecuteScsi` up to the dispatch of a command that holds a lease. -/
def startExecuteScsi (a : Adapter) (id : ℕ) (srb : ScsiRequestBlock) : Adapter :=
  if srb.cdbLength = 0 then
    let (status, srb) := Scsi.invalidCdb srb
    a.giveBack id srb status
  else if srb.cdb 0 = Scsi.scsiopReportLuns then
    let (status, srb) := Scsi.handleReportLuns a.extension srb
    a.giveBack id srb status
  else
    match LunStore.acquireLunIo a.extension srb with
    | none => a.giveBack id { srb with dataTransferLength := 0 } srbStatusNoDevice
    | some (ext, lun, view) =>
      { a with
        extension := ext
        commands := a.commands ++ [{ id := id, srb := srb, lun := lun, view := view }] }

/-- `AdapterContext::StartIo` up to the point where the SRB waits for its completion. -/
def startIo (a : Adapter) (srb : ScsiRequestBlock) (now : LONGLONG) : Adapter :=
  let id := a.nextSrb
  let a := { a with nextSrb := id + 1 }
  if srb.function = srbFunctionIoControl then a.startIoControl id srb now
  else if srb.function = srbFunctionExecuteScsi then a.startExecuteScsi id srb
  else if srb.function = srbFunctionPnp ∨ srb.function = srbFunctionPower ∨
      srb.function = srbFunctionFlush ∨ srb.function = srbFunctionShutdown then
    a.giveBack id { srb with dataTransferLength := 0 } srbStatusSuccess
  else a.giveBack id { srb with dataTransferLength := 0 } srbStatusInvalidRequest

/-- `AdapterContext::CompleteRequest`: the SRB as the notification sees it. -/
def completeRequest (srb : ScsiRequestBlock) (status : UCHAR) : ScsiRequestBlock :=
  let baseStatus := status &&& 0x3f
  { srb with
    srbStatus := status
    scsiStatus :=
      if baseStatus = srbStatusSuccess ∨ baseStatus = srbStatusDataOverrun then scsistatGood
      else srb.scsiStatus }

def complete (a : Adapter) (id : ℕ) (srb : ScsiRequestBlock) : Adapter :=
  { a with history := { a.history with completions := a.history.completions ++ [(id, srb)] } }

/-! ## SCSI commands that hold a lease -/

/-- The command's data phase, or, after it, the lease's destructor and the return to `StartIo`. -/
def advanceCommand (a : Adapter) (i : ℕ) (c : ScsiCommand) : Adapter :=
  match c.status with
  | none =>
    let (status, srb, backing) :=
      Scsi.dispatchScsiCommand c.view (a.pool.contents c.view.backingStore) c.srb
    { a with
      pool := { a.pool with
        contents := Function.update a.pool.contents c.view.backingStore backing }
      commands := a.commands.set i { c with srb := srb, status := some status } }
  | some status =>
    { a with
      extension := LunStore.releaseLunIo a.extension c.lun
      commands := a.commands.eraseIdx i }.giveBack c.id c.srb status

/-! ## Management SRBs -/

def trace (a : Adapter) (e : Diagnostics.TraceEvent) (now : LONGLONG) : Adapter :=
  { a with extension := Diagnostics.traceLocked a.extension e now }

/-- The worker's view of an SRB whose control envelope is not valid. -/
def invalidControl (control : ControlRequest) : ControlRequest :=
  { control with
    srb := { control.srb with
      dataTransferLength := 0
      scsiStatus := scsistatCheckCondition
      srbStatus := srbStatusInvalidRequest } }

/-- The injected transport failure of a response that reports success. -/
def failTransport (fault : Mode) (control : ControlRequest) : ControlRequest :=
  if fault = .failResponseTransport ∧ control.ioControl.returnCode = statusSuccess.toUInt32 then
    { control with
      srb := { control.srb with
        srbStatus := srbStatusError
        scsiStatus := scsistatCheckCondition } }
  else control

def traceEvent (m : Metadata) (phase : TracePhase) (srbStatus : ULONG) :
    Diagnostics.TraceEvent where
  operation := m.operationId
  device := m.deviceId
  phase := phase
  status := m.resultStatus
  srbStatus := srbStatus

/-- The worker's dispatch on the control code, after the fault has been taken. -/
def beginWork (a : Adapter) (s : Submission) : Adapter × Submission :=
  let code := s.control.ioControl.controlCode
  if isReservedCode code then
    let (ext, fault) := Diagnostics.takeFault a.extension
    let phase : Phase := if fault = .rejectOperation then .rejectOperation else .snapshotPending
    ({ a with extension := ext }, { s with fault := fault, phase := phase })
  else if code = wispDiskControlCreateDisk then
    let (status, request) := validateCreateRequest s.control
    let work := Work.legacyCreate request
    (a, { s with phase := if ntSuccess status then work.start else .publish work status none })
  else if code = wispDiskControlDeleteDisk then
    let (status, request) := validateDeleteRequest s.control
    let work := Work.legacyDelete request
    (a, { s with phase := if ntSuccess status then work.start else .publish work status none })
  else
    (a, { s with
      control := s.control.writeError code statusInvalidDeviceRequest 0
      phase := .respond })

/-- The end of `ProcessLegacyRequest` or `ProcessReservedRequest`. -/
def publish (a : Adapter) (s : Submission) (work : Work) (status : NTSTATUS)
    (created : Option (ULONG × UCHAR)) (now : LONGLONG) : Adapter × Submission :=
  match work with
  | .legacyCreate request =>
    let (deviceId, lun) := created.getD (0, 0)
    (a, { s with
      control := writeCreateResponse s.control request status deviceId lun
      phase := .respond })
  | .legacyDelete request =>
    (a, { s with control := writeDeleteResponse s.control request status, phase := .respond })
  | .reserved snapshot correlation =>
    let (ext, control) := publishOperationResult a.extension s.control
      (resolvedRecord snapshot status created) correlation now
    ({ a with extension := ext }, { s with control := control, phase := .respond })

/-- The next step of an admitted management SRB: the adapter and what is left of the submission.
`granted` is the outcome of the StorPort call where the step makes one. -/
def advance (a : Adapter) (s : Submission) (granted : Bool) (now : LONGLONG) :
    Option (Adapter × Option Submission) :=
  match s.phase with
  | .prepared =>
    let queued := a.extension.managementWorker && granted
    some (a, some { s with phase := if queued then .queued else .queueFailed })
  | .queueFailed =>
    let (ext, control) := failQueueing a.extension s.control s.command now
    let a := { a with
      extension := ext
      history := { a.history with ended := a.history.ended ++ [s.id] } }
    some (a.giveBack s.id control.toSrb (controlStatus control.srb), none)
  | .queued =>
    match ControlRequest.fromSrb s.control.toSrb with
    | none =>
      let control := invalidControl s.control
      some (a, some { s with
        control := control
        phase := .traceResponse { srbStatus := control.srb.srbStatus } })
    | some control =>
      let identity : OperationRequest :=
        if isReservedCode control.ioControl.controlCode then
          OperationRequest.read control.payload 0
        else {}
      some (a.trace { operation := identity.operationId, device := 0, phase := .worker
                      status := statusPending } now,
        some { s with control := control, phase := .takeFault })
  | .takeFault =>
    let (a, s) := a.beginWork s
    some (a, some s)
  | .rejectOperation =>
    let identity := OperationRequest.read s.control.payload 0
    let (ext, control) := failOperationLocked a.extension identity.operationId
      statusInsufficientResources s.control identity.header.correlationId now
    some ({ a with extension := ext }, some { s with control := control, phase := .respond })
  | .snapshotPending =>
    let identity := OperationRequest.read s.control.payload 0
    match snapshotPendingOperation a.extension s.control identity with
    | .error control => some (a, some { s with control := control, phase := .respond })
    | .ok snapshot =>
      let work := Work.reserved snapshot identity.header.correlationId
      let execution : Execution :=
        { operationId := snapshot.id
          mutation := snapshot.mutation
          create := snapshot.create
          delete := snapshot.delete }
      some ({ a with
        history := { a.history with executions := a.history.executions ++ [execution] } },
        some { s with phase := work.start })
  | .selectLun work =>
    match LunStore.selectAvailableLun a.extension work.request.sizeBytes with
    | .error status => some (a, some { s with phase := .publish work status none })
    | .ok selected => some (a, some { s with phase := .allocate work selected })
  | .allocate work selected =>
    if granted then
      let allocation := a.pool.next
      some ({ a with pool := { a.pool with next := allocation + 1 } },
        some { s with phase := .zeroMemory work selected allocation })
    else some (a, some { s with phase := .publish work statusInsufficientResources none })
  | .zeroMemory work selected allocation =>
    let zeroed : Bytes := fun i =>
      if i < work.request.sizeBytes.toNat then 0 else a.pool.contents allocation i
    some ({ a with
      pool := { a.pool with contents := Function.update a.pool.contents allocation zeroed } },
      some { s with phase := .commit work selected allocation })
  | .commit work selected allocation =>
    match LunStore.commitNewLun a.extension work.request selected allocation with
    | .error status => some (a, some { s with phase := .freeAllocation work allocation status })
    | .ok (ext, deviceId) =>
      let commit : Commit :=
        { operation := work.operation
          request := work.request
          deviceId := deviceId
          lun := selected
          allocation := allocation }
      some ({ a with
        extension := ext
        history := { a.history with commits := a.history.commits ++ [commit] } },
        some { s with
          phase := .publish work statusSuccess (some (deviceId, UInt8.ofNat selected.val)) })
  | .freeAllocation work allocation status =>
    some ({ a with pool := { a.pool with frees := a.pool.frees ++ [allocation] } },
      some { s with phase := .publish work status none })
  | .markStopping work =>
    match LunStore.markLunStopping a.extension work.target with
    | none => some (a, some { s with phase := .publish work statusNoSuchDevice none })
    | some (ext, lun) =>
      some ({ a with extension := ext }, some { s with phase := .waitForLunIo work lun })
  | .waitForLunIo work lun =>
    -- `WaitForLunIo` blocks until the event is signalled
    if (a.extension.luns lun).noActiveRequestsEvent then
      some (a, some { s with phase := .detach work lun })
    else none
  | .detach work lun =>
    let (ext, backing) := LunStore.detachBackingStore a.extension lun work.target
    some ({ a with extension := ext }, some { s with phase := .freePool work lun backing })
  | .freePool work lun backing =>
    some ({ a with pool := { a.pool with frees := a.pool.frees ++ backing.toList } },
      some { s with phase := .finalize work lun })
  | .finalize work lun =>
    let removal : Removal := { operation := work.operation, deviceId := work.target }
    some ({ a with
      extension := finalizeDiskRemoval a.extension lun work.target
      history := { a.history with removals := a.history.removals ++ [removal] } },
      some { s with phase := .publish work statusSuccess none })
  | .publish work status created =>
    let (a, s) := a.publish s work status created now
    some (a, some s)
  | .respond =>
    let control := failTransport s.fault s.control
    some (a, some { s with control := control, phase := .traceResponse (metadata control) })
  | .traceResponse m =>
    some (a.trace (traceEvent m .response m.srbStatus.toUInt32) now,
      some { s with phase := .complete m })
  | .complete m =>
    some ((a.complete s.id s.control.toSrb).trace
      (traceEvent m .complete m.srbStatus.toUInt32) now,
      some { s with phase := if m.busChanged then .notifyBus m else .endManagement })
  | .notifyBus m =>
    let a := { a with
      history := { a.history with busChanges := a.history.busChanges ++ [s.id] } }
    some (a.trace (traceEvent m .busChange 0) now, some { s with phase := .endManagement })
  | .endManagement =>
    some ({ a with
      extension := endManagementLocked a.extension
      history := { a.history with ended := a.history.ended ++ [s.id] } }, none)

/-! ## Teardown -/

/-- `AdapterContext::SetStopping`, which the stop, restart and initialize callbacks call. -/
def setStopping (ext : AdapterExtension) (stopping : Bool) : AdapterExtension :=
  if ext.signature = kAdapterExtensionSignature then { ext with adapterStopping := stopping }
  else ext

/-- The next step of `HwFreeAdapterResources`; `workerBusy` is the answer of `StorPortFreeWorker`. -/
def advanceTeardown (a : Adapter) (workerBusy : Bool) : Option Adapter :=
  match a.teardown with
  | .notStarted =>
    if a.extension.signature = kAdapterExtensionSignature then
      some { a with teardown := .closeAdmission }
    else none
  | .closeAdmission =>
    some { a with extension := closeAdmission a.extension, teardown := .waitForIdle }
  | .waitForIdle =>
    if a.extension.managementIdleEvent then some { a with teardown := .idleObserved } else none
  | .idleObserved => some { a with teardown := .markAllStopping }
  | .markAllStopping =>
    some { a with
      extension := LunStore.markAllLunsStopping a.extension
      teardown := .firstStopping }
  | .firstStopping =>
    match LunStore.firstStoppingLun a.extension with
    | some lun =>
      some { a with
        teardown := .readTarget lun
        history := { a.history with drained := a.history.drained ++ [lun] } }
    | none => some { a with teardown := .releaseWorker }
  | .readTarget lun =>
    some { a with teardown := .waitForLunIo lun (a.extension.luns lun).deviceId }
  | .waitForLunIo lun deviceId =>
    if (a.extension.luns lun).noActiveRequestsEvent then
      some { a with teardown := .detach lun deviceId }
    else none
  | .detach lun deviceId =>
    let (ext, backing) := LunStore.detachBackingStore a.extension lun deviceId
    some { a with extension := ext, teardown := .freePool lun backing }
  | .freePool lun backing =>
    some { a with
      pool := { a.pool with frees := a.pool.frees ++ backing.toList }
      teardown := .readRemoved lun }
  | .readRemoved lun =>
    some { a with teardown := .finalize lun (a.extension.luns lun).deviceId }
  | .finalize lun deviceId =>
    some { a with
      extension := finalizeDiskRemoval a.extension lun deviceId
      history := { a.history with
        removals := a.history.removals ++ [{ operation := none, deviceId := deviceId }] }
      teardown := .firstStopping }
  | .releaseWorker =>
    if a.extension.managementWorker && workerBusy then some a
    else
      some { a with
        extension := { a.extension with managementWorker := false }
        teardown := .invalidate }
  | .invalidate =>
    some { a with extension := { a.extension with signature := 0 }, teardown := .done }
  | .done => none

end Adapter

/-! ## The system -/

/-- A step of one thread, or a call by StorPort. A position selects one of several threads of a
kind; `granted`, `workerBusy` and `now` are what the StorPort call of the step returns. -/
inductive Action
  | startIo (srb : ScsiRequestBlock) (now : LONGLONG)
  | command (i : ℕ)
  | completeRequest (i : ℕ)
  | submission (i : ℕ) (granted : Bool) (now : LONGLONG)
  | setStopping (stopping : Bool)
  | teardown (workerBusy : Bool)

namespace Adapter

/-- The adapter after its initialization; fresh pool memory has arbitrary contents. -/
def initial (adapterInstance : ULONGLONG) (dbg : Bool) (contents : Allocation → Bytes) :
    Adapter where
  extension := AdapterExtension.initialize adapterInstance dbg
  pool := { contents := contents }

def step (a : Adapter) : Action → Option Adapter
  | .startIo srb now =>
    if a.outstanding < maximumNumberOfIo then some (a.startIo srb now) else none
  | .command i =>
    match a.commands[i]? with
    | some c => some (a.advanceCommand i c)
    | none => none
  | .completeRequest i =>
    match a.returned[i]? with
    | some r =>
      some ({ a with returned := a.returned.eraseIdx i }.complete r.id
        (completeRequest r.srb r.status))
    | none => none
  | .submission i granted now =>
    match a.submissions[i]? with
    | some s =>
      match a.advance s granted now with
      | some (a, some s) => some { a with submissions := a.submissions.set i s }
      | some (a, none) => some { a with submissions := a.submissions.eraseIdx i }
      | none => none
    | none => none
  | .setStopping stopping => some { a with extension := setStopping a.extension stopping }
  | .teardown workerBusy => a.advanceTeardown workerBusy

/-- The driver of one adapter, for any instance number and build. -/
def system : System Adapter Action where
  initial a := ∃ adapterInstance dbg contents, a = initial adapterInstance dbg contents
  step := step

/-- StorPort issues no initialize or restart callback once `HwFreeAdapterResources` has begun. -/
def noRestartDuringTeardown : Contract Adapter Action :=
  fun a action => action = .setStopping false → a.teardown = .notStarted

end Adapter

end WispDisk
