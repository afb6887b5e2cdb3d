import WispDisk.Driver.Adapter
import WispDisk.Driver.Envelope
import Mathlib.Logic.Relation

/-! The lifecycle of disks and operations without the SRBs that carry it: both tables, the pool, the
leases, the one mutation in flight and the teardown thread. `Machine.Step` says once what a step of
the adapter can do to them; the invariants are derived from it, and `Simulation.lean` connects it to
the adapter. -/
namespace WispDisk
set_option autoImplicit false

/-- Where `DrainAndFreeBacking` is; the source passes the device ID by value. -/
inductive DrainStage
  | waiting (deviceId : ULONG)
  | detaching (deviceId : ULONG)
  | freeing (backing : Option Allocation)
  | drained

/-- The removal of one LUN, by the worker or by the teardown thread. -/
structure Drain where
  lun : Fin kMaximumDiskCount
  stage : DrainStage

/-- Where the mutation in flight is: bound but not started, in `CreateDisk`, in `DeleteDisk`, about
to publish, or with nothing left but the answer. -/
inductive Stage
  | bound
  | select (work : Work)
  | allocate (work : Work) (selected : Fin kMaximumDiskCount)
  | commit (work : Work) (selected : Fin kMaximumDiskCount) (allocation : Allocation)
  | free (work : Work) (allocation : Allocation) (status : NTSTATUS)
  | mark (work : Work)
  | drain (work : Work) (drain : Drain)
  | publish (work : Work) (status : NTSTATUS) (created : Option (ULONG × UCHAR))
  | finishing

structure Task where
  command : MutationCommand
  stage : Stage

/-- A live reference on a LUN, with the view handed out. -/
structure Lease where
  lun : Fin kMaximumDiskCount
  view : LunView
  deriving DecidableEq

/-- Where the teardown thread is. -/
inductive Closing
  | notStarted
  | closeAdmission
  | waitForIdle
  | idleObserved
  | markAllStopping
  | firstStopping
  | readTarget (lun : Fin kMaximumDiskCount)
  | drain (drain : Drain)
  | finalize (lun : Fin kMaximumDiskCount) (deviceId : ULONG)
  | releaseWorker
  | invalidate
  | done

structure Machine where
  stopping : Bool := false
  adapterInstance : ULONGLONG
  nextDeviceId : ULONG := 1
  nextOperationId : ULONGLONG := 1
  operations : Fin kMaximumOperationCount → OperationRecord := fun _ => {}
  total : ULONGLONG := 0
  luns : Fin kMaximumDiskCount → Lun := initialLun
  nextAllocation : Allocation := 0
  frees : List Allocation := []
  task : Option Task := none
  leases : List Lease := []
  closing : Closing := .notStarted
  reservations : List ULONGLONG := []
  accepted : List MutationCommand := []
  executions : List Execution := []
  commits : List Commit := []
  removals : List Removal := []
  drained : List (Fin kMaximumDiskCount) := []

/-- The work of a legacy command. -/
def MutationCommand.legacyWork (command : MutationCommand) : Work :=
  if command.mutation = wispDiskControlCreateDisk then .legacyCreate command.create
  else .legacyDelete command.remove

def Execution.ofRecord (record : OperationRecord) : Execution where
  operationId := record.id
  mutation := record.mutation
  create := record.create
  delete := record.delete

/-- The first stage of `CreateDisk` or `DeleteDisk`. -/
def Stage.start (work : Work) : Stage :=
  if work.isCreate then .select work else .mark work

def Lun.acquired (lun : Lun) : Lun :=
  { lun with
    activeRequests := lun.activeRequests + 1
    noActiveRequestsEvent := if lun.activeRequests = 0 then false else lun.noActiveRequestsEvent }

def Lun.released (lun : Lun) : Lun :=
  if lun.activeRequests = 0 then lun
  else
    { lun with
      activeRequests := lun.activeRequests - 1
      noActiveRequestsEvent :=
        if lun.activeRequests - 1 = 0 then true else lun.noActiveRequestsEvent }

def Lun.view (lun : Lun) (backing : Allocation) : LunView where
  backingStore := backing
  sizeBytes := lun.sizeBytes
  mediaKind := lun.mediaKind
  deviceId := lun.deviceId

/-- What `FailOperationLocked` can do for a command: legacy commands have no record. -/
inductive Failing (operations : Fin kMaximumOperationCount → OperationRecord)
    (command : MutationCommand) : (Fin kMaximumOperationCount → OperationRecord) → Prop
  | legacy (h : command.isReserved = false) : Failing operations command operations
  | missing (h : command.isReserved = true)
      (hid : command.identity.operationId = 0 ∨
        ∀ i, (operations i).id ≠ command.identity.operationId) :
      Failing operations command operations
  | failed (h : command.isReserved = true) (i : Fin kMaximumOperationCount)
      (hid : (operations i).id = command.identity.operationId) (hzero : (operations i).id ≠ 0)
      (status : NTSTATUS) (hstatus : ntSuccess status = false) :
      Failing operations command
        (Function.update operations i { operations i with state := .failed, result := status })

/-! ## The published record -/

section resolvedRecord

variable (record : OperationRecord) (status : NTSTATUS) (created : Option (ULONG × UCHAR))

@[simp] theorem resolvedRecord_id : (resolvedRecord record status created).id = record.id := by
  by_cases h : record.mutation = wispDiskControlCreateDisk <;> cases created <;>
    simp [resolvedRecord, h]

@[simp] theorem resolvedRecord_mutation :
    (resolvedRecord record status created).mutation = record.mutation := by
  by_cases h : record.mutation = wispDiskControlCreateDisk <;> cases created <;>
    simp [resolvedRecord, h]

@[simp] theorem resolvedRecord_create :
    (resolvedRecord record status created).create = record.create := by
  by_cases h : record.mutation = wispDiskControlCreateDisk <;> cases created <;>
    simp [resolvedRecord, h]

@[simp] theorem resolvedRecord_delete :
    (resolvedRecord record status created).delete = record.delete := by
  by_cases h : record.mutation = wispDiskControlCreateDisk <;> cases created <;>
    simp [resolvedRecord, h]

@[simp] theorem resolvedRecord_result :
    (resolvedRecord record status created).result = status := by
  by_cases h : record.mutation = wispDiskControlCreateDisk <;> cases created <;>
    simp [resolvedRecord, h]

@[simp] theorem resolvedRecord_state : (resolvedRecord record status created).state =
    if ntSuccess status then .succeeded else .failed := by
  by_cases h : record.mutation = wispDiskControlCreateDisk <;> cases created <;>
    simp [resolvedRecord, h]

end resolvedRecord

namespace Machine

/-- The LUN table after `BindCreateOperationLocked`. -/
def bindCreate (luns : Fin kMaximumDiskCount → Lun) (lun : UCHAR) (operation : ULONGLONG) :
    Fin kMaximumDiskCount → Lun :=
  if hlun : lun.toNat < kMaximumDiskCount then
    Function.update luns ⟨lun.toNat, hlun⟩
      { luns ⟨lun.toNat, hlun⟩ with createOperationId := operation }
  else luns

/-- The LUN table after the record of a finished reserved mutation is published. -/
def publishedLuns (luns : Fin kMaximumDiskCount → Lun) (record : OperationRecord) :
    Fin kMaximumDiskCount → Lun :=
  if ntSuccess record.result ∧ record.mutation = wispDiskControlCreateDisk then
    bindCreate luns record.lun record.id
  else luns

def setTask (c : Machine) (command : MutationCommand) (stage : Stage) : Machine :=
  { c with task := some { command := command, stage := stage } }

/-- `FinalizeDiskRemoval`. -/
def finalizeRemoval (c : Machine) (l : Fin kMaximumDiskCount) (deviceId : ULONG) : Machine :=
  { c with
    operations := fun i => ManagementController.markDeleted deviceId (c.operations i)
    luns := Function.update c.luns l (LunStore.removedLun (c.luns l))
    total :=
      if (c.luns l).sizeBytes ≤ c.total then c.total - (c.luns l).sizeBytes else 0 }

/-- One step of `DrainAndFreeBacking`: the machine it leaves and its next stage. -/
inductive DrainStep (c : Machine) : Drain → Machine → DrainStage → Prop
  | waited (l : Fin kMaximumDiskCount) (deviceId : ULONG)
      (hevent : (c.luns l).noActiveRequestsEvent = true) :
      DrainStep c ⟨l, .waiting deviceId⟩ c (.detaching deviceId)
  | detached (l : Fin kMaximumDiskCount) (hstate : (c.luns l).state = .stopping) :
      DrainStep c ⟨l, .detaching (c.luns l).deviceId⟩
        { c with luns := Function.update c.luns l { c.luns l with backingStore := none } }
        (.freeing (c.luns l).backingStore)
  | refused (l : Fin kMaximumDiskCount) (deviceId : ULONG)
      (h : (c.luns l).state ≠ .stopping ∨ (c.luns l).deviceId ≠ deviceId) :
      DrainStep c ⟨l, .detaching deviceId⟩ c (.freeing none)
  | freed (l : Fin kMaximumDiskCount) (backing : Option Allocation) :
      DrainStep c ⟨l, .freeing backing⟩ { c with frees := c.frees ++ backing.toList } .drained

/-- A step of the adapter, seen on the machine. `restartable` tells in which machines StorPort may
call back to clear `AdapterStopping`. -/
inductive Step (restartable : Machine → Prop) (c : Machine) : Machine → Prop
  -- `ReserveOperation`
  | reserved (i : Fin kMaximumOperationCount) (mutation : ULONG)
      (hmutation : mutation = wispDiskControlCreateDisk ∨ mutation = wispDiskControlDeleteDisk)
      (hopen : c.stopping = false) (hnext : c.nextOperationId ≠ 0)
      (hslot : ManagementController.selectSlot c.operations ManagementController.recordIndices none
        = some i) :
      Step restartable c { c with
        operations := Function.update c.operations i
          (ManagementController.reservedRecord c.nextOperationId mutation)
        nextOperationId := c.nextOperationId + 1
        reservations := c.reservations ++ [c.nextOperationId] }
  -- `PrepareSubmission`
  | admittedLegacy (command : MutationCommand) (hopen : c.stopping = false) (hidle : c.task = none)
      (hkind : command.isReserved = false) (hvalid : command.validated) :
      Step restartable c (c.setTask command .bound)
  | admittedReserved (command : MutationCommand) (i : Fin kMaximumOperationCount)
      (hopen : c.stopping = false) (hidle : c.task = none)
      (hkind : command.isReserved = true) (hvalid : command.validated)
      (hinstance : command.identity.adapterInstance = c.adapterInstance)
      (hid : (c.operations i).id = command.identity.operationId) (hzero : (c.operations i).id ≠ 0)
      (hmutation : (c.operations i).mutation = command.mutation)
      (hstate : (c.operations i).state = .reserved) :
      Step restartable c { c with
        operations := Function.update c.operations i
          (ManagementController.boundRecord (c.operations i) command)
        accepted := c.accepted ++ [command]
        task := some ⟨command, .bound⟩ }
  | queueFailed (command : MutationCommand) (htask : c.task = some ⟨command, .bound⟩)
      (operations : Fin kMaximumOperationCount → OperationRecord)
      (hfail : Failing c.operations command operations) :
      Step restartable c { c with operations := operations, task := none }
  -- the start of the worker
  | rejected (command : MutationCommand) (htask : c.task = some ⟨command, .bound⟩)
      (hkind : command.isReserved = true)
      (operations : Fin kMaximumOperationCount → OperationRecord)
      (hfail : Failing c.operations command operations) :
      Step restartable c { c with operations := operations, task := some ⟨command, .finishing⟩ }
  | startedLegacy (command : MutationCommand) (htask : c.task = some ⟨command, .bound⟩)
      (hkind : command.isReserved = false) :
      Step restartable c (c.setTask command (.start command.legacyWork))
  | missing (command : MutationCommand) (htask : c.task = some ⟨command, .bound⟩)
      (hkind : command.isReserved = true)
      (hnone : command.identity.adapterInstance = c.adapterInstance →
        ∀ i, (c.operations i).id = command.identity.operationId → (c.operations i).id ≠ 0 →
          (c.operations i).state ≠ .pending) :
      Step restartable c (c.setTask command .finishing)
  | startedReserved (command : MutationCommand) (i : Fin kMaximumOperationCount)
      (correlation : ULONGLONG) (htask : c.task = some ⟨command, .bound⟩)
      (hkind : command.isReserved = true)
      (hid : (c.operations i).id = command.identity.operationId) (hzero : (c.operations i).id ≠ 0)
      (hstate : (c.operations i).state = .pending) :
      Step restartable c { c with
        task := some ⟨command, .start (.reserved (c.operations i) correlation)⟩
        executions := c.executions ++ [Execution.ofRecord (c.operations i)] }
  -- `CreateDisk`
  | notSelected (command : MutationCommand) (work : Work) (status : NTSTATUS)
      (htask : c.task = some ⟨command, .select work⟩) (hstatus : ntSuccess status = false) :
      Step restartable c (c.setTask command (.publish work status none))
  | selected (command : MutationCommand) (work : Work) (l : Fin kMaximumDiskCount)
      (htask : c.task = some ⟨command, .select work⟩)
      (hquota : c.total ≤ kMaximumTotalDiskBytes - work.request.sizeBytes)
      (hempty : (c.luns l).state = .empty) :
      Step restartable c (c.setTask command (.allocate work l))
  | notAllocated (command : MutationCommand) (work : Work) (l : Fin kMaximumDiskCount)
      (htask : c.task = some ⟨command, .allocate work l⟩) :
      Step restartable c (c.setTask command (.publish work statusInsufficientResources none))
  | allocated (command : MutationCommand) (work : Work) (l : Fin kMaximumDiskCount)
      (htask : c.task = some ⟨command, .allocate work l⟩) :
      Step restartable c { c with
        nextAllocation := c.nextAllocation + 1
        task := some ⟨command, .commit work l c.nextAllocation⟩ }
  | notCommitted (command : MutationCommand) (work : Work) (l : Fin kMaximumDiskCount)
      (allocation : Allocation) (status : NTSTATUS)
      (htask : c.task = some ⟨command, .commit work l allocation⟩)
      (hstatus : ntSuccess status = false) :
      Step restartable c (c.setTask command (.free work allocation status))
  | committed (command : MutationCommand) (work : Work) (l : Fin kMaximumDiskCount)
      (allocation : Allocation) (htask : c.task = some ⟨command, .commit work l allocation⟩)
      (hopen : c.stopping = false) (hempty : (c.luns l).state = .empty)
      (hnext : c.nextDeviceId ≠ 0) :
      Step restartable c { c with
        luns := Function.update c.luns l
          (LunStore.newLun work.request l allocation c.nextDeviceId)
        total := c.total + work.request.sizeBytes
        nextDeviceId := c.nextDeviceId + 1
        commits := c.commits ++ [⟨work.operation, work.request, c.nextDeviceId, l, allocation⟩]
        task := some ⟨command,
          .publish work statusSuccess (some (c.nextDeviceId, UInt8.ofNat l.val))⟩ }
  | freed (command : MutationCommand) (work : Work) (allocation : Allocation) (status : NTSTATUS)
      (htask : c.task = some ⟨command, .free work allocation status⟩) :
      Step restartable c { c with
        frees := c.frees ++ [allocation]
        task := some ⟨command, .publish work status none⟩ }
  -- `DeleteDisk`
  | notMarked (command : MutationCommand) (work : Work) (htask : c.task = some ⟨command, .mark work⟩)
      (hnone : ∀ l, (c.luns l).state = .online → (c.luns l).deviceId ≠ work.target) :
      Step restartable c (c.setTask command (.publish work statusNoSuchDevice none))
  | marked (command : MutationCommand) (work : Work) (l : Fin kMaximumDiskCount)
      (htask : c.task = some ⟨command, .mark work⟩) (honline : (c.luns l).state = .online)
      (htarget : (c.luns l).deviceId = work.target) :
      Step restartable c { c with
        luns := Function.update c.luns l { c.luns l with state := .stopping }
        task := some ⟨command, .drain work ⟨l, .waiting work.target⟩⟩ }
  | workerDrained (command : MutationCommand) (work : Work) (l : Fin kMaximumDiskCount)
      (stage next : DrainStage) (c' : Machine)
      (htask : c.task = some ⟨command, .drain work ⟨l, stage⟩⟩)
      (hdrain : DrainStep c ⟨l, stage⟩ c' next) :
      Step restartable c (c'.setTask command (.drain work ⟨l, next⟩))
  | workerFinalized (command : MutationCommand) (work : Work) (l : Fin kMaximumDiskCount)
      (htask : c.task = some ⟨command, .drain work ⟨l, .drained⟩⟩) :
      Step restartable c { c.finalizeRemoval l work.target with
        removals := c.removals ++ [⟨work.operation, work.target⟩]
        task := some ⟨command, .publish work statusSuccess none⟩ }
  -- the end of the worker
  | answered (command : MutationCommand) (work : Work) (status : NTSTATUS)
      (created : Option (ULONG × UCHAR)) (htask : c.task = some ⟨command, .publish work status created⟩)
      (hrecord : ∀ snapshot correlation, work = .reserved snapshot correlation →
        snapshot.id = 0 ∨ ∀ i, (c.operations i).id ≠ snapshot.id) :
      Step restartable c (c.setTask command .finishing)
  | published (command : MutationCommand) (snapshot : OperationRecord) (correlation : ULONGLONG)
      (status : NTSTATUS) (created : Option (ULONG × UCHAR)) (i : Fin kMaximumOperationCount)
      (htask : c.task = some ⟨command, .publish (.reserved snapshot correlation) status created⟩)
      (hid : (c.operations i).id = snapshot.id) (hzero : (c.operations i).id ≠ 0) :
      Step restartable c { c with
        operations := Function.update c.operations i (resolvedRecord snapshot status created)
        luns := publishedLuns c.luns (resolvedRecord snapshot status created)
        task := some ⟨command, .finishing⟩ }
  | ended (command : MutationCommand) (htask : c.task = some ⟨command, .finishing⟩) :
      Step restartable c { c with task := none }
  -- I/O leases
  | acquired (l : Fin kMaximumDiskCount) (backing : Allocation)
      (honline : (c.luns l).state = .online) (hbacking : (c.luns l).backingStore = some backing)
      (hlimit : c.leases.length < Adapter.maximumNumberOfIo) :
      Step restartable c { c with
        luns := Function.update c.luns l (c.luns l).acquired
        leases := c.leases ++ [⟨l, (c.luns l).view backing⟩] }
  | released (i : ℕ) (lease : Lease) (hlease : c.leases[i]? = some lease) :
      Step restartable c { c with
        luns := Function.update c.luns lease.lun (c.luns lease.lun).released
        leases := c.leases.eraseIdx i }
  -- the stop and restart callbacks
  | stopped : Step restartable c { c with stopping := true }
  | restarted (h : restartable c) : Step restartable c { c with stopping := false }
  -- teardown
  | entered (h : c.closing = .notStarted) : Step restartable c { c with closing := .closeAdmission }
  | admissionClosed (h : c.closing = .closeAdmission) :
      Step restartable c { c with stopping := true, closing := .waitForIdle }
  | idle (h : c.closing = .waitForIdle) (hidle : c.task = none) :
      Step restartable c { c with closing := .idleObserved }
  | idleLeft (h : c.closing = .idleObserved) :
      Step restartable c { c with closing := .markAllStopping }
  | markedAll (h : c.closing = .markAllStopping) :
      Step restartable c { c with
        luns := fun l =>
          if (c.luns l).state = .online then { c.luns l with state := .stopping } else c.luns l
        closing := .firstStopping }
  | selectedStopping (l : Fin kMaximumDiskCount) (h : c.closing = .firstStopping)
      (hstate : (c.luns l).state = .stopping) :
      Step restartable c { c with closing := .readTarget l, drained := c.drained ++ [l] }
  | noneStopping (h : c.closing = .firstStopping) (hnone : ∀ l, (c.luns l).state ≠ .stopping) :
      Step restartable c { c with closing := .releaseWorker }
  | targetRead (l : Fin kMaximumDiskCount) (h : c.closing = .readTarget l) :
      Step restartable c { c with closing := .drain ⟨l, .waiting (c.luns l).deviceId⟩ }
  | teardownDrained (l : Fin kMaximumDiskCount) (stage next : DrainStage) (c' : Machine)
      (h : c.closing = .drain ⟨l, stage⟩) (hdrain : DrainStep c ⟨l, stage⟩ c' next) :
      Step restartable c { c' with closing := .drain ⟨l, next⟩ }
  | removedRead (l : Fin kMaximumDiskCount) (h : c.closing = .drain ⟨l, .drained⟩) :
      Step restartable c { c with closing := .finalize l (c.luns l).deviceId }
  | teardownFinalized (l : Fin kMaximumDiskCount) (deviceId : ULONG)
      (h : c.closing = .finalize l deviceId) :
      Step restartable c { c.finalizeRemoval l deviceId with
        removals := c.removals ++ [⟨none, deviceId⟩]
        closing := .firstStopping }
  | workerReleased (h : c.closing = .releaseWorker) :
      Step restartable c { c with closing := .invalidate }
  | invalidated (h : c.closing = .invalidate) : Step restartable c { c with closing := .done }

/-- What a run from initialization reaches. -/
def Reachable (restartable : Machine → Prop) (c : Machine) : Prop :=
  ∃ adapterInstance, Relation.ReflTransGen (Step restartable)
    { adapterInstance := adapterInstance } c

/-- Restarts in any state. -/
def anywhere (_ : Machine) : Prop := True

/-- Restarts only before teardown. -/
def beforeTeardown (c : Machine) : Prop := c.closing = .notStarted

end Machine

end WispDisk
