import WispDisk.Cli.Control

/-! Executing the adapter on a given schedule: a schedule that runs to its end reaches a state, under
StorPort's contract when it makes no restart callback. The schedules below are those of clients that
create, delete and address disks. -/
namespace WispDisk
open Transition
set_option autoImplicit false

namespace Adapter

/-- The state that a schedule leads to. -/
def after (a : Adapter) (schedule : List Action) : Adapter := (run system a schedule).getD a

theorem run_after {a : Adapter} {schedule : List Action}
    (h : (run system a schedule).isSome = true) : run system a schedule = some (a.after schedule) := by
  obtain ⟨b, hb⟩ := Option.isSome_iff_exists.mp h
  rw [after, hb]
  rfl

def Action.restarts : Action → Bool
  | .setStopping false => true
  | _ => false

theorem path_after {a : Adapter} {schedule : List Action}
    (h : (run system a schedule).isSome = true)
    (hkept : schedule.all (fun action => !Action.restarts action) = true) :
    Steps system noRestartDuringTeardown a (a.after schedule) := by
  refine path_of_run (run_after h) fun pre action post b hsplit _ hrestart => ?_
  have hmem : action ∈ schedule := by
    rw [hsplit]
    exact List.mem_append_right pre List.mem_cons_self
  have hnot := List.all_eq_true.mp hkept action hmem
  rw [hrestart] at hnot
  cases hnot

/-- An adapter right after its initialization. -/
def fresh : Adapter := initial 7 false fun _ _ => 0

theorem fresh_initial : system.initial fresh := ⟨7, false, _, rfl⟩

theorem reachable_after {schedule : List Action}
    (h : (run system fresh schedule).isSome = true) :
    Reachable system anyAction (fresh.after schedule) :=
  reachable_of_run fresh_initial (run_after h)

theorem reachable_after_kept {schedule : List Action}
    (h : (run system fresh schedule).isSome = true)
    (hkept : schedule.all (fun action => !Action.restarts action) = true) :
    Reachable system noRestartDuringTeardown (fresh.after schedule) :=
  (Reachable.initial fresh_initial).path (path_after h hkept)

end Adapter

/-! ## Clients -/

/-- The SRB of a client that sends one of the protocol's requests. -/
def requestSrb (code requestSize responseSize : ULONG) (correlationId : ULONGLONG)
    (fields : RequestHeader → Layout.Fields) : ScsiRequestBlock :=
  let operation : Cli.ControlOperation :=
    { code := code, requestSize := requestSize, responseSize := responseSize }
  let request : Cli.Request :=
    { operation := operation
      correlationId := correlationId
      fields := fields (operation.requestHeader correlationId) }
  request.toSrb

def createDiskSrb (sizeBytes : ULONGLONG) (letter : USHORT) : ScsiRequestBlock :=
  requestSrb wispDiskControlCreateDisk CreateRequest.size CreateResponse.size 1 fun header =>
    CreateRequest.fields
      { header := header
        sizeBytes := sizeBytes
        logicalSectorSize := kLogicalSectorSize
        mediaKind := wispDiskMediaFixed
        requestedDriveLetter := letter }

def deleteDiskSrb (deviceId : ULONG) : ScsiRequestBlock :=
  requestSrb wispDiskControlDeleteDisk DeleteRequest.size ResponseHeader.size 1 fun header =>
    DeleteRequest.fields { header := header, deviceId := deviceId }

def reserveSrb (mutation : ULONG) : ScsiRequestBlock :=
  requestSrb wispDiskControlReserveOperation ReserveRequest.size OperationResponse.size 1
    fun header => ReserveRequest.fields { header := header, mutation := mutation }

def createReservedSrb (adapterInstance operation sizeBytes : ULONGLONG) (letter : USHORT) :
    ScsiRequestBlock :=
  requestSrb wispDiskControlCreateReserved ReservedCreateRequest.size OperationResponse.size 1
    fun header => ReservedCreateRequest.fields
      { operation :=
          { header := header, adapterInstance := adapterInstance, operationId := operation }
        sizeBytes := sizeBytes
        logicalSectorSize := kLogicalSectorSize
        mediaKind := wispDiskMediaFixed
        requestedDriveLetter := letter }

/-- `TEST UNIT READY` for a LUN. -/
def testUnitReadySrb (lun : UCHAR) : ScsiRequestBlock where
  function := srbFunctionExecuteScsi
  lun := lun
  cdbLength := 6

/-- The first admitted submission runs for `n` steps, with every StorPort call successful. -/
def serve (n : ℕ) : List Action := List.replicate n (.submission 0 true 0)

def tearDown (n : ℕ) : List Action := List.replicate n (.teardown false)

/-- A disk is created through the legacy request, from `HwStartIo` to `EndManagementLocked`. -/
def createDisk (sizeBytes : ULONGLONG) (letter : USHORT) : List Action :=
  .startIo (createDiskSrb sizeBytes letter) 0 :: serve 13

def deleteDisk (deviceId : ULONG) : List Action := .startIo (deleteDiskSrb deviceId) 0 :: serve 14

end WispDisk
