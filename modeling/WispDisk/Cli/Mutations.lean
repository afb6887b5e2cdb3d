import WispDisk.Cli.Commands
import WispDisk.Cli.Windows

/-! `adapter/mod.rs`: `create_disk` and `delete_by_id`, the two calls that mutate, as the requests
that they send to their adapter one after the other. A `Progress` is where a call is; it waits for
the answer to its request, or for the pause of the recovery loop to end. -/
namespace WispDisk.Cli
open Layout Procedures
set_option autoImplicit false

/-- `CreatedDisk`. -/
structure CreatedDisk where
  adapterInstance : ULONGLONG
  deviceId : ULONG
  pathId : UCHAR
  targetId : UCHAR
  lun : UCHAR
  deriving DecidableEq

/-- `CreatedDisk::try_from` of a response. -/
def CreatedDisk.ofResponse (response : OperationResponse) : Except Error CreatedDisk :=
  if response.isValidCreatedDisk = false then
    .error (.message "driver returned an invalid created disk identity")
  else .ok
    { adapterInstance := response.adapterInstance
      deviceId := response.deviceId
      pathId := response.pathId
      targetId := response.targetId
      lun := response.lun }

/-! ## Checks of a response -/

/-- The checks of `query_version`. -/
def checkVersion (response : QueryVersionResponse) : Except Error QueryVersionResponse :=
  if response.versionMajor ≠ 0 ∨ response.versionMinor < 2 then
    .error (.message ("unsupported loaded driver version " ++ toString response.versionMajor ++
      "." ++ toString response.versionMinor))
  else if wispdiskMaximumDiskCount < response.maximumDiskCount then
    .error (.message "driver reports a disk-count limit larger than the shared ABI")
  else .ok response

/-- The checks of `require_recovery`. -/
def checkRecovery (response : QueryVersionResponse) : Except Error Unit :=
  match checkVersion response with
  | .error error => .error error
  | .ok response =>
    if response.capabilities &&& wispdiskCapOperationRecovery = 0 then
      .error (.message ("loaded WispDisk driver lacks operation recovery; upgrade the driver " ++
        "before creating or deleting disks"))
    else .ok ()

/-- The checks of `state`. -/
def checkState (response : StateResponse) : Except Error StateResponse :=
  if !OpenAdapter.isValidState response then .error (.message "driver returned invalid inventory")
  else .ok response

/-! ## Calls -/

/-- A call of `create_disk` or `delete_by_id` with its arguments. -/
inductive MutationCall
  | createDisk (letter : DriveLetter) (media : MediaKind) (sizeBytes : ULONGLONG)
  | deleteById (adapterInstance : ULONGLONG) (deviceId : ULONG)

/-- What a call returns. -/
inductive MutationResult
  | created (disk : CreatedDisk)
  | deleted

inductive Progress
  /-- `query_version` of `require_recovery`. -/
  | checking
  | reserving
  | resolving (handle : OperationHandle) (resolution : Resolution)
  /-- The inventory that `delete_by_id` ends with. -/
  | confirming (handle : OperationHandle)
  | returned (result : Except Error MutationResult)

namespace MutationCall

def mutation : MutationCall → ULONG
  | createDisk _ _ _ => wispDiskControlCreateDisk
  | deleteById _ _ => wispDiskControlDeleteDisk

/-- The request that is submitted. -/
def request (handle : OperationHandle) (correlationId : ULONGLONG) : MutationCall → Request
  | createDisk letter media sizeBytes => .create handle letter media sizeBytes correlationId
  | deleteById _ deviceId => .delete handle deviceId correlationId

/-- What follows `reserve_operation`. -/
def reserved (call : MutationCall) (handle : OperationHandle) : Progress :=
  match call with
  | createDisk _ _ _ => .resolving handle .start
  | deleteById adapterInstance deviceId =>
    if handle.adapterInstance ≠ adapterInstance then
      .returned (.error (.message ("adapter changed before deletion; refusing stale device ID " ++
        toString deviceId)))
    else .resolving handle .start

/-- What follows `recover`, while it goes on and after it has returned. -/
def resolved (call : MutationCall) (handle : OperationHandle) : Resolution → Progress
  | .returned (.error error) => .returned (.error error)
  | .returned (.ok response) =>
    match call with
    | createDisk _ _ _ =>
      match CreatedDisk.ofResponse response with
      | .error error => .returned (.error (.unresolvedOutcome handle error))
      | .ok disk => .returned (.ok (.created disk))
    | deleteById _ _ => .confirming handle
  | resolution => .resolving handle resolution

/-- `reserve_operation` after its send. -/
def acceptReservation (call : MutationCall) (response : OperationResponse) : Progress :=
  if response.mutation ≠ call.mutation then
    .returned (.error (.message "driver returned an invalid operation reservation"))
  else
    match OperationHandle.ofReservation response with
    | .error error => .returned (.error error)
    | .ok handle => call.reserved handle

/-- The end of `delete_by_id`. -/
def confirm (handle : OperationHandle) (deviceId : ULONG) (state : Except Error StateResponse) :
    Progress :=
  match state with
  | .error error => .returned (.error (.unresolvedOutcome handle error))
  | .ok state =>
    if state.adapterInstance ≠ handle.adapterInstance ∨
        (listedDisks state).any (fun entry => entry.disk.deviceId == deviceId) = true then
      .returned (.error (.unresolvedOutcome handle (.message ("delete operation " ++
        toString handle.id ++ " completed but device " ++ toString deviceId ++
          " removal could not be confirmed"))))
    else .returned (.ok .deleted)

end MutationCall

namespace Progress

/-- The request that the call sends next. -/
def request (call : MutationCall) (correlationId : ULONGLONG) : Progress → Option Request
  | checking => some (.queryVersion correlationId)
  | reserving => some (.reserve call.mutation correlationId)
  | resolving handle (.submitting _) => some (call.request handle correlationId)
  | resolving handle (.querying _) => some (.query handle correlationId)
  | resolving _ _ => none
  | confirming _ => some (.listState correlationId)
  | returned _ => none

/-- What the call does with the result of its send: the payload that `send` accepted, or an error. -/
def receive (call : MutationCall) (result : Except Error Bytes) : Progress → Option Progress
  | checking =>
    match (result.map fun payload => readQueryVersionResponse payload 0).bind checkRecovery with
    | .error error => some (.returned (.error error))
    | .ok () => some .reserving
  | reserving =>
    match result with
    | .error error => some (.returned (.error error))
    | .ok payload => some (call.acceptReservation (OperationResponse.read payload 0))
  | resolving handle resolution =>
    let reply := result.map fun payload => OperationResponse.read payload 0
    match resolution with
    | .submitting _ =>
      (resolution.step handle call.mutation (.submit reply)).map (call.resolved handle)
    | .querying _ =>
      (resolution.step handle call.mutation (.query reply)).map (call.resolved handle)
    | _ => none
  | confirming handle =>
    match call with
    | .deleteById _ deviceId =>
      some (MutationCall.confirm handle deviceId
        ((result.map fun payload => readStateResponse payload 0).bind checkState))
    | .createDisk _ _ _ => none
  | returned _ => none

/-- `wait_for_retry` returns. -/
def wait (call : MutationCall) (again : Bool) : Progress → Option Progress
  | resolving handle resolution =>
    (resolution.step handle call.mutation (.wait again)).map (call.resolved handle)
  | _ => none

end Progress

end WispDisk.Cli
