import WispDisk.Cli.Disks

/-! `disk/deletion.rs` and `disk/removal.rs`: the volumes of one disk prepared together, and the three
entry points of a deletion. -/
namespace WispDisk.Cli
open Procedures
set_option autoImplicit false

structure DiskDeletion where
  volumes : List Volume

/-- A method applied to each volume in turn, until one fails. -/
def eachVolume (method : Volume → Updates Volume) : List Volume → Updates (List Volume)
  | [] => .done (.ok (), [])
  | volume :: volumes =>
    (method volume).bind fun
      | (.error error, volume) => .done (.error error, volume :: volumes)
      | (.ok (), volume) =>
        (eachVolume method volumes).bind fun (result, volumes) =>
          .done (result, volume :: volumes)

namespace DiskDeletion

/-- `DiskDeletion::open`. -/
def openDisk (number : ULONG) (location : ScsiLocation) : Fallible DiskDeletion :=
  (volumesForDisk number).tryBind fun infos =>
    (Procedure.tryFold (fun volumes info => (Volume.openInfo info number).tryBind fun volume =>
        .done (.ok (volumes ++ [volume]))) [] infos).tryBind fun volumes =>
      (verifyPhysicalDiskLocation number location).tryBind fun () =>
        .done (.ok { volumes := volumes })

def update (p : Updates (List Volume)) : Updates DiskDeletion :=
  p.bind fun (result, volumes) => .done (result, { volumes := volumes })

def lock (force : Bool) (deletion : DiskDeletion) : Updates DiskDeletion :=
  update (eachVolume (Volume.lock force) deletion.volumes)

def dismount (deletion : DiskDeletion) : Fallible Unit :=
  Procedure.tryFold (fun () volume => Volume.dismount volume) () deletion.volumes

def removeMounts (deletion : DiskDeletion) : Updates DiskDeletion :=
  update (eachVolume Volume.removeMounts deletion.volumes)

/-- The loop of `restore`, which goes on after a failure. -/
def restoreFrom : List Volume → Option Error → Updates (List Volume)
  | [], none => .done (.ok (), [])
  | [], some error => .done (.error error, [])
  | volume :: volumes, failure =>
    volume.restoreMounts.bind fun (result, volume) =>
      let failure := match result with
        | .ok () => failure
        | .error error => Volume.alsoFailed failure error
      (restoreFrom volumes failure).bind fun (result, volumes) =>
        .done (result, volume :: volumes)

def restore (deletion : DiskDeletion) : Updates DiskDeletion :=
  update (restoreFrom deletion.volumes none)

/-- The closure of `delete_allocation` that prepares the volumes. -/
def prepare (force : Bool) (deletion : DiskDeletion) : Updates DiskDeletion :=
  (deletion.lock force).bind fun
    | (.error error, deletion) => .done (.error error, deletion)
    | (.ok (), deletion) =>
      deletion.dismount.bind fun
        | .error error => .done (.error error, deletion)
        | .ok () => deletion.removeMounts

end DiskDeletion

/-- The error of a deletion whose volumes have been restored, successfully or not. -/
def restoredError (error restored : Error) (action : String) : Except Error Unit → Error
  | .ok () => restored
  | .error restore => recoveryFailed error action restore

/-- Whether `delete_allocation` may restore after a failed `delete_by_id`: the same allocation is
known to be online. -/
def stillOnline (adapter : OpenAdapter) (adapterInstance : ULONGLONG) (id : ULONG) (error : Error) :
    Windows Bool :=
  if error.unresolved?.isSome then .done false
  else
    adapter.state.bind fun
      | .error _ => .done false
      | .ok state =>
        .done (state.adapterInstance == adapterInstance &&
          (listedDisks state).any fun entry => entry.disk.deviceId == id && entry.state == 1)

/-- `delete_allocation` once the volumes are open. -/
def deletePrepared (adapter : OpenAdapter) (adapterInstance : ULONGLONG) (id : ULONG)
    (force : Bool) (number : ULONG) (location : ScsiLocation) (deletion : DiskDeletion) :
    Fallible Unit :=
  (deletion.prepare force).bind fun
    | (.error error, deletion) =>
      deletion.restore.bind fun (restored, _) =>
        .done (.error (restoredError error error "volume restoration also failed" restored))
    | (.ok (), deletion) =>
      .call (.deleteById adapter.handle adapterInstance id) fun
        | .error error =>
          (stillOnline adapter adapterInstance id error).bind fun
            | true =>
              deletion.restore.bind fun (restored, _) =>
                .done (.error (restoredError error
                  (.context "deletion rejected; original mount points restored" error)
                  "mount restoration also failed" restored))
            | false =>
              .done (.error (.context ("device " ++ toString id ++ " removal is not confirmed; " ++
                "inspect /list /json before retrying") error))
        | .ok () =>
          withContext ("driver allocation for device " ++ toString id ++
              " was removed, but Windows disappearance was not confirmed")
            (waitForPhysicalDiskAbsent number location)

/-- `delete_allocation`. -/
def deleteAllocation (adapter : OpenAdapter) (adapterInstance : ULONGLONG) (id : ULONG)
    (force : Bool) : Fallible Unit :=
  adapter.state.tryBind fun state =>
    if state.adapterInstance ≠ adapterInstance then
      bail "adapter instance changed before deletion"
    else
      match (listedDisks state).find? fun entry => entry.disk.deviceId == id with
      | none => bail "device ID is absent; refresh /list"
      | some entry =>
        if entry.state ≠ 1 then
          bail ("device " ++ toString id ++
            " is already stopping; query inventory until removal completes")
        else
          let location := diskLocation adapter entry
          (waitForPhysicalDisk location).tryBind fun number =>
            (DiskDeletion.openDisk number location).tryBind
              (deletePrepared adapter adapterInstance id force number location)

/-- `delete_by_identity`. -/
def deleteByIdentity (adapterInstance : ULONGLONG) (id : ULONG) (force : Bool) : Fallible Unit :=
  (forAdapters none fun matched adapter =>
    adapter.requireRecovery.tryBind fun () =>
      adapter.state.tryBind fun state =>
        if state.adapterInstance ≠ adapterInstance then .done (.ok matched)
        else if matched.isSome then
          bail ("multiple adapters claim instance " ++ toString adapterInstance)
        else .done (.ok (some adapter))).tryBind fun
    | none =>
      bail "adapter instance is absent or stale; refresh /list before deletion"
    | some adapter => deleteAllocation adapter adapterInstance id force

/-- The disks of one adapter that are at an address, as `delete_disk` records them. -/
def matchAddress (letter : DriveLetter) (address : ScsiLocation) (state : StateResponse) :
    Option (ULONGLONG × ULONG) → List DiskState → Except Error (Option (ULONGLONG × ULONG))
  | matched, [] => .ok matched
  | matched, entry :: entries =>
    if entry.disk.pathId = address.path ∧ entry.disk.targetId = address.target ∧
        entry.disk.lun = address.lun then
      if matched.isSome then
        .error (.message ("multiple WispDisk LUNs claim drive " ++ toString letter.letter ++ ":"))
      else
        matchAddress letter address state (some (state.adapterInstance, entry.disk.deviceId)) entries
    else matchAddress letter address state matched entries

/-- `delete_disk` up to the address of the disk under a drive letter. -/
def letterAddress (letter : DriveLetter) : Fallible ScsiLocation :=
  (driveLetterInUse letter).bind fun
    | false => bail ("drive " ++ toString letter.letter ++ ": is not mounted")
    | true =>
      .call (.getVolumeName (mountPoint letter)) fun
        | .error error => .done (.error error)
        | .ok _ =>
          .call (.createFile (.driveLetter letter) .read) fun
            | .error code => .done (.error (.os "open target volume for identity" code))
            | .ok volume =>
              (Volume.diskNumber volume).tryBind physicalDiskAddress

/-- The search of `delete_disk` for the allocation at an address. -/
def allocationAt (letter : DriveLetter) (address : ScsiLocation) :
    Fallible (Option (ULONGLONG × ULONG)) :=
  forAdapters none fun matched adapter =>
    if adapter.portNumber ≠ address.port then .done (.ok matched)
    else
      adapter.requireRecovery.tryBind fun () =>
        adapter.state.tryBind fun state =>
          .done (matchAddress letter address state matched (listedDisks state))

/-- `delete_disk`. -/
def deleteDisk (letter : DriveLetter) (force : Bool) : Fallible Unit :=
  (letterAddress letter).tryBind fun address =>
    (allocationAt letter address).tryBind fun
      | none => bail "volume is not uniquely owned by WispDisk"
      | some (adapterInstance, id) =>
        (deleteByIdentity adapterInstance id force).tryBind fun () =>
          waitForDriveState letter false

end WispDisk.Cli
