import WispDisk.Cli.Install

/-! `disk/creation.rs`: the adapter is found or installed, the driver creates the allocation, Windows
sets it up, and an allocation whose setup fails is rolled back. -/
namespace WispDisk.Cli
open Procedures
set_option autoImplicit false

/-! ## The adapter -/

/-- `adapters().next()` over the ports that are left. -/
def firstAdapterFrom : List ℕ → Windows (Option OpenAdapter)
  | [] => .done none
  | port :: ports => (adapterAt port).bind fun
    | some adapter => .done (some adapter)
    | none => firstAdapterFrom ports

def firstAdapter : Windows (Option OpenAdapter) := firstAdapterFrom (List.range scsiPortLimit)

def waitForAdapter : Fallible OpenAdapter :=
  .call .retriesLeft (retry (firstAdapter.bind fun adapter => .done (.ok adapter))
    "driver was installed, but its SCSI adapter did not appear within 30 seconds"
    (.done (.ok ())))

def ensureAdapter (payload : DriverPayload) (programData : Option String) :
    FallibleSetup OpenAdapter :=
  firstAdapter.lift.bind fun
    | some adapter => .done (.ok adapter)
    | none => (installEmbeddedDriver payload programData).tryBind fun () => waitForAdapter.lift

/-! ## Setup -/

def expectedLocation (adapter : OpenAdapter) (created : CreatedDisk) : ScsiLocation where
  port := adapter.portNumber
  path := created.pathId
  target := created.targetId
  lun := created.lun

/-- `verify_mounted_drive`. -/
def verifyMountedDrive (letter : DriveLetter) (expectedDiskNumber : ULONG)
    (expected : ScsiLocation) : Fallible Unit :=
  .call (.createFile (.driveLetter letter) .read) fun
    | .error code => .done (.error (.os "open newly formatted volume" code))
    | .ok volume =>
      (Volume.diskNumber volume).tryBind fun actual =>
        if actual ≠ expectedDiskNumber then
          bail ("new mount " ++ toString letter.letter ++ ": resolved to PhysicalDrive" ++
            toString actual ++ ", not the created PhysicalDrive" ++ toString expectedDiskNumber)
        else verifyPhysicalDiskLocation actual expected

/-- The end of `initialize_created_disk`. -/
def confirmMount (letter : DriveLetter) (number : ULONG) (location : ScsiLocation) :
    Fallible Unit :=
  (waitForDriveState letter true).tryBind fun () => verifyMountedDrive letter number location

/-- `initialize_created_disk` once the number of the disk is known. -/
def initializeNumbered (letter : DriveLetter) (media : MediaKind) (sizeBytes : ULONGLONG)
    (deviceId : ULONG) (location : ScsiLocation) (fileSystem : FileSystem) (number : ULONG) :
    FallibleSetup Unit :=
  (verifyPhysicalDiskLocation number location).lift.tryBind fun () =>
    (initializeAndFormat number letter media sizeBytes deviceId location fileSystem).tryBind
      fun () => (confirmMount letter number location).lift

def initializeCreatedDisk (adapter : OpenAdapter) (created : CreatedDisk) (letter : DriveLetter)
    (media : MediaKind) (sizeBytes : ULONGLONG) (fileSystem : FileSystem) : FallibleSetup Unit :=
  (ensureDriveLetterAvailable letter).lift.tryBind fun () =>
    let location := expectedLocation adapter created
    (waitForPhysicalDisk location).lift.tryBind
      (initializeNumbered letter media sizeBytes created.deviceId location fileSystem)

/-! ## Rollback -/

/-- `downcast_ref::<VolumeLockFailure>` of an error: its context is that of a lock. -/
def isVolumeLockFailure : Error → Bool
  | .message _ => false
  | .os action _ => action == "lock target volume"
  | .driverRejection _ => false
  | .context _ source => isVolumeLockFailure source
  | .unresolvedOutcome _ source => isVolumeLockFailure source
  | .recoveryFailure _ _ source => isVolumeLockFailure source

/-- `is_lock_refusal`. -/
def isLockRefusal (error : Error) : Bool :=
  isVolumeLockFailure error && error.osCode? == some 5

/-- The loop of `rollback_created_disk`, with the attempts that the deadline still leaves time for. -/
def rollbackFrom (adapter : OpenAdapter) (created : CreatedDisk) : ℕ → Fallible Unit
  | 0 => deleteAllocation adapter created.adapterInstance created.deviceId false
  | retries + 1 =>
    (deleteAllocation adapter created.adapterInstance created.deviceId false).bind fun
      | .error error =>
        if isLockRefusal error then rollbackFrom adapter created retries else .done (.error error)
      | .ok () => .done (.ok ())

/-- The error of a failed setup, by what the rollback returned. -/
def rolledBack (created : CreatedDisk) (error : Error) : Except Error Unit → Error
  | .ok () =>
    .context "failed to initialize the new disk; the driver allocation was rolled back" error
  | .error rollback =>
    recoveryFailed error ("failed to initialize device " ++ toString created.deviceId ++
      " on adapter instance " ++ toString created.adapterInstance ++
      "; driver rollback also failed") rollback

def rollbackCreatedDisk (adapter : OpenAdapter) (created : CreatedDisk) (error : Error) :
    Windows Error :=
  .call .retriesLeft fun retries =>
    (rollbackFrom adapter created retries).bind fun result =>
      .done (rolledBack created error result)

/-! ## `add_disk` -/

def requiredCapabilities : ULONG := wispdiskCapCreateDelete ||| wispdiskCapReadWrite

/-- The capability checks of `add_disk`. -/
def checkCapabilities (media : MediaKind) (version : QueryVersionResponse) : Except Error Unit :=
  if version.capabilities &&& requiredCapabilities ≠ requiredCapabilities then
    .error (.message ("loaded driver lacks required capabilities (reported 0x" ++
      String.ofList (hex8 version.capabilities) ++ ")"))
  else if media = .removable ∧ version.capabilities &&& wispdiskCapRemovable = 0 then
    .error (.message "loaded driver does not support removable-media disks")
  else .ok ()

/-- The checks of `add_disk` on the adapter before it creates anything. -/
def checkAdapter (media : MediaKind) (adapter : OpenAdapter) : Fallible Unit :=
  adapter.queryVersion.tryBind fun version =>
    match checkCapabilities media version with
    | .error error => .done (.error error)
    | .ok () => adapter.requireRecovery

/-- `add_disk` once the driver has created the allocation. -/
def setUpCreated (adapter : OpenAdapter) (created : CreatedDisk) (letter : DriveLetter)
    (media : MediaKind) (sizeBytes : ULONGLONG) (fileSystem : FileSystem) : FallibleSetup Unit :=
  (initializeCreatedDisk adapter created letter media sizeBytes fileSystem).bind fun
    | .ok () => .done (.ok ())
    | .error error => (rollbackCreatedDisk adapter created error).lift.bind fun error =>
        .done (.error error)

/-- `Adapter::create_disk` and what `add_disk` does with its result. -/
def createAndSetUp (letter : DriveLetter) (media : MediaKind) (sizeBytes : ULONGLONG)
    (fileSystem : FileSystem) (adapter : OpenAdapter) : FallibleSetup Unit :=
  .call (.inr (.createDisk adapter.handle letter media sizeBytes)) fun
    | .error error => .done (.error error)
    | .ok created => setUpCreated adapter created letter media sizeBytes fileSystem

def addDisk (payload : DriverPayload) (programData : Option String) (letter : DriveLetter)
    (media : MediaKind) (sizeBytes : ULONGLONG) (fileSystem : FileSystem) : FallibleSetup Unit :=
  (ensureDriveLetterAvailable letter).lift.tryBind fun () =>
    (ensureAdapter payload programData).tryBind fun adapter =>
      (checkAdapter media adapter).lift.tryBind fun () =>
        createAndSetUp letter media sizeBytes fileSystem adapter

end WispDisk.Cli
