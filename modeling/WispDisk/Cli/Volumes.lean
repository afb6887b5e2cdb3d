import WispDisk.Cli.Windows

/-! `volume/mod.rs` and `volume/discovery.rs`: the volumes of a disk, and what preparing one for
deletion and restoring it do to it. -/
namespace WispDisk.Cli
open Procedures
set_option autoImplicit false

/-- The units of a backslash. -/
def backslash : UInt16 := 92

/-- `volume_device_path`. -/
def volumeDevicePath (name : WideString) : Except Error WideString :=
  if name.getLast? = some backslash then .ok name.dropLast
  else .error (.message "volume name is missing its trailing backslash")

structure VolumeInfo where
  name : WideString
  mountPoints : List WideString
  deriving DecidableEq

structure Volume where
  name : WideString
  mountPoints : List WideString
  handle : Handle
  locked : Bool
  removedMountPoints : List WideString
  deriving DecidableEq

def volumeDiskExtentsSize : ℕ := 32

namespace Volume

/-- `Volume::disk_number`. -/
def diskNumber (handle : Handle) : Fallible ULONG :=
  .call (.getDiskExtents handle) fun
    | .error code => .done (.error (.os "resolve volume to a physical disk" code))
    | .ok (extents, returned) =>
      if returned < volumeDiskExtentsSize then
        bail ("volume returned truncated disk extents (" ++ toString returned ++ " bytes)")
      else if extents.numberOfDiskExtents ≠ 1 then
        bail ("refusing to delete a volume spanning " ++ toString extents.numberOfDiskExtents ++
          " physical disks")
      else .done (.ok extents.diskNumber)

/-- `Volume::open`. -/
def openInfo (info : VolumeInfo) (expectedDisk : ULONG) : Fallible Volume :=
  match volumeDevicePath info.name with
  | .error error => .done (.error error)
  | .ok path =>
    .call (.createFile (.path path) .readWrite) fun
      | .error code => .done (.error (.os "open target volume" code))
      | .ok handle =>
        (diskNumber handle).tryBind fun number =>
          if number ≠ expectedDisk then bail "volume changed disk identity before deletion"
          else .done (.ok
            { name := info.name
              mountPoints := info.mountPoints
              handle := handle
              locked := false
              removedMountPoints := [] })

def lock (force : Bool) (volume : Volume) : Updates Volume :=
  .call (.lockVolume volume.handle) fun
    | .ok () => .done (.ok (), { volume with locked := true })
    | .error code =>
      -- with force the failure is only logged
      if force then .done (.ok (), volume)
      else .done (.error (.os "lock target volume" code), volume)

def dismount (volume : Volume) : Fallible Unit :=
  .call (.dismountVolume volume.handle) fun answer =>
    .done (win32 "dismount target volume" answer)

/-- The loop of `remove_mounts` over the mount points still to remove. -/
def removeMountsFrom : List WideString → Volume → Updates Volume
  | [], volume => .done (.ok (), volume)
  | point :: points, volume =>
    .call (.deleteMountPoint volume.handle point) fun
      | .error code => .done (.error (.os "remove volume mount point" code), volume)
      | .ok () => removeMountsFrom points
          { volume with removedMountPoints := volume.removedMountPoints ++ [point] }

def removeMounts (volume : Volume) : Updates Volume := removeMountsFrom volume.mountPoints volume

def unlock (volume : Volume) : Updates Volume :=
  .call (.unlockVolume volume.handle) fun
    | .error code => .done (.error (.os "unlock restored volume" code), volume)
    | .ok () => .done (.ok (), { volume with locked := false })

/-- What `restore_removed_mount` returns of a mount error and an unlock error. -/
def restoreResult : Except Error Unit → Except Error Unit → Except Error Unit
  | .ok (), result => result
  | .error mount, .ok () => .error mount
  | .error mount, .error unlock => .error (recoveryFailed mount "unlock also failed" unlock)

/-- `restore_removed_mount` of the mount point at an index. -/
def restoreRemovedMount (index : ℕ) (point : WideString) (volume : Volume) : Updates Volume :=
  let releaseLock := index + 1 == volume.removedMountPoints.length && volume.locked
  let action :=
    if releaseLock then "restore drive-letter mount point" else "restore volume mount point"
  .call (.setMountPoint volume.handle point volume.name) fun answer =>
    if releaseLock then
      volume.unlock.bind fun (result, volume) =>
        .done (restoreResult (win32 action answer) result, volume)
    else .done (win32 action answer, volume)

/-- The failures of a restoration so far, with one more. -/
def alsoFailed (failure : Option Error) (error : Error) : Option Error :=
  some (match failure with
    | some first => recoveryFailed first "another mount restoration failed" error
    | none => error)

/-- The loop of `restore_mounts` over the removed mount points from an index on. -/
def restoreMountsFrom : ℕ → List WideString → Volume → Option Error → Updates Volume
  | _, [], volume, none => .done (.ok (), volume)
  | _, [], volume, some error => .done (.error error, volume)
  | index, point :: points, volume, failure =>
    (volume.restoreRemovedMount index point).bind fun
      | (.ok (), volume) => restoreMountsFrom (index + 1) points volume failure
      | (.error error, volume) =>
        restoreMountsFrom (index + 1) points volume (alsoFailed failure error)

def restoreMounts (volume : Volume) : Updates Volume :=
  restoreMountsFrom 0 volume.removedMountPoints volume none

end Volume

/-! ## Discovery -/

/-- The errors of `disk_number` that mark a volume without disk extents. -/
def noExtents (error : Error) : Bool := error.osCode? == some 1 || error.osCode? == some 21

/-- One name of `volumes_for_disk`. -/
def volumeForDisk (number : ULONG) (volumes : List VolumeInfo) (name : Except Error WideString) :
    Fallible (List VolumeInfo) :=
  match name with
  | .error error => .done (.error error)
  | .ok name =>
    match volumeDevicePath name with
    | .error error => .done (.error error)
    | .ok path =>
      .call (.createFile (.path path) .none) fun
        | .error code => .done (.error (.os "open volume for disk identity query" code))
        | .ok handle =>
          (Volume.diskNumber handle).bind fun
            | .ok actual =>
              if actual = number then
                .call (.getVolumePaths name) fun
                  | .error error => .done (.error error)
                  | .ok paths => .done (.ok (volumes ++ [{ name := name, mountPoints := paths }]))
              else .done (.ok volumes)
            | .error error =>
              if noExtents error then .done (.ok volumes) else .done (.error error)

def volumesForDisk (number : ULONG) : Fallible (List VolumeInfo) :=
  .call .findVolumes fun
    | .error code => .done (.error (.os "enumerate volumes" code))
    | .ok names => Procedure.tryFold (volumeForDisk number) [] names

/-! ## Drive letters -/

def driveLetterInUse (letter : DriveLetter) : Windows Bool :=
  .call .getLogicalDrives fun drives =>
    .done (drives &&& (1 <<< UInt32.ofNat (letter.letter.toNat - 65)) != 0)

/-- `mount_point`: the units of the letter, a colon and a backslash. -/
def mountPoint (letter : DriveLetter) : WideString :=
  [letter.asAscii.toUInt16, 58, backslash]

def waitForDriveState (letter : DriveLetter) (expectedPresent : Bool) : Fallible Unit :=
  .call .retriesLeft (retry
    ((driveLetterInUse letter).bind fun present =>
      .done (.ok (if present = expectedPresent then some () else none)))
    ("drive " ++ toString letter.letter ++ ": did not " ++
      (if expectedPresent then "appear" else "disappear") ++ " within 30 seconds")
    (.done (.ok ())))

end WispDisk.Cli
