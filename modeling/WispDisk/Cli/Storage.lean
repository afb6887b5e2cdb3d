import WispDisk.Cli.Deletion
import WispDisk.Cli.Mutations
import WispDisk.Foundations.History

/-! `disk/provisioning.rs`: the calls that set a new disk up, those of Storage WMI among them, and
`initialize_and_format`. A procedure of this interface may also make the calls of `Windows`. -/
namespace WispDisk.Cli
open Procedures
set_option autoImplicit false

/-- `MSFT_Disk`. -/
structure MsftDisk where
  path : String
  number : ULONG
  size : ULONGLONG
  partitionStyle : USHORT
  isBoot : Bool
  isSystem : Bool
  isOffline : Bool
  isReadOnly : Bool
  deriving DecidableEq

/-- `MSFT_Partition`. -/
structure MsftPartition where
  path : String
  diskNumber : ULONG
  partitionNumber : ULONG
  driveLetter : Option String
  offset : ULONGLONG
  size : ULONGLONG
  isBoot : Bool
  isSystem : Bool
  deriving DecidableEq

/-- `MSFT_Volume`. -/
structure MsftVolume where
  path : String
  driveLetter : Option String
  deriving DecidableEq

structure CreatePartitionInput where
  useMaximumSize : Bool
  driveLetter : Char
  mbrType : USHORT
  deriving DecidableEq

structure CreatePartitionOutput where
  returnValue : ULONG
  createdPartition : Option MsftPartition

structure FormatVolumeInput where
  fileSystem : String
  fileSystemLabel : String
  full : Bool
  force : Bool
  deriving DecidableEq

/-- The methods that `exec_method` calls, with their inputs. -/
inductive StorageMethod
  | online
  | setAttributes (isReadOnly : Bool)
  | initializeDisk (partitionStyle : USHORT)
  | removeAccessPath (accessPath : String)
  | addAccessPath (accessPath : String)
  | format (input : FormatVolumeInput)
  deriving DecidableEq

/-- The calls that creating a disk makes beside those of `Call`: the driver's create, Storage WMI, and
those of `adapter/install.rs`. -/
inductive SetupCall
  /-- `Adapter::create_disk`. -/
  | createDisk (adapter : Handle) (letter : DriveLetter) (media : MediaKind) (sizeBytes : ULONGLONG)
  | connect
  | queryDisks (number : ULONG)
  | queryPartitions (number : ULONG)
  | queryVolumes (letter : Char)
  | createPartition (path : String) (input : CreatePartitionInput)
  | execMethod (path : String) (method : StorageMethod)
  | createDirectories (path : String)
  | writeFile (path : String) (contents : List UCHAR)
  | canonicalize (path : String)
  | stagePackage (inf : String)
  /-- The set of the present SCSI adapters, with their number. -/
  | getAdapterDevices
  | enumDeviceInfo (set : Handle) (index : ℕ)
  | getHardwareId (set : Handle) (index : ℕ)
  | createDeviceInfoList
  | createDeviceInfo (set : Handle)
  | setHardwareId (set : Handle) (units : WideString)
  | registerDevice (set : Handle)
  | removeDevice (set : Handle)
  | bindDriver (hardwareId : WideString) (inf : String)
  deriving DecidableEq

@[reducible] def SetupAnswer : SetupCall → Type
  | .createDisk _ _ _ _ => Except Error CreatedDisk
  | .connect => Except Error Unit
  | .queryDisks _ => Except Error (List MsftDisk)
  | .queryPartitions _ => Except Error (List MsftPartition)
  | .queryVolumes _ => Except Error (List MsftVolume)
  | .createPartition _ _ => Except Error CreatePartitionOutput
  | .execMethod _ _ => Except Error ULONG
  | .createDirectories _ => Except ULONG Unit
  | .writeFile _ _ => Except ULONG Unit
  | .canonicalize _ => Except ULONG String
  | .stagePackage _ => Except ULONG Bool
  | .getAdapterDevices => Except ULONG (Handle × ℕ)
  | .enumDeviceInfo _ _ => Except ULONG Unit
  | .getHardwareId _ _ => Except ULONG (List UInt16 × ULONG)
  | .createDeviceInfoList => Except ULONG Handle
  | .createDeviceInfo _ => Except ULONG Unit
  | .setHardwareId _ _ => Except ULONG Unit
  | .registerDevice _ => Except ULONG Unit
  | .removeDevice _ => Except ULONG Unit
  | .bindDriver _ _ => Except ULONG Bool

abbrev Setup (α : Type) := Procedure (Call ⊕ SetupCall) (Both Answer SetupAnswer) α

/-- A function that returns `Result`. -/
abbrev FallibleSetup (α : Type) := Setup (Except Error α)

abbrev SetupEvent := Event (Both Answer SetupAnswer)

abbrev SetupTrace := List SetupEvent

/-- A failed check. -/
def bailSetup {α : Type} (text : String) : FallibleSetup α := .done (.error (.message text))

/-! ## Texts -/

/-- One hexadecimal digit in upper case. -/
def hexDigit (n : ℕ) : Char := if n < 10 then Char.ofNat (48 + n) else Char.ofNat (55 + n)

/-- `{:08X}`. -/
def hex8 (n : ULONG) : List Char :=
  (List.range 8).map fun i => hexDigit (n.toNat / 16 ^ (7 - i) % 16)

def FileSystem.display : FileSystem → String
  | fat => "FAT"
  | fat32 => "FAT32"
  | ntfs => "NTFS"

def wmiFileSystem : FileSystem → String
  | .fat => "FAT"
  | .fat32 => "FAT32"
  | .ntfs => "NTFS"

def partitionStyleRaw : USHORT := 0
def partitionStyleMbr : USHORT := 1
def mbrTypeFat16 : USHORT := 4
def mbrTypeIfs : USHORT := 7
def mbrTypeFat32 : USHORT := 12

def mbrType : FileSystem → USHORT
  | .fat => mbrTypeFat16
  | .fat32 => mbrTypeFat32
  | .ntfs => mbrTypeIfs

/-- `volume_label`, as its characters. -/
def volumeLabel (fileSystem : FileSystem) (deviceId : ULONG) : List Char :=
  match fileSystem with
  | .fat | .fat32 => "WD-".toList ++ hex8 deviceId
  | .ntfs => "WispDisk-".toList ++ hex8 deviceId

/-- `wmi_drive_letter`. -/
def wmiDriveLetter (value : Option String) : Option Char :=
  match value with
  | none => none
  | some value =>
    let trimmed := trimEnd (· == ':')
      (trimEnd (· == '\x00') (value.toList.dropWhile (· == '\x00')))
    match trimmed with
    | [letter] => if isAsciiAlphabetic letter then some (toAsciiUppercase letter) else none
    | _ => none

def volumeHasDriveLetter (expected : Char) (volume : MsftVolume) : Bool :=
  match wmiDriveLetter volume.driveLetter with
  | some actual => toAsciiUppercase actual == toAsciiUppercase expected
  | none => false

def storageStatusName (status : ULONG) : String :=
  match status.toNat with
  | 1 => "not supported"
  | 2 => "unspecified error"
  | 3 => "timeout"
  | 4 => "failed"
  | 5 => "invalid parameter"
  | 6 => "disk in use"
  | 7 => "unsupported process architecture"
  | 4096 => "operation started as an asynchronous job"
  | 4097 => "size not supported"
  | 40000 => "not enough free space"
  | 40001 => "access denied"
  | 40002 => "insufficient resources"
  | 40003 => "provider cache out of date"
  | 40004 => "unexpected I/O error"
  | 41000 => "disk not initialized"
  | 41001 => "disk already initialized"
  | 41002 => "disk read-only"
  | 41003 => "disk offline"
  | 41004 => "partition limit reached"
  | 42002 => "access path already in use"
  | 42007 => "invalid access path"
  | 43000 => "invalid allocation unit size"
  | 43001 => "file system not supported"
  | 43002 => "quick format unavailable"
  | 43005 => "allocation unit incompatible with sector size"
  | 43006 => "volume read-only"
  | _ => "unrecognized storage-provider status"

def checkStorageMethod (operation : String) (returnValue : ULONG) : Except Error Unit :=
  if returnValue = 0 then .ok ()
  else .error (.message (operation ++ ": Windows Storage WMI returned " ++ toString returnValue ++
    " (" ++ storageStatusName returnValue ++ ")"))

/-! ## Storage WMI -/

namespace StorageWmi

def connect : FallibleSetup Unit :=
  .call (.inr .connect) fun answer =>
    .done (answer.mapError (.context "connect to the Windows Storage WMI provider"))

/-- `exec_method`. -/
def execMethod (path : String) (method : StorageMethod) (operation : String) :
    FallibleSetup Unit :=
  .call (.inr (.execMethod path method)) fun
    | .error error => .done (.error (.context operation error))
    | .ok returnValue => .done (checkStorageMethod operation returnValue)

def getDisk (diskNumber : ULONG) : FallibleSetup MsftDisk :=
  .call (.inr (.queryDisks diskNumber)) fun
    | .error error => .done (.error (.context "query the new disk" error))
    | .ok [disk] =>
      if disk.number ≠ diskNumber then
        bailSetup ("WMI returned disk " ++ toString disk.number ++ " for PhysicalDrive" ++
          toString diskNumber ++ "; refusing to continue")
      else .done (.ok disk)
    | .ok disks =>
      bailSetup ("expected one WMI disk for PhysicalDrive" ++ toString diskNumber ++ ", found " ++
        toString disks.length)

def onlineDisk (disk : MsftDisk) : FallibleSetup Unit :=
  execMethod disk.path .online "bring the new disk online"

def setDiskReadOnly (disk : MsftDisk) (readOnly : Bool) : FallibleSetup Unit :=
  execMethod disk.path (.setAttributes readOnly) "set the new disk writable"

def initializeMbr (disk : MsftDisk) : FallibleSetup Unit :=
  if disk.partitionStyle ≠ partitionStyleRaw then
    bailSetup ("refusing to initialize PhysicalDrive" ++ toString disk.number ++
      " because WMI reports partition style " ++ toString disk.partitionStyle ++ " instead of RAW")
  else execMethod disk.path (.initializeDisk partitionStyleMbr) "initialize the new disk as MBR"

def createMaxPartition (disk : MsftDisk) (letter : Char) (fileSystem : FileSystem) :
    FallibleSetup MsftPartition :=
  .call (.inr (.createPartition disk.path
      { useMaximumSize := true, driveLetter := letter, mbrType := mbrType fileSystem })) fun
    | .error error => .done (.error (.context "create the WispDisk partition" error))
    | .ok output =>
      match checkStorageMethod "create the WispDisk partition" output.returnValue with
      | .error error => .done (.error error)
      | .ok () =>
        match output.createdPartition with
        | none =>
          bailSetup "Windows Storage WMI created the partition but returned no partition object"
        | some partition => .done (.ok partition)

def getPartitions (diskNumber : ULONG) : FallibleSetup (List MsftPartition) :=
  .call (.inr (.queryPartitions diskNumber)) fun
    | .error error => .done (.error (.context "query the new partition" error))
    | .ok partitions =>
      if partitions.any fun partition => partition.diskNumber != diskNumber then
        bailSetup "WMI returned a partition belonging to a different disk"
      else .done (.ok partitions)

/-- The checks of the only partition of a removable disk. -/
def wholeMedium (disk : MsftDisk) (partition : MsftPartition) : Except Error MsftPartition :=
  if partition.offset ≠ 0 ∨ partition.size ≠ disk.size then
    .error (.message ("refusing to use removable PhysicalDrive" ++ toString disk.number ++
      " partition " ++ toString partition.partitionNumber ++
      " because it does not span the whole medium"))
  else if partition.isBoot || partition.isSystem then
    .error (.message ("refusing to use a boot or system partition on PhysicalDrive" ++
      toString disk.number))
  else .ok partition

/-- The partition, and whether it already has the drive letter. -/
def getOrCreateRemovablePartition (disk : MsftDisk) (letter : Char) (fileSystem : FileSystem) :
    FallibleSetup (MsftPartition × Bool) :=
  (getPartitions disk.number).tryBind fun
    | [] => (createMaxPartition disk letter fileSystem).tryBind fun partition =>
        .done (.ok (partition, true))
    | [partition] =>
      match wholeMedium disk partition with
      | .error error => .done (.error error)
      | .ok partition => .done (.ok (partition, false))
    | partitions =>
      bailSetup ("refusing to use removable PhysicalDrive" ++ toString disk.number ++
        " because WMI reports " ++ toString partitions.length ++ " partitions")

/-- The end of `assign_drive_letter`. -/
def addAccessPath (partition : MsftPartition) (letter : Char) : FallibleSetup Unit :=
  execMethod partition.path (.addAccessPath (letter.toString ++ ":"))
    "assign the requested drive letter"

def assignDriveLetter (partition : MsftPartition) (letter : Char) : FallibleSetup Unit :=
  match wmiDriveLetter partition.driveLetter with
  | none => addAccessPath partition letter
  | some current =>
    if toAsciiUppercase current = toAsciiUppercase letter then .done (.ok ())
    else
      (execMethod partition.path (.removeAccessPath (current.toString ++ ":"))
        "remove the automatically assigned drive letter").tryBind fun () =>
        addAccessPath partition letter

/-- An attempt of `wait_for_volume`, and what follows when the volume is not there. -/
def queryVolume (letter : Char) (missing : FallibleSetup MsftVolume) : FallibleSetup MsftVolume :=
  .call (.inr (.queryVolumes letter)) fun
    | .error error => .done (.error (.context "query the new volume" error))
    | .ok volumes =>
      match volumes.filter (volumeHasDriveLetter letter) with
      | [] => missing
      | [volume] => .done (.ok volume)
      | _ => bailSetup ("WMI returned multiple volumes for drive " ++ letter.toString ++ ":")

/-- The loop of `wait_for_volume`, with the attempts that the deadline still leaves time for. -/
def waitForVolumeFrom (letter : Char) : ℕ → FallibleSetup MsftVolume
  | 0 => queryVolume letter (bailSetup ("drive " ++ letter.toString ++
      ": did not appear in WMI within 30 seconds"))
  | retries + 1 => queryVolume letter (waitForVolumeFrom letter retries)

def waitForVolume (letter : Char) : FallibleSetup MsftVolume :=
  .call (.inl .retriesLeft) (waitForVolumeFrom letter)

def formatVolume (volume : MsftVolume) (label : List Char) (quick force : Bool)
    (fileSystem : FileSystem) : FallibleSetup Unit :=
  execMethod volume.path (.format
    { fileSystem := wmiFileSystem fileSystem
      fileSystemLabel := String.ofList label
      full := !quick
      force := force })
    ("format the WispDisk volume as " ++ fileSystem.display)

end StorageWmi

/-! ## `initialize_and_format` -/

/-- `ensure_drive_letter_available`. -/
def ensureDriveLetterAvailable (letter : DriveLetter) : Fallible Unit :=
  (driveLetterInUse letter).bind fun
    | true => bail ("drive letter " ++ toString letter.letter ++ ": is already in use")
    | false => .done (.ok ())

/-- The partition of the new disk, and whether it already has the drive letter. -/
def preparePartition (disk : MsftDisk) (letter : Char) (media : MediaKind)
    (fileSystem : FileSystem) : FallibleSetup (MsftPartition × Bool) :=
  if disk.partitionStyle = partitionStyleRaw then
    (StorageWmi.initializeMbr disk).tryBind fun () =>
      (StorageWmi.createMaxPartition disk letter fileSystem).tryBind fun partition =>
        .done (.ok (partition, true))
  else if disk.partitionStyle = partitionStyleMbr ∧ media = .removable then
    StorageWmi.getOrCreateRemovablePartition disk letter fileSystem
  else
    bailSetup ("refusing to prepare PhysicalDrive" ++ toString disk.number ++
      " because WMI reports unexpected partition style " ++ toString disk.partitionStyle)

/-- A step that is made only when it is needed. -/
def whenNeeded (needed : Bool) (step : FallibleSetup Unit) : FallibleSetup Unit :=
  if needed then step else .done (.ok ())

/-- `initialize_and_format` once the partition is there. -/
def formatPartition (diskNumber : ULONG) (letter : Char) (deviceId : ULONG)
    (expectedLocation : ScsiLocation) (fileSystem : FileSystem) (partition : MsftPartition)
    (driveLetterAssigned : Bool) : FallibleSetup Unit :=
  (whenNeeded (!driveLetterAssigned) (StorageWmi.assignDriveLetter partition letter)).tryBind
    fun () =>
      (StorageWmi.waitForVolume letter).tryBind fun volume =>
        (verifyPhysicalDiskLocation diskNumber expectedLocation).lift.tryBind fun () =>
          StorageWmi.formatVolume volume (volumeLabel fileSystem deviceId) true true fileSystem

/-- `initialize_and_format` once the disk has passed its checks. -/
def provisionDisk (disk : MsftDisk) (diskNumber : ULONG) (letter : Char) (media : MediaKind)
    (deviceId : ULONG) (expectedLocation : ScsiLocation) (fileSystem : FileSystem) :
    FallibleSetup Unit :=
  (whenNeeded disk.isOffline (StorageWmi.onlineDisk disk)).tryBind fun () =>
    (whenNeeded disk.isReadOnly (StorageWmi.setDiskReadOnly disk false)).tryBind fun () =>
      (preparePartition disk letter media fileSystem).tryBind fun (partition, assigned) =>
        formatPartition diskNumber letter deviceId expectedLocation fileSystem partition assigned

def initializeAndFormat (diskNumber : ULONG) (letter : DriveLetter) (media : MediaKind)
    (expectedSize : ULONGLONG) (deviceId : ULONG) (expectedLocation : ScsiLocation)
    (fileSystem : FileSystem) : FallibleSetup Unit :=
  (ensureDriveLetterAvailable letter).lift.tryBind fun () =>
    StorageWmi.connect.tryBind fun () =>
      (StorageWmi.getDisk diskNumber).tryBind fun disk =>
        if disk.isSystem || disk.isBoot then
          bailSetup "refusing to initialize a boot or system disk"
        else if disk.size ≠ expectedSize then
          bailSetup ("disk size changed before initialization: expected " ++
            toString expectedSize ++ ", got " ++ toString disk.size)
        else
          provisionDisk disk diskNumber (toAsciiUppercase letter.letter) media deviceId expectedLocation
            fileSystem

end WispDisk.Cli
