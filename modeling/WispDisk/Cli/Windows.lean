import WispDisk.Cli.Commands
import WispDisk.Foundations.Procedure

/-! The calls that the CLI makes of Windows and of an open adapter, and the helpers of `win32.rs` and
`adapter/mod.rs` around them. A Win32 call answers with its result or with the error code; a control
code answers with the bytes returned as well. -/
namespace WispDisk.Cli
open Procedures
set_option autoImplicit false

/-- `U16CString`. -/
abbrev WideString := List UInt16

/-- `OwnedHandle`. -/
abbrev Handle := ℕ

structure ScsiLocation where
  port : UCHAR
  path : UCHAR
  target : UCHAR
  lun : UCHAR
  deriving DecidableEq

/-- The device paths that the CLI opens. -/
inductive Device
  | driveLetter (letter : DriveLetter)
  | physicalDrive (number : ULONG)
  | scsiPort (port : ℕ)
  | path (path : WideString)
  deriving DecidableEq

inductive Access
  | none
  | read
  | readWrite
  deriving DecidableEq

/-- `VOLUME_DISK_EXTENTS` up to its first extent. -/
structure VolumeDiskExtents where
  numberOfDiskExtents : ULONG
  diskNumber : ULONG

/-- `STORAGE_DEVICE_NUMBER`. -/
structure StorageDeviceNumber where
  deviceType : ULONG
  deviceNumber : ULONG

inductive Call
  | createFile (device : Device) (access : Access)
  | getLogicalDrives
  | getVolumeName (point : WideString)
  /-- The number of interfaces in the set that `SetupDiGetClassDevsW` builds. -/
  | getClassDevs
  | enumDeviceInterfaces (index : ℕ)
  | getInterfaceDetail (index : ℕ)
  | getScsiAddress (handle : Handle)
  | getDeviceNumber (handle : Handle)
  | getDiskExtents (handle : Handle)
  /-- A whole enumeration of `VolumeFinder`. -/
  | findVolumes
  | getVolumePaths (name : WideString)
  | lockVolume (handle : Handle)
  | dismountVolume (handle : Handle)
  | unlockVolume (handle : Handle)
  /-- The handle says which volume makes the call; Windows is given the path alone. -/
  | deleteMountPoint (volume : Handle) (point : WideString)
  | setMountPoint (volume : Handle) (point name : WideString)
  /-- `DiskInterfaceNotification::new` and its `wait`. -/
  | registerNotification
  | waitNotification
  /-- How many more attempts the deadline of a wait leaves time for. -/
  | retriesLeft
  /-- `Adapter::send` of the requests without side effects, and `Adapter::delete_by_id`. -/
  | sendQueryVersion (adapter : Handle)
  | sendListState (adapter : Handle)
  | deleteById (adapter : Handle) (adapterInstance : ULONGLONG) (deviceId : ULONG)
  deriving DecidableEq

@[reducible] def Answer : Call → Type
  | .createFile _ _ => Except ULONG Handle
  | .getLogicalDrives => ULONG
  | .getVolumeName _ => Except Error WideString
  | .getClassDevs => Except ULONG ℕ
  | .enumDeviceInterfaces _ => Except ULONG Unit
  | .getInterfaceDetail _ => Except Error WideString
  | .getScsiAddress _ => Except ULONG (ScsiLocation × ℕ)
  | .getDeviceNumber _ => Except ULONG (StorageDeviceNumber × ℕ)
  | .getDiskExtents _ => Except ULONG (VolumeDiskExtents × ℕ)
  | .findVolumes => Except ULONG (List (Except Error WideString))
  | .getVolumePaths _ => Except Error (List WideString)
  | .lockVolume _ => Except ULONG Unit
  | .dismountVolume _ => Except ULONG Unit
  | .unlockVolume _ => Except ULONG Unit
  | .deleteMountPoint _ _ => Except ULONG Unit
  | .setMountPoint _ _ _ => Except ULONG Unit
  | .registerNotification => Except Error Unit
  | .waitNotification => Except Error Unit
  | .retriesLeft => ℕ
  | .sendQueryVersion _ => Except Error QueryVersionResponse
  | .sendListState _ => Except Error StateResponse
  | .deleteById _ _ _ => Except Error Unit

abbrev Windows (α : Type) := Procedure Call Answer α

/-- A function that returns `Result`. -/
abbrev Fallible (α : Type) := Windows (Except Error α)

/-- A method that returns `Result<()>` and changes its object. -/
abbrev Updates (α : Type) := Windows (Except Error Unit × α)

abbrev WindowsEvent := Event Answer

abbrev Trace := List WindowsEvent

/-- A call and its answer. -/
def ask (c : Call) : Windows (Answer c) := Procedure.ask c

/-- A Win32 call with the context of its error. -/
def win32 {α : Type} (action : String) (answer : Except ULONG α) : Except Error α :=
  answer.mapError (.os action)

/-- A failed check. -/
def bail {α : Type} (text : String) : Fallible α := .done (.error (.message text))

/-- `with_context` around a fallible procedure. -/
def withContext {α : Type} (text : String) (p : Fallible α) : Fallible α :=
  p.bind fun result => .done (result.mapError (.context text))

/-- A loop that waits for an attempt to succeed: after a failed one it gives up with `expired`, or
pauses and tries again while the deadline leaves time for more. -/
def retry {α : Type} (attempt : Fallible (Option α)) (expired : String) (pause : Fallible Unit) :
    ℕ → Fallible α
  | 0 => attempt.tryBind fun
    | some a => .done (.ok a)
    | none => bail expired
  | retries + 1 => attempt.tryBind fun
    | some a => .done (.ok a)
    | none => pause.tryBind fun () => retry attempt expired pause retries

/-! ## Adapters -/

/-- `Adapter`. -/
structure OpenAdapter where
  handle : Handle
  portNumber : UCHAR

namespace OpenAdapter

def queryVersion (adapter : OpenAdapter) : Fallible QueryVersionResponse :=
  (ask (.sendQueryVersion adapter.handle)).tryBind fun response =>
    if response.versionMajor ≠ 0 ∨ response.versionMinor < 2 then
      bail ("unsupported loaded driver version " ++ toString response.versionMajor ++ "." ++
        toString response.versionMinor)
    else if wispdiskMaximumDiskCount < response.maximumDiskCount then
      bail "driver reports a disk-count limit larger than the shared ABI"
    else .done (.ok response)

def requireRecovery (adapter : OpenAdapter) : Fallible Unit :=
  adapter.queryVersion.tryBind fun response =>
    if response.capabilities &&& wispdiskCapOperationRecovery = 0 then
      bail ("loaded WispDisk driver lacks operation recovery; upgrade the driver before " ++
        "creating or deleting disks")
    else .done (.ok ())

/-- `StateResponse::is_valid`. -/
def isValidState (response : StateResponse) : Bool :=
  response.adapterInstance != 0 && decide (response.diskCount ≤ wispdiskMaximumDiskCount)

def state (adapter : OpenAdapter) : Fallible StateResponse :=
  (ask (.sendListState adapter.handle)).tryBind fun response =>
    if !isValidState response then bail "driver returned invalid inventory"
    else .done (.ok response)

end OpenAdapter

/-- `state.disks[..state.disk_count]`. -/
def listedDisks (state : StateResponse) : List DiskState :=
  state.disks.take state.diskCount.toNat

def scsiPortLimit : ℕ := 256

/-- One port of `adapters`. -/
def adapterAt (port : ℕ) : Windows (Option OpenAdapter) :=
  .call (.createFile (.scsiPort port) .readWrite) fun
    | .error _ => .done none
    | .ok handle =>
      let adapter : OpenAdapter := { handle := handle, portNumber := UInt8.ofNat port }
      adapter.queryVersion.bind fun
        | .error _ => .done none
        | .ok _ => .done (some adapter)

/-- A `for` loop over `adapters()`, whose scan is lazy: a port is opened when the loop body has
finished with the ports before it. -/
def forAdapters {β : Type} (init : β) (body : β → OpenAdapter → Fallible β) : Fallible β :=
  Procedure.tryFold (fun b port => (adapterAt port).bind fun
    | none => .done (.ok b)
    | some adapter => body b adapter) init (List.range scsiPortLimit)

end WispDisk.Cli
