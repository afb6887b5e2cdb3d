import WispDisk.Cli.Commands
import WispDisk.Cli.Creation

/-! `inventory.rs`: the driver's inventory, with the physical disk and the mount points that Windows
shows for each entry. Text and JSON are made of what is collected here. -/
namespace WispDisk.Cli
open Procedures
set_option autoImplicit false

inductive InventoryDiskState
  | online
  | stopping
  | unknown
  deriving DecidableEq

/-- `From<u32>`. -/
def InventoryDiskState.ofCode (state : ULONG) : InventoryDiskState :=
  match state.toNat with
  | 1 => .online
  | 2 => .stopping
  | _ => .unknown

structure InventoryDisk where
  deviceId : ULONG
  state : InventoryDiskState
  sizeBytes : ULONGLONG
  media : MediaKind
  requestedLetter : Char
  createOperationId : String
  path : UCHAR
  target : UCHAR
  lun : UCHAR
  physicalDisk : Option ULONG
  mountPoints : Option (List WideString)

structure InventoryAdapter where
  adapterInstance : String
  port : UCHAR
  allocatedBytes : ULONGLONG
  pendingOperations : ULONG
  disks : List InventoryDisk

/-- `char::from_u32`, or a question mark for a surrogate. -/
def letterOfUnit (unit : USHORT) : Char :=
  if 0xD800 ≤ unit ∧ unit ≤ 0xDFFF then '?' else Char.ofNat unit.toNat

/-- `discover_mount_points`: a failure of the discovery is no failure. -/
def discoverMountPoints (number : ULONG) : Windows (Option (List WideString)) :=
  (volumesForDisk number).bind fun
    | .error _ => .done none
    | .ok volumes => .done (some (volumes.flatMap VolumeInfo.mountPoints))

/-- An entry of the driver as it is reported. -/
def InventoryDisk.ofEntry (entry : DiskState) (number : Option ULONG)
    (mountPoints : Option (List WideString)) : InventoryDisk where
  deviceId := entry.disk.deviceId
  state := .ofCode entry.state
  sizeBytes := entry.disk.sizeBytes
  media := if entry.disk.mediaKind = MediaKind.removable.code then .removable else .fixed
  requestedLetter := letterOfUnit entry.disk.requestedDriveLetter
  createOperationId := toString entry.createOperationId
  path := entry.disk.pathId
  target := entry.disk.targetId
  lun := entry.disk.lun
  physicalDisk := number
  mountPoints := mountPoints

def InventoryDisk.collect (adapter : OpenAdapter) (entry : DiskState) : Fallible InventoryDisk :=
  (findPhysicalDisk (diskLocation adapter entry)).tryBind fun
    | none => .done (.ok (InventoryDisk.ofEntry entry none none))
    | some number => (discoverMountPoints number).bind fun points =>
      .done (.ok (InventoryDisk.ofEntry entry (some number) points))

/-- The entries of one adapter, in the driver's order, until one fails. -/
def collectDisks (adapter : OpenAdapter) (entries : List DiskState) :
    Fallible (List InventoryDisk) :=
  Procedure.tryFold (fun disks entry => (InventoryDisk.collect adapter entry).tryBind fun disk =>
    .done (.ok (disks ++ [disk]))) [] entries

def InventoryAdapter.ofState (adapter : OpenAdapter) (state : StateResponse)
    (disks : List InventoryDisk) : InventoryAdapter where
  adapterInstance := toString state.adapterInstance
  port := adapter.portNumber
  allocatedBytes := state.allocatedBytes
  pendingOperations := state.pendingOperations
  disks := disks

def InventoryAdapter.collect (adapter : OpenAdapter) : Fallible InventoryAdapter :=
  adapter.requireRecovery.tryBind fun () =>
    adapter.state.tryBind fun state =>
      (collectDisks adapter (listedDisks state)).tryBind fun disks =>
        .done (.ok (InventoryAdapter.ofState adapter state disks))

def collectInventory : Fallible (List InventoryAdapter) :=
  forAdapters [] fun inventory adapter => (InventoryAdapter.collect adapter).tryBind fun listed =>
    .done (.ok (inventory ++ [listed]))

/-- `windows::execute`; what `list_inventory` prints is left out. -/
def execute (payload : DriverPayload) (programData : Option String) : Command → FallibleSetup Unit
  | .add letter media sizeBytes fileSystem =>
    addDisk payload programData letter media sizeBytes fileSystem
  | .delete letter force => (deleteDisk letter force).lift
  | .deleteId adapter id force => (deleteByIdentity adapter id force).lift
  | .list _ => (collectInventory.tryBind fun _ => .done (.ok ())).lift

end WispDisk.Cli
