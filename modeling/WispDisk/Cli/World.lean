import WispDisk.Cli.Deletion
import WispDisk.Foundations.Interference

/-! The machine that a deletion runs on. The driver has the online disks, and Windows shows disks,
their `PhysicalDrive` numbers, their volumes and the mount points. Other clients have the driver create
and delete allocations meanwhile. Windows lets go of a deleted disk later, bit by bit; until then what
it shows of the disk still leads to it, while its LUN address may go to another disk, and then so may
its number and its mount points. Every call is answered by the machine as it is then. -/
namespace WispDisk.Cli
open Procedures
set_option autoImplicit false

/-- A disk. A disk of WispDisk is an allocation: its adapter instance and device ID. -/
structure Disk where
  location : ScsiLocation
  allocation : Option (ULONGLONG × ULONG)
  deriving DecidableEq

/-- What an open handle names. A handle to a disk or a volume outlives the disk. -/
inductive Object
  | adapter (port : UCHAR)
  | disk (disk : Disk)
  | volume (disk : Disk)
  deriving DecidableEq

/-- What a deletion has read of the machine and may act on until it asks the driver. The address of
the disk under a drive letter counts as read from the moment its volume is open. -/
structure Reads where
  addresses : List ScsiLocation := []
  numbers : List ULONG := []
  points : List WideString := []

structure World where
  /-- The adapter instance at each SCSI port. -/
  adapters : UCHAR → Option ULONGLONG
  /-- The online disks, as the drivers have them. -/
  disks : List Disk
  /-- The disks with an interface in Windows, which may have been deleted. -/
  shown : List Disk
  numbers : ULONG → Option Disk
  /-- The disk that hosts the volume of a name. -/
  volumes : WideString → Option Disk
  /-- The disk whose volume is at a mount point. -/
  mounts : WideString → Option Disk
  handles : Handle → Option Object
  /-- Every disk there has been, with every number and mount point it has had. -/
  created : List Disk
  numbered : List (ULONG × Disk)
  mounted : List (WideString × Disk)
  read : Reads := {}

/-- What leads to a disk in Windows. -/
inductive Sign
  | number (number : ULONG)
  | volume (name : WideString)
  | point (point : WideString)

namespace World

variable (w : World)

/-- The disk that Windows reaches by a sign. -/
def leads : Sign → Option Disk
  | .number number => w.numbers number
  | .volume name => w.volumes name
  | .point point => w.mounts point

/-- What always holds of a machine: an address leads to one online disk, no two disks have ever had
one device ID, and what Windows shows is, or was, a disk. -/
structure Sound : Prop where
  known : ∀ d ∈ w.disks, d ∈ w.created
  located : ∀ d ∈ w.disks, ∀ d' ∈ w.disks, d.location = d'.location → d = d'
  issued : ∀ d ∈ w.created, ∀ d' ∈ w.created, d.allocation ≠ none →
    d.allocation = d'.allocation → d = d'
  numbers : ∀ n d, w.numbers n = some d → d ∈ w.created ∧ (n, d) ∈ w.numbered
  mounts : ∀ point d, w.mounts point = some d → d ∈ w.created ∧ (point, d) ∈ w.mounted

/-! ## Other clients -/

/-- A step of another client's create or delete: the driver allocates a disk, Windows shows and
numbers it, a volume is set up on it, the driver deletes it, and Windows lets go of some of what led to
it. -/
inductive Change
  | created (disk : Disk)
  | arrived (number : ULONG) (disk : Disk)
  | formatted (disk : Disk) (name : WideString) (points : List WideString)
  | deleted (disk : Disk)
  | departed (disk : Disk) (interface : Bool) (lost : Sign → Bool)

/-- What a change takes is free; the driver issues every device ID once. Windows lets go of a disk only
when the driver has deleted it. -/
def Permits : Change → Prop
  | .created disk => disk.allocation ≠ none ∧ (∀ d ∈ w.disks, d.location ≠ disk.location) ∧
      ∀ d ∈ w.created, d.allocation ≠ disk.allocation
  | .arrived number disk =>
    disk ∈ w.disks ∧ w.numbers number = none ∧ ∀ n, w.numbers n ≠ some disk
  | .formatted disk name points => disk ∈ w.disks ∧ w.volumes name = none ∧
      ∀ point ∈ points, w.mounts point = none
  | .deleted disk => disk.allocation ≠ none
  | .departed disk _ _ => disk ∉ w.disks

/-- A table that has lost some of the keys of a disk. -/
def forget {κ : Type} (table : κ → Option Disk) (disk : Disk) (lost : κ → Bool) (k : κ) :
    Option Disk :=
  if table k = some disk ∧ lost k = true then none else table k

/-- The driver has deleted a disk: its LUN address is free. -/
def without (disk : Disk) : World := { w with disks := w.disks.filter (· ≠ disk) }

def after : Change → World
  | .created disk => { w with disks := disk :: w.disks, created := disk :: w.created }
  | .arrived number disk =>
    { w with
      shown := disk :: w.shown
      numbers := Function.update w.numbers number (some disk)
      numbered := (number, disk) :: w.numbered }
  | .formatted disk name points =>
    { w with
      volumes := Function.update w.volumes name (some disk)
      mounts := fun point => if point ∈ points then some disk else w.mounts point
      mounted := points.map (fun point => (point, disk)) ++ w.mounted }
  | .deleted disk => w.without disk
  | .departed disk interface lost =>
    { w with
      shown := if interface then w.shown.filter (· ≠ disk) else w.shown
      numbers := forget w.numbers disk fun n => lost (.number n)
      volumes := forget w.volumes disk fun name => lost (.volume name)
      mounts := forget w.mounts disk fun point => lost (.point point) }

def openHandle (handle : Handle) (object : Object) : World :=
  { w with handles := Function.update w.handles handle (some object) }

@[simp] theorem openHandle_self (handle : Handle) (object : Object) :
    (w.openHandle handle object).handles handle = some object := Function.update_self _ _ _

def readAddresses (addresses : List ScsiLocation) : World :=
  { w with read := { w.read with addresses := addresses ++ w.read.addresses } }

def readNumber (number : ULONG) : World :=
  { w with read := { w.read with numbers := number :: w.read.numbers } }

def readPoints (points : List WideString) : World :=
  { w with read := { w.read with points := points ++ w.read.points } }

/-- The driver has been asked, and nothing that was read matters any more. -/
def asked : World := { w with read := {} }

/-- The steps of the others, as far as `allowed` goes. -/
def Interferes (allowed : World → Change → Prop) (w w' : World) : Prop :=
  ∃ change, w.Permits change ∧ allowed w change ∧ w' = w.after change

variable {w}

theorem forget_some {κ : Type} {table : κ → Option Disk} {disk d : Disk} {lost : κ → Bool} {k : κ}
    (h : forget table disk lost k = some d) : table k = some d := by
  unfold forget at h
  split at h
  · cases h
  · exact h

theorem forget_other {κ : Type} {table : κ → Option Disk} {disk d : Disk} {lost : κ → Bool} {k : κ}
    (h : table k = some d) (hne : d ≠ disk) : forget table disk lost k = some d := by
  unfold forget
  rw [if_neg, h]
  rintro ⟨hdisk, _⟩
  rw [h] at hdisk
  exact hne (Option.some.inj hdisk)

theorem leads_departed {disk d : Disk} {interface : Bool} {lost : Sign → Bool} {sign : Sign}
    (h : (w.after (.departed disk interface lost)).leads sign = some d) : w.leads sign = some d := by
  cases sign with
  | number number => exact forget_some h
  | volume name => exact forget_some h
  | point point => exact forget_some h

theorem leads_departed_other {disk d : Disk} {interface : Bool} {lost : Sign → Bool} {sign : Sign}
    (h : w.leads sign = some d) (hne : d ≠ disk) :
    (w.after (.departed disk interface lost)).leads sign = some d := by
  cases sign with
  | number number => exact forget_other h hne
  | volume name => exact forget_other h hne
  | point point => exact forget_other h hne

theorem mem_without {disk d : Disk} : d ∈ (w.without disk).disks ↔ d ∈ w.disks ∧ d ≠ disk := by
  simp [without]

namespace Sound

theorem without (h : w.Sound) (disk : Disk) : (w.without disk).Sound where
  known := fun d hd => h.known d (mem_without.mp hd).1
  located := fun d hd d' hd' => h.located d (mem_without.mp hd).1 d' (mem_without.mp hd').1
  issued := h.issued
  numbers := h.numbers
  mounts := h.mounts

theorem created (h : w.Sound) {disk : Disk} (hp : w.Permits (.created disk)) :
    (w.after (.created disk)).Sound := by
  obtain ⟨_, hfree, hfresh⟩ := hp
  refine ⟨fun d hd => ?_, fun d hd d' hd' hsame => ?_, fun d hd d' hd' hsome hsame => ?_,
    fun n d hn => ?_, fun point d hpoint => ?_⟩
  · cases List.mem_cons.mp hd with
    | inl heq => exact heq ▸ List.mem_cons_self
    | inr hd => exact List.mem_cons_of_mem _ (h.known d hd)
  · cases List.mem_cons.mp hd with
    | inl heq =>
      cases List.mem_cons.mp hd' with
      | inl heq' => exact heq.trans heq'.symm
      | inr hd' => exact absurd (hsame.symm.trans (congrArg Disk.location heq)) (hfree d' hd')
    | inr hd =>
      cases List.mem_cons.mp hd' with
      | inl heq' => exact absurd (hsame.trans (congrArg Disk.location heq')) (hfree d hd)
      | inr hd' => exact h.located d hd d' hd' hsame
  · cases List.mem_cons.mp hd with
    | inl heq =>
      cases List.mem_cons.mp hd' with
      | inl heq' => exact heq.trans heq'.symm
      | inr hd' => exact absurd (hsame.symm.trans (congrArg Disk.allocation heq)) (hfresh d' hd')
    | inr hd =>
      cases List.mem_cons.mp hd' with
      | inl heq' => exact absurd (hsame.trans (congrArg Disk.allocation heq')) (hfresh d hd)
      | inr hd' => exact h.issued d hd d' hd' hsome hsame
  · exact ⟨List.mem_cons_of_mem _ (h.numbers n d hn).1, (h.numbers n d hn).2⟩
  · exact ⟨List.mem_cons_of_mem _ (h.mounts point d hpoint).1, (h.mounts point d hpoint).2⟩

theorem arrived (h : w.Sound) {number : ULONG} {disk : Disk}
    (hp : w.Permits (.arrived number disk)) : (w.after (.arrived number disk)).Sound := by
  refine ⟨h.known, h.located, h.issued, fun n d hn => ?_, h.mounts⟩
  have hn : Function.update w.numbers number (some disk) n = some d := hn
  by_cases heq : n = number
  · subst heq
    rw [Function.update_self] at hn
    cases hn
    exact ⟨h.known disk hp.1, List.mem_cons_self⟩
  · rw [Function.update_of_ne heq] at hn
    exact ⟨(h.numbers n d hn).1, List.mem_cons_of_mem _ (h.numbers n d hn).2⟩

theorem formatted (h : w.Sound) {disk : Disk} {name : WideString} {points : List WideString}
    (hp : w.Permits (.formatted disk name points)) :
    (w.after (.formatted disk name points)).Sound := by
  refine ⟨h.known, h.located, h.issued, h.numbers, fun point d hpoint => ?_⟩
  have hpoint : (if point ∈ points then some disk else w.mounts point) = some d := hpoint
  by_cases hmem : point ∈ points
  · rw [if_pos hmem] at hpoint
    cases hpoint
    exact ⟨h.known disk hp.1, List.mem_append_left _ (List.mem_map.mpr ⟨point, hmem, rfl⟩)⟩
  · rw [if_neg hmem] at hpoint
    exact ⟨(h.mounts point d hpoint).1, List.mem_append_right _ (h.mounts point d hpoint).2⟩

theorem departed (h : w.Sound) (disk : Disk) (interface : Bool) (lost : Sign → Bool) :
    (w.after (.departed disk interface lost)).Sound where
  known := h.known
  located := h.located
  issued := h.issued
  numbers := fun n d hn => by
    have hn : forget w.numbers disk (fun n => lost (.number n)) n = some d := hn
    exact h.numbers n d (forget_some hn)
  mounts := fun point d hpoint => by
    have hpoint : forget w.mounts disk (fun point => lost (.point point)) point = some d := hpoint
    exact h.mounts point d (forget_some hpoint)

/-- A change of the others keeps the machine sound. -/
theorem after (h : w.Sound) {change : Change} (hp : w.Permits change) : (w.after change).Sound := by
  cases change with
  | created disk => exact h.created hp
  | arrived number disk => exact h.arrived hp
  | formatted disk name points => exact h.formatted hp
  | deleted disk => exact h.without disk
  | departed disk interface lost => exact h.departed disk interface lost

theorem openHandle (h : w.Sound) (handle : Handle) (object : Object) :
    (w.openHandle handle object).Sound :=
  ⟨h.known, h.located, h.issued, h.numbers, h.mounts⟩

end Sound

variable (w)

/-! ## Calls -/

/-- What a device path may open. The paths that are opened by name are those of volumes and of disk
interfaces; the volume of a drive letter is that of its mount point. -/
def Opens : Device → Object → Prop
  | .driveLetter letter, object =>
    ∃ disk, w.mounts (mountPoint letter) = some disk ∧ object = .volume disk
  | .physicalDrive number, object => ∃ disk, w.numbers number = some disk ∧ object = .disk disk
  | .scsiPort port, object =>
    w.adapters (UInt8.ofNat port) ≠ none ∧ object = .adapter (UInt8.ofNat port)
  | .path path, object =>
    (∃ disk, w.volumes (path ++ [backslash]) = some disk ∧ object = .volume disk) ∨
      ∃ disk ∈ w.shown, object = .disk disk

/-- The address of a listed disk, as `disk_location` reads it. -/
def listedLocation (port : UCHAR) (entry : DiskState) : ScsiLocation where
  port := port
  path := entry.disk.pathId
  target := entry.disk.targetId
  lun := entry.disk.lun

/-- The inventory of the adapter at a port: every listed disk is an allocation of its instance. -/
def Lists (port : UCHAR) (state : StateResponse) : Prop :=
  w.adapters port = some state.adapterInstance ∧
    ∀ entry ∈ listedDisks state,
      ⟨listedLocation port entry, some (state.adapterInstance, entry.disk.deviceId)⟩ ∈ w.disks

/-- The address that an opened object is known by. -/
def boundTo : Device → Object → List ScsiLocation
  | .driveLetter _, .volume disk => [disk.location]
  | _, _ => []

/-- `w.Answers c answer w'`: the call may be answered so, and leaves the machine `w'`. A call that
fails leaves it as it is, but a delete whose outcome is not reported may have been done. What an
answer tells is read. A disk has an address, and a volume can be dismounted, for as long as Windows
shows them. -/
def Answers : (c : Call) → Answer c → World → Prop
  | .createFile device _, .ok handle, w' =>
    w.handles handle = none ∧ ∃ object, w.Opens device object ∧
      w' = (w.openHandle handle object).readAddresses (boundTo device object)
  | .getScsiAddress handle, .ok (location, _), w' =>
    w' = w.readAddresses [location] ∧ ∃ disk ∈ w.shown,
      w.handles handle = some (.disk disk) ∧ disk.location = location
  | .getDeviceNumber handle, .ok (number, _), w' =>
    w' = w ∧ ∃ disk, w.handles handle = some (.disk disk) ∧
      w.numbers number.deviceNumber = some disk
  | .getDiskExtents handle, .ok (extents, _), w' =>
    w' = w.readNumber extents.diskNumber ∧ ∃ disk, w.handles handle = some (.volume disk) ∧
      (extents.numberOfDiskExtents = 1 → w.numbers extents.diskNumber = some disk)
  | .getVolumePaths name, .ok points, w' =>
    w' = w.readPoints points ∧ ∃ disk, w.volumes name = some disk ∧
      ∀ point ∈ points, w.mounts point = some disk
  | .dismountVolume handle, .ok (), w' =>
    w' = w ∧ ∃ disk, w.handles handle = some (.volume disk)
  | .deleteMountPoint _ point, .ok (), w' =>
    w.mounts point ≠ none ∧ w' = { w with mounts := Function.update w.mounts point none }
  | .setMountPoint _ point name, .ok (), w' =>
    w.mounts point = none ∧ ∃ disk, w.volumes name = some disk ∧
      w' = { w with
        mounts := Function.update w.mounts point (some disk)
        mounted := (point, disk) :: w.mounted }
  | .sendListState handle, .ok state, w' =>
    ∃ port, w.handles handle = some (.adapter port) ∧ w.Lists port state ∧
      w' = w.readAddresses ((listedDisks state).map (listedLocation port))
  | .deleteById _ adapterInstance id, .ok (), w' =>
    ∃ disk ∈ w.disks, disk.allocation = some (adapterInstance, id) ∧ w' = (w.without disk).asked
  | .deleteById _ adapterInstance id, .error _, w' =>
    w' = w.asked ∨
      ∃ disk ∈ w.disks, disk.allocation = some (adapterInstance, id) ∧ w' = (w.without disk).asked
  | _, _, w' => w' = w

/-- The call dismounts a volume of the disk, removes a mount point of it or deletes it. -/
def Hits : WindowsEvent → Disk → Prop
  | ⟨.dismountVolume handle, _⟩, disk => w.handles handle = some (.volume disk)
  | ⟨.deleteMountPoint _ point, _⟩, disk => w.mounts point = some disk
  | ⟨.deleteById _ adapterInstance id, _⟩, disk =>
    disk ∈ w.disks ∧ disk.allocation = some (adapterInstance, id)
  | _, _ => False

end World

/-- A run of a deletion among the steps of other clients. -/
abbrev RunsAmong {α : Type} (allowed : World → World.Change → Prop) (w : World) (p : Windows α)
    (t : List (World × WindowsEvent)) (w' : World) (r : Option α) : Prop :=
  Executes World.Answers (World.Interferes allowed) w p t w' r

end WispDisk.Cli
