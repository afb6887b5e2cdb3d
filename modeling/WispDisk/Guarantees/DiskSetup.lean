import WispDisk.Cli.Creation
import WispDisk.Cli.Inquiries

/-! What a run of `add_disk` may do to Windows' disks, and when. A call that changes a disk is
`Justified` by the calls before it: the driver has created the allocation, the disk of that number has
been found at its address, and Storage WMI has described it as neither a boot nor a system disk and of
the size that was asked for. -/
namespace WispDisk.Cli
open Procedures Procedure
set_option autoImplicit false

/-- The arguments of one `add_disk`. -/
structure Creation where
  letter : DriveLetter
  media : MediaKind
  sizeBytes : ULONGLONG
  fileSystem : FileSystem

/-! ## Calls -/

def SetupCall.Creates : SetupCall → Prop
  | .createDisk _ _ _ _ => True
  | _ => False

def SetupCall.Formats : SetupCall → Prop
  | .execMethod _ (.format _) => True
  | _ => False

/-- The calls that change a disk, its partitions or its volumes. -/
def SetupCall.Mutates : SetupCall → Prop
  | .createPartition _ _ => True
  | .execMethod _ _ => True
  | _ => False

/-- A call that only deletions make. -/
def Acts : Call ⊕ SetupCall → Prop
  | .inl c => ¬ c.Inquiry
  | .inr _ => False

def Creates : Call ⊕ SetupCall → Prop
  | .inl _ => False
  | .inr c => c.Creates

def Formats : Call ⊕ SetupCall → Prop
  | .inl _ => False
  | .inr c => c.Formats

def Mutates : Call ⊕ SetupCall → Prop
  | .inl _ => False
  | .inr c => c.Mutates

/-- The calls of a setup that neither create nor format nor act. -/
def Plain (c : Call ⊕ SetupCall) : Prop := ¬ Creates c ∧ ¬ Formats c ∧ ¬ Acts c

theorem plain_inquiry {c : Call} (h : c.Inquiry) : Plain (.inl c) :=
  ⟨(fun hc => hc), (fun hc => hc), (fun hc => hc h)⟩

/-! ## What has been established -/

section Facts

variable (o : Creation) (adapter : OpenAdapter) (created : CreatedDisk) (number : ULONG)
  (location : ScsiLocation) (disk : MsftDisk) (h : SetupTrace)

/-- The driver has created the disk. -/
def Created : Prop :=
  (⟨.inr (.createDisk adapter.handle o.letter o.media o.sizeBytes), .ok created⟩ : SetupEvent) ∈ h

/-- Opening `PhysicalDriveN` and asking it for its address. -/
def addressQuery (handle : Handle) (returned : ℕ) : SetupTrace :=
  [⟨.inl (.createFile (.physicalDrive number) .none), .ok handle⟩,
    ⟨.inl (.getScsiAddress handle), .ok (location, returned)⟩]

/-- The disk of the number has been found at the address. -/
def Located : Prop :=
  ∃ handle returned, scsiAddressSize ≤ returned ∧ addressQuery number location handle returned <:+: h

/-- It was found there by the last two calls. -/
def JustLocated : Prop :=
  ∃ handle returned, scsiAddressSize ≤ returned ∧ addressQuery number location handle returned <:+ h

/-- The disk has passed the checks of `initialize_and_format`. -/
structure Passed : Prop where
  allocated : Created o adapter created h
  located : Located number (expectedLocation adapter created) h
  queried : (⟨.inr (.queryDisks number), .ok [disk]⟩ : SetupEvent) ∈ h
  numbered : disk.number = number
  size : disk.size = o.sizeBytes
  boot : disk.isBoot = false
  system : disk.isSystem = false

/-- A storage method has been called and has succeeded. -/
def Ran (path : String) (method : StorageMethod) : Prop :=
  (⟨.inr (.execMethod path method), .ok 0⟩ : SetupEvent) ∈ h

/-- The only partition of a removable disk, as Storage WMI lists it: it is the whole medium. -/
structure Whole (partition : MsftPartition) : Prop where
  listed : (⟨.inr (.queryPartitions number), .ok [partition]⟩ : SetupEvent) ∈ h
  style : disk.partitionStyle = partitionStyleMbr
  media : o.media = .removable
  owner : partition.diskNumber = number
  offset : partition.offset = 0
  size : partition.size = disk.size
  boot : partition.isBoot = false
  system : partition.isSystem = false

/-- The drive letter as the storage calls spell it. -/
def Creation.storageLetter : Char := toAsciiUppercase o.letter.letter

def partitionInput : CreatePartitionInput where
  useMaximumSize := true
  driveLetter := o.storageLetter
  mbrType := mbrType o.fileSystem

/-- The disk has a partition with the drive letter: one that was created with it, or the whole medium,
which had it or was given it. -/
def Lettered : Prop :=
  (∃ partition, (⟨.inr (.createPartition disk.path (partitionInput o)),
      .ok ⟨0, some partition⟩⟩ : SetupEvent) ∈ h) ∨
  ∃ partition, Whole o number disk h partition ∧
    (Ran h partition.path (.addAccessPath (o.storageLetter.toString ++ ":")) ∨
      ∃ current, wmiDriveLetter partition.driveLetter = some current ∧
        toAsciiUppercase current = toAsciiUppercase o.storageLetter)

/-- The disk may be partitioned: it has been initialized, or it is removable and has no partition. -/
def Partitionable : Prop :=
  disk.partitionStyle = partitionStyleRaw ∧ Ran h disk.path (.initializeDisk partitionStyleMbr) ∨
    disk.partitionStyle = partitionStyleMbr ∧ o.media = .removable ∧
      (⟨.inr (.queryPartitions number), .ok []⟩ : SetupEvent) ∈ h

def formatInput : FormatVolumeInput where
  fileSystem := wmiFileSystem o.fileSystem
  fileSystemLabel := String.ofList (volumeLabel o.fileSystem created.deviceId)
  full := false
  force := true

/-- The volume may be formatted: it alone has the drive letter, and the disk has just been found again
at the address of the allocation. -/
structure Formattable (path : String) : Prop where
  lettered : Lettered o number disk h
  volume : ∃ volume volumes, volume.path = path ∧
    (⟨.inr (.queryVolumes o.storageLetter), .ok volumes⟩ : SetupEvent) ∈ h ∧
    volumes.filter (volumeHasDriveLetter o.storageLetter) = [volume]
  located : JustLocated number (expectedLocation adapter created) h

/-- What each change of a disk needs, and what it is made on. -/
def Allowed : SetupCall → Prop
  | .createPartition path input =>
    path = disk.path ∧ input = partitionInput o ∧ Partitionable o number disk h
  | .execMethod path .online => path = disk.path ∧ disk.isOffline = true
  | .execMethod path (.setAttributes readOnly) =>
    path = disk.path ∧ readOnly = false ∧ disk.isReadOnly = true
  | .execMethod path (.initializeDisk style) =>
    path = disk.path ∧ style = partitionStyleMbr ∧ disk.partitionStyle = partitionStyleRaw
  | .execMethod path (.removeAccessPath _) =>
    ∃ partition, path = partition.path ∧ Whole o number disk h partition
  | .execMethod path (.addAccessPath accessPath) =>
    (∃ partition, path = partition.path ∧ Whole o number disk h partition) ∧
      accessPath = o.storageLetter.toString ++ ":"
  | .execMethod path (.format input) =>
    input = formatInput o created ∧ Formattable o adapter created number disk h path
  | _ => True

end Facts

/-- Nothing has been formatted or acted on. -/
structure Untouched (h : SetupTrace) : Prop where
  unformatted : ∀ e ∈ h, ¬ Formats e.call
  quiet : ∀ e ∈ h, ¬ Acts e.call

/-- The calls of a rollback: a driver delete names the created disk. -/
def RollsBack (adapter : OpenAdapter) (created : CreatedDisk) : Call → Prop
  | .deleteById handle adapterInstance id =>
    handle = adapter.handle ∧ adapterInstance = created.adapterInstance ∧ id = created.deviceId
  | _ => True

/-- A call is justified by the calls before it. -/
structure Justified (o : Creation) (h : SetupTrace) (e : SetupEvent) : Prop where
  creates : Creates e.call → ∀ e' ∈ h, ¬ Creates e'.call
  mutates : ∀ c, e.call = .inr c → c.Mutates → ∃ adapter created number disk,
    Passed o adapter created number disk h ∧ Allowed o adapter created number disk h c ∧ Untouched h
  acts : ∀ c, e.call = .inl c → ¬ c.Inquiry → ∃ adapter created,
    Created o adapter created h ∧ RollsBack adapter created c

/-! ## Lasting facts -/

section Lasting

variable (o : Creation) (adapter : OpenAdapter) (created : CreatedDisk) (number : ULONG)
  (location : ScsiLocation) (disk : MsftDisk)

theorem lasting_created : Lasting (Created o adapter created) := Lasting.mem _

theorem lasting_located : Lasting (Located number location) := by
  rintro h t ⟨handle, returned, hsize, hquery⟩
  exact ⟨handle, returned, hsize, Lasting.within _ h t hquery⟩

theorem lasting_passed : Lasting (Passed o adapter created number disk) := fun h t hpassed =>
  { allocated := Lasting.mem _ h t hpassed.allocated
    located := lasting_located _ _ h t hpassed.located
    queried := Lasting.mem _ h t hpassed.queried
    numbered := hpassed.numbered
    size := hpassed.size
    boot := hpassed.boot
    system := hpassed.system }

theorem lasting_ran (path : String) (method : StorageMethod) :
    Lasting fun h => Ran h path method := Lasting.mem _

theorem lasting_whole (partition : MsftPartition) :
    Lasting fun h => Whole o number disk h partition := fun h t hwhole =>
  { listed := Lasting.mem _ h t hwhole.listed
    style := hwhole.style
    media := hwhole.media
    owner := hwhole.owner
    offset := hwhole.offset
    size := hwhole.size
    boot := hwhole.boot
    system := hwhole.system }

theorem lasting_lettered : Lasting (Lettered o number disk) := by
  rintro h t (⟨partition, hcreated⟩ | ⟨partition, hwhole, hletter⟩)
  · exact Or.inl ⟨partition, Lasting.mem _ h t hcreated⟩
  · refine Or.inr ⟨partition, lasting_whole o number disk partition h t hwhole, ?_⟩
    exact hletter.imp_left (lasting_ran _ _ h t)

theorem JustLocated.located {number : ULONG} {location : ScsiLocation} {h : SetupTrace}
    (hjust : JustLocated number location h) : Located number location h := by
  obtain ⟨handle, returned, hsize, hquery⟩ := hjust
  exact ⟨handle, returned, hsize, hquery.isInfix⟩

end Lasting

/-! ## Rules -/

section Rules

variable {o : Creation} {α β : Type} {P E : SetupTrace → Prop}

/-- What the plain calls of a setup keep. -/
def PlainKept (P : SetupTrace → Prop) : Prop := ∀ h e, Plain e.call → P h → P (h ++ [e])

theorem PlainKept.lasting {P : SetupTrace → Prop} (h : Lasting P) : PlainKept P :=
  fun past e _ hP => h past [e] hP

theorem PlainKept.and {P Q : SetupTrace → Prop} (hP : PlainKept P) (hQ : PlainKept Q) :
    PlainKept fun h => P h ∧ Q h := fun h e he hboth => ⟨hP h e he hboth.1, hQ h e he hboth.2⟩

theorem plainKept_untouched : PlainKept Untouched := by
  intro h e he hU
  constructor
  · intro e' he'
    cases List.mem_append.mp he' with
    | inl hmem => exact hU.unformatted e' hmem
    | inr hmem =>
      cases List.mem_singleton.mp hmem
      exact he.2.1
  · intro e' he'
    cases List.mem_append.mp he' with
    | inl hmem => exact hU.quiet e' hmem
    | inr hmem =>
      cases List.mem_singleton.mp hmem
      exact he.2.2

/-- A step of the setup: its calls are justified, and after an error `E` holds. -/
abbrev SetsUp (o : Creation) (E P : SetupTrace → Prop) (p : FallibleSetup α)
    (R : α → SetupTrace → Prop) : Prop :=
  HistoryTriple (Justified o) P p (Outcome E R)

theorem justified_inquiry {h : SetupTrace} {c : Call} (hc : c.Inquiry) (answer : Answer c) :
    Justified o h ⟨.inl c, answer⟩ where
  creates := fun hcreates => absurd hcreates id
  mutates := fun _ heq => by cases heq
  acts := fun c' heq hno => by
    cases heq
    exact absurd hc hno

/-- A query of Storage WMI or of the setup interface. -/
theorem justified_query {h : SetupTrace} {c : SetupCall} (hcreates : ¬ c.Creates)
    (hmutates : ¬ c.Mutates) (answer : SetupAnswer c) : Justified o h ⟨.inr c, answer⟩ where
  creates := fun h => absurd h hcreates
  mutates := fun c' heq h => by
    cases heq
    exact absurd h hmutates
  acts := fun _ heq => by cases heq

/-- Inquiries keep what plain calls keep. -/
theorem inquiry_setsUp {p : Windows α} (hp : Inquires p) (hP : PlainKept P) :
    HistoryTriple (Justified o) P p.lift fun _ => P := by
  refine HistoryTriple.only (G := fun c => ∃ c', c = .inl c' ∧ c'.Inquiry)
    (only_lift hp fun c hc => ⟨c, rfl, hc⟩) ?_
  rintro t _ answer ⟨c, rfl, hc⟩ ht
  exact ⟨justified_inquiry hc answer, hP t _ (plain_inquiry hc) ht⟩

theorem inquires_setsUp {p : Fallible α} (hp : Inquires p) (hP : PlainKept P)
    (hE : ∀ t, P t → E t) : SetsUp o E P p.lift fun _ => P := by
  refine (inquiry_setsUp hp hP).weaken (fun _ h => h) fun r t h => ?_
  cases r with
  | error error => exact Outcome.error (hE t h)
  | ok a => exact Outcome.ok h

theorem bail_setsUp (hE : ∀ t, P t → E t) (text : String) {R : α → SetupTrace → Prop} :
    SetsUp o E P (bailSetup text) R := HistoryTriple.done fun t h => Outcome.error (hE t h)

theorem fail_setsUp (hE : ∀ t, P t → E t) (error : Error) {R : α → SetupTrace → Prop} :
    SetsUp o E P (.done (.error error)) R := HistoryTriple.done fun t h => Outcome.error (hE t h)

theorem done_setsUp {R : α → SetupTrace → Prop} {a : α} (h : ∀ t, P t → R a t) :
    SetsUp o E P (.done (.ok a)) R := HistoryTriple.done fun t ht => Outcome.ok (h t ht)

/-- A query whose answer is one more fact. -/
theorem query_setsUp {c : SetupCall} {next : SetupAnswer c → FallibleSetup α}
    {R : α → SetupTrace → Prop} (hcreates : ¬ c.Creates) (hmutates : ¬ c.Mutates)
    (hformats : ¬ c.Formats) (hP : PlainKept P)
    (hnext : ∀ answer, SetsUp o E
      (fun t => P t ∧ (⟨.inr c, answer⟩ : SetupEvent) ∈ t) (next answer) R) :
    SetsUp o E P (.call (.inr c) next) R := by
  refine HistoryTriple.call (fun t answer ht => ⟨justified_query hcreates hmutates answer, ?_⟩)
    hnext
  refine ⟨hP t _ ⟨hcreates, hformats, id⟩ ht, ?_⟩
  exact List.mem_append_right t List.mem_cons_self

end Rules

end WispDisk.Cli
