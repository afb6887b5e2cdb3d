import WispDisk.Cli.Deletion

/-! Which parts of a deletion change nothing: finding an adapter, an allocation, a physical disk or
its volumes makes inquiries alone. -/
namespace WispDisk.Cli
open Procedures Procedure
set_option autoImplicit false

/-- The calls that change neither a volume nor an allocation. -/
def Call.Inquiry : Call → Prop
  | .lockVolume _ => False
  | .dismountVolume _ => False
  | .unlockVolume _ => False
  | .deleteMountPoint _ _ => False
  | .setMountPoint _ _ _ => False
  | .deleteById _ _ _ => False
  | _ => True

/-- A procedure that only asks. -/
abbrev Inquires {α : Type} (p : Windows α) : Prop := p.Only Call.Inquiry

theorem bail_inquires {α : Type} (text : String) : Inquires (bail text : Fallible α) :=
  only_done _

theorem retry_inquires {α : Type} {attempt : Fallible (Option α)} {expired : String}
    {pause : Fallible Unit} (hattempt : Inquires attempt) (hpause : Inquires pause)
    (retries : ℕ) : Inquires (retry attempt expired pause retries) := by
  induction retries with
  | zero =>
    refine only_tryBind hattempt fun found => ?_
    cases found with
    | none => exact only_done _
    | some a => exact only_done _
  | succ retries ih =>
    refine only_tryBind hattempt fun found => ?_
    cases found with
    | none => exact only_tryBind hpause fun _ => ih
    | some a => exact only_done _

theorem withContext_inquires {α : Type} {text : String} {p : Fallible α} (h : Inquires p) :
    Inquires (withContext text p) := only_bind h fun _ => only_done _

/-! ## Adapters -/

theorem queryVersion_inquires (adapter : OpenAdapter) : Inquires adapter.queryVersion := by
  refine only_tryBind (only_call trivial fun _ => only_done _) fun response => ?_
  split
  · exact bail_inquires _
  split
  · exact bail_inquires _
  · exact only_done _

theorem requireRecovery_inquires (adapter : OpenAdapter) : Inquires adapter.requireRecovery := by
  refine only_tryBind (queryVersion_inquires adapter) fun response => ?_
  split
  · exact bail_inquires _
  · exact only_done _

theorem state_inquires (adapter : OpenAdapter) : Inquires adapter.state := by
  refine only_tryBind (only_call trivial fun _ => only_done _) fun response => ?_
  split
  · exact bail_inquires _
  · exact only_done _

theorem adapterAt_inquires (port : ℕ) : Inquires (adapterAt port) := by
  refine only_call trivial fun answer => ?_
  cases answer with
  | error code => exact only_done _
  | ok handle =>
    refine only_bind (queryVersion_inquires _) fun result => ?_
    cases result with
    | error error => exact only_done _
    | ok response => exact only_done _

theorem forAdapters_inquires {β : Type} (init : β) {body : β → OpenAdapter → Fallible β}
    (h : ∀ b adapter, Inquires (body b adapter)) : Inquires (forAdapters init body) := by
  refine only_tryFold (fun b port => ?_) _ _
  refine only_bind (adapterAt_inquires port) fun found => ?_
  cases found with
  | none => exact only_done _
  | some adapter => exact h b adapter

/-! ## Disks -/

theorem scsiLocation_inquires (handle : Handle) : Inquires (scsiLocation handle) := by
  refine only_call trivial fun answer => ?_
  cases answer with
  | error code => exact only_done _
  | ok answer =>
    simp only
    split
    · exact bail_inquires _
    · exact only_done _

theorem storageDeviceNumber_inquires (handle : Handle) : Inquires (storageDeviceNumber handle) := by
  refine only_call trivial fun answer => ?_
  cases answer with
  | error code => exact only_done _
  | ok answer =>
    simp only
    split
    · exact bail_inquires _
    split
    · exact bail_inquires _
    · exact only_done _

theorem physicalDiskAddress_inquires (number : ULONG) : Inquires (physicalDiskAddress number) := by
  refine only_call trivial fun answer => ?_
  cases answer with
  | error code => exact only_done _
  | ok disk => exact withContext_inquires (scsiLocation_inquires disk)

theorem verifyPhysicalDiskLocation_inquires (number : ULONG) (expected : ScsiLocation) :
    Inquires (verifyPhysicalDiskLocation number expected) := by
  refine only_tryBind (physicalDiskAddress_inquires number) fun actual => ?_
  split
  · exact bail_inquires _
  · exact only_done _

theorem interfaceNumber_inquires (expected : ScsiLocation) (index : ℕ) :
    Inquires (interfaceNumber expected index) := by
  refine only_call trivial fun answer => ?_
  cases answer with
  | error error => exact only_done _
  | ok path =>
    refine only_call trivial fun answer => ?_
    cases answer with
    | error code => exact only_done _
    | ok disk =>
      refine only_bind (scsiLocation_inquires disk) fun result => ?_
      cases result with
      | error error => exact only_done _
      | ok actual =>
        simp only
        split
        · exact only_done _
        · refine only_bind (storageDeviceNumber_inquires disk) fun result => ?_
          cases result with
          | error error => exact only_done _
          | ok number => exact only_done _

theorem findPhysicalDisk_inquires (expected : ScsiLocation) :
    Inquires (findPhysicalDisk expected) := by
  refine only_call trivial fun answer => ?_
  cases answer with
  | error code => exact only_done _
  | ok count =>
    refine only_tryFold (fun matched index => ?_) _ _
    refine only_call trivial fun answer => ?_
    cases answer with
    | error code => exact only_done _
    | ok _ =>
      refine only_bind (interfaceNumber_inquires expected index) fun found => ?_
      cases found with
      | none => exact only_done _
      | some number =>
        cases matched with
        | none => exact only_done _
        | some previous =>
          simp only
          split
          · exact bail_inquires _
          · exact only_done _

theorem waitForPhysicalDisk_inquires (location : ScsiLocation) :
    Inquires (waitForPhysicalDisk location) := by
  refine only_call trivial fun answer => ?_
  cases answer with
  | error error => exact only_done _
  | ok _ =>
    refine only_call trivial fun retries => ?_
    have hpause : Inquires (ask .waitNotification) := only_call trivial fun _ => only_done _
    exact retry_inquires (findPhysicalDisk_inquires location) hpause retries

theorem waitForPhysicalDiskAbsent_inquires (number : ULONG) (location : ScsiLocation) :
    Inquires (waitForPhysicalDiskAbsent number location) := by
  refine only_call trivial fun retries => ?_
  exact retry_inquires (only_bind (physicalDiskAddress_inquires number) fun _ => only_done _)
    (only_done _) retries

/-! ## Volumes -/

theorem diskNumber_inquires (handle : Handle) : Inquires (Volume.diskNumber handle) := by
  refine only_call trivial fun answer => ?_
  cases answer with
  | error code => exact only_done _
  | ok answer =>
    simp only
    split
    · exact bail_inquires _
    split
    · exact bail_inquires _
    · exact only_done _

theorem openInfo_inquires (info : VolumeInfo) (expectedDisk : ULONG) :
    Inquires (Volume.openInfo info expectedDisk) := by
  unfold Volume.openInfo
  split
  · exact only_done _
  · refine only_call trivial fun answer => ?_
    cases answer with
    | error code => exact only_done _
    | ok handle =>
      refine only_tryBind (diskNumber_inquires handle) fun number => ?_
      split
      · exact bail_inquires _
      · exact only_done _

theorem volumeForDisk_inquires (number : ULONG) (volumes : List VolumeInfo)
    (name : Except Error WideString) : Inquires (volumeForDisk number volumes name) := by
  unfold volumeForDisk
  split
  · exact only_done _
  split
  · exact only_done _
  · refine only_call trivial fun answer => ?_
    cases answer with
    | error code => exact only_done _
    | ok handle =>
      refine only_bind (diskNumber_inquires handle) fun result => ?_
      cases result with
      | error error =>
        simp only
        split
        · exact only_done _
        · exact only_done _
      | ok actual =>
        simp only
        split
        · refine only_call trivial fun answer => ?_
          cases answer with
          | error error => exact only_done _
          | ok paths => exact only_done _
        · exact only_done _

theorem volumesForDisk_inquires (number : ULONG) : Inquires (volumesForDisk number) := by
  refine only_call trivial fun answer => ?_
  cases answer with
  | error code => exact only_done _
  | ok names => exact only_tryFold (fun _ _ => volumeForDisk_inquires _ _ _) _ _

theorem openDisk_inquires (number : ULONG) (location : ScsiLocation) :
    Inquires (DiskDeletion.openDisk number location) := by
  refine only_tryBind (volumesForDisk_inquires number) fun infos => ?_
  refine only_tryBind (only_tryFold (fun volumes info => ?_) _ _) fun volumes => ?_
  · exact only_tryBind (openInfo_inquires info number) fun _ => only_done _
  · exact only_tryBind (verifyPhysicalDiskLocation_inquires number location) fun _ => only_done _

theorem stillOnline_inquires (adapter : OpenAdapter) (adapterInstance : ULONGLONG) (id : ULONG)
    (error : Error) : Inquires (stillOnline adapter adapterInstance id error) := by
  unfold stillOnline
  split
  · exact only_done _
  · refine only_bind (state_inquires adapter) fun result => ?_
    cases result with
    | error error => exact only_done _
    | ok state => exact only_done _

/-! ## Letters -/

theorem driveLetterInUse_inquires (letter : DriveLetter) : Inquires (driveLetterInUse letter) :=
  only_call trivial fun _ => only_done _

theorem waitForDriveState_inquires (letter : DriveLetter) (expectedPresent : Bool) :
    Inquires (waitForDriveState letter expectedPresent) := by
  refine only_call trivial fun retries => ?_
  exact retry_inquires (only_bind (driveLetterInUse_inquires letter) fun _ => only_done _)
    (only_done _) retries

theorem letterAddress_inquires (letter : DriveLetter) : Inquires (letterAddress letter) := by
  refine only_bind (driveLetterInUse_inquires letter) fun used => ?_
  cases used with
  | false => exact bail_inquires _
  | true =>
    refine only_call trivial fun answer => ?_
    cases answer with
    | error error => exact only_done _
    | ok name =>
      refine only_call trivial fun answer => ?_
      cases answer with
      | error code => exact only_done _
      | ok volume =>
        exact only_tryBind (diskNumber_inquires volume) fun _ => physicalDiskAddress_inquires _

theorem allocationAt_inquires (letter : DriveLetter) (address : ScsiLocation) :
    Inquires (allocationAt letter address) := by
  refine forAdapters_inquires _ fun matched adapter => ?_
  split
  · exact only_done _
  · refine only_tryBind (requireRecovery_inquires adapter) fun _ => ?_
    exact only_tryBind (state_inquires adapter) fun _ => only_done _

end WispDisk.Cli
