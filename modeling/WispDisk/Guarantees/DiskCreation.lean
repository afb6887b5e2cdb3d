import WispDisk.Guarantees.DiskSetup

/-! `initialize_created_disk` step by step: every change it makes is justified, and what it has
established when it succeeds. -/
namespace WispDisk.Cli
open Procedures Procedure
set_option autoImplicit false

section Provisioning

variable {o : Creation} {adapter : OpenAdapter} {created : CreatedDisk} {number : ULONG}
  {disk : MsftDisk} {P E : SetupTrace → Prop}

/-- Where the steps of `initialize_and_format` start from. -/
def Provisioned (o : Creation) (adapter : OpenAdapter) (created : CreatedDisk) (number : ULONG)
    (disk : MsftDisk) (h : SetupTrace) : Prop :=
  Passed o adapter created number disk h ∧ Untouched h

theorem plainKept_provisioned : PlainKept (Provisioned o adapter created number disk) :=
  (PlainKept.lasting (lasting_passed o adapter created number disk)).and plainKept_untouched

theorem Provisioned.allocated {h : SetupTrace} (hS : Provisioned o adapter created number disk h) :
    Created o adapter created h := hS.1.allocated

/-- A change of the disk that is not the format. -/
theorem Provisioned.justified {h : SetupTrace} (hS : Provisioned o adapter created number disk h)
    {c : SetupCall} (hcreates : ¬ c.Creates) (hallowed : Allowed o adapter created number disk h c)
    (answer : SetupAnswer c) : Justified o h ⟨.inr c, answer⟩ where
  creates := fun h => absurd h hcreates
  mutates := fun c' heq _ => by
    cases heq
    exact ⟨adapter, created, number, disk, hS.1, hallowed, hS.2⟩
  acts := fun _ heq => by cases heq

/-- A storage method other than the format, called where it is allowed. -/
theorem execMethod_setsUp {path : String} {method : StorageMethod} {R : SetupTrace → Prop}
    (operation : String) (hmethod : ¬ (SetupCall.execMethod path method).Formats)
    (hP : PlainKept P) (hS : ∀ t, P t → Provisioned o adapter created number disk t)
    (hallowed : ∀ t, P t → Allowed o adapter created number disk t (.execMethod path method))
    (hR : ∀ t, P t → Ran t path method → R t) :
    SetsUp o (Created o adapter created) P (StorageWmi.execMethod path method operation)
      fun _ => R := by
  refine HistoryTriple.call (R := fun answer t => P t ∧
    (⟨.inr (.execMethod path method), answer⟩ : SetupEvent) ∈ t) (fun t answer ht => ?_) ?_
  · refine ⟨(hS t ht).justified id (hallowed t ht) answer, hP t _ ⟨id, hmethod, id⟩ ht, ?_⟩
    exact List.mem_append_right t List.mem_cons_self
  · intro answer
    cases answer with
    | error error => exact fail_setsUp (fun t h => (hS t h.1).allocated) _
    | ok returnValue =>
      by_cases hzero : returnValue = 0
      · subst hzero
        exact HistoryTriple.done fun t h => Outcome.ok (hR t h.1 h.2)
      · simp only [checkStorageMethod, if_neg hzero]
        exact fail_setsUp (fun t h => (hS t h.1).allocated) _

theorem whenNeeded_setsUp {needed : Bool} {step : FallibleSetup Unit} {R : SetupTrace → Prop}
    (hstep : needed = true → SetsUp o E P step fun _ => R)
    (hskip : needed = false → ∀ t, P t → R t) :
    SetsUp o E P (whenNeeded needed step) fun _ => R := by
  cases needed with
  | true => exact hstep rfl
  | false => exact done_setsUp (hskip rfl)

/-- The disk is brought online when it is offline. -/
theorem onlineDisk_setsUp : SetsUp o (Created o adapter created)
    (Provisioned o adapter created number disk)
    (whenNeeded disk.isOffline (StorageWmi.onlineDisk disk))
    fun _ => Provisioned o adapter created number disk := by
  refine whenNeeded_setsUp (fun hoffline => ?_) fun _ _ h => h
  refine execMethod_setsUp _ id plainKept_provisioned (fun _ h => h) (fun t _ => ?_) fun _ h _ => h
  exact ⟨rfl, hoffline⟩

/-- It is made writable when it is read-only. -/
theorem setDiskReadOnly_setsUp : SetsUp o (Created o adapter created)
    (Provisioned o adapter created number disk)
    (whenNeeded disk.isReadOnly (StorageWmi.setDiskReadOnly disk false))
    fun _ => Provisioned o adapter created number disk := by
  refine whenNeeded_setsUp (fun hreadOnly => ?_) fun _ _ h => h
  refine execMethod_setsUp _ id plainKept_provisioned (fun _ h => h) (fun t _ => ?_) fun _ h _ => h
  exact ⟨rfl, rfl, hreadOnly⟩

/-! ## The partition -/

/-- The partition that `preparePartition` returns has its letter, or it is the whole medium. -/
def Prepared (o : Creation) (number : ULONG) (disk : MsftDisk) (h : SetupTrace)
    (result : MsftPartition × Bool) : Prop :=
  (result.2 = true → Lettered o number disk h) ∧
    (result.2 = false → Whole o number disk h result.1)

theorem createMaxPartition_setsUp : SetsUp o (Created o adapter created)
    (fun t => Provisioned o adapter created number disk t ∧ Partitionable o number disk t)
    (StorageWmi.createMaxPartition disk o.storageLetter o.fileSystem) fun _ t =>
      Provisioned o adapter created number disk t ∧ Lettered o number disk t := by
  refine HistoryTriple.call (R := fun answer t => Provisioned o adapter created number disk t ∧
    (⟨.inr (.createPartition disk.path (partitionInput o)), answer⟩ : SetupEvent) ∈ t)
    (fun t answer ht => ?_) ?_
  · have hallowed : Allowed o adapter created number disk t
        (.createPartition disk.path (partitionInput o)) := ⟨rfl, rfl, ht.2⟩
    refine ⟨ht.1.justified id hallowed answer, plainKept_provisioned t _ ⟨id, id, id⟩ ht.1, ?_⟩
    exact List.mem_append_right t List.mem_cons_self
  · intro answer
    cases answer with
    | error error => exact fail_setsUp (fun t h => h.1.allocated) _
    | ok output =>
      obtain ⟨returnValue, createdPartition⟩ := output
      by_cases hzero : returnValue = 0
      · subst hzero
        cases createdPartition with
        | none => exact bail_setsUp (fun t h => h.1.allocated) _
        | some partition => exact done_setsUp fun t h => ⟨h.1, Or.inl ⟨partition, h.2⟩⟩
      · simp only [checkStorageMethod, if_neg hzero]
        exact fail_setsUp (fun t h => h.1.allocated) _

theorem getPartitions_setsUp : SetsUp o (Created o adapter created)
    (Provisioned o adapter created number disk) (StorageWmi.getPartitions number)
    fun partitions t => (Provisioned o adapter created number disk t ∧
      (⟨.inr (.queryPartitions number), .ok partitions⟩ : SetupEvent) ∈ t) ∧
        ∀ partition ∈ partitions, partition.diskNumber = number := by
  refine query_setsUp id id id plainKept_provisioned fun answer => ?_
  cases answer with
  | error error => exact fail_setsUp (fun t h => h.1.allocated) _
  | ok partitions =>
    simp only
    split
    · exact bail_setsUp (fun t h => h.1.allocated) _
    · rename_i hany
      refine done_setsUp fun t h => ⟨h, fun partition hpartition => ?_⟩
      by_cases heq : partition.diskNumber = number
      · exact heq
      · refine absurd (List.any_eq_true.mpr ⟨partition, hpartition, ?_⟩) hany
        exact bne_iff_ne.mpr heq

theorem wholeMedium_ok {partition result : MsftPartition}
    (h : StorageWmi.wholeMedium disk partition = .ok result) : result = partition ∧ partition.offset = 0 ∧
      partition.size = disk.size ∧ partition.isBoot = false ∧ partition.isSystem = false := by
  unfold StorageWmi.wholeMedium at h
  split at h
  · cases h
  · rename_i hspan
    split at h
    · cases h
    · rename_i hplain
      cases h
      simp only [Bool.or_eq_true, not_or, Bool.not_eq_true] at hplain
      rw [not_or, not_not, not_not] at hspan
      exact ⟨rfl, hspan.1, hspan.2, hplain.1, hplain.2⟩

theorem getOrCreateRemovablePartition_setsUp (hnumber : disk.number = number)
    (hstyle : disk.partitionStyle = partitionStyleMbr) (hmedia : o.media = .removable) :
    SetsUp o (Created o adapter created) (Provisioned o adapter created number disk)
      (StorageWmi.getOrCreateRemovablePartition disk o.storageLetter o.fileSystem)
      fun result t => Provisioned o adapter created number disk t ∧
        Prepared o number disk t result := by
  unfold StorageWmi.getOrCreateRemovablePartition
  rw [hnumber]
  refine HistoryTriple.tryBind getPartitions_setsUp fun partitions => ?_
  have hallocated : ∀ t, ((Provisioned o adapter created number disk t ∧
      (⟨.inr (.queryPartitions number), .ok partitions⟩ : SetupEvent) ∈ t) ∧
        ∀ partition ∈ partitions, partition.diskNumber = number) →
      Created o adapter created t := fun t h => h.1.1.allocated
  cases partitions with
  | nil =>
    have hcreate : SetsUp o (Created o adapter created)
        (fun t => Provisioned o adapter created number disk t ∧ Partitionable o number disk t)
        (StorageWmi.createMaxPartition disk o.storageLetter o.fileSystem) fun _ t =>
          Provisioned o adapter created number disk t ∧ Lettered o number disk t :=
      createMaxPartition_setsUp
    refine HistoryTriple.tryBind (hcreate.weaken (fun t h => ?_) fun _ _ h => h) fun partition => ?_
    · exact ⟨h.1.1, Or.inr ⟨hstyle, hmedia, h.1.2⟩⟩
    · exact done_setsUp fun t h => ⟨h.1, fun _ => h.2, fun hfalse => by cases hfalse⟩
  | cons partition rest =>
    cases rest with
    | nil =>
      cases hwhole : StorageWmi.wholeMedium disk partition with
      | error error =>
        simp only [hwhole]
        exact fail_setsUp hallocated _
      | ok result =>
        obtain ⟨rfl, hoffset, hsize, hboot, hsystem⟩ := wholeMedium_ok hwhole
        simp only [hwhole]
        refine done_setsUp fun t h => ⟨h.1.1, (fun htrue => by cases htrue), fun _ => ?_⟩
        exact
          { listed := h.1.2
            style := hstyle
            media := hmedia
            owner := h.2 _ List.mem_cons_self
            offset := hoffset
            size := hsize
            boot := hboot
            system := hsystem }
    | cons second rest => exact bail_setsUp hallocated _

theorem preparePartition_setsUp (hnumber : disk.number = number) :
    SetsUp o (Created o adapter created) (Provisioned o adapter created number disk)
      (preparePartition disk o.storageLetter o.media o.fileSystem)
      fun result t => Provisioned o adapter created number disk t ∧
        Prepared o number disk t result := by
  unfold preparePartition
  by_cases hraw : disk.partitionStyle = partitionStyleRaw
  · rw [if_pos hraw]
    refine HistoryTriple.tryBind (R := fun _ t => Provisioned o adapter created number disk t ∧
      Partitionable o number disk t) ?_ fun _ => ?_
    · unfold StorageWmi.initializeMbr
      rw [if_neg (not_not.mpr hraw)]
      refine execMethod_setsUp _ id plainKept_provisioned (fun _ h => h) (fun t _ => ?_)
        fun t h hran => ⟨h, Or.inl ⟨hraw, hran⟩⟩
      exact ⟨rfl, rfl, hraw⟩
    · refine HistoryTriple.tryBind createMaxPartition_setsUp fun partition => ?_
      exact done_setsUp fun t h => ⟨h.1, fun _ => h.2, fun hfalse => by cases hfalse⟩
  · rw [if_neg hraw]
    by_cases hmbr : disk.partitionStyle = partitionStyleMbr ∧ o.media = .removable
    · rw [if_pos hmbr]
      exact getOrCreateRemovablePartition_setsUp hnumber hmbr.1 hmbr.2
    · rw [if_neg hmbr]
      exact bail_setsUp (fun t h => h.allocated) _

theorem plainKept_whole (partition : MsftPartition) : PlainKept fun t =>
    Provisioned o adapter created number disk t ∧ Whole o number disk t partition :=
  plainKept_provisioned.and (PlainKept.lasting (lasting_whole o number disk partition))

theorem addAccessPath_setsUp (partition : MsftPartition) : SetsUp o (Created o adapter created)
    (fun t => Provisioned o adapter created number disk t ∧ Whole o number disk t partition)
    (StorageWmi.addAccessPath partition o.storageLetter) fun _ t =>
      Provisioned o adapter created number disk t ∧ Lettered o number disk t := by
  refine execMethod_setsUp _ id (plainKept_whole partition) (fun _ h => h.1) (fun t h => ?_)
    fun t h hran => ⟨h.1, Or.inr ⟨partition, h.2, Or.inl hran⟩⟩
  exact ⟨⟨partition, rfl, h.2⟩, rfl⟩

theorem assignDriveLetter_setsUp (partition : MsftPartition) :
    SetsUp o (Created o adapter created)
      (fun t => Provisioned o adapter created number disk t ∧ Whole o number disk t partition)
      (StorageWmi.assignDriveLetter partition o.storageLetter) fun _ t =>
        Provisioned o adapter created number disk t ∧ Lettered o number disk t := by
  unfold StorageWmi.assignDriveLetter
  cases hcurrent : wmiDriveLetter partition.driveLetter with
  | none => exact addAccessPath_setsUp partition
  | some current =>
    by_cases hsame : toAsciiUppercase current = toAsciiUppercase o.storageLetter
    · simp only [if_pos hsame]
      refine done_setsUp fun t h => ⟨h.1, Or.inr ⟨partition, h.2, Or.inr ?_⟩⟩
      exact ⟨current, hcurrent, hsame⟩
    · simp only [if_neg hsame]
      refine HistoryTriple.tryBind ?_ fun _ => addAccessPath_setsUp partition
      refine execMethod_setsUp _ id (plainKept_whole partition) (fun _ h => h.1) (fun t h => ?_)
        fun _ h _ => h
      exact ⟨partition, rfl, h.2⟩

/-! ## The volume -/

/-- One volume alone has the drive letter. -/
def OnlyVolume (o : Creation) (h : SetupTrace) (volume : MsftVolume) : Prop :=
  ∃ volumes, (⟨.inr (.queryVolumes o.storageLetter), .ok volumes⟩ : SetupEvent) ∈ h ∧
    volumes.filter (volumeHasDriveLetter o.storageLetter) = [volume]

theorem lasting_onlyVolume (volume : MsftVolume) : Lasting fun h => OnlyVolume o h volume := by
  rintro h t ⟨volumes, hlisted, hfilter⟩
  exact ⟨volumes, Lasting.mem _ h t hlisted, hfilter⟩

theorem queryVolume_setsUp (hP : PlainKept P) (hE : ∀ t, P t → E t)
    {missing : FallibleSetup MsftVolume}
    (hmissing : SetsUp o E P missing fun volume t => P t ∧ OnlyVolume o t volume) :
    SetsUp o E P (StorageWmi.queryVolume o.storageLetter missing)
      fun volume t => P t ∧ OnlyVolume o t volume := by
  refine query_setsUp id id id hP fun answer => ?_
  cases answer with
  | error error => exact fail_setsUp (fun t h => hE t h.1) _
  | ok volumes =>
    simp only
    split
    · exact hmissing.weaken (fun _ h => h.1) fun _ _ h => h
    · rename_i volume hfilter
      exact done_setsUp fun t h => ⟨h.1, volumes, h.2, hfilter⟩
    · exact bail_setsUp (fun t h => hE t h.1) _

theorem waitForVolumeFrom_setsUp (hP : PlainKept P) (hE : ∀ t, P t → E t) (retries : ℕ) :
    SetsUp o E P (StorageWmi.waitForVolumeFrom o.storageLetter retries)
      fun volume t => P t ∧ OnlyVolume o t volume := by
  induction retries with
  | zero => exact queryVolume_setsUp hP hE (bail_setsUp hE _)
  | succ retries ih => exact queryVolume_setsUp hP hE ih

theorem waitForVolume_setsUp (hP : PlainKept P) (hE : ∀ t, P t → E t) :
    SetsUp o E P (StorageWmi.waitForVolume o.storageLetter)
      fun volume t => P t ∧ OnlyVolume o t volume := by
  refine HistoryTriple.call (R := fun _ => P) (fun t retries ht => ?_) fun retries =>
    waitForVolumeFrom_setsUp hP hE retries
  have hinquiry : Call.Inquiry .retriesLeft := trivial
  exact ⟨justified_inquiry hinquiry retries, hP t _ (plain_inquiry hinquiry) ht⟩

/-! ## Addresses -/

theorem scsiLocation_runs {handle : Handle} {location : ScsiLocation} {t : Trace}
    (hrun : Runs (scsiLocation handle) t (.ok location)) :
    ∃ returned, scsiAddressSize ≤ returned ∧
      t = [⟨.getScsiAddress handle, .ok (location, returned)⟩] := by
  obtain ⟨answer, rest, rfl, hrest⟩ := Runs.call_iff.mp hrun
  cases answer with
  | error code => exact absurd (Runs.done_iff.mp hrest).2 fun h => by cases h
  | ok answer =>
    obtain ⟨found, returned⟩ := answer
    simp only at hrest
    split at hrest
    · exact absurd (Runs.done_iff.mp hrest).2 fun h => by cases h
    · rename_i hsize
      obtain ⟨rfl, hfound⟩ := Runs.done_iff.mp hrest
      cases hfound
      exact ⟨returned, not_lt.mp hsize, rfl⟩

theorem physicalDiskAddress_runs {location : ScsiLocation} {t : Trace}
    (hrun : Runs (physicalDiskAddress number) t (.ok location)) :
    ∃ handle returned, scsiAddressSize ≤ returned ∧
      t.map Event.lift = addressQuery number location handle returned := by
  obtain ⟨answer, rest, rfl, hrest⟩ := Runs.call_iff.mp hrun
  cases answer with
  | error code => exact absurd (Runs.done_iff.mp hrest).2 fun h => by cases h
  | ok handle =>
    obtain ⟨result, t₁, t₂, hfirst, hsecond, rfl⟩ := Runs.bind_iff.mp hrest
    obtain ⟨rfl, hresult⟩ := Runs.done_iff.mp hsecond
    cases result with
    | error error => cases hresult
    | ok actual =>
      cases hresult
      obtain ⟨returned, hsize, rfl⟩ := scsiLocation_runs hfirst
      exact ⟨handle, returned, hsize, rfl⟩

theorem verifyPhysicalDiskLocation_runs {location : ScsiLocation} {t : Trace}
    (hrun : Runs (verifyPhysicalDiskLocation number location) t (.ok ())) :
    ∃ handle returned, scsiAddressSize ≤ returned ∧
      t.map Event.lift = addressQuery number location handle returned := by
  rcases Runs.tryBind_iff.mp hrun with ⟨error, _, herror⟩ | ⟨actual, t₁, t₂, hfirst, hsecond, rfl⟩
  · cases herror
  · split at hsecond
    · cases hsecond
    · rename_i hsame
      obtain ⟨rfl, _⟩ := Runs.done_iff.mp hsecond
      rw [List.append_nil, ← not_not.mp hsame]
      exact physicalDiskAddress_runs hfirst

/-- A successful check of the address is the last thing that has been asked. -/
theorem verifyPhysicalDiskLocation_setsUp {location : ScsiLocation} (hP : PlainKept P)
    (hE : ∀ t, P t → E t) : SetsUp o E P (verifyPhysicalDiskLocation number location).lift
      fun _ t => P t ∧ JustLocated number location t := by
  intro past t r hpast hrun
  obtain ⟨hgood, hresult⟩ :=
    inquires_setsUp (verifyPhysicalDiskLocation_inquires number location) hP hE past t r hpast hrun
  refine ⟨hgood, hresult.1, fun u hu => ⟨hresult.2 u hu, ?_⟩⟩
  subst hu
  obtain ⟨s, hs, rfl⟩ := Runs.lift_iff.mp hrun
  obtain ⟨handle, returned, hsize, hquery⟩ := verifyPhysicalDiskLocation_runs hs
  rw [hquery]
  exact ⟨handle, returned, hsize, List.suffix_append past _⟩

/-! ## The format -/

/-- What the format needs, apart from the disk being where it was. -/
def ReadyToFormat (o : Creation) (adapter : OpenAdapter) (created : CreatedDisk) (number : ULONG)
    (disk : MsftDisk) (volume : MsftVolume) (h : SetupTrace) : Prop :=
  (Provisioned o adapter created number disk h ∧ Lettered o number disk h) ∧ OnlyVolume o h volume

theorem plainKept_lettered : PlainKept fun h =>
    Provisioned o adapter created number disk h ∧ Lettered o number disk h :=
  plainKept_provisioned.and (PlainKept.lasting (lasting_lettered o number disk))

theorem plainKept_readyToFormat (volume : MsftVolume) :
    PlainKept (ReadyToFormat o adapter created number disk volume) :=
  plainKept_lettered.and (PlainKept.lasting (lasting_onlyVolume volume))

/-- The disk has been set up: it is formatted, under the letter, and nothing else was touched. -/
structure Formatted (o : Creation) (adapter : OpenAdapter) (created : CreatedDisk) (number : ULONG)
    (disk : MsftDisk) (h : SetupTrace) : Prop where
  passed : Passed o adapter created number disk h
  lettered : Lettered o number disk h
  formatted : ∃ volume, OnlyVolume o h volume ∧ Ran h volume.path (.format (formatInput o created))
  quiet : ∀ e ∈ h, ¬ Acts e.call

theorem formatVolume_setsUp (volume : MsftVolume) : SetsUp o (Created o adapter created)
    (fun t => ReadyToFormat o adapter created number disk volume t ∧
      JustLocated number (expectedLocation adapter created) t)
    (StorageWmi.formatVolume volume (volumeLabel o.fileSystem created.deviceId) true true
      o.fileSystem) fun _ => Formatted o adapter created number disk := by
  refine HistoryTriple.call (R := fun answer t =>
    ((Passed o adapter created number disk t ∧ Lettered o number disk t) ∧ OnlyVolume o t volume ∧
      ∀ e ∈ t, ¬ Acts e.call) ∧
    (⟨.inr (.execMethod volume.path (.format (formatInput o created))), answer⟩ : SetupEvent) ∈ t)
    (fun t answer ht => ?_) ?_
  · obtain ⟨⟨⟨hS, hlettered⟩, hvolume⟩, hlocated⟩ := ht
    have hallowed : Allowed o adapter created number disk t
        (.execMethod volume.path (.format (formatInput o created))) :=
      ⟨rfl, hlettered, ⟨volume, hvolume.imp fun _ h => ⟨rfl, h⟩⟩, hlocated⟩
    refine ⟨hS.justified id hallowed answer, ?_, List.mem_append_right t List.mem_cons_self⟩
    refine ⟨⟨lasting_passed _ _ _ _ _ t _ hS.1, lasting_lettered _ _ _ t _ hlettered⟩,
      lasting_onlyVolume volume t _ hvolume, fun e he => ?_⟩
    cases List.mem_append.mp he with
    | inl hmem => exact hS.2.quiet e hmem
    | inr hmem =>
      cases List.mem_singleton.mp hmem
      exact id
  · intro answer
    cases answer with
    | error error => exact fail_setsUp (fun t h => h.1.1.1.allocated) _
    | ok returnValue =>
      by_cases hzero : returnValue = 0
      · subst hzero
        refine HistoryTriple.done fun t h => Outcome.ok ?_
        exact ⟨h.1.1.1, h.1.1.2, ⟨volume, h.1.2.1, h.2⟩, h.1.2.2⟩
      · simp only [checkStorageMethod, if_neg hzero]
        exact fail_setsUp (fun t h => h.1.1.1.allocated) _

theorem formatPartition_setsUp (partition : MsftPartition) (assigned : Bool) :
    SetsUp o (Created o adapter created)
      (fun t => Provisioned o adapter created number disk t ∧
        Prepared o number disk t (partition, assigned))
      (formatPartition number o.storageLetter created.deviceId (expectedLocation adapter created)
        o.fileSystem partition assigned) fun _ => Formatted o adapter created number disk := by
  refine HistoryTriple.tryBind (R := fun _ t => Provisioned o adapter created number disk t ∧
    Lettered o number disk t) ?_ fun _ => ?_
  · refine whenNeeded_setsUp (fun hneeded => ?_) fun hskip t h => ⟨h.1, h.2.1 ?_⟩
    · refine (assignDriveLetter_setsUp partition).weaken (fun t h => ⟨h.1, h.2.2 ?_⟩) fun _ _ h => h
      simpa using hneeded
    · simpa using hskip
  · refine HistoryTriple.tryBind (waitForVolume_setsUp plainKept_lettered
      fun t h => h.1.allocated) fun volume => ?_
    refine HistoryTriple.tryBind (verifyPhysicalDiskLocation_setsUp (plainKept_readyToFormat volume)
      fun t h => h.1.1.allocated) fun _ => formatVolume_setsUp volume

theorem provisionDisk_setsUp (hnumber : disk.number = number) : SetsUp o (Created o adapter created)
    (Provisioned o adapter created number disk)
    (provisionDisk disk number o.storageLetter o.media created.deviceId
      (expectedLocation adapter created) o.fileSystem)
    fun _ => Formatted o adapter created number disk := by
  refine HistoryTriple.tryBind onlineDisk_setsUp fun _ => ?_
  refine HistoryTriple.tryBind setDiskReadOnly_setsUp fun _ => ?_
  refine HistoryTriple.tryBind (preparePartition_setsUp hnumber) fun result => ?_
  exact formatPartition_setsUp result.1 result.2

/-! ## From the number of the disk to the mounted drive -/

/-- The disk has been found at the address of the allocation, and nothing has been touched. -/
def Identified (o : Creation) (adapter : OpenAdapter) (created : CreatedDisk) (number : ULONG)
    (h : SetupTrace) : Prop :=
  (Created o adapter created h ∧ Untouched h) ∧
    Located number (expectedLocation adapter created) h

theorem plainKept_created : PlainKept fun h => Created o adapter created h ∧ Untouched h :=
  (PlainKept.lasting (lasting_created o adapter created)).and plainKept_untouched

theorem plainKept_identified : PlainKept (Identified o adapter created number) :=
  plainKept_created.and (PlainKept.lasting (lasting_located number _))

theorem getDisk_setsUp : SetsUp o (Created o adapter created) (Identified o adapter created number)
    (StorageWmi.getDisk number) fun disk t => (Identified o adapter created number t ∧
      (⟨.inr (.queryDisks number), .ok [disk]⟩ : SetupEvent) ∈ t) ∧ disk.number = number := by
  refine query_setsUp id id id plainKept_identified fun answer => ?_
  have hE : ∀ t, (Identified o adapter created number t ∧
      (⟨.inr (.queryDisks number), answer⟩ : SetupEvent) ∈ t) → Created o adapter created t :=
    fun t h => h.1.1.1
  cases answer with
  | error error => exact fail_setsUp hE _
  | ok disks =>
    cases disks with
    | nil => exact bail_setsUp hE _
    | cons disk rest =>
      cases rest with
      | nil =>
        by_cases hnumber : disk.number = number
        · simp only [ne_eq, hnumber, not_true_eq_false, if_false]
          exact done_setsUp fun t h => ⟨h, hnumber⟩
        · simp only [ne_eq, hnumber, not_false_eq_true, if_true]
          exact bail_setsUp hE _
      | cons second rest => exact bail_setsUp hE _

theorem ensureDriveLetterAvailable_inquires (letter : DriveLetter) :
    Inquires (ensureDriveLetterAvailable letter) := by
  refine only_bind (driveLetterInUse_inquires _) fun used => ?_
  cases used with
  | true => exact bail_inquires _
  | false => exact only_done _

theorem initializeAndFormat_setsUp : SetsUp o (Created o adapter created)
    (Identified o adapter created number)
    (initializeAndFormat number o.letter o.media o.sizeBytes created.deviceId
      (expectedLocation adapter created) o.fileSystem)
    fun _ t => ∃ disk, Formatted o adapter created number disk t := by
  have hensure := ensureDriveLetterAvailable_inquires o.letter
  have hE : ∀ t, Identified o adapter created number t → Created o adapter created t :=
    fun t h => h.1.1
  refine HistoryTriple.tryBind (inquires_setsUp hensure plainKept_identified hE) fun _ => ?_
  refine HistoryTriple.tryBind (R := fun _ => Identified o adapter created number) ?_ fun _ => ?_
  · refine query_setsUp id id id plainKept_identified fun answer => ?_
    cases answer with
    | error error => exact fail_setsUp (fun t h => hE t h.1) _
    | ok _ => exact done_setsUp fun t h => h.1
  · refine HistoryTriple.tryBind getDisk_setsUp fun disk => ?_
    by_cases hboot : (disk.isSystem || disk.isBoot) = true
    · rw [if_pos hboot]
      exact bail_setsUp (fun t h => hE t h.1.1) _
    · by_cases hsize : disk.size ≠ o.sizeBytes
      · rw [if_neg hboot, if_pos hsize]
        exact bail_setsUp (fun t h => hE t h.1.1) _
      · rw [if_neg hboot, if_neg hsize]
        simp only [Bool.or_eq_true, not_or, Bool.not_eq_true] at hboot
        intro past t r hpast hrun
        obtain ⟨⟨⟨⟨hcreated, huntouched⟩, hlocated⟩, hqueried⟩, hnumber⟩ := hpast
        have hpassed : Passed o adapter created number disk past :=
          { allocated := hcreated
            located := hlocated
            queried := hqueried
            numbered := hnumber
            size := not_not.mp hsize
            boot := hboot.2
            system := hboot.1 }
        obtain ⟨hgood, hresult⟩ :=
          provisionDisk_setsUp hnumber past t r ⟨hpassed, huntouched⟩ hrun
        exact ⟨hgood, hresult.1, fun u hu => ⟨disk, hresult.2 u hu⟩⟩

/-- The volume under the drive letter is on the disk, and the disk is at the address: the four calls
that say so. -/
def mountQuery (o : Creation) (number : ULONG) (location : ScsiLocation) (volume handle : Handle)
    (returned size : ℕ) : SetupTrace :=
  [⟨.inl (.createFile (.driveLetter o.letter) .read), .ok volume⟩,
    ⟨.inl (.getDiskExtents volume), .ok (⟨1, number⟩, size)⟩] ++
    addressQuery number location handle returned

/-- The last calls have shown that the drive is mounted from the disk at the address. -/
def JustMounted (o : Creation) (number : ULONG) (location : ScsiLocation) (h : SetupTrace) : Prop :=
  ∃ volume handle returned size, scsiAddressSize ≤ returned ∧ volumeDiskExtentsSize ≤ size ∧
    mountQuery o number location volume handle returned size <:+ h

end Provisioning

end WispDisk.Cli
