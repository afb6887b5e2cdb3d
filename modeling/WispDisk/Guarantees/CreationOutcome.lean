import WispDisk.Guarantees.CreationRollback
import WispDisk.Guarantees.DiskCreation
import WispDisk.Guarantees.DriverInstall

/-! Whole runs of `add_disk`: every change it makes to a disk is justified by what it has found out
before, and it ends with a mounted drive, with nothing created, or with a rollback of what it created. -/
namespace WispDisk.Cli
open Procedures Procedure
set_option autoImplicit false

/-! ## The mounted drive -/

section Mounting

variable {o : Creation} {adapter : OpenAdapter} {created : CreatedDisk} {number : ULONG}
  {P E : SetupTrace → Prop}

theorem diskNumber_runs {volume : Handle} {t : Trace}
    (hrun : Runs (Volume.diskNumber volume) t (.ok number)) :
    ∃ size, volumeDiskExtentsSize ≤ size ∧
      t = [⟨.getDiskExtents volume, .ok (⟨1, number⟩, size)⟩] := by
  obtain ⟨answer, rest, rfl, hrest⟩ := Runs.call_iff.mp hrun
  cases answer with
  | error code => exact absurd (Runs.done_iff.mp hrest).2 fun h => by cases h
  | ok answer =>
    obtain ⟨⟨count, found⟩, size⟩ := answer
    simp only at hrest
    by_cases hsize : size < volumeDiskExtentsSize
    · rw [if_pos hsize] at hrest
      exact absurd (Runs.done_iff.mp hrest).2 fun h => by cases h
    · by_cases hcount : count ≠ 1
      · rw [if_neg hsize, if_pos hcount] at hrest
        exact absurd (Runs.done_iff.mp hrest).2 fun h => by cases h
      · rw [if_neg hsize, if_neg hcount] at hrest
        obtain ⟨rfl, hfound⟩ := Runs.done_iff.mp hrest
        cases hfound
        cases not_not.mp hcount
        exact ⟨size, not_lt.mp hsize, rfl⟩

theorem verifyMountedDrive_runs {location : ScsiLocation} {t : Trace}
    (hrun : Runs (verifyMountedDrive o.letter number location) t (.ok ())) :
    ∃ volume handle returned size, scsiAddressSize ≤ returned ∧ volumeDiskExtentsSize ≤ size ∧
      t.map Event.lift = mountQuery o number location volume handle returned size := by
  obtain ⟨answer, rest, rfl, hrest⟩ := Runs.call_iff.mp hrun
  cases answer with
  | error code => exact absurd (Runs.done_iff.mp hrest).2 fun h => by cases h
  | ok volume =>
    rcases Runs.tryBind_iff.mp hrest with ⟨error, _, herror⟩ | ⟨actual, t₁, t₂, hfirst, hsecond, rfl⟩
    · cases herror
    · by_cases hsame : actual ≠ number
      · rw [if_pos hsame] at hsecond
        exact absurd (Runs.done_iff.mp hsecond).2 fun h => by cases h
      · rw [if_neg hsame] at hsecond
        cases not_not.mp hsame
        obtain ⟨size, hsize, rfl⟩ := diskNumber_runs hfirst
        obtain ⟨handle, returned, hreturned, hquery⟩ := verifyPhysicalDiskLocation_runs hsecond
        refine ⟨volume, handle, returned, size, hreturned, hsize, ?_⟩
        rw [List.map_cons, List.map_append, hquery]
        rfl

theorem verifyMountedDrive_inquires (letter : DriveLetter) (number : ULONG)
    (location : ScsiLocation) : Inquires (verifyMountedDrive letter number location) := by
  refine only_call trivial fun answer => ?_
  cases answer with
  | error code => exact only_done _
  | ok volume =>
    refine only_tryBind (diskNumber_inquires volume) fun actual => ?_
    split
    · exact bail_inquires _
    · exact verifyPhysicalDiskLocation_inquires _ _

theorem confirmMount_inquires (letter : DriveLetter) (number : ULONG) (location : ScsiLocation) :
    Inquires (confirmMount letter number location) :=
  only_tryBind (waitForDriveState_inquires letter true) fun _ => verifyMountedDrive_inquires _ _ _

/-- The last calls of a confirmed mount show the disk at its address. -/
theorem confirmMount_setsUp {location : ScsiLocation} (hP : PlainKept P) (hE : ∀ t, P t → E t) :
    SetsUp o E P (confirmMount o.letter number location).lift
      fun _ t => P t ∧ JustMounted o number location t := by
  intro past t r hpast hrun
  obtain ⟨hgood, hresult⟩ :=
    inquires_setsUp (confirmMount_inquires o.letter number location) hP hE past t r hpast hrun
  refine ⟨hgood, hresult.1, fun u hu => ⟨hresult.2 u hu, ?_⟩⟩
  subst hu
  obtain ⟨s, hs, rfl⟩ := Runs.lift_iff.mp hrun
  rcases Runs.tryBind_iff.mp hs with ⟨error, _, herror⟩ | ⟨_, t₁, t₂, _, hmounted, rfl⟩
  · cases herror
  · obtain ⟨volume, handle, returned, size, hreturned, hsize, hquery⟩ :=
      verifyMountedDrive_runs hmounted
    rw [List.map_append, hquery, ← List.append_assoc]
    exact ⟨volume, handle, returned, size, hreturned, hsize, List.suffix_append _ _⟩

end Mounting

/-! ## The setup of a created disk -/

section Setup

variable {o : Creation} {adapter : OpenAdapter} {created : CreatedDisk} {number : ULONG}
  {disk : MsftDisk}

theorem plainKept_formatted : PlainKept fun h => ∃ disk, Formatted o adapter created number disk h := by
  rintro h e he ⟨disk, hformatted⟩
  refine ⟨disk, lasting_passed _ _ _ _ _ h [e] hformatted.passed,
    lasting_lettered _ _ _ h [e] hformatted.lettered, ?_, ?_⟩
  · obtain ⟨volume, honly, hran⟩ := hformatted.formatted
    exact ⟨volume, lasting_onlyVolume volume h [e] honly, lasting_ran _ _ h [e] hran⟩
  · intro e' he'
    cases List.mem_append.mp he' with
    | inl hmem => exact hformatted.quiet e' hmem
    | inr hmem =>
      cases List.mem_singleton.mp hmem
      exact he.2.2

theorem initializeNumbered_setsUp : SetsUp o (Created o adapter created)
    (fun t => Created o adapter created t ∧ Untouched t)
    (initializeNumbered o.letter o.media o.sizeBytes created.deviceId
      (expectedLocation adapter created) o.fileSystem number)
    fun _ t => (∃ disk, Formatted o adapter created number disk t) ∧
      JustMounted o number (expectedLocation adapter created) t := by
  refine HistoryTriple.tryBind
    (verifyPhysicalDiskLocation_setsUp plainKept_created fun t h => h.1) fun _ => ?_
  have hformat : SetsUp o (Created o adapter created) (Identified o adapter created number)
      (initializeAndFormat number o.letter o.media o.sizeBytes created.deviceId
        (expectedLocation adapter created) o.fileSystem)
      fun _ t => ∃ disk, Formatted o adapter created number disk t := initializeAndFormat_setsUp
  refine HistoryTriple.tryBind
    (hformat.weaken (fun t h => ⟨h.1, h.2.located⟩) fun _ _ h => h) fun _ => ?_
  exact confirmMount_setsUp plainKept_formatted fun t ⟨_, h⟩ => h.passed.allocated

/-- What `initialize_created_disk` has done when it succeeds. -/
def SetUp (o : Creation) (adapter : OpenAdapter) (created : CreatedDisk) (h : SetupTrace) : Prop :=
  ∃ number, (∃ disk, Formatted o adapter created number disk h) ∧
    JustMounted o number (expectedLocation adapter created) h

theorem initializeCreatedDisk_setsUp : SetsUp o (Created o adapter created)
    (fun t => Created o adapter created t ∧ Untouched t)
    (initializeCreatedDisk adapter created o.letter o.media o.sizeBytes o.fileSystem)
    fun _ => SetUp o adapter created := by
  have hensure := ensureDriveLetterAvailable_inquires o.letter
  refine HistoryTriple.tryBind (inquires_setsUp hensure plainKept_created fun t h => h.1) fun _ => ?_
  refine HistoryTriple.tryBind (inquires_setsUp (waitForPhysicalDisk_inquires _) plainKept_created
    fun t h => h.1) fun number => ?_
  exact initializeNumbered_setsUp.weaken (fun _ h => h) fun r t h =>
    ⟨h.1, fun u hu => ⟨number, h.2 u hu⟩⟩

end Setup

/-! ## The rollback -/

section Rollback

variable {o : Creation} {adapter : OpenAdapter} {created : CreatedDisk}

theorem rollsBack_asked {t : Trace} {e : WindowsEvent} (he : e ∈ t)
    (h : t.filter deleteAsked = [] ∨ ∃ answer, t.filter deleteAsked =
      [⟨.deleteById adapter.handle created.adapterInstance created.deviceId, answer⟩]) :
    RollsBack adapter created e.call := by
  by_cases hasked : deleteAsked e = true
  · have hmem : e ∈ t.filter deleteAsked := List.mem_filter.mpr ⟨he, hasked⟩
    rcases h with h | ⟨answer, h⟩
    · rw [h] at hmem
      exact absurd hmem List.not_mem_nil
    · rw [h] at hmem
      cases List.mem_singleton.mp hmem
      exact ⟨rfl, rfl, rfl⟩
  · obtain ⟨c, answer⟩ := e
    cases c with
    | deleteById handle adapterInstance id => exact absurd rfl hasked
    | _ => trivial

theorem deleteAllocation_rollsBack {t : Trace} {result : Except Error Unit} {force : Bool}
    (hrun : Runs (deleteAllocation adapter created.adapterInstance created.deviceId force) t result) :
    ∀ e ∈ t, RollsBack adapter created e.call := fun _ he =>
  rollsBack_asked he ((deleteAllocation_asks hrun).imp And.left fun h => h.imp fun _ h => h.1)

/-- Every driver delete of a rollback names the created disk, and its error says what became of it. -/
theorem rollbackCreatedDisk_runs {setup error : Error} {t : Trace}
    (hrun : Runs (rollbackCreatedDisk adapter created setup) t error) :
    (∀ e ∈ t, RollsBack adapter created e.call) ∧
      ∃ result : Except Error Unit, error = rolledBack created setup result ∧ (result = .ok () →
        (⟨.deleteById adapter.handle created.adapterInstance created.deviceId, .ok ()⟩ :
          WindowsEvent) ∈ t) := by
  obtain ⟨retries, rest, rfl, hrest⟩ := Runs.call_iff.mp hrun
  obtain ⟨result, t₁, t₂, hloop, hdone, rfl⟩ := Runs.bind_iff.mp hrest
  obtain ⟨rfl, rfl⟩ := Runs.done_iff.mp hdone
  rw [List.append_nil]
  obtain ⟨refused, last, rfl, hattempts⟩ := rollbackFrom_runs hloop
  constructor
  · intro e he
    rcases List.mem_cons.mp he with rfl | he
    · trivial
    rcases List.mem_append.mp he with he | he
    · obtain ⟨u, hu, he⟩ := List.mem_flatten.mp he
      obtain ⟨failed, _, hattempt⟩ := hattempts.refusal u hu
      exact deleteAllocation_rollsBack hattempt e he
    · exact deleteAllocation_rollsBack hattempts.final e he
  · refine ⟨result, rfl, fun hok => ?_⟩
    rcases deleteAllocation_asks hattempts.final with ⟨_, hfailed⟩ | ⟨answer, hfilter, hanswer⟩
    · exact absurd hok hfailed
    · rw [hanswer.1 hok] at hfilter
      have hmem : (⟨.deleteById adapter.handle created.adapterInstance created.deviceId, .ok ()⟩ :
          WindowsEvent) ∈ last.filter deleteAsked := hfilter ▸ List.mem_cons_self
      exact List.mem_cons_of_mem _ (List.mem_append_right _ (List.mem_of_mem_filter hmem))

/-- The driver has deleted the created disk again. -/
def Undone (adapter : OpenAdapter) (created : CreatedDisk) (h : SetupTrace) : Prop :=
  (⟨.inl (.deleteById adapter.handle created.adapterInstance created.deviceId), .ok ()⟩ :
    SetupEvent) ∈ h

theorem rollback_setsUp (setup : Error) : HistoryTriple (Justified o) (Created o adapter created)
    (rollbackCreatedDisk adapter created setup).lift fun error t => Created o adapter created t ∧
      ∃ result : Except Error Unit, error = rolledBack created setup result ∧
        (result = .ok () → Undone adapter created t) := by
  intro past t error hpast hrun
  obtain ⟨s, hs, rfl⟩ := Runs.lift_iff.mp hrun
  obtain ⟨hcalls, result, herror, hdeleted⟩ := rollbackCreatedDisk_runs hs
  refine ⟨fun before e after hsplit => ?_, lasting_created o adapter created past _ hpast, result,
    herror, fun hok => ?_⟩
  · have hmem : e ∈ s.map Event.lift := by
      rw [hsplit]
      exact List.mem_append_right _ List.mem_cons_self
    obtain ⟨e', he', rfl⟩ := List.mem_map.mp hmem
    have hcreated := lasting_created o adapter created past before hpast
    refine ⟨fun hno => absurd hno id, (fun c heq => by cases heq), fun c heq _ => ?_⟩
    cases heq
    exact ⟨adapter, created, hcreated, hcalls e' he'⟩
  · exact List.mem_append_right past (List.mem_map_of_mem (hdeleted hok))

end Rollback

/-! ## Before the creation -/

/-- A call that neither creates nor changes a disk, nor acts. -/
def Idle (c : Call ⊕ SetupCall) : Prop := ¬ Creates c ∧ ¬ Mutates c ∧ ¬ Acts c

theorem Idle.plain {c : Call ⊕ SetupCall} (h : Idle c) : Plain c := by
  refine ⟨h.1, fun hformats => h.2.1 ?_, h.2.2⟩
  cases c with
  | inl c => exact hformats
  | inr c =>
    cases c with
    | execMethod path method => trivial
    | _ => exact hformats.elim

theorem idle_lift {α : Type} {p : Windows α} (h : Inquires p) :
    (p.lift : Setup α).Only Idle := only_lift h fun _ hc => ⟨id, id, fun hno => hno hc⟩

/-- A call of the installation with its error's context. -/
theorem idle_win32 {α : Type} {c : SetupCall} {next : SetupAnswer c → FallibleSetup α}
    (hcreates : ¬ c.Creates) (hmutates : ¬ c.Mutates) (hnext : ∀ answer, (next answer).Only Idle) :
    (Procedure.call (.inr c) next : FallibleSetup α).Only Idle :=
  only_call ⟨hcreates, hmutates, id⟩ hnext

theorem Packs.idle {c : Call ⊕ SetupCall} (h : Packs c) : Idle c := by
  cases c with
  | inl c => exact h.elim
  | inr c => cases c <;> first | exact ⟨id, id, id⟩ | exact h.elim

theorem Examines.idle {c : Call ⊕ SetupCall} (h : Examines c) : Idle c := by
  cases c with
  | inl c => exact h.elim
  | inr c => cases c <;> first | exact ⟨id, id, id⟩ | exact h.elim

theorem createIfMissing_idle : CreatedDevice.createIfMissing.Only Idle := by
  refine only_tryBind (only_imp deviceExists_examines fun _ => Examines.idle) fun found => ?_
  cases found with
  | true => exact only_done _
  | false =>
    refine only_tryBind (idle_win32 id id fun _ => only_done _) fun set => ?_
    refine only_tryBind (idle_win32 id id fun _ => only_done _) fun _ => ?_
    refine only_tryBind (idle_win32 id id fun _ => only_done _) fun _ => ?_
    exact only_tryBind (idle_win32 id id fun _ => only_done _) fun _ => only_done _

theorem rollbackBind_idle (device : Option CreatedDevice) (error : Error) :
    (rollbackBind device error).Only Idle := by
  cases device with
  | none => exact only_done _
  | some device =>
    refine only_bind (idle_win32 id id fun _ => only_done _) fun result => ?_
    cases result with
    | error recovery => exact only_done _
    | ok _ => exact only_done _

theorem installEmbeddedDriver_idle (payload : DriverPayload) (programData : Option String) :
    (installEmbeddedDriver payload programData).Only Idle := by
  have hextract := extractEmbedded_packs payload programData
  refine only_tryBind (only_imp hextract fun _ => Packs.idle) fun inf => ?_
  refine only_tryBind (idle_win32 id id fun _ => only_done _) fun _ => ?_
  refine only_tryBind createIfMissing_idle fun device => idle_win32 id id fun answer => ?_
  cases answer with
  | error code => exact rollbackBind_idle _ _
  | ok reboot =>
    simp only
    split
    · exact only_done _
    · exact only_done _

theorem firstAdapter_inquires : Inquires firstAdapter := by
  have hports : ∀ ports, Inquires (firstAdapterFrom ports) := by
    intro ports
    induction ports with
    | nil => exact only_done _
    | cons port ports ih =>
      refine only_bind (adapterAt_inquires port) fun found => ?_
      cases found with
      | none => exact ih
      | some adapter => exact only_done _
  exact hports _

theorem ensureAdapter_idle (payload : DriverPayload) (programData : Option String) :
    (ensureAdapter payload programData).Only Idle := by
  refine only_bind (idle_lift firstAdapter_inquires) fun found => ?_
  cases found with
  | some adapter => exact only_done _
  | none =>
    refine only_tryBind (installEmbeddedDriver_idle payload programData) fun _ => idle_lift ?_
    refine only_call trivial fun retries => ?_
    exact retry_inquires (only_bind firstAdapter_inquires fun _ => only_done _) (only_done _) retries

theorem checkAdapter_inquires (media : MediaKind) (adapter : OpenAdapter) :
    Inquires (checkAdapter media adapter) := by
  refine only_tryBind (queryVersion_inquires adapter) fun version => ?_
  split
  · exact only_done _
  · exact requireRecovery_inquires adapter

/-! ## Whole runs -/

section Runs

variable {o : Creation}

/-- Nothing has been created yet, nor anything touched. -/
def Fresh (h : SetupTrace) : Prop := (∀ e ∈ h, ¬ Creates e.call) ∧ Untouched h

theorem plainKept_fresh : PlainKept Fresh := by
  refine PlainKept.and (fun h e he hnone e' he' => ?_) plainKept_untouched
  cases List.mem_append.mp he' with
  | inl hmem => exact hnone e' hmem
  | inr hmem =>
    cases List.mem_singleton.mp hmem
    exact he.1

theorem Fresh.not_created {h : SetupTrace} (hfresh : Fresh h) (adapter : OpenAdapter)
    (created : CreatedDisk) : ¬ Created o adapter created h :=
  fun hcreated => hfresh.1 _ hcreated trivial

theorem idle_setsUp {α : Type} {p : Setup α} {P : SetupTrace → Prop} (hp : p.Only Idle)
    (hP : PlainKept P) : HistoryTriple (Justified o) P p fun _ => P := by
  refine HistoryTriple.only hp fun t c answer hc ht => ⟨?_, hP t _ hc.plain ht⟩
  refine ⟨fun h => absurd h hc.1, fun c' heq hmutates => ?_, fun c' heq hacts => ?_⟩
  · have heq : c = .inr c' := heq
    subst heq
    exact absurd hmutates hc.2.1
  · have heq : c = .inl c' := heq
    subst heq
    exact absurd hacts hc.2.2

/-- How a run of `add_disk` ends: with the drive mounted, or with no creation answered Ok, either
because none was asked for or with the error of the one that was, or with an error that tells of the
rollback of what was created. -/
def Ended (o : Creation) (result : Except Error Unit) (h : SetupTrace) : Prop :=
  (result = .ok () ∧ ∃ adapter created, SetUp o adapter created h) ∨
  (∃ error, result = .error error ∧ (∀ adapter created, ¬ Created o adapter created h) ∧
    ((∀ e ∈ h, ¬ Creates e.call) ∨ ∃ adapter : OpenAdapter,
      (⟨.inr (.createDisk adapter.handle o.letter o.media o.sizeBytes), .error error⟩ : SetupEvent) ∈
        h)) ∨
  ∃ adapter created setup rollback, Created o adapter created h ∧
    result = .error (rolledBack created setup rollback) ∧
    (rollback = .ok () → Undone adapter created h)

theorem setUpCreated_setsUp (adapter : OpenAdapter) (created : CreatedDisk) :
    HistoryTriple (Justified o) (fun t => Created o adapter created t ∧ Untouched t)
      (setUpCreated adapter created o.letter o.media o.sizeBytes o.fileSystem)
      (Ended o) := by
  refine HistoryTriple.bind initializeCreatedDisk_setsUp fun result => ?_
  cases result with
  | ok _ => exact HistoryTriple.done fun t h => Or.inl ⟨rfl, adapter, created, h.2 () rfl⟩
  | error setup =>
    refine HistoryTriple.bind ((rollback_setsUp setup).weaken (fun t h => h.1 setup rfl)
      fun _ _ h => h) fun error => ?_
    refine HistoryTriple.done fun t h => Or.inr (Or.inr ?_)
    obtain ⟨hcreated, rollback, rfl, hundone⟩ := h
    exact ⟨adapter, created, setup, rollback, hcreated, rfl, hundone⟩

theorem createAndSetUp_setsUp (adapter : OpenAdapter) : HistoryTriple (Justified o) Fresh
    (createAndSetUp o.letter o.media o.sizeBytes o.fileSystem adapter) (Ended o) := by
  refine HistoryTriple.call (R := fun answer t => Untouched t ∧
    (⟨.inr (.createDisk adapter.handle o.letter o.media o.sizeBytes), answer⟩ : SetupEvent) ∈ t ∧
    ∀ e ∈ t, Creates e.call → e = ⟨.inr (.createDisk adapter.handle o.letter o.media o.sizeBytes),
      answer⟩) (fun t answer ht => ?_) fun answer => ?_
  · refine ⟨⟨fun _ => ht.1, (fun c heq hmutates => by cases heq; exact hmutates.elim),
      fun c heq => by cases heq⟩, ⟨?_, ?_⟩, List.mem_append_right t List.mem_cons_self, ?_⟩
    · intro e he
      rcases List.mem_append.mp he with he | he
      · exact ht.2.unformatted e he
      · cases List.mem_singleton.mp he
        exact id
    · intro e he
      rcases List.mem_append.mp he with he | he
      · exact ht.2.quiet e he
      · cases List.mem_singleton.mp he
        exact id
    · intro e he hcreates
      rcases List.mem_append.mp he with he | he
      · exact absurd hcreates (ht.1 e he)
      · exact List.mem_singleton.mp he
  · cases answer with
    | error error =>
      refine HistoryTriple.done fun t h => Or.inr (Or.inl ⟨error, rfl, ?_, Or.inr ⟨adapter, h.2.1⟩⟩)
      intro adapter' created hcreated
      have heq := h.2.2 _ hcreated trivial
      simp at heq
    | ok created =>
      exact (setUpCreated_setsUp adapter created).weaken (fun t h => ⟨h.2.1, h.1⟩) fun _ _ h => h

/-- A step before the creation; if it fails nothing has been created. -/
theorem step_setsUp {α : Type} {p : FallibleSetup α} {f : α → FallibleSetup Unit}
    (hp : HistoryTriple (Justified o) Fresh p fun _ => Fresh)
    (hf : ∀ a, HistoryTriple (Justified o) Fresh (f a) (Ended o)) :
    HistoryTriple (Justified o) Fresh (p.tryBind f) (Ended o) := by
  refine HistoryTriple.bind hp fun r => ?_
  cases r with
  | ok a => exact hf a
  | error error =>
    exact HistoryTriple.done fun t h =>
      Or.inr (Or.inl ⟨error, rfl, h.not_created, Or.inl h.1⟩)

theorem addDisk_setsUp (payload : DriverPayload) (programData : Option String) :
    HistoryTriple (Justified o) Fresh
      (addDisk payload programData o.letter o.media o.sizeBytes o.fileSystem) (Ended o) := by
  have hensure := ensureDriveLetterAvailable_inquires o.letter
  refine step_setsUp (inquiry_setsUp hensure plainKept_fresh) fun _ => ?_
  refine step_setsUp (idle_setsUp (ensureAdapter_idle payload programData) plainKept_fresh)
    fun adapter => ?_
  refine step_setsUp (inquiry_setsUp (checkAdapter_inquires o.media adapter) plainKept_fresh)
    fun _ => ?_
  exact createAndSetUp_setsUp adapter

theorem fresh_nil : Fresh [] :=
  ⟨fun _ he => absurd he List.not_mem_nil, fun _ he => absurd he List.not_mem_nil,
    fun _ he => absurd he List.not_mem_nil⟩

end Runs

/-- However its calls come out, `add_disk` creates at most one disk, changes and formats no disk but
that one, and only after its checks, and has the driver delete none but that one. -/
theorem addDisk_justified (payload : DriverPayload) (programData : Option String)
    (letter : DriveLetter) (media : MediaKind) (sizeBytes : ULONGLONG) (fileSystem : FileSystem)
    (t : SetupTrace) (result : Except Error Unit)
    (h : Runs (addDisk payload programData letter media sizeBytes fileSystem) t result)
    (before after : SetupTrace) (e : SetupEvent) (hsplit : t = before ++ e :: after) :
    Justified ⟨letter, media, sizeBytes, fileSystem⟩ before e :=
  (addDisk_setsUp (o := ⟨letter, media, sizeBytes, fileSystem⟩) payload programData [] t result
    fresh_nil h).1 before e after hsplit

/-- However its calls come out, `add_disk` ends with the drive mounted from the disk it created and
formatted, or with no creation answered Ok, or with an error that tells of the rollback. -/
theorem addDisk_ends (payload : DriverPayload) (programData : Option String)
    (letter : DriveLetter) (media : MediaKind) (sizeBytes : ULONGLONG) (fileSystem : FileSystem)
    (t : SetupTrace) (result : Except Error Unit)
    (h : Runs (addDisk payload programData letter media sizeBytes fileSystem) t result) :
    Ended ⟨letter, media, sizeBytes, fileSystem⟩ result t :=
  (addDisk_setsUp (o := ⟨letter, media, sizeBytes, fileSystem⟩) payload programData [] t result
    fresh_nil h).2

/-! ## A run of each kind -/

theorem letter_R : 65 ≤ 'R'.toNat ∧ 'R'.toNat ≤ 90 := by decide

/-- One mebibyte, FAT, on a fixed disk at `R:`. -/
def smallCreation : Creation := ⟨⟨'R', letter_R⟩, .fixed, 0x100000, .fat⟩

def capableDriver : QueryVersionResponse :=
  { versionMinor := 2, capabilities := 15, maximumDiskCount := 16 }

def emptyPayload : DriverPayload := ⟨[], [], []⟩

def rawDisk : MsftDisk := ⟨"disk", 3, 0x100000, 0, false, false, false, false⟩

def newPartition : MsftPartition := ⟨"partition", 3, 1, some "R", 0, 0x100000, false, false⟩

/-- The disk `PhysicalDrive3` answers with the address of the allocation. -/
def locatedSmall (handle : Handle) : SetupTrace :=
  addressQuery 3 ⟨0, 0, 0, 0⟩ handle 8

/-- The calls up to the created disk and its number. -/
def creating : SetupTrace :=
  [⟨.inl .getLogicalDrives, (4 : ULONG)⟩, ⟨.inl (.createFile (.scsiPort 0) .readWrite), .ok (1 : ℕ)⟩,
    ⟨.inl (.sendQueryVersion 1), .ok capableDriver⟩, ⟨.inl (.sendQueryVersion 1), .ok capableDriver⟩,
    ⟨.inl (.sendQueryVersion 1), .ok capableDriver⟩,
    ⟨.inr (.createDisk 1 ⟨'R', letter_R⟩ .fixed 0x100000), .ok smallDisk⟩,
    ⟨.inl .getLogicalDrives, (4 : ULONG)⟩, ⟨.inl .registerNotification, .ok ()⟩,
    ⟨.inl .retriesLeft, (0 : ℕ)⟩, ⟨.inl .getClassDevs, .ok (1 : ℕ)⟩,
    ⟨.inl (.enumDeviceInterfaces 0), .ok ()⟩, ⟨.inl (.getInterfaceDetail 0), .ok [65]⟩,
    ⟨.inl (.createFile (.path [65]) .none), .ok (2 : ℕ)⟩,
    ⟨.inl (.getScsiAddress 2), .ok (⟨0, 0, 0, 0⟩, 8)⟩,
    ⟨.inl (.getDeviceNumber 2), .ok (⟨7, 3⟩, 12)⟩] ++ locatedSmall 3

/-- The calls of the setup up to the format. -/
def partitioning : SetupTrace :=
  [⟨.inl .getLogicalDrives, (4 : ULONG)⟩, ⟨.inr .connect, .ok ()⟩,
    ⟨.inr (.queryDisks 3), .ok [rawDisk]⟩,
    ⟨.inr (.execMethod "disk" (.initializeDisk 1)), .ok (0 : ULONG)⟩,
    ⟨.inr (.createPartition "disk" ⟨true, 'R', 4⟩), .ok ⟨0, some newPartition⟩⟩,
    ⟨.inl .retriesLeft, (0 : ℕ)⟩, ⟨.inr (.queryVolumes 'R'), .ok [⟨"volume", some "R"⟩]⟩] ++
    locatedSmall 4

def formatting (status : ULONG) : SetupTrace :=
  [⟨.inr (.execMethod "volume" (.format ⟨"FAT", "WD-00000005", false, true⟩)), .ok status⟩]

def mounting : SetupTrace :=
  [⟨.inl .retriesLeft, (0 : ℕ)⟩, ⟨.inl .getLogicalDrives, (0x20004 : ULONG)⟩,
    ⟨.inl (.createFile (.driveLetter ⟨'R', letter_R⟩) .read), .ok (5 : ℕ)⟩,
    ⟨.inl (.getDiskExtents 5), .ok (⟨1, 3⟩, 32)⟩] ++ locatedSmall 6

theorem mounted_runs : Runs (addDisk emptyPayload none ⟨'R', letter_R⟩ .fixed 0x100000 .fat)
    (creating ++ partitioning ++ formatting 0 ++ mounting) (.ok ()) := Runs.of_replay (by rfl)

/-- The format of a run is justified by the calls before it. -/
theorem mounted_format_justified : Justified smallCreation (creating ++ partitioning)
    ⟨.inr (.execMethod "volume" (.format ⟨"FAT", "WD-00000005", false, true⟩)), .ok (0 : ULONG)⟩ :=
  addDisk_justified _ _ _ _ _ _ _ _ mounted_runs _ mounting _ (by rfl)

set_option maxRecDepth 4000 in
/-- The format fails, and the created disk is deleted again. -/
theorem unformatted_runs : Runs (addDisk emptyPayload none ⟨'R', letter_R⟩ .fixed 0x100000 .fat)
    (creating ++ partitioning ++ formatting 43002 ++ refusedOnce.map Event.lift)
    (.error (rolledBack smallDisk (.message ("format the WispDisk volume as FAT: Windows " ++
      "Storage WMI returned 43002 (quick format unavailable)")) (.ok ()))) :=
  Runs.of_replay (by rfl)

theorem small_creation_ends :
    Ended smallCreation (.ok ()) (creating ++ partitioning ++ formatting 0 ++ mounting) ∧
    Ended smallCreation (.error (rolledBack smallDisk (.message
        ("format the WispDisk volume as FAT: Windows Storage WMI returned 43002 " ++
          "(quick format unavailable)")) (.ok ())))
      (creating ++ partitioning ++ formatting 43002 ++ refusedOnce.map Event.lift) :=
  ⟨addDisk_ends _ _ _ _ _ _ _ _ mounted_runs, addDisk_ends _ _ _ _ _ _ _ _ unformatted_runs⟩

end WispDisk.Cli
