import WispDisk.Guarantees.CreationOutcome
import WispDisk.Guarantees.Listing

/-! An unresolved outcome reaches the exit status. Whatever command is run and however its other calls
come out, when the driver's answer to a create or a delete leaves its outcome unresolved, the command
ends with an error that is reported as such: no later step and no rollback hides it. -/
namespace WispDisk.Cli
open Procedures Procedure
set_option autoImplicit false

/-! ## Unresolved answers -/

/-- The outcome of a driver delete stays unresolved. -/
def deleteUnknown : WindowsEvent → Bool
  | ⟨.deleteById _ _ _, .error error⟩ => error.unresolved?.isSome
  | _ => false

/-- The outcome of a driver create or delete stays unresolved. -/
def outcomeUnknown : SetupEvent → Bool
  | ⟨.inl c, answer⟩ => deleteUnknown ⟨c, answer⟩
  | ⟨.inr (.createDisk _ _ _ _), .error error⟩ => error.unresolved?.isSome
  | _ => false

/-- No error of the driver's delete in a setup is a refused lock. -/
def NoRefusedDelete (t : SetupTrace) : Prop :=
  ∀ adapter adapterInstance id error,
    (⟨.inl (.deleteById adapter adapterInstance id), .error error⟩ : SetupEvent) ∈ t →
      isVolumeLockFailure error = false

theorem deleteUnknown_asked {e : WindowsEvent} (h : deleteUnknown e = true) :
    deleteAsked e = true := by
  obtain ⟨c, answer⟩ := e
  cases c <;> first | rfl | exact absurd h Bool.false_ne_true

theorem inquiry_not_unknown {e : WindowsEvent} (h : e.call.Inquiry) : deleteUnknown e = false := by
  by_contra hunknown
  have hasked := deleteUnknown_asked (Bool.eq_true_of_not_eq_false hunknown)
  rw [(inquiry_quiet h).2.2] at hasked
  exact Bool.false_ne_true hasked

/-- A call that asks the driver for no change. -/
def SparesDriver (c : Call ⊕ SetupCall) : Prop := ¬ Creates c ∧ ¬ Acts c

theorem spares_not_unknown {e : SetupEvent} (h : SparesDriver e.call) :
    outcomeUnknown e = false := by
  obtain ⟨c, answer⟩ := e
  cases c with
  | inl c => exact inquiry_not_unknown (e := ⟨c, answer⟩) (not_not.mp h.2)
  | inr c => cases c <;> first | rfl | exact absurd trivial h.1

/-! ## Deletions -/

/-- An unresolved answer comes out of a procedure as its error. -/
def PassesOn (p : Fallible Unit) : Prop :=
  ∀ t result, Runs p t result → (∃ e ∈ t, deleteUnknown e = true) →
    ∃ error, result = .error error ∧ error.unresolved?.isSome = true

theorem inquiries_known {t : Trace} (h : ∀ e ∈ t, e.call.Inquiry) :
    ¬ ∃ e ∈ t, deleteUnknown e = true := by
  rintro ⟨e, he, hunknown⟩
  rw [inquiry_not_unknown (h e he)] at hunknown
  exact Bool.false_ne_true hunknown

theorem deleteAllocation_passesOn (adapter : OpenAdapter) (adapterInstance : ULONGLONG) (id : ULONG)
    (force : Bool) : PassesOn (deleteAllocation adapter adapterInstance id force) := by
  rintro t result hrun ⟨e, he, hunknown⟩
  have hmem : e ∈ t.filter deleteAsked := List.mem_filter.mpr ⟨he, deleteUnknown_asked hunknown⟩
  rcases deleteAllocation_asks hrun with ⟨hnone, _⟩ | ⟨answer, hfilter, _, hpassed⟩
  · rw [hnone] at hmem
    exact absurd hmem List.not_mem_nil
  · rw [hfilter] at hmem
    cases List.mem_singleton.mp hmem
    cases answer with
    | ok _ => exact absurd hunknown Bool.false_ne_true
    | error error => exact hpassed error rfl hunknown

theorem PassesOn.after {α : Type} {p : Fallible α} {f : α → Fallible Unit} (hp : Inquires p)
    (hf : ∀ a, PassesOn (f a)) : PassesOn (p.tryBind f) := by
  rintro t result hrun hunknown
  rcases Runs.tryBind_iff.mp hrun with ⟨error, hfirst, rfl⟩ | ⟨a, t₁, t₂, hfirst, hsecond, rfl⟩
  · exact absurd hunknown (inquiries_known (hfirst.only hp))
  · obtain ⟨e, he, hevent⟩ := hunknown
    refine hf a t₂ result hsecond ⟨e, ?_, hevent⟩
    refine (List.mem_append.mp he).resolve_left fun hmem => ?_
    exact inquiries_known (hfirst.only hp) ⟨e, hmem, hevent⟩

theorem PassesOn.before {p : Fallible Unit} {f : Unit → Fallible Unit} (hp : PassesOn p)
    (hf : ∀ a, Inquires (f a)) : PassesOn (p.tryBind f) := by
  rintro t result hrun ⟨e, he, hevent⟩
  rcases Runs.tryBind_iff.mp hrun with ⟨error, hfirst, rfl⟩ | ⟨a, t₁, t₂, hfirst, hsecond, rfl⟩
  · obtain ⟨final, heq, hunresolved⟩ := hp t _ hfirst ⟨e, he, hevent⟩
    cases heq
    exact ⟨_, rfl, hunresolved⟩
  · rcases List.mem_append.mp he with he | he
    · obtain ⟨_, heq, _⟩ := hp t₁ _ hfirst ⟨e, he, hevent⟩
      cases heq
    · exact absurd ⟨e, he, hevent⟩ (inquiries_known (hsecond.only (hf a)))

theorem PassesOn.of_inquires {p : Fallible Unit} (hp : Inquires p) : PassesOn p :=
  fun _ _ hrun hunknown => absurd hunknown (inquiries_known (hrun.only hp))

theorem deleteByIdentity_passesOn (adapterInstance : ULONGLONG) (id : ULONG) (force : Bool) :
    PassesOn (deleteByIdentity adapterInstance id force) := by
  refine PassesOn.after (forAdapters_inquires _ fun matched adapter => ?_) fun matched => ?_
  · refine only_tryBind (requireRecovery_inquires adapter) fun _ => ?_
    refine only_tryBind (state_inquires adapter) fun state => ?_
    split
    · exact only_done _
    · split
      · exact bail_inquires _
      · exact only_done _
  · cases matched with
    | none => exact PassesOn.of_inquires (bail_inquires _)
    | some adapter => exact deleteAllocation_passesOn adapter adapterInstance id force

theorem deleteDisk_passesOn (letter : DriveLetter) (force : Bool) :
    PassesOn (deleteDisk letter force) := by
  refine PassesOn.after (letterAddress_inquires letter) fun address => ?_
  refine PassesOn.after (allocationAt_inquires letter address) fun found => ?_
  cases found with
  | none => exact PassesOn.of_inquires (bail_inquires _)
  | some allocation =>
    obtain ⟨adapterInstance, id⟩ := allocation
    exact (deleteByIdentity_passesOn adapterInstance id force).before fun _ =>
      waitForDriveState_inquires letter false

/-! ## The setup of a created disk -/

theorem Idle.spares {c : Call ⊕ SetupCall} (h : Idle c) : SparesDriver c := ⟨h.1, h.2.2⟩

theorem lift_spares {α : Type} {p : Windows α} (h : Inquires p) :
    (p.lift : Setup α).Only SparesDriver := only_imp (idle_lift h) fun _ => Idle.spares

theorem execMethod_spares (path : String) (method : StorageMethod) (operation : String) :
    (StorageWmi.execMethod path method operation).Only SparesDriver := by
  refine only_call ⟨id, id⟩ fun answer => ?_
  cases answer with
  | error error => exact only_done _
  | ok returnValue => exact only_done _

theorem bailSetup_spares {α : Type} (text : String) :
    (bailSetup text : FallibleSetup α).Only SparesDriver := only_done _

theorem whenNeeded_spares (needed : Bool) {step : FallibleSetup Unit}
    (h : step.Only SparesDriver) : (whenNeeded needed step).Only SparesDriver := by
  cases needed with
  | true => exact h
  | false => exact only_done _

theorem getDisk_spares (number : ULONG) : (StorageWmi.getDisk number).Only SparesDriver := by
  refine only_call ⟨id, id⟩ fun answer => ?_
  split
  · exact only_done _
  · split
    · exact bailSetup_spares _
    · exact only_done _
  · exact bailSetup_spares _

theorem createMaxPartition_spares (disk : MsftDisk) (letter : Char) (fileSystem : FileSystem) :
    (StorageWmi.createMaxPartition disk letter fileSystem).Only SparesDriver := by
  refine only_call ⟨id, id⟩ fun answer => ?_
  cases answer with
  | error error => exact only_done _
  | ok output =>
    simp only
    split
    · exact only_done _
    · split
      · exact bailSetup_spares _
      · exact only_done _

theorem getOrCreateRemovablePartition_spares (disk : MsftDisk) (letter : Char)
    (fileSystem : FileSystem) :
    (StorageWmi.getOrCreateRemovablePartition disk letter fileSystem).Only SparesDriver := by
  refine only_tryBind (only_call ⟨id, id⟩ fun answer => ?_) fun partitions => ?_
  · cases answer with
    | error error => exact only_done _
    | ok partitions =>
      simp only
      split
      · exact bailSetup_spares _
      · exact only_done _
  · split
    · exact only_tryBind (createMaxPartition_spares disk letter fileSystem) fun _ => only_done _
    · split
      · exact only_done _
      · exact only_done _
    · exact bailSetup_spares _

theorem preparePartition_spares (disk : MsftDisk) (letter : Char) (media : MediaKind)
    (fileSystem : FileSystem) :
    (preparePartition disk letter media fileSystem).Only SparesDriver := by
  unfold preparePartition StorageWmi.initializeMbr
  split
  · refine only_tryBind ?_ fun _ => ?_
    · split
      · exact bailSetup_spares _
      · exact execMethod_spares _ _ _
    · exact only_tryBind (createMaxPartition_spares disk letter fileSystem) fun _ => only_done _
  · split
    · exact getOrCreateRemovablePartition_spares disk letter fileSystem
    · exact bailSetup_spares _

theorem assignDriveLetter_spares (partition : MsftPartition) (letter : Char) :
    (StorageWmi.assignDriveLetter partition letter).Only SparesDriver := by
  unfold StorageWmi.assignDriveLetter
  split
  · exact execMethod_spares _ _ _
  · split
    · exact only_done _
    · exact only_tryBind (execMethod_spares _ _ _) fun _ => execMethod_spares _ _ _

theorem waitForVolume_spares (letter : Char) :
    (StorageWmi.waitForVolume letter).Only SparesDriver := by
  refine only_call ⟨id, fun hacts => hacts trivial⟩ fun retries => ?_
  induction retries with
  | zero =>
    refine only_call ⟨id, id⟩ fun answer => ?_
    cases answer with
    | error error => exact only_done _
    | ok volumes =>
      simp only
      split
      · exact bailSetup_spares _
      · exact only_done _
      · exact bailSetup_spares _
  | succ retries ih =>
    refine only_call ⟨id, id⟩ fun answer => ?_
    cases answer with
    | error error => exact only_done _
    | ok volumes =>
      simp only
      split
      · exact ih
      · exact only_done _
      · exact bailSetup_spares _

theorem formatPartition_spares (number : ULONG) (letter : Char) (deviceId : ULONG)
    (location : ScsiLocation) (fileSystem : FileSystem) (partition : MsftPartition)
    (assigned : Bool) : (formatPartition number letter deviceId location fileSystem partition
      assigned).Only SparesDriver := by
  refine only_tryBind (whenNeeded_spares _ (assignDriveLetter_spares partition letter)) fun _ => ?_
  refine only_tryBind (waitForVolume_spares letter) fun volume => ?_
  refine only_tryBind (lift_spares (verifyPhysicalDiskLocation_inquires number location)) fun _ => ?_
  exact execMethod_spares _ _ _

theorem initializeAndFormat_spares (number : ULONG) (letter : DriveLetter) (media : MediaKind)
    (size : ULONGLONG) (deviceId : ULONG) (location : ScsiLocation) (fileSystem : FileSystem) :
    (initializeAndFormat number letter media size deviceId location fileSystem).Only
      SparesDriver := by
  refine only_tryBind (lift_spares (ensureDriveLetterAvailable_inquires letter)) fun _ => ?_
  refine only_tryBind (only_call ⟨id, id⟩ fun _ => only_done _) fun _ => ?_
  refine only_tryBind (getDisk_spares number) fun disk => ?_
  split
  · exact bailSetup_spares _
  · split
    · exact bailSetup_spares _
    · refine only_tryBind (whenNeeded_spares _ (execMethod_spares _ _ _)) fun _ => ?_
      refine only_tryBind (whenNeeded_spares _ (execMethod_spares _ _ _)) fun _ => ?_
      refine only_tryBind (preparePartition_spares disk _ media fileSystem) fun prepared => ?_
      obtain ⟨partition, assigned⟩ := prepared
      exact formatPartition_spares _ _ _ _ _ _ _

theorem initializeCreatedDisk_spares (adapter : OpenAdapter) (created : CreatedDisk)
    (letter : DriveLetter) (media : MediaKind) (size : ULONGLONG) (fileSystem : FileSystem) :
    (initializeCreatedDisk adapter created letter media size fileSystem).Only SparesDriver := by
  refine only_tryBind (lift_spares (ensureDriveLetterAvailable_inquires letter)) fun _ => ?_
  refine only_tryBind (lift_spares (waitForPhysicalDisk_inquires _)) fun number => ?_
  refine only_tryBind (lift_spares (verifyPhysicalDiskLocation_inquires number _)) fun _ => ?_
  refine only_tryBind (initializeAndFormat_spares number letter media size _ _ fileSystem) fun _ => ?_
  exact lift_spares (confirmMount_inquires letter number _)

/-! ## Exit statuses -/

/-- In every run an unresolved answer becomes the exit status of an unresolved outcome. -/
def ExitsUnresolved (p : FallibleSetup Unit) : Prop :=
  ∀ t result, Runs p t result → NoRefusedDelete t → (∃ e ∈ t, outcomeUnknown e = true) →
    ∃ error, result = .error error ∧ errorExitCode error = 3

theorem isUnresolved_of_unresolved {error : Error} (h : error.unresolved?.isSome = true) :
    error.isUnresolved = true := by
  rw [Error.isUnresolved, h, Bool.true_or]

theorem exitCode_unresolved {error : Error} (h : error.unresolved?.isSome = true) :
    errorExitCode error = 3 := by
  rw [errorExitCode, isUnresolved_of_unresolved h]
  rfl

theorem PassesOn.exits {p : Fallible Unit} (h : PassesOn p) : ExitsUnresolved p.lift := by
  rintro t result hrun _ ⟨e, he, hunknown⟩
  obtain ⟨s, hs, rfl⟩ := Runs.lift_iff.mp hrun
  obtain ⟨e', he', rfl⟩ := List.mem_map.mp he
  obtain ⟨error, heq, hunresolved⟩ := h s result hs ⟨e', he', hunknown⟩
  exact ⟨error, heq, exitCode_unresolved hunresolved⟩

theorem spared_known {t : SetupTrace} (h : ∀ e ∈ t, SparesDriver e.call) {e : SetupEvent}
    (he : e ∈ t) (hunknown : outcomeUnknown e = true) : False := by
  rw [spares_not_unknown (h e he)] at hunknown
  exact Bool.false_ne_true hunknown

theorem ExitsUnresolved.after {α : Type} {p : FallibleSetup α} {f : α → FallibleSetup Unit}
    (hp : p.Only SparesDriver) (hf : ∀ a, ExitsUnresolved (f a)) :
    ExitsUnresolved (p.tryBind f) := by
  rintro t result hrun hdeletes ⟨e, he, hunknown⟩
  rcases Runs.tryBind_iff.mp hrun with ⟨error, hfirst, rfl⟩ | ⟨a, t₁, t₂, hfirst, hsecond, rfl⟩
  · exact (spared_known (hfirst.only hp) he hunknown).elim
  · have hsecondDeletes : NoRefusedDelete t₂ := fun adapter adapterInstance id error hmem =>
      hdeletes adapter adapterInstance id error (List.mem_append_right _ hmem)
    refine hf a t₂ result hsecond hsecondDeletes ⟨e, ?_, hunknown⟩
    exact (List.mem_append.mp he).resolve_left fun hmem =>
      spared_known (hfirst.only hp) hmem hunknown

theorem rollbackCreatedDisk_exits {adapter : OpenAdapter} {created : CreatedDisk}
    {setup error : Error} {t : Trace}
    (hrun : Runs (rollbackCreatedDisk adapter created setup) t error)
    (hforeign : NoForeignRefusal t) (hunknown : ∃ e ∈ t, deleteUnknown e = true) :
    errorExitCode error = 3 := by
  obtain ⟨e, he, hunknown⟩ := hunknown
  obtain ⟨retries, rest, rfl, hrest⟩ := Runs.call_iff.mp hrun
  obtain ⟨result, t₁, t₂, hloop, hdone, rfl⟩ := Runs.bind_iff.mp hrest
  obtain ⟨rfl, rfl⟩ := Runs.done_iff.mp hdone
  obtain ⟨refused, last, rfl, hattempts⟩ := rollbackFrom_runs hloop
  rw [List.append_nil] at he hforeign
  have hharmless := hattempts.harmless fun a i d error hmem =>
    hforeign a i d error (List.mem_cons_of_mem _ (List.mem_append_left _ hmem))
  rcases List.mem_cons.mp he with rfl | he
  · exact absurd hunknown Bool.false_ne_true
  rcases List.mem_append.mp he with he | he
  · obtain ⟨u, hu, he⟩ := List.mem_flatten.mp he
    have hasked := deleteUnknown_asked hunknown
    rw [harmless_not_asked (hharmless u hu e he)] at hasked
    exact absurd hasked Bool.false_ne_true
  · obtain ⟨final, rfl, hunresolved⟩ :=
      deleteAllocation_passesOn _ _ _ _ last result hattempts.final ⟨e, he, hunknown⟩
    exact rolledBack_unresolved _ _ _ (isUnresolved_of_unresolved hunresolved)

theorem setUpCreated_exits (adapter : OpenAdapter) (created : CreatedDisk) (letter : DriveLetter)
    (media : MediaKind) (size : ULONGLONG) (fileSystem : FileSystem) :
    ExitsUnresolved (setUpCreated adapter created letter media size fileSystem) := by
  rintro t result hrun hdeletes ⟨e, he, hunknown⟩
  obtain ⟨r, t₁, t₂, hsetup, hrest, rfl⟩ := Runs.bind_iff.mp hrun
  have hspared := hsetup.only
    (initializeCreatedDisk_spares adapter created letter media size fileSystem)
  have hlater := (List.mem_append.mp he).resolve_left fun hmem => spared_known hspared hmem hunknown
  cases r with
  | ok _ =>
    obtain ⟨rfl, _⟩ := Runs.done_iff.mp hrest
    exact absurd hlater List.not_mem_nil
  | error setup =>
    obtain ⟨error, t₃, t₄, hrollback, hdone, rfl⟩ := Runs.bind_iff.mp hrest
    obtain ⟨rfl, rfl⟩ := Runs.done_iff.mp hdone
    obtain ⟨s, hs, rfl⟩ := Runs.lift_iff.mp hrollback
    rw [List.append_nil] at hlater hdeletes
    obtain ⟨e', he', rfl⟩ := List.mem_map.mp hlater
    refine ⟨error, rfl, rollbackCreatedDisk_exits hs (fun a i d failed hmem => ?_)
      ⟨e', he', hunknown⟩⟩
    exact hdeletes a i d failed
      (List.mem_append_right _ (List.mem_map_of_mem (f := Event.lift) hmem))

theorem createAndSetUp_exits (letter : DriveLetter) (media : MediaKind) (size : ULONGLONG)
    (fileSystem : FileSystem) (adapter : OpenAdapter) :
    ExitsUnresolved (createAndSetUp letter media size fileSystem adapter) := by
  rintro t result hrun hdeletes ⟨e, he, hunknown⟩
  obtain ⟨answer, rest, rfl, hrest⟩ := Runs.call_iff.mp hrun
  cases answer with
  | error error =>
    obtain ⟨rfl, rfl⟩ := Runs.done_iff.mp hrest
    cases List.mem_singleton.mp he
    exact ⟨error, rfl, exitCode_unresolved hunknown⟩
  | ok created =>
    rcases List.mem_cons.mp he with rfl | he
    · exact absurd hunknown Bool.false_ne_true
    · exact setUpCreated_exits adapter created letter media size fileSystem rest result hrest
        (fun a i d error hmem => hdeletes a i d error (List.mem_cons_of_mem _ hmem))
        ⟨e, he, hunknown⟩

theorem addDisk_exits (payload : DriverPayload) (programData : Option String) (letter : DriveLetter)
    (media : MediaKind) (size : ULONGLONG) (fileSystem : FileSystem) :
    ExitsUnresolved (addDisk payload programData letter media size fileSystem) := by
  have hadapter := ensureAdapter_idle payload programData
  refine ExitsUnresolved.after (lift_spares (ensureDriveLetterAvailable_inquires letter))
    fun _ => ?_
  refine ExitsUnresolved.after (only_imp hadapter fun _ => Idle.spares) fun adapter => ?_
  refine ExitsUnresolved.after (lift_spares (checkAdapter_inquires media adapter)) fun _ => ?_
  exact createAndSetUp_exits letter media size fileSystem adapter

/-- An unresolved outcome of a driver mutation is never lost: whatever the command, and whatever fails
after it, the program exits with status three. -/
theorem execute_exits (payload : DriverPayload) (programData : Option String) (command : Command)
    (t : SetupTrace) (result : Except Error Unit)
    (hrun : Runs (execute payload programData command) t result) (hdeletes : NoRefusedDelete t)
    (hunknown : ∃ e ∈ t, outcomeUnknown e = true) :
    ∃ error, result = .error error ∧ errorExitCode error = 3 := by
  cases command with
  | add letter media size fileSystem =>
    exact addDisk_exits payload programData letter media size fileSystem t result hrun hdeletes
      hunknown
  | delete letter force =>
    exact (deleteDisk_passesOn letter force).exits t result hrun hdeletes hunknown
  | deleteId adapter id force =>
    exact (deleteByIdentity_passesOn adapter id force).exits t result hrun hdeletes hunknown
  | list json =>
    have hinquires := only_tryBind collectInventory_inquires fun _ =>
      only_done (P := Call.Inquiry) (Except.ok () : Except Error Unit)
    exact (PassesOn.of_inquires hinquires).exits t result hrun hdeletes hunknown

/-- The format fails, and the transport of the rollback's delete with it. -/
def lostRollback : SetupTrace :=
  creating ++ partitioning ++ formatting 43002 ++
    (⟨.retriesLeft, (0 : ℕ)⟩ :: (findingVolume ++ [⟨.lockVolume 4, .ok ()⟩,
      ⟨.dismountVolume 4, .ok ()⟩, ⟨.deleteById 1 7 5, .error (.unresolvedOutcome ⟨7, 9⟩
        (.message "delete transport unavailable"))⟩]) : Trace).map Event.lift

set_option maxRecDepth 4000 in
theorem lostRollback_runs : Runs (execute emptyPayload none
    (.add ⟨'R', letter_R⟩ .fixed 0x100000 .fat)) lostRollback
    (.error (rolledBack smallDisk (.message ("format the WispDisk volume as FAT: Windows " ++
      "Storage WMI returned 43002 (quick format unavailable)"))
      (.error (.context ("device " ++ toString (5 : ULONG) ++ " removal is not confirmed; " ++
        "inspect /list /json before retrying") (.unresolvedOutcome ⟨7, 9⟩
          (.message "delete transport unavailable")))))) := Runs.of_replay (by rfl)

theorem lostRollback_exits :
    ∃ error, (.error (rolledBack smallDisk (.message ("format the WispDisk volume as FAT: " ++
      "Windows Storage WMI returned 43002 (quick format unavailable)"))
      (.error (.context ("device " ++ toString (5 : ULONG) ++ " removal is not confirmed; " ++
        "inspect /list /json before retrying") (.unresolvedOutcome ⟨7, 9⟩
          (.message "delete transport unavailable"))))) : Except Error Unit) = .error error ∧
      errorExitCode error = 3 := by
  refine execute_exits _ _ _ _ _ lostRollback_runs (fun adapter adapterInstance id error hmem => ?_)
    ⟨_, List.mem_append_right _ (List.mem_map_of_mem (List.mem_cons_of_mem _
      (List.mem_append_right _ (List.mem_cons_of_mem _ (List.mem_cons_of_mem _
        List.mem_cons_self))))), rfl⟩
  simp [lostRollback, creating, partitioning, formatting, findingVolume, locatedSmall,
    addressQuery, Event.lift] at hmem
  obtain ⟨-, -, -, rfl⟩ := hmem
  rfl

end WispDisk.Cli
