import WispDisk.Cli.Creation
import WispDisk.Guarantees.VolumePreparation

/-! The rollback of `add_disk`. It tries the deletion again only after a refusal to lock a volume, and
an attempt that is refused so has done nothing but take locks: it has dismounted nothing, removed no
mount point and not asked the driver. -/
namespace WispDisk.Cli
open Procedures
set_option autoImplicit false

/-- A call that leaves volumes and allocations as they are, apart from locks. -/
def Call.Harmless (c : Call) : Prop := c.Inquiry ∨ ∃ handle, c = .lockVolume handle

/-- No error of the driver's delete is a refused lock. -/
def NoForeignRefusal (t : Trace) : Prop :=
  ∀ adapter adapterInstance id error,
    (⟨.deleteById adapter adapterInstance id, .error error⟩ : WindowsEvent) ∈ t →
      isVolumeLockFailure error = false

/-! ## Errors -/

theorem restoredError_lock (error : Error) (text : String) (restored : Except Error Unit) :
    isVolumeLockFailure (restoredError error error text restored) = isVolumeLockFailure error := by
  cases restored with
  | error restore => rfl
  | ok _ => rfl

/-- A deletion is rejected with the driver's error inside. -/
theorem restoredRejection_lock (error : Error) (context text : String)
    (restored : Except Error Unit) :
    isVolumeLockFailure (restoredError error (.context context error) text restored) =
      isVolumeLockFailure error := by
  cases restored with
  | error restore => rfl
  | ok _ => rfl

theorem tryFold_dismount_lock {volumes : List Volume} {t : Trace} {error : Error}
    (hrun : Runs (Procedure.tryFold (fun () volume => Volume.dismount volume) () volumes) t
      (.error error)) : isVolumeLockFailure error = false := by
  induction volumes generalizing t with
  | nil => exact absurd (Runs.done_iff.mp hrun).2 fun h => by cases h
  | cons volume volumes ih =>
    obtain ⟨r, t₁, t₂, hfirst, hrest, rfl⟩ := Runs.bind_iff.mp hrun
    obtain ⟨answer, t₃, rfl, hanswer⟩ := Runs.call_iff.mp hfirst
    obtain ⟨rfl, rfl⟩ := Runs.done_iff.mp hanswer
    cases answer with
    | error code =>
      obtain ⟨_, herror⟩ := Runs.done_iff.mp hrest
      cases herror
      rfl
    | ok _ => exact ih hrest

theorem removeMountsFrom_lock {points : List WideString} {volume volume' : Volume} {t : Trace}
    {error : Error} (hrun : Runs (Volume.removeMountsFrom points volume) t (.error error, volume')) :
    isVolumeLockFailure error = false := by
  induction points generalizing volume t with
  | nil => exact absurd (Runs.done_iff.mp hrun).2 fun h => by cases h
  | cons point points ih =>
    obtain ⟨answer, rest, rfl, hrest⟩ := Runs.call_iff.mp hrun
    cases answer with
    | error code =>
      obtain ⟨_, herror⟩ := Runs.done_iff.mp hrest
      cases herror
      rfl
    | ok _ => exact ih hrest

/-- The error of a method applied to each volume is the error of one of them. -/
theorem eachVolume_lock_free {method : Volume → Updates Volume}
    (hmethod : ∀ volume volume' t error, Runs (method volume) t (.error error, volume') →
      isVolumeLockFailure error = false) {volumes updated : List Volume} {t : Trace} {error : Error}
    (hrun : Runs (eachVolume method volumes) t (.error error, updated)) :
    isVolumeLockFailure error = false := by
  induction volumes generalizing t updated with
  | nil => exact absurd (Runs.done_iff.mp hrun).2 fun h => by cases h
  | cons volume volumes ih =>
    obtain ⟨⟨r, volume'⟩, t₁, t₂, hfirst, hrest, rfl⟩ := Runs.bind_iff.mp hrun
    cases r with
    | error failed =>
      obtain ⟨_, herror⟩ := Runs.done_iff.mp hrest
      cases herror
      exact hmethod _ _ _ _ hfirst
    | ok _ =>
      obtain ⟨⟨r, volumes'⟩, t₃, t₄, hothers, hdone, rfl⟩ := Runs.bind_iff.mp hrest
      obtain ⟨_, herror⟩ := Runs.done_iff.mp hdone
      cases herror
      exact ih hothers

/-- Waiting for the disk to go fails with a message alone. -/
theorem retry_absent_lock {number : ULONG} {location : ScsiLocation} {text : String} {retries : ℕ}
    {t : Trace} {error : Error}
    (hrun : Runs (retry ((physicalDiskAddress number).bind fun address =>
      .done (.ok (if address.toOption ≠ some location then some () else none))) text
        (.done (.ok ())) retries) t (.error error)) : isVolumeLockFailure error = false := by
  induction retries generalizing t with
  | zero =>
    rcases Runs.tryBind_iff.mp hrun with ⟨e, hfirst, _⟩ | ⟨found, t₁, t₂, _, hsecond, rfl⟩
    · obtain ⟨r, t₁, t₂, _, hdone, rfl⟩ := Runs.bind_iff.mp hfirst
      exact absurd (Runs.done_iff.mp hdone).2 fun h => by cases h
    · cases found with
      | none =>
        obtain ⟨_, herror⟩ := Runs.done_iff.mp hsecond
        cases herror
        rfl
      | some u => exact absurd (Runs.done_iff.mp hsecond).2 fun h => by cases h
  | succ retries ih =>
    rcases Runs.tryBind_iff.mp hrun with ⟨e, hfirst, _⟩ | ⟨found, t₁, t₂, _, hsecond, rfl⟩
    · obtain ⟨r, t₁, t₂, _, hdone, rfl⟩ := Runs.bind_iff.mp hfirst
      exact absurd (Runs.done_iff.mp hdone).2 fun h => by cases h
    · cases found with
      | none => exact ih hsecond
      | some u => exact absurd (Runs.done_iff.mp hsecond).2 fun h => by cases h

/-! ## A refused attempt -/

/-- Volumes from which nothing was removed are restored without a call. -/
theorem restoreFrom_fresh {volumes restored : List Volume} {t : Trace} {failure : Option Error}
    {result : Except Error Unit} (hfresh : ∀ v ∈ volumes, v.removedMountPoints = [])
    (hrun : Runs (DiskDeletion.restoreFrom volumes failure) t (result, restored)) : t = [] := by
  induction volumes generalizing t failure result restored with
  | nil =>
    cases failure with
    | none => exact (Runs.done_iff.mp hrun).1
    | some error => exact (Runs.done_iff.mp hrun).1
  | cons volume volumes ih =>
    obtain ⟨⟨r, volume'⟩, t₁, t₂, hfirst, hrest, rfl⟩ := Runs.bind_iff.mp hrun
    obtain ⟨⟨r', volumes'⟩, t₃, t₄, hothers, hdone, rfl⟩ := Runs.bind_iff.mp hrest
    rw [Volume.restoreMounts, hfresh volume List.mem_cons_self] at hfirst
    rw [(Runs.done_iff.mp hfirst).1, (Runs.done_iff.mp hdone).1,
      ih (fun v hv => hfresh v (List.mem_cons_of_mem _ hv)) hothers]
    rfl

/-- A preparation that fails for a lock has only locked, and what it leaves is fresh. -/
theorem prepare_refused {force : Bool} {deletion prepared : DiskDeletion} {t : Trace} {error : Error}
    (hunlocked : ∀ v ∈ deletion.volumes, v.locked = false)
    (hfresh : ∀ v ∈ deletion.volumes, v.removedMountPoints = [])
    (hrun : Runs (deletion.prepare force) t (.error error, prepared))
    (hlock : isVolumeLockFailure error = true) :
    (∀ e ∈ t, ∃ handle, e.call = .lockVolume handle) ∧
      ∀ v ∈ prepared.volumes, v.removedMountPoints = [] := by
  obtain ⟨⟨r, locked⟩, t₁, t₂, hlocked, hrest, rfl⟩ := Runs.bind_iff.mp hrun
  have hlocking := eachVolume_lock hunlocked (update_runs hlocked)
  cases r with
  | error failed =>
    obtain ⟨rfl, herror⟩ := Runs.done_iff.mp hrest
    cases herror
    rw [List.append_nil]
    exact ⟨hlocking.calls, hlocking.fresh hfresh⟩
  | ok _ =>
    obtain ⟨r, t₃, t₄, hdismount, hrest, rfl⟩ := Runs.bind_iff.mp hrest
    cases r with
    | error failed =>
      obtain ⟨_, herror⟩ := Runs.done_iff.mp hrest
      cases herror
      rw [tryFold_dismount_lock hdismount] at hlock
      cases hlock
    | ok _ =>
      have hfree := eachVolume_lock_free (fun _ _ _ _ h => removeMountsFrom_lock h)
        (update_runs hrest)
      rw [hfree] at hlock
      cases hlock

/-- A deletion that fails for a lock has made inquiries and taken locks, and nothing else. -/
theorem deleteAllocation_refused {adapter : OpenAdapter} {adapterInstance : ULONGLONG} {id : ULONG}
    {force : Bool} {t : Trace} {error : Error}
    (hrun : Runs (deleteAllocation adapter adapterInstance id force) t (.error error))
    (hforeign : NoForeignRefusal t) (hlock : isVolumeLockFailure error = true) :
    ∀ e ∈ t, e.call.Harmless := by
  rcases deleteAllocation_runs hrun with ⟨hinquiry, _⟩ |
    ⟨number, location, deletion, resolving, opened, rest, rfl, hresolving, hopened, hdelete⟩
  · exact fun e he => Or.inl (hinquiry e he)
  have hvolumes := openDisk_fresh hopened
  obtain ⟨⟨r, prepared⟩, t₁, t₂, hprepare, hrest, rfl⟩ := Runs.bind_iff.mp hdelete
  have hopening := hopened.only (openDisk_inquires number location)
  have hrefused : (∀ e ∈ t₁, ∃ handle, e.call = .lockVolume handle) → t₂ = [] →
      ∀ e ∈ resolving ++ opened ++ (t₁ ++ t₂), e.call.Harmless := by
    intro hlocks hnone e he
    rw [hnone, List.append_nil] at he
    rcases List.mem_append.mp he with he | he
    · rcases List.mem_append.mp he with he | he
      · exact Or.inl (hresolving e he)
      · exact Or.inl (hopening e he)
    · exact Or.inr (hlocks e he)
  cases r with
  | error failed =>
    obtain ⟨⟨restored, deletion'⟩, t₃, t₄, hrestore, hdone, rfl⟩ := Runs.bind_iff.mp hrest
    obtain ⟨rfl, herror⟩ := Runs.done_iff.mp hdone
    cases herror
    rw [restoredError_lock] at hlock
    obtain ⟨hlocks, hfresh⟩ := prepare_refused (fun v hv => (hvolumes v hv).1)
      (fun v hv => (hvolumes v hv).2) hprepare hlock
    refine hrefused hlocks ?_
    rw [List.append_nil]
    exact restoreFrom_fresh hfresh (update_runs hrestore)
  | ok _ =>
    -- the volumes are prepared: no later error is that of a lock
    refine absurd hlock (Bool.not_eq_true _ ▸ ?_)
    obtain ⟨answer, t₃, rfl, hanswered⟩ := Runs.call_iff.mp hrest
    cases answer with
    | ok _ =>
      obtain ⟨r, t₄, t₅, hwait, hdone, rfl⟩ := Runs.bind_iff.mp hanswered
      obtain ⟨_, herror⟩ := Runs.done_iff.mp hdone
      cases r with
      | ok _ => cases herror
      | error waited =>
        cases herror
        obtain ⟨retries, t₆, rfl, hretry⟩ := Runs.call_iff.mp hwait
        have hmessage : isVolumeLockFailure waited = false := retry_absent_lock hretry
        exact hmessage
    | error rejected =>
      have hclean : isVolumeLockFailure rejected = false := by
        refine hforeign adapter.handle adapterInstance id rejected ?_
        exact List.mem_append_right _ (List.mem_append_right _ List.mem_cons_self)
      obtain ⟨online, t₄, t₅, _, hdecided, rfl⟩ := Runs.bind_iff.mp hanswered
      cases online with
      | true =>
        obtain ⟨⟨restored, deletion'⟩, t₆, t₇, _, hdone, rfl⟩ := Runs.bind_iff.mp hdecided
        obtain ⟨_, herror⟩ := Runs.done_iff.mp hdone
        cases herror
        rw [restoredRejection_lock]
        exact hclean
      | false =>
        obtain ⟨_, herror⟩ := Runs.done_iff.mp hdecided
        cases herror
        exact hclean

/-! ## What a deletion asks of the driver -/

theorem filter_deleteAsked_nil {t : Trace} (h : ∀ e ∈ t, deleteAsked e = false) :
    t.filter deleteAsked = [] := List.filter_eq_nil_iff.mpr fun e he => by rw [h e he]; decide

theorem restores_not_asked {volumes : List Volume} {blocks : List Trace}
    (h : List.Forall₂ Volume.RestoredBy volumes blocks) :
    ∀ e ∈ blocks.flatten, deleteAsked e = false := by
  intro e he
  obtain ⟨block, hblock, he⟩ := List.mem_flatten.mp he
  obtain ⟨volume, hrestored⟩ := Preparing.restored_block h hblock
  exact (hrestored.outside e he).2

/-- A deletion asks the driver at most once, about its own allocation, succeeds only if the driver
said that it was done, and passes an unresolved answer on. -/
theorem deleteAllocation_asks {adapter : OpenAdapter} {adapterInstance : ULONGLONG} {id : ULONG}
    {force : Bool} {t : Trace} {result : Except Error Unit}
    (hrun : Runs (deleteAllocation adapter adapterInstance id force) t result) :
    (t.filter deleteAsked = [] ∧ result ≠ .ok ()) ∨
      ∃ answer, t.filter deleteAsked = [⟨.deleteById adapter.handle adapterInstance id, answer⟩] ∧
        (result = .ok () → answer = .ok ()) ∧
        ∀ error, answer = .error error → error.unresolved?.isSome = true →
          ∃ final, result = .error final ∧ final.unresolved?.isSome = true := by
  rcases deleteAllocation_runs hrun with ⟨hinquiry, error, rfl⟩ |
    ⟨number, location, deletion, resolving, opened, rest, rfl, hresolving, hopened, hdelete⟩
  · exact Or.inl ⟨filter_deleteAsked_nil fun e he => (inquiry_quiet (hinquiry e he)).2.2,
      fun h => by cases h⟩
  have hvolumes := openDisk_fresh hopened
  obtain ⟨⟨r, prepared⟩, t₁, t₂, hprepare, hrest, rfl⟩ := Runs.bind_iff.mp hdelete
  have hpreparing := prepare_runs (fun v hv => (hvolumes v hv).1) (fun v hv => (hvolumes v hv).2)
    hprepare
  have hopening := hopened.only (openDisk_inquires number location)
  have hbefore : (resolving ++ opened ++ t₁).filter deleteAsked = [] := by
    refine filter_deleteAsked_nil fun e he => ?_
    rcases List.mem_append.mp he with he | he
    · rcases List.mem_append.mp he with he | he
      · exact (inquiry_quiet (hresolving e he)).2.2
      · exact (inquiry_quiet (hopening e he)).2.2
    · exact (prepares_quiet (hpreparing.calls e he)).2.2
  rw [← List.append_assoc, List.filter_append, hbefore, List.nil_append]
  cases r with
  | error failed =>
    obtain ⟨⟨final, rfl⟩, blocks, rfl, hblocks⟩ := restore_then_runs hrest
    exact Or.inl ⟨filter_deleteAsked_nil (restores_not_asked hblocks), fun h => by cases h⟩
  | ok _ =>
    obtain ⟨answer, t₃, rfl, hanswered⟩ := Runs.call_iff.mp hrest
    have hasked : ∀ (u : Trace), (∀ e ∈ u, deleteAsked e = false) →
        (⟨.deleteById adapter.handle adapterInstance id, answer⟩ :: u : Trace).filter deleteAsked =
          [⟨.deleteById adapter.handle adapterInstance id, answer⟩] := by
      intro u hu
      rw [List.filter_cons_of_pos rfl, filter_deleteAsked_nil hu]
    refine Or.inr ⟨answer, hasked t₃ ?_, ?_, ?_⟩
    · cases answer with
      | ok _ =>
        have hwaiting : Inquires (withContext ("driver allocation for device " ++ toString id ++
            " was removed, but Windows disappearance was not confirmed")
              (waitForPhysicalDiskAbsent number location)) :=
          withContext_inquires (waitForPhysicalDiskAbsent_inquires number location)
        exact fun e he => (inquiry_quiet (hanswered.only hwaiting e he)).2.2
      | error rejected =>
        obtain ⟨online, t₄, t₅, hasking, hdecided, rfl⟩ := Runs.bind_iff.mp hanswered
        have hquery := hasking.only (stillOnline_inquires adapter adapterInstance id rejected)
        intro e he
        rcases List.mem_append.mp he with he | he
        · exact (inquiry_quiet (hquery e he)).2.2
        · cases online with
          | true =>
            obtain ⟨_, blocks, rfl, hblocks⟩ := restore_then_runs hdecided
            exact restores_not_asked hblocks e he
          | false =>
            obtain ⟨rfl, _⟩ := Runs.done_iff.mp hdecided
            exact absurd he List.not_mem_nil
    · rintro rfl
      cases answer with
      | ok u => rfl
      | error rejected =>
        obtain ⟨online, t₄, t₅, _, hdecided, rfl⟩ := Runs.bind_iff.mp hanswered
        cases online with
        | true =>
          obtain ⟨⟨final, herror⟩, _⟩ := restore_then_runs hdecided
          cases herror
        | false => exact absurd (Runs.done_iff.mp hdecided).2 fun h => by cases h
    · rintro error rfl hunresolved
      obtain ⟨online, t₄, t₅, hasking, hdecided, rfl⟩ := Runs.bind_iff.mp hanswered
      rw [stillOnline, if_pos hunresolved] at hasking
      obtain ⟨rfl, rfl⟩ := Runs.done_iff.mp hasking
      obtain ⟨_, rfl⟩ := Runs.done_iff.mp hdecided
      exact ⟨_, rfl, hunresolved⟩

theorem harmless_not_asked {e : WindowsEvent} (h : e.call.Harmless) : deleteAsked e = false := by
  rcases h with h | ⟨handle, h⟩
  · exact (inquiry_quiet h).2.2
  · exact deleteAsked_false fun _ _ _ heq => by rw [h] at heq; cases heq

/-! ## The loop -/

/-- The attempts of a rollback: those that were refused a lock, then the last one. -/
structure Attempts (adapter : OpenAdapter) (created : CreatedDisk) (retries : ℕ)
    (refused : List Trace) (last : Trace) (result : Except Error Unit) : Prop where
  few : refused.length ≤ retries
  refusal : ∀ u ∈ refused, ∃ error, isLockRefusal error = true ∧
    Runs (deleteAllocation adapter created.adapterInstance created.deviceId false) u (.error error)
  final : Runs (deleteAllocation adapter created.adapterInstance created.deviceId false) last result

theorem Attempts.harmless {adapter : OpenAdapter} {created : CreatedDisk} {retries : ℕ}
    {refused : List Trace} {last : Trace} {result : Except Error Unit}
    (h : Attempts adapter created retries refused last result)
    (hforeign : NoForeignRefusal refused.flatten) : ∀ u ∈ refused, ∀ e ∈ u, e.call.Harmless := by
  intro u hu
  obtain ⟨failed, hrefusal, hattempt⟩ := h.refusal u hu
  refine deleteAllocation_refused hattempt (fun a i d e he => hforeign a i d e ?_)
    (Bool.and_eq_true_iff.mp hrefusal).1
  exact List.mem_flatten.mpr ⟨u, hu, he⟩

theorem rollbackFrom_runs {adapter : OpenAdapter} {created : CreatedDisk} {retries : ℕ} {t : Trace}
    {result : Except Error Unit} (hrun : Runs (rollbackFrom adapter created retries) t result) :
    ∃ refused last, t = refused.flatten ++ last ∧
      Attempts adapter created retries refused last result := by
  induction retries generalizing t with
  | zero => exact ⟨[], t, rfl, le_refl _, (fun u hu => absurd hu List.not_mem_nil), hrun⟩
  | succ retries ih =>
    obtain ⟨r, t₁, t₂, hattempt, hrest, rfl⟩ := Runs.bind_iff.mp hrun
    have hlast : t₂ = [] ∧ result = r → ∃ refused last, t₁ ++ t₂ = refused.flatten ++ last ∧
        Attempts adapter created (retries + 1) refused last result := by
      rintro ⟨rfl, rfl⟩
      rw [List.append_nil]
      exact ⟨[], t₁, rfl, Nat.zero_le _, (fun u hu => absurd hu List.not_mem_nil), hattempt⟩
    cases r with
    | ok _ => exact hlast (Runs.done_iff.mp hrest)
    | error error =>
      simp only at hrest
      by_cases hrefusal : isLockRefusal error = true
      · rw [if_pos hrefusal] at hrest
        obtain ⟨refused, last, rfl, hattempts⟩ := ih hrest
        refine ⟨t₁ :: refused, last, by rw [List.flatten_cons, List.append_assoc],
          Nat.succ_le_succ hattempts.few, fun u hu => ?_, hattempts.final⟩
        cases List.mem_cons.mp hu with
        | inl heq =>
          subst heq
          exact ⟨error, hrefusal, hattempt⟩
        | inr hu => exact hattempts.refusal u hu
      · rw [if_neg hrefusal] at hrest
        exact hlast (Runs.done_iff.mp hrest)

/-- An unresolved rollback is reported as such, whatever the setup failed with. -/
theorem rolledBack_unresolved (created : CreatedDisk) (setup rollback : Error)
    (h : rollback.isUnresolved = true) :
    errorExitCode (rolledBack created setup (.error rollback)) = 3 := by
  have hunresolved : (rolledBack created setup (.error rollback)).isUnresolved = true := by
    rw [rolledBack, recoveryFailed, Error.isUnresolved, Bool.or_eq_true]
    exact Or.inr h
  rw [errorExitCode, hunresolved]
  rfl

/-- What a rollback has done: its refused attempts were harmless, and the driver was asked at most
once, for the created disk; the error says that the allocation was rolled back only when the driver
said so, and an unresolved rollback has its own exit status. -/
structure RolledBack (adapter : OpenAdapter) (created : CreatedDisk) (setup : Error) (t : Trace)
    (error : Error) : Prop where
  attempts : ∃ (retries : ℕ) (refused : List Trace) (last : Trace) (result : Except Error Unit),
    t = ⟨.retriesLeft, retries⟩ :: (refused.flatten ++ last) ∧
    Attempts adapter created retries refused last result ∧
    (∀ u ∈ refused, ∀ e ∈ u, e.call.Harmless) ∧ error = rolledBack created setup result ∧
    (result = .ok () →
      (⟨.deleteById adapter.handle created.adapterInstance created.deviceId, .ok ()⟩ :
        WindowsEvent) ∈ last) ∧
    ∀ rollback, result = .error rollback → rollback.isUnresolved = true → errorExitCode error = 3
  asked : t.filter deleteAsked = [] ∨ ∃ answer, t.filter deleteAsked =
    [⟨.deleteById adapter.handle created.adapterInstance created.deviceId, answer⟩]

/-- However its calls come out, a rollback tries again only what was refused harmlessly. -/
theorem rollback_retries_refusals (adapter : OpenAdapter) (created : CreatedDisk) (setup : Error)
    (t : Trace) (error : Error) (hforeign : NoForeignRefusal t)
    (hrun : Runs (rollbackCreatedDisk adapter created setup) t error) :
    RolledBack adapter created setup t error := by
  obtain ⟨retries, rest, rfl, hrest⟩ := Runs.call_iff.mp hrun
  obtain ⟨result, t₁, t₂, hloop, hdone, rfl⟩ := Runs.bind_iff.mp hrest
  obtain ⟨rfl, rfl⟩ := Runs.done_iff.mp hdone
  rw [List.append_nil] at hforeign ⊢
  obtain ⟨refused, last, rfl, hattempts⟩ := rollbackFrom_runs hloop
  have hharmless := hattempts.harmless fun a i d e he =>
    hforeign a i d e (List.mem_cons_of_mem _ (List.mem_append_left _ he))
  have hquiet : refused.flatten.filter deleteAsked = [] := by
    refine filter_deleteAsked_nil fun e he => ?_
    obtain ⟨u, hu, he⟩ := List.mem_flatten.mp he
    exact harmless_not_asked (hharmless u hu e he)
  have hasks := deleteAllocation_asks hattempts.final
  refine ⟨⟨retries, refused, last, result, rfl, hattempts, hharmless, rfl, fun hok => ?_, ?_⟩, ?_⟩
  · rcases hasks with ⟨_, hfailed⟩ | ⟨answer, hfilter, hanswer⟩
    · exact absurd hok hfailed
    · rw [hanswer.1 hok] at hfilter
      have hmem : (⟨.deleteById adapter.handle created.adapterInstance created.deviceId, .ok ()⟩ :
          WindowsEvent) ∈ last.filter deleteAsked := hfilter ▸ List.mem_cons_self
      exact List.mem_of_mem_filter hmem
  · rintro rollback rfl hunresolved
    exact rolledBack_unresolved created setup rollback hunresolved
  · rw [List.filter_cons_of_neg Bool.false_ne_true, List.filter_append, hquiet, List.nil_append]
    exact hasks.imp And.left fun h => h.imp fun _ h => h.1

/-! ## A refused lock -/

/-- The inventory of an adapter with the disk that is rolled back. -/
def smallState : StateResponse where
  adapterInstance := 7
  diskCount := 1
  disks := [{ disk := { deviceId := 5 }, state := 1 }]

def smallDisk : CreatedDisk := ⟨7, 5, 0, 0, 0⟩

/-- The disk is found and its only volume opened, which has no mount point. -/
def findingVolume : Trace :=
  [⟨.sendListState 1, .ok smallState⟩, ⟨.registerNotification, .ok ()⟩,
    ⟨.retriesLeft, (0 : ℕ)⟩, ⟨.getClassDevs, .ok (1 : ℕ)⟩, ⟨.enumDeviceInterfaces 0, .ok ()⟩,
    ⟨.getInterfaceDetail 0, .ok [65]⟩, ⟨.createFile (.path [65]) .none, .ok (2 : ℕ)⟩,
    ⟨.getScsiAddress 2, .ok (⟨0, 0, 0, 0⟩, 8)⟩, ⟨.getDeviceNumber 2, .ok (⟨7, 3⟩, 12)⟩,
    ⟨.findVolumes, .ok [.ok [86, 92]]⟩, ⟨.createFile (.path [86]) .none, .ok (3 : ℕ)⟩,
    ⟨.getDiskExtents 3, .ok (⟨1, 3⟩, 32)⟩, ⟨.getVolumePaths [86, 92], .ok []⟩,
    ⟨.createFile (.path [86]) .readWrite, .ok (4 : ℕ)⟩, ⟨.getDiskExtents 4, .ok (⟨1, 3⟩, 32)⟩,
    ⟨.createFile (.physicalDrive 3) .none, .ok (6 : ℕ)⟩,
    ⟨.getScsiAddress 6, .ok (⟨0, 0, 0, 0⟩, 8)⟩]

/-- One attempt is refused its lock; the next deletes the disk. -/
def refusedOnce : Trace :=
  ⟨.retriesLeft, (1 : ℕ)⟩ :: (findingVolume ++ [⟨.lockVolume 4, .error 5⟩] ++ (findingVolume ++
    [⟨.lockVolume 4, .ok ()⟩, ⟨.dismountVolume 4, .ok ()⟩, ⟨.deleteById 1 7 5, .ok ()⟩,
      ⟨.retriesLeft, (0 : ℕ)⟩, ⟨.createFile (.physicalDrive 3) .none, .error 2⟩]))

theorem refusedOnce_runs (setup : Error) : Runs (rollbackCreatedDisk ⟨1, 0⟩ smallDisk setup)
    refusedOnce (rolledBack smallDisk setup (.ok ())) := Runs.of_replay (by rfl)

theorem refusedOnce_rolledBack : RolledBack ⟨1, 0⟩ smallDisk (.message "format failed") refusedOnce
    (rolledBack smallDisk (.message "format failed") (.ok ())) := by
  refine rollback_retries_refusals _ _ _ _ _ (fun adapter adapterInstance id error hmem => ?_)
    (refusedOnce_runs _)
  simp [refusedOnce, findingVolume] at hmem

end WispDisk.Cli
