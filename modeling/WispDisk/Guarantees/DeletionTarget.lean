import WispDisk.Guarantees.TargetedDeletion

/-! A deletion touches its target alone, as long as nothing that the target has given up goes to
another disk while the call runs. No check of the device ID follows the first inventory: a disk that is
created at the address of a target deleted meanwhile is dismounted and unmounted in its place. -/
namespace WispDisk.Cli
open Procedures World
set_option autoImplicit false

variable {target : Disk} {K : World → (c : Call) → Answer c → Prop}
variable {others : World → World → Prop}
variable {letter : DriveLetter}

/-! ## From a drive letter -/

/-- Whenever the volume of the letter is opened, the letter leads to the target. -/
def LeadsTo (letter : DriveLetter) (target : Disk) (w : World) : (c : Call) → Answer c → Prop
  | .createFile (.driveLetter opened) _, .ok _ =>
    opened = letter → w.mounts (mountPoint letter) = some target
  | _, _ => True

/-- Nor has the target been replaced by then: no other disk is at its address. -/
def Unreplaced (letter : DriveLetter) (target : Disk) (w : World) : (c : Call) → Answer c → Prop
  | .createFile (.driveLetter opened) _, .ok _ =>
    opened = letter → ∀ d ∈ w.disks, d.location = target.location → d = target
  | _, _ => True

/-- The number is read, has been the target's and leads to no other disk. -/
structure Numbered (target : Disk) (number : ULONG) (w : World) : Prop where
  read : number ∈ w.read.numbers
  numbered : (number, target) ∈ w.numbered
  leads : ∀ d, w.numbers number = some d → d = target

/-- What `matchAddress` returns is a listed disk at the address. -/
theorem matchAddress_ok {address : ScsiLocation} {state : StateResponse}
    {X : ULONGLONG × ULONG → Prop} {matched found : Option (ULONGLONG × ULONG)}
    {entries : List DiskState} (hmatched : ∀ a, matched = some a → X a)
    (hentries : ∀ entry ∈ entries, entry.disk.pathId = address.path ∧
      entry.disk.targetId = address.target ∧ entry.disk.lun = address.lun →
      X (state.adapterInstance, entry.disk.deviceId))
    (h : matchAddress letter address state matched entries = .ok found) :
    ∀ a, found = some a → X a := by
  induction entries generalizing matched with
  | nil =>
    cases h
    exact hmatched
  | cons entry entries ih =>
    have hrest := fun e he => hentries e (List.mem_cons_of_mem _ he)
    unfold matchAddress at h
    by_cases hat : entry.disk.pathId = address.path ∧ entry.disk.targetId = address.target ∧
        entry.disk.lun = address.lun
    · rw [if_pos hat] at h
      by_cases hsome : matched.isSome = true
      · rw [if_pos hsome] at h
        cases h
      · rw [if_neg hsome] at h
        refine ih (fun a heq => ?_) hrest h
        cases heq
        exact hentries entry List.mem_cons_self hat
    · rw [if_neg hat] at h
      exact ih hmatched hrest h

section
variable (hsteady : ∀ w w', others w w' → Steady target w w')
include hsteady

/-- The allocation at the target's address is the target. -/
theorem allocationAt_ensures :
    Ensures target K others (Held target) (allocationAt letter target.location)
      (Gives (Held target) fun found _ => ∀ a, found = some a → target.allocation = some a) := by
  have hheld := kept_held hsteady
  have hpure : ∀ found : Option (ULONGLONG × ULONG), Kept others fun _ =>
      ∀ a, found = some a → target.allocation = some a := fun _ => Kept.pure _
  refine (forAdapters_ensures (K := K) hsteady hheld hpure (fun matched adapter => ?_) none).weaken
    (fun w hw => ⟨hw, fun _ heq => by cases heq⟩) fun _ _ h => h
  have hkept := (hheld.and (hpure matched)).and (kept_attached hsteady adapter)
  by_cases hport : adapter.portNumber ≠ target.location.port
  · rw [if_pos hport]
    refine Ensures.done hkept fun w hw => ⟨hw.1.1, fun found heq => ?_⟩
    cases heq
    exact hw.1.2
  rw [if_neg hport]
  refine (Ensures.tryBind (F := fun _ _ => True)
    (G := fun found _ => ∀ a, found = some a → target.allocation = some a)
    hkept (fun _ => Kept.pure True) (Ensures.passes (requireRecovery_inquires adapter) hkept)
      fun _ => ?_).weaken (fun _ h => h) fun r w hr => ⟨hr.1.1.1, hr.2⟩
  have hlisted : ∀ state : StateResponse, Kept others fun _ => ∀ entry ∈ listedDisks state,
      listedLocation adapter.portNumber entry = target.location →
        target.allocation = some (state.adapterInstance, entry.disk.deviceId) :=
    fun _ => Kept.pure _
  refine (Ensures.tryBind (G := fun found _ => ∀ a, found = some a → target.allocation = some a)
    hkept hlisted (state_ensures hkept hlisted ?_ fun w hw => hw.2) fun state => ?_).weaken
      (fun w hw => hw.1) fun _ _ h => h
  · intro w state hw _ hlists entry hentry hsame
    have hmem := hlists.2 entry hentry
    rw [← hw.1.1.located _ hmem hsame]
  · refine Ensures.done (hkept.and (hlisted state)) fun w hw => ⟨hw.1, fun found heq => ?_⟩
    refine matchAddress_ok hw.1.1.2 (fun entry hentry hat => hw.2 entry hentry ?_) heq
    obtain ⟨hpath, hid, hlun⟩ := hat
    unfold listedLocation
    rw [hpath, hid, hlun, not_not.mp hport]

end

section
variable (hsteady : ∀ w w', others w w' → Steady target w w')
variable (hnumber : ∀ n, Kept others (Numbered target n))
variable (hleads : ∀ w c answer, K w c answer → LeadsTo letter target w c answer)
variable (hunreplaced : ∀ w c answer, K w c answer → Unreplaced letter target w c answer)
include hsteady hnumber hleads hunreplaced

/-- The address that `delete_disk` resolves is that of the disk under the letter. -/
theorem letterAddress_ensures :
    Ensures target K others World.Sound (letterAddress letter)
      (Gives World.Sound fun address w => Held target w ∧ address = target.location) := by
  have hsound : Kept others World.Sound := kept_steady hsteady fun _ _ hs h => hs.sound h
  have hheld := kept_held hsteady
  refine Triple.bind (Ensures.inquires (driveLetterInUse_inquires letter) hsound) fun used => ?_
  cases used with
  | false => exact Ensures.fail hsound fun _ h => h
  | true =>
    refine Ensures.pass hsound trivial fun answer => ?_
    cases answer with
    | error error => exact Ensures.fail hsound fun _ h => h
    | ok name =>
      have hvolume : ∀ handle, Kept others fun w =>
          Held target w ∧ w.handles handle = some (.volume target) :=
        fun handle => hheld.and (kept_handle hsteady handle (.volume target))
      refine Ensures.ask (F := fun (answer : Except ULONG Handle) w => ∀ handle,
        answer = .ok handle → Held target w ∧ w.handles handle = some (.volume target)) hsound
        trivial (fun w answer w' hw hw' ha hK handle heq => ?_) fun answer => ?_
      · subst heq
        obtain ⟨_, object, ⟨d, hd, rfl⟩, rfl⟩ := ha
        have hmount : w.mounts (mountPoint letter) = some target := hleads _ _ _ hK rfl
        rw [hmount] at hd
        cases hd
        exact ⟨⟨hw', (hw.mounts _ target hmount).1, List.mem_cons_self,
          hunreplaced _ _ _ hK rfl⟩, Function.update_self _ _ _⟩
      · have hkept := hsound.and (Kept.all fun handle : Handle =>
          (hvolume handle).given (T := answer = .ok handle))
        cases answer with
        | error code => exact Ensures.fail hkept fun _ h => h.1
        | ok handle =>
          have hopened := hvolume handle
          have hresolved : ∀ address : ScsiLocation, Kept others fun w =>
              Held target w ∧ address = target.location := fun _ => hheld.and (Kept.pure _)
          refine (Ensures.tryBind (G := fun address w => Held target w ∧ address = target.location)
            hopened hnumber (diskNumber_ensures hopened hnumber
              fun w d n hw hread hhandle hn => ?_) fun number => ?_).weaken
                (fun w hw => hw.2 handle rfl) fun r w hr => ⟨hr.1.1.sound, hr.2⟩
          · rw [hw.2] at hhandle
            cases hhandle
            exact ⟨hread, (hw.1.sound.numbers n target hn).2,
              fun d hd => Option.some.inj (hd.symm.trans hn)⟩
          · refine (physicalDiskAddress_ensures hsteady (G := fun d _ => d = target)
              (hopened.and (hnumber number)) (fun d => Kept.pure _) hresolved
              (fun w d hw hd => hw.2.leads d hd) fun w d hw htarget _ _ =>
                ⟨hw.1.1, congrArg Disk.location htarget⟩).weaken
                (fun _ h => h) fun r w hr => ⟨hr.1.1, hr.2⟩

/-- A deletion by drive letter hits the disk under the letter alone. -/
theorem deleteDisk_ensures (hclear : ∀ w c answer, K w c answer → Clear target w c answer)
    (force : Bool) :
    Ensures target K others World.Sound (deleteDisk letter force) fun _ _ => True := by
  have hsound : Kept others World.Sound := kept_steady hsteady fun _ _ hs h => hs.sound h
  have hheld := kept_held hsteady
  refine tryBind_ensures hsound (fun address => hheld.and (Kept.pure (address = target.location)))
    (letterAddress_ensures hsteady hnumber hleads hunreplaced) fun address => ?_
  refine (Triple.fact (P := Held target) fun haddress => ?_).weaken (fun w hw => hw.2)
    fun _ _ h => h
  rw [haddress]
  refine tryBind_ensures hheld (fun _ => Kept.pure _) (allocationAt_ensures hsteady)
    fun found => ?_
  refine Triple.fact fun hfound => ?_
  cases found with
  | none => exact bail_ensures hheld _
  | some allocation =>
    obtain ⟨adapterInstance, id⟩ := allocation
    have htarget := hfound _ rfl
    have htrue : Kept others fun _ => True := Kept.pure True
    refine Triple.tryBind (R := fun _ _ => True)
      ((deleteByIdentity_ensures hsteady hclear htarget force).weaken (fun w hw => ⟨hw.sound,
        fun d hd hsame => hw.sound.issued d hd target hw.created (fun hnone => ?_) hsame⟩)
          fun _ _ h => h) (fun _ => htrue.stable) (fun _ _ _ => trivial) fun _ =>
      Ensures.inquires (waitForDriveState_inquires letter false) htrue
    rw [hsame, htarget] at hnone
    cases hnone

end

/-! ## Success -/

/-- The event of an allocation deleted. -/
def deleteDone : WindowsEvent → Bool
  | ⟨.deleteById _ _ _, .ok ()⟩ => true
  | _ => false

theorem deletePrepared_done {adapter : OpenAdapter} {adapterInstance : ULONGLONG} {id : ULONG}
    {force : Bool} {number : ULONG} {location : ScsiLocation} {deletion : DiskDeletion} {t : Trace}
    (h : Runs (deletePrepared adapter adapterInstance id force number location deletion) t
      (.ok ())) : ∃ e ∈ t, deleteDone e = true := by
  obtain ⟨⟨result, prepared⟩, t₁, t₂, _, hrest, rfl⟩ := Runs.bind_iff.mp h
  cases result with
  | error error =>
    obtain ⟨_, t₃, t₄, _, hdone, rfl⟩ := Runs.bind_iff.mp hrest
    cases (Runs.done_iff.mp hdone).2
  | ok done =>
    obtain ⟨answer, t₃, rfl, hanswered⟩ := Runs.call_iff.mp hrest
    cases answer with
    | ok deleted =>
      exact ⟨_, List.mem_append_right _ List.mem_cons_self, rfl⟩
    | error error =>
      obtain ⟨online, t₄, t₅, _, hstill, rfl⟩ := Runs.bind_iff.mp hanswered
      cases online with
      | false => cases (Runs.done_iff.mp hstill).2
      | true =>
        obtain ⟨_, t₆, t₇, _, hdone, rfl⟩ := Runs.bind_iff.mp hstill
        cases (Runs.done_iff.mp hdone).2

theorem deleteByIdentity_done {adapterInstance : ULONGLONG} {id : ULONG} {force : Bool} {t : Trace}
    (h : Runs (deleteByIdentity adapterInstance id force) t (.ok ())) :
    ∃ e ∈ t, deleteDone e = true := by
  rcases Runs.tryBind_iff.mp h with ⟨error, _, herror⟩ | ⟨found, t₁, t₂, _, hrest, rfl⟩
  · cases herror
  cases found with
  | none => cases (Runs.done_iff.mp hrest).2
  | some adapter =>
    rcases deleteAllocation_runs hrest with ⟨_, error, herror⟩ |
      ⟨number, location, deletion, resolving, opened, rest, rfl, _, _, hdelete⟩
    · cases herror
    · obtain ⟨e, he, hdone⟩ := deletePrepared_done hdelete
      exact ⟨e, List.mem_append_right _ (List.mem_append_right _ he), hdone⟩

theorem deleteDisk_done {force : Bool} {t : Trace}
    (h : Runs (deleteDisk letter force) t (.ok ())) : ∃ e ∈ t, deleteDone e = true := by
  rcases Runs.tryBind_iff.mp h with ⟨error, _, herror⟩ | ⟨address, t₁, t₂, _, hrest, rfl⟩
  · cases herror
  rcases Runs.tryBind_iff.mp hrest with ⟨error, _, herror⟩ | ⟨found, t₃, t₄, _, hrest, rfl⟩
  · cases herror
  cases found with
  | none => cases (Runs.done_iff.mp hrest).2
  | some allocation =>
    rcases Runs.tryBind_iff.mp hrest with ⟨error, _, herror⟩ | ⟨done, t₅, t₆, hdelete, _, rfl⟩
    · cases herror
    · obtain ⟨e, he, hdone⟩ := deleteByIdentity_done hdelete
      exact ⟨e, List.mem_append_right _ (List.mem_append_right _ (List.mem_append_left _ he)), hdone⟩

/-! ## The target alone -/

/-- Every dismount, mount-point removal and driver deletion of the call is on its target, and the call
succeeds only if it has deleted the target itself, which was online then. -/
structure OnlyTarget (target : Disk) (t : List (World × WindowsEvent))
    (r : Option (Except Error Unit)) : Prop where
  hits : ∀ e ∈ t, ∀ disk, e.1.Hits e.2 disk → disk = target
  deleted : r = some (.ok ()) → ∃ e ∈ t, deleteDone e.2 = true ∧ target ∈ e.1.disks

/-- A deletion that was reported done hit an online disk. -/
theorem deleteDone_hits {w w' : World} {e : WindowsEvent} (hdone : deleteDone e = true)
    (h : w.Answers e.call e.answer w') : ∃ disk ∈ w.disks, w.Hits e disk := by
  obtain ⟨c, answer⟩ := e
  cases c with
  | deleteById adapter adapterInstance id =>
    cases answer with
    | error error => cases hdone
    | ok deleted =>
      obtain ⟨disk, hdisk, hallocation, _⟩ := h
      exact ⟨disk, hdisk, hdisk, hallocation⟩
  | _ => cases hdone

theorem onlyTarget_of_ensures {allowed : World → Change → Prop} {w w' : World}
    {p : Fallible Unit} {t : List (World × WindowsEvent)} {r : Option (Except Error Unit)}
    (hhits : ∀ e ∈ t, Good target e.1 e.2) (hrun : RunsAmong allowed w p t w' r)
    (hdone : ∀ {t : Trace}, Runs p t (.ok ()) → ∃ e ∈ t, deleteDone e = true) :
    OnlyTarget target t r := by
  refine ⟨hhits, fun hr => ?_⟩
  subst hr
  obtain ⟨event, hevent, hdeleted⟩ := hdone hrun.runs
  obtain ⟨e, he, rfl⟩ := List.mem_map.mp hevent
  obtain ⟨w₁, hanswer⟩ := hrun.answered e he
  obtain ⟨disk, hdisk, hhit⟩ := deleteDone_hits hdeleted hanswer
  have htarget := hhits e he disk hhit
  subst htarget
  exact ⟨e, he, hdeleted, hdisk⟩

theorem interferes_steady {allowed : World → Change → Prop}
    (hallowed : ∀ w change, allowed w change → SparesAddress target w change) (w w' : World)
    (h : Interferes allowed w w') : Steady target w w' := by
  obtain ⟨change, hpermits, hspares, rfl⟩ := h
  exact Steady.after hpermits (hallowed w change hspares)

/-- A number of the target stays with the target. -/
theorem kept_numbered {allowed : World → Change → Prop}
    (hallowed : ∀ w change, allowed w change → SparesNumber target w change) (number : ULONG) :
    Kept (Interferes allowed) (Numbered target number) where
  stable := fun w w' ⟨change, _, hspares, heq⟩ h => by
    subst heq
    have hspares := hallowed w change hspares
    obtain ⟨hread, hnumbered, hleads⟩ := h
    cases change with
    | created disk => exact ⟨hread, hnumbered, hleads⟩
    | arrived number' disk =>
      refine ⟨hread, List.mem_cons_of_mem _ hnumbered, fun d hd => ?_⟩
      have hd : Function.update w.numbers number' (some disk) number = some d := hd
      by_cases hsame : number = number'
      · subst hsame
        rw [Function.update_self] at hd
        cases hd
        exact hspares hread hnumbered
      · rw [Function.update_of_ne hsame] at hd
        exact hleads d hd
    | formatted disk name points => exact ⟨hread, hnumbered, hleads⟩
    | deleted disk => exact ⟨hread, hnumbered, hleads⟩
    | departed disk interface lost =>
      refine ⟨hread, hnumbered, fun d hd => hleads d ?_⟩
      have hd : (w.after (.departed disk interface lost)).leads (.number number) = some d := hd
      exact leads_departed hd
  inquiry := fun w c answer w' hc ha h => by
    obtain ⟨⟨handles, read, rfl⟩, _, _, hnumbers, _⟩ := Asks.inquiry hc ha
    exact ⟨hnumbers number h.read, h.numbered, h.leads⟩

/-- Whatever else the others do, a deletion by identity touches the allocation of its device ID alone
as long as they give no other disk the address or a mount point of the target that the call has read,
and Windows shows no other disk at the address when the call searches it. A deletion by letter touches
the disk under the letter alone as long as, besides, the driver has no other disk at its address when
the letter is opened, and the others give no other disk a `PhysicalDrive` number of it that the call
has read. -/
theorem deletion_touches_target (target : Disk) (force : Bool) (w w' : World)
    (t : List (World × WindowsEvent)) (r : Option (Except Error Unit)) (hsound : w.Sound)
    (hclear : ∀ e ∈ t, Clear target e.1 e.2.call e.2.answer) :
    (∀ (adapterInstance : ULONGLONG) (id : ULONG),
      target.allocation = some (adapterInstance, id) →
      (∀ d ∈ w.created, d.allocation = some (adapterInstance, id) → d = target) →
      RunsAmong (SparesAddress target) w (deleteByIdentity adapterInstance id force) t w' r →
      OnlyTarget target t r) ∧
    ∀ letter : DriveLetter, (∀ e ∈ t, LeadsTo letter target e.1 e.2.call e.2.answer) →
      (∀ e ∈ t, Unreplaced letter target e.1 e.2.call e.2.answer) →
      RunsAmong (fun w change => SparesAddress target w change ∧ SparesNumber target w change) w
        (deleteDisk letter force) t w' r →
      OnlyTarget target t r := by
  constructor
  · intro adapterInstance id htarget hnamed hrun
    have hsteady : ∀ w w', Interferes (SparesAddress target) w w' → Steady target w w' :=
      interferes_steady fun _ _ h => h
    refine onlyTarget_of_ensures ?_ hrun deleteByIdentity_done
    exact (deleteByIdentity_ensures hsteady (fun _ _ _ h => h) htarget force w t w' r
      ⟨hsound, fun d hd hsame => hnamed d hd (hsame.trans htarget)⟩ (hrun.restrict hclear)).1
  · intro letter hleads hunreplaced hrun
    have hsteady : ∀ w w', Interferes (fun w change => SparesAddress target w change ∧
        SparesNumber target w change) w w' → Steady target w w' :=
      interferes_steady fun _ _ h => h.1
    have hnumber : ∀ n, Kept (Interferes fun w change => SparesAddress target w change ∧
        SparesNumber target w change) (Numbered target n) :=
      kept_numbered fun _ _ h => h.2
    have hensures := deleteDisk_ensures (K := fun w c answer => LeadsTo letter target w c answer ∧
      Unreplaced letter target w c answer ∧ Clear target w c answer) hsteady hnumber
        (fun _ _ _ h => h.1) (fun _ _ _ h => h.2.1) (fun _ _ _ h => h.2.2) force
    refine onlyTarget_of_ensures ?_ hrun deleteDisk_done
    exact (hensures w t w' r hsound (hrun.restrict fun e he =>
      ⟨hleads e he, hunreplaced e he, hclear e he⟩)).1

/-! ## A reused address -/

/-- A loop each round of which makes one call and keeps the accumulator. -/
theorem tryFold_same {α β ε : Type} {f : β → α → Windows (Except ε β)} {b : β}
    {event : α → WindowsEvent} (h : ∀ a, Runs (f b a) [event a] (.ok b)) (as : List α) :
    Runs (Procedure.tryFold f b as) (as.map event) (.ok b) := by
  induction as with
  | nil => exact .done _
  | cons a as ih => exact Runs.bind_iff.mpr ⟨.ok b, [event a], _, h a, ih, rfl⟩

/-- The disk with device ID 5 of adapter instance 7, and the disk that is created at its address. -/
def doomed : Disk := ⟨⟨0, 0, 0, 0⟩, some (7, 5)⟩
def bystander : Disk := ⟨⟨0, 0, 0, 0⟩, some (7, 6)⟩

/-- `E:\` on the first disk, which is `PhysicalDrive4`. -/
def oneDiskWorld : World where
  adapters := fun port => if port = 0 then some 7 else none
  disks := [doomed]
  shown := [doomed]
  numbers := fun n => if n = 4 then some doomed else none
  volumes := fun name => if name = [86, 92] then some doomed else none
  mounts := fun point => if point = [69, 58, 92] then some doomed else none
  handles := fun _ => none
  created := [doomed]
  numbered := [(4, doomed)]
  mounted := [([69, 58, 92], doomed)]

theorem oneDiskWorld_sound : oneDiskWorld.Sound := by
  have hlead : ∀ {κ : Type} [DecidableEq κ] {k k' : κ} {d : Disk},
      (if k = k' then some doomed else none) = some d → k = k' ∧ doomed = d := by
    intro κ _ k k' d h
    by_cases heq : k = k'
    · rw [if_pos heq] at h
      exact ⟨heq, Option.some.inj h⟩
    · rw [if_neg heq] at h
      cases h
  have hone : ∀ d ∈ [doomed], d = doomed := fun d hd => List.mem_singleton.mp hd
  exact
    { known := fun d hd => hd
      located := fun d hd d' hd' _ => (hone d hd).trans (hone d' hd').symm
      issued := fun d hd d' hd' _ _ => (hone d hd).trans (hone d' hd').symm
      numbers := fun n d h => by
        obtain ⟨rfl, rfl⟩ := hlead h
        exact ⟨List.mem_cons_self, List.mem_cons_self⟩
      mounts := fun point d h => by
        obtain ⟨rfl, rfl⟩ := hlead h
        exact ⟨List.mem_cons_self, List.mem_cons_self⟩ }

/-- The version of a driver with operation recovery. -/
def recoveringVersion : QueryVersionResponse :=
  { versionMinor := 2, capabilities := wispdiskCapOperationRecovery }

/-- The inventory with one disk at the first address. -/
def inventory (id : ULONG) : StateResponse where
  adapterInstance := 7
  diskCount := 1
  disks := [{ disk := { deviceId := id }, state := 1 }]

/-- Finding the adapter at port 0. -/
def attaching : Trace :=
  [⟨.createFile (.scsiPort 0) .readWrite, .ok (1 : ℕ)⟩, ⟨.sendQueryVersion 1, .ok recoveringVersion⟩,
    ⟨.sendQueryVersion 1, .ok recoveringVersion⟩, ⟨.sendListState 1, .ok (inventory 5)⟩]

def absentPorts : Trace :=
  ((List.range 255).map Nat.succ).map fun port =>
    ⟨.createFile (.scsiPort port) .readWrite, .error 2⟩

/-- Resolving the device ID. -/
def locating : Trace := [⟨.sendListState 1, .ok (inventory 5)⟩]

/-- Resolving the address, opening the volume found there and locking it. -/
def opening (name : UInt16) : Trace :=
  [⟨.registerNotification, .ok ()⟩, ⟨.retriesLeft, (0 : ℕ)⟩, ⟨.getClassDevs, .ok (1 : ℕ)⟩,
    ⟨.enumDeviceInterfaces 0, .ok ()⟩, ⟨.getInterfaceDetail 0, .ok [1]⟩,
    ⟨.createFile (.path [1]) .none, .ok (2 : ℕ)⟩, ⟨.getScsiAddress 2, .ok (⟨0, 0, 0, 0⟩, 8)⟩,
    ⟨.getDeviceNumber 2, .ok (⟨7, 4⟩, 12)⟩, ⟨.findVolumes, .ok [.ok [name, 92]]⟩,
    ⟨.createFile (.path [name]) .none, .ok (3 : ℕ)⟩, ⟨.getDiskExtents 3, .ok (⟨1, 4⟩, 32)⟩,
    ⟨.getVolumePaths [name, 92], .ok [[69, 58, 92]]⟩,
    ⟨.createFile (.path [name]) .readWrite, .ok (4 : ℕ)⟩, ⟨.getDiskExtents 4, .ok (⟨1, 4⟩, 32)⟩,
    ⟨.createFile (.physicalDrive 4) .none, .ok (5 : ℕ)⟩,
    ⟨.getScsiAddress 5, .ok (⟨0, 0, 0, 0⟩, 8)⟩, ⟨.lockVolume 4, .ok ()⟩]

/-- The volume is dismounted and its mount point removed; the driver has no device 5 to delete. -/
def destroying : Trace :=
  [⟨.dismountVolume 4, .ok ()⟩, ⟨.deleteMountPoint 4 [69, 58, 92], .ok ()⟩,
    ⟨.deleteById 1 7 5, .error (.message "no such device")⟩,
    ⟨.sendListState 1, .ok (inventory 6)⟩]

theorem deleteByIdentity_runs {t : Trace} {result : Except Error Unit}
    (h : Runs (deleteAllocation ⟨1, 0⟩ 7 5 false) t result) :
    Runs (deleteByIdentity 7 5 false) ((attaching ++ absentPorts) ++ t) result := by
  refine Runs.tryBind_iff.mpr (Or.inr ⟨some ⟨1, 0⟩, _, _, ?_, h, rfl⟩)
  unfold forAdapters scsiPortLimit
  rw [List.range_succ_eq_map]
  have habsent : ∀ port, Runs (adapterAt port)
      [⟨.createFile (.scsiPort port) .readWrite, .error 2⟩] none :=
    fun port => Runs.call_iff.mpr ⟨.error 2, [], rfl, .done _⟩
  refine Runs.bind_iff.mpr ⟨.ok (some ⟨1, 0⟩), attaching, absentPorts, Runs.of_replay (by rfl),
    tryFold_same (fun port => ?_) _, rfl⟩
  exact Runs.bind_iff.mpr ⟨none, _, [], habsent port, .done _, rfl⟩

theorem destroying_runs : Runs (deleteByIdentity 7 5 false)
    ((attaching ++ absentPorts) ++ (locating ++ (opening 87 ++ destroying)))
    (.error (.context ("device " ++ toString (5 : ULONG) ++ " removal is not confirmed; " ++
      "inspect /list /json before retrying") (.message "no such device"))) :=
  deleteByIdentity_runs (Runs.of_replay (by rfl))

/-- The disk is deleted, Windows lets go of it, and another is created at its address. -/
def replacement : List Change :=
  [.deleted doomed, .departed doomed true fun _ => true, .created bystander, .arrived 4 bystander,
    .formatted bystander [87, 92] [[69, 58, 92]]]

/-- The machine after an inventory with one disk. -/
def listed (w : World) (id : ULONG) : World :=
  w.readAddresses ((listedDisks (inventory id)).map (listedLocation 0))

def attached : World := listed (oneDiskWorld.openHandle 1 (.adapter 0)) 5

def located : World := listed attached 5

def replaced : World := replacement.foldl World.after located

/-- The machine when the volume of a disk is dismounted. -/
def openedOn (w : World) (disk : Disk) : World :=
  let found := (w.openHandle 2 (.disk disk)).readAddresses [⟨0, 0, 0, 0⟩]
  let asked := ((found.openHandle 3 (.volume disk)).readNumber 4).readPoints [[69, 58, 92]]
  let opened := (asked.openHandle 4 (.volume disk)).readNumber 4
  (opened.openHandle 5 (.disk disk)).readAddresses [⟨0, 0, 0, 0⟩]

/-- The machine when its mount point is removed. -/
def unmountedOn (w : World) (disk : Disk) : World :=
  { openedOn w disk with mounts := Function.update (openedOn w disk).mounts [69, 58, 92] none }

variable {allowed : World → Change → Prop}

theorem attached_lists : attached.Lists 0 (inventory 5) := by
  refine ⟨rfl, fun entry hentry => ?_⟩
  cases List.mem_singleton.mp hentry
  exact List.mem_cons_self

/-- `K` says nothing of a machine on which Windows shows one disk. -/
def Admits (K : World → (c : Call) → Answer c → Prop) (disk : Disk) : Prop :=
  ∀ w c answer, w.shown = [disk] → K w c answer

theorem clear_admits : Admits (Clear doomed) doomed := by
  intro w c answer hshown
  cases c with
  | getClassDevs =>
    intro _ d hd _
    rw [hshown] at hd
    exact List.mem_singleton.mp hd
  | _ => trivial

theorem attaching_follows (hK : Admits K doomed) :
    ∃ u, Follows (AnswersWith K) (Interferes allowed) oneDiskWorld (attaching ++ absentPorts) u
      attached := by
  have hadapter : oneDiskWorld.Answers (.createFile (.scsiPort 0) .readWrite) (.ok 1)
      (oneDiskWorld.openHandle 1 (.adapter 0)) := ⟨rfl, .adapter 0, ⟨by decide, rfl⟩, rfl⟩
  have hlisted : (oneDiskWorld.openHandle 1 (.adapter 0)).Answers (.sendListState 1)
      (.ok (inventory 5)) attached := ⟨0, rfl, attached_lists, rfl⟩
  refine ⟨_, Follows.append (.call ⟨hadapter, hK _ _ _ rfl⟩ (.call ⟨rfl, hK _ _ _ rfl⟩
    (.call ⟨rfl, hK _ _ _ rfl⟩ (.call ⟨hlisted, hK _ _ _ rfl⟩ (.nil attached)))))
      (Follows.same fun e he => ?_)⟩
  obtain ⟨port, _, rfl⟩ := List.mem_map.mp he
  exact ⟨rfl, hK _ _ _ rfl⟩

theorem replaced_interferes {t : Trace} {u : List (World × WindowsEvent)} {w : World}
    (h : Follows (AnswersWith K) (Interferes fun _ _ => True) replaced t u w) :
    Follows (AnswersWith K) (Interferes fun _ _ => True) located t u w := by
  refine .other ⟨.deleted doomed, (fun hnone => by cases hnone), trivial, rfl⟩ ?_
  refine .other ⟨.departed doomed true fun _ => true, List.not_mem_nil, trivial, rfl⟩ ?_
  refine .other ⟨.created bystander,
    ⟨(fun hnone => by cases hnone), fun d hd => ?_, fun d hd => ?_⟩, trivial, rfl⟩ ?_
  · cases hd
  · cases List.mem_singleton.mp hd
    decide
  refine .other ⟨.arrived 4 bystander, ⟨List.mem_cons_self, rfl, fun n hn => ?_⟩, trivial, rfl⟩ ?_
  · have hn : forget (fun n => if n = 4 then some doomed else none) doomed (fun _ => true) n =
        some bystander := hn
    have hdoomed := forget_some hn
    by_cases heq : n = 4
    · rw [if_pos heq] at hdoomed
      cases hdoomed
    · rw [if_neg heq] at hdoomed
      cases hdoomed
  refine .other ⟨.formatted bystander [87, 92] [[69, 58, 92]], ⟨List.mem_cons_self, rfl,
    fun point hpoint => ?_⟩, trivial, rfl⟩ h
  · cases List.mem_singleton.mp hpoint
    rfl

/-- The machine shows one disk under the address, the number and the volume name, and the handles above
`top` are free. -/
structure Shows (disk : Disk) (name : UInt16) (top : ℕ) (w : World) : Prop where
  shown : w.shown = [disk]
  location : disk.location = ⟨0, 0, 0, 0⟩
  number : w.numbers 4 = some disk
  volume : w.volumes [name, 92] = some disk
  mount : w.mounts [69, 58, 92] = some disk
  free : ∀ handle, top < handle → w.handles handle = none

theorem boundTo_disk (device : Device) (disk : Disk) : boundTo device (.disk disk) = [] := by
  cases device <;> rfl

namespace Shows

variable {disk : Disk} {name : UInt16} {top : ℕ} {w w' : World} {t : Trace}

theorem openHandle (h : Shows disk name top w) (object : Object) :
    Shows disk name (top + 1) (w.openHandle (top + 1) object) :=
  ⟨h.shown, h.location, h.number, h.volume, h.mount, fun handle htop =>
    (Function.update_of_ne (Nat.ne_of_gt htop) _ _).trans (h.free handle (Nat.lt_of_succ_lt htop))⟩

theorem readNumber (h : Shows disk name top w) (number : ULONG) :
    Shows disk name top (w.readNumber number) :=
  ⟨h.shown, h.location, h.number, h.volume, h.mount, h.free⟩

theorem readAddresses (h : Shows disk name top w) (addresses : List ScsiLocation) :
    Shows disk name top (w.readAddresses addresses) :=
  ⟨h.shown, h.location, h.number, h.volume, h.mount, h.free⟩

theorem readPoints (h : Shows disk name top w) (points : List WideString) :
    Shows disk name top (w.readPoints points) :=
  ⟨h.shown, h.location, h.number, h.volume, h.mount, h.free⟩

theorem mem_shown (h : Shows disk name top w) : disk ∈ w.shown := by
  rw [h.shown]
  exact List.mem_cons_self

section
variable (hK : Admits K disk)
include hK

/-- The disk is opened and asked for its address. -/
theorem address_follows (h : Shows disk name top w) {device : Device}
    (hopens : w.Opens device (.disk disk))
    (hrest : ∃ u, Follows (AnswersWith K) (Interferes allowed)
      ((w.openHandle (top + 1) (.disk disk)).readAddresses [⟨0, 0, 0, 0⟩]) t u w') :
    ∃ u, Follows (AnswersWith K) (Interferes allowed) w
      (⟨.createFile device .none, .ok (top + 1)⟩ ::
        ⟨.getScsiAddress (top + 1), .ok (⟨0, 0, 0, 0⟩, 8)⟩ :: t) u w' := by
  have hopened : w.Answers (.createFile device .none) (.ok (top + 1))
      (w.openHandle (top + 1) (.disk disk)) := by
    refine ⟨h.free _ (Nat.lt_succ_self top), _, hopens, ?_⟩
    rw [boundTo_disk]
    rfl
  refine Follows.cons ⟨hopened, hK _ _ _ h.shown⟩ (Follows.cons ⟨?_, hK _ _ _ h.shown⟩ hrest)
  exact ⟨rfl, disk, h.mem_shown, Function.update_self _ _ _, h.location⟩

/-- The volume is opened and asked for its disk. -/
theorem volume_follows (h : Shows disk name top w) (access : Access)
    (hrest : ∃ u, Follows (AnswersWith K) (Interferes allowed)
      ((w.openHandle (top + 1) (.volume disk)).readNumber 4) t u w') :
    ∃ u, Follows (AnswersWith K) (Interferes allowed) w
      (⟨.createFile (.path [name]) access, .ok (top + 1)⟩ ::
        ⟨.getDiskExtents (top + 1), .ok (⟨1, 4⟩, 32)⟩ :: t) u w' := by
  have hopened : w.Answers (.createFile (.path [name]) access) (.ok (top + 1))
      (w.openHandle (top + 1) (.volume disk)) :=
    ⟨h.free _ (Nat.lt_succ_self top), _, Or.inl ⟨disk, h.volume, rfl⟩, rfl⟩
  refine Follows.cons ⟨hopened, hK _ _ _ h.shown⟩ (Follows.cons ⟨?_, hK _ _ _ h.shown⟩ hrest)
  exact ⟨rfl, disk, Function.update_self _ _ _, fun _ => h.number⟩

/-- An answer that leaves the machine as it is. -/
theorem same_follows (h : Shows disk name top w) {c : Call} {answer : Answer c}
    (hanswer : w.Answers c answer w)
    (hrest : ∃ u, Follows (AnswersWith K) (Interferes allowed) w t u w') :
    ∃ u, Follows (AnswersWith K) (Interferes allowed) w (⟨c, answer⟩ :: t) u w' :=
  Follows.cons ⟨hanswer, hK _ _ _ h.shown⟩ hrest

/-- The disk that answers to the address, the number and the volume name is opened. -/
theorem opening_follows (h : Shows disk name 1 w) :
    ∃ u, Follows (AnswersWith K) (Interferes allowed) w (opening name) u (openedOn w disk) := by
  refine h.same_follows hK rfl (h.same_follows hK rfl (h.same_follows hK rfl
    (h.same_follows hK rfl (h.same_follows hK rfl ?_))))
  refine h.address_follows hK (Or.inr ⟨disk, h.mem_shown, rfl⟩) ?_
  have hfound := (h.openHandle (.disk disk)).readAddresses [⟨0, 0, 0, 0⟩]
  have hnamed : ((w.openHandle (1 + 1) (.disk disk)).readAddresses [⟨0, 0, 0, 0⟩]).handles (1 + 1) =
      some (.disk disk) := openHandle_self w (1 + 1) (.disk disk)
  refine hfound.same_follows hK ⟨rfl, disk, hnamed, hfound.number⟩
    (hfound.same_follows hK rfl ?_)
  refine hfound.volume_follows hK .none ?_
  have hnumbered := (hfound.openHandle (.volume disk)).readNumber 4
  refine Follows.cons ⟨⟨rfl, disk, hnumbered.volume, fun point hpoint => ?_⟩,
    hK _ _ _ hnumbered.shown⟩ ?_
  · cases List.mem_singleton.mp hpoint
    exact hnumbered.mount
  have hlisted := hnumbered.readPoints [[69, 58, 92]]
  refine hlisted.volume_follows hK .readWrite ?_
  have hopened := (hlisted.openHandle (.volume disk)).readNumber 4
  refine hopened.address_follows hK ⟨disk, hopened.number, rfl⟩ ?_
  have hasked := (hopened.openHandle (.disk disk)).readAddresses [⟨0, 0, 0, 0⟩]
  exact hasked.same_follows hK rfl ⟨[], .nil (openedOn w disk)⟩

end

end Shows

theorem located_free (handle : Handle) (h : 1 < handle) : located.handles handle = none :=
  Function.update_of_ne (Nat.ne_of_gt h) _ _

/-- The call on the machine whose disk has been replaced. -/
theorem locating_follows :
    ∃ u, Follows (AnswersWith fun _ _ _ => True) (Interferes fun _ _ => True) attached
      (locating ++ opening 87) u (openedOn replaced bystander) := by
  have hopened : ∃ u, Follows (AnswersWith fun _ _ _ => True) (Interferes fun _ _ => True) replaced
      (opening 87) u (openedOn replaced bystander) :=
    Shows.opening_follows (fun _ _ _ _ => trivial) ⟨rfl, rfl, rfl, rfl, rfl, located_free⟩
  obtain ⟨u, hopening⟩ := hopened
  exact Follows.cons ⟨⟨0, rfl, attached_lists, rfl⟩, trivial⟩ ⟨u, replaced_interferes hopening⟩

/-- What becomes of the other disk. -/
def destroyed : List (World × WindowsEvent) :=
  [(openedOn replaced bystander, ⟨.dismountVolume 4, .ok ()⟩),
    (openedOn replaced bystander, ⟨.deleteMountPoint 4 [69, 58, 92], .ok ()⟩),
    (unmountedOn replaced bystander, ⟨.deleteById 1 7 5, .error (.message "no such device")⟩),
    ((unmountedOn replaced bystander).asked, ⟨.sendListState 1, .ok (inventory 6)⟩)]

theorem destroying_follows :
    Follows (AnswersWith fun _ _ _ => True) (Interferes fun _ _ => True)
      (openedOn replaced bystander) destroying destroyed
      (listed (unmountedOn replaced bystander).asked 6) := by
  have hlists : (unmountedOn replaced bystander).asked.Lists 0 (inventory 6) := by
    refine ⟨rfl, fun entry hentry => ?_⟩
    cases List.mem_singleton.mp hentry
    exact List.mem_cons_self
  refine .call ⟨⟨rfl, bystander, rfl⟩, trivial⟩ (.call ⟨⟨?_, rfl⟩, trivial⟩ ?_)
  · exact fun hnone => by cases hnone
  · exact .call ⟨Or.inl rfl, trivial⟩ (.call ⟨⟨0, rfl, hlists, rfl⟩, trivial⟩ (.nil _))

/-- The disk is deleted and another is created at its address while a deletion by identity resolves
it: the call dismounts the other disk's volume, removes its mount point and leaves it so. -/
theorem reused_address_hits_bystander :
    oneDiskWorld.Sound ∧ doomed ∈ oneDiskWorld.disks ∧ doomed.allocation = some (7, 5) ∧
    ∃ t error, RunsAmong (fun _ _ => True) oneDiskWorld (deleteByIdentity 7 5 false) t
      (listed (unmountedOn replaced bystander).asked 6) (some (.error error)) ∧
      (∃ e ∈ t, (∃ handle, e.2 = ⟨.dismountVolume handle, .ok ()⟩) ∧
        e.1.Hits e.2 bystander) ∧
      (∃ e ∈ t, (∃ handle, e.2 = ⟨.deleteMountPoint handle [69, 58, 92], .ok ()⟩) ∧
        e.1.Hits e.2 bystander) ∧ bystander ≠ doomed ∧
      ¬ OnlyTarget doomed t (some (.error error)) := by
  obtain ⟨u, hattaching⟩ := attaching_follows (K := fun _ _ _ => True) fun _ _ _ _ => trivial
  obtain ⟨v, hopening⟩ := locating_follows
  have hfollows := hattaching.append (hopening.append destroying_follows)
  rw [List.append_assoc locating] at hfollows
  have hrun := (hfollows.executes destroying_runs).mono fun _ _ _ _ h => h.1
  have hmem : ∀ e ∈ destroyed, e ∈ u ++ (v ++ destroyed) :=
    fun e he => List.mem_append_right _ (List.mem_append_right _ he)
  have hdismount := hmem _ List.mem_cons_self
  have hremoval := hmem _ (List.mem_cons_of_mem _ List.mem_cons_self)
  have hother : bystander ≠ doomed := by decide
  refine ⟨oneDiskWorld_sound, List.mem_cons_self, rfl, _, _, hrun,
    ⟨_, hdismount, ⟨4, rfl⟩, rfl⟩, ⟨_, hremoval, ⟨4, rfl⟩, rfl⟩, hother, fun honly => ?_⟩
  exact hother (honly.hits _ hdismount bystander rfl)

/-- The volume is dismounted, its mount point removed and the disk deleted. -/
def deleting : Trace :=
  [⟨.dismountVolume 4, .ok ()⟩, ⟨.deleteMountPoint 4 [69, 58, 92], .ok ()⟩,
    ⟨.deleteById 1 7 5, .ok ()⟩, ⟨.retriesLeft, (0 : ℕ)⟩,
    ⟨.createFile (.physicalDrive 4) .none, .error 2⟩]

theorem deleting_runs : Runs (deleteByIdentity 7 5 false)
    ((attaching ++ absentPorts) ++ (locating ++ (opening 86 ++ deleting))) (.ok ()) :=
  deleteByIdentity_runs (Runs.of_replay (by rfl))

theorem deleting_follows :
    ∃ u, Follows (AnswersWith (Clear doomed)) (Interferes (SparesAddress doomed))
      (openedOn located doomed) deleting u ((unmountedOn located doomed).without doomed).asked := by
  refine Follows.cons ⟨⟨rfl, doomed, rfl⟩, trivial⟩ (Follows.cons ⟨⟨?_, rfl⟩, trivial⟩ ?_)
  · exact fun hnone => by cases hnone
  · exact Follows.cons ⟨⟨doomed, List.mem_cons_self, rfl, rfl⟩, trivial⟩
      (Follows.cons ⟨rfl, trivial⟩ (Follows.cons ⟨rfl, trivial⟩ ⟨[], .nil _⟩))

theorem letter_E : 65 ≤ 'E'.toNat ∧ 'E'.toNat ≤ 90 := by decide

/-- The letter resolves to a disk that is gone when its address is asked for. -/
def vanishing : Trace :=
  [⟨.getLogicalDrives, (16 : ULONG)⟩, ⟨.getVolumeName [69, 58, 92], .ok [86, 92]⟩,
    ⟨.createFile (.driveLetter ⟨'E', letter_E⟩) .read, .ok (1 : ℕ)⟩,
    ⟨.getDiskExtents 1, .ok (⟨1, 4⟩, 32)⟩, ⟨.createFile (.physicalDrive 4) .none, .error 2⟩]

theorem vanishing_runs : Runs (deleteDisk ⟨'E', letter_E⟩ false) vanishing
    (.error (.os ("open PhysicalDrive" ++ toString (4 : ULONG)) 2)) := Runs.of_replay (by rfl)

/-- The machine once the letter is resolved, and once the disk is gone. -/
def resolved : World :=
  ((oneDiskWorld.openHandle 1 (.volume doomed)).readAddresses [⟨0, 0, 0, 0⟩]).readNumber 4

def vanished : World := (resolved.without doomed).after (.departed doomed true fun _ => true)

theorem vanishing_follows : ∃ u, Follows World.Answers
    (Interferes fun w change => SparesAddress doomed w change ∧ SparesNumber doomed w change)
    oneDiskWorld vanishing u vanished ∧
    (∀ e ∈ u, LeadsTo ⟨'E', letter_E⟩ doomed e.1 e.2.call e.2.answer) ∧
    (∀ e ∈ u, Unreplaced ⟨'E', letter_E⟩ doomed e.1 e.2.call e.2.answer) ∧
    ∀ e ∈ u, Clear doomed e.1 e.2.call e.2.answer := by
  have hopened : oneDiskWorld.Answers (.createFile (.driveLetter ⟨'E', letter_E⟩) .read)
      (.ok (1 : ℕ)) ((oneDiskWorld.openHandle 1 (.volume doomed)).readAddresses [⟨0, 0, 0, 0⟩]) :=
    ⟨rfl, .volume doomed, ⟨doomed, rfl, rfl⟩, rfl⟩
  refine ⟨_, .call rfl (.call rfl (.call hopened (.call ⟨rfl, doomed, rfl, fun _ => rfl⟩
    (.other ⟨.deleted doomed, (fun hnone => by cases hnone), ⟨trivial, trivial⟩, rfl⟩
      (.other ⟨.departed doomed true fun _ => true, List.not_mem_nil, ⟨trivial, trivial⟩, rfl⟩
        (.call rfl (.nil vanished))))))), fun e he => ?_, fun e he => ?_, fun e he => ?_⟩
  all_goals simp only [List.mem_cons, List.not_mem_nil, or_false] at he
  · rcases he with rfl | rfl | rfl | rfl | rfl
    · trivial
    · trivial
    · exact fun _ => rfl
    · trivial
    · trivial
  · rcases he with rfl | rfl | rfl | rfl | rfl
    · trivial
    · trivial
    · exact fun _ d hd _ => List.mem_singleton.mp hd
    · trivial
    · trivial
  · rcases he with rfl | rfl | rfl | rfl | rfl <;> trivial

/-- A deletion that nobody disturbs, and one whose disk is deleted under it. -/
theorem deletion_touches_doomed :
    (∃ w t, RunsAmong (SparesAddress doomed) oneDiskWorld (deleteByIdentity 7 5 false) t w
      (some (.ok ())) ∧ OnlyTarget doomed t (some (.ok ()))) ∧
    ∃ w t error, RunsAmong
      (fun w change => SparesAddress doomed w change ∧ SparesNumber doomed w change) oneDiskWorld
      (deleteDisk ⟨'E', letter_E⟩ false) t w (some (.error error)) ∧
      OnlyTarget doomed t (some (.error error)) := by
  have hone : ∀ d ∈ oneDiskWorld.created, d.allocation = some (7, 5) → d = doomed :=
    fun d hd _ => List.mem_singleton.mp hd
  constructor
  · have hopened : ∃ u, Follows (AnswersWith (Clear doomed)) (Interferes (SparesAddress doomed))
        located (opening 86) u (openedOn located doomed) :=
      Shows.opening_follows clear_admits ⟨rfl, rfl, rfl, rfl, rfl, located_free⟩
    obtain ⟨u, hattaching⟩ := attaching_follows clear_admits
    obtain ⟨v, hopening⟩ := hopened
    obtain ⟨x, hdeleting⟩ := deleting_follows
    have hlocated : ∃ y, Follows (AnswersWith (Clear doomed)) (Interferes (SparesAddress doomed))
        attached (locating ++ (opening 86 ++ deleting)) y
        ((unmountedOn located doomed).without doomed).asked :=
      Follows.cons ⟨⟨0, rfl, attached_lists, rfl⟩, trivial⟩ ⟨_, hopening.append hdeleting⟩
    obtain ⟨y, hlocating⟩ := hlocated
    have hclear := (hattaching.append hlocating).executes deleting_runs
    have hrun := hclear.mono fun _ _ _ _ h => h.1
    refine ⟨_, _, hrun, (deletion_touches_target doomed false oneDiskWorld _ _ _
      oneDiskWorld_sound fun e he => ?_).1 7 5 rfl hone hrun⟩
    obtain ⟨_, hanswered⟩ := hclear.answered e he
    exact hanswered.2
  · obtain ⟨u, hvanishing, hleads, hunreplaced, hclear⟩ := vanishing_follows
    have hrun := hvanishing.executes vanishing_runs
    exact ⟨_, u, _, hrun, (deletion_touches_target doomed false oneDiskWorld _ u _
      oneDiskWorld_sound hclear).2 _ hleads hunreplaced hrun⟩

end WispDisk.Cli
