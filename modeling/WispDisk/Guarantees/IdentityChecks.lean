import WispDisk.Guarantees.SparedTarget

/-! What the identity checks of a deletion establish: each of them reads one translation, from an
address to a number or from a number to a volume, at its own moment. A number that still leads to the
target has led to it all along, so the last check vouches for those before it. -/
namespace WispDisk.Cli
open Procedures World
set_option autoImplicit false

variable {α β : Type} {target : Disk} {K : World → (c : Call) → Answer c → Prop}
variable {others : World → World → Prop} {P Q : World → Prop}

/-! ## What a check establishes -/

/-- The target's address is read, and if a disk is at that address it is the target. -/
structure Held (target : Disk) (w : World) : Prop where
  sound : w.Sound
  created : target ∈ w.created
  read : target.location ∈ w.read.addresses
  located : ∀ d ∈ w.disks, d.location = target.location → d = target

/-- Nor does Windows show another disk at that address. -/
structure Alone (target : Disk) (w : World) : Prop where
  held : Held target w
  shown : ∀ d ∈ w.shown, d.location = target.location → d = target

/-- Whenever the call has Windows enumerate the disks, no other disk is shown at the target's address,
if that is read. -/
def Clear (target : Disk) (w : World) : (c : Call) → Answer c → Prop
  | .getClassDevs, _ => target.location ∈ w.read.addresses →
      ∀ d ∈ w.shown, d.location = target.location → d = target
  | _, _ => True

/-- `F` as long as a sign leads to the target. Once it does not, the target is offline, and the sign
will not lead to it again. -/
structure While (target : Disk) (sign : Sign) (F : World → Prop) (w : World) : Prop where
  created : target ∈ w.created
  custody : w.leads sign = some target ∨ target ∉ w.disks
  holds : w.leads sign = some target → F w

/-- The mount point is read, has been the target's and leads to no other disk. -/
structure Claimed (target : Disk) (point : WideString) (w : World) : Prop where
  read : point ∈ w.read.points
  mounted : (point, target) ∈ w.mounted
  leads : ∀ d, w.mounts point = some d → d = target

theorem Claimed.steady {point : WideString} {w w' : World} (h : Claimed target point w)
    (hs : Steady target w w') : Claimed target point w' :=
  ⟨hs.points point h.read, hs.mounted point h.mounted, hs.point point h.read h.mounted h.leads⟩

theorem While.refine {sign : Sign} {F G : World → Prop} {w : World} (h : While target sign F w)
    (hFG : w.leads sign = some target → F w → G w) : While target sign G w :=
  ⟨h.created, h.custody, fun hleads => hFG hleads (h.holds hleads)⟩

theorem While.steady {sign : Sign} {F : World → Prop} {w w' : World}
    (hF : ∀ w w', Steady target w w' → F w → F w') (h : While target sign F w)
    (hs : Steady target w w') : While target sign F w' := by
  refine ⟨hs.created target h.created, ?_, fun hleads => hF w w' hs (h.holds ?_)⟩
  · by_cases hstill : target ∈ w'.disks
    · refine Or.inl (hs.stays sign ?_ hstill)
      exact h.custody.resolve_right (not_not.mpr (hs.still h.created hstill))
    · exact Or.inr hstill
  · cases hs.comes sign hleads with
    | inl hled => exact hled
    | inr honline => exact h.custody.resolve_right (not_not.mpr honline)

theorem Alone.steady {w w' : World} (h : Alone target w) (hs : Steady target w w') :
    Alone target w' := by
  obtain ⟨⟨hsound, hcreated, hread, hlocated⟩, hshown⟩ := h
  refine ⟨⟨hs.sound hsound, hs.created target hcreated, hs.addresses _ hread,
    hs.located hcreated hread hlocated⟩, fun d hd => ?_⟩
  cases hs.shown d hd with
  | inl hd => exact hshown d hd
  | inr hd => exact hlocated d hd

/-- No other disk has had the device ID of the target. -/
def Named (target : Disk) (w : World) : Prop :=
  w.Sound ∧ ∀ d ∈ w.created, d.allocation = target.allocation → d = target

section
variable (hsteady : ∀ w w', others w w' → Steady target w w')
include hsteady

theorem kept_steady (h : ∀ w w', Steady target w w' → P w → P w') : Kept others P :=
  ⟨fun w w' hs => h w w' (hsteady w w' hs),
    fun w _ _ w' hc ha => h w w' (Steady.inquiry hc ha)⟩

theorem kept_held : Kept others (Held target) :=
  kept_steady hsteady fun _ _ hs h =>
    ⟨hs.sound h.sound, hs.created target h.created, hs.addresses _ h.read,
      hs.located h.created h.read h.located⟩

theorem kept_named : Kept others (Named target) :=
  kept_steady hsteady fun _ _ hs h => ⟨hs.sound h.1, hs.named h.2⟩

theorem kept_handle (handle : Handle) (object : Object) :
    Kept others fun w => w.handles handle = some object :=
  kept_steady hsteady fun _ _ hs h => hs.handles handle object h

theorem kept_alone : Kept others (Alone target) :=
  kept_steady hsteady fun _ _ hs h => h.steady hs

theorem kept_while {sign : Sign} {F : World → Prop}
    (hF : ∀ w w', Steady target w w' → F w → F w') : Kept others (While target sign F) :=
  kept_steady hsteady fun _ _ hs h => h.steady hF hs

theorem kept_sign (sign : Sign) : Kept others (While target sign fun _ => True) :=
  kept_while hsteady fun _ _ _ h => h

end

/-! ## Addresses and numbers -/

/-- An address is that of the disk that the handle names, which Windows shows then. -/
theorem scsiLocation_ensures {handle : Handle} {F : ScsiLocation → World → Prop}
    (hP : Kept others P) (hF : ∀ l, Kept others (F l))
    (h : ∀ w d, P w → d.location ∈ w.read.addresses → d ∈ w.shown →
      w.handles handle = some (.disk d) → F d.location w) :
    Ensures target K others P (scsiLocation handle) (Gives P F) := by
  refine Ensures.ask (F := fun (answer : Except ULONG (ScsiLocation × ℕ)) w =>
    ∀ l n, answer = .ok (l, n) → F l w) hP trivial (fun w answer w' _ hw' ha _ l n heq => ?_)
    fun answer => ?_
  · subst heq
    obtain ⟨rfl, d, hd, hhandle, rfl⟩ := ha
    exact h _ d hw' List.mem_cons_self hd hhandle
  · have hkept : Kept others fun w => P w ∧ ∀ l n, answer = .ok (l, n) → F l w :=
      hP.and (Kept.all fun l => Kept.all fun n => (hF l).given)
    cases answer with
    | error code => exact Ensures.fail hkept fun w hw => hw.1
    | ok answer =>
      obtain ⟨l, n⟩ := answer
      simp only
      split
      · exact Ensures.fail hkept fun w hw => hw.1
      · refine Ensures.done hkept fun w hw => ⟨hw.1, fun l' heq => ?_⟩
        cases heq
        exact hw.2 l n rfl

theorem withContext_ensures {text : String} {p : Fallible α} {F : α → World → Prop}
    (hP : Kept others P) (hF : ∀ a, Kept others (F a))
    (h : Ensures target K others P p (Gives P F)) :
    Ensures target K others P (withContext text p) (Gives P F) := by
  refine Triple.bind h fun r => Ensures.done (hP.gives hF r) fun w hw => ⟨hw.1, fun a heq => ?_⟩
  cases r with
  | error error => cases heq
  | ok b =>
    cases heq
    exact hw.2 _ rfl

section
variable (hsteady : ∀ w w', others w w' → Steady target w w')
include hsteady

/-- `physicalDiskAddress` asks the disk that had the number when it was opened. -/
theorem physicalDiskAddress_ensures {number : ULONG} {G : Disk → World → Prop}
    {F : ScsiLocation → World → Prop} (hP : Kept others P) (hG : ∀ d, Kept others (G d))
    (hF : ∀ l, Kept others (F l)) (hopen : ∀ w d, P w → w.numbers number = some d → G d w)
    (h : ∀ w d, P w → G d w → d.location ∈ w.read.addresses → d ∈ w.shown → F d.location w) :
    Ensures target K others P (physicalDiskAddress number) (Gives P F) := by
  have hnames : ∀ handle, Kept others fun w => ∃ d, w.handles handle = some (.disk d) ∧ G d w :=
    fun handle => Kept.exist fun d => (kept_handle hsteady handle (.disk d)).and (hG d)
  refine Ensures.ask (F := fun (answer : Except ULONG Handle) w =>
    ∀ handle, answer = .ok handle → ∃ d, w.handles handle = some (.disk d) ∧ G d w) hP trivial
    (fun w answer w' hw hw' ha _ handle heq => ?_) fun answer => ?_
  · subst heq
    obtain ⟨_, object, ⟨d, hd, rfl⟩, rfl⟩ := ha
    exact ⟨d, Function.update_self _ _ _, hopen _ d hw' hd⟩
  · have hkept : Kept others fun w => P w ∧
        ∀ handle, answer = .ok handle → ∃ d, w.handles handle = some (.disk d) ∧ G d w :=
      hP.and (Kept.all fun handle => (hnames handle).given)
    cases answer with
    | error code => exact Ensures.fail hkept fun w hw => hw.1
    | ok handle =>
      have haddress : Ensures target K others
          (fun w => P w ∧ ∃ d, w.handles handle = some (.disk d) ∧ G d w) (scsiLocation handle)
          (Gives (fun w => P w ∧ ∃ d, w.handles handle = some (.disk d) ∧ G d w) F) := by
        refine scsiLocation_ensures (hP.and (hnames handle)) hF fun w d hw hread hd hhandle => ?_
        obtain ⟨hw, d', hd', hG'⟩ := hw
        rw [hd'] at hhandle
        cases hhandle
        exact h w d hw hG' hread hd
      refine (withContext_ensures (hP.and (hnames handle)) hF haddress).weaken
        (fun w hw => ⟨hw.1, hw.2 handle rfl⟩) fun r w hr => ⟨hr.1.1, hr.2⟩

/-- One interface that answers with the target's address answers with its number. -/
theorem interfaceNumber_ensures (index : ℕ) :
    Ensures target K others (Alone target) (interfaceNumber target.location index) fun r w =>
      Alone target w ∧ ∀ n, r = some n →
        While target (.number n) (fun _ => True) w := by
  have halone := kept_alone hsteady
  have hnone : ∀ {P : World → Prop}, Kept others P → (∀ w, P w → Alone target w) →
      Ensures target K others P (.done none) fun r w => Alone target w ∧ ∀ n, r = some n →
        While target (.number n) (fun _ => True) w :=
    fun hP h => Ensures.done hP fun w hw => ⟨h w hw, fun _ heq => by cases heq⟩
  refine Ensures.pass halone trivial fun answer => ?_
  cases answer with
  | error error => exact hnone halone fun w hw => hw
  | ok path =>
    refine Ensures.pass halone trivial fun answer => ?_
    cases answer with
    | error code => exact hnone halone fun w hw => hw
    | ok disk =>
      have haddress : Ensures target K others (Alone target) (scsiLocation disk)
          (Gives (Alone target) fun l w => l = target.location →
            w.handles disk = some (.disk target)) := by
        refine scsiLocation_ensures halone
          (fun l => (kept_handle hsteady disk (.disk target)).given) fun w d hw _ hd hhandle hsame => ?_
        rw [hhandle, hw.shown d hd hsame]
      refine Triple.bind haddress fun r => ?_
      have hgives : Kept others (Gives (Alone target) (fun l w => l = target.location →
          w.handles disk = some (.disk target)) r) :=
        halone.gives (fun l => (kept_handle hsteady disk (.disk target)).given) r
      cases r with
      | error error => exact hnone hgives fun w hw => hw.1
      | ok actual =>
        by_cases hsame : actual ≠ target.location
        · simp only [if_pos hsame]
          exact hnone hgives fun w hw => hw.1
        · simp only [if_neg hsame]
          refine Triple.bind (R := Gives (Alone target) fun n w =>
            While target (.number n) (fun _ => True) w) ?_ fun r => ?_
          · refine Ensures.ask (F := fun (answer : Except ULONG (StorageDeviceNumber × ℕ)) w =>
              ∀ number n, answer = .ok (number, n) →
                While target (.number number.deviceNumber) (fun _ => True) w)
              hgives trivial (fun w answer w' hw _ ha _ number n heq => ?_) fun answer => ?_
            · subst heq
              obtain ⟨rfl, d, hhandle, hnumber⟩ := ha
              have htarget := hw.2 actual rfl (not_not.mp hsame)
              rw [htarget] at hhandle
              cases hhandle
              exact ⟨hw.1.held.created, Or.inl hnumber, fun _ => trivial⟩
            · have hkept := hgives.and (Kept.all fun number : StorageDeviceNumber =>
                Kept.all fun n : ℕ => (kept_sign hsteady (.number number.deviceNumber)).given
                  (T := answer = .ok (number, n)))
              cases answer with
              | error code =>
                exact Ensures.fail hkept fun w hw => hw.1.1
              | ok answer =>
                obtain ⟨number, n⟩ := answer
                simp only
                split
                · exact Ensures.fail hkept fun w hw => hw.1.1
                split
                · exact Ensures.fail hkept fun w hw => hw.1.1
                · refine Ensures.done hkept fun w hw => ⟨hw.1.1, fun n' heq => ?_⟩
                  cases heq
                  exact hw.2 number n rfl
          · have hkept := halone.gives (fun n => kept_sign hsteady (.number n)) r
            cases r with
            | error error => exact hnone hkept fun w hw => hw.1
            | ok number =>
              refine Ensures.done hkept fun w hw => ⟨hw.1, fun n heq => ?_⟩
              cases heq
              exact hw.2 number rfl

end

/-- The disk is alone at its address, and the number has led to it since that is known. -/
def Found (target : Disk) (number : ULONG) (w : World) : Prop :=
  Alone target w ∧ While target (.number number) (fun _ => True) w

section
variable (hsteady : ∀ w w', others w w' → Steady target w w')
include hsteady

theorem kept_found (number : ULONG) : Kept others (Found target number) :=
  (kept_alone hsteady).and (kept_sign hsteady (.number number))

/-- The interfaces are searched once none of another disk has the target's address. -/
theorem findPhysicalDisk_ensures (hclear : ∀ w c answer, K w c answer → Clear target w c answer) :
    Ensures target K others (Held target) (findPhysicalDisk target.location)
      (Gives (Held target) fun found w => ∀ n, found = some n → Found target n w) := by
  have hheld := kept_held hsteady
  have halone := kept_alone hsteady
  have hfound : ∀ found : Option ULONG, Kept others fun w => ∀ n, found = some n →
      While target (.number n) (fun _ => True) w :=
    fun found => Kept.all fun n => (kept_sign hsteady (.number n)).given
  refine Ensures.ask (F := fun _ => Alone target) hheld trivial
    (fun w answer w' hw hw' ha hclass => ?_) fun answer => ?_
  · cases ha
    exact ⟨hw, hclear w _ _ hclass hw.read⟩
  have hboth := hheld.and halone
  cases answer with
  | error code => exact Ensures.fail hboth fun w hw => hw.1
  | ok count =>
    refine (Ensures.tryFold halone hfound (List.range count) (fun matched index _ => ?_) none).weaken
      (fun w hw => ⟨hw.2, fun _ heq => by cases heq⟩) fun r w hr =>
        ⟨hr.1.held, fun found heq n hn => ⟨hr.1, hr.2 found heq n hn⟩⟩
    have hmatched := halone.and (hfound matched)
    refine Ensures.pass hmatched trivial fun answer => ?_
    cases answer with
    | error code => exact Ensures.fail hmatched fun w hw => hw.1
    | ok done =>
      have hnumber := Ensures.frame (interfaceNumber_inquires target.location index)
        (hfound matched) (interfaceNumber_ensures (K := K) hsteady index)
      refine Triple.bind hnumber fun found => ?_
      have hkept := (halone.and (hfound found)).and (hfound matched)
      cases found with
      | none =>
        refine Ensures.done hkept fun w hw => ⟨hw.1.1, fun m heq => ?_⟩
        cases heq
        exact hw.2
      | some number =>
        cases matched with
        | none =>
          refine Ensures.done hkept fun w hw => ⟨hw.1.1, fun m heq => ?_⟩
          cases heq
          exact hw.1.2
        | some previous =>
          simp only
          split
          · exact Ensures.fail hkept fun w hw => hw.1.1
          · refine Ensures.done hkept fun w hw => ⟨hw.1.1, fun m heq => ?_⟩
            cases heq
            exact hw.2

/-- The number that `waitForPhysicalDisk` finds is the target's for as long as it leads to it. -/
theorem waitForPhysicalDisk_ensures
    (hclear : ∀ w c answer, K w c answer → Clear target w c answer) :
    Ensures target K others (Held target) (waitForPhysicalDisk target.location)
      (Gives (Held target) (Found target)) := by
  have hheld := kept_held hsteady
  refine Ensures.pass hheld trivial fun answer => ?_
  cases answer with
  | error error => exact Ensures.fail hheld fun w hw => hw
  | ok registered =>
    have hpause : Inquires (ask .waitNotification) :=
      Procedure.only_call trivial fun _ => Procedure.only_done _
    refine Ensures.pass hheld trivial fun retries => ?_
    exact Ensures.retry hheld (kept_found hsteady) (findPhysicalDisk_ensures hsteady hclear) hpause
      retries

end

/-! ## Volumes -/

/-- A volume handle that has been asked for the disk number is one of the target's. -/
theorem diskNumber_ensures {handle : Handle} {F : ULONG → World → Prop} (hP : Kept others P)
    (hF : ∀ n, Kept others (F n))
    (h : ∀ w d n, P w → n ∈ w.read.numbers → w.handles handle = some (.volume d) →
      w.numbers n = some d → F n w) :
    Ensures target K others P (Volume.diskNumber handle) (Gives P F) := by
  refine Ensures.ask (F := fun (answer : Except ULONG (VolumeDiskExtents × ℕ)) w =>
    ∀ extents n, answer = .ok (extents, n) → extents.numberOfDiskExtents = 1 →
      F extents.diskNumber w) hP trivial (fun w answer w' _ hw' ha _ extents n heq hone => ?_)
    fun answer => ?_
  · subst heq
    obtain ⟨rfl, d, hhandle, hnumber⟩ := ha
    exact h _ d _ hw' List.mem_cons_self hhandle (hnumber hone)
  · have hkept := hP.and (Kept.all fun extents : VolumeDiskExtents => Kept.all fun n : ℕ =>
      ((hF extents.diskNumber).given (T := extents.numberOfDiskExtents = 1)).given
        (T := answer = .ok (extents, n)))
    cases answer with
    | error code => exact Ensures.fail hkept fun w hw => hw.1
    | ok answer =>
      obtain ⟨extents, n⟩ := answer
      simp only
      split
      · exact Ensures.fail hkept fun w hw => hw.1
      by_cases hone : extents.numberOfDiskExtents = 1
      · rw [if_neg (not_not.mpr hone)]
        refine Ensures.done hkept fun w hw => ⟨hw.1, fun n' heq => ?_⟩
        cases heq
        exact hw.2 extents n rfl hone
      · rw [if_pos hone]
        exact Ensures.fail hkept fun w hw => hw.1

/-- The mount points of a volume. -/
def ClaimedAll (target : Disk) (points : List WideString) (w : World) : Prop :=
  ∀ point ∈ points, Claimed target point w

/-- The mount points of the listed volumes are the target's, as long as the number and the volume's
name lead to it. -/
def Listed (target : Disk) (number : ULONG) (infos : List VolumeInfo) (w : World) : Prop :=
  ∀ info ∈ infos, While target (.number number)
    (While target (.volume info.name) (ClaimedAll target info.mountPoints)) w

/-- `F` if the handle names a volume of the target. -/
def Names (target : Disk) (handle : Handle) (F : World → Prop) (w : World) : Prop :=
  ∃ object, w.handles handle = some object ∧ (object = .volume target → F w)

theorem ClaimedAll.steady {points : List WideString} (w w' : World) (hs : Steady target w w')
    (h : ClaimedAll target points w) : ClaimedAll target points w' :=
  fun point hpoint => (h point hpoint).steady hs

theorem volumeDevicePath_ok {name path : WideString} (h : volumeDevicePath name = .ok path) :
    path ++ [backslash] = name := by
  unfold volumeDevicePath at h
  by_cases hlast : name.getLast? = some backslash
  · rw [if_pos hlast] at h
    cases h
    exact List.dropLast_append_getLast? backslash hlast
  · rw [if_neg hlast] at h
    cases h

/-- A volume that is opened by its name is the disk's that the name leads to. -/
theorem openVolume_ensures {name path : WideString} {access : Access}
    {next : Except ULONG Handle → Windows α} {F : World → Prop} {Q : α → World → Prop}
    (hname : path ++ [backslash] = name) (hP : Kept others P)
    (h : ∀ w, P w → w.volumes name = some target → F w)
    (hfailed : ∀ code, Ensures target K others P (next (.error code)) Q)
    (hnext : ∀ handle, Ensures target K others (fun w => P w ∧ Names target handle F w)
      (next (.ok handle)) Q) :
    Ensures target K others P (.call (.createFile (.path path) access) next) Q := by
  refine Ensures.ask (F := fun (answer : Except ULONG Handle) w => ∀ handle, answer = .ok handle →
    Names target handle F w) hP trivial (fun w answer w' _ hw' ha _ handle heq => ?_) fun answer => ?_
  · subst heq
    obtain ⟨_, object, hopens, rfl⟩ := ha
    refine ⟨object, Function.update_self _ _ _, fun hobject => h _ hw' ?_⟩
    cases hopens with
    | inl hvolume =>
      obtain ⟨d, hd, heq⟩ := hvolume
      rw [heq] at hobject
      cases hobject
      rw [hname] at hd
      exact hd
    | inr hdisk =>
      obtain ⟨d, _, heq⟩ := hdisk
      rw [heq] at hobject
      cases hobject
  · cases answer with
    | error code => exact (hfailed code).weaken (fun w hw => hw.1) fun _ _ h => h
    | ok handle => exact (hnext handle).weaken (fun w hw => ⟨hw.1, hw.2 handle rfl⟩) fun _ _ h => h

section
variable (hsteady : ∀ w w', others w w' → Steady target w w')
include hsteady

theorem kept_claimed (number : ULONG) (name : WideString) (points : List WideString) :
    Kept others (While target (.number number)
      (While target (.volume name) (ClaimedAll target points))) :=
  kept_while hsteady fun _ _ hs h => h.steady ClaimedAll.steady hs

theorem kept_listed (number : ULONG) (infos : List VolumeInfo) :
    Kept others (Listed target number infos) :=
  Kept.all fun info => (kept_claimed hsteady number info.name info.mountPoints).given

theorem kept_names (handle : Handle) {F : World → Prop} (hF : Kept others F) :
    Kept others (Names target handle F) :=
  Kept.exist fun object => (kept_handle hsteady handle object).and hF.given

/-- A volume handle under the number is the target's, as long as the number leads to it. -/
theorem numbered_ensures {handle : Handle} {number : ULONG} {F G : World → Prop}
    (hP : Kept others P) (hF : Kept others F) (hG : Kept others G)
    (hfound : ∀ w, P w → Found target number w)
    (h : ∀ w d, P w → w.handles handle = some (.volume d) →
      While target (.number number) (fun w => d = target ∧ F w) w → G w) :
    Ensures target K others (fun w => P w ∧ Names target handle F w) (Volume.diskNumber handle)
      (Gives (fun w => P w ∧ Names target handle F w) fun n w => n = number → G w) := by
  refine diskNumber_ensures (hP.and (kept_names hsteady handle hF))
    (fun n => hG.given (T := n = number)) fun w d n hw _ hhandle hn heq => ?_
  obtain ⟨hw, object, hobject, hvolume⟩ := hw
  subst heq
  rw [hobject] at hhandle
  cases hhandle
  refine h w d hw hobject ((hfound w hw).2.refine fun hleads _ => ?_)
  have hd : d = target := Option.some.inj (hn.symm.trans hleads)
  exact ⟨hd, hvolume (congrArg Object.volume hd)⟩

/-- The mount points that are listed for a volume of the disk are the target's. -/
theorem volumeForDisk_ensures (number : ULONG) (infos : List VolumeInfo)
    (name : Except Error WideString) :
    Ensures target K others
      (fun w => Found target number w ∧ Listed target number infos w)
      (volumeForDisk number infos name) (Gives (Found target number) (Listed target number)) := by
  have hfound := kept_found hsteady number
  have hboth := hfound.and (kept_listed hsteady number infos)
  cases name with
  | error error => exact Ensures.fail hboth fun w hw => hw.1
  | ok name =>
    cases hpath : volumeDevicePath name with
    | error error =>
      unfold volumeForDisk
      simp only [hpath]
      exact Ensures.fail hboth fun w hw => hw.1
    | ok path =>
      unfold volumeForDisk
      simp only [hpath]
      have hvolume : Kept others (While target (.volume name) fun _ => True) :=
        kept_sign hsteady (.volume name)
      have hunder : Kept others (While target (.number number)
          (While target (.volume name) fun _ => True)) :=
        kept_while hsteady fun _ _ hs h => h.steady (fun _ _ _ h => h) hs
      have hopens : ∀ w, Found target number w ∧ Listed target number infos w →
          w.volumes name = some target → While target (.volume name) (fun _ => True) w :=
        fun w hw hleads => ⟨hw.1.1.held.created, Or.inl hleads, fun _ => trivial⟩
      refine openVolume_ensures (volumeDevicePath_ok hpath) hboth hopens
        (fun code => Ensures.fail hboth fun w hw => hw.1) fun handle => ?_
      refine Triple.bind (numbered_ensures hsteady hboth hvolume hunder (fun w hw => hw.1)
        fun w d _ _ hwhile => hwhile.refine fun _ hd => hd.2) fun r => ?_
      have hbound := hboth.and (kept_names hsteady handle hvolume)
      have hgives := hbound.gives (fun n : ULONG => hunder.given (T := n = number)) r
      cases r with
      | error error =>
        simp only
        split
        · refine Ensures.done hgives fun w hw => ⟨hw.1.1.1, fun infos' heq => ?_⟩
          cases heq
          exact hw.1.1.2
        · exact Ensures.fail hgives fun w hw => hw.1.1.1
      | ok actual =>
        by_cases hsame : actual = number
        · simp only [if_pos hsame]
          refine Ensures.ask (F := fun (answer : Except Error (List WideString)) w =>
            ∀ points, answer = .ok points → While target (.number number)
              (While target (.volume name) (ClaimedAll target points)) w) hgives trivial
            (fun w answer w' _ hw ha _ points heq => ?_) fun answer => ?_
          · subst heq
            obtain ⟨rfl, d, hd, hmounts⟩ := ha
            refine (hw.2 actual rfl hsame).refine fun _ hnamed => hnamed.refine fun hleads _ => ?_
            have htarget : d = target := Option.some.inj (hd.symm.trans hleads)
            subst htarget
            intro point hpoint
            have hmount := hmounts point hpoint
            exact ⟨List.mem_append_left _ hpoint,
              (hw.1.1.1.1.held.sound.mounts point d hmount).2,
              fun d' hd' => Option.some.inj (hd'.symm.trans hmount)⟩
          · have hlisted := hgives.and (Kept.all fun points : List WideString =>
              (kept_claimed hsteady number name points).given (T := answer = .ok points))
            cases answer with
            | error error => exact Ensures.fail hlisted fun w hw => hw.1.1.1.1
            | ok points =>
              refine Ensures.done hlisted fun w hw => ⟨hw.1.1.1.1, fun infos' heq => ?_⟩
              cases heq
              intro info hinfo
              cases List.mem_append.mp hinfo with
              | inl hold => exact hw.1.1.1.2 info hold
              | inr hnew =>
                cases List.mem_singleton.mp hnew
                exact hw.2 points rfl
        · simp only [if_neg hsame]
          refine Ensures.done hgives fun w hw => ⟨hw.1.1.1, fun infos' heq => ?_⟩
          cases heq
          exact hw.1.1.2

end

/-- An open volume and its mount points are the target's, as long as the number leads to it. -/
def Opened (target : Disk) (number : ULONG) (volumes : List Volume) (w : World) : Prop :=
  ∀ volume ∈ volumes, ∃ d, w.handles volume.handle = some (.volume d) ∧
    While target (.number number) (fun w => d = target ∧ ClaimedAll target volume.mountPoints w) w

/-- The volumes are the target's, and their mount points lead to no other disk. -/
structure Ready (target : Disk) (handles : List Handle) (points : List WideString) (w : World) :
    Prop where
  sound : w.Sound
  created : target ∈ w.created
  handle : ∀ handle ∈ handles, w.handles handle = some (.volume target)
  point : ∀ point ∈ points, Claimed target point w

section
variable (hsteady : ∀ w w', others w w' → Steady target w w')
include hsteady

theorem kept_open (number : ULONG) (handle : Handle) (points : List WideString) :
    Kept others fun w => ∃ d, w.handles handle = some (.volume d) ∧
      While target (.number number) (fun w => d = target ∧ ClaimedAll target points w) w :=
  Kept.exist fun d => (kept_handle hsteady handle (.volume d)).and
    (kept_while hsteady fun w w' hs h => ⟨h.1, ClaimedAll.steady w w' hs h.2⟩)

theorem kept_opened (number : ULONG) (volumes : List Volume) :
    Kept others (Opened target number volumes) :=
  Kept.all fun volume => (kept_open hsteady number volume.handle volume.mountPoints).given

theorem kept_ready (handles : List Handle) (points : List WideString) :
    Kept others (Ready target handles points) :=
  kept_steady hsteady fun _ _ hs h =>
    ⟨hs.sound h.sound, hs.created target h.created,
      fun handle hmem => hs.handles handle _ (h.handle handle hmem),
      fun point hmem => (h.point point hmem).steady hs⟩

theorem volumesForDisk_ensures (number : ULONG) :
    Ensures target K others (Found target number) (volumesForDisk number)
      (Gives (Found target number) (Listed target number)) := by
  have hfound := kept_found hsteady number
  refine Ensures.pass hfound trivial fun answer => ?_
  cases answer with
  | error code => exact Ensures.fail hfound fun w hw => hw
  | ok names =>
    exact (Ensures.tryFold hfound (kept_listed hsteady number) names
      (fun infos name _ => volumeForDisk_ensures hsteady number infos name) []).weaken
        (fun w hw => ⟨hw, fun _ hinfo => absurd hinfo List.not_mem_nil⟩) fun _ _ h => h

theorem openInfo_ensures (number : ULONG) (info : VolumeInfo) :
    Ensures target K others (fun w => Found target number w ∧ Listed target number [info] w)
      (Volume.openInfo info number)
      (Gives (Found target number) fun volume => Opened target number [volume]) := by
  have hfound := kept_found hsteady number
  have hboth := hfound.and (kept_listed hsteady number [info])
  unfold Volume.openInfo
  cases hpath : volumeDevicePath info.name with
  | error error => exact Ensures.fail hboth fun w hw => hw.1
  | ok path =>
    simp only
    have hclaimed : Kept others
        (While target (.number number) (ClaimedAll target info.mountPoints)) :=
      kept_while hsteady ClaimedAll.steady
    refine openVolume_ensures (volumeDevicePath_ok hpath) hboth
      (fun w hw hleads => (hw.2 info List.mem_cons_self).refine fun _ hnamed => hnamed.holds hleads)
      (fun code => Ensures.fail hboth fun w hw => hw.1) fun handle => ?_
    have hopen := kept_open hsteady number handle info.mountPoints
    have hbound := hboth.and (kept_names hsteady handle hclaimed)
    refine (Ensures.tryBind (G := fun volume => Opened target number [volume]) hbound
      (fun n => hopen.given (T := n = number)) (numbered_ensures hsteady hboth hclaimed hopen
        (fun w hw => hw.1) fun w d _ hhandle hwhile => ⟨d, hhandle, hwhile.refine
          fun hleads hd => ⟨hd.1, hd.2.holds hleads⟩⟩) fun actual => ?_).weaken (fun _ h => h)
            fun r w hr => ⟨hr.1.1.1, hr.2⟩
    have hkept := hbound.and (hopen.given (T := actual = number))
    by_cases hsame : actual ≠ number
    · rw [if_pos hsame]
      exact (Ensures.bail hkept _).weaken (fun _ h => h) fun r w hr => ⟨hr.1.1, hr.2⟩
    · rw [if_neg hsame]
      refine Ensures.done hkept fun w hw => ⟨hw.1, fun volume heq => ?_⟩
      cases heq
      intro volume hvolume
      cases List.mem_singleton.mp hvolume
      exact hw.2 (not_not.mp hsame)

/-- Every volume of the list is opened. -/
theorem openVolumes_ensures (number : ULONG) (infos : List VolumeInfo) :
    Ensures target K others
      (fun w => Found target number w ∧ Listed target number infos w)
      (Procedure.tryFold (fun volumes info => (Volume.openInfo info number).tryBind fun volume =>
        .done (.ok (volumes ++ [volume]))) [] infos)
      (Gives (fun w => Found target number w ∧ Listed target number infos w)
        (Opened target number)) := by
  have hfound : Kept others (Found target number) := kept_found hsteady number
  have hlisted := hfound.and (kept_listed hsteady number infos)
  refine (Ensures.tryFold hlisted (kept_opened hsteady number) infos
    (fun volumes info hinfo => ?_) []).weaken
      (fun w hw => ⟨hw, fun _ hv => absurd hv List.not_mem_nil⟩) fun _ _ h => h
  have hall := hlisted.and (kept_opened hsteady number volumes)
  have hone : Ensures target K others
      (fun w => (Found target number w ∧ Listed target number infos w) ∧
        Opened target number volumes w) (Volume.openInfo info number)
      (Gives (fun w => (Found target number w ∧ Listed target number infos w) ∧
        Opened target number volumes w) fun volume => Opened target number [volume]) := by
    refine (Ensures.frame (openInfo_inquires info number) hall
      (openInfo_ensures (K := K) hsteady number info)).weaken (fun w hw => ⟨⟨hw.1.1, ?_⟩, hw⟩)
        fun r w hr => ⟨hr.2, hr.1.2⟩
    intro info' hinfo'
    cases List.mem_singleton.mp hinfo'
    exact hw.1.2 info hinfo
  refine (Ensures.tryBind hall (fun volume => kept_opened hsteady number [volume]) hone
    (G := Opened target number) fun volume => ?_).weaken (fun _ h => h)
      fun r w hr => ⟨hr.1.1, hr.2⟩
  refine Ensures.done (hall.and (kept_opened hsteady number [volume])) fun w hw =>
    ⟨hw.1, fun volumes' heq => ?_⟩
  cases heq
  intro v hv
  cases List.mem_append.mp hv with
  | inl hold => exact hw.1.2 v hold
  | inr hnew => exact hw.2 v hnew

/-- The last check finds the target under the number of the volumes, which has led to it all along. -/
theorem verifyPhysicalDiskLocation_ensures (number : ULONG) (volumes : List Volume) :
    Ensures target K others
      (fun w => Found target number w ∧ Opened target number volumes w)
      (verifyPhysicalDiskLocation number target.location)
      (Gives (fun w => Found target number w ∧ Opened target number volumes w)
        fun _ => Ready target (volumes.map Volume.handle)
          (volumes.flatMap Volume.mountPoints)) := by
  have hfound : Kept others (Found target number) := kept_found hsteady number
  have hopened := hfound.and (kept_opened hsteady number volumes)
  have hready : Kept others (Ready target (volumes.map Volume.handle)
      (volumes.flatMap Volume.mountPoints)) := kept_ready hsteady _ _
  have haddress : Ensures target K others
      (fun w => Found target number w ∧ Opened target number volumes w)
      (physicalDiskAddress number)
      (Gives (fun w => Found target number w ∧ Opened target number volumes w)
        fun l w => l = target.location → Ready target (volumes.map Volume.handle)
          (volumes.flatMap Volume.mountPoints) w) := by
    refine physicalDiskAddress_ensures hsteady
      (G := fun d w => d = target → Ready target (volumes.map Volume.handle)
        (volumes.flatMap Volume.mountPoints) w) hopened (fun d => hready.given)
      (fun l => hready.given) (fun w d hw hd htarget => ?_)
      fun w d hw hG _ hd hsame => hG (hw.1.1.shown d hd hsame)
    rw [htarget] at hd
    refine ⟨hw.1.1.held.sound, hw.1.1.held.created, fun handle hmem => ?_, fun point hmem => ?_⟩
    · obtain ⟨volume, hvolume, rfl⟩ := List.mem_map.mp hmem
      obtain ⟨d', hhandle, hwhile⟩ := hw.2 volume hvolume
      rw [hhandle, (hwhile.holds hd).1]
    · obtain ⟨volume, hvolume, hpoint⟩ := List.mem_flatMap.mp hmem
      obtain ⟨d', _, hwhile⟩ := hw.2 volume hvolume
      exact (hwhile.holds hd).2 point hpoint
  refine Ensures.tryBind hopened (fun l => hready.given) haddress fun actual => ?_
  have hkept := hopened.and (hready.given (T := actual = target.location))
  by_cases hsame : actual ≠ target.location
  · rw [if_pos hsame]
    exact (Ensures.bail hkept _).weaken (fun _ h => h) fun r w hr => ⟨hr.1.1, hr.2⟩
  · rw [if_neg hsame]
    exact Ensures.done hkept fun w hw => ⟨hw.1, fun _ _ => hw.2 (not_not.mp hsame)⟩

/-- The volumes that `DiskDeletion::open` returns are the target's. -/
theorem openDisk_ensures (number : ULONG) :
    Ensures target K others (Found target number) (DiskDeletion.openDisk number target.location)
      (Gives (Found target number) fun deletion =>
        Ready target (deletion.volumes.map Volume.handle)
          (deletion.volumes.flatMap Volume.mountPoints)) := by
  have hfound : Kept others (Found target number) := kept_found hsteady number
  have hready : ∀ handles points, Kept others (Ready target handles points) := kept_ready hsteady
  refine Ensures.tryBind hfound (kept_listed hsteady number) (volumesForDisk_ensures hsteady number)
    fun infos => ?_
  have hlisted := hfound.and (kept_listed hsteady number infos)
  refine (Ensures.tryBind hlisted (kept_opened hsteady number)
    (openVolumes_ensures hsteady number infos)
    (G := fun deletion : DiskDeletion => Ready target (deletion.volumes.map Volume.handle)
      (deletion.volumes.flatMap Volume.mountPoints)) fun volumes => ?_).weaken
    (fun _ h => h) fun r w hr => ⟨hr.1.1, hr.2⟩
  have hopened := hfound.and (kept_opened hsteady number volumes)
  refine (Ensures.frame (Procedure.only_tryBind (verifyPhysicalDiskLocation_inquires number _)
    fun _ => Procedure.only_done _) hlisted (Ensures.tryBind hopened (fun _ => hready _ _)
      (verifyPhysicalDiskLocation_ensures hsteady number volumes)
      (G := fun deletion : DiskDeletion => Ready target (deletion.volumes.map Volume.handle)
        (deletion.volumes.flatMap Volume.mountPoints)) fun _ => ?_)).weaken
    (fun w hw => ⟨⟨hw.1.1, hw.2⟩, hw.1⟩) fun r w hr => ⟨hr.2, hr.1.2⟩
  refine Ensures.done (hopened.and (hready _ _)) fun w hw => ⟨hw.1, fun deletion heq => ?_⟩
  cases heq
  exact hw.2

end

end WispDisk.Cli
