import WispDisk.Cli.Inquiries
import WispDisk.Cli.World
import WispDisk.Guarantees.VolumePreparation

/-! A deletion touches its target alone, as long as nothing that the target has given up goes to
another disk while the call runs. The identity checks of the deletion are made once each; what a check
has established of the target is kept by every later step of the others. -/
namespace WispDisk.Cli
open Procedures
set_option autoImplicit false

namespace World

variable {w w' : World} {target : Disk}

/-! ## The condition -/

/-- Once the call has read the target's LUN address or a mount point of it, the others do not give
that to another disk. The last clause only says which disk the target is: the one that is, or comes to
be, allocated under its device ID. -/
def SparesAddress (target : Disk) (w : World) : Change → Prop
  | .created disk => (target ∈ w.created → target.location ∈ w.read.addresses →
        disk.location ≠ target.location) ∧
      (disk.allocation = target.allocation → disk = target)
  | .formatted disk _ points => disk ≠ target → ∀ point ∈ points,
      point ∈ w.read.points → (point, target) ∉ w.mounted
  | _ => True

/-- Nor the target's `PhysicalDrive` number, once that is read. -/
def SparesNumber (target : Disk) (w : World) : Change → Prop
  | .arrived number disk => number ∈ w.read.numbers → (number, target) ∈ w.numbered → disk = target
  | _ => True

/-- What the others' steps and the inquiries of the call keep. What leads to the target does so for as
long as the target is online, and nothing comes to lead to it later. -/
structure Steady (target : Disk) (w w' : World) : Prop where
  sound : w.Sound → w'.Sound
  handles : ∀ handle object, w.handles handle = some object → w'.handles handle = some object
  created : ∀ d ∈ w.created, d ∈ w'.created
  still : target ∈ w.created → target ∈ w'.disks → target ∈ w.disks
  named : (∀ d ∈ w.created, d.allocation = target.allocation → d = target) →
    ∀ d ∈ w'.created, d.allocation = target.allocation → d = target
  addresses : ∀ l ∈ w.read.addresses, l ∈ w'.read.addresses
  points : ∀ point ∈ w.read.points, point ∈ w'.read.points
  located : target ∈ w.created → target.location ∈ w.read.addresses →
    (∀ d ∈ w.disks, d.location = target.location → d = target) →
    ∀ d ∈ w'.disks, d.location = target.location → d = target
  shown : ∀ d ∈ w'.shown, d ∈ w.shown ∨ d ∈ w.disks
  stays : ∀ sign, w.leads sign = some target → target ∈ w'.disks → w'.leads sign = some target
  comes : ∀ sign, w'.leads sign = some target → w.leads sign = some target ∨ target ∈ w.disks
  mounted : ∀ point, (point, target) ∈ w.mounted → (point, target) ∈ w'.mounted
  point : ∀ point ∈ w.read.points, (point, target) ∈ w.mounted →
    (∀ d, w.mounts point = some d → d = target) → ∀ d, w'.mounts point = some d → d = target

theorem Steady.created_disk {disk : Disk} (hp : w.Permits (.created disk))
    (hs : SparesAddress target w (.created disk)) : Steady target w (w.after (.created disk)) where
  sound := fun h => h.after hp
  handles := fun _ _ h => h
  created := fun _ h => List.mem_cons_of_mem _ h
  still := fun hcreated h => by
    cases List.mem_cons.mp h with
    | inl heq => exact absurd (congrArg Disk.allocation heq) (hp.2.2 target hcreated)
    | inr h => exact h
  named := fun hnamed d hd => by
    cases List.mem_cons.mp hd with
    | inl heq =>
      rw [heq]
      exact hs.2
    | inr hd => exact hnamed d hd
  addresses := fun _ h => h
  points := fun _ h => h
  located := fun hcreated hread hlocated d hd => by
    cases List.mem_cons.mp hd with
    | inl heq =>
      rw [heq]
      exact fun hsame => absurd hsame (hs.1 hcreated hread)
    | inr hd => exact hlocated d hd
  shown := fun _ h => Or.inl h
  stays := fun sign h _ => by cases sign <;> exact h
  comes := fun sign h => Or.inl (by cases sign <;> exact h)
  mounted := fun _ h => h
  point := fun _ _ _ h => h

theorem Steady.arrived {number : ULONG} {disk : Disk} (hp : w.Permits (.arrived number disk)) :
    Steady target w (w.after (.arrived number disk)) where
  sound := fun h => h.after hp
  handles := fun _ _ h => h
  created := fun _ h => h
  still := fun _ h => h
  named := id
  addresses := fun _ h => h
  points := fun _ h => h
  located := fun _ _ h => h
  shown := fun d hd => by
    cases List.mem_cons.mp hd with
    | inl heq => exact Or.inr (heq ▸ hp.1)
    | inr hd => exact Or.inl hd
  stays := fun sign h _ => by
    cases sign with
    | number n =>
      have h : w.numbers n = some target := h
      have hne : n ≠ number := by
        intro heq
        rw [heq, hp.2.1] at h
        cases h
      exact (Function.update_of_ne hne _ _).trans h
    | volume name => exact h
    | point point => exact h
  comes := fun sign h => by
    cases sign with
    | number n =>
      have h : Function.update w.numbers number (some disk) n = some target := h
      by_cases heq : n = number
      · rw [heq, Function.update_self] at h
        exact Or.inr (Option.some.inj h ▸ hp.1)
      · rw [Function.update_of_ne heq] at h
        exact Or.inl h
    | volume name => exact Or.inl h
    | point point => exact Or.inl h
  mounted := fun _ h => h
  point := fun _ _ _ h => h

theorem Steady.formatted {disk : Disk} {name : WideString} {points : List WideString}
    (hp : w.Permits (.formatted disk name points))
    (hs : SparesAddress target w (.formatted disk name points)) :
    Steady target w (w.after (.formatted disk name points)) where
  sound := fun h => h.after hp
  handles := fun _ _ h => h
  created := fun _ h => h
  still := fun _ h => h
  named := id
  addresses := fun _ h => h
  points := fun _ h => h
  located := fun _ _ h => h
  shown := fun _ h => Or.inl h
  stays := fun sign h _ => by
    cases sign with
    | number n => exact h
    | volume n =>
      have h : w.volumes n = some target := h
      have hne : n ≠ name := by
        intro heq
        rw [heq, hp.2.1] at h
        cases h
      exact (Function.update_of_ne hne _ _).trans h
    | point point =>
      have h : w.mounts point = some target := h
      have hne : point ∉ points := by
        intro hmem
        rw [hp.2.2 point hmem] at h
        cases h
      exact (if_neg hne).trans h
  comes := fun sign h => by
    cases sign with
    | number n => exact Or.inl h
    | volume n =>
      have h : Function.update w.volumes name (some disk) n = some target := h
      by_cases heq : n = name
      · rw [heq, Function.update_self] at h
        exact Or.inr (Option.some.inj h ▸ hp.1)
      · rw [Function.update_of_ne heq] at h
        exact Or.inl h
    | point point =>
      have h : (if point ∈ points then some disk else w.mounts point) = some target := h
      by_cases hmem : point ∈ points
      · rw [if_pos hmem] at h
        exact Or.inr (Option.some.inj h ▸ hp.1)
      · rw [if_neg hmem] at h
        exact Or.inl h
  mounted := fun _ h => List.mem_append_right _ h
  point := fun point hread hmounted hpoint d hd => by
    have hd : (if point ∈ points then some disk else w.mounts point) = some d := hd
    by_cases hmem : point ∈ points
    · rw [if_pos hmem] at hd
      cases hd
      by_cases heq : disk = target
      · exact heq
      · exact absurd hmounted (hs heq point hmem hread)
    · rw [if_neg hmem] at hd
      exact hpoint d hd

theorem Steady.deleted (disk : Disk) : Steady target w (w.without disk) where
  sound := fun h => h.without disk
  handles := fun _ _ h => h
  created := fun _ h => h
  still := fun _ h => (mem_without.mp h).1
  named := id
  addresses := fun _ h => h
  points := fun _ h => h
  located := fun _ _ h d hd => h d (mem_without.mp hd).1
  shown := fun _ h => Or.inl h
  stays := fun sign h _ => by cases sign <;> exact h
  comes := fun sign h => Or.inl (by cases sign <;> exact h)
  mounted := fun _ h => h
  point := fun _ _ _ h => h

/-- Windows lets go of a disk that is no longer online. -/
theorem Steady.departed {disk : Disk} {interface : Bool} {lost : Sign → Bool}
    (hp : w.Permits (.departed disk interface lost)) :
    Steady target w (w.after (.departed disk interface lost)) where
  sound := fun h => h.after hp
  handles := fun _ _ h => h
  created := fun _ h => h
  still := fun _ h => h
  named := id
  addresses := fun _ h => h
  points := fun _ h => h
  located := fun _ _ h => h
  shown := fun d hd => by
    have hd : d ∈ (if interface = true then w.shown.filter (· ≠ disk) else w.shown) := hd
    cases interface with
    | false => exact Or.inl hd
    | true => exact Or.inl (List.mem_filter.mp hd).1
  stays := fun sign h hstill => leads_departed_other h fun heq => hp (heq ▸ hstill)
  comes := fun sign h => Or.inl (leads_departed h)
  mounted := fun _ h => h
  point := fun point _ _ h d hd => by
    have hd : (w.after (.departed disk interface lost)).leads (.point point) = some d := hd
    exact h d (leads_departed hd)

/-- A step of the others that spares the target's address and mount points. -/
theorem Steady.after {change : Change} (hp : w.Permits change)
    (hs : SparesAddress target w change) : Steady target w (w.after change) := by
  cases change with
  | created disk => exact Steady.created_disk hp hs
  | arrived number disk => exact Steady.arrived hp
  | formatted disk name points => exact Steady.formatted hp hs
  | deleted disk => exact Steady.deleted disk
  | departed disk interface lost => exact Steady.departed hp

/-- What an inquiry does to the machine: nothing but that a handle is opened or more is read. -/
structure Asks (w w' : World) : Prop where
  world : ∃ handles read, w' = { w with handles := handles, read := read }
  handles : ∀ handle object, w.handles handle = some object → w'.handles handle = some object
  addresses : ∀ l ∈ w.read.addresses, l ∈ w'.read.addresses
  numbers : ∀ n ∈ w.read.numbers, n ∈ w'.read.numbers
  points : ∀ point ∈ w.read.points, point ∈ w'.read.points

theorem Asks.refl (w : World) : Asks w w :=
  ⟨⟨w.handles, w.read, rfl⟩, fun _ _ h => h, fun _ h => h, fun _ h => h, fun _ h => h⟩

theorem Asks.readAddresses (w : World) (addresses : List ScsiLocation) :
    Asks w (w.readAddresses addresses) :=
  ⟨⟨_, _, rfl⟩, fun _ _ h => h, fun _ h => List.mem_append_right _ h, fun _ h => h, fun _ h => h⟩

theorem Asks.openHandle {handle : Handle} (hfree : w.handles handle = none) (object : Object)
    (addresses : List ScsiLocation) :
    Asks w ((w.openHandle handle object).readAddresses addresses) := by
  refine ⟨⟨_, _, rfl⟩, fun h o ho => ?_, fun _ h => List.mem_append_right _ h, fun _ h => h,
    fun _ h => h⟩
  have hne : h ≠ handle := by
    intro heq
    rw [heq, hfree] at ho
    cases ho
  exact (Function.update_of_ne hne _ _).trans ho

theorem Asks.inquiry {c : Call} (hc : c.Inquiry) {answer : Answer c}
    (h : w.Answers c answer w') : Asks w w' := by
  cases c with
  | createFile device access =>
    cases answer with
    | error code =>
      cases h
      exact Asks.refl w
    | ok handle =>
      obtain ⟨hfree, object, _, rfl⟩ := h
      exact Asks.openHandle hfree object _
  | getScsiAddress handle =>
    cases answer with
    | error code =>
      cases h
      exact Asks.refl w
    | ok answer =>
      cases h.1
      exact Asks.readAddresses w _
  | getDeviceNumber handle =>
    cases answer with
    | error code =>
      cases h
      exact Asks.refl w
    | ok answer =>
      cases h.1
      exact Asks.refl w
  | getDiskExtents handle =>
    cases answer with
    | error code =>
      cases h
      exact Asks.refl w
    | ok answer =>
      cases h.1
      exact ⟨⟨_, _, rfl⟩, fun _ _ h => h, fun _ h => h, fun _ h => List.mem_cons_of_mem _ h,
        fun _ h => h⟩
  | getVolumePaths name =>
    cases answer with
    | error error =>
      cases h
      exact Asks.refl w
    | ok points =>
      cases h.1
      exact ⟨⟨_, _, rfl⟩, fun _ _ h => h, fun _ h => h, fun _ h => h,
        fun _ h => List.mem_append_right _ h⟩
  | sendListState handle =>
    cases answer with
    | error error =>
      cases h
      exact Asks.refl w
    | ok state =>
      obtain ⟨port, _, _, rfl⟩ := h
      exact Asks.readAddresses w _
  | lockVolume handle => exact hc.elim
  | dismountVolume handle => exact hc.elim
  | unlockVolume handle => exact hc.elim
  | deleteMountPoint volume point => exact hc.elim
  | setMountPoint volume point name => exact hc.elim
  | deleteById adapter adapterInstance id => exact hc.elim
  | _ =>
    cases h
    exact Asks.refl w

/-- An inquiry changes nothing else. -/
theorem Steady.asking (h : Asks w w') : Steady target w w' := by
  obtain ⟨⟨handles, read, rfl⟩, hhandles, haddresses, _, hpoints⟩ := h
  exact
    { sound := fun h => ⟨h.known, h.located, h.issued, h.numbers, h.mounts⟩
      handles := hhandles
      created := fun _ h => h
      still := fun _ h => h
      named := id
      addresses := haddresses
      points := hpoints
      located := fun _ _ h => h
      shown := fun _ h => Or.inl h
      stays := fun sign h _ => by cases sign <;> exact h
      comes := fun sign h => Or.inl (by cases sign <;> exact h)
      mounted := fun _ h => h
      point := fun _ _ _ h => h }

theorem Steady.inquiry {c : Call} (hc : c.Inquiry) {answer : Answer c}
    (h : w.Answers c answer w') : Steady target w w' := Steady.asking (Asks.inquiry hc h)

/-- An inquiry hits no disk. -/
theorem inquiry_hits {e : WindowsEvent} (h : e.call.Inquiry) {disk : Disk} : ¬ w.Hits e disk := by
  obtain ⟨c, answer⟩ := e
  cases c with
  | dismountVolume handle => exact h.elim
  | deleteMountPoint volume point => exact h.elim
  | deleteById adapter adapterInstance id => exact h.elim
  | _ => exact id

/-- What the call hits is the target. -/
def Good (target : Disk) (w : World) (e : WindowsEvent) : Prop :=
  ∀ disk, w.Hits e disk → disk = target

/-- The answers of the machine that have a further property. -/
def AnswersWith (K : World → (c : Call) → Answer c → Prop) (w : World) (c : Call)
    (answer : Answer c) (w' : World) : Prop := w.Answers c answer w' ∧ K w c answer

end World

open World

/-- A triple of a part of a deletion: each call of it that hits a disk hits the target. -/
abbrev Ensures {α : Type} (target : Disk) (K : World → (c : Call) → Answer c → Prop)
    (others : World → World → Prop) (P : World → Prop) (p : Windows α)
    (Q : α → World → Prop) : Prop := Triple (AnswersWith K) others (Good target) P p Q

/-- What the others and the inquiries of the call both keep. -/
structure Kept (others : World → World → Prop) (P : World → Prop) : Prop where
  stable : Stable others P
  inquiry : ∀ (w : World) (c : Call) (answer : Answer c) (w' : World), c.Inquiry →
    w.Answers c answer w' → P w → P w'

/-- `P`, and `F` of the value that the procedure returns. -/
def Gives {α : Type} (P : World → Prop) (F : α → World → Prop) (r : Except Error α) (w : World) :
    Prop := P w ∧ ∀ a, r = .ok a → F a w

variable {α β : Type} {target : Disk} {K : World → (c : Call) → Answer c → Prop}
variable {others : World → World → Prop} {P Q : World → Prop}

namespace Kept

theorem and (hP : Kept others P) (hQ : Kept others Q) : Kept others fun w => P w ∧ Q w :=
  ⟨fun w w' hs h => ⟨hP.stable w w' hs h.1, hQ.stable w w' hs h.2⟩,
    fun w c answer w' hc ha h =>
      ⟨hP.inquiry w c answer w' hc ha h.1, hQ.inquiry w c answer w' hc ha h.2⟩⟩

theorem all {ι : Type} {P : ι → World → Prop} (h : ∀ i, Kept others (P i)) :
    Kept others fun w => ∀ i, P i w :=
  ⟨fun w w' hs hw i => (h i).stable w w' hs (hw i),
    fun w c answer w' hc ha hw i => (h i).inquiry w c answer w' hc ha (hw i)⟩

theorem exist {ι : Type} {P : ι → World → Prop} (h : ∀ i, Kept others (P i)) :
    Kept others fun w => ∃ i, P i w :=
  ⟨fun w w' hs ⟨i, hw⟩ => ⟨i, (h i).stable w w' hs hw⟩,
    fun w c answer w' hc ha ⟨i, hw⟩ => ⟨i, (h i).inquiry w c answer w' hc ha hw⟩⟩

theorem given {T : Prop} (h : Kept others P) : Kept others fun w => T → P w :=
  ⟨fun w w' hs hw hT => h.stable w w' hs (hw hT),
    fun w c answer w' hc ha hw hT => h.inquiry w c answer w' hc ha (hw hT)⟩

theorem pure (T : Prop) : Kept others fun _ => T :=
  ⟨fun _ _ _ h => h, fun _ _ _ _ _ _ h => h⟩

theorem gives {F : α → World → Prop} (hP : Kept others P) (hF : ∀ a, Kept others (F a))
    (r : Except Error α) : Kept others (Gives P F r) :=
  hP.and (all fun a => (hF a).given)

end Kept

namespace Ensures

theorem done {a : α} {Q : α → World → Prop} (hP : Kept others P) (h : ∀ w, P w → Q a w) :
    Ensures target K others P (.done a) Q := Triple.done hP.stable h

/-- A failure gives nothing. -/
theorem fail {F : α → World → Prop} {error : Error} (hP : Kept others P) (h : ∀ w, P w → Q w) :
    Ensures target K others P (.done (.error error)) (Gives Q F) :=
  done hP fun w hw => ⟨h w hw, fun _ heq => by cases heq⟩

theorem bail {F : α → World → Prop} (hP : Kept others P) (text : String) :
    Ensures target K others P (Cli.bail text) (Gives P F) := fail hP fun _ h => h

/-- An inquiry, with what its answer shows at that moment. -/
theorem ask {c : Call} {next : Answer c → Windows α} {F : Answer c → World → Prop}
    {Q : α → World → Prop} (hP : Kept others P) (hc : c.Inquiry)
    (hanswer : ∀ w answer w', P w → P w' → w.Answers c answer w' → K w c answer → F answer w')
    (hnext : ∀ answer, Ensures target K others (fun w => P w ∧ F answer w) (next answer) Q) :
    Ensures target K others P (.call c next) Q := by
  refine Triple.call hP.stable (fun w answer w' hw ha => ⟨?_, ?_⟩) hnext
  · exact fun _ hhit => absurd hhit (inquiry_hits hc)
  · have hw' := hP.inquiry w c answer w' hc ha.1 hw
    exact ⟨hw', hanswer w answer w' hw hw' ha.1 ha.2⟩

/-- An inquiry whose answer does not matter. -/
theorem pass {c : Call} {next : Answer c → Windows α} {R : α → World → Prop}
    (hP : Kept others P) (hc : c.Inquiry)
    (hnext : ∀ answer, Ensures target K others P (next answer) R) :
    Ensures target K others P (.call c next) R :=
  ask (F := fun _ _ => True) hP hc (fun _ _ _ _ _ _ _ => trivial)
    fun answer => (hnext answer).weaken (fun _ hw => hw.1) fun _ _ h => h

theorem inquires {p : Windows α} (hp : Inquires p) (hP : Kept others P) :
    Ensures target K others P p fun _ => P :=
  Triple.only hp hP.stable fun w c answer w' hc hw ha =>
    ⟨fun _ hhit => absurd hhit (inquiry_hits hc), hP.inquiry w c answer w' hc ha.1 hw⟩

theorem passes {p : Fallible α} (hp : Inquires p) (hP : Kept others P) :
    Ensures target K others P p (Gives P fun _ _ => True) :=
  (inquires hp hP).weaken (fun _ h => h) fun _ _ hw => ⟨hw, fun _ _ => trivial⟩

/-- An inquiry keeps what the others keep. -/
theorem frame {p : Windows α} {Q : α → World → Prop} {F : World → Prop} (hp : Inquires p)
    (hF : Kept others F) (h : Ensures target K others P p Q) :
    Ensures target K others (fun w => P w ∧ F w) p fun a w => Q a w ∧ F w :=
  h.conj (inquires hp hF)

theorem tryBind {p : Fallible α} {f : α → Fallible β} {F : α → World → Prop}
    {G : β → World → Prop} (hP : Kept others P) (hF : ∀ a, Kept others (F a))
    (hp : Ensures target K others P p (Gives P F))
    (hf : ∀ a, Ensures target K others (fun w => P w ∧ F a w) (f a) (Gives P G)) :
    Ensures target K others P (p.tryBind f) (Gives P G) := by
  refine Triple.tryBind hp (fun error => (hP.gives hF _).stable) (fun error w hw => ?_) fun a => ?_
  · exact ⟨hw.1, fun _ heq => by cases heq⟩
  · exact (hf a).weaken (fun w hw => ⟨hw.1, hw.2 a rfl⟩) fun _ _ h => h

theorem tryFold {f : β → α → Fallible β} {I : β → World → Prop} (hP : Kept others P)
    (hI : ∀ b, Kept others (I b)) (as : List α)
    (hf : ∀ b, ∀ a ∈ as, Ensures target K others (fun w => P w ∧ I b w) (f b a) (Gives P I))
    (b : β) :
    Ensures target K others (fun w => P w ∧ I b w) (Procedure.tryFold f b as) (Gives P I) := by
  refine (Triple.tryFold (E := P) (I := fun b w => P w ∧ I b w) (fun b => (hP.and (hI b)).stable)
    hP.stable as (fun b a ha => (hf b a ha).weaken (fun _ h => h) fun r w hr => ?_) b).weaken
      (fun _ h => h) fun r w hr => ?_
  · cases r with
    | error error => exact hr.1
    | ok b => exact ⟨hr.1, hr.2 b rfl⟩
  · cases r with
    | error error => exact ⟨hr, fun _ heq => by cases heq⟩
    | ok b =>
      refine ⟨hr.1, fun b' heq => ?_⟩
      cases heq
      exact hr.2

theorem retry {attempt : Fallible (Option α)} {expired : String} {pause : Fallible Unit}
    {F : α → World → Prop} (hP : Kept others P) (hF : ∀ a, Kept others (F a))
    (hattempt : Ensures target K others P attempt
      (Gives P fun found w => ∀ a, found = some a → F a w)) (hpause : Inquires pause)
    (retries : ℕ) :
    Ensures target K others P (Cli.retry attempt expired pause retries) (Gives P F) := by
  have hfound : ∀ found : Option α, Kept others fun w => ∀ a, found = some a → F a w :=
    fun found => Kept.all fun a => (hF a).given
  have hreturn : ∀ a, Ensures target K others
      (fun w => P w ∧ ∀ a', some a = some a' → F a' w) (.done (.ok a)) (Gives P F) := by
    intro a
    refine done (hP.and (hfound (some a))) fun w hw => ⟨hw.1, fun a' heq => ?_⟩
    cases heq
    exact hw.2 a rfl
  induction retries with
  | zero =>
    refine tryBind hP hfound hattempt fun found => ?_
    cases found with
    | none => exact (bail hP expired).weaken (fun w hw => hw.1) fun _ _ h => h
    | some a => exact hreturn a
  | succ retries ih =>
    refine tryBind hP hfound hattempt fun found => ?_
    cases found with
    | none =>
      refine (tryBind hP (fun _ => Kept.pure True) (passes hpause hP) fun _ => ?_).weaken
        (fun w hw => hw.1) fun _ _ h => h
      exact ih.weaken (fun w hw => hw.1) fun _ _ h => h
    | some a => exact hreturn a

end Ensures

end WispDisk.Cli
