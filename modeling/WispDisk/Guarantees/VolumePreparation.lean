import WispDisk.Cli.Inquiries

/-! Preparing the volumes of a disk for deletion is all or restored, whatever succeeds and fails:
without force nothing is dismounted before every volume is locked, nothing is deleted before every
volume is dismounted and unmounted, and a preparation that stops puts back exactly what it took. -/
namespace WispDisk.Cli
open Procedures
set_option autoImplicit false

/-! ## What a trace shows -/

/-- The volume that a call has locked. -/
def lockAcquired : WindowsEvent → Option Handle
  | ⟨.lockVolume handle, .ok ()⟩ => some handle
  | _ => none

def lockFailed : WindowsEvent → Bool
  | ⟨.lockVolume _, .error _⟩ => true
  | _ => false

/-- The volume that a call has dismounted. -/
def dismounted : WindowsEvent → Option Handle
  | ⟨.dismountVolume handle, .ok ()⟩ => some handle
  | _ => none

def dismountFailed : WindowsEvent → Bool
  | ⟨.dismountVolume _, .error _⟩ => true
  | _ => false

/-- The mount point that a call has removed, with its volume. -/
def mountRemoved : WindowsEvent → Option (Handle × WideString)
  | ⟨.deleteMountPoint volume point, .ok ()⟩ => some (volume, point)
  | _ => none

def removalFailed : WindowsEvent → Bool
  | ⟨.deleteMountPoint _ _, .error _⟩ => true
  | _ => false

/-- The mount point that a call tries to restore: its volume, its path and the volume's name. -/
def mountAsked : WindowsEvent → Option (Handle × WideString × WideString)
  | ⟨.setMountPoint volume point name, _⟩ => some (volume, point, name)
  | _ => none

def mountFailed : WindowsEvent → Bool
  | ⟨.setMountPoint _ _ _, .error _⟩ => true
  | _ => false

def unlockAsked : WindowsEvent → Option Handle
  | ⟨.unlockVolume handle, _⟩ => some handle
  | _ => none

def deleteAsked : WindowsEvent → Bool
  | ⟨.deleteById _ _ _, _⟩ => true
  | _ => false

/-- The name of the volume mounted at a path. -/
abbrev MountTable := WideString → Option WideString

/-- What a call does to the mount points of the system. -/
def mountEffect (table : MountTable) : WindowsEvent → MountTable
  | ⟨.deleteMountPoint _ point, .ok ()⟩ => Function.update table point none
  | ⟨.setMountPoint _ point name, .ok ()⟩ => Function.update table point (some name)
  | _ => table

def mountsAfter (table : MountTable) (t : Trace) : MountTable := t.foldl mountEffect table

theorem mountsAfter_append (table : MountTable) (t u : Trace) :
    mountsAfter table (t ++ u) = mountsAfter (mountsAfter table t) u :=
  List.foldl_append

/-! ## One volume -/

namespace Volume

variable {force : Bool} {volume volume' : Volume} {t : Trace} {result : Except Error Unit}

theorem lock_runs (h : Runs (volume.lock force) t (result, volume')) :
    (t = [⟨.lockVolume volume.handle, .ok ()⟩] ∧ result = .ok () ∧
      volume' = { volume with locked := true }) ∨
    (∃ code, t = [⟨.lockVolume volume.handle, .error code⟩] ∧ volume' = volume ∧
      (result = .ok () ↔ force = true)) := by
  obtain ⟨answer, rest, rfl, hrun⟩ := Runs.call_iff.mp h
  cases answer with
  | ok value =>
    obtain ⟨rfl, hresult⟩ := Runs.done_iff.mp hrun
    cases hresult
    exact Or.inl ⟨rfl, rfl, rfl⟩
  | error code =>
    cases force with
    | true =>
      obtain ⟨rfl, hresult⟩ := Runs.done_iff.mp hrun
      cases hresult
      exact Or.inr ⟨code, rfl, rfl, fun _ => rfl, fun _ => rfl⟩
    | false =>
      obtain ⟨rfl, hresult⟩ := Runs.done_iff.mp hrun
      cases hresult
      exact Or.inr ⟨code, rfl, rfl, fun hok => (by cases hok), fun hforce => Bool.noConfusion hforce⟩

theorem dismount_runs (h : Runs volume.dismount t result) :
    (t = [⟨.dismountVolume volume.handle, .ok ()⟩] ∧ result = .ok ()) ∨
    (∃ code error, t = [⟨.dismountVolume volume.handle, .error code⟩] ∧ result = .error error) := by
  obtain ⟨answer, rest, rfl, hrun⟩ := Runs.call_iff.mp h
  obtain ⟨rfl, rfl⟩ := Runs.done_iff.mp hrun
  cases answer with
  | ok value => exact Or.inl ⟨rfl, rfl⟩
  | error code => exact Or.inr ⟨code, _, rfl, rfl⟩

/-- The removals that succeed, in order. -/
def removals (volume : Volume) (points : List WideString) : Trace :=
  points.map fun point => ⟨.deleteMountPoint volume.handle point, .ok ()⟩

theorem removeMountsFrom_runs {points : List WideString}
    (h : Runs (removeMountsFrom points volume) t (result, volume')) :
    ∃ taken, taken <+: points ∧
      volume' = { volume with removedMountPoints := volume.removedMountPoints ++ taken } ∧
      ((t = volume.removals taken ∧ result = .ok () ∧ taken = points) ∨
        ∃ point code error, t = volume.removals taken ++
          [⟨.deleteMountPoint volume.handle point, .error code⟩] ∧ result = .error error) := by
  induction points generalizing volume t with
  | nil =>
    obtain ⟨rfl, hresult⟩ := Runs.done_iff.mp h
    cases hresult
    exact ⟨[], List.prefix_rfl, by rw [List.append_nil], Or.inl ⟨rfl, rfl, rfl⟩⟩
  | cons point points ih =>
    obtain ⟨answer, rest, rfl, hrun⟩ := Runs.call_iff.mp h
    cases answer with
    | error code =>
      obtain ⟨rfl, hresult⟩ := Runs.done_iff.mp hrun
      cases hresult
      exact ⟨[], List.nil_prefix, by rw [List.append_nil],
        Or.inr ⟨point, code, _, rfl, rfl⟩⟩
    | ok value =>
      obtain ⟨taken, hbegins, rfl, hrest⟩ := ih hrun
      refine ⟨point :: taken, List.cons_prefix_cons.mpr ⟨rfl, hbegins⟩, ?_, ?_⟩
      · rw [List.append_assoc, List.singleton_append]
      · rcases hrest with ⟨rfl, rfl, rfl⟩ | ⟨failed, code, error, rfl, rfl⟩
        · exact Or.inl ⟨rfl, rfl, rfl⟩
        · exact Or.inr ⟨failed, code, error, rfl, rfl⟩

/-- What the restoration of one volume calls: its removed mount points in order, then an unlock or
none. -/
structure RestoredBy (volume : Volume) (t : Trace) : Prop where
  attempts : t.filterMap mountAsked =
    volume.removedMountPoints.map fun point => (volume.handle, point, volume.name)
  calls : ∀ e ∈ t, (mountAsked e).isSome = true ∨ (unlockAsked e).isSome = true
  unlock : t.filterMap unlockAsked = [] ∨ (volume.locked = true ∧ ∃ sets answer,
    t = sets ++ [⟨.unlockVolume volume.handle, answer⟩] ∧ sets.filterMap unlockAsked = [])

theorem restoreRemovedMount_runs {index : ℕ} {point : WideString}
    (h : Runs (volume.restoreRemovedMount index point) t (result, volume')) :
    ∃ answer, (t = [⟨.setMountPoint volume.handle point volume.name, answer⟩] ∧
        volume' = volume) ∨
      ∃ unlocked, index + 1 = volume.removedMountPoints.length ∧ volume.locked = true ∧
        t = [⟨.setMountPoint volume.handle point volume.name, answer⟩,
          ⟨.unlockVolume volume.handle, unlocked⟩] := by
  obtain ⟨answer, rest, rfl, hrun⟩ := Runs.call_iff.mp h
  refine ⟨answer, ?_⟩
  by_cases hrelease :
      (index + 1 == volume.removedMountPoints.length && volume.locked) = true
  · rw [if_pos hrelease] at hrun
    obtain ⟨pair, t₁, t₂, hunlock, hdone, rfl⟩ := Runs.bind_iff.mp hrun
    obtain ⟨unlocked, rest, rfl, hreleased⟩ := Runs.call_iff.mp hunlock
    have hrest : rest = [] := by
      cases unlocked with
      | ok value => exact (Runs.done_iff.mp hreleased).1
      | error code => exact (Runs.done_iff.mp hreleased).1
    obtain ⟨rfl, _⟩ := Runs.done_iff.mp hdone
    rw [Bool.and_eq_true, beq_iff_eq] at hrelease
    rw [hrest]
    exact Or.inr ⟨unlocked, hrelease.1, hrelease.2, rfl⟩
  · rw [if_neg hrelease] at hrun
    obtain ⟨rfl, hresult⟩ := Runs.done_iff.mp hrun
    cases hresult
    exact Or.inl ⟨rfl, rfl⟩

theorem restoreMountsFrom_runs {index : ℕ} {points : List WideString} {failure : Option Error}
    (hlength : index + points.length = volume.removedMountPoints.length)
    (h : Runs (restoreMountsFrom index points volume failure) t (result, volume')) :
    t.filterMap mountAsked = points.map (fun point => (volume.handle, point, volume.name)) ∧
      (∀ e ∈ t, (mountAsked e).isSome = true ∨ (unlockAsked e).isSome = true) ∧
      (t.filterMap unlockAsked = [] ∨ (volume.locked = true ∧ ∃ sets answer,
        t = sets ++ [⟨.unlockVolume volume.handle, answer⟩] ∧ sets.filterMap unlockAsked = [])) := by
  induction points generalizing volume t index failure with
  | nil =>
    have ht : t = [] := by
      cases failure with
      | none => exact (Runs.done_iff.mp h).1
      | some error => exact (Runs.done_iff.mp h).1
    rw [ht]
    exact ⟨rfl, fun e he => absurd he List.not_mem_nil, Or.inl rfl⟩
  | cons point points ih =>
    obtain ⟨⟨r, next⟩, t₁, t₂, hfirst, hrest, rfl⟩ := Runs.bind_iff.mp h
    have hrest : ∃ failure, Runs (restoreMountsFrom (index + 1) points next failure) t₂
        (result, volume') := by
      cases r with
      | ok value => exact ⟨_, hrest⟩
      | error error => exact ⟨_, hrest⟩
    obtain ⟨failure', hrest⟩ := hrest
    have hlater : index + 1 + points.length = volume.removedMountPoints.length := by
      rw [List.length_cons] at hlength
      omega
    obtain ⟨answer, ⟨rfl, rfl⟩ | ⟨unlocked, hlast, hlocked, rfl⟩⟩ := restoreRemovedMount_runs hfirst
    · obtain ⟨hattempts, hcalls, hunlock⟩ := ih hlater hrest
      refine ⟨?_, ?_, ?_⟩
      · show _ :: t₂.filterMap mountAsked = _
        rw [hattempts]
        rfl
      · intro e he
        rcases List.mem_cons.mp he with rfl | he
        · exact Or.inl rfl
        · exact hcalls e he
      · rcases hunlock with hnone | ⟨hlocked, sets, unlocked, rfl, hsets⟩
        · exact Or.inl hnone
        · exact Or.inr ⟨hlocked, _ :: sets, unlocked, rfl, hsets⟩
    · -- the lock is released at the last index, so nothing is left to restore
      have hnil : points = [] := List.eq_nil_of_length_eq_zero (by omega)
      subst hnil
      have ht : t₂ = [] := by
        cases failure' with
        | none => exact (Runs.done_iff.mp hrest).1
        | some error => exact (Runs.done_iff.mp hrest).1
      rw [ht, List.append_nil]
      refine ⟨rfl, ?_, Or.inr ⟨hlocked, [_], unlocked, rfl, rfl⟩⟩
      intro e he
      rcases List.mem_cons.mp he with rfl | he
      · exact Or.inl rfl
      · rw [List.mem_singleton.mp he]
        exact Or.inr rfl

theorem restoreMounts_runs (h : Runs volume.restoreMounts t (result, volume')) :
    volume.RestoredBy t := by
  obtain ⟨hattempts, hcalls, hunlock⟩ := restoreMountsFrom_runs (Nat.zero_add _) h
  exact ⟨hattempts, hcalls, hunlock⟩

end Volume

/-! ## The phases of a preparation -/

/-- What locking the volumes has done. -/
structure Locking (force : Bool) (volumes locked : List Volume) (t : Trace)
    (result : Except Error Unit) : Prop where
  calls : ∀ e ∈ t, ∃ handle, e.call = .lockVolume handle
  same : List.Forall₂ (fun v w : Volume => w = { v with locked := w.locked }) volumes locked
  acquired : ∀ w ∈ locked, w.locked = true → ⟨.lockVolume w.handle, .ok ()⟩ ∈ t
  failed : result ≠ .ok () ↔ force = false ∧ ∃ e ∈ t, lockFailed e = true
  complete : force = false → result = .ok () →
    t.filterMap lockAcquired = volumes.map Volume.handle

theorem locking_rest (volumes : List Volume) :
    List.Forall₂ (fun v w : Volume => w = { v with locked := w.locked }) volumes volumes :=
  List.forall₂_same.mpr fun _ _ => rfl

theorem eachVolume_lock {force : Bool} {volumes locked : List Volume} {t : Trace}
    {result : Except Error Unit} (hfresh : ∀ v ∈ volumes, v.locked = false)
    (h : Runs (eachVolume (Volume.lock force) volumes) t (result, locked)) :
    Locking force volumes locked t result := by
  induction volumes generalizing t locked result with
  | nil =>
    obtain ⟨rfl, hresult⟩ := Runs.done_iff.mp h
    cases hresult
    refine ⟨fun e he => absurd he List.not_mem_nil, .nil, fun w hw => absurd hw List.not_mem_nil,
      ⟨fun hne => absurd rfl hne, ?_⟩, fun _ _ => rfl⟩
    rintro ⟨_, e, he, _⟩
    exact absurd he List.not_mem_nil
  | cons volume volumes ih =>
    have hunlocked := hfresh volume List.mem_cons_self
    have hrestFresh : ∀ v ∈ volumes, v.locked = false :=
      fun v hv => hfresh v (List.mem_cons_of_mem _ hv)
    obtain ⟨⟨r, next⟩, t₁, t₂, hfirst, hrest, rfl⟩ := Runs.bind_iff.mp h
    have hfirst' := Volume.lock_runs hfirst
    cases r with
    | error error =>
      obtain ⟨rfl, hresult⟩ := Runs.done_iff.mp hrest
      cases hresult
      rw [List.append_nil]
      rcases hfirst' with ⟨_, hok, _⟩ | ⟨code, rfl, rfl, hforced⟩
      · cases hok
      · have hforce : force = false := by
          cases force with
          | true => cases hforced.mpr rfl
          | false => rfl
        refine ⟨?_, locking_rest _, ?_, ⟨fun _ => ⟨hforce, _, List.mem_singleton_self _, rfl⟩,
          fun _ hok => by cases hok⟩, fun _ hok => by cases hok⟩
        · intro e he
          rw [List.mem_singleton.mp he]
          exact ⟨_, rfl⟩
        · intro w hw hlocked
          rw [hfresh w hw] at hlocked
          cases hlocked
    | ok value =>
      obtain ⟨⟨r, rest⟩, t₃, t₄, hlater, hdone, rfl⟩ := Runs.bind_iff.mp hrest
      obtain ⟨rfl, hresult⟩ := Runs.done_iff.mp hdone
      cases hresult
      have hphase := ih hrestFresh hlater
      rw [List.append_nil]
      rcases hfirst' with ⟨rfl, _, rfl⟩ | ⟨code, rfl, rfl, hforced⟩
      · refine ⟨?_, .cons rfl hphase.same, ?_, ?_, ?_⟩
        · intro e he
          rcases List.mem_cons.mp he with rfl | he
          · exact ⟨_, rfl⟩
          · exact hphase.calls e he
        · intro w hw hlocked
          rcases List.mem_cons.mp hw with rfl | hw
          · exact List.mem_cons_self
          · exact List.mem_cons_of_mem _ (hphase.acquired w hw hlocked)
        · rw [hphase.failed]
          apply and_congr_right
          intro _
          constructor
          · rintro ⟨e, he, hfailed⟩
            exact ⟨e, List.mem_cons_of_mem _ he, hfailed⟩
          · rintro ⟨e, he, hfailed⟩
            rcases List.mem_cons.mp he with rfl | he
            · cases hfailed
            · exact ⟨e, he, hfailed⟩
        · intro hforce hok
          exact congrArg (volume.handle :: ·) (hphase.complete hforce hok)
      · have hforce : force ≠ false := by
          rw [hforced.mp rfl]
          exact Bool.noConfusion
        refine ⟨?_, .cons rfl hphase.same, ?_, ?_, fun h => absurd h hforce⟩
        · intro e he
          rcases List.mem_cons.mp he with rfl | he
          · exact ⟨_, rfl⟩
          · exact hphase.calls e he
        · intro w hw hlocked
          rcases List.mem_cons.mp hw with rfl | hw
          · rw [hunlocked] at hlocked
            cases hlocked
          · exact List.mem_cons_of_mem _ (hphase.acquired w hw hlocked)
        · rw [hphase.failed]
          constructor
          · exact fun h => absurd h.1 hforce
          · exact fun h => absurd h.1 hforce

/-- What dismounting the volumes has done. -/
structure Dismounting (volumes : List Volume) (t : Trace) (result : Except Error Unit) : Prop where
  calls : ∀ e ∈ t, ∃ handle, e.call = .dismountVolume handle
  failed : result ≠ .ok () ↔ ∃ e ∈ t, dismountFailed e = true
  complete : result = .ok () → t.filterMap dismounted = volumes.map Volume.handle

theorem eachVolume_dismount {volumes : List Volume} {t : Trace} {result : Except Error Unit}
    (h : Runs (Procedure.tryFold (fun () volume => Volume.dismount volume) () volumes) t result) :
    Dismounting volumes t result := by
  induction volumes generalizing t with
  | nil =>
    obtain ⟨rfl, rfl⟩ := Runs.done_iff.mp h
    refine ⟨fun e he => absurd he List.not_mem_nil, ⟨fun hne => absurd rfl hne, ?_⟩, fun _ => rfl⟩
    rintro ⟨e, he, _⟩
    exact absurd he List.not_mem_nil
  | cons volume volumes ih =>
    obtain ⟨r, t₁, t₂, hfirst, hrest, rfl⟩ := Runs.bind_iff.mp h
    rcases Volume.dismount_runs hfirst with ⟨rfl, rfl⟩ | ⟨code, error, rfl, rfl⟩
    · have hphase := ih hrest
      refine ⟨?_, ?_, fun hok => congrArg (volume.handle :: ·) (hphase.complete hok)⟩
      · intro e he
        rcases List.mem_cons.mp he with rfl | he
        · exact ⟨_, rfl⟩
        · exact hphase.calls e he
      · rw [hphase.failed]
        constructor
        · rintro ⟨e, he, hfailed⟩
          exact ⟨e, List.mem_cons_of_mem _ he, hfailed⟩
        · rintro ⟨e, he, hfailed⟩
          rcases List.mem_cons.mp he with rfl | he
          · cases hfailed
          · exact ⟨e, he, hfailed⟩
    · obtain ⟨rfl, rfl⟩ := Runs.done_iff.mp hrest
      rw [List.append_nil]
      refine ⟨?_, ⟨fun _ => ⟨_, List.mem_singleton_self _, rfl⟩, fun _ hok => by cases hok⟩,
        fun hok => by cases hok⟩
      intro e he
      rw [List.mem_singleton.mp he]
      exact ⟨_, rfl⟩

/-- What removing the mount points has done. -/
structure Removing (volumes prepared : List Volume) (t : Trace) (result : Except Error Unit) :
    Prop where
  calls : ∀ e ∈ t, ∃ volume point, e.call = .deleteMountPoint volume point
  same : List.Forall₂ (fun v w : Volume =>
    w = { v with removedMountPoints := w.removedMountPoints } ∧
      w.removedMountPoints <+: v.mountPoints) volumes prepared
  removed : t.filterMap mountRemoved =
    prepared.flatMap fun w => w.removedMountPoints.map fun point => (w.handle, point)
  failed : result ≠ .ok () ↔ ∃ e ∈ t, removalFailed e = true
  complete : result = .ok () → t.filterMap mountRemoved =
    volumes.flatMap fun v => v.mountPoints.map fun point => (v.handle, point)

theorem removals_calls (volume : Volume) (points : List WideString) :
    ∀ e ∈ volume.removals points, ∃ volume point, e.call = .deleteMountPoint volume point := by
  intro e he
  obtain ⟨point, _, rfl⟩ := List.mem_map.mp he
  exact ⟨_, _, rfl⟩

theorem removals_removed (volume : Volume) (points : List WideString) :
    (volume.removals points).filterMap mountRemoved =
      points.map fun point => (volume.handle, point) := by
  rw [Volume.removals, List.filterMap_map]
  show points.filterMap (some ∘ fun point => (volume.handle, point)) = _
  rw [List.filterMap_eq_map]

theorem removals_succeed (volume : Volume) (points : List WideString) :
    ∀ e ∈ volume.removals points, removalFailed e = false := by
  intro e he
  obtain ⟨point, _, rfl⟩ := List.mem_map.mp he
  rfl

theorem removing_rest {volumes : List Volume} (hfresh : ∀ v ∈ volumes, v.removedMountPoints = []) :
    List.Forall₂ (fun v w : Volume =>
        w = { v with removedMountPoints := w.removedMountPoints } ∧
          w.removedMountPoints <+: v.mountPoints) volumes volumes ∧
      (volumes.flatMap fun w => w.removedMountPoints.map fun point => (w.handle, point)) = [] := by
  constructor
  · refine List.forall₂_same.mpr fun v hv => ⟨rfl, ?_⟩
    rw [hfresh v hv]
    exact List.nil_prefix
  · rw [List.flatMap_eq_nil_iff]
    intro v hv
    rw [hfresh v hv]
    rfl

theorem eachVolume_removeMounts {volumes prepared : List Volume} {t : Trace}
    {result : Except Error Unit} (hfresh : ∀ v ∈ volumes, v.removedMountPoints = [])
    (h : Runs (eachVolume Volume.removeMounts volumes) t (result, prepared)) :
    Removing volumes prepared t result := by
  induction volumes generalizing t prepared result with
  | nil =>
    obtain ⟨rfl, hresult⟩ := Runs.done_iff.mp h
    cases hresult
    refine ⟨fun e he => absurd he List.not_mem_nil, .nil, rfl, ⟨fun hne => absurd rfl hne, ?_⟩,
      fun _ => rfl⟩
    rintro ⟨e, he, _⟩
    exact absurd he List.not_mem_nil
  | cons volume volumes ih =>
    have hnone := hfresh volume List.mem_cons_self
    have hrestFresh : ∀ v ∈ volumes, v.removedMountPoints = [] :=
      fun v hv => hfresh v (List.mem_cons_of_mem _ hv)
    obtain ⟨⟨r, next⟩, t₁, t₂, hfirst, hrest, rfl⟩ := Runs.bind_iff.mp h
    obtain ⟨taken, hbegins, rfl, hfirst'⟩ := Volume.removeMountsFrom_runs hfirst
    rw [hnone, List.nil_append] at hrest
    cases r with
    | error error =>
      obtain ⟨rfl, hresult⟩ := Runs.done_iff.mp hrest
      cases hresult
      obtain ⟨hsame, hremoved⟩ := removing_rest hrestFresh
      rw [List.append_nil]
      rcases hfirst' with ⟨_, hok, _⟩ | ⟨point, code, _, rfl, _⟩
      · cases hok
      · refine ⟨?_, .cons ⟨rfl, hbegins⟩ hsame, ?_, ⟨fun _ => ?_, fun _ hok => by cases hok⟩,
          fun hok => by cases hok⟩
        · intro e he
          rcases List.mem_append.mp he with he | he
          · exact removals_calls _ _ e he
          · rw [List.mem_singleton.mp he]
            exact ⟨_, _, rfl⟩
        · rw [List.filterMap_append, removals_removed, List.flatMap_cons, hremoved]
          rfl
        · exact ⟨_, List.mem_append_right _ (List.mem_singleton_self _), rfl⟩
    | ok value =>
      obtain ⟨⟨r, rest⟩, t₃, t₄, hlater, hdone, rfl⟩ := Runs.bind_iff.mp hrest
      obtain ⟨rfl, hresult⟩ := Runs.done_iff.mp hdone
      cases hresult
      have hphase := ih hrestFresh hlater
      rw [List.append_nil]
      rcases hfirst' with ⟨rfl, _, rfl⟩ | ⟨_, _, _, _, herror⟩
      · refine ⟨?_, .cons ⟨rfl, hbegins⟩ hphase.same, ?_, ?_, ?_⟩
        · intro e he
          rcases List.mem_append.mp he with he | he
          · exact removals_calls _ _ e he
          · exact hphase.calls e he
        · rw [List.filterMap_append, removals_removed, List.flatMap_cons, hphase.removed]
        · rw [hphase.failed]
          constructor
          · rintro ⟨e, he, hfailed⟩
            exact ⟨e, List.mem_append_right _ he, hfailed⟩
          · rintro ⟨e, he, hfailed⟩
            rcases List.mem_append.mp he with he | he
            · rw [removals_succeed _ _ e he] at hfailed
              cases hfailed
            · exact ⟨e, he, hfailed⟩
        · intro hok
          rw [List.filterMap_append, removals_removed, List.flatMap_cons, hphase.complete hok]
      · cases herror

/-! ## What a phase does not show -/

theorem lockAcquired_none {e : WindowsEvent} (h : ∀ handle, e.call ≠ .lockVolume handle) :
    lockAcquired e = none := by
  unfold lockAcquired
  split
  · exact absurd rfl (h _)
  · rfl

theorem lockFailed_false {e : WindowsEvent} (h : ∀ handle, e.call ≠ .lockVolume handle) :
    lockFailed e = false := by
  unfold lockFailed
  split
  · exact absurd rfl (h _)
  · rfl

theorem dismounted_none {e : WindowsEvent} (h : ∀ handle, e.call ≠ .dismountVolume handle) :
    dismounted e = none := by
  unfold dismounted
  split
  · exact absurd rfl (h _)
  · rfl

theorem dismountFailed_false {e : WindowsEvent} (h : ∀ handle, e.call ≠ .dismountVolume handle) :
    dismountFailed e = false := by
  unfold dismountFailed
  split
  · exact absurd rfl (h _)
  · rfl

theorem mountRemoved_none {e : WindowsEvent}
    (h : ∀ volume point, e.call ≠ .deleteMountPoint volume point) : mountRemoved e = none := by
  unfold mountRemoved
  split
  · exact absurd rfl (h _ _)
  · rfl

theorem removalFailed_false {e : WindowsEvent}
    (h : ∀ volume point, e.call ≠ .deleteMountPoint volume point) : removalFailed e = false := by
  unfold removalFailed
  split
  · exact absurd rfl (h _ _)
  · rfl

theorem deleteAsked_false {e : WindowsEvent}
    (h : ∀ adapter adapterInstance id, e.call ≠ .deleteById adapter adapterInstance id) :
    deleteAsked e = false := by
  unfold deleteAsked
  split
  · exact absurd rfl (h _ _ _)
  · rfl

theorem filterMap_none {β : Type} {t : Trace} {f : WindowsEvent → Option β}
    (h : ∀ e ∈ t, f e = none) : t.filterMap f = [] := List.filterMap_eq_nil_iff.mpr h

/-- A later call of a trace leaves its first part whole. -/
theorem split_after {t u before after : Trace} {e : WindowsEvent}
    (h : t ++ u = before ++ e :: after) (hnot : e ∉ t) :
    ∃ middle, before = t ++ middle ∧ u = middle ++ e :: after := by
  rcases List.append_eq_append_iff.mp h with ⟨middle, hbefore, hrest⟩ | ⟨rest, ht, _⟩
  · exact ⟨middle, hbefore, hrest⟩
  · cases rest with
    | nil =>
      rw [List.append_nil] at ht
      subst ht
      exact ⟨[], (List.append_nil _).symm, List.append_cancel_left h⟩
    | cons first rest =>
      have hfirst : first = e := by
        rw [ht, List.append_assoc] at h
        exact (List.cons.inj (List.append_cancel_left h)).1
      rw [ht, hfirst] at hnot
      exact absurd (List.mem_append_right _ List.mem_cons_self) hnot

/-! ## The preparation -/

/-- The calls that a preparation makes. -/
def Call.Prepares : Call → Prop
  | .lockVolume _ => True
  | .dismountVolume _ => True
  | .deleteMountPoint _ _ => True
  | _ => False

/-- What preparing the volumes has done. -/
structure Preparing (force : Bool) (volumes prepared : List Volume) (t : Trace)
    (result : Except Error Unit) : Prop where
  calls : ∀ e ∈ t, e.call.Prepares
  same : List.Forall₂ (fun v w : Volume => w.name = v.name ∧ w.handle = v.handle ∧
    w.removedMountPoints <+: v.mountPoints) volumes prepared
  acquired : ∀ w ∈ prepared, w.locked = true → ⟨.lockVolume w.handle, .ok ()⟩ ∈ t
  removed : t.filterMap mountRemoved =
    prepared.flatMap fun w => w.removedMountPoints.map fun point => (w.handle, point)
  failed : result ≠ .ok () ↔ (force = false ∧ ∃ e ∈ t, lockFailed e = true) ∨
    ∃ e ∈ t, dismountFailed e = true ∨ removalFailed e = true
  lockedFirst : force = false → ∀ before handle answer after,
    t = before ++ ⟨.dismountVolume handle, answer⟩ :: after →
      before.filterMap lockAcquired = volumes.map Volume.handle
  complete : result = .ok () → t.filterMap dismounted = volumes.map Volume.handle ∧
    t.filterMap mountRemoved =
      volumes.flatMap fun v => v.mountPoints.map fun point => (v.handle, point)

namespace Locking

variable {force : Bool} {volumes locked : List Volume} {t : Trace} {result : Except Error Unit}

theorem prepares (h : Locking force volumes locked t result) : ∀ e ∈ t, e.call.Prepares := by
  intro e he
  obtain ⟨handle, hcall⟩ := h.calls e he
  rw [hcall]
  trivial

theorem no_dismount (h : Locking force volumes locked t result) :
    ∀ e ∈ t, ∀ handle, e.call ≠ .dismountVolume handle := by
  intro e he handle hcall
  obtain ⟨_, hlock⟩ := h.calls e he
  rw [hlock] at hcall
  cases hcall

theorem no_removal (h : Locking force volumes locked t result) :
    ∀ e ∈ t, ∀ volume point, e.call ≠ .deleteMountPoint volume point := by
  intro e he volume point hcall
  obtain ⟨_, hlock⟩ := h.calls e he
  rw [hlock] at hcall
  cases hcall

theorem handles (h : Locking force volumes locked t result) :
    locked.map Volume.handle = volumes.map Volume.handle := by
  have hsame := h.same
  clear h
  induction hsame with
  | nil => rfl
  | cons hhead _ ih => rw [List.map_cons, List.map_cons, ih, hhead]

theorem points (h : Locking force volumes locked t result) :
    (locked.flatMap fun v => v.mountPoints.map fun point => (v.handle, point)) =
      volumes.flatMap fun v => v.mountPoints.map fun point => (v.handle, point) := by
  have hsame := h.same
  clear h
  induction hsame with
  | nil => rfl
  | cons hhead _ ih => rw [List.flatMap_cons, List.flatMap_cons, ih, hhead]

theorem fresh (h : Locking force volumes locked t result)
    (hfresh : ∀ v ∈ volumes, v.removedMountPoints = []) :
    ∀ w ∈ locked, w.removedMountPoints = [] := by
  have hsame := h.same
  clear h
  induction hsame with
  | nil => exact fun w hw => absurd hw List.not_mem_nil
  | @cons v _ _ _ hhead _ ih =>
    intro w hw
    rcases List.mem_cons.mp hw with rfl | hw
    · rw [hhead]
      exact hfresh v List.mem_cons_self
    · exact ih (fun v hv => hfresh v (List.mem_cons_of_mem _ hv)) w hw

theorem removed_nil (h : Locking force volumes locked t result) : t.filterMap mountRemoved = [] :=
  filterMap_none fun e he => mountRemoved_none (h.no_removal e he)

theorem dismounted_nil (h : Locking force volumes locked t result) : t.filterMap dismounted = [] :=
  filterMap_none fun e he => dismounted_none (h.no_dismount e he)

/-- Locking fails by a lock alone. -/
theorem quiet (h : Locking force volumes locked t result) :
    ¬ ∃ e ∈ t, dismountFailed e = true ∨ removalFailed e = true := by
  rintro ⟨e, he, hfailed | hfailed⟩
  · rw [dismountFailed_false (h.no_dismount e he)] at hfailed
    cases hfailed
  · rw [removalFailed_false (h.no_removal e he)] at hfailed
    cases hfailed

/-- A dismount after the locking, with no lock in between, comes after all the locks. -/
theorem before_dismount (h : Locking false volumes locked t (.ok ())) {u : Trace}
    (hu : u.filterMap lockAcquired = []) {before after : Trace} {handle : Handle}
    {answer : Answer (.dismountVolume handle)}
    (hsplit : t ++ u = before ++ ⟨.dismountVolume handle, answer⟩ :: after) :
    before.filterMap lockAcquired = volumes.map Volume.handle := by
  have hnot : ⟨.dismountVolume handle, answer⟩ ∉ t :=
    fun hmem => h.no_dismount _ hmem handle rfl
  obtain ⟨middle, rfl, rfl⟩ := split_after hsplit hnot
  rw [List.filterMap_append, List.append_eq_nil_iff] at hu
  rw [List.filterMap_append, hu.1, List.append_nil]
  exact h.complete rfl rfl

end Locking

namespace Dismounting

variable {volumes : List Volume} {t : Trace} {result : Except Error Unit}

theorem prepares (h : Dismounting volumes t result) : ∀ e ∈ t, e.call.Prepares := by
  intro e he
  obtain ⟨handle, hcall⟩ := h.calls e he
  rw [hcall]
  trivial

theorem no_lock (h : Dismounting volumes t result) :
    ∀ e ∈ t, ∀ handle, e.call ≠ .lockVolume handle := by
  intro e he handle hcall
  obtain ⟨_, hkind⟩ := h.calls e he
  rw [hkind] at hcall
  cases hcall

theorem no_removal (h : Dismounting volumes t result) :
    ∀ e ∈ t, ∀ volume point, e.call ≠ .deleteMountPoint volume point := by
  intro e he volume point hcall
  obtain ⟨_, hkind⟩ := h.calls e he
  rw [hkind] at hcall
  cases hcall

theorem acquired_nil (h : Dismounting volumes t result) : t.filterMap lockAcquired = [] :=
  filterMap_none fun e he => lockAcquired_none (h.no_lock e he)

theorem removed_nil (h : Dismounting volumes t result) : t.filterMap mountRemoved = [] :=
  filterMap_none fun e he => mountRemoved_none (h.no_removal e he)

end Dismounting

namespace Removing

variable {volumes prepared : List Volume} {t : Trace} {result : Except Error Unit}

theorem prepares (h : Removing volumes prepared t result) : ∀ e ∈ t, e.call.Prepares := by
  intro e he
  obtain ⟨volume, point, hcall⟩ := h.calls e he
  rw [hcall]
  trivial

theorem no_lock (h : Removing volumes prepared t result) :
    ∀ e ∈ t, ∀ handle, e.call ≠ .lockVolume handle := by
  intro e he handle hcall
  obtain ⟨_, _, hkind⟩ := h.calls e he
  rw [hkind] at hcall
  cases hcall

theorem no_dismount (h : Removing volumes prepared t result) :
    ∀ e ∈ t, ∀ handle, e.call ≠ .dismountVolume handle := by
  intro e he handle hcall
  obtain ⟨_, _, hkind⟩ := h.calls e he
  rw [hkind] at hcall
  cases hcall

theorem acquired_nil (h : Removing volumes prepared t result) : t.filterMap lockAcquired = [] :=
  filterMap_none fun e he => lockAcquired_none (h.no_lock e he)

theorem dismounted_nil (h : Removing volumes prepared t result) : t.filterMap dismounted = [] :=
  filterMap_none fun e he => dismounted_none (h.no_dismount e he)

end Removing

/-- Two changes to the volumes, the lock flags and then the removed mount points, in one. -/
theorem Locking.same_trans {force : Bool} {volumes locked prepared : List Volume} {t : Trace}
    {result : Except Error Unit} (h : Locking force volumes locked t result)
    (hsame : List.Forall₂ (fun v w : Volume =>
      w = { v with removedMountPoints := w.removedMountPoints } ∧
        w.removedMountPoints <+: v.mountPoints) locked prepared) :
    List.Forall₂ (fun v w : Volume => w.name = v.name ∧ w.handle = v.handle ∧
      w.removedMountPoints <+: v.mountPoints) volumes prepared := by
  have hlocked := h.same
  clear h
  induction hlocked generalizing prepared with
  | nil =>
    cases hsame
    exact .nil
  | @cons v w _ _ hhead _ ih =>
    cases hsame with
    | cons hnext hrest =>
      obtain ⟨hnext, hbegins⟩ := hnext
      refine .cons ⟨?_, ?_, ?_⟩ (ih hrest)
      · rw [hnext, hhead]
      · rw [hnext, hhead]
      · rw [hhead] at hbegins
        exact hbegins

theorem Locking.acquired_trans {force : Bool} {volumes locked prepared : List Volume} {t : Trace}
    {result : Except Error Unit} (h : Locking force volumes locked t result)
    (hsame : List.Forall₂ (fun v w : Volume =>
      w = { v with removedMountPoints := w.removedMountPoints } ∧
        w.removedMountPoints <+: v.mountPoints) locked prepared) :
    ∀ w ∈ prepared, w.locked = true → ⟨.lockVolume w.handle, .ok ()⟩ ∈ t := by
  have hacquired := h.acquired
  clear h
  induction hsame with
  | nil => exact fun w hw => absurd hw List.not_mem_nil
  | @cons v _ _ _ hnext _ ih =>
    intro w hw hlocked
    rcases List.mem_cons.mp hw with rfl | hw
    · rw [hnext.1] at hlocked ⊢
      exact hacquired v List.mem_cons_self hlocked
    · exact ih (fun v hv => hacquired v (List.mem_cons_of_mem _ hv)) w hw hlocked

theorem update_runs {p : Updates (List Volume)} {t : Trace} {result : Except Error Unit}
    {deletion : DiskDeletion} (h : Runs (DiskDeletion.update p) t (result, deletion)) :
    Runs p t (result, deletion.volumes) := by
  obtain ⟨⟨r, volumes⟩, t₁, t₂, hp, hdone, rfl⟩ := Runs.bind_iff.mp h
  obtain ⟨rfl, hresult⟩ := Runs.done_iff.mp hdone
  cases hresult
  rwa [List.append_nil]

section Phases

variable {force : Bool} {volumes locked prepared : List Volume} {t₁ t₂ t₃ : Trace}

/-- A preparation that ends with the locking. -/
theorem Locking.preparing {error : Error}
    (hfresh : ∀ v ∈ volumes, v.removedMountPoints = [])
    (h : Locking force volumes locked t₁ (.error error)) :
    Preparing force volumes locked t₁ (.error error) := by
  obtain ⟨hsame, hremoved⟩ := removing_rest (h.fresh hfresh)
  refine ⟨h.prepares, h.same_trans hsame, h.acquired, h.removed_nil.trans hremoved.symm, ?_, ?_,
    fun hok => by cases hok⟩
  · rw [h.failed]
    exact ⟨Or.inl, fun hfailed => hfailed.resolve_right h.quiet⟩
  · intro _ before handle answer after hsplit
    have hmem : ⟨.dismountVolume handle, answer⟩ ∈ t₁ := by
      rw [hsplit]
      exact List.mem_append_right _ List.mem_cons_self
    exact absurd rfl (h.no_dismount _ hmem handle)

/-- A preparation that ends with the dismounts. -/
theorem Dismounting.preparing {error : Error} (hfresh : ∀ v ∈ volumes, v.removedMountPoints = [])
    (hlocking : Locking force volumes locked t₁ (.ok ()))
    (h : Dismounting locked t₂ (.error error)) :
    Preparing force volumes locked (t₁ ++ t₂) (.error error) := by
  obtain ⟨hsame, hremoved⟩ := removing_rest (hlocking.fresh hfresh)
  refine ⟨?_, hlocking.same_trans hsame, ?_, ?_, ?_, ?_, fun hok => by cases hok⟩
  · intro e he
    rcases List.mem_append.mp he with he | he
    · exact hlocking.prepares e he
    · exact h.prepares e he
  · exact fun w hw hw' => List.mem_append_left _ (hlocking.acquired w hw hw')
  · rw [List.filterMap_append, hlocking.removed_nil, h.removed_nil, hremoved]
    rfl
  · refine ⟨fun hne => Or.inr ?_, fun _ hok => by cases hok⟩
    obtain ⟨e, he, hfailed⟩ := h.failed.mp hne
    exact ⟨e, List.mem_append_right _ he, Or.inl hfailed⟩
  · rintro rfl before handle answer after hsplit
    exact hlocking.before_dismount h.acquired_nil hsplit

/-- Past the locking and the dismounts, a preparation fails by a removal alone. -/
theorem Removing.preparing_failed {result : Except Error Unit}
    (hlocking : Locking force volumes locked t₁ (.ok ()))
    (hdismounting : Dismounting locked t₂ (.ok ()))
    (h : Removing locked prepared t₃ result) :
    result ≠ .ok () ↔ (force = false ∧ ∃ e ∈ t₁ ++ (t₂ ++ t₃), lockFailed e = true) ∨
      ∃ e ∈ t₁ ++ (t₂ ++ t₃), dismountFailed e = true ∨ removalFailed e = true := by
  rw [h.failed]
  constructor
  · rintro ⟨e, he, hfailed⟩
    exact Or.inr ⟨e, List.mem_append_right _ (List.mem_append_right _ he), Or.inr hfailed⟩
  rintro (⟨hforce, e, he, hfailed⟩ | ⟨e, he, hfailed⟩)
  · rcases List.mem_append.mp he with he | he
    · exact absurd rfl (hlocking.failed.mpr ⟨hforce, e, he, hfailed⟩)
    rcases List.mem_append.mp he with he | he
    · rw [lockFailed_false (hdismounting.no_lock e he)] at hfailed
      cases hfailed
    · rw [lockFailed_false (h.no_lock e he)] at hfailed
      cases hfailed
  · rcases List.mem_append.mp he with he | he
    · exact absurd ⟨e, he, hfailed⟩ hlocking.quiet
    rcases List.mem_append.mp he with he | he
    · rcases hfailed with hfailed | hfailed
      · exact absurd rfl (hdismounting.failed.mpr ⟨e, he, hfailed⟩)
      · rw [removalFailed_false (hdismounting.no_removal e he)] at hfailed
        cases hfailed
    · rcases hfailed with hfailed | hfailed
      · rw [dismountFailed_false (h.no_dismount e he)] at hfailed
        cases hfailed
      · exact ⟨e, he, hfailed⟩

/-- A preparation that comes to the removals. -/
theorem Removing.preparing {result : Except Error Unit}
    (hlocking : Locking force volumes locked t₁ (.ok ()))
    (hdismounting : Dismounting locked t₂ (.ok ()))
    (h : Removing locked prepared t₃ result) :
    Preparing force volumes prepared (t₁ ++ (t₂ ++ t₃)) result := by
  refine ⟨?_, hlocking.same_trans h.same, ?_, ?_, h.preparing_failed hlocking hdismounting, ?_, ?_⟩
  · intro e he
    rcases List.mem_append.mp he with he | he
    · exact hlocking.prepares e he
    rcases List.mem_append.mp he with he | he
    · exact hdismounting.prepares e he
    · exact h.prepares e he
  · exact fun w hw hw' => List.mem_append_left _ (hlocking.acquired_trans h.same w hw hw')
  · rw [List.filterMap_append, List.filterMap_append, hlocking.removed_nil,
      hdismounting.removed_nil, h.removed]
    rfl
  · rintro rfl before handle answer after hsplit
    refine hlocking.before_dismount ?_ hsplit
    rw [List.filterMap_append, hdismounting.acquired_nil, h.acquired_nil]
    rfl
  · intro hok
    rw [List.filterMap_append, List.filterMap_append, List.filterMap_append,
      List.filterMap_append, hlocking.dismounted_nil, h.dismounted_nil, hlocking.removed_nil,
      hdismounting.removed_nil, hdismounting.complete rfl, h.complete hok, hlocking.handles,
      hlocking.points, List.append_nil]
    exact ⟨rfl, rfl⟩

end Phases

/-- A preparation locks, dismounts and removes, as far as it comes. -/
theorem prepare_runs {force : Bool} {deletion prepared : DiskDeletion} {t : Trace}
    {result : Except Error Unit} (hunlocked : ∀ v ∈ deletion.volumes, v.locked = false)
    (hfresh : ∀ v ∈ deletion.volumes, v.removedMountPoints = [])
    (h : Runs (deletion.prepare force) t (result, prepared)) :
    Preparing force deletion.volumes prepared.volumes t result := by
  obtain ⟨⟨r, locked⟩, t₁, t₂, hlock, hrest, rfl⟩ := Runs.bind_iff.mp h
  have hlocking := eachVolume_lock hunlocked (update_runs hlock)
  cases r with
  | error error =>
    obtain ⟨rfl, hresult⟩ := Runs.done_iff.mp hrest
    cases hresult
    rw [List.append_nil]
    exact hlocking.preparing hfresh
  | ok value =>
    obtain ⟨r, t₃, t₄, hdismount, hrest, rfl⟩ := Runs.bind_iff.mp hrest
    have hdismounting := eachVolume_dismount hdismount
    cases r with
    | error error =>
      obtain ⟨rfl, hresult⟩ := Runs.done_iff.mp hrest
      cases hresult
      rw [List.append_nil]
      exact hdismounting.preparing hfresh hlocking
    | ok value =>
      exact (eachVolume_removeMounts (hlocking.fresh hfresh) (update_runs hrest)).preparing
        hlocking hdismounting

/-! ## The restoration -/

/-- Restoring one volume after the calls in `before`: mount points of the volume in order, then an
unlock or none, and that only of a lock that was acquired. -/
structure VolumeRestored (before : Trace) (volume : Volume) (block : Trace) : Prop where
  attempts : ∃ points, points <+: volume.mountPoints ∧
    block.filterMap mountAsked = points.map fun point => (volume.handle, point, volume.name)
  unlock : block.filterMap unlockAsked = [] ∨
    (⟨.lockVolume volume.handle, .ok ()⟩ ∈ before ∧ ∃ sets answer,
      block = sets ++ [⟨.unlockVolume volume.handle, answer⟩] ∧ sets.filterMap unlockAsked = [])

/-- Restoring the volumes, one block of calls for each. -/
structure Restoration (volumes : List Volume) (before restoring : Trace) : Prop where
  /-- Exactly the mount points that were removed are attempted, each as often, in order. -/
  attempts : (restoring.filterMap mountAsked).map (fun asked => (asked.1, asked.2.1)) =
    before.filterMap mountRemoved
  mounts : (∀ e ∈ restoring, mountFailed e = false) → ∀ table : MountTable,
    (∀ v ∈ volumes, ∀ point ∈ v.mountPoints, table point = some v.name) →
      mountsAfter table (before ++ restoring) = table
  blocks : ∃ blocks, restoring = blocks.flatten ∧
    List.Forall₂ (VolumeRestored before) volumes blocks

theorem restoreFrom_runs {volumes restored : List Volume} {failure : Option Error} {t : Trace}
    {result : Except Error Unit}
    (h : Runs (DiskDeletion.restoreFrom volumes failure) t (result, restored)) :
    ∃ blocks, t = blocks.flatten ∧ List.Forall₂ Volume.RestoredBy volumes blocks := by
  induction volumes generalizing t failure restored result with
  | nil =>
    have ht : t = [] := by
      cases failure with
      | none => exact (Runs.done_iff.mp h).1
      | some error => exact (Runs.done_iff.mp h).1
    exact ⟨[], ht, .nil⟩
  | cons volume volumes ih =>
    obtain ⟨⟨r, next⟩, t₁, t₂, hfirst, hrest, rfl⟩ := Runs.bind_iff.mp h
    obtain ⟨⟨r', rest⟩, t₃, t₄, hlater, hdone, rfl⟩ := Runs.bind_iff.mp hrest
    obtain ⟨rfl, _⟩ := Runs.done_iff.mp hdone
    obtain ⟨blocks, rfl, hblocks⟩ := ih hlater
    exact ⟨t₁ :: blocks, by rw [List.append_nil, List.flatten_cons],
      .cons (Volume.restoreMounts_runs hfirst) hblocks⟩

/-- A trace that restores nothing takes mount points away. -/
theorem mountsAfter_removed {t : Trace} (hquiet : ∀ e ∈ t, mountAsked e = none) (table : MountTable)
    (point : WideString) : mountsAfter table t point = table point ∨
      (mountsAfter table t point = none ∧ ∃ volume, (volume, point) ∈ t.filterMap mountRemoved) := by
  induction t generalizing table with
  | nil => exact Or.inl rfl
  | cons e t ih =>
    have hrest := ih (fun e' he' => hquiet e' (List.mem_cons_of_mem _ he')) (mountEffect table e)
    have hmem : ∀ removal, removal ∈ t.filterMap mountRemoved →
        removal ∈ (e :: t).filterMap mountRemoved := by
      intro removal hremoval
      obtain ⟨e', he', hshown⟩ := List.mem_filterMap.mp hremoval
      exact List.mem_filterMap.mpr ⟨e', List.mem_cons_of_mem _ he', hshown⟩
    have hstep : mountEffect table e point = table point ∨
        (mountEffect table e point = none ∧ ∃ volume, mountRemoved e = some (volume, point)) := by
      unfold mountEffect
      split
      · rename_i volume removed
        by_cases hsame : point = removed
        · subst hsame
          exact Or.inr ⟨Function.update_self _ _ _, volume, rfl⟩
        · exact Or.inl (Function.update_of_ne hsame _ _)
      · have hset := hquiet _ List.mem_cons_self
        cases hset
      · exact Or.inl rfl
    rcases hrest with hsame | ⟨hnone, volume, hvolume⟩
    · rcases hstep with hkept | ⟨hnone, volume, hremoved⟩
      · exact Or.inl (hsame.trans hkept)
      · refine Or.inr ⟨hsame.trans hnone, volume, ?_⟩
        exact List.mem_filterMap.mpr ⟨e, List.mem_cons_self, hremoved⟩
    · exact Or.inr ⟨hnone, volume, hmem _ hvolume⟩

/-- Attempts that all succeed put back what they name. -/
theorem mountsAfter_restored {t : Trace} {original : MountTable}
    (hquiet : ∀ e ∈ t, mountRemoved e = none) (hsucceed : ∀ e ∈ t, mountFailed e = false)
    (hnames : ∀ asked ∈ t.filterMap mountAsked, original asked.2.1 = some asked.2.2)
    (table : MountTable) (point : WideString)
    (hpoint : table point = original point ∨
      ∃ asked ∈ t.filterMap mountAsked, asked.2.1 = point) :
    mountsAfter table t point = original point := by
  induction t generalizing table with
  | nil =>
    rcases hpoint with h | ⟨asked, hasked, _⟩
    · exact h
    · exact absurd hasked List.not_mem_nil
  | cons e t ih =>
    have hrest : ∀ table : MountTable,
        (table point = original point ∨ ∃ asked ∈ t.filterMap mountAsked, asked.2.1 = point) →
          mountsAfter table t point = original point := by
      intro table hpoint
      refine ih (fun e' he' => hquiet e' (List.mem_cons_of_mem _ he'))
        (fun e' he' => hsucceed e' (List.mem_cons_of_mem _ he')) (fun asked hasked => ?_) table hpoint
      obtain ⟨e', he', hshown⟩ := List.mem_filterMap.mp hasked
      exact hnames asked (List.mem_filterMap.mpr ⟨e', List.mem_cons_of_mem _ he', hshown⟩)
    show mountsAfter (mountEffect table e) t point = original point
    apply hrest
    have hnone := hquiet e List.mem_cons_self
    have hok := hsucceed e List.mem_cons_self
    cases hasked : mountAsked e with
    | some asked =>
      have hname := hnames asked (List.mem_filterMap.mpr ⟨e, List.mem_cons_self, hasked⟩)
      have heffect : mountEffect table e = Function.update table asked.2.1 (some asked.2.2) := by
        obtain ⟨c, answer⟩ := e
        cases c <;> cases hasked
        cases answer with
        | error code => cases hok
        | ok value => rfl
      rw [heffect]
      by_cases hsame : point = asked.2.1
      · refine Or.inl ?_
        rw [hsame, Function.update_self, hname]
      · rw [Function.update_of_ne hsame]
        rcases hpoint with h | ⟨other, hother, hpoint⟩
        · exact Or.inl h
        · rw [List.filterMap_cons_some hasked, List.mem_cons] at hother
          rcases hother with rfl | hother
          · exact absurd hpoint.symm hsame
          · exact Or.inr ⟨other, hother, hpoint⟩
    | none =>
      have heffect : mountEffect table e = table := by
        unfold mountEffect
        split
        · cases hnone
        · cases hasked
        · rfl
      rw [heffect]
      rwa [List.filterMap_cons_none hasked] at hpoint

theorem Volume.RestoredBy.not_removed {volume : Volume} {t : Trace} (h : volume.RestoredBy t) :
    ∀ e ∈ t, mountRemoved e = none := by
  intro e he
  apply mountRemoved_none
  intro handle point hcall
  obtain ⟨c, answer⟩ := e
  cases hcall
  rcases h.calls _ he with h | h <;> cases h

namespace Preparing

variable {force : Bool} {volumes prepared : List Volume} {t before : Trace}
  {result : Except Error Unit} {blocks : List Trace}

theorem restored (h : Preparing force volumes prepared t result) (hincluded : ∀ e ∈ t, e ∈ before)
    (hblocks : List.Forall₂ Volume.RestoredBy prepared blocks) :
    List.Forall₂ (VolumeRestored before) volumes blocks := by
  have hsame := h.same
  have hacquired := h.acquired
  clear h
  induction hsame generalizing blocks with
  | nil =>
    cases hblocks
    exact .nil
  | @cons v w _ _ hhead _ ih =>
    cases hblocks with
    | cons hblock hrest =>
      obtain ⟨hname, hhandle, hbegins⟩ := hhead
      refine .cons ⟨⟨w.removedMountPoints, hbegins, ?_⟩, ?_⟩
        (ih hrest fun w hw => hacquired w (List.mem_cons_of_mem _ hw))
      · rw [hblock.attempts, hname, hhandle]
      · rcases hblock.unlock with hnone | ⟨hlocked, sets, answer, hlast, hsets⟩
        · exact Or.inl hnone
        · have hlock := hincluded _ (hacquired w List.mem_cons_self hlocked)
          rw [hhandle] at hlock hlast
          exact Or.inr ⟨hlock, sets, answer, hlast, hsets⟩

theorem restored_block (hblocks : List.Forall₂ Volume.RestoredBy prepared blocks) {block : Trace}
    (h : block ∈ blocks) : ∃ w : Volume, w.RestoredBy block := by
  induction hblocks with
  | nil => exact absurd h List.not_mem_nil
  | cons hblock _ ih =>
    rcases List.mem_cons.mp h with rfl | h
    · exact ⟨_, hblock⟩
    · exact ih h

theorem attempted (hblocks : List.Forall₂ Volume.RestoredBy prepared blocks) :
    (blocks.flatten.filterMap mountAsked).map (fun asked => (asked.1, asked.2.1)) =
      prepared.flatMap fun w => w.removedMountPoints.map fun point => (w.handle, point) := by
  induction hblocks with
  | nil => rfl
  | cons hblock _ ih =>
    rw [List.flatten_cons, List.filterMap_append, List.map_append, ih, List.flatMap_cons,
      hblock.attempts, List.map_map]
    rfl

/-- What a restoration names is mounted where it was. -/
theorem names {table : MountTable}
    (hmounted : ∀ v ∈ volumes, ∀ point ∈ v.mountPoints, table point = some v.name)
    (hblocks : List.Forall₂ (VolumeRestored before) volumes blocks) :
    ∀ asked ∈ blocks.flatten.filterMap mountAsked, table asked.2.1 = some asked.2.2 := by
  induction hblocks with
  | nil => exact fun asked hasked => absurd hasked List.not_mem_nil
  | cons hblock _ ih =>
    intro asked hasked
    rw [List.flatten_cons, List.filterMap_append, List.mem_append] at hasked
    rcases hasked with hasked | hasked
    · obtain ⟨points, hbegins, hpoints⟩ := hblock.attempts
      rw [hpoints] at hasked
      obtain ⟨point, hpoint, rfl⟩ := List.mem_map.mp hasked
      exact hmounted _ List.mem_cons_self point (hbegins.subset hpoint)
    · exact ih (fun v hv => hmounted v (List.mem_cons_of_mem _ hv)) asked hasked

theorem restoration (h : Preparing force volumes prepared t result)
    (hincluded : ∀ e ∈ t, e ∈ before)
    (hremoved : before.filterMap mountRemoved = t.filterMap mountRemoved)
    (hquiet : ∀ e ∈ before, mountAsked e = none)
    (hblocks : List.Forall₂ Volume.RestoredBy prepared blocks) :
    Restoration volumes before blocks.flatten := by
  have hrestored := h.restored hincluded hblocks
  have hattempts : (blocks.flatten.filterMap mountAsked).map (fun asked => (asked.1, asked.2.1)) =
      before.filterMap mountRemoved := by
    rw [attempted hblocks, hremoved, h.removed]
  refine ⟨hattempts, fun hsucceed table hmounted => ?_, blocks, rfl, hrestored⟩
  have hnotRemoved : ∀ e ∈ blocks.flatten, mountRemoved e = none := by
    intro e he
    obtain ⟨block, hblock, he⟩ := List.mem_flatten.mp he
    obtain ⟨w, hw⟩ := restored_block hblocks hblock
    exact hw.not_removed e he
  rw [mountsAfter_append]
  funext point
  apply mountsAfter_restored hnotRemoved hsucceed (names hmounted hrestored)
  rcases mountsAfter_removed hquiet table point with hsame | ⟨_, volume, hvolume⟩
  · exact Or.inl hsame
  · rw [← hattempts] at hvolume
    obtain ⟨asked, hasked, hpair⟩ := List.mem_map.mp hvolume
    exact Or.inr ⟨asked, hasked, (Prod.mk.inj hpair).2⟩

end Preparing

/-! ## The deletion -/

/-- A deletion from the volumes it has opened on. -/
structure AllOrRestored (force : Bool) (volumes : List Volume) (t : Trace)
    (result : Except Error Unit) : Prop where
  /-- Without force every volume is locked before any dismount. -/
  lockedFirst : force = false → ∀ before handle answer after,
    t = before ++ ⟨.dismountVolume handle, answer⟩ :: after →
      before.filterMap lockAcquired = volumes.map Volume.handle
  /-- A failed dismount or removal, or without force a failed lock, fails the call before the
  driver is asked; nothing else keeps it from asking. -/
  bypassed : (∃ e ∈ t, deleteAsked e = true) ↔
    ¬ ((force = false ∧ ∃ e ∈ t, lockFailed e = true) ∨
      ∃ e ∈ t, dismountFailed e = true ∨ removalFailed e = true)
  failed : (∀ e ∈ t, deleteAsked e = false) → ∃ error, result = .error error
  /-- The driver is asked after every dismount and every removal. -/
  deletedLast : ∀ before adapter adapterInstance id answer after,
    t = before ++ ⟨.deleteById adapter adapterInstance id, answer⟩ :: after →
      before.filterMap dismounted = volumes.map Volume.handle ∧
      before.filterMap mountRemoved =
        volumes.flatMap fun v => v.mountPoints.map fun point => (v.handle, point)
  /-- The run ends with a restoration, or it has asked the driver and restores nothing. -/
  restored : (∃ before restoring, t = before ++ restoring ∧
      (∀ e ∈ before, mountAsked e = none ∧ unlockAsked e = none) ∧
      Restoration volumes before restoring) ∨
    ((∃ e ∈ t, deleteAsked e = true) ∧ ∀ e ∈ t, mountAsked e = none ∧ unlockAsked e = none)

/-- The calls of a trace that lie outside a preparation: inquiries, the request to the driver and
those of a restoration. -/
def Call.Outside : Call → Prop
  | .lockVolume _ => False
  | .dismountVolume _ => False
  | .deleteMountPoint _ _ => False
  | _ => True

theorem Call.Inquiry.outside {c : Call} (h : c.Inquiry) : c.Outside := by
  cases c <;> trivial

/-- What an inquiry shows: nothing. -/
theorem inquiry_quiet {e : WindowsEvent} (h : e.call.Inquiry) :
    mountAsked e = none ∧ unlockAsked e = none ∧ deleteAsked e = false := by
  obtain ⟨c, answer⟩ := e
  cases c <;> first | exact ⟨rfl, rfl, rfl⟩ | exact h.elim

theorem prepares_quiet {e : WindowsEvent} (h : e.call.Prepares) :
    mountAsked e = none ∧ unlockAsked e = none ∧ deleteAsked e = false := by
  obtain ⟨c, answer⟩ := e
  cases c <;> first | exact ⟨rfl, rfl, rfl⟩ | exact h.elim

theorem outside_quiet {e : WindowsEvent} (h : e.call.Outside) :
    lockAcquired e = none ∧ lockFailed e = false ∧ dismounted e = none ∧
      dismountFailed e = false ∧ mountRemoved e = none ∧ removalFailed e = false := by
  obtain ⟨c, answer⟩ := e
  cases c <;> first | exact ⟨rfl, rfl, rfl, rfl, rfl, rfl⟩ | exact h.elim

theorem outside_not_dismount {t : Trace} (h : ∀ e ∈ t, e.call.Outside) (handle : Handle)
    (answer : Answer (.dismountVolume handle)) : ⟨.dismountVolume handle, answer⟩ ∉ t :=
  fun hmem => h _ hmem

theorem Volume.RestoredBy.outside {volume : Volume} {t : Trace} (h : volume.RestoredBy t) :
    ∀ e ∈ t, e.call.Outside ∧ deleteAsked e = false := by
  intro e he
  obtain ⟨c, answer⟩ := e
  rcases h.calls _ he with h | h
  · cases c <;> first | exact ⟨trivial, rfl⟩ | cases h
  · cases c <;> first | exact ⟨trivial, rfl⟩ | cases h

namespace Preparing

variable {force : Bool} {volumes prepared : List Volume} {opening t rest : Trace}
  {result : Except Error Unit}

/-- Inside a longer trace the locks still come first. -/
theorem lockedFirst_within (h : Preparing force volumes prepared t result)
    (hopening : ∀ e ∈ opening, e.call.Outside) (hrest : ∀ e ∈ rest, e.call.Outside)
    (hforce : force = false) {before : Trace} {handle : Handle}
    {answer : Answer (.dismountVolume handle)} {after : Trace}
    (hsplit : opening ++ (t ++ rest) = before ++ ⟨.dismountVolume handle, answer⟩ :: after) :
    before.filterMap lockAcquired = volumes.map Volume.handle := by
  obtain ⟨middle, rfl, hinner⟩ := split_after hsplit (outside_not_dismount hopening handle answer)
  have hnone : opening.filterMap lockAcquired = [] :=
    filterMap_none fun e he => (outside_quiet (hopening e he)).1
  rw [List.filterMap_append, hnone, List.nil_append]
  rcases List.append_eq_append_iff.mp hinner with ⟨tail, _, hlate⟩ | ⟨tail, ht, htail⟩
  · have hmem : ⟨.dismountVolume handle, answer⟩ ∈ rest := by
      rw [hlate]
      exact List.mem_append_right _ List.mem_cons_self
    exact (hrest _ hmem).elim
  · cases tail with
    | nil =>
      rw [List.nil_append] at htail
      have hmem : ⟨.dismountVolume handle, answer⟩ ∈ rest := by
        rw [← htail]
        exact List.mem_cons_self
      exact (hrest _ hmem).elim
    | cons first tail =>
      rw [List.cons_append] at htail
      obtain ⟨rfl, rfl⟩ := List.cons.inj htail
      exact h.lockedFirst hforce middle handle answer tail ht

/-- Inside a longer trace the failures are those of the preparation. -/
theorem failed_within (h : Preparing force volumes prepared t result)
    (hopening : ∀ e ∈ opening, e.call.Outside) (hrest : ∀ e ∈ rest, e.call.Outside) :
    result ≠ .ok () ↔ (force = false ∧ ∃ e ∈ opening ++ (t ++ rest), lockFailed e = true) ∨
      ∃ e ∈ opening ++ (t ++ rest), dismountFailed e = true ∨ removalFailed e = true := by
  have hwithin : ∀ shows : WindowsEvent → Prop, (∀ e, e.call.Outside → ¬ shows e) →
      ((∃ e ∈ opening ++ (t ++ rest), shows e) ↔ ∃ e ∈ t, shows e) := by
    intro shows houtside
    constructor
    · rintro ⟨e, he, hshows⟩
      rcases List.mem_append.mp he with he | he
      · exact absurd hshows (houtside e (hopening e he))
      rcases List.mem_append.mp he with he | he
      · exact ⟨e, he, hshows⟩
      · exact absurd hshows (houtside e (hrest e he))
    · rintro ⟨e, he, hshows⟩
      exact ⟨e, List.mem_append_right _ (List.mem_append_left _ he), hshows⟩
  rw [h.failed, hwithin (fun e => lockFailed e = true), hwithin]
  · intro e houtside hshows
    obtain ⟨_, _, _, hdismount, _, hremoval⟩ := outside_quiet houtside
    rcases hshows with hshows | hshows
    · rw [hdismount] at hshows
      cases hshows
    · rw [hremoval] at hshows
      cases hshows
  · intro e houtside hshows
    rw [(outside_quiet houtside).2.1] at hshows
    cases hshows

/-- A preparation that failed and was undone. -/
theorem undone {error : Error} {blocks : List Trace}
    (h : Preparing force volumes prepared t (.error error))
    (hopening : ∀ e ∈ opening, e.call.Inquiry)
    (hblocks : List.Forall₂ Volume.RestoredBy prepared blocks) (final : Error) :
    AllOrRestored force volumes (opening ++ (t ++ blocks.flatten)) (.error final) := by
  have houtside : ∀ e ∈ opening, e.call.Outside := fun e he => (hopening e he).outside
  have hrestoring : ∀ e ∈ blocks.flatten, e.call.Outside ∧ deleteAsked e = false := by
    intro e he
    obtain ⟨block, hblock, he⟩ := List.mem_flatten.mp he
    obtain ⟨w, hw⟩ := restored_block hblocks hblock
    exact hw.outside e he
  have hundeleted : ∀ e ∈ opening ++ (t ++ blocks.flatten), deleteAsked e = false := by
    intro e he
    rcases List.mem_append.mp he with he | he
    · exact (inquiry_quiet (hopening e he)).2.2
    rcases List.mem_append.mp he with he | he
    · exact (prepares_quiet (h.calls e he)).2.2
    · exact (hrestoring e he).2
  have hfailed := (h.failed_within houtside fun e he => (hrestoring e he).1).mp
    (fun hok => by cases hok)
  refine ⟨?_, ⟨?_, fun hnot => absurd hfailed hnot⟩, fun _ => ⟨final, rfl⟩, ?_, Or.inl ?_⟩
  · intro hforce before handle answer after hsplit
    exact h.lockedFirst_within houtside (fun e he => (hrestoring e he).1) hforce hsplit
  · rintro ⟨e, he, hasked⟩
    rw [hundeleted e he] at hasked
    cases hasked
  · intro before adapter adapterInstance id answer after hsplit
    have hmem : ⟨.deleteById adapter adapterInstance id, answer⟩ ∈
        opening ++ (t ++ blocks.flatten) := by
      rw [hsplit]
      exact List.mem_append_right _ List.mem_cons_self
    have hasked := hundeleted _ hmem
    cases hasked
  · have hquiet : ∀ e ∈ opening ++ t, mountAsked e = none ∧ unlockAsked e = none := by
      intro e he
      rcases List.mem_append.mp he with he | he
      · exact ⟨(inquiry_quiet (hopening e he)).1, (inquiry_quiet (hopening e he)).2.1⟩
      · exact ⟨(prepares_quiet (h.calls e he)).1, (prepares_quiet (h.calls e he)).2.1⟩
    have hremoved : (opening ++ t).filterMap mountRemoved = t.filterMap mountRemoved := by
      rw [List.filterMap_append, filterMap_none fun e he =>
        (outside_quiet (houtside e he)).2.2.2.2.1, List.nil_append]
    exact ⟨opening ++ t, blocks.flatten, (List.append_assoc _ _ _).symm, hquiet,
      h.restoration (fun e he => List.mem_append_right _ he) hremoved
        (fun e he => (hquiet e he).1) hblocks⟩

/-- A preparation that went through, and a request to the driver. -/
theorem requested (h : Preparing force volumes prepared t (.ok ()))
    (hopening : ∀ e ∈ opening, e.call.Inquiry) {adapter : Handle} {adapterInstance : ULONGLONG}
    {id : ULONG} {answer : Answer (.deleteById adapter adapterInstance id)} {asking : Trace}
    (hasking : ∀ e ∈ asking, e.call.Inquiry) {blocks : List Trace}
    (hblocks : blocks = [] ∨ List.Forall₂ Volume.RestoredBy prepared blocks)
    (final : Except Error Unit) :
    AllOrRestored force volumes (opening ++ (t ++
      (⟨.deleteById adapter adapterInstance id, answer⟩ :: asking ++ blocks.flatten))) final := by
  have houtside : ∀ e ∈ opening, e.call.Outside := fun e he => (hopening e he).outside
  have hrestoring : ∀ e ∈ blocks.flatten, e.call.Outside ∧ deleteAsked e = false := by
    intro e he
    obtain ⟨block, hblock, he⟩ := List.mem_flatten.mp he
    rcases hblocks with rfl | hblocks
    · exact absurd hblock List.not_mem_nil
    · obtain ⟨w, hw⟩ := restored_block hblocks hblock
      exact hw.outside e he
  have hrest : ∀ e ∈ ⟨.deleteById adapter adapterInstance id, answer⟩ :: asking ++ blocks.flatten,
      e.call.Outside := by
    intro e he
    rcases List.mem_append.mp he with he | he
    · rcases List.mem_cons.mp he with rfl | he
      · trivial
      · exact (hasking e he).outside
    · exact (hrestoring e he).1
  have hmem : ⟨.deleteById adapter adapterInstance id, answer⟩ ∈ opening ++ (t ++
      (⟨.deleteById adapter adapterInstance id, answer⟩ :: asking ++ blocks.flatten)) :=
    List.mem_append_right _ (List.mem_append_right _ List.mem_cons_self)
  have hquiet : ∀ e ∈ opening ++ (t ++ ⟨.deleteById adapter adapterInstance id, answer⟩ :: asking),
      mountAsked e = none ∧ unlockAsked e = none := by
    intro e he
    rcases List.mem_append.mp he with he | he
    · exact ⟨(inquiry_quiet (hopening e he)).1, (inquiry_quiet (hopening e he)).2.1⟩
    rcases List.mem_append.mp he with he | he
    · exact ⟨(prepares_quiet (h.calls e he)).1, (prepares_quiet (h.calls e he)).2.1⟩
    rcases List.mem_cons.mp he with rfl | he
    · exact ⟨rfl, rfl⟩
    · exact ⟨(inquiry_quiet (hasking e he)).1, (inquiry_quiet (hasking e he)).2.1⟩
  have hopened : ∀ {β : Type} (f : WindowsEvent → Option β), (∀ e, e.call.Outside → f e = none) →
      opening.filterMap f = [] :=
    fun f hf => filterMap_none fun e he => hf e (houtside e he)
  refine ⟨?_, ⟨fun _ hfailed => ?_, fun _ => ⟨_, hmem, rfl⟩⟩, fun hnone => ?_, ?_, ?_⟩
  · intro hforce before handle answer after hsplit
    exact h.lockedFirst_within houtside hrest hforce hsplit
  · exact absurd rfl ((h.failed_within houtside hrest).mpr hfailed)
  · have hasked := hnone _ hmem
    cases hasked
  · intro before adapter' adapterInstance' id' answer' after hsplit
    have hnot : ⟨.deleteById adapter' adapterInstance' id', answer'⟩ ∉ opening ++ t := by
      intro hearly
      rcases List.mem_append.mp hearly with hearly | hearly
      · exact hopening _ hearly
      · exact h.calls _ hearly
    rw [← List.append_assoc] at hsplit
    obtain ⟨middle, rfl, hlate⟩ := split_after hsplit hnot
    have hmiddle : middle = [] := by
      cases middle with
      | nil => rfl
      | cons first middle =>
        rw [List.cons_append, List.cons_append] at hlate
        obtain ⟨_, hlate⟩ := List.cons.inj hlate
        have hlater : ⟨.deleteById adapter' adapterInstance' id', answer'⟩ ∈
            asking ++ blocks.flatten := by
          rw [hlate]
          exact List.mem_append_right _ List.mem_cons_self
        rcases List.mem_append.mp hlater with hlater | hlater
        · exact (hasking _ hlater).elim
        · have hasked := (hrestoring _ hlater).2
          cases hasked
    rw [hmiddle, List.append_nil, List.filterMap_append, List.filterMap_append,
      hopened dismounted fun e he => (outside_quiet he).2.2.1,
      hopened mountRemoved fun e he => (outside_quiet he).2.2.2.2.1]
    exact h.complete rfl
  · rcases hblocks with rfl | hblocks
    · refine Or.inr ⟨⟨_, hmem, rfl⟩, ?_⟩
      rw [List.flatten_nil, List.append_nil]
      exact hquiet
    · refine Or.inl ⟨opening ++ (t ++ ⟨.deleteById adapter adapterInstance id, answer⟩ :: asking),
        blocks.flatten, ?_, hquiet, ?_⟩
      · rw [List.append_assoc, List.append_assoc]
      · apply h.restoration
        · exact fun e he => List.mem_append_right _ (List.mem_append_left _ he)
        · rw [List.filterMap_append, hopened mountRemoved fun e he =>
              (outside_quiet he).2.2.2.2.1, List.filterMap_append, List.nil_append]
          have hlast : (⟨.deleteById adapter adapterInstance id, answer⟩ :: asking).filterMap
              mountRemoved = [] := by
            apply filterMap_none
            intro e he
            rcases List.mem_cons.mp he with rfl | he
            · rfl
            · exact (outside_quiet (hasking e he).outside).2.2.2.2.1
          rw [hlast, List.append_nil]
        · exact fun e he => (hquiet e he).1
        · exact hblocks

end Preparing

section Prepared

variable {adapter : OpenAdapter} {adapterInstance : ULONGLONG} {id : ULONG} {force : Bool}
  {number : ULONG} {location : ScsiLocation} {deletion : DiskDeletion} {opening t : Trace}
  {result : Except Error Unit}

theorem restore_runs {restored : DiskDeletion}
    (h : Runs deletion.restore t (result, restored)) :
    ∃ blocks, t = blocks.flatten ∧ List.Forall₂ Volume.RestoredBy deletion.volumes blocks :=
  restoreFrom_runs (update_runs h)

/-- A restoration whose outcome becomes part of an error. -/
theorem restore_then_runs {final : Except Error Unit → Error}
    (h : Runs (deletion.restore.bind fun (restored, _) => .done (.error (final restored)))
      t result) :
    (∃ error, result = .error error) ∧
      ∃ blocks, t = blocks.flatten ∧ List.Forall₂ Volume.RestoredBy deletion.volumes blocks := by
  obtain ⟨⟨restored, deletion'⟩, t₁, t₂, hrestore, hdone, rfl⟩ := Runs.bind_iff.mp h
  obtain ⟨rfl, rfl⟩ := Runs.done_iff.mp hdone
  rw [List.append_nil]
  exact ⟨⟨_, rfl⟩, restore_runs hrestore⟩

/-- A deletion from its opened volumes on, after inquiries. -/
theorem deletePrepared_runs (hunlocked : ∀ v ∈ deletion.volumes, v.locked = false)
    (hfresh : ∀ v ∈ deletion.volumes, v.removedMountPoints = [])
    (hopening : ∀ e ∈ opening, e.call.Inquiry)
    (h : Runs (deletePrepared adapter adapterInstance id force number location deletion)
      t result) :
    AllOrRestored force deletion.volumes (opening ++ t) result := by
  obtain ⟨⟨r, prepared⟩, t₁, t₂, hprepare, hrest, rfl⟩ := Runs.bind_iff.mp h
  have hpreparing := prepare_runs hunlocked hfresh hprepare
  cases r with
  | error error =>
    obtain ⟨⟨final, rfl⟩, blocks, rfl, hblocks⟩ := restore_then_runs hrest
    exact hpreparing.undone hopening hblocks final
  | ok value =>
    obtain ⟨answer, t₃, rfl, hanswered⟩ := Runs.call_iff.mp hrest
    cases answer with
    | ok value =>
      have hwaiting : Inquires (withContext ("driver allocation for device " ++ toString id ++
          " was removed, but Windows disappearance was not confirmed")
            (waitForPhysicalDiskAbsent number location)) :=
        withContext_inquires (waitForPhysicalDiskAbsent_inquires number location)
      have hall : AllOrRestored force deletion.volumes (opening ++ (t₁ ++
          (⟨.deleteById adapter.handle adapterInstance id, .ok value⟩ :: t₃ ++ [].flatten)))
          result :=
        hpreparing.requested hopening (hanswered.only hwaiting) (Or.inl rfl) result
      rwa [List.flatten_nil, List.append_nil] at hall
    | error error =>
      obtain ⟨online, t₄, t₅, hasking, hdecided, rfl⟩ := Runs.bind_iff.mp hanswered
      have hasking' := hasking.only (stillOnline_inquires adapter adapterInstance id error)
      cases online with
      | true =>
        obtain ⟨⟨final, rfl⟩, blocks, rfl, hblocks⟩ := restore_then_runs hdecided
        exact hpreparing.requested hopening hasking' (Or.inr hblocks) _
      | false =>
        obtain ⟨rfl, rfl⟩ := Runs.done_iff.mp hdecided
        exact hpreparing.requested hopening hasking' (Or.inl rfl) _

end Prepared

/-! ## The volumes opened -/

theorem openInfo_fresh {info : VolumeInfo} {number : ULONG} {t : Trace} {volume : Volume}
    (h : Runs (Volume.openInfo info number) t (.ok volume)) :
    volume.locked = false ∧ volume.removedMountPoints = [] := by
  unfold Volume.openInfo at h
  split at h
  · cases (Runs.done_iff.mp h).2
  · obtain ⟨answer, rest, rfl, hopened⟩ := Runs.call_iff.mp h
    cases answer with
    | error code => cases (Runs.done_iff.mp hopened).2
    | ok handle =>
      rcases Runs.tryBind_iff.mp hopened with ⟨_, _, herror⟩ | ⟨actual, t₁, t₂, _, hchecked, _⟩
      · cases herror
      · by_cases hsame : actual ≠ number
        · rw [if_pos hsame] at hchecked
          cases (Runs.done_iff.mp hchecked).2
        · rw [if_neg hsame] at hchecked
          cases (Runs.done_iff.mp hchecked).2
          exact ⟨rfl, rfl⟩

/-- A loop keeps what its body keeps. -/
theorem tryFold_ok {α β : Type} {P : β → Prop} {f : β → α → Fallible β}
    (hf : ∀ b a t b', P b → Runs (f b a) t (.ok b') → P b') {as : List α} {b b' : β} {t : Trace}
    (hb : P b) (h : Runs (Procedure.tryFold f b as) t (.ok b')) : P b' := by
  induction as generalizing b t with
  | nil =>
    cases (Runs.done_iff.mp h).2
    exact hb
  | cons a as ih =>
    rcases Runs.tryBind_iff.mp h with ⟨_, _, herror⟩ | ⟨next, t₁, t₂, hfirst, hrest, _⟩
    · cases herror
    · exact ih (hf b a t₁ next hb hfirst) hrest

theorem openDisk_fresh {number : ULONG} {location : ScsiLocation} {t : Trace}
    {deletion : DiskDeletion} (h : Runs (DiskDeletion.openDisk number location) t (.ok deletion)) :
    ∀ v ∈ deletion.volumes, v.locked = false ∧ v.removedMountPoints = [] := by
  rcases Runs.tryBind_iff.mp h with ⟨_, _, herror⟩ | ⟨infos, _, t₁, _, hvolumes, _⟩
  · cases herror
  rcases Runs.tryBind_iff.mp hvolumes with ⟨_, _, herror⟩ | ⟨volumes, t₂, t₃, hfold, hverify, _⟩
  · cases herror
  rcases Runs.tryBind_iff.mp hverify with ⟨_, _, herror⟩ | ⟨_, _, t₄, _, hdone, _⟩
  · cases herror
  cases (Runs.done_iff.mp hdone).2
  apply tryFold_ok (P := fun opened : List Volume =>
    ∀ v ∈ opened, v.locked = false ∧ v.removedMountPoints = []) _ _ hfold
  · intro opened info t₅ opened' hopened hbody
    rcases Runs.tryBind_iff.mp hbody with ⟨_, _, herror⟩ | ⟨volume, t₆, t₇, hopen, hdone, _⟩
    · cases herror
    cases (Runs.done_iff.mp hdone).2
    intro v hv
    rcases List.mem_append.mp hv with hv | hv
    · exact hopened v hv
    · rw [List.mem_singleton.mp hv]
      exact openInfo_fresh hopen
  · exact fun v hv => absurd hv List.not_mem_nil

/-! ## The whole call -/

/-- What comes before the volumes are open: inquiries alone, and an error if they end the call. -/
theorem deleteAllocation_runs {adapter : OpenAdapter} {adapterInstance : ULONGLONG} {id : ULONG}
    {force : Bool} {t : Trace} {result : Except Error Unit}
    (h : Runs (deleteAllocation adapter adapterInstance id force) t result) :
    ((∀ e ∈ t, e.call.Inquiry) ∧ ∃ error, result = .error error) ∨
    ∃ number location deletion resolving opened rest, t = resolving ++ opened ++ rest ∧
      (∀ e ∈ resolving, e.call.Inquiry) ∧
      Runs (DiskDeletion.openDisk number location) opened (.ok deletion) ∧
      Runs (deletePrepared adapter adapterInstance id force number location deletion)
        rest result := by
  rcases Runs.tryBind_iff.mp h with ⟨error, hstate, rfl⟩ | ⟨state, t₁, t₂, hstate, hlisted, rfl⟩
  · exact Or.inl ⟨hstate.only (state_inquires adapter), error, rfl⟩
  have hasked := hstate.only (state_inquires adapter)
  have hbail : ∀ text, Runs (bail text : Fallible Unit) t₂ result →
      (∀ e ∈ t₁ ++ t₂, e.call.Inquiry) ∧ ∃ error, result = .error error := by
    intro text hfailed
    obtain ⟨rfl, rfl⟩ := Runs.done_iff.mp hfailed
    rw [List.append_nil]
    exact ⟨hasked, _, rfl⟩
  by_cases hstale : state.adapterInstance ≠ adapterInstance
  · rw [if_pos hstale] at hlisted
    exact Or.inl (hbail _ hlisted)
  rw [if_neg hstale] at hlisted
  cases hfound : (listedDisks state).find? fun entry => entry.disk.deviceId == id with
  | none =>
    rw [hfound] at hlisted
    exact Or.inl (hbail _ hlisted)
  | some entry =>
    rw [hfound] at hlisted
    simp only at hlisted
    by_cases hstopping : entry.state ≠ 1
    · rw [if_pos hstopping] at hlisted
      exact Or.inl (hbail _ hlisted)
    rw [if_neg hstopping] at hlisted
    have hwait := waitForPhysicalDisk_inquires (diskLocation adapter entry)
    rcases Runs.tryBind_iff.mp hlisted with ⟨error, hmissing, rfl⟩ | ⟨number, t₃, t₄, hnumber, hopen, rfl⟩
    · refine Or.inl ⟨fun e he => ?_, error, rfl⟩
      rcases List.mem_append.mp he with he | he
      · exact hasked e he
      · exact hmissing.only hwait e he
    have hresolving : ∀ e ∈ t₁ ++ t₃, e.call.Inquiry := by
      intro e he
      rcases List.mem_append.mp he with he | he
      · exact hasked e he
      · exact hnumber.only hwait e he
    rcases Runs.tryBind_iff.mp hopen with ⟨error, hfailed, rfl⟩ | ⟨deletion, t₅, t₆, hopened, hdelete, rfl⟩
    · refine Or.inl ⟨fun e he => ?_, error, rfl⟩
      rw [← List.append_assoc] at he
      rcases List.mem_append.mp he with he | he
      · exact hresolving e he
      · exact hfailed.only (openDisk_inquires _ _) e he
    · refine Or.inr ⟨number, _, deletion, t₁ ++ t₃, t₅, t₆, ?_, hresolving, hopened, hdelete⟩
      rw [List.append_assoc, List.append_assoc]

/-- However its calls come out, a deletion of an allocation makes inquiries alone and fails, or its
volumes are prepared all or restored. -/
theorem deleteAllocation_allOrRestored (adapter : OpenAdapter) (adapterInstance : ULONGLONG)
    (id : ULONG) (force : Bool) (t : Trace) (result : Except Error Unit)
    (h : Runs (deleteAllocation adapter adapterInstance id force) t result) :
    ((∀ e ∈ t, e.call.Inquiry) ∧ ∃ error, result = .error error) ∨
    ∃ number location deletion resolving opened rest, t = resolving ++ opened ++ rest ∧
      Runs (DiskDeletion.openDisk number location) opened (.ok deletion) ∧
      (∀ e ∈ resolving ++ opened, e.call.Inquiry) ∧
      AllOrRestored force deletion.volumes t result := by
  rcases deleteAllocation_runs h with hnone |
    ⟨number, location, deletion, resolving, opened, rest, rfl, hresolving, hopened, hdelete⟩
  · exact Or.inl hnone
  have hopening : ∀ e ∈ resolving ++ opened, e.call.Inquiry := by
    intro e he
    rcases List.mem_append.mp he with he | he
    · exact hresolving e he
    · exact hopened.only (openDisk_inquires number location) e he
  have hvolumes := openDisk_fresh hopened
  exact Or.inr ⟨number, location, deletion, resolving, opened, rest, rfl, hopened, hopening,
    deletePrepared_runs (fun v hv => (hvolumes v hv).1) (fun v hv => (hvolumes v hv).2) hopening
      hdelete⟩

/-- The inventory of an adapter with one disk. -/
def oneDisk : StateResponse where
  adapterInstance := 7
  diskCount := 1
  disks := [{ disk := { deviceId := 5, lun := 2 }, state := 1 }]

/-- A deletion of a disk with one volume at `E:\` and `F:\`, whose second mount point stays. -/
def blockedRemoval : Trace :=
  [⟨.sendListState 1, .ok oneDisk⟩, ⟨.registerNotification, .ok ()⟩, ⟨.retriesLeft, (0 : ℕ)⟩,
    ⟨.getClassDevs, .ok (1 : ℕ)⟩, ⟨.enumDeviceInterfaces 0, .ok ()⟩,
    ⟨.getInterfaceDetail 0, .ok [1]⟩, ⟨.createFile (.path [1]) .none, .ok (2 : ℕ)⟩,
    ⟨.getScsiAddress 2, .ok (⟨3, 0, 0, 2⟩, 8)⟩, ⟨.getDeviceNumber 2, .ok (⟨7, 4⟩, 12)⟩,
    ⟨.findVolumes, .ok [.ok [86, 92]]⟩, ⟨.createFile (.path [86]) .none, .ok (9 : ℕ)⟩,
    ⟨.getDiskExtents 9, .ok (⟨1, 4⟩, 32)⟩,
    ⟨.getVolumePaths [86, 92], .ok [[69, 58, 92], [70, 58, 92]]⟩,
    ⟨.createFile (.path [86]) .readWrite, .ok (10 : ℕ)⟩, ⟨.getDiskExtents 10, .ok (⟨1, 4⟩, 32)⟩,
    ⟨.createFile (.physicalDrive 4) .none, .ok (11 : ℕ)⟩,
    ⟨.getScsiAddress 11, .ok (⟨3, 0, 0, 2⟩, 8)⟩,
    ⟨.lockVolume 10, .ok ()⟩, ⟨.dismountVolume 10, .ok ()⟩,
    ⟨.deleteMountPoint 10 [69, 58, 92], .ok ()⟩, ⟨.deleteMountPoint 10 [70, 58, 92], .error 5⟩,
    ⟨.setMountPoint 10 [69, 58, 92] [86, 92], .ok ()⟩, ⟨.unlockVolume 10, .ok ()⟩]

theorem blockedRemoval_allOrRestored :
    ((∀ e ∈ blockedRemoval, e.call.Inquiry) ∧
      ∃ error, (Except.error (.os "remove volume mount point" 5) : Except Error Unit) =
        .error error) ∨
    ∃ number location deletion resolving opened rest,
      blockedRemoval = resolving ++ opened ++ rest ∧
      Runs (DiskDeletion.openDisk number location) opened (.ok deletion) ∧
      (∀ e ∈ resolving ++ opened, e.call.Inquiry) ∧
      AllOrRestored false deletion.volumes blockedRemoval
        (.error (.os "remove volume mount point" 5)) :=
  deleteAllocation_allOrRestored ⟨1, 3⟩ 7 5 false blockedRemoval _ (Runs.of_replay (by rfl))

end WispDisk.Cli
