import WispDisk.Lifecycle.Backing

/-! Where the backing store of every disk that was ever committed is: with the LUN that has its
device ID, in the hands of the thread that removes that LUN, or freed. Like the ledger it needs
that StorPort does not restart an adapter whose teardown has begun. -/
namespace WispDisk
open SlotTable
set_option autoImplicit false

/-- The backing store of a commit is freed, or its LUN exists and owns it, unless the thread that
removes the LUN is about to free it. -/
def Placed (luns : Fin kMaximumDiskCount → Lun) (frees : List Allocation)
    (draining : Option (Fin kMaximumDiskCount × Position)) (commit : Commit) : Prop :=
  commit.allocation ∈ frees ∨ ∃ l, (luns l).state ≠ .empty ∧
    (luns l).deviceId = commit.deviceId ∧ ((luns l).backingStore = some commit.allocation ∨
      draining = some (l, .inside (.freeing (some commit.allocation))))

namespace Placed

variable {luns luns' : Fin kMaximumDiskCount → Lun} {frees frees' : List Allocation}
  {draining draining' : Option (Fin kMaximumDiskCount × Position)} {commit : Commit}

theorem moved (h : Placed luns frees draining commit) (hluns : ∀ l, (luns l).state ≠ .empty →
      (luns' l).state ≠ .empty ∧ (luns' l).deviceId = (luns l).deviceId ∧
        (luns' l).backingStore = (luns l).backingStore)
    (hfrees : ∀ x ∈ frees, x ∈ frees')
    (hdraining : ∀ l x, draining = some (l, .inside (.freeing (some x))) →
      draining' = some (l, .inside (.freeing (some x)))) : Placed luns' frees' draining' commit := by
  rcases h with hfreed | ⟨l, hstate, hdevice, hplace⟩
  · exact Or.inl (hfrees _ hfreed)
  · obtain ⟨hstate', hdevice', hbacking'⟩ := hluns l hstate
    refine Or.inr ⟨l, hstate', hdevice'.trans hdevice, ?_⟩
    rw [hbacking']
    exact hplace.imp_right (hdraining l _)

/-- Steps of other threads. -/
theorem same (h : Placed luns frees draining commit) (hluns : ∀ l, SamePlace (luns l) (luns' l)) :
    Placed luns' frees draining commit :=
  h.moved (fun l hl => ⟨by rwa [(hluns l).state], (hluns l).deviceId, (hluns l).backing⟩)
    (fun _ hx => hx) fun _ _ hd => hd

/-- A LUN that nothing is known of is written. -/
theorem commitOther {l : Fin kMaximumDiskCount} {lun : Lun}
    (h : Placed luns frees draining commit) (hempty : (luns l).state = .empty) :
    Placed (Function.update luns l lun) frees draining commit := by
  refine h.moved (fun k hk => ?_) (fun _ hx => hx) fun _ _ hd => hd
  have hkl : k ≠ l := fun heq => hk (heq ▸ hempty)
  rw [Function.update_of_ne hkl]
  exact ⟨hk, rfl, rfl⟩

/-- `DetachBackingStore` hands the backing store to the removing thread. -/
theorem detach {l : Fin kMaximumDiskCount} {deviceId : ULONG}
    (h : Placed luns frees (some (l, .inside (.detaching deviceId))) commit) :
    Placed (Function.update luns l { luns l with backingStore := none }) frees
      (some (l, .inside (.freeing (luns l).backingStore))) commit := by
  rcases h with hfreed | ⟨k, hstate, hdevice, hplace | hplace⟩
  · exact Or.inl hfreed
  · refine Or.inr ⟨k, ?_⟩
    rcases eq_or_ne k l with rfl | hkl
    · rw [Function.update_self]
      exact ⟨hstate, hdevice, Or.inr (by rw [hplace])⟩
    · rw [Function.update_of_ne hkl]
      exact ⟨hstate, hdevice, Or.inl hplace⟩
  · cases hplace

theorem free {l : Fin kMaximumDiskCount} {backing : Option Allocation}
    (h : Placed luns frees (some (l, .inside (.freeing backing))) commit) :
    Placed luns (frees ++ backing.toList) (some (l, .inside .drained)) commit := by
  rcases h with hfreed | ⟨k, hstate, hdevice, hplace | hplace⟩
  · exact Or.inl (List.mem_append_left _ hfreed)
  · exact Or.inr ⟨k, hstate, hdevice, Or.inl hplace⟩
  · cases hplace
    exact Or.inl (List.mem_append_right _ (List.mem_singleton.mpr rfl))

/-- A detached LUN whose backing store has been freed is emptied. -/
theorem remove {l : Fin kMaximumDiskCount} {lun : Lun} (h : Placed luns frees draining commit)
    (hbacking : (luns l).backingStore = none)
    (hdraining : ∀ k x, draining ≠ some (k, .inside (.freeing (some x)))) :
    Placed (Function.update luns l lun) frees draining' commit := by
  rcases h with hfreed | ⟨k, hstate, hdevice, hplace | hplace⟩
  · exact Or.inl hfreed
  · have hkl : k ≠ l := fun heq => by
      rw [heq, hbacking] at hplace
      cases hplace
    refine Or.inr ⟨k, ?_⟩
    rw [Function.update_of_ne hkl]
    exact ⟨hstate, hdevice, Or.inl hplace⟩
  · exact absurd hplace (hdraining k _)

end Placed

namespace Machine

def Whereabouts (c : Machine) : Prop :=
  ∀ commit ∈ c.commits, Placed c.luns c.frees (draining (removal c.task) c.closing) commit

theorem DrainStep.placed {c c' : Machine} {l : Fin kMaximumDiskCount} {stage next : DrainStage}
    (hdrain : c.DrainStep ⟨l, stage⟩ c' next)
    (h : ∀ commit ∈ c.commits, Placed c.luns c.frees (some (l, .inside stage)) commit) :
    ∀ commit ∈ c'.commits, Placed c'.luns c'.frees (some (l, .inside next)) commit := by
  intro commit hcommit
  cases hdrain with
  | waited | refused =>
    exact (h commit hcommit).moved (fun _ hl => ⟨hl, rfl, rfl⟩) (fun _ hx => hx) fun _ _ hd => by cases hd
  | detached l hstate => exact (h commit hcommit).detach
  | freed l backing => exact (h commit hcommit).free

theorem Whereabouts.step {c c' : Machine} (h : c.Whereabouts) (hr : c.Removing)
    (hquiet : Quiet c.stopping c.task c.closing) (hs : c.Step beforeTeardown c') :
    c'.Whereabouts := by
  have hkeep : ∀ {luns : Fin kMaximumDiskCount → Lun}, (∀ l, SamePlace (c.luns l) (luns l)) →
      ∀ commit ∈ c.commits, Placed luns c.frees (draining (removal c.task) c.closing) commit :=
    fun hsame commit hcommit => (h commit hcommit).same hsame
  unfold Whereabouts at h ⊢
  cases hs with
  | reserved | stopped | restarted => exact h
  | admittedLegacy command hopen hidle | admittedReserved command i hopen hidle =>
    rw [hidle] at h
    exact h
  | queueFailed command htask | rejected command htask | missing command htask
  | notSelected command work status htask | selected command work l htask
  | notAllocated command work l htask | allocated command work l htask
  | notCommitted command work l allocation status htask
  | notMarked command work htask | answered command work status created htask
  | ended command htask =>
    rw [htask] at h
    exact h
  | startedLegacy command htask | startedReserved command i correlation htask =>
    rw [htask] at h
    simp only [setTask, removal_start]
    exact h
  | freed command work allocation status htask =>
    rw [htask] at h
    exact fun commit hcommit => (h commit hcommit).moved (fun _ hl => ⟨hl, rfl, rfl⟩)
      (fun _ hx => List.mem_append_left _ hx) fun _ _ hd => hd
  | committed command work l allocation htask hopen hempty hnext =>
    rw [htask] at h
    intro commit hcommit
    rcases List.mem_append.mp hcommit with hold | hnew
    · exact (h commit hold).commitOther hempty
    · rw [List.mem_singleton] at hnew
      subst hnew
      refine Or.inr ⟨l, ?_⟩
      simp only [Function.update_self]
      exact ⟨LunState.noConfusion, rfl, Or.inl rfl⟩
  | marked command work l htask honline htarget =>
    have hidle := hquiet.not_idle (by rw [htask]; exact Option.some_ne_none _)
    rw [htask, draining_of_not_idle hidle] at h
    simp only [draining_of_not_idle hidle]
    refine fun commit hcommit => (h commit hcommit).moved (fun k hk => ?_) (fun _ hx => hx)
      fun _ _ hd => by cases hd
    rcases eq_or_ne k l with rfl | hkl
    · rw [Function.update_self]
      exact ⟨LunState.noConfusion, rfl, rfl⟩
    · rw [Function.update_of_ne hkl]
      exact ⟨hk, rfl, rfl⟩
  | workerDrained command work l stage next c' htask hdrain =>
    have hidle := hquiet.not_idle (by rw [htask]; exact Option.some_ne_none _)
    obtain ⟨_, hclosing, _, _⟩ := hdrain.frame
    rw [htask, draining_of_not_idle hidle] at h
    simp only [setTask, hclosing, draining_of_not_idle hidle]
    exact hdrain.placed h
  | workerFinalized command work l htask =>
    have hidle := hquiet.not_idle (by rw [htask]; exact Option.some_ne_none _)
    have hat : draining (removal c.task) c.closing = some (l, .inside .drained) := by
      rw [htask, draining_of_not_idle hidle]
      rfl
    have hbacking := (hr.drained l _ hat).2.1
    rw [hat] at h
    exact fun commit hcommit => (h commit hcommit).remove hbacking fun _ _ hd => by cases hd
  | published command snapshot correlation status created i htask hid hzero =>
    have hsame := hkeep (publishedLuns_place c.luns (resolvedRecord snapshot status created))
    rw [htask] at hsame
    exact hsame
  | acquired l backing honline hbacking hlimit =>
    exact hkeep (relate_update SamePlace.refl ⟨rfl, rfl, rfl, fun hne => absurd honline hne⟩)
  | released i lease hlease => exact hkeep (relate_update SamePlace.refl (Lun.released_place _))
  | entered hclosing | admissionClosed hclosing | idleLeft hclosing | noneStopping hclosing
  | workerReleased hclosing | invalidated hclosing =>
    rw [hclosing] at h
    exact h
  | idle hclosing hidle =>
    rw [hclosing] at h
    exact h
  | markedAll hclosing =>
    rw [hclosing] at h
    refine fun commit hcommit => (h commit hcommit).moved (fun l hl => ?_) (fun _ hx => hx)
      fun _ _ hd => hd
    simp only
    split
    · exact ⟨LunState.noConfusion, rfl, rfl⟩
    · exact ⟨hl, rfl, rfl⟩
  | selectedStopping l hclosing hstate =>
    have hidle : c.task = none := hquiet.idle (by rw [hclosing]; rfl)
    rw [hclosing, hidle] at h
    exact fun commit hcommit => (h commit hcommit).moved (fun _ hl => ⟨hl, rfl, rfl⟩)
      (fun _ hx => hx) fun _ _ hd => by cases hd
  | targetRead l hclosing =>
    rw [hclosing] at h
    exact fun commit hcommit => (h commit hcommit).moved (fun _ hl => ⟨hl, rfl, rfl⟩)
      (fun _ hx => hx) fun _ _ hd => by cases hd
  | teardownDrained l stage next c' hclosing hdrain =>
    rw [hclosing] at h
    exact hdrain.placed h
  | removedRead l hclosing =>
    rw [hclosing] at h
    exact fun commit hcommit => (h commit hcommit).moved (fun _ hl => ⟨hl, rfl, rfl⟩)
      (fun _ hx => hx) fun _ _ hd => by cases hd
  | teardownFinalized l deviceId hclosing =>
    have hat : draining (removal c.task) c.closing = some (l, .finalizing deviceId) := by
      rw [hclosing]
      rfl
    have hbacking := (hr.drained l _ hat).2.1
    rw [hat] at h
    exact fun commit hcommit => (h commit hcommit).remove hbacking fun _ _ hd => by cases hd

theorem Whereabouts.reachable {c : Machine} (h : c.Reachable beforeTeardown) : c.Whereabouts := by
  obtain ⟨adapterInstance, hrun⟩ := h
  induction hrun with
  | refl => exact nofun
  | tail hrun hs ih =>
    exact ih.step (Removing.reachable ⟨_, hrun⟩) (Quiet.reachable ⟨_, hrun⟩) hs

/-- A disk that no LUN has any more was freed, exactly once. -/
theorem freed_of_gone {c : Machine} (h : c.Reachable beforeTeardown) {commit : Commit}
    (hcommit : commit ∈ c.commits)
    (hgone : ∀ l, (c.luns l).state ≠ .empty → (c.luns l).deviceId ≠ commit.deviceId) :
    c.frees.count commit.allocation = 1 := by
  have hfreed : commit.allocation ∈ c.frees := by
    rcases Whereabouts.reachable h commit hcommit with hfreed | ⟨l, hstate, hdevice, _⟩
    · exact hfreed
    · exact absurd hdevice (hgone l hstate)
  have hplaces := (Ledger.reachable h).places commit.allocation
  have hpositive := List.count_pos_iff.mpr hfreed
  rw [if_pos (commit_allocated h commit hcommit), places] at hplaces
  omega

end Machine

end WispDisk
