import WispDisk.Lifecycle.Moves

/-! A device ID that is gone never comes back, and the disk of a Deleted create is gone, whatever
StorPort does: a removal names the device ID that it read on its LUN, and no other LUN can have that
ID by the time the records are marked. -/
namespace WispDisk
open ManagementController SlotTable
set_option autoImplicit false

/-! ## Device IDs -/

/-- The LUN keeps its device ID or gets the given one. -/
def Lun.Renamed (deviceId : ULONG) (l l' : Lun) : Prop :=
  l'.deviceId = l.deviceId ∨ l'.deviceId = deviceId

theorem Lun.Renamed.refl (deviceId : ULONG) (l : Lun) : l.Renamed deviceId l := Or.inl rfl

/-- A step hands out the next device ID, or hands out none and zeroes some. -/
theorem Machine.Step.deviceIds {restartable : Machine → Prop} {c c' : Machine}
    (hs : c.Step restartable c') :
    (c'.commits = c.commits ∧ ∀ l, (c.luns l).Renamed 0 (c'.luns l)) ∨
      ∃ commit, c.nextDeviceId ≠ 0 ∧ commit.deviceId = c.nextDeviceId ∧
        c'.commits = c.commits ++ [commit] ∧ ∀ l, (c.luns l).Renamed c.nextDeviceId (c'.luns l) := by
  have hsame : ∀ luns : Fin kMaximumDiskCount → Lun, (∀ l, SameDisk (c.luns l) (luns l)) →
      ∀ l, (c.luns l).Renamed 0 (luns l) := fun luns h l => Or.inl (h l).deviceId
  have hremoved : ∀ k l, (c.luns l).Renamed 0
      (Function.update c.luns k (LunStore.removedLun (c.luns k)) l) := fun k =>
    relate_update (Lun.Renamed.refl 0) (Or.inr rfl)
  cases hs with
  | committed command work l allocation htask hopen hempty hnext =>
    exact Or.inr ⟨_, hnext, rfl, rfl, relate_update (Lun.Renamed.refl _) (Or.inr rfl)⟩
  | workerDrained command work l stage next d htask hdrain =>
    have hcommits := congrArg DiskLog.commits hdrain.same.2
    exact Or.inl ⟨hcommits, hsame _ hdrain.same.1⟩
  | teardownDrained l stage next d hclosing hdrain =>
    have hcommits := congrArg DiskLog.commits hdrain.same.2
    exact Or.inl ⟨hcommits, hsame _ hdrain.same.1⟩
  | workerFinalized command work l htask => exact Or.inl ⟨rfl, hremoved l⟩
  | teardownFinalized l deviceId hclosing => exact Or.inl ⟨rfl, hremoved l⟩
  | published command snapshot correlation status created i htask hid hzero =>
    exact Or.inl ⟨rfl, hsame _ (Machine.publishedLuns_same c.luns _)⟩
  | marked command work l htask honline htarget =>
    exact Or.inl ⟨rfl, relate_update (Lun.Renamed.refl 0) (Or.inl rfl)⟩
  | acquired l backing honline hbacking hlimit =>
    exact Or.inl ⟨rfl, hsame _ (relate_update SameDisk.refl (Lun.acquired_same _))⟩
  | released i lease hlease =>
    exact Or.inl ⟨rfl, hsame _ (relate_update SameDisk.refl (Lun.released_same _))⟩
  | markedAll hclosing =>
    refine Or.inl ⟨rfl, fun l => Or.inl ?_⟩
    simp only
    split <;> rfl
  | reserved | admittedLegacy | admittedReserved | queueFailed | rejected | startedLegacy | missing
  | startedReserved | notSelected | selected | notAllocated | allocated | notCommitted | freed
  | notMarked | answered | ended | stopped | restarted | entered | admissionClosed | idle | idleLeft
  | selectedStopping | noneStopping | targetRead | removedRead | workerReleased | invalidated =>
    exact Or.inl ⟨rfl, fun _ => Or.inl rfl⟩

/-- The device ID was handed out and no LUN has it any more. -/
def Machine.Gone (c : Machine) (deviceId : ULONG) : Prop :=
  deviceId ∈ c.commits.map Commit.deviceId ∧ ∀ l, (c.luns l).deviceId ≠ deviceId

theorem Machine.Gone.step {restartable : Machine → Prop} {c c' : Machine} {deviceId : ULONG}
    (h : c.Gone deviceId) (hr : Accounting c.disks c.task) (hs : c.Step restartable c') :
    c'.Gone deviceId := by
  obtain ⟨hcommitted, hnone⟩ := h
  have hpositive : deviceId ≠ 0 := fun hzero => by
    have hlt := hr.issued.positive _ hcommitted
    rw [hzero] at hlt
    exact absurd hlt (by decide)
  rcases hs.deviceIds with ⟨hcommits, hluns⟩ | ⟨commit, hnext, hdevice, hcommits, hluns⟩
  · refine ⟨by rwa [hcommits], fun l heq => ?_⟩
    rcases hluns l with hl | hl
    · exact hnone l (hl.symm.trans heq)
    · exact hpositive (heq.symm.trans hl)
  · refine ⟨?_, fun l heq => ?_⟩
    · rw [hcommits, List.map_append]
      exact List.mem_append_left _ hcommitted
    · rcases hluns l with hl | hl
      · exact hnone l (hl.symm.trans heq)
      · refine hr.next_uncommitted hnext ?_
        change c.nextDeviceId ∈ c.commits.map Commit.deviceId
        rwa [← hl, heq]

theorem Machine.Gone.run {restartable : Machine → Prop} {c c' : Machine} {deviceId : ULONG}
    (h : c.Gone deviceId) (hreach : c.Reachable restartable)
    (hrun : Relation.ReflTransGen (Machine.Step restartable) c c') : c'.Gone deviceId := by
  obtain ⟨adapterInstance, hinit⟩ := hreach
  induction hrun with
  | refl => exact h
  | tail hrun hs ih => exact ih.step (Accounting.reachable ⟨adapterInstance, hinit.trans hrun⟩) hs

/-! ## Removals -/

namespace Machine

variable {restartable : Machine → Prop} {c c' : Machine} {l : Fin kMaximumDiskCount}
  {deviceId : ULONG}

/-- The device ID was handed out, if it is one, and no LUN but this one can have it. -/
def Aims (c : Machine) (l : Fin kMaximumDiskCount) (deviceId : ULONG) : Prop :=
  deviceId ≠ 0 → deviceId ∈ c.commits.map Commit.deviceId ∧
    ∀ k, (c.luns k).deviceId = deviceId → k = l

theorem Aims.of_read (hr : Accounting c.disks c.task) (h : (c.luns l).deviceId = deviceId) :
    c.Aims l deviceId := by
  intro hzero
  have hstate : (c.luns l).state ≠ .empty := by
    intro hempty
    exact hzero (h.symm.trans (hr.blank l hempty).2)
  refine ⟨h ▸ hr.committed l hstate, fun k hk => ?_⟩
  exact (hr.distinct l k hstate (h.trans hk.symm)).symm

theorem Aims.step (h : c.Aims l deviceId) (hr : Accounting c.disks c.task)
    (hs : c.Step restartable c') : c'.Aims l deviceId := by
  intro hzero
  obtain ⟨hcommitted, honly⟩ := h hzero
  rcases hs.deviceIds with ⟨hcommits, hluns⟩ | ⟨commit, hnext, hdevice, hcommits, hluns⟩
  · refine ⟨by rwa [hcommits], fun k hk => ?_⟩
    rcases hluns k with heq | heq
    · exact honly k (heq.symm.trans hk)
    · exact absurd (hk.symm.trans heq) hzero
  · refine ⟨?_, fun k hk => ?_⟩
    · rw [hcommits, List.map_append]
      exact List.mem_append_left _ hcommitted
    · rcases hluns k with heq | heq
      · exact honly k (heq.symm.trans hk)
      · refine absurd ?_ (hr.next_uncommitted hnext)
        show c.nextDeviceId ∈ c.commits.map Commit.deviceId
        rwa [← heq, hk]

/-- A worker that removes a LUN has just marked it, or went on with it. -/
theorem Step.drains (hs : c.Step restartable c') {command : MutationCommand} {work : Work}
    {stage : DrainStage} (htask : c'.task = some ⟨command, .drain work ⟨l, stage⟩⟩) :
    (∃ stage', c.task = some ⟨command, .drain work ⟨l, stage'⟩⟩) ∨
      (c.luns l).deviceId = work.target := by
  have hstart : ∀ w, Stage.start w ≠ .drain work ⟨l, stage⟩ := by
    intro w
    unfold Stage.start
    split <;> exact Stage.noConfusion
  cases hs with
  | marked command work m hbefore honline htarget =>
    cases htask
    exact Or.inr htarget
  | workerDrained command work m stage next d hbefore hdrain =>
    cases htask
    exact Or.inl ⟨_, hbefore⟩
  | teardownDrained m stage next d hclosing hdrain =>
    cases hdrain <;> exact Or.inl ⟨_, htask⟩
  | startedLegacy command | startedReserved command =>
    have hstage := congrArg (Option.map Task.stage) htask
    exact absurd (Option.some.inj hstage) (hstart _)
  | reserved | acquired | released | stopped | restarted | entered | admissionClosed | idle
  | idleLeft | markedAll | selectedStopping | noneStopping | targetRead | removedRead
  | teardownFinalized | workerReleased | invalidated => exact Or.inl ⟨_, htask⟩
  | _ => cases htask

/-- The teardown thread has just read the device ID that it removes, or went on with it. -/
theorem Step.finalizes (hs : c.Step restartable c') (hclosing : c'.closing = .finalize l deviceId) :
    c.closing = .finalize l deviceId ∨ (c.luns l).deviceId = deviceId := by
  cases hs with
  | removedRead m h =>
    cases hclosing
    exact Or.inr rfl
  | workerDrained command work m stage next d hbefore hdrain =>
    cases hdrain <;> exact Or.inl hclosing
  | entered | admissionClosed | idle | idleLeft | markedAll | selectedStopping | noneStopping
  | targetRead | teardownDrained | teardownFinalized | workerReleased | invalidated => cases hclosing
  | _ => exact Or.inl hclosing

/-- The thread that is about to finalize the removal of the device on that LUN. -/
def Removes (c : Machine) (l : Fin kMaximumDiskCount) (deviceId : ULONG) : Prop :=
  (∃ command work, c.task = some ⟨command, .drain work ⟨l, .drained⟩⟩ ∧ work.target = deviceId) ∨
    c.closing = .finalize l deviceId

/-- A record becomes Deleted when a thread removes the disk that it created. -/
theorem Step.erases (hs : c.Step restartable c') {i : Fin kMaximumOperationCount}
    (hdeleted : (c'.operations i).state = .deleted) :
    c'.operations i = c.operations i ∨
      (c.operations i).mutation = wispDiskControlCreateDisk ∧
        (c.operations i).state = .succeeded ∧
          (c'.operations i).deviceId = (c.operations i).deviceId ∧ c'.commits = c.commits ∧
            ∃ m, c.Removes m (c.operations i).deviceId ∧
              c'.luns = Function.update c.luns m (LunStore.removedLun (c.luns m)) := by
  have hone : ∀ (k : Fin kMaximumOperationCount) (r : OperationRecord), r.state ≠ .deleted →
      (Function.update c.operations k r i).state = .deleted →
        Function.update c.operations k r i = c.operations i := by
    intro k r hr hstate
    by_cases hik : i = k
    · rw [hik, Function.update_self] at hstate
      exact absurd hstate hr
    · exact Function.update_of_ne hik ..
  have hfail : ∀ {command operations}, Failing c.operations command operations →
      (operations i).state = .deleted → operations i = c.operations i := by
    intro command operations hfailing hstate
    cases hfailing with
    | legacy | missing => rfl
    | failed _ k => exact hone k _ OperationState.noConfusion hstate
  have hmarked : ∀ deviceId, (markDeleted deviceId (c.operations i)).state = .deleted →
      markDeleted deviceId (c.operations i) = c.operations i ∨
        (c.operations i).mutation = wispDiskControlCreateDisk ∧
          (c.operations i).state = .succeeded ∧ (c.operations i).deviceId = deviceId ∧
            (markDeleted deviceId (c.operations i)).deviceId = deviceId := by
    intro deviceId _
    unfold markDeleted
    split
    · rename_i hmatch
      exact Or.inr ⟨hmatch.1, hmatch.2.2, hmatch.2.1, hmatch.2.1⟩
    · exact Or.inl rfl
  cases hs with
  | reserved k => exact Or.inl (hone k _ OperationState.noConfusion hdeleted)
  | admittedReserved command k => exact Or.inl (hone k _ OperationState.noConfusion hdeleted)
  | queueFailed command htask operations hfailing
  | rejected command htask hkind operations hfailing => exact Or.inl (hfail hfailing hdeleted)
  | published command snapshot correlation status created k =>
    refine Or.inl (hone k _ ?_ hdeleted)
    rw [resolvedRecord_state]
    split <;> exact OperationState.noConfusion
  | workerFinalized command work m htask =>
    rcases hmarked work.target hdeleted with hsame | ⟨hmutation, hstate, hdevice, hdevice'⟩
    · exact Or.inl hsame
    · exact Or.inr ⟨hmutation, hstate, hdevice'.trans hdevice.symm, rfl, m,
        Or.inl ⟨command, work, htask, hdevice.symm⟩, rfl⟩
  | teardownFinalized m deviceId hclosing =>
    rcases hmarked deviceId hdeleted with hsame | ⟨hmutation, hstate, hdevice, hdevice'⟩
    · exact Or.inl hsame
    · exact Or.inr ⟨hmutation, hstate, hdevice'.trans hdevice.symm, rfl, m,
        Or.inr (hdevice ▸ hclosing), rfl⟩
  | workerDrained command work m stage next d htask hdrain => cases hdrain <;> exact Or.inl rfl
  | teardownDrained m stage next d hclosing hdrain => cases hdrain <;> exact Or.inl rfl
  | _ => exact Or.inl rfl

/-- Removals aim at their LUN, and the disks of Deleted creates are gone. -/
structure Erasing (c : Machine) : Prop where
  worker : ∀ command work l stage, c.task = some ⟨command, .drain work ⟨l, stage⟩⟩ →
    c.Aims l work.target
  teardown : ∀ l deviceId, c.closing = .finalize l deviceId → c.Aims l deviceId
  erased : ∀ i, (c.operations i).state = .deleted → c.Gone (c.operations i).deviceId

theorem Erasing.removes (h : c.Erasing) (hremoves : c.Removes l deviceId) : c.Aims l deviceId := by
  rcases hremoves with ⟨command, work, htask, rfl⟩ | hclosing
  · exact h.worker command work l _ htask
  · exact h.teardown l deviceId hclosing

theorem Erasing.step (h : c.Erasing) (hr : Accounting c.disks c.task)
    (ho : Outcomes c.log c.task c.effects) (hs : c.Step restartable c') : c'.Erasing where
  worker := fun command work l stage htask => by
    rcases hs.drains htask with ⟨stage', hbefore⟩ | hread
    · exact (h.worker command work l stage' hbefore).step hr hs
    · exact (Aims.of_read hr hread).step hr hs
  teardown := fun l deviceId hclosing => by
    rcases hs.finalizes hclosing with hbefore | hread
    · exact (h.teardown l deviceId hbefore).step hr hs
    · exact (Aims.of_read hr hread).step hr hs
  erased := fun i hdeleted => by
    rcases hs.erases hdeleted with hsame |
      ⟨hmutation, hstate, hdevice, hcommits, m, hremoves, hluns⟩
    · rw [hsame] at hdeleted ⊢
      exact (h.erased i hdeleted).step hr hs
    · obtain ⟨commit, hcommit, _, _, hnumber, _⟩ := (ho.truthful i).created hmutation (Or.inl hstate)
      have hcommitted : (c.operations i).deviceId ∈ c.commits.map Commit.deviceId :=
        List.mem_map.mpr ⟨commit, hcommit, hnumber⟩
      have hzero : (c.operations i).deviceId ≠ 0 := by
        intro hzero
        have hpositive := hr.issued.positive _ hcommitted
        rw [hzero] at hpositive
        exact absurd hpositive (by decide)
      rw [hdevice]
      refine ⟨hcommits ▸ hcommitted, fun k heq => ?_⟩
      rw [hluns] at heq
      by_cases hkm : k = m
      · rw [hkm, Function.update_self] at heq
        exact hzero heq.symm
      · rw [Function.update_of_ne hkm] at heq
        exact hkm ((h.removes hremoves hzero).2 k heq)

theorem Erasing.reachable (h : c.Reachable restartable) : c.Erasing := by
  obtain ⟨adapterInstance, hrun⟩ := h
  induction hrun with
  | refl =>
    refine ⟨fun command work l stage htask => ?_, fun l deviceId hclosing => ?_, fun i hi => ?_⟩
    · cases htask
    · cases hclosing
    · cases hi
  | tail hrun hs ih =>
    exact ih.step (Accounting.reachable ⟨_, hrun⟩) (Outcomes.reachable ⟨_, hrun⟩) hs

end Machine

end WispDisk
