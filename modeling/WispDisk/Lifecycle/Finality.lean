import WispDisk.Lifecycle.Erasure

/-! What is final of a reserved operation. The logs of disks only grow; an operation whose record
has failed never touches a disk afterwards, and the disk of a Deleted create never comes back. -/
namespace WispDisk
open Effects
set_option autoImplicit false

namespace OperationRecord

variable {r r' : OperationRecord}

/-- A record that failed, or whose disk was removed, stays as it is. -/
theorem Moves.final (h : Moves r r') (hfinal : r.state = .failed ∨ r.state = .deleted) : r' = r := by
  induction h with
  | refl => rfl
  | tail _ hmove ih =>
    rw [ih] at hmove
    cases hmove with
    | bound command hstate => rcases hfinal with h | h <;> cases h.symm.trans hstate
    | finished _ hstate => rcases hfinal with h | h <;> cases h.symm.trans hstate
    | deleted hstate => rcases hfinal with h | h <;> cases h.symm.trans hstate

end OperationRecord

/-- An operation has one commit. -/
theorem Outcomes.commit_unique {g : OperationLog} {task : Option Task} {e : Effects}
    (h : Outcomes g task e) {c d : Commit} (hc : c ∈ e.commits) (hd : d ∈ e.commits)
    {x : ULONGLONG} (hcx : c.operation = some x) (hdx : d.operation = some x) : c = d := by
  by_contra hne
  have hpairs := List.pairwise_filterMap.mp h.committedOnce
  have hsymmetric : Std.Symm fun a b : Commit =>
      ∀ x, a.operation = some x → ∀ y, b.operation = some y → x ≠ y :=
    ⟨fun a b hab x hx y hy heq => hab y hy x hx heq.symm⟩
  exact hpairs.forall hc hd hne x hcx x hdx rfl

namespace Machine

variable {restartable : Machine → Prop} {c c' : Machine} {x : ULONGLONG}

/-- The mutation in flight works for the operation. -/
def WorksFor (c : Machine) (x : ULONGLONG) : Prop :=
  ∃ command stage work, c.task = some ⟨command, stage⟩ ∧ stage.work? = some work ∧
    work.operation = some x

/-- What a step does to the disks: nothing, or one commit or removal of the work in flight. -/
inductive Affects (c : Machine) : Effects → Prop
  | kept : Affects c c.effects
  | committed (new : Commit) (h : ∀ x, new.operation = some x → c.WorksFor x) :
      Affects c (c.effects.commit new)
  | removed (new : Removal) (h : ∀ x, new.operation = some x → c.WorksFor x) :
      Affects c (c.effects.remove new)

theorem Step.affects (hs : c.Step restartable c') : c.Affects c'.effects := by
  cases hs with
  | committed command work l allocation htask =>
    exact .committed ⟨work.operation, work.request, c.nextDeviceId, l, allocation⟩
      fun x hx => ⟨command, _, work, htask, rfl, hx⟩
  | workerFinalized command work l htask =>
    exact .removed ⟨work.operation, work.target⟩ fun x hx => ⟨command, _, work, htask, rfl, hx⟩
  | teardownFinalized l deviceId => exact .removed ⟨none, deviceId⟩ fun x hx => by cases hx
  | workerDrained command work l stage next d htask hdrain => cases hdrain <;> exact .kept
  | teardownDrained l stage next d hclosing hdrain => cases hdrain <;> exact .kept
  | _ => exact .kept

/-- The logs of a run only grow. -/
theorem effects_grow (hrun : Relation.ReflTransGen (Step restartable) c c') :
    (∀ commit ∈ c.commits, commit ∈ c'.commits) ∧ ∀ removal ∈ c.removals, removal ∈ c'.removals := by
  induction hrun with
  | refl => exact ⟨fun _ h => h, fun _ h => h⟩
  | @tail d d' _ hs ih =>
    have hgrow : (∀ commit ∈ d.effects.commits, commit ∈ d'.effects.commits) ∧
        ∀ removal ∈ d.effects.removals, removal ∈ d'.effects.removals := by
      have haffects := hs.affects
      generalize d'.effects = e at haffects ⊢
      cases haffects with
      | kept => exact ⟨fun _ h => h, fun _ h => h⟩
      | committed new => exact ⟨fun _ h => List.mem_append_left _ h, fun _ h => h⟩
      | removed new => exact ⟨fun _ h => h, fun _ h => List.mem_append_left _ h⟩
    exact ⟨fun commit h => hgrow.1 commit (ih.1 commit h),
      fun removal h => hgrow.2 removal (ih.2 removal h)⟩

/-- The work in flight belongs to a pending record. -/
theorem WorksFor.pending (h : c.WorksFor x) (hr : Records c.log c.task) :
    ∃ i, (c.operations i).id = x ∧ (c.operations i).state = .pending := by
  obtain ⟨command, stage, work, htask, hwork, hx⟩ := h
  rw [htask] at hr
  obtain ⟨i, _, _, hid, hstate⟩ := hr.pending_of_work hwork hx
  exact ⟨i, hid, hstate⟩

/-- An operation without a pending record touches no disk. -/
theorem untouched_step (hs : c.Step restartable c') (h : c.effects.Untouched x)
    (hidle : ¬ c.WorksFor x) : c'.effects.Untouched x := by
  have haffects := hs.affects
  generalize c'.effects = e at haffects ⊢
  cases haffects with
  | kept => exact h
  | committed new hnew => exact h.commit fun hx => hidle (hnew x hx)
  | removed new hnew => exact h.remove fun hx => hidle (hnew x hx)

/-- An operation whose record failed touches no disk. -/
theorem untouched_of_failed (hr : c.Reachable restartable)
    (hrun : Relation.ReflTransGen (Step restartable) c c') {i : Fin kMaximumOperationCount}
    (hfailed : (c.operations i).state = .failed) :
    c'.effects.Untouched (c.operations i).id := by
  obtain ⟨adapterInstance, hinit⟩ := hr
  have hid : (c.operations i).id ≠ 0 := by
    apply (Records.reachable ⟨_, hinit⟩).id_ne_zero
    intro hunset
    cases hfailed.symm.trans hunset
  induction hrun with
  | refl => exact ((Outcomes.reachable ⟨_, hinit⟩).truthful i).failed hfailed
  | @tail d d' hrun hs ih =>
    refine untouched_step hs ih fun hworks => ?_
    have hrecords : Records d.log d.task := Records.reachable ⟨_, hinit.trans hrun⟩
    obtain ⟨j, hj, hpending⟩ := hworks.pending hrecords
    rcases Followed.run ⟨_, hinit⟩ hrun hid with hmoves | hgone
    · have hsame := hmoves.final (Or.inl hfailed)
      have hj' : (d.operations j).id ≠ 0 := by
        rw [hj]
        exact hid
      have hji : j = i :=
        hrecords.unique j i hj' (hj.trans (congrArg OperationRecord.id hsame).symm)
      have hpending' : (d.operations i).state = .pending := hji ▸ hpending
      rw [hsame, hfailed] at hpending'
      cases hpending'
    · exact hgone j hj

/-- The disk of a Deleted create never comes back. -/
theorem gone_of_deleted (hr : c.Reachable restartable)
    (hrun : Relation.ReflTransGen (Step restartable) c c') {i : Fin kMaximumOperationCount}
    (hdeleted : (c.operations i).state = .deleted) {commit : Commit} (hcommit : commit ∈ c'.commits)
    (hoperation : commit.operation = some (c.operations i).id) : c'.Gone commit.deviceId := by
  obtain ⟨adapterInstance, hinit⟩ := hr
  have htruthful := (Outcomes.reachable ⟨_, hinit⟩).truthful i
  obtain ⟨first, hfirst, hfirstOperation, _, hdevice, _⟩ :=
    htruthful.created (htruthful.deleted hdeleted) (Or.inr hdeleted)
  have hsame : commit = first :=
    (Outcomes.reachable ⟨_, hinit.trans hrun⟩).commit_unique hcommit
      ((effects_grow hrun).1 first hfirst) hoperation hfirstOperation
  have hgone := ((Erasing.reachable ⟨_, hinit⟩).erased i hdeleted).run ⟨_, hinit⟩ hrun
  rw [hsame, show first.deviceId = (c.operations i).deviceId from hdevice]
  exact hgone

end Machine

end WispDisk
