import WispDisk.Guarantees.Schedules
import WispDisk.Lifecycle.Agreement
import WispDisk.Lifecycle.Progress
import WispDisk.Lifecycle.Simulation
import WispDisk.Lifecycle.Teardown

/-! Teardown of the adapter under StorPort's contract for restarts: what `CloseAdmission`,
`WaitForIdle` and the loop of `DrainAndReleaseDisks` leave behind, in every interleaving with the
worker, with requests still arriving and with leases. -/
namespace WispDisk
open Transition
set_option autoImplicit false

namespace Adapter

/-- The state after the loop of `DrainAndReleaseDisks`. -/
structure Drained (a : Adapter) : Prop where
  empty : ∀ l, (a.extension.luns l).state = .empty
  total : a.extension.totalAllocatedBytes = 0
  freed : ∀ commit ∈ a.history.commits, a.pool.frees.count commit.allocation = 1
  creates : ∀ i, ¬(a.extension.operations i).LiveCreate

/-- Teardown waits for the mutation in flight, or for the leases of a LUN. -/
def WaitsFor (a : Adapter) : Prop :=
  (a.teardown = .waitForIdle ∧ a.submissions ≠ []) ∨
    ∃ l deviceId, a.teardown = .waitForLunIo l deviceId ∧ ∃ c ∈ a.commands, c.lun = l

/-- Teardown on a run from `a` to `b`. `history.drained` logs the iterations of the drain loop. -/
structure ShutsDown (a b : Adapter) : Prop where
  /-- After `CloseAdmission` no mutation is admitted. -/
  closed : a.teardown.closing.admissionClosed = true → b.history.admitted = a.history.admitted
  /-- When `WaitForIdle` has returned no work item is queued or running, or ever will be. -/
  idle : a.teardown.closing.idleReached = true → a.submissions = [] ∧ b.submissions = []
  bounded : b.history.drained.length ≤ 16
  /-- An iteration detaches a LUN's backing store after all its leases. -/
  waits : ∀ l deviceId, b.teardown = .detach l deviceId →
    (b.extension.luns l).activeRequests = 0 ∧ ∀ c ∈ b.commands, c.lun ≠ l
  drained : b.teardown.closing.drainsDone = true → b.Drained
  /-- Teardown that has begun and does not wait for the worker or for a lease goes on. -/
  progress : b.teardown ≠ .notStarted → b.WaitsFor ∨ b.teardown = .done ∨
    ∃ c, system.step b (.teardown false) = some c ∧ c.teardown ≠ b.teardown

theorem submissions_of_idle {a : Adapter} (h : Reachable system noRestartDuringTeardown a)
    (hidle : a.teardown.closing.idleReached = true) : a.submissions = [] := by
  have hquiet := Quiet.reachable (reachable_beforeTeardown h)
  have htask : a.submissions.head?.map Submission.task = none := hquiet.idle hidle
  exact List.head?_eq_none_iff.mp (Option.map_eq_none_iff.mp htask)

/-- Teardown only goes forward. -/
theorem path_forward {a b : Adapter} (h : Reachable system noRestartDuringTeardown a)
    (hp : Steps system noRestartDuringTeardown a b) :
    (a.teardown.closing.admissionClosed = true → b.teardown.closing.admissionClosed = true) ∧
      (a.teardown.closing.idleReached = true → b.teardown.closing.idleReached = true) := by
  have hrun := path_beforeTeardown h hp
  change (a.machine.closing.admissionClosed = true → b.machine.closing.admissionClosed = true) ∧
    (a.machine.closing.idleReached = true → b.machine.closing.idleReached = true)
  generalize b.machine = c at hrun
  induction hrun with
  | refl => exact ⟨fun h => h, fun h => h⟩
  | tail _ hs ih =>
    obtain ⟨hclosed, hidle⟩ := hs.closing_forward
    exact ⟨fun h => hclosed (ih.1 h), fun h => hidle (ih.2 h)⟩

theorem admitted_of_closed {a b : Adapter} (h : Reachable system noRestartDuringTeardown a)
    (hp : Steps system noRestartDuringTeardown a b)
    (hclosed : a.teardown.closing.admissionClosed = true) :
    b.history.admitted = a.history.admitted := by
  induction hp with
  | refl => rfl
  | @step c d action hpath hallowed hs ih =>
    have hc := h.path hpath
    have hquiet := Quiet.reachable (reachable_beforeTeardown hc)
    have hstopping := hquiet.stopping ((path_forward h hpath).1 hclosed)
    exact (step_admitted (Gate.reachable hc) hstopping hs).trans ih

theorem detach_idle {a : Adapter} (h : Reachable system noRestartDuringTeardown a)
    {l : Fin kMaximumDiskCount} {deviceId : ULONG} (hteardown : a.teardown = .detach l deviceId) :
    (a.extension.luns l).activeRequests = 0 ∧ ∀ c ∈ a.commands, c.lun ≠ l := by
  have hmachine := reachable_beforeTeardown h
  have hleased := Leased.reachable hmachine
  have hat : draining (removal a.machine.task) a.machine.closing =
      some (l, .inside (.detaching deviceId)) := by
    unfold machine machineWith
    simp only [hteardown]
    rfl
  have hidle := ((Machine.Removing.reachable hmachine).drained l _ hat).2.2.2
  exact ⟨hidle, fun c hc => hleased.off_idle hidle (List.mem_map_of_mem hc)⟩

theorem drained_of_done {a : Adapter} (h : Reachable system noRestartDuringTeardown a)
    (hdone : a.teardown.closing.drainsDone = true) : a.Drained := by
  have hmachine := reachable_beforeTeardown h
  have hempty : ∀ l, (a.extension.luns l).state = .empty :=
    (DrainLoop.reachable hmachine).finished hdone
  refine ⟨hempty, ?_, fun commit hcommit => ?_, fun i hlive => ?_⟩
  · have htotal := (Accounting.reachable hmachine).total_owned
    change a.extension.totalAllocatedBytes.toNat =
      ∑ l, if (a.extension.luns l).state = .empty then 0 else _ at htotal
    simp only [hempty, if_true, Finset.sum_const_zero] at htotal
    exact UInt64.toNat_inj.mp htotal
  · exact Machine.freed_of_gone hmachine hcommit fun l hl => absurd (hempty l) hl
  · obtain ⟨l, _, hholds⟩ := (Machine.Agreement.reachable hmachine).named i hlive
    exact hholds.state (hempty l)

/-- The two waits of teardown are its only steps that are not always possible. -/
theorem teardown_goes_on {a : Adapter} (h : Reachable system noRestartDuringTeardown a)
    (hbegun : a.teardown ≠ .notStarted) : a.WaitsFor ∨ a.teardown = .done ∨
      ∃ c, system.step a (.teardown false) = some c ∧ c.teardown ≠ a.teardown := by
  have hgate := Gate.reachable h
  change a.WaitsFor ∨ a.teardown = .done ∨
    ∃ c, a.advanceTeardown false = some c ∧ c.teardown ≠ a.teardown
  unfold advanceTeardown
  cases hteardown : a.teardown with
  | notStarted => exact absurd hteardown hbegun
  | done => exact Or.inr (Or.inl rfl)
  | waitForIdle =>
    cases hidle : a.extension.managementIdleEvent with
    | true => exact Or.inr (Or.inr ⟨_, rfl, by simp⟩)
    | false =>
      refine Or.inl (Or.inl ⟨hteardown, fun hnone => ?_⟩)
      rw [hgate.idle, hgate.busy, hnone] at hidle
      cases hidle
  | waitForLunIo l deviceId =>
    cases hevent : (a.extension.luns l).noActiveRequestsEvent with
    | true => exact Or.inr (Or.inr ⟨_, by simp only [hevent]; rfl, by simp⟩)
    | false => exact Or.inl (Or.inr ⟨l, deviceId, hteardown, exists_command h hevent⟩)
  | firstStopping =>
    cases hfirst : LunStore.firstStoppingLun a.extension with
    | some l => exact Or.inr (Or.inr ⟨_, rfl, by simp⟩)
    | none => exact Or.inr (Or.inr ⟨_, rfl, by simp⟩)
  | releaseWorker => exact Or.inr (Or.inr ⟨_, by simp; rfl, by simp⟩)
  | _ => exact Or.inr (Or.inr ⟨_, rfl, by simp⟩)

/-- Teardown of the adapter, from any reachable state on. -/
theorem shutdown (a b : Adapter) (h : Reachable system noRestartDuringTeardown a)
    (hp : Steps system noRestartDuringTeardown a b) : ShutsDown a b := by
  have hb := h.path hp
  exact ⟨admitted_of_closed h hp,
    fun hidle => ⟨submissions_of_idle h hidle, submissions_of_idle hb ((path_forward h hp).2 hidle)⟩,
    (DrainLoop.reachable (reachable_beforeTeardown hb)).length_le,
    fun _ _ hteardown => detach_idle hb hteardown, drained_of_done hb, teardown_goes_on hb⟩

/-- Teardown of an adapter that has a disk, with another create on its way. -/
theorem shutdown_while_creating :
    let a := fresh.after (createDisk 1048576 82 ++ .startIo (createDiskSrb 1048576 83) 0 :: serve 5)
    ShutsDown a (a.after (tearDown 2 ++ serve 8 ++ tearDown 11)) :=
  shutdown _ _ (reachable_after_kept (by decide +kernel) (by decide +kernel))
    (path_after (by decide +kernel) (by decide +kernel))

end Adapter

end WispDisk
