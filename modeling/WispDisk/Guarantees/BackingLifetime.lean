import WispDisk.Guarantees.Schedules
import WispDisk.Lifecycle.Backing
import WispDisk.Lifecycle.Simulation

/-! The lifetime of backing stores. A lease pins the backing store of its LUN, and no allocation is
lost or freed twice. This rests on StorPort's contract: a restart callback during teardown readmits
disks that the loop of `DrainAndReleaseDisks` then releases under their leases. -/
namespace WispDisk
open Transition
set_option autoImplicit false

/-- The allocation that the worker holds outside both tables. -/
def Phase.held : Phase → List Allocation
  | .zeroMemory _ _ allocation | .commit _ _ allocation | .freeAllocation _ allocation _ =>
    [allocation]
  | .freePool _ _ backing => backing.toList
  | _ => []

def Teardown.held : Teardown → List Allocation
  | .freePool _ backing => backing.toList
  | _ => []

namespace Adapter

/-- The allocations in the hands of the create or removal in flight. -/
def held (a : Adapter) : List Allocation :=
  (a.submissions.flatMap fun s => s.phase.held) ++ a.teardown.held

/-- How many non-Empty LUNs own an allocation. -/
def ownerCount (a : Adapter) (x : ℕ) : ℕ :=
  ∑ l, if (a.extension.luns l).state ≠ .empty ∧ (a.extension.luns l).backingStore = some x then 1
    else 0

def liveLeases (a : Adapter) (l : Fin kMaximumDiskCount) : ℕ :=
  a.commands.countP fun c => c.lun = l

structure BackingLifetime (a : Adapter) : Prop where
  counted : ∀ l, (a.extension.luns l).activeRequests.toNat = a.liveLeases l
  event : ∀ l, (a.extension.luns l).noActiveRequestsEvent = true ↔
    (a.extension.luns l).activeRequests = 0
  state : ∀ c ∈ a.commands, (a.extension.luns c.lun).state = .online ∨
    (a.extension.luns c.lun).state = .stopping
  backing : ∀ c ∈ a.commands,
    (a.extension.luns c.lun).backingStore = some c.view.backingStore
  device : ∀ c ∈ a.commands, (a.extension.luns c.lun).deviceId = c.view.deviceId ∧
    (a.extension.luns c.lun).sizeBytes = c.view.sizeBytes
  /-- A backing store that has been freed has no live lease. -/
  unfreed : ∀ c ∈ a.commands, c.view.backingStore ∉ a.pool.frees
  /-- An allocation is owned by one LUN, or held, or freed, and that once. -/
  placed : ∀ x : ℕ, x < a.pool.next →
    a.ownerCount x + a.held.count x + a.pool.frees.count x = 1

/-! ## Under StorPort's contract -/

theorem ownerCount_owners {a : Adapter}
    (hempty : ∀ l, (a.extension.luns l).state = .empty → (a.extension.luns l).backingStore = none)
    (x : ℕ) : a.ownerCount x = owners a.extension.luns x := by
  refine Finset.sum_congr rfl fun l _ => ?_
  cases hbacking : (a.extension.luns l).backingStore with
  | none => simp
  | some y =>
    have howned : (a.extension.luns l).state ≠ .empty := fun hstate => by
      rw [hempty l hstate] at hbacking
      cases hbacking
    simp [howned, List.count_singleton]

theorem held_machine {a : Adapter} (h : a.Gate) : a.held = a.machine.held := by
  have htask : (a.submissions.flatMap fun s => s.phase.held) =
      heldByTask (a.submissions.head?.map Submission.task) := by
    rcases hsubmissions : a.submissions with _ | ⟨s, rest⟩
    · rfl
    · have hrest : rest = [] := by
        have hsingle := h.single
        rw [hsubmissions, List.length_cons] at hsingle
        exact List.eq_nil_of_length_eq_zero (by omega)
      subst hrest
      simp only [List.flatMap_cons, List.flatMap_nil, List.append_nil, List.head?_cons,
        Option.map_some]
      cases hphase : s.phase <;> simp [heldByTask, Submission.task, hphase, Phase.held,
        Phase.stage, Stage.held, DrainStage.held]
  have hclosing : a.teardown.held = a.teardown.closing.held := by
    cases a.teardown <;> rfl
  rw [held, htask, hclosing]
  rfl

theorem liveLeases_machine (a : Adapter) (l : Fin kMaximumDiskCount) :
    a.liveLeases l = leaseCount a.machine.leases l := by
  unfold liveLeases leaseCount machine machineWith
  simp only [List.countP_map]
  rfl

/-- Backing stores on every run in which StorPort makes no restart callback during teardown. -/
theorem backing_lifetime (a : Adapter) (h : Reachable system noRestartDuringTeardown a) :
    a.BackingLifetime := by
  have hmachine := reachable_beforeTeardown h
  have hleased := Leased.reachable hmachine
  have hcounters := Counters.reachable hmachine
  have hempty := (Machine.Removing.reachable hmachine).empty
  have hledger := (Machine.Ledger.reachable hmachine).places
  have hgate : a.Gate := Gate.reachable (h.mono fun _ _ _ => trivial)
  have hpinned : ∀ c ∈ a.commands, Pins c.view (a.extension.luns c.lun) := fun c hc =>
    hleased.pinned c.lease (List.mem_map_of_mem hc)
  have hplaced : ∀ x : ℕ, x < a.pool.next →
      a.ownerCount x + a.held.count x + a.pool.frees.count x = 1 := fun x hx => by
    have hx' : x < a.machine.nextAllocation := hx
    have hplaces := hledger x
    rw [if_pos hx'] at hplaces
    rw [ownerCount_owners hempty, held_machine hgate]
    exact hplaces
  refine ⟨fun l => ?_, fun l => ?_, fun c hc => ?_, fun c hc => (hpinned c hc).backing,
    fun c hc => ⟨(hpinned c hc).deviceId, (hpinned c hc).size⟩, fun c hc hfreed => ?_, hplaced⟩
  · rw [liveLeases_machine]
    exact hleased.exact l
  · have hevent := hcounters.event l
    change (a.extension.luns l).noActiveRequestsEvent =
      decide ((a.extension.luns l).activeRequests = 0) at hevent
    rw [hevent, decide_eq_true_iff]
  · have hstate := (hpinned c hc).state
    cases hlun : (a.extension.luns c.lun).state with
    | empty => exact absurd hlun hstate
    | online => exact Or.inl rfl
    | stopping => exact Or.inr rfl
  · -- the LUN owns the backing store, so it is in no other place
    have hplaces := hledger c.view.backingStore
    have hcount := List.count_pos_iff.mpr hfreed
    have howner : 0 < owners a.extension.luns c.view.backingStore := by
      refine Finset.sum_pos' (fun _ _ => Nat.zero_le _) ⟨c.lun, Finset.mem_univ _, ?_⟩
      rw [(hpinned c hc).backing]
      simp
    change owners a.extension.luns c.view.backingStore + _ +
      a.pool.frees.count c.view.backingStore = _ at hplaces
    split at hplaces <;> omega

/-- A disk that a delete waits for, with a live lease on it. -/
theorem backing_lifetime_leased :
    (fresh.after (createDisk 1048576 82 ++ [.startIo (testUnitReadySrb 0) 0,
      .startIo (deleteDiskSrb 1) 0] ++ serve 4)).BackingLifetime :=
  backing_lifetime _ (reachable_after_kept (by decide +kernel) (by decide +kernel))

/-! ## A restart during teardown -/

/-- Teardown has passed `WaitForIdle` when a restart callback clears `AdapterStopping`. A delete is
admitted, and both threads drain its LUN; a create then reuses the LUN that teardown still has to
finalize. -/
def restartDuringTeardown : List Action :=
  createDisk 1048576 82 ++ tearDown 3 ++ [.setStopping false, .startIo (deleteDiskSrb 1) 0] ++
    serve 4 ++ tearDown 7 ++ serve 10 ++ createDisk 1048576 83 ++
    .startIo (testUnitReadySrb 0) 0 :: tearDown 2

/-- Teardown has emptied a LUN under a live lease. -/
theorem restart_loses_backing :
    ¬∀ a, Reachable system anyAction a → a.BackingLifetime := fun h => by
  have hlifetime := h (fresh.after restartDuringTeardown) (reachable_after (by decide +kernel))
  have hany : ((fresh.after restartDuringTeardown).commands.any fun c =>
      ((fresh.after restartDuringTeardown).extension.luns c.lun).state == .empty) = true := by
    decide +kernel
  obtain ⟨c, hc, hempty⟩ := List.any_eq_true.mp hany
  have hempty := beq_iff_eq.mp hempty
  rcases hlifetime.state c hc with hstate | hstate <;> exact absurd (hempty.symm.trans hstate) nofun

end Adapter

end WispDisk
