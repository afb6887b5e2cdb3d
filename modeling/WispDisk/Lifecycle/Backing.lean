import WispDisk.Lifecycle.Removal

/-! Backing stores: a live lease pins the backing store of its LUN (`Leased`), and every allocation
is in exactly one place, as the part of a LUN, in the hands of the create or removal in flight, or
freed (`Ledger`). -/
namespace WispDisk
open SlotTable
set_option autoImplicit false

/-! ## Leases -/

/-- The LUN still holds the disk that the view was taken of. -/
structure Pins (view : LunView) (lun : Lun) : Prop where
  state : lun.state ≠ .empty
  backing : lun.backingStore = some view.backingStore
  deviceId : lun.deviceId = view.deviceId
  size : lun.sizeBytes = view.sizeBytes
  media : lun.mediaKind = view.mediaKind

structure Leased (luns : Fin kMaximumDiskCount → Lun) (leases : List Lease) : Prop where
  pinned : ∀ lease ∈ leases, Pins lease.view (luns lease.lun)
  exact : ∀ l, (luns l).activeRequests.toNat = leaseCount leases l

namespace Leased

variable {luns : Fin kMaximumDiskCount → Lun} {leases : List Lease}

theorem count_of_idle (h : Leased luns leases) {l : Fin kMaximumDiskCount}
    (hidle : (luns l).activeRequests = 0) : leaseCount leases l = 0 := by
  rw [← h.exact l, hidle]
  rfl

/-- No lease is on a LUN without active requests. -/
theorem off_idle (h : Leased luns leases) {l : Fin kMaximumDiskCount}
    (hidle : (luns l).activeRequests = 0) {lease : Lease} (hlease : lease ∈ leases) :
    lease.lun ≠ l := fun heq => by
  have hnone := List.countP_eq_zero.mp (h.count_of_idle hidle) lease hlease
  exact hnone (decide_eq_true heq)

theorem count_of_empty (h : Leased luns leases) {l : Fin kMaximumDiskCount}
    (hempty : (luns l).state = .empty) : leaseCount leases l = 0 := by
  refine List.countP_eq_zero.mpr fun lease hlease heq => ?_
  have hpin := (h.pinned lease hlease).state
  rw [of_decide_eq_true heq] at hpin
  exact hpin hempty

theorem idle_of_empty (h : Leased luns leases) {l : Fin kMaximumDiskCount}
    (hempty : (luns l).state = .empty) : (luns l).activeRequests = 0 := by
  have hexact := h.exact l
  rw [h.count_of_empty hempty] at hexact
  exact UInt32.toNat.inj hexact

theorem same (h : Leased luns leases) {luns' : Fin kMaximumDiskCount → Lun}
    (hdisk : ∀ l, SameDisk (luns l) (luns' l)) (hactive : ∀ l, SameActivity (luns l) (luns' l))
    (hbacking : ∀ l, (luns' l).backingStore = (luns l).backingStore) : Leased luns' leases where
  pinned := fun lease hlease => by
    have hpin := h.pinned lease hlease
    exact ⟨fun hempty => hpin.state ((hdisk _).empty.mp hempty), (hbacking _).trans hpin.backing,
      (hdisk _).deviceId.trans hpin.deviceId, (hdisk _).size.trans hpin.size,
      (hdisk _).media.trans hpin.media⟩
  exact := fun l => by
    rw [(hactive l).1]
    exact h.exact l

/-- A LUN without leases is rewritten. -/
theorem replace (h : Leased luns leases) {l : Fin kMaximumDiskCount} {lun : Lun}
    (hidle : (luns l).activeRequests = 0) (hidle' : lun.activeRequests = 0) :
    Leased (Function.update luns l lun) leases where
  pinned := fun lease hlease => by
    rw [Function.update_of_ne (h.off_idle hidle hlease)]
    exact h.pinned lease hlease
  exact := fun m => by
    rcases eq_or_ne m l with rfl | hne
    · rw [Function.update_self, hidle', h.count_of_idle hidle]
      rfl
    · rw [Function.update_of_ne hne]
      exact h.exact m

theorem acquire (h : Leased luns leases) {l : Fin kMaximumDiskCount} {backing : Allocation}
    (honline : (luns l).state = .online) (hbacking : (luns l).backingStore = some backing)
    (hlimit : leases.length < Adapter.maximumNumberOfIo) :
    Leased (Function.update luns l (luns l).acquired)
      (leases ++ [⟨l, (luns l).view backing⟩]) where
  pinned := fun lease hlease => by
    have hkeep : ∀ view m, Pins view (luns m) →
        Pins view (Function.update luns l (luns l).acquired m) := by
      intro view m hpin
      rcases eq_or_ne m l with rfl | hne
      · rw [Function.update_self]
        exact ⟨hpin.state, hpin.backing, hpin.deviceId, hpin.size, hpin.media⟩
      · rwa [Function.update_of_ne hne]
    rcases List.mem_append.mp hlease with hold | hnew
    · exact hkeep _ _ (h.pinned lease hold)
    · rw [List.mem_singleton] at hnew
      subst hnew
      exact hkeep _ _ ⟨by rw [honline]; decide, hbacking, rfl, rfl, rfl⟩
  exact := fun m => by
    rw [leaseCount_append]
    rcases eq_or_ne m l with rfl | hne
    · have hroom : (luns m).activeRequests.toNat < 2 ^ 32 - 1 := by
        rw [h.exact m]
        exact (leaseCount_le _ _).trans_lt hlimit
      rw [Function.update_self, Lun.acquired_toNat hroom, h.exact m, if_pos rfl]
    · rw [Function.update_of_ne hne, h.exact m, if_neg (Ne.symm hne), Nat.add_zero]

theorem release (h : Leased luns leases) {i : ℕ} {lease : Lease}
    (hlease : leases[i]? = some lease) :
    Leased (Function.update luns lease.lun (luns lease.lun).released) (leases.eraseIdx i) where
  pinned := fun lease' hlease' => by
    have hpin := h.pinned lease' (List.mem_of_mem_eraseIdx hlease')
    rcases eq_or_ne lease'.lun lease.lun with heq | hne
    · rw [heq, Function.update_self]
      rw [heq] at hpin
      unfold Lun.released
      split <;> exact ⟨hpin.state, hpin.backing, hpin.deviceId, hpin.size, hpin.media⟩
    · rwa [Function.update_of_ne hne]
  exact := fun m => by
    have hcount := leaseCount_eraseIdx hlease m
    have hexact := h.exact m
    rcases eq_or_ne m lease.lun with rfl | hne
    · rw [Function.update_self, Lun.released_toNat]
      rw [if_pos rfl] at hcount
      omega
    · rw [Function.update_of_ne hne]
      rw [if_neg (Ne.symm hne)] at hcount
      omega

end Leased

/-! ## Allocations -/

/-- How many LUNs own an allocation. -/
def owners (luns : Fin kMaximumDiskCount → Lun) (x : ℕ) : ℕ :=
  ∑ l, (luns l).backingStore.toList.count x

theorem owners_update (luns : Fin kMaximumDiskCount → Lun) (l : Fin kMaximumDiskCount) (lun : Lun)
    (x : ℕ) : owners (Function.update luns l lun) x +
      (luns l).backingStore.toList.count x = owners luns x + lun.backingStore.toList.count x :=
  sum_update luns (fun lun => lun.backingStore.toList.count x) l lun

theorem owners_congr {luns luns' : Fin kMaximumDiskCount → Lun}
    (h : ∀ l, (luns' l).backingStore = (luns l).backingStore) (x : ℕ) :
    owners luns' x = owners luns x := by
  simp only [owners, h]

def DrainStage.held : DrainStage → List Allocation
  | .freeing backing => backing.toList
  | _ => []

/-- The allocation that the mutation in flight holds. -/
def Stage.held : Stage → List Allocation
  | .commit _ _ allocation | .free _ allocation _ => [allocation]
  | .drain _ d => d.stage.held
  | _ => []

def heldByTask (task : Option Task) : List Allocation :=
  (task.map fun t => t.stage.held).getD []

/-- The allocation that the teardown thread holds. -/
def Closing.held : Closing → List Allocation
  | .drain d => d.stage.held
  | _ => []

def Machine.held (c : Machine) : List Allocation := heldByTask c.task ++ c.closing.held

/-- In how many places an allocation is. -/
def places (luns : Fin kMaximumDiskCount → Lun) (held frees : List Allocation) (x : ℕ) : ℕ :=
    owners luns x + held.count x + frees.count x

/-- Every allocation made is in exactly one place. -/
structure Ledger (luns : Fin kMaximumDiskCount → Lun) (held frees : List Allocation)
    (nextAllocation : ℕ) : Prop where
  places : ∀ x : ℕ, places luns held frees x = if x < nextAllocation then 1 else 0

namespace Ledger

variable {luns : Fin kMaximumDiskCount → Lun} {held frees : List Allocation}
  {nextAllocation : ℕ}

theorem init : Ledger initialLun [] [] 0 where
  places := fun x => by
    simp [WispDisk.places, owners, initialLun]

theorem same (h : Ledger luns held frees nextAllocation) {luns' : Fin kMaximumDiskCount → Lun}
    (hbacking : ∀ l, (luns' l).backingStore = (luns l).backingStore) :
    Ledger luns' held frees nextAllocation where
  places := fun x => by
    rw [WispDisk.places, owners_congr hbacking]
    exact h.places x

theorem allocate (h : Ledger luns [] frees nextAllocation) :
    Ledger luns [nextAllocation] frees (nextAllocation + 1) where
  places := fun x => by
    have hx := h.places x
    have hcount : List.count x [nextAllocation] = if nextAllocation = x then 1 else 0 := by
      rw [List.count_singleton]
      simp only [beq_iff_eq]
    simp only [WispDisk.places, List.count_nil] at hx ⊢
    rw [hcount]
    split at hx <;> split <;> split <;> omega

theorem commit {l : Fin kMaximumDiskCount} {lun : Lun} {allocation : Allocation}
    (h : Ledger luns [allocation] frees nextAllocation)
    (hbefore : (luns l).backingStore = none) (hafter : lun.backingStore = some allocation) :
    Ledger (Function.update luns l lun) [] frees nextAllocation where
  places := fun x => by
    have hx := h.places x
    have hupdate := owners_update luns l lun x
    rw [hbefore, hafter] at hupdate
    simp only [WispDisk.places, List.count_nil, Option.toList_none, Option.toList_some,
      Nat.add_zero] at hx hupdate ⊢
    omega

theorem detach {l : Fin kMaximumDiskCount} (h : Ledger luns [] frees nextAllocation) :
    Ledger (Function.update luns l { luns l with backingStore := none })
      (luns l).backingStore.toList frees nextAllocation where
  places := fun x => by
    have hx := h.places x
    have hupdate := owners_update luns l { luns l with backingStore := none } x
    simp only [WispDisk.places, List.count_nil, Option.toList_none, Nat.add_zero]
      at hx hupdate ⊢
    omega

theorem free (h : Ledger luns held frees nextAllocation) :
    Ledger luns [] (frees ++ held) nextAllocation where
  places := fun x => by
    have hx := h.places x
    simp only [WispDisk.places, List.count_append, List.count_nil] at hx ⊢
    omega

theorem remove {l : Fin kMaximumDiskCount} (h : Ledger luns held frees nextAllocation)
    (hdetached : (luns l).backingStore = none) :
    Ledger (Function.update luns l (LunStore.removedLun (luns l))) held frees nextAllocation :=
  h.same fun m => by
    rcases eq_or_ne m l with rfl | hne
    · rw [Function.update_self, hdetached]
      rfl
    · rw [Function.update_of_ne hne]

theorem drainStep {c c' : Machine} {l : Fin kMaximumDiskCount} {stage next : DrainStage}
    (h : Ledger c.luns stage.held c.frees c.nextAllocation)
    (hdrain : c.DrainStep ⟨l, stage⟩ c' next) :
    Ledger c'.luns next.held c'.frees c'.nextAllocation := by
  cases hdrain with
  | waited | refused => exact h
  | detached l hstate => exact h.detach
  | freed l backing => exact h.free

end Ledger

/-! ## Preservation -/

def Machine.Ledger (c : Machine) : Prop :=
  WispDisk.Ledger c.luns c.held c.frees c.nextAllocation

theorem heldByTask_start (command : MutationCommand) (work : Work) :
    heldByTask (some ⟨command, .start work⟩) = [] := by
  simp only [heldByTask, Option.map_some, Option.getD_some]
  unfold Stage.start
  split <;> rfl

theorem Closing.held_of_not_idle {closing : Closing} (h : closing.idleReached = false) :
    closing.held = [] := by
  cases closing <;> first | rfl | cases h

theorem Leased.step {c c' : Machine} (h : Leased c.luns c.leases) (hr : c.Removing)
    (hquiet : Quiet c.stopping c.task c.closing)
    (hs : c.Step Machine.beforeTeardown c') : Leased c'.luns c'.leases := by
  -- `DetachBackingStore` and `FinalizeRemovalLocked` only ever meet a LUN without leases
  have hdrain : ∀ {l stage next c₁}, draining (removal c.task) c.closing = some (l, .inside stage) →
      c.DrainStep ⟨l, stage⟩ c₁ next → Leased c₁.luns c₁.leases := by
    intro l stage next c₁ hat hd
    have hl := hr.drained l _ hat
    cases hd with
    | waited | refused | freed => exact h
    | detached l hstate => exact h.replace hl.2.2.2 hl.2.2.2
  have hremove : ∀ {l p}, draining (removal c.task) c.closing = some (l, p) →
      (c.luns l).activeRequests = 0 →
      Leased (Function.update c.luns l (LunStore.removedLun (c.luns l))) c.leases :=
    fun _ hidle => h.replace hidle hidle
  cases hs with
  | committed command work l allocation htask hopen hempty hnext =>
    exact h.replace (h.idle_of_empty hempty) rfl
  | marked command work l htask honline htarget =>
    refine h.same (relate_update SameDisk.refl ⟨rfl, rfl, rfl, rfl, rfl, ?_⟩)
      (relate_update SameActivity.refl ⟨rfl, rfl⟩) fun m => ?_
    · exact ⟨nofun, fun hempty => LunState.noConfusion (honline.symm.trans hempty)⟩
    · rcases eq_or_ne m l with rfl | hne
      · simp only [Function.update_self]
      · simp only [Function.update_of_ne hne]
  | workerDrained command work l stage next c' htask hd =>
    have hat : draining (removal c.task) c.closing = some (l, .inside stage) := by
      rw [htask, draining_of_not_idle (hquiet.not_idle (by rw [htask]; exact Option.some_ne_none _))]
      rfl
    have hleased := hdrain hat hd
    exact hleased
  | workerFinalized command work l htask =>
    have hat : draining (removal c.task) c.closing = some (l, .inside .drained) := by
      rw [htask, draining_of_not_idle (hquiet.not_idle (by rw [htask]; exact Option.some_ne_none _))]
      rfl
    exact hremove hat (hr.drained l _ hat).2.2
  | published command snapshot correlation status created i htask hid hzero =>
    refine h.same (Machine.publishedLuns_same c.luns _) (Machine.publishedLuns_activity c.luns _)
      fun l => (Machine.publishedLuns_place c.luns _ l).backing
  | acquired l backing honline hbacking hlimit => exact h.acquire honline hbacking hlimit
  | released i lease hlease => exact h.release hlease
  | markedAll hclosing =>
    refine h.same (fun l => ?_) (fun l => ?_) fun l => ?_
    · simp only
      split
      · rename_i honline
        exact ⟨rfl, rfl, rfl, rfl, rfl, nofun, fun hempty => LunState.noConfusion (honline.symm.trans hempty)⟩
      · exact SameDisk.refl _
    · simp only
      split <;> exact ⟨rfl, rfl⟩
    · simp only
      split <;> rfl
  | teardownDrained l stage next c' hclosing hd =>
    have hat : draining (removal c.task) c.closing = some (l, .inside stage) := by
      rw [hclosing]
      rfl
    have hleased := hdrain hat hd
    exact hleased
  | teardownFinalized l deviceId hclosing =>
    have hat : draining (removal c.task) c.closing = some (l, .finalizing deviceId) := by
      rw [hclosing]
      rfl
    exact hremove hat (hr.drained l _ hat).2.2.1
  | _ => exact h

theorem Machine.Ledger.step {c c' : Machine} (h : c.Ledger) (hr : c.Removing)
    (hquiet : Quiet c.stopping c.task c.closing)
    (hs : c.Step Machine.beforeTeardown c') : c'.Ledger := by
  -- only one thread at a time holds an allocation
  have hworker : c.task ≠ none → c.closing.held = [] := fun htask =>
    Closing.held_of_not_idle (hquiet.not_idle htask)
  have hteardown : c.closing.idleReached = true → heldByTask c.task = [] := fun hidle => by
    rw [hquiet.idle hidle]
    rfl
  unfold Machine.Ledger Machine.held at h ⊢
  cases hs with
  | reserved | stopped | restarted => exact h
  | admittedLegacy command hopen hidle | admittedReserved command i hopen hidle =>
    rw [hidle] at h
    exact h
  | queueFailed command htask | rejected command htask | missing command htask
  | notSelected command work status htask | selected command work l htask
  | notAllocated command work l htask | notCommitted command work l allocation status htask
  | notMarked command work htask | answered command work status created htask
  | ended command htask =>
    rw [htask] at h
    exact h
  | startedLegacy command htask | startedReserved command i correlation htask =>
    rw [htask] at h
    simp only [setTask, heldByTask_start]
    exact h
  | allocated command work l htask =>
    have hheld := hworker (by rw [htask]; exact Option.some_ne_none _)
    simp only [htask, hheld] at h ⊢
    exact h.allocate
  | committed command work l allocation htask hopen hempty hnext =>
    have hheld := hworker (by rw [htask]; exact Option.some_ne_none _)
    simp only [htask, hheld] at h ⊢
    exact h.commit (hr.empty l hempty) rfl
  | freed command work allocation status htask =>
    have hheld := hworker (by rw [htask]; exact Option.some_ne_none _)
    simp only [htask, hheld] at h ⊢
    exact h.free
  | marked command work l htask honline htarget =>
    have hheld := hworker (by rw [htask]; exact Option.some_ne_none _)
    simp only [htask, hheld] at h ⊢
    refine h.same fun m => ?_
    rcases eq_or_ne m l with rfl | hne
    · simp only [Function.update_self]
    · simp only [Function.update_of_ne hne]
  | workerDrained command work l stage next c' htask hdrain =>
    have hheld := hworker (by rw [htask]; exact Option.some_ne_none _)
    obtain ⟨_, hclosing, _, _⟩ := hdrain.frame
    simp only [htask, hheld] at h
    simp only [setTask, hclosing, hheld]
    have hstart : WispDisk.Ledger c.luns stage.held c.frees c.nextAllocation :=
      (List.append_nil stage.held) ▸ h
    exact (List.append_nil next.held).symm ▸ hstart.drainStep hdrain
  | workerFinalized command work l htask =>
    have hheld := hworker (by rw [htask]; exact Option.some_ne_none _)
    have hat : draining (removal c.task) c.closing = some (l, .inside .drained) := by
      rw [htask, draining_of_not_idle (hquiet.not_idle (by rw [htask]; exact Option.some_ne_none _))]
      rfl
    simp only [htask, hheld] at h
    simp only [finalizeRemoval, hheld]
    exact h.remove (hr.drained l _ hat).2.1
  | published command snapshot correlation status created i htask hid hzero =>
    rw [htask] at h
    exact h.same fun l => (publishedLuns_place c.luns _ l).backing
  | acquired l backing honline hbacking hlimit =>
    refine h.same fun m => ?_
    rcases eq_or_ne m l with rfl | hne
    · simp only [Function.update_self]
      rfl
    · simp only [Function.update_of_ne hne]
  | released i lease hlease =>
    refine h.same fun m => ?_
    rcases eq_or_ne m lease.lun with rfl | hne
    · simp only [Function.update_self]
      exact (Lun.released_place _).backing
    · simp only [Function.update_of_ne hne]
  | entered hclosing | admissionClosed hclosing | idle hclosing | idleLeft hclosing
  | selectedStopping l hclosing | noneStopping hclosing | targetRead l hclosing
  | removedRead l hclosing | workerReleased hclosing | invalidated hclosing =>
    rw [hclosing] at h
    exact h
  | markedAll hclosing =>
    rw [hclosing] at h
    refine h.same fun l => ?_
    simp only
    split <;> rfl
  | teardownDrained l stage next c' hclosing hdrain =>
    have hheld := hteardown (by rw [hclosing]; rfl)
    simp only [hclosing, hheld] at h
    simp only [hdrain.log.2, hheld]
    exact h.drainStep hdrain
  | teardownFinalized l deviceId hclosing =>
    have hheld := hteardown (by rw [hclosing]; rfl)
    have hat : draining (removal c.task) c.closing = some (l, .finalizing deviceId) := by
      rw [hclosing]
      rfl
    simp only [hclosing, hheld] at h
    simp only [finalizeRemoval, hheld]
    exact h.remove (hr.drained l _ hat).2.1

theorem Leased.reachable {c : Machine} (h : c.Reachable Machine.beforeTeardown) :
    Leased c.luns c.leases := by
  obtain ⟨adapterInstance, hrun⟩ := h
  induction hrun with
  | refl => exact ⟨nofun, fun _ => rfl⟩
  | tail hrun hs ih =>
    exact ih.step (Machine.Removing.reachable ⟨_, hrun⟩) (Quiet.reachable ⟨_, hrun⟩) hs

theorem Machine.Ledger.reachable {c : Machine} (h : c.Reachable Machine.beforeTeardown) :
    c.Ledger := by
  obtain ⟨adapterInstance, hrun⟩ := h
  induction hrun with
  | refl => exact Ledger.init
  | tail hrun hs ih =>
    exact ih.step (Machine.Removing.reachable ⟨_, hrun⟩) (Quiet.reachable ⟨_, hrun⟩) hs

/-- Every committed disk got an allocation that was made. -/
theorem Machine.commit_allocated {c : Machine} (h : c.Reachable Machine.beforeTeardown) :
    ∀ commit ∈ c.commits, commit.allocation < c.nextAllocation := by
  obtain ⟨adapterInstance, hrun⟩ := h
  induction hrun with
  | refl => exact nofun
  | @tail c c' hrun hs ih =>
    cases hs with
    | allocated => exact fun commit hcommit => Nat.lt_succ_of_lt (ih commit hcommit)
    | committed command work l allocation htask hopen hempty hnext =>
      intro commit hcommit
      rcases List.mem_append.mp hcommit with hold | hnew
      · exact ih commit hold
      · rw [List.mem_singleton] at hnew
        subst hnew
        have hplaces := (Machine.Ledger.reachable ⟨_, hrun⟩).places allocation
        have hheld : allocation ∈ c.held := by simp [Machine.held, heldByTask, htask, Stage.held]
        have hcount := List.count_pos_iff.mpr hheld
        by_contra hge
        rw [if_neg hge, places] at hplaces
        omega
    | workerDrained command work l stage next c₁ htask hdrain =>
      cases hdrain <;> exact ih
    | teardownDrained l stage next c₁ hclosing hdrain =>
      cases hdrain <;> exact ih
    | _ => exact ih

end WispDisk
