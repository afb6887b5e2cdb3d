import WispDisk.Driver.Blocks
import WispDisk.Foundations.SectorStore
import WispDisk.Lifecycle.Simulation
import WispDisk.Lifecycle.Backing

/-! The bytes of the backing stores. Only the data phase of a SCSI command and the zeroing of a new
allocation write to pool memory; a LUN keeps its backing store from its commit to its removal, and
no other LUN has it, so every sector holds what the last command for it left. -/
namespace WispDisk
open Layout SectorStore SlotTable Transition
set_option autoImplicit false

abbrev Sector := Fin 512 → UInt8

instance : Zero Sector := ⟨fun _ => 0⟩

def sectorAt (m : Bytes) (block : ℕ) : Sector := fun j => m (block * 512 + j.val)

abbrev DiskEvent := Event ULONG Sector

/-! ## The SCSI data phase by sectors -/

namespace Scsi

theorem sectorAt_written (backing buffer : Bytes) (lba blocks block : ℕ) :
    sectorAt (copyMemory backing (lba * 512) buffer 0 (blocks * 512)) block =
      if lba ≤ block ∧ block < lba + blocks then sectorAt buffer (block - lba)
      else sectorAt backing block := by
  funext j
  have hj := j.isLt
  unfold sectorAt copyMemory
  split
  · rename_i hbytes
    rw [if_pos (by omega)]
    exact congrArg buffer (by omega)
  · rename_i hbytes
    rw [if_neg (by omega)]

theorem sectorAt_read (backing buffer : Bytes) (lba : ℕ) {blocks k : ℕ} (hk : k < blocks) :
    sectorAt (copyMemory buffer 0 backing (lba * 512) (blocks * 512)) k =
      sectorAt backing (lba + k) := by
  funext j
  have hj := j.isLt
  have hinside : 0 ≤ k * 512 + j.val ∧ k * 512 + j.val < 0 + blocks * 512 := by omega
  unfold sectorAt copyMemory
  rw [if_pos hinside]
  exact congrArg backing (by omega)

theorem cdbForm_some {operation : UCHAR} {form : CdbForm} (h : cdbForm operation = some form) :
    operation ∈ readWriteOperations := by
  unfold cdbForm at h
  split at h
  · rename_i hop
    rcases hop with rfl | rfl <;> decide
  split at h
  · rename_i hop
    rcases hop with rfl | rfl <;> decide
  split at h
  · rename_i hop
    rcases hop with rfl | rfl <;> decide
  split at h
  · rename_i hop
    rcases hop with rfl | rfl <;> decide
  · cases h

theorem decode_some {srb : ScsiRequestBlock} {e : Extent} (h : decode srb = some e) :
    srb.cdb 0 ∈ readWriteOperations := by
  unfold decode at h
  cases hform : cdbForm (srb.cdb 0) with
  | none =>
    rw [hform] at h
    cases h
  | some form => exact cdbForm_some hform

theorem dispatch_readWrite {view : LunView} {backing : Bytes} {srb : ScsiRequestBlock}
    (h : srb.cdb 0 ∈ readWriteOperations) :
    dispatchScsiCommand view backing srb = handleReadWrite view backing srb := by
  have hdistinct : ∀ operation ∈ readWriteOperations, operation ∉ noDataOperations ∧
      operation ≠ scsiopInquiry ∧ operation ≠ scsiopRequestSense ∧
        operation ≠ scsiopReadCapacity ∧ operation ≠ scsiopReadCapacity16 ∧
          operation ≠ scsiopModeSense ∧ operation ≠ scsiopModeSense10 := by
    decide +kernel
  obtain ⟨hnoData, hinquiry, hsense, hcapacity, hcapacity16, hmode, hmode10⟩ := hdistinct _ h
  unfold dispatchScsiCommand
  rw [if_neg hnoData, if_neg hinquiry, if_neg hsense, if_neg hcapacity, if_neg hcapacity16,
    if_neg hmode, if_neg hmode10, if_pos h]

/-- Commands other than READ and WRITE do not reach the backing store. -/
theorem dispatch_other {view : LunView} {backing : Bytes} {srb : ScsiRequestBlock}
    (h : srb.cdb 0 ∉ readWriteOperations) :
    (dispatchScsiCommand view backing srb).2.2 = backing := by
  unfold dispatchScsiCommand
  simp only
  repeat' split
  all_goals rfl

end Scsi

/-! ## Owners of an allocation -/

namespace Ledger

variable {luns : Fin kMaximumDiskCount → Lun} {held frees : List Allocation} {nextAllocation : ℕ}

theorem owner_unique (h : Ledger luns held frees nextAllocation) {l m : Fin kMaximumDiskCount}
    {x : Allocation} (hl : (luns l).backingStore = some x) (hm : (luns m).backingStore = some x) :
    l = m := by
  by_contra hne
  have hplaces := h.places x
  have hpair : ∑ k ∈ {l, m}, (luns k).backingStore.toList.count x ≤ owners luns x :=
    Finset.sum_le_sum_of_subset (Finset.subset_univ _)
  rw [Finset.sum_pair hne, hl, hm, Option.toList_some, List.count_singleton_self] at hpair
  rw [WispDisk.places] at hplaces
  split at hplaces <;> omega

theorem held_unowned (h : Ledger luns held frees nextAllocation) {l : Fin kMaximumDiskCount}
    {x : Allocation} (hx : x ∈ held) : (luns l).backingStore ≠ some x := fun hl => by
  have hplaces := h.places x
  have howner : (luns l).backingStore.toList.count x ≤ owners luns x :=
    size_le_sum luns (fun lun => lun.backingStore.toList.count x) l
  rw [hl, Option.toList_some, List.count_singleton_self] at howner
  have hcount := List.count_pos_iff.mpr hx
  rw [WispDisk.places] at hplaces
  split at hplaces <;> omega

end Ledger

/-! ## How LUNs change -/

/-- A LUN that is not empty afterwards was there before, with its backing store. -/
structure KeepsDisk (l l' : Lun) (h : l'.state ≠ .empty) : Prop where
  state : l.state ≠ .empty
  deviceId : l'.deviceId = l.deviceId
  size : l'.sizeBytes = l.sizeBytes
  backing : ∀ x, l'.backingStore = some x → l.backingStore = some x

theorem KeepsDisk.refl (l : Lun) (h : l.state ≠ .empty) : KeepsDisk l l h := ⟨h, rfl, rfl, fun _ hx => hx⟩

/-- A LUN table that has lost disks or gained one. -/
inductive Machine.DisksStep (c c' : Machine) : Prop
  | kept (hcommits : c'.commits = c.commits)
      (hluns : ∀ l, (h : (c'.luns l).state ≠ .empty) → KeepsDisk (c.luns l) (c'.luns l) h)
  | committed (command : MutationCommand) (work : Work) (l : Fin kMaximumDiskCount)
      (allocation : Allocation) (htask : c.task = some ⟨command, .commit work l allocation⟩)
      (hnext : c.nextDeviceId ≠ 0)
      (hcommits : c'.commits =
        c.commits ++ [⟨work.operation, work.request, c.nextDeviceId, l, allocation⟩])
      (hluns : c'.luns = Function.update c.luns l
        (LunStore.newLun work.request l allocation c.nextDeviceId))

namespace Machine

variable {restartable : Machine → Prop} {c c' : Machine}

theorem DisksStep.same (hcommits : c'.commits = c.commits) (hluns : c'.luns = c.luns) :
    c.DisksStep c' :=
  DisksStep.kept hcommits fun l h => by
    rw [hluns] at h
    simp only [hluns]
    exact KeepsDisk.refl _ h

theorem DisksStep.update {l : Fin kMaximumDiskCount} {lun : Lun}
    (hcommits : c'.commits = c.commits) (hluns : c'.luns = Function.update c.luns l lun)
    (hlun : (h : lun.state ≠ .empty) → KeepsDisk (c.luns l) lun h) : c.DisksStep c' :=
  DisksStep.kept hcommits fun m h => by
    rw [hluns] at h
    simp only [hluns]
    rcases eq_or_ne m l with rfl | hne
    · rw [Function.update_self] at h
      simp only [Function.update_self]
      exact hlun h
    · rw [Function.update_of_ne hne] at h
      simp only [Function.update_of_ne hne]
      exact KeepsDisk.refl _ h

theorem DrainStep.disks {d : Drain} {next : DrainStage} {task : Option Task} {closing : Closing}
    (h : c.DrainStep d c' next) :
    c.DisksStep { c' with task := task, closing := closing } := by
  cases h with
  | waited | refused | freed => exact DisksStep.same rfl rfl
  | detached l hstate =>
    exact DisksStep.update rfl rfl fun hne => ⟨by rw [hstate]; exact nofun, rfl, rfl, nofun⟩

theorem DisksStep.removed {l : Fin kMaximumDiskCount} (hcommits : c'.commits = c.commits)
    (hluns : c'.luns = Function.update c.luns l (LunStore.removedLun (c.luns l))) :
    c.DisksStep c' :=
  DisksStep.update hcommits hluns fun hne => absurd rfl hne

theorem Step.disks (hs : c.Step restartable c') : c.DisksStep c' := by
  cases hs with
  | committed command work l allocation htask _ _ hnext =>
    exact DisksStep.committed command work l allocation htask hnext rfl rfl
  | marked command work l _ honline _ =>
    exact DisksStep.update rfl rfl fun _ =>
      ⟨by rw [honline]; exact nofun, rfl, rfl, fun _ hx => hx⟩
  | workerDrained command work l stage next c₁ _ hdrain =>
    exact hdrain.disks
  | workerFinalized command work l _ => exact DisksStep.removed rfl rfl
  | teardownFinalized l deviceId _ => exact DisksStep.removed rfl rfl
  | published command snapshot correlation status created i =>
    refine DisksStep.kept rfl fun l h => ?_
    have hplace := publishedLuns_place c.luns (resolvedRecord snapshot status created) l
    have hdisk := publishedLuns_same c.luns (resolvedRecord snapshot status created) l
    exact ⟨fun he => h (hdisk.empty.mpr he), hdisk.deviceId, hdisk.size, fun x hx => hplace.backing ▸ hx⟩
  | acquired l backing honline _ _ =>
    exact DisksStep.update rfl rfl fun hne => ⟨hne, rfl, rfl, fun _ hx => hx⟩
  | released i lease _ =>
    refine DisksStep.update rfl rfl fun hne => ?_
    have hplace := Lun.released_place (c.luns lease.lun)
    have hdisk := Lun.released_same (c.luns lease.lun)
    exact ⟨fun he => hne (hdisk.empty.mpr he), hdisk.deviceId, hdisk.size, fun x hx => hplace.backing ▸ hx⟩
  | markedAll _ =>
    refine DisksStep.kept rfl fun l h => ?_
    simp only at h ⊢
    split at h
    · rename_i honline
      simp only [honline, if_true]
      exact ⟨by rw [honline]; exact nofun, rfl, rfl, fun _ hx => hx⟩
    · rename_i honline
      simp only [honline, if_false]
      exact KeepsDisk.refl _ h
  | teardownDrained l stage next c₁ _ hdrain =>
    exact hdrain.disks
  | _ => exact DisksStep.same rfl rfl

end Machine

/-! ## Steps and pool memory -/

namespace Adapter

/-- `CreateDisk` with a zeroed allocation. -/
def zeroedFor (work : Work) (m : Bytes) : Prop := ∀ i, i < work.request.sizeBytes.toNat → m i = 0

theorem beginWork_kept (a : Adapter) (s : Submission) :
    (a.beginWork s).1.pool = a.pool ∧ (a.beginWork s).1.history = a.history := by
  unfold beginWork
  simp only
  repeat' split
  all_goals exact ⟨rfl, rfl⟩

theorem beginWork_phase (a : Adapter) (s : Submission) (work : Work) (l : Fin kMaximumDiskCount)
    (x : Allocation) : (a.beginWork s).2.phase ≠ .commit work l x := by
  have hstart : ∀ w : Work, w.start ≠ .commit work l x := fun w => by
    unfold Work.start
    split <;> exact Phase.noConfusion
  unfold beginWork
  simp only
  split
  · simp only
    split <;> exact Phase.noConfusion
  split
  · simp only
    split
    · exact hstart _
    · exact Phase.noConfusion
  split
  · simp only
    split
    · exact hstart _
    · exact Phase.noConfusion
  · exact Phase.noConfusion

/-- What a step of a submission does to pool memory and to the list of committed disks. -/
inductive AdvanceMemory (a : Adapter) (s : Submission) (a' : Adapter) (next : Option Submission) :
    Prop
  | zeroed (work : Work) (l : Fin kMaximumDiskCount) (x : Allocation) (m : Bytes)
      (hphase : s.phase = .zeroMemory work l x)
      (hnext : next = some { s with phase := .commit work l x }) (hzeroed : zeroedFor work m)
      (hcontents : a'.pool.contents = Function.update a.pool.contents x m)
      (hextension : a'.extension = a.extension)
      (hcommits : a'.history.commits = a.history.commits)
  | committed (work : Work) (l : Fin kMaximumDiskCount) (x : Allocation) (deviceId : ULONG)
      (hphase : s.phase = .commit work l x)
      (hcommit : LunStore.commitNewLun a.extension work.request l x = .ok (a'.extension, deviceId))
      (hcommits : a'.history.commits =
        a.history.commits ++ [⟨work.operation, work.request, deviceId, l, x⟩])
      (hcontents : a'.pool.contents = a.pool.contents)
      (hnext : ∀ s' work l x, next = some s' → s'.phase ≠ .commit work l x)
  | kept (hcontents : a'.pool.contents = a.pool.contents)
      (hcommits : a'.history.commits = a.history.commits)
      (hnext : ∀ s' work l x, next = some s' → s'.phase ≠ .commit work l x)

theorem advance_memory {a a' : Adapter} {s : Submission} {next : Option Submission}
    {granted : Bool} {now : LONGLONG} (h : advance a s granted now = some (a', next)) :
    AdvanceMemory a s a' next := by
  unfold advance at h
  cases hphase : s.phase with
  | zeroMemory work l x =>
    simp only [hphase] at h
    cases h
    exact AdvanceMemory.zeroed work l x _ hphase rfl (fun i hi => if_pos hi) rfl rfl rfl
  | commit work l x =>
    simp only [hphase] at h
    split at h
    · cases h
      exact AdvanceMemory.kept rfl rfl fun s' work l x hs' => by cases hs'; exact Phase.noConfusion
    · rename_i ext deviceId hcommit
      cases h
      exact AdvanceMemory.committed work l x deviceId hphase hcommit rfl rfl
        fun s' work l x hs' => by cases hs'; exact Phase.noConfusion
  | prepared =>
    simp only [hphase] at h
    cases h
    refine AdvanceMemory.kept rfl rfl fun s' work l x hs' => ?_
    cases hs'
    simp only
    split <;> exact Phase.noConfusion
  | queueFailed | endManagement =>
    simp only [hphase] at h
    cases h
    exact AdvanceMemory.kept rfl rfl fun s' work l x hs' => by cases hs'
  | takeFault =>
    simp only [hphase] at h
    cases h
    have hkept := beginWork_kept a s
    refine AdvanceMemory.kept (congrArg Pool.contents hkept.1) (congrArg History.commits hkept.2)
      fun s' work l x hs' => ?_
    cases hs'
    exact beginWork_phase a s work l x
  | publish work status created =>
    simp only [hphase] at h
    cases h
    refine AdvanceMemory.kept ?_ ?_ fun s' work' l x hs' => ?_
    · cases work <;> rfl
    · cases work <;> rfl
    · cases hs'
      cases work <;> exact Phase.noConfusion
  | snapshotPending =>
    simp only [hphase] at h
    split at h
    · cases h
      exact AdvanceMemory.kept rfl rfl fun s' work l x hs' => by cases hs'; exact Phase.noConfusion
    · cases h
      refine AdvanceMemory.kept rfl rfl fun s' work l x hs' => ?_
      cases hs'
      simp only [Work.start]
      split <;> exact Phase.noConfusion
  | complete m =>
    simp only [hphase] at h
    cases h
    refine AdvanceMemory.kept rfl rfl fun s' work l x hs' => ?_
    cases hs'
    simp only
    split <;> exact Phase.noConfusion
  | queued | selectLun | allocate | markStopping | waitForLunIo =>
    simp only [hphase] at h
    split at h <;> cases h <;>
      exact AdvanceMemory.kept rfl rfl
        fun s' work l x hs' => by cases hs'; exact Phase.noConfusion
  | rejectOperation | freeAllocation | detach | freePool | finalize | respond | traceResponse
  | notifyBus =>
    simp only [hphase] at h
    cases h
    exact AdvanceMemory.kept rfl rfl fun s' work l x hs' => by cases hs'; exact Phase.noConfusion

theorem advanceTeardown_contents {a a' : Adapter} {workerBusy : Bool}
    (h : a.advanceTeardown workerBusy = some a') :
    a'.pool.contents = a.pool.contents ∧ a'.history.commits = a.history.commits := by
  unfold advanceTeardown at h
  cases hteardown : a.teardown with
  | notStarted | waitForIdle | waitForLunIo =>
    simp only [hteardown] at h
    split at h
    · cases h
      exact ⟨rfl, rfl⟩
    · cases h
  | firstStopping | releaseWorker =>
    simp only [hteardown] at h
    split at h <;>
    · cases h
      exact ⟨rfl, rfl⟩
  | done =>
    simp only [hteardown] at h
    cases h
  | closeAdmission | idleObserved | markAllStopping | readTarget | detach | freePool | readRemoved
  | finalize | invalidate =>
    simp only [hteardown] at h
    cases h
    exact ⟨rfl, rfl⟩

/-- The writers of pool memory are the data phase of a command and the zeroing of an allocation. -/
inductive MemoryStep (a : Adapter) (action : Action) (b : Adapter) : Prop
  | dispatched (i : ℕ) (c : ScsiCommand) (haction : action = .command i)
      (hc : a.commands[i]? = some c) (hstatus : c.status = none) (hb : b = a.advanceCommand i c)
  | submitted (s : Submission) (b' : Adapter) (next : Option Submission)
      (haction : ∀ i, action ≠ .command i) (hsubmissions : a.submissions = [s])
      (hb : b = { b' with submissions := next.toList }) (h : AdvanceMemory a s b' next)
  | kept (hdispatch : ∀ i c, action = .command i → a.commands[i]? = some c → c.status ≠ none)
      (hcontents : b.pool.contents = a.pool.contents)
      (hcommits : b.history.commits = a.history.commits)
      (hzeroed : ∀ s ∈ b.submissions, ∀ work l x, s.phase = .commit work l x → s ∈ a.submissions)

theorem step_memory {a b : Adapter} {action : Action} (hgate : a.Gate)
    (hs : step a action = some b) : MemoryStep a action b := by
  cases action with
  | startIo srb now =>
    simp only [step] at hs
    split at hs
    · cases hs
      have hstarted := startIo_started a srb now
      generalize a.startIo srb now = b at hstarted ⊢
      cases hstarted with
      | kept | answered | leased =>
        exact MemoryStep.kept (fun _ _ heq => by cases heq) rfl rfl fun s hs _ _ _ _ => hs
      | admitted ext control command h =>
        refine MemoryStep.kept (fun _ _ heq => by cases heq) rfl rfl fun s hmem work l x hphase => ?_
        rcases List.mem_append.mp hmem with hold | hnew
        · exact hold
        · rw [List.mem_singleton] at hnew
          subst hnew
          cases hphase
    · cases hs
  | command i =>
    simp only [step] at hs
    split at hs
    · rename_i c hc
      cases hs
      cases hstatus : c.status with
      | none => exact MemoryStep.dispatched i c rfl hc hstatus rfl
      | some status =>
        unfold advanceCommand
        simp only [hstatus]
        refine MemoryStep.kept (fun j d hj hd => ?_) rfl rfl fun s hs _ _ _ _ => hs
        cases hj
        rw [Option.some.inj (hd.symm.trans hc), hstatus]
        exact Option.some_ne_none status
    · cases hs
  | completeRequest i =>
    simp only [step] at hs
    split at hs
    · cases hs
      exact MemoryStep.kept (fun _ _ heq => by cases heq) rfl rfl fun s hs _ _ _ _ => hs
    · cases hs
  | submission i granted now =>
    obtain ⟨s, c, next, hlist, hadvance, rfl⟩ := step_submission hgate hs
    exact MemoryStep.submitted s c next (fun _ heq => by cases heq) hlist rfl (advance_memory hadvance)
  | setStopping stopping =>
    cases hs
    exact MemoryStep.kept (fun _ _ heq => by cases heq) rfl rfl fun s hs _ _ _ _ => hs
  | teardown workerBusy =>
    obtain ⟨hcontents, hcommits⟩ := advanceTeardown_contents hs
    refine MemoryStep.kept (fun _ _ heq => by cases heq) hcontents hcommits fun s hs' _ _ _ _ => ?_
    rwa [(advanceTeardown_aside hs).submissions] at hs'

end Adapter

end WispDisk
