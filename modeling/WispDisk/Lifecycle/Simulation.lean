import Mathlib.Data.List.InsertIdx
import WispDisk.Driver.Gate
import WispDisk.Lifecycle.Records

/-! The adapter refines the lifecycle machine: every step of the adapter is one step of the machine
on its tables, its pool and its threads, or changes none of them. The invariants of the machine so
hold on every run of the adapter. -/
namespace WispDisk
open Layout ControlDispatch ManagementController Transition
set_option autoImplicit false

/-! ## The abstraction -/

def Phase.stage : Phase → Stage
  | .prepared | .queueFailed | .queued | .takeFault | .rejectOperation | .snapshotPending => .bound
  | .selectLun work => .select work
  | .allocate work selected => .allocate work selected
  | .zeroMemory work selected allocation => .commit work selected allocation
  | .commit work selected allocation => .commit work selected allocation
  | .freeAllocation work allocation status => .free work allocation status
  | .markStopping work => .mark work
  | .waitForLunIo work lun => .drain work ⟨lun, .waiting work.target⟩
  | .detach work lun => .drain work ⟨lun, .detaching work.target⟩
  | .freePool work lun backing => .drain work ⟨lun, .freeing backing⟩
  | .finalize work lun => .drain work ⟨lun, .drained⟩
  | .publish work status created => .publish work status created
  | .respond | .traceResponse _ | .complete _ | .notifyBus _ | .endManagement => .finishing

theorem Phase.stage_start (work : Work) : work.start.stage = Stage.start work := by
  unfold Work.start Stage.start
  split <;> rfl

def Submission.task (s : Submission) : Task where
  command := s.command
  stage := s.phase.stage

def ScsiCommand.lease (c : ScsiCommand) : Lease where
  lun := c.lun
  view := c.view

def Teardown.closing : Teardown → Closing
  | .notStarted => .notStarted
  | .closeAdmission => .closeAdmission
  | .waitForIdle => .waitForIdle
  | .idleObserved => .idleObserved
  | .markAllStopping => .markAllStopping
  | .firstStopping => .firstStopping
  | .readTarget lun => .readTarget lun
  | .waitForLunIo lun deviceId => .drain ⟨lun, .waiting deviceId⟩
  | .detach lun deviceId => .drain ⟨lun, .detaching deviceId⟩
  | .freePool lun backing => .drain ⟨lun, .freeing backing⟩
  | .readRemoved lun => .drain ⟨lun, .drained⟩
  | .finalize lun deviceId => .finalize lun deviceId
  | .releaseWorker => .releaseWorker
  | .invalidate => .invalidate
  | .done => .done

namespace Adapter

/-- The machine of an adapter with the given submission in flight. -/
def machineWith (a : Adapter) (active : Option Submission) : Machine where
  stopping := a.extension.adapterStopping
  adapterInstance := a.extension.adapterInstance
  nextDeviceId := a.extension.nextDeviceId
  nextOperationId := a.extension.nextOperationId
  operations := a.extension.operations
  total := a.extension.totalAllocatedBytes
  luns := a.extension.luns
  nextAllocation := a.pool.next
  frees := a.pool.frees
  task := active.map Submission.task
  leases := a.commands.map ScsiCommand.lease
  closing := a.teardown.closing
  reservations := a.history.reservations
  accepted := a.history.accepted
  executions := a.history.executions
  commits := a.history.commits
  removals := a.history.removals
  drained := a.history.drained

def machine (a : Adapter) : Machine := a.machineWith a.submissions.head?

theorem machine_idle {a : Adapter} (h : a.submissions = []) : a.machine = a.machineWith none := by
  unfold machine
  rw [h, List.head?_nil]

theorem machine_active {a : Adapter} {s : Submission} (h : a.submissions = [s]) :
    a.machine = a.machineWith (some s) := by
  unfold machine
  rw [h, List.head?_cons]

end Adapter

/-! ## The submission before its work has started -/

/-- Until the work starts the control request carries the command; the two reserved phases are
reached by reserved commands. -/
structure Submission.Coherent (s : Submission) : Prop where
  carries : s.phase.stage = .bound → Carries s.control s.command
  reserved : s.phase = .rejectOperation ∨ s.phase = .snapshotPending → s.command.isReserved = true

theorem Submission.Coherent.started {s : Submission} (hstage : s.phase.stage ≠ .bound) :
    s.Coherent where
  carries := fun h => absurd h hstage
  reserved := fun h => by
    rcases h with h | h <;> exact absurd (by rw [h]; rfl) hstage

theorem Stage.start_ne_bound (work : Work) : Stage.start work ≠ .bound := by
  unfold Stage.start
  split <;> exact nofun

/-- The codes of the reserved mutations are those of the reserved commands. -/
theorem MutationCommand.isReservedCode_eq (command : MutationCommand) :
    isReservedCode command.operation.code = command.isReserved := by
  unfold MutationCommand.isReserved
  cases command.operation <;> rfl

/-! ## The steps of the submission in flight -/

namespace Adapter

variable {restartable : Machine → Prop}

/-- One step of the machine, or none. -/
abbrev Simulates (restartable : Machine → Prop) : Machine → Machine → Prop :=
  Relation.ReflGen (Machine.Step restartable)

/-- The submission stays coherent and the machine makes at most one step. -/
structure Followed (restartable : Machine → Prop) (a : Adapter) (s : Submission) (a' : Adapter)
    (next : Option Submission) : Prop where
  coherent : ∀ s', next = some s' → s'.Coherent
  simulates : Simulates restartable (a.machineWith (some s)) (a'.machineWith next)

theorem Followed.stutter {a a' : Adapter} {s s' : Submission} (hcoherent : s'.Coherent)
    (h : a'.machineWith (some s') = a.machineWith (some s)) :
    Followed restartable a s a' (some s') where
  coherent := fun t ht => by
    cases ht
    exact hcoherent
  simulates := by rw [h]

theorem Followed.step {a a' : Adapter} {s s' : Submission} (hstage : s'.phase.stage ≠ .bound)
    (h : Machine.Step restartable (a.machineWith (some s)) (a'.machineWith (some s'))) :
    Followed restartable a s a' (some s') where
  coherent := fun t ht => by
    cases ht
    exact Submission.Coherent.started hstage
  simulates := Relation.ReflGen.single h

theorem Followed.last {a a' : Adapter} {s : Submission}
    (h : Machine.Step restartable (a.machineWith (some s)) (a'.machineWith none)) :
    Followed restartable a s a' none where
  coherent := fun t ht => absurd ht.symm (Option.some_ne_none t)
  simulates := Relation.ReflGen.single h

/-- A failed operation of a reserved command. -/
theorem failOperationLocked_failing (ext : AdapterExtension) {command : MutationCommand}
    (hkind : command.isReserved = true) (control : ControlRequest) (correlation : ULONGLONG)
    (now : LONGLONG) :
    ∃ operations debug, Failing ext.operations command operations ∧
      (failOperationLocked ext command.identity.operationId statusInsufficientResources control
        correlation now).1 = { ext with operations := operations, debug := debug } := by
  rcases failOperationLocked_spec ext command.identity.operationId statusInsufficientResources
    control correlation now with ⟨hsame, hmissing⟩ | ⟨i, debug, hid, hzero, hfailed, _⟩
  · exact ⟨ext.operations, ext.debug, Failing.missing hkind hmissing, hsame⟩
  · exact ⟨_, debug, Failing.failed hkind i hid (hid ▸ hzero) _ ntSuccess_insufficientResources,
      hfailed⟩

/-- The task of a submission at a phase. -/
theorem task_eq {a : Adapter} {s : Submission} {phase : Phase} (hphase : s.phase = phase) :
    (a.machineWith (some s)).task = some ⟨s.command, phase.stage⟩ := by
  subst hphase
  rfl

theorem machineWith_moved (a : Adapter) {s s' : Submission} {stage : Stage}
    (hcommand : s'.command = s.command) (hstage : s'.phase.stage = stage) :
    a.machineWith (some s') = (a.machineWith (some s)).setTask s.command stage := by
  unfold machineWith Machine.setTask
  simp only [Option.map_some, Submission.task, hcommand, hstage]

/-- A step that changes nothing but the stage. -/
theorem Followed.moved {a : Adapter} {s s' : Submission} {stage : Stage}
    (hcommand : s'.command = s.command) (hstage : s'.phase.stage = stage) (hne : stage ≠ .bound)
    (h : Machine.Step restartable (a.machineWith (some s))
      ((a.machineWith (some s)).setTask s.command stage)) :
    Followed restartable a s a (some s') := by
  refine Followed.step (by rwa [hstage]) ?_
  rw [machineWith_moved a hcommand hstage]
  exact h

section Phases

variable {a : Adapter} {s : Submission}

theorem queueFailed_followed (hphase : s.phase = .queueFailed) (now : LONGLONG) (ended : List ℕ)
    (returned : List Returned) :
    Followed restartable a s { a with
      extension := (failQueueing a.extension s.control s.command now).1
      returned := returned
      history := { a.history with ended := ended } } none := by
  refine Followed.last ?_
  have htask := task_eq (a := a) hphase
  unfold failQueueing
  cases hkind : s.command.isReserved with
  | false =>
    simp only [Bool.false_eq_true, if_false]
    exact Machine.Step.queueFailed s.command htask a.extension.operations (Failing.legacy hkind)
  | true =>
    obtain ⟨operations, debug, hfailing, heq⟩ := failOperationLocked_failing a.extension hkind
      s.control s.command.correlationId now
    simp only [if_true, heq]
    exact Machine.Step.queueFailed s.command htask operations hfailing

/-- The worker finds the command that was admitted. -/
theorem queued_followed (hphase : s.phase = .queued) (hcoherent : s.Coherent) {granted : Bool}
    {now : LONGLONG} {a' : Adapter} {next : Option Submission}
    (h : a.advance s granted now = some (a', next)) : Followed restartable a s a' next := by
  have hcarries := hcoherent.carries (by rw [hphase]; rfl)
  unfold advance at h
  simp only [hphase, ControlRequest.fromSrb_toSrb hcarries.enveloped] at h
  cases h
  refine Followed.stutter ⟨fun _ => hcarries.decoded, nofun⟩ ?_
  unfold machineWith
  simp only [Option.map_some, Submission.task, hphase]
  rfl

/-- The worker starts the work of a legacy command. -/
theorem startedLegacy_followed (hphase : s.phase = .takeFault)
    (hkind : s.command.isReserved = false) :
    Followed restartable a s a (some { s with phase := s.command.legacyWork.start }) :=
  Followed.moved rfl (Phase.stage_start _) (Stage.start_ne_bound _)
    (Machine.Step.startedLegacy s.command (task_eq hphase) hkind)

/-- A reserved command goes on with its record or with the injected rejection. -/
theorem faultTaken_followed (hphase : s.phase = .takeFault) (hcoherent : s.Coherent)
    (hkind : s.command.isReserved = true) (debug : Option DebugState) (fault : Mode)
    (phase : Phase) (hnext : phase = .rejectOperation ∨ phase = .snapshotPending) :
    Followed restartable a s { a with extension := { a.extension with debug := debug } }
      (some { s with fault := fault, phase := phase }) := by
  have hcarries := hcoherent.carries (by rw [hphase]; rfl)
  have hbound : phase.stage = .bound := by
    rcases hnext with hnext | hnext <;> rw [hnext] <;> rfl
  refine Followed.stutter ⟨fun _ => hcarries, fun _ => hkind⟩ ?_
  unfold machineWith
  simp only [Option.map_some, Submission.task, hphase, hbound]
  rfl

theorem takeFault_followed (hphase : s.phase = .takeFault) (hcoherent : s.Coherent) :
    Followed restartable a s (a.beginWork s).1 (some (a.beginWork s).2) := by
  have hcarries := hcoherent.carries (by rw [hphase]; rfl)
  unfold beginWork
  simp only [hcarries.code, MutationCommand.isReservedCode_eq]
  cases hkind : s.command.isReserved with
  | true =>
    simp only [if_true]
    refine faultTaken_followed hphase hcoherent hkind _ _ _ ?_
    split
    · exact Or.inl rfl
    · exact Or.inr rfl
  | false =>
    have hfollowed : Followed restartable a s a
        (some { s with phase := s.command.legacyWork.start }) := startedLegacy_followed hphase hkind
    unfold MutationCommand.legacyWork MutationCommand.mutation at hfollowed
    cases hop : s.command.operation with
    | createDisk =>
      simp only [hop] at hfollowed
      simp only [hcarries.create hop, Bool.false_eq_true, if_false, MutationOperation.code,
        if_true, ntSuccess_success]
      exact hfollowed
    | deleteDisk =>
      simp only [hop] at hfollowed
      simp only [hcarries.remove hop, Bool.false_eq_true, if_false, MutationOperation.code,
        if_true, ntSuccess_success]
      exact hfollowed
    | createReserved | deleteReserved =>
      unfold MutationCommand.isReserved at hkind
      rw [hop] at hkind
      cases hkind

theorem rejectOperation_followed (hphase : s.phase = .rejectOperation) (hcoherent : s.Coherent)
    (now : LONGLONG) :
    Followed restartable a s { a with
        extension := (failOperationLocked a.extension
          (OperationRequest.read s.control.payload 0).operationId statusInsufficientResources
          s.control (OperationRequest.read s.control.payload 0).header.correlationId now).1 }
      (some { s with
        control := (failOperationLocked a.extension
          (OperationRequest.read s.control.payload 0).operationId statusInsufficientResources
          s.control (OperationRequest.read s.control.payload 0).header.correlationId now).2
        phase := .respond }) := by
  have hkind := hcoherent.reserved (Or.inl hphase)
  have hcarries := hcoherent.carries (by rw [hphase]; rfl)
  obtain ⟨operations, debug, hfailing, heq⟩ := failOperationLocked_failing a.extension hkind
    s.control s.command.identity.header.correlationId now
  refine Followed.step nofun ?_
  simp only [hcarries.identity hkind, heq]
  exact Machine.Step.rejected s.command (task_eq hphase) hkind operations hfailing

theorem snapshotPending_followed (hphase : s.phase = .snapshotPending) (hcoherent : s.Coherent)
    (hunique : ∀ i j, (a.extension.operations i).id ≠ 0 →
      (a.extension.operations i).id = (a.extension.operations j).id → i = j) {granted : Bool} {now : LONGLONG}
    {a' : Adapter} {next : Option Submission} (h : a.advance s granted now = some (a', next)) :
    Followed restartable a s a' next := by
  have hkind := hcoherent.reserved (Or.inr hphase)
  have hcarries := hcoherent.carries (by rw [hphase]; rfl)
  unfold advance at h
  simp only [hphase, hcarries.identity hkind] at h
  split at h
  · rename_i control hmissing
    cases h
    refine Followed.moved rfl rfl nofun
      (Machine.Step.missing s.command (task_eq hphase) hkind fun hinstance i hid hzero => ?_)
    rcases snapshotPendingOperation_error hmissing with (hnone | hnone) | ⟨j, hj, hrefused⟩
    · exact absurd (hid.trans hnone) hzero
    · exact absurd hid (hnone i)
    · have hij : i = j := hunique i j hzero (hid.trans hj.symm)
      subst hij
      exact hrefused.resolve_left (not_not.mpr hinstance)
  · rename_i snapshot hsnapshot
    obtain ⟨i, heq, hid, hzero, hstate⟩ := snapshotPendingOperation_ok hsnapshot
    cases h
    refine Followed.step ?_ ?_
    · simp only [Phase.stage_start]
      exact Stage.start_ne_bound _
    · subst heq
      unfold machineWith
      simp only [Option.map_some, Submission.task, Phase.stage_start]
      exact Machine.Step.startedReserved s.command i _ (task_eq hphase) hkind hid (hid ▸ hzero)
        hstate

theorem selectLun_followed {work : Work} (hphase : s.phase = .selectLun work) {granted : Bool}
    {now : LONGLONG} {a' : Adapter} {next : Option Submission}
    (h : a.advance s granted now = some (a', next)) : Followed restartable a s a' next := by
  unfold advance at h
  simp only [hphase] at h
  split at h
  · rename_i status hselect
    cases h
    exact Followed.moved rfl rfl nofun (Machine.Step.notSelected s.command work status
      (task_eq hphase) (LunStore.selectAvailableLun_error hselect))
  · rename_i l hselect
    obtain ⟨_, hquota, hempty⟩ := LunStore.selectAvailableLun_ok hselect
    cases h
    exact Followed.moved rfl rfl nofun
      (Machine.Step.selected s.command work l (task_eq hphase) hquota hempty)

theorem allocate_followed {work : Work} {l : Fin kMaximumDiskCount}
    (hphase : s.phase = .allocate work l) {granted : Bool} {now : LONGLONG} {a' : Adapter}
    {next : Option Submission} (h : a.advance s granted now = some (a', next)) :
    Followed restartable a s a' next := by
  unfold advance at h
  simp only [hphase] at h
  split at h
  · cases h
    exact Followed.step nofun (Machine.Step.allocated s.command work l (task_eq hphase))
  · cases h
    exact Followed.moved rfl rfl nofun (Machine.Step.notAllocated s.command work l (task_eq hphase))

theorem zeroMemory_followed {work : Work} {l : Fin kMaximumDiskCount} {allocation : Allocation}
    (hphase : s.phase = .zeroMemory work l allocation) (contents : Allocation → Bytes) :
    Followed restartable a s { a with pool := { a.pool with contents := contents } }
      (some { s with phase := .commit work l allocation }) := by
  refine Followed.stutter (Submission.Coherent.started nofun) ?_
  unfold machineWith
  simp only [Option.map_some, Submission.task, hphase]
  rfl

theorem commit_followed {work : Work} {l : Fin kMaximumDiskCount} {allocation : Allocation}
    (hphase : s.phase = .commit work l allocation) {granted : Bool} {now : LONGLONG}
    {a' : Adapter} {next : Option Submission} (h : a.advance s granted now = some (a', next)) :
    Followed restartable a s a' next := by
  unfold advance at h
  simp only [hphase] at h
  split at h
  · rename_i status hcommit
    cases h
    exact Followed.moved rfl rfl nofun (Machine.Step.notCommitted s.command work l allocation status
      (task_eq hphase) (LunStore.commitNewLun_error hcommit))
  · rename_i ext deviceId hcommit
    obtain ⟨hopen, hempty, hnext, hdevice, hext⟩ := LunStore.commitNewLun_ok hcommit
    cases h
    subst hext hdevice
    exact Followed.step nofun (Machine.Step.committed s.command work l allocation (task_eq hphase)
      hopen hempty hnext)

theorem freeAllocation_followed {work : Work} {allocation : Allocation} {status : NTSTATUS}
    (hphase : s.phase = .freeAllocation work allocation status) :
    Followed restartable a s
      { a with pool := { a.pool with frees := a.pool.frees ++ [allocation] } }
      (some { s with phase := .publish work status none }) :=
  Followed.step nofun (Machine.Step.freed s.command work allocation status (task_eq hphase))

theorem markStopping_followed {work : Work} (hphase : s.phase = .markStopping work)
    {granted : Bool} {now : LONGLONG} {a' : Adapter} {next : Option Submission}
    (h : a.advance s granted now = some (a', next)) : Followed restartable a s a' next := by
  unfold advance at h
  simp only [hphase] at h
  split at h
  · rename_i hmark
    cases h
    exact Followed.moved rfl rfl nofun (Machine.Step.notMarked s.command work (task_eq hphase)
      (LunStore.markLunStopping_none hmark))
  · rename_i ext l hmark
    obtain ⟨honline, htarget, hext⟩ := LunStore.markLunStopping_some hmark
    cases h
    subst hext
    exact Followed.step nofun
      (Machine.Step.marked s.command work l (task_eq hphase) honline htarget)

theorem waitForLunIo_followed {work : Work} {l : Fin kMaximumDiskCount}
    (hphase : s.phase = .waitForLunIo work l)
    (hevent : (a.extension.luns l).noActiveRequestsEvent = true) :
    Followed restartable a s a (some { s with phase := .detach work l }) :=
  Followed.moved rfl rfl nofun (Machine.Step.workerDrained s.command work l _ _ _ (task_eq hphase)
    (Machine.DrainStep.waited l work.target hevent))

theorem detach_followed {work : Work} {l : Fin kMaximumDiskCount}
    (hphase : s.phase = .detach work l) :
    Followed restartable a s
      { a with extension := (LunStore.detachBackingStore a.extension l work.target).1 }
      (some { s with
        phase := .freePool work l (LunStore.detachBackingStore a.extension l work.target).2 }) := by
  refine Followed.step nofun ?_
  by_cases hrefused : (a.extension.luns l).state ≠ .stopping ∨
      (a.extension.luns l).deviceId ≠ work.target
  · rw [LunStore.detachBackingStore_refused hrefused]
    exact Machine.Step.workerDrained s.command work l _ _ _ (task_eq hphase)
      (Machine.DrainStep.refused l work.target hrefused)
  · rw [not_or, not_not, not_not] at hrefused
    obtain ⟨hstate, htarget⟩ := hrefused
    have htask := task_eq (a := a) hphase
    simp only [Phase.stage, ← htarget] at htask
    rw [← htarget, LunStore.detachBackingStore_taken hstate]
    exact Machine.Step.workerDrained s.command work l _ _ _ htask
      (Machine.DrainStep.detached l hstate)

theorem freePool_followed {work : Work} {l : Fin kMaximumDiskCount} {backing : Option Allocation}
    (hphase : s.phase = .freePool work l backing) :
    Followed restartable a s
      { a with pool := { a.pool with frees := a.pool.frees ++ backing.toList } }
      (some { s with phase := .finalize work l }) :=
  Followed.step nofun (Machine.Step.workerDrained s.command work l _ _ _ (task_eq hphase)
    (Machine.DrainStep.freed l backing))

theorem finalize_followed {work : Work} {l : Fin kMaximumDiskCount}
    (hphase : s.phase = .finalize work l) :
    Followed restartable a s { a with
        extension := finalizeDiskRemoval a.extension l work.target
        history := { a.history with
          removals := a.history.removals ++ [⟨work.operation, work.target⟩] } }
      (some { s with phase := .publish work statusSuccess none }) :=
  Followed.step nofun (Machine.Step.workerFinalized s.command work l (task_eq hphase))

theorem bindCreate_eq (ext : AdapterExtension) (lun : UCHAR) (operation : ULONGLONG) :
    (LunStore.bindCreateOperationLocked ext lun operation).luns =
      Machine.bindCreate ext.luns lun operation := by
  unfold LunStore.bindCreateOperationLocked Machine.bindCreate
  split <;> rfl

theorem publish_followed {work : Work} {status : NTSTATUS} {created : Option (ULONG × UCHAR)}
    (hphase : s.phase = .publish work status created) (now : LONGLONG) :
    Followed restartable a s (a.publish s work status created now).1
      (some (a.publish s work status created now).2) := by
  cases work with
  | legacyCreate request =>
    exact Followed.moved rfl rfl nofun
      (Machine.Step.answered s.command _ status created (task_eq hphase) nofun)
  | legacyDelete request =>
    exact Followed.moved rfl rfl nofun
      (Machine.Step.answered s.command _ status created (task_eq hphase) nofun)
  | reserved snapshot correlation =>
    unfold Adapter.publish
    simp only
    rcases publishOperationResult_spec a.extension s.control
        (resolvedRecord snapshot status created) correlation now with
      ⟨hsame, hmissing⟩ | ⟨i, hid, hzero, debug, hpublished, _⟩
    · rw [hsame]
      rw [resolvedRecord_id] at hmissing
      refine Followed.moved rfl rfl nofun
        (Machine.Step.answered s.command _ status created (task_eq hphase) fun _ _ heq => ?_)
      cases heq
      exact hmissing
    · rw [hpublished]
      rw [resolvedRecord_id] at hid hzero
      simp only [bindCreate_eq]
      exact Followed.step nofun (Machine.Step.published s.command snapshot correlation status
        created i (task_eq hphase) hid (hid ▸ hzero))

theorem finishing_followed (hphase : s.phase.stage = .finishing) {a' : Adapter} {s' : Submission}
    (hcommand : s'.command = s.command) (hstage : s'.phase.stage = .finishing)
    (hsame : a'.machineWith (some s) = a.machineWith (some s)) :
    Followed restartable a s a' (some s') := by
  refine Followed.stutter (Submission.Coherent.started (by rw [hstage]; exact nofun)) ?_
  rw [machineWith_moved a' hcommand hstage, hsame, ← machineWith_moved a rfl hphase]

theorem endManagement_followed (hphase : s.phase = .endManagement) (ended : List ℕ) :
    Followed restartable a s { a with
      extension := endManagementLocked a.extension
      history := { a.history with ended := ended } } none :=
  Followed.last (Machine.Step.ended s.command (task_eq hphase))

/-- Every step of an admitted submission is followed by the machine. -/
theorem advance_followed (hcoherent : s.Coherent)
    (hunique : ∀ i j, (a.extension.operations i).id ≠ 0 →
      (a.extension.operations i).id = (a.extension.operations j).id → i = j) {granted : Bool} {now : LONGLONG}
    {a' : Adapter} {next : Option Submission} (h : a.advance s granted now = some (a', next)) :
    Followed restartable a s a' next := by
  cases hphase : s.phase with
  | queued => exact queued_followed hphase hcoherent h
  | snapshotPending => exact snapshotPending_followed hphase hcoherent hunique h
  | selectLun work => exact selectLun_followed hphase h
  | allocate work l => exact allocate_followed hphase h
  | commit work l allocation => exact commit_followed hphase h
  | markStopping work => exact markStopping_followed hphase h
  | prepared =>
    unfold advance at h
    simp only [hphase] at h
    cases h
    have hcarries := hcoherent.carries (by rw [hphase]; rfl)
    have hbound : s.phase.stage = .bound := by rw [hphase]; rfl
    cases a.extension.managementWorker && granted with
    | true =>
      exact Followed.stutter ⟨fun _ => hcarries, nofun⟩
        ((machineWith_moved a rfl rfl).trans (machineWith_moved a rfl hbound).symm)
    | false =>
      exact Followed.stutter ⟨fun _ => hcarries, nofun⟩
        ((machineWith_moved a rfl rfl).trans (machineWith_moved a rfl hbound).symm)
  | waitForLunIo work l =>
    unfold advance at h
    simp only [hphase] at h
    split at h
    · rename_i hevent
      cases h
      exact waitForLunIo_followed hphase hevent
    · cases h
  | queueFailed =>
    unfold advance at h
    simp only [hphase] at h
    cases h
    exact queueFailed_followed hphase now _ _
  | takeFault =>
    unfold advance at h
    simp only [hphase] at h
    cases h
    exact takeFault_followed hphase hcoherent
  | rejectOperation =>
    unfold advance at h
    simp only [hphase] at h
    cases h
    exact rejectOperation_followed hphase hcoherent now
  | zeroMemory work l allocation =>
    unfold advance at h
    simp only [hphase] at h
    cases h
    exact zeroMemory_followed hphase _
  | freeAllocation work allocation status =>
    unfold advance at h
    simp only [hphase] at h
    cases h
    exact freeAllocation_followed hphase
  | detach work l =>
    unfold advance at h
    simp only [hphase] at h
    cases h
    exact detach_followed hphase
  | freePool work l backing =>
    unfold advance at h
    simp only [hphase] at h
    cases h
    exact freePool_followed hphase
  | finalize work l =>
    unfold advance at h
    simp only [hphase] at h
    cases h
    exact finalize_followed hphase
  | publish work status created =>
    unfold advance at h
    simp only [hphase] at h
    cases h
    exact publish_followed hphase now
  | respond | traceResponse | notifyBus =>
    unfold advance at h
    simp only [hphase] at h
    cases h
    exact finishing_followed (by rw [hphase]; rfl) rfl rfl rfl
  | complete m =>
    unfold advance at h
    simp only [hphase] at h
    cases h
    exact finishing_followed (by rw [hphase]; rfl) rfl (by simp only; split <;> rfl) rfl
  | endManagement =>
    unfold advance at h
    simp only [hphase] at h
    cases h
    exact endManagement_followed hphase _

end Phases

/-! ## The other steps -/

/-- Every submission in flight is coherent. -/
def Coherent (a : Adapter) : Prop := ∀ s ∈ a.submissions, s.Coherent

theorem reservationOf_eq_nil {before after : AdapterExtension}
    (h : before.nextOperationId = after.nextOperationId) : reservationOf before after = [] := by
  unfold reservationOf
  rw [if_pos h]

theorem answered_simulates {a : Adapter} {ext : AdapterExtension} {nextSrb : ℕ}
    {returned : List Returned} (h : Answered a.extension ext) :
    Simulates restartable a.machine (Adapter.machine { a with
      nextSrb := nextSrb
      extension := ext
      returned := returned
      history := { a.history with
        reservations := a.history.reservations ++ reservationOf a.extension ext } }) := by
  cases h with
  | kept debug =>
    rw [reservationOf_eq_nil, List.append_nil]
    · exact Relation.ReflGen.refl
    · rfl
  | passed hidle =>
    rw [reservationOf_eq_nil, List.append_nil]
    · exact Relation.ReflGen.refl
    · rfl
  | reserved mutation i hmutation hopen hnext hslot =>
    have hsucc : a.extension.nextOperationId ≠ a.extension.nextOperationId + 1 := fun heq => by
      have htoNat := congrArg UInt64.toNat heq
      rcases Identifiers.toNat_succ_uint64 a.extension.nextOperationId with hzero | hnat
      · exact hnext (UInt64.toNat_inj.mp (htoNat.trans hzero))
      · omega
    unfold reservationOf
    simp only [if_neg hsucc]
    exact Relation.ReflGen.single
      (Machine.Step.reserved i mutation hmutation hopen hnext hslot)

theorem admitted_simulates {a : Adapter} {ext : AdapterExtension} {control : ControlRequest}
    {command : MutationCommand} {nextSrb : ℕ} {admitted : List ℕ} (hgate : a.Gate)
    (h : Admitted a.extension ext control command) :
    Simulates restartable a.machine (Adapter.machine { a with
      nextSrb := nextSrb
      extension := ext
      submissions := a.submissions ++ [{ id := a.nextSrb, control := control, command := command }]
      history := { a.history with
        admitted := admitted
        accepted := a.history.accepted ++ if command.isReserved then [command] else [] } }) := by
  have hnone := hgate.none_in_flight h.idle
  rw [machine_idle hnone]
  unfold machine
  cases h.extension with
  | legacy debug hkind =>
    simp only [hnone, List.nil_append, List.head?_cons, hkind, Bool.false_eq_true, if_false,
      List.append_nil]
    exact Relation.ReflGen.single
      (Machine.Step.admittedLegacy command h.opened rfl hkind h.validated)
  | bound debug i hkind hinstance hid hzero hmutation hstate =>
    simp only [hnone, List.nil_append, List.head?_cons, hkind, if_true]
    exact Relation.ReflGen.single (Machine.Step.admittedReserved command i h.opened rfl hkind
      h.validated hinstance hid hzero hmutation hstate)

theorem started_simulates {a a' : Adapter} (hgate : a.Gate)
    (hlimit : a.outstanding < maximumNumberOfIo) (h : Started a a') :
    Simulates restartable a.machine a'.machine := by
  cases h with
  | kept r hid => exact Relation.ReflGen.refl
  | answered ext r hid hanswered => exact answered_simulates hanswered
  | admitted ext control command hadmitted => exact admitted_simulates hgate hadmitted
  | leased srb ext l view hacquire =>
    obtain ⟨_, _, _, honline, hbacking, hsize, hmedia, hdevice, hext⟩ :=
      LunStore.acquireLunIo_some hacquire
    have hview : view = (a.machine.luns l).view view.backingStore := by
      unfold Lun.view machine machineWith
      rw [← hsize, ← hmedia, ← hdevice]
    have hleases : a.machine.leases.length < maximumNumberOfIo := by
      unfold outstanding at hlimit
      simp only [machine, machineWith, List.length_map]
      omega
    have hstep : Machine.Step restartable a.machine _ :=
      Machine.Step.acquired l view.backingStore honline hbacking hleases
    rw [← hview] at hstep
    subst hext
    unfold machine machineWith
    simp only [List.map_append, List.map_cons, List.map_nil, ScsiCommand.lease]
    exact Relation.ReflGen.single hstep

theorem releaseLunIo_eq (ext : AdapterExtension) (l : Fin kMaximumDiskCount) :
    LunStore.releaseLunIo ext l =
      { ext with luns := Function.update ext.luns l (ext.luns l).released } := by
  unfold LunStore.releaseLunIo Lun.released
  simp only
  split
  · rw [Function.update_eq_self]
  · rfl

theorem commanded_simulates {a : Adapter} {i : ℕ} {c : ScsiCommand}
    (hc : a.commands[i]? = some c) :
    Simulates restartable a.machine (a.advanceCommand i c).machine := by
  have hlease : (a.commands.map ScsiCommand.lease)[i]? = some c.lease := by
    rw [List.getElem?_map, hc, Option.map_some]
  unfold advanceCommand
  split
  · have hleases : (a.commands.map ScsiCommand.lease).set i c.lease =
        a.commands.map ScsiCommand.lease := by
      obtain ⟨hi, heq⟩ := List.getElem?_eq_some_iff.mp hlease
      rw [← heq, List.set_getElem_self]
    have hsame : ∀ srb status,
        ScsiCommand.lease { c with srb := srb, status := status } = c.lease := fun _ _ => rfl
    unfold machine machineWith
    simp only [List.map_set, hsame, hleases]
    exact Relation.ReflGen.refl
  · have hstep : Machine.Step restartable a.machine _ := Machine.Step.released i c.lease hlease
    rw [releaseLunIo_eq]
    unfold giveBack machine machineWith
    simp only [← List.eraseIdx_map]
    exact Relation.ReflGen.single hstep

theorem drained_detached {a : Adapter} {l : Fin kMaximumDiskCount} {deviceId : ULONG} :
    Machine.DrainStep a.machine ⟨l, .detaching deviceId⟩
      (Adapter.machine
        { a with extension := (LunStore.detachBackingStore a.extension l deviceId).1 })
      (.freeing (LunStore.detachBackingStore a.extension l deviceId).2) := by
  by_cases hrefused : (a.extension.luns l).state ≠ .stopping ∨
      (a.extension.luns l).deviceId ≠ deviceId
  · rw [LunStore.detachBackingStore_refused hrefused]
    exact Machine.DrainStep.refused l deviceId hrefused
  · rw [not_or, not_not, not_not] at hrefused
    obtain ⟨hstate, htarget⟩ := hrefused
    subst htarget
    rw [LunStore.detachBackingStore_taken hstate]
    exact Machine.DrainStep.detached (c := a.machine) l hstate

theorem tornDown_simulates {a a' : Adapter} {workerBusy : Bool} (hgate : a.Gate)
    (h : a.advanceTeardown workerBusy = some a') : Simulates restartable a.machine a'.machine := by
  have hclosing : a.machine.closing = a.teardown.closing := rfl
  unfold advanceTeardown at h
  cases hteardown : a.teardown with
  | notStarted =>
    simp only [hteardown] at h hclosing
    split at h
    · cases h
      exact Relation.ReflGen.single (Machine.Step.entered hclosing)
    · cases h
  | closeAdmission =>
    simp only [hteardown] at h hclosing
    cases h
    exact Relation.ReflGen.single (Machine.Step.admissionClosed hclosing)
  | waitForIdle =>
    simp only [hteardown] at h hclosing
    split at h
    · rename_i hidle
      cases h
      have hbusy : a.extension.managementBusy = false := by
        have hevent := hgate.idle
        rw [hidle] at hevent
        simpa using hevent
      have htask : a.machine.task = none := by
        rw [machine_idle (hgate.none_in_flight hbusy)]
        rfl
      exact Relation.ReflGen.single (Machine.Step.idle hclosing htask)
    · cases h
  | idleObserved =>
    simp only [hteardown] at h hclosing
    cases h
    exact Relation.ReflGen.single (Machine.Step.idleLeft hclosing)
  | markAllStopping =>
    simp only [hteardown] at h hclosing
    cases h
    exact Relation.ReflGen.single (Machine.Step.markedAll hclosing)
  | firstStopping =>
    simp only [hteardown] at h hclosing
    split at h
    · rename_i l hfirst
      cases h
      exact Relation.ReflGen.single
        (Machine.Step.selectedStopping l hclosing (LunStore.firstStoppingLun_some hfirst))
    · rename_i hnone
      cases h
      exact Relation.ReflGen.single
        (Machine.Step.noneStopping hclosing (LunStore.firstStoppingLun_none hnone))
  | readTarget l =>
    simp only [hteardown] at h hclosing
    cases h
    exact Relation.ReflGen.single (Machine.Step.targetRead l hclosing)
  | waitForLunIo l deviceId =>
    simp only [hteardown] at h hclosing
    split at h
    · rename_i hevent
      cases h
      exact Relation.ReflGen.single (Machine.Step.teardownDrained l _ _ _ hclosing
        (Machine.DrainStep.waited l deviceId hevent))
    · cases h
  | detach l deviceId =>
    simp only [hteardown] at h hclosing
    cases h
    exact Relation.ReflGen.single
      (Machine.Step.teardownDrained l _ _ _ hclosing drained_detached)
  | freePool l backing =>
    simp only [hteardown] at h hclosing
    cases h
    exact Relation.ReflGen.single (Machine.Step.teardownDrained l _ _ _ hclosing
      (Machine.DrainStep.freed l backing))
  | readRemoved l =>
    simp only [hteardown] at h hclosing
    cases h
    exact Relation.ReflGen.single (Machine.Step.removedRead l hclosing)
  | finalize l deviceId =>
    simp only [hteardown] at h hclosing
    cases h
    exact Relation.ReflGen.single (Machine.Step.teardownFinalized l deviceId hclosing)
  | releaseWorker =>
    simp only [hteardown] at h hclosing
    split at h
    · cases h
      exact Relation.ReflGen.refl
    · cases h
      exact Relation.ReflGen.single (Machine.Step.workerReleased hclosing)
  | invalidate =>
    simp only [hteardown] at h hclosing
    cases h
    exact Relation.ReflGen.single (Machine.Step.invalidated hclosing)
  | done =>
    simp only [hteardown] at h
    cases h

theorem setStopping_simulates {a : Adapter} {stopping : Bool}
    (hrestart : stopping = false → restartable a.machine) :
    Simulates restartable a.machine
      (Adapter.machine { a with extension := setStopping a.extension stopping }) := by
  unfold setStopping
  split
  · cases stopping with
    | true => exact Relation.ReflGen.single Machine.Step.stopped
    | false => exact Relation.ReflGen.single (Machine.Step.restarted (hrestart rfl))
  · exact Relation.ReflGen.refl

/-! ## Whole runs -/

theorem Coherent.initial (adapterInstance : ULONGLONG) (dbg : Bool)
    (contents : Allocation → Bytes) : (Adapter.initial adapterInstance dbg contents).Coherent :=
  fun _ hs => absurd hs List.not_mem_nil

theorem Coherent.advanced {a : Adapter} {s : Submission} {a' : Adapter} {next : Option Submission}
    (h : Followed restartable a s a' next) :
    Adapter.Coherent { a' with submissions := next.toList } := by
  intro t ht
  exact h.coherent t (Option.mem_toList.mp ht)

theorem Coherent.started {a a' : Adapter} (h : a.Coherent) (hstarted : Started a a') :
    a'.Coherent := by
  cases hstarted with
  | kept | answered | leased => exact h
  | admitted ext control command hadmitted =>
    intro s hs
    rcases List.mem_append.mp hs with hs | hs
    · exact h s hs
    · rw [List.mem_singleton] at hs
      subst hs
      exact ⟨fun _ => hadmitted.carries, nofun⟩

/-- Every step of the adapter is at most one step of the machine. -/
theorem step_simulates {a a' : Adapter} {action : Action} (hgate : a.Gate) (hcoherent : a.Coherent)
    (hunique : ∀ i j, (a.extension.operations i).id ≠ 0 →
      (a.extension.operations i).id = (a.extension.operations j).id → i = j)
    (hrestart : action = .setStopping false → restartable a.machine)
    (h : step a action = some a') :
    a'.Coherent ∧ Simulates restartable a.machine a'.machine := by
  cases action with
  | startIo srb now =>
    simp only [step] at h
    split at h
    · rename_i hlimit
      cases h
      have hstarted := startIo_started a srb now
      exact ⟨hcoherent.started hstarted, started_simulates hgate hlimit hstarted⟩
    · cases h
  | command i =>
    simp only [step] at h
    split at h
    · rename_i c hc
      cases h
      refine ⟨?_, commanded_simulates hc⟩
      unfold advanceCommand
      split <;> exact hcoherent
    · cases h
  | completeRequest i =>
    simp only [step] at h
    split at h
    · cases h
      exact ⟨hcoherent, Relation.ReflGen.refl⟩
    · cases h
  | submission i granted now =>
    obtain ⟨s, b, next, hlist, hadvance, heq⟩ := step_submission hgate h
    have hs : s.Coherent := hcoherent s (by rw [hlist]; exact List.mem_singleton.mpr rfl)
    have hfollowed : Followed restartable a s b next := advance_followed hs hunique hadvance
    subst heq
    refine ⟨Coherent.advanced hfollowed, ?_⟩
    rw [machine_active hlist]
    unfold machine
    simp only [Option.head?_toList]
    exact hfollowed.simulates
  | setStopping stopping =>
    cases h
    exact ⟨hcoherent, setStopping_simulates fun hstopping => hrestart (by rw [hstopping])⟩
  | teardown workerBusy =>
    refine ⟨?_, tornDown_simulates hgate h⟩
    unfold Coherent
    rw [(advanceTeardown_aside h).submissions]
    exact hcoherent

/-- What is known of a reachable adapter besides its machine. -/
theorem reachable_simulated {C : Contract Adapter Action}
    (hrestart : ∀ a, C a (.setStopping false) → restartable a.machine) {a : Adapter}
    (h : Reachable system C a) :
    (a.Gate ∧ a.Coherent) ∧ Machine.Reachable restartable a.machine := by
  have hsim := Reachable.simulated machine
    (fun c => ∃ adapterInstance, c = { adapterInstance := adapterInstance })
    (Machine.Step restartable) (fun a => a.Gate ∧ a.Coherent) ?_ ?_ h
  · obtain ⟨hP, _, ⟨adapterInstance, rfl⟩, hreach⟩ := hsim
    exact ⟨hP, adapterInstance, hreach⟩
  · rintro _ ⟨adapterInstance, dbg, contents, rfl⟩
    exact ⟨⟨Gate.initial adapterInstance dbg contents,
      Coherent.initial adapterInstance dbg contents⟩, adapterInstance, rfl⟩
  · rintro a action b ⟨hgate, hcoherent⟩ ⟨_, ⟨adapterInstance, rfl⟩, hreach⟩ hallowed hs
    have hunique := (Records.reachable ⟨adapterInstance, hreach⟩).unique
    obtain ⟨hcoherent', hsimulates⟩ := step_simulates hgate hcoherent hunique
      (fun heq => hrestart a (heq ▸ hallowed)) hs
    exact ⟨⟨hgate.step hs, hcoherent'⟩, hsimulates⟩

/-- A run of the adapter is a run of the machine. -/
theorem path_simulated {C : Contract Adapter Action}
    (hrestart : ∀ a, C a (.setStopping false) → restartable a.machine) {a b : Adapter}
    (ha : Reachable system C a) (hp : Steps system C a b) :
    Relation.ReflTransGen (Machine.Step restartable) a.machine b.machine := by
  refine Steps.simulated machine (Machine.Step restartable) ?_ ha hp
  intro a action b hr hallowed hs
  obtain ⟨⟨hgate, hcoherent⟩, hreach⟩ := reachable_simulated hrestart hr
  exact (step_simulates hgate hcoherent (Records.reachable hreach).unique
    (fun heq => hrestart a (heq ▸ hallowed)) hs).2

/-- Whatever StorPort does, the machine is reachable with restarts in any state. -/
theorem reachable_anywhere {C : Contract Adapter Action} {a : Adapter} (h : Reachable system C a) :
    a.machine.Reachable Machine.anywhere :=
  (reachable_simulated (fun _ _ => trivial) h).2

theorem path_anywhere {C : Contract Adapter Action} {a b : Adapter} (h : Reachable system C a)
    (hp : Steps system C a b) :
    Relation.ReflTransGen (Machine.Step Machine.anywhere) a.machine b.machine :=
  path_simulated (fun _ _ => trivial) h hp

theorem restart_beforeTeardown (a : Adapter)
    (h : noRestartDuringTeardown a (.setStopping false)) : Machine.beforeTeardown a.machine := by
  have hteardown : a.teardown = .notStarted := h rfl
  unfold Machine.beforeTeardown machine machineWith
  simp only [hteardown, Teardown.closing]

/-- Under the contract restarts happen before teardown only. -/
theorem reachable_beforeTeardown {a : Adapter} (h : Reachable system noRestartDuringTeardown a) :
    a.machine.Reachable Machine.beforeTeardown :=
  (reachable_simulated restart_beforeTeardown h).2

theorem path_beforeTeardown {a b : Adapter} (h : Reachable system noRestartDuringTeardown a)
    (hp : Steps system noRestartDuringTeardown a b) :
    Relation.ReflTransGen (Machine.Step Machine.beforeTeardown) a.machine b.machine :=
  path_simulated restart_beforeTeardown h hp

/-! ## Before teardown -/

theorem started_teardown {a a' : Adapter} (h : Started a a') : a'.teardown = a.teardown := by
  cases h <;> rfl

theorem advanceTeardown_notStarted {a a' : Adapter} {workerBusy : Bool}
    (h : a.advanceTeardown workerBusy = some a') : a'.teardown ≠ .notStarted := by
  unfold advanceTeardown at h
  cases hteardown : a.teardown with
  | notStarted | waitForIdle | waitForLunIo =>
    simp only [hteardown] at h
    split at h
    · cases h
      exact Teardown.noConfusion
    · cases h
  | firstStopping =>
    simp only [hteardown] at h
    split at h <;>
    · cases h
      exact Teardown.noConfusion
  | releaseWorker =>
    simp only [hteardown] at h
    split at h
    · cases h
      rw [hteardown]
      exact Teardown.noConfusion
    · cases h
      exact Teardown.noConfusion
  | done =>
    simp only [hteardown] at h
    cases h
  | closeAdmission | idleObserved | markAllStopping | readTarget | detach | freePool | readRemoved
  | finalize | invalidate =>
    simp only [hteardown] at h
    cases h
    exact Teardown.noConfusion

/-- Teardown starts once and for all. -/
theorem step_notStarted {a a' : Adapter} {action : Action} (hgate : a.Gate)
    (hs : step a action = some a') (h : a'.teardown = .notStarted) : a.teardown = .notStarted := by
  cases action with
  | startIo srb now =>
    simp only [step] at hs
    split at hs
    · cases hs
      rwa [started_teardown (startIo_started a srb now)] at h
    · cases hs
  | command i =>
    simp only [step] at hs
    split at hs
    · cases hs
      unfold advanceCommand at h
      split at h <;> exact h
    · cases hs
  | completeRequest i =>
    simp only [step] at hs
    split at hs
    · cases hs
      exact h
    · cases hs
  | submission i granted now =>
    obtain ⟨s, b, next, _, hadvance, heq⟩ := step_submission hgate hs
    subst heq
    rw [← (advance_advanced hadvance).teardown]
    exact h
  | setStopping stopping =>
    cases hs
    exact h
  | teardown workerBusy => exact absurd h (advanceTeardown_notStarted hs)

/-- Until teardown starts every run keeps the contract. -/
theorem reachable_notStarted {C : Contract Adapter Action} {a : Adapter}
    (h : Reachable system C a) (hteardown : a.teardown = .notStarted) :
    Reachable system noRestartDuringTeardown a := by
  induction h with
  | initial h => exact Reachable.initial h
  | step hr ha hs ih =>
    have hbefore := step_notStarted (Gate.reachable hr) hs hteardown
    exact Reachable.step (ih hbefore) (fun _ => hbefore) hs

end Adapter

end WispDisk
