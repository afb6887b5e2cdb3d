import WispDisk.Guarantees.Schedules
import WispDisk.Lifecycle.Results
import WispDisk.Lifecycle.Confinement
import WispDisk.Lifecycle.Backing

/-! What a failed `CreateDisk` leaves behind. Its two sections of `LunStore` change nothing when they
refuse, its allocation is freed on the way out, and its record fails without ever having named a
disk. The gate keeps every other mutation out until then. -/
namespace WispDisk
open ManagementController Transition SlotTable
set_option autoImplicit false

/-! ## The record of an unfinished create -/

/-- Until it succeeds a create names no disk. -/
def OperationRecord.Unnamed (r : OperationRecord) : Prop :=
  r.mutation = wispDiskControlCreateDisk → r.state = .reserved ∨ r.state = .pending →
    r.deviceId = 0

namespace OperationRecord.Unnamed

theorem of_final {r : OperationRecord}
    (h : r.state = .succeeded ∨ r.state = .failed ∨ r.state = .deleted) : r.Unnamed := by
  intro _ hopen
  rcases h with h | h | h <;> rw [h] at hopen <;> simp at hopen

theorem bound {r : OperationRecord} (h : r.Unnamed) {command : MutationCommand}
    (hstate : r.state = .reserved) (hmutation : r.mutation = command.mutation) :
    (boundRecord r command).Unnamed := by
  intro hcreate _
  have hkind : command.mutation = wispDiskControlCreateDisk := hmutation.symm.trans hcreate
  show (if command.mutation = wispDiskControlDeleteDisk then _ else r.deviceId) = 0
  rw [if_neg (by rw [hkind]; decide)]
  exact h hcreate (Or.inl hstate)

theorem markDeleted {r : OperationRecord} (h : r.Unnamed) (deviceId : ULONG) :
    (ManagementController.markDeleted deviceId r).Unnamed := by
  unfold ManagementController.markDeleted
  split
  · exact of_final (Or.inr (Or.inr rfl))
  · exact h

theorem resolved (snapshot : OperationRecord) (status : NTSTATUS)
    (created : Option (ULONG × UCHAR)) : (resolvedRecord snapshot status created).Unnamed := by
  apply of_final
  rw [resolvedRecord_state]
  split
  · exact Or.inl rfl
  · exact Or.inr (Or.inl rfl)

end OperationRecord.Unnamed

theorem Failing.unnamed {operations operations' : Fin kMaximumOperationCount → OperationRecord}
    {command : MutationCommand} (h : Failing operations command operations')
    (hall : ∀ i, (operations i).Unnamed) (i : Fin kMaximumOperationCount) :
    (operations' i).Unnamed := by
  cases h with
  | legacy | missing => exact hall i
  | failed hkind j hid hzero status hstatus =>
    refine forall_update operations (fun _ r => r.Unnamed) ?_ hall i
    exact OperationRecord.Unnamed.of_final (Or.inr (Or.inl rfl))

namespace Machine

variable {restartable : Machine → Prop} {c c' : Machine}

theorem Step.unnamed (hs : c.Step restartable c') (h : ∀ i, (c.operations i).Unnamed)
    (i : Fin kMaximumOperationCount) : (c'.operations i).Unnamed := by
  cases hs with
  | reserved j mutation =>
    refine forall_update c.operations (fun _ r => r.Unnamed) ?_ h i
    exact fun _ _ => rfl
  | admittedReserved command j hopen hidle hkind hvalid hinstance hid hzero hmutation hstate =>
    refine forall_update c.operations (fun _ r => r.Unnamed) ?_ h i
    exact (h j).bound hstate hmutation
  | queueFailed command htask operations hfail => exact hfail.unnamed h i
  | rejected command htask hkind operations hfail => exact hfail.unnamed h i
  | published command snapshot correlation status created j htask =>
    refine forall_update c.operations (fun _ r => r.Unnamed) ?_ h i
    exact OperationRecord.Unnamed.resolved snapshot status created
  | workerFinalized command work l => exact (h i).markDeleted work.target
  | teardownFinalized l deviceId => exact (h i).markDeleted deviceId
  | workerDrained command work l stage next d htask hdrain => cases hdrain <;> exact h i
  | teardownDrained l stage next d hclosing hdrain => cases hdrain <;> exact h i
  | _ => exact h i

theorem Reachable.unnamed (hr : c.Reachable restartable) (i : Fin kMaximumOperationCount) :
    (c.operations i).Unnamed := by
  obtain ⟨adapterInstance, hrun⟩ := hr
  induction hrun generalizing i with
  | refl => exact fun _ _ => rfl
  | tail _ hs ih => exact hs.unnamed ih i

end Machine

/-! ## The store -/

/-- The LUN is as it was, apart from the counting of its I/O. -/
structure Lun.SameDisk (l l' : Lun) : Prop where
  state : l'.state = l.state
  deviceId : l'.deviceId = l.deviceId
  lun : l'.lun = l.lun
  mediaKind : l'.mediaKind = l.mediaKind
  requestedDriveLetter : l'.requestedDriveLetter = l.requestedDriveLetter
  sizeBytes : l'.sizeBytes = l.sizeBytes
  createOperationId : l'.createOperationId = l.createOperationId
  backingStore : l'.backingStore = l.backingStore

namespace Lun.SameDisk

theorem refl (l : Lun) : l.SameDisk l := ⟨rfl, rfl, rfl, rfl, rfl, rfl, rfl, rfl⟩

theorem trans {l l' l'' : Lun} (h : l.SameDisk l') (h' : l'.SameDisk l'') : l.SameDisk l'' where
  state := h'.state.trans h.state
  deviceId := h'.deviceId.trans h.deviceId
  lun := h'.lun.trans h.lun
  mediaKind := h'.mediaKind.trans h.mediaKind
  requestedDriveLetter := h'.requestedDriveLetter.trans h.requestedDriveLetter
  sizeBytes := h'.sizeBytes.trans h.sizeBytes
  createOperationId := h'.createOperationId.trans h.createOperationId
  backingStore := h'.backingStore.trans h.backingStore

theorem acquired (l : Lun) : l.SameDisk l.acquired := ⟨rfl, rfl, rfl, rfl, rfl, rfl, rfl, rfl⟩

theorem released (l : Lun) : l.SameDisk l.released := by
  unfold Lun.released
  split
  · exact refl l
  · exact ⟨rfl, rfl, rfl, rfl, rfl, rfl, rfl, rfl⟩

end Lun.SameDisk

/-- The store is as it was, apart from the counting of I/O. -/
structure SameStore (ext ext' : AdapterExtension) : Prop where
  luns : ∀ l, (ext.luns l).SameDisk (ext'.luns l)
  total : ext'.totalAllocatedBytes = ext.totalAllocatedBytes
  nextDeviceId : ext'.nextDeviceId = ext.nextDeviceId

namespace SameStore

theorem refl (ext : AdapterExtension) : SameStore ext ext := ⟨fun _ => .refl _, rfl, rfl⟩

theorem trans {ext ext' ext'' : AdapterExtension} (h : SameStore ext ext')
    (h' : SameStore ext' ext'') : SameStore ext ext'' where
  luns l := (h.luns l).trans (h'.luns l)
  total := h'.total.trans h.total
  nextDeviceId := h'.nextDeviceId.trans h.nextDeviceId

end SameStore

/-- The stages of `CreateDisk`, and the one behind it. -/
def Stage.creates : Stage → Bool
  | .select _ | .allocate _ _ | .commit _ _ _ | .free _ _ _ | .publish _ _ _ => true
  | _ => false

/-- While a create is in flight and takes no step, nothing changes the store. -/
theorem Machine.Step.keepsStore {c c' : Machine} (hs : c.Step Machine.beforeTeardown c')
    (hquiet : Quiet c.stopping c.task c.closing) {command : MutationCommand} {stage : Stage}
    (htask : c.task = some ⟨command, stage⟩) (hcreates : stage.creates = true)
    (hkept : c'.task = c.task) :
    (∀ l, (c.luns l).SameDisk (c'.luns l)) ∧ c'.total = c.total ∧
      c'.nextDeviceId = c.nextDeviceId := by
  have hidle : c.closing.idleReached = false :=
    hquiet.not_idle (by rw [htask]; exact Option.some_ne_none _)
  have hother : ∀ {command' : MutationCommand} {stage' : Stage},
      c.task = some ⟨command', stage'⟩ → stage'.creates = true := by
    intro command' stage' htask'
    rw [htask] at htask'
    cases htask'
    exact hcreates
  cases hs with
  | committed command' work l allocation htask' =>
    rw [htask'] at hkept
    cases hkept
  | marked command' work l htask' => cases hother htask'
  | workerDrained command' work l stage' next d htask' hdrain => cases hother htask'
  | workerFinalized command' work l htask' => cases hother htask'
  | published command' snapshot correlation status created i htask' =>
    rw [htask'] at hkept
    cases hkept
  | acquired l backing =>
    exact ⟨relate_update Lun.SameDisk.refl (Lun.SameDisk.acquired _), rfl, rfl⟩
  | released i lease =>
    exact ⟨relate_update Lun.SameDisk.refl (Lun.SameDisk.released _), rfl, rfl⟩
  | markedAll hclosing =>
    rw [hclosing] at hidle
    cases hidle
  | teardownDrained l stage' next d hclosing hdrain =>
    rw [hclosing] at hidle
    cases hidle
  | teardownFinalized l deviceId hclosing =>
    rw [hclosing] at hidle
    cases hidle
  | _ => exact ⟨fun _ => .refl _, rfl, rfl⟩

/-! ## The call -/

/-- `CreateDisk` of that work, not yet committed and with no answer but a failure. -/
def Phase.creating (work : Work) : Phase → Prop
  | .selectLun w | .allocate w _ | .zeroMemory w _ _ | .commit w _ _ => w = work
  | .freeAllocation w _ status => w = work ∧ ntSuccess status = false
  | .publish w status created => w = work ∧ created = none ∧ ntSuccess status = false
  | _ => False

/-- The allocation that the call still owns. -/
def Phase.owned : Phase → List Allocation
  | .zeroMemory _ _ allocation | .commit _ _ allocation | .freeAllocation _ allocation _ =>
    [allocation]
  | _ => []

/-- Behind the call, or committed. -/
def Phase.decided : Phase → Prop
  | .publish _ status _ => ntSuccess status = true
  | .respond | .traceResponse _ | .complete _ | .notifyBus _ | .endManagement => True
  | _ => False

namespace Adapter

/-- What a step of the call leaves: the same extension, and an allocation that is owned or freed. -/
structure Neutral (a : Adapter) (s : Submission) (work : Work) (b : Adapter) (s' : Submission) :
    Prop where
  creating : s'.phase.creating work
  extension : b.extension = a.extension
  kept : ∀ k, k ∈ a.pool.frees ∨ k ∈ s.phase.owned → k ∈ b.pool.frees ∨ k ∈ s'.phase.owned
  allocated : ∀ k, a.pool.next ≤ k → k < b.pool.next → k ∈ s'.phase.owned

/-- A step of the call is neutral, or it commits or answers. -/
theorem advance_creating {a b : Adapter} {s : Submission} {granted : Bool} {now : LONGLONG}
    {next : Option Submission} {work : Work} (hcreating : s.phase.creating work)
    (h : advance a s granted now = some (b, next)) :
    ∃ s', next = some s' ∧ s'.id = s.id ∧ (Neutral a s work b s' ∨ s'.phase.decided) := by
  have hstill : ∀ {s' : Submission}, s.phase.owned = [] → s'.phase.creating work →
      Neutral a s work a s' := by
    intro s' howned hcreating'
    refine ⟨hcreating', rfl, fun k hk => Or.inl (hk.resolve_right ?_), fun k hle hlt => ?_⟩
    · rw [howned]
      exact List.not_mem_nil
    · exact absurd hlt (Nat.not_lt.mpr hle)
  unfold advance at h
  cases hphase : s.phase with
  | selectLun w =>
    rw [hphase] at hcreating
    simp only [hphase] at h
    split at h
    · rename_i status hselect
      cases h
      exact ⟨_, rfl, rfl, Or.inl (hstill (by rw [hphase]; rfl)
        ⟨hcreating, rfl, LunStore.selectAvailableLun_error hselect⟩)⟩
    · cases h
      exact ⟨_, rfl, rfl, Or.inl (hstill (by rw [hphase]; rfl) hcreating)⟩
  | allocate w selected =>
    rw [hphase] at hcreating
    simp only [hphase] at h
    split at h
    · cases h
      refine ⟨_, rfl, rfl, Or.inl ⟨hcreating, rfl, fun k hk => Or.inl (hk.resolve_right ?_),
        fun k hle hlt => ?_⟩⟩
      · rw [hphase]
        exact List.not_mem_nil
      · have heq : k = a.pool.next := Nat.le_antisymm (Nat.lt_succ_iff.mp hlt) hle
        rw [heq]
        exact List.mem_singleton_self _
    · cases h
      exact ⟨_, rfl, rfl, Or.inl (hstill (by rw [hphase]; rfl)
        ⟨hcreating, rfl, ntSuccess_insufficientResources⟩)⟩
  | zeroMemory w selected allocation =>
    rw [hphase] at hcreating
    simp only [hphase] at h
    cases h
    refine ⟨_, rfl, rfl, Or.inl ⟨hcreating, rfl, fun k hk => ?_, fun k hle hlt => ?_⟩⟩
    · rw [hphase] at hk
      exact hk
    · exact absurd hlt (Nat.not_lt.mpr hle)
  | commit w selected allocation =>
    rw [hphase] at hcreating
    simp only [hphase] at h
    split at h
    · rename_i status hcommit
      cases h
      refine ⟨_, rfl, rfl, Or.inl ⟨⟨hcreating, LunStore.commitNewLun_error hcommit⟩, rfl,
        fun k hk => ?_, fun k hle hlt => ?_⟩⟩
      · rw [hphase] at hk
        exact hk
      · exact absurd hlt (Nat.not_lt.mpr hle)
    · cases h
      exact ⟨_, rfl, rfl, Or.inr rfl⟩
  | freeAllocation w allocation status =>
    rw [hphase] at hcreating
    simp only [hphase] at h
    cases h
    refine ⟨_, rfl, rfl, Or.inl ⟨⟨hcreating.1, rfl, hcreating.2⟩, rfl, fun k hk => Or.inl ?_,
      fun k hle hlt => ?_⟩⟩
    · rw [hphase] at hk
      exact List.mem_append.mpr hk
    · exact absurd hlt (Nat.not_lt.mpr hle)
  | publish w status created =>
    simp only [hphase] at h
    cases h
    refine ⟨_, rfl, ?_, Or.inr ?_⟩
    · unfold publish
      cases w <;> rfl
    · unfold publish
      cases w <;> trivial
  | _ =>
    rw [hphase] at hcreating
    exact hcreating.elim

theorem advance_decided {a b : Adapter} {s : Submission} {granted : Bool} {now : LONGLONG}
    {next : Option Submission} (hdecided : s.phase.decided)
    (h : advance a s granted now = some (b, next)) :
    ∀ s', next = some s' → s'.phase.decided := by
  intro s' hnext
  unfold advance at h
  cases hphase : s.phase with
  | publish w status created =>
    simp only [hphase] at h
    cases h
    cases hnext
    unfold publish
    cases w <;> trivial
  | complete m =>
    simp only [hphase] at h
    cases h
    cases hnext
    simp only
    split <;> trivial
  | respond | traceResponse | notifyBus =>
    simp only [hphase] at h
    cases h
    cases hnext
    trivial
  | endManagement =>
    simp only [hphase] at h
    cases h
    cases hnext
  | _ =>
    rw [hphase] at hdecided
    exact hdecided.elim

theorem advanceTeardown_frees {a b : Adapter} {workerBusy : Bool}
    (h : a.advanceTeardown workerBusy = some b) : ∀ k ∈ a.pool.frees, k ∈ b.pool.frees := by
  intro k hk
  unfold advanceTeardown at h
  cases hteardown : a.teardown with
  | notStarted | waitForIdle | waitForLunIo =>
    simp only [hteardown] at h
    split at h
    · cases h
      exact hk
    · cases h
  | firstStopping =>
    simp only [hteardown] at h
    split at h <;>
    · cases h
      exact hk
  | releaseWorker =>
    simp only [hteardown] at h
    split at h <;>
    · cases h
      exact hk
  | freePool lun backing =>
    simp only [hteardown] at h
    cases h
    exact List.mem_append_left _ hk
  | done =>
    simp only [hteardown] at h
    cases h
  | _ =>
    simp only [hteardown] at h
    cases h
    exact hk

/-- The steps of the other threads leave the submission in flight alone. -/
theorem step_otherThread {a b : Adapter} {action : Action} (hgate : a.Gate) {s : Submission}
    (hlist : a.submissions = [s]) (hs : Adapter.step a action = some b)
    (hother : ∀ i granted now, action ≠ .submission i granted now) :
    b.submissions = [s] ∧ ∀ k ∈ a.pool.frees, k ∈ b.pool.frees := by
  cases action with
  | startIo srb now =>
    simp only [Adapter.step] at hs
    split at hs
    · cases hs
      have hstarted := startIo_started a srb now
      generalize a.startIo srb now = b at hstarted ⊢
      cases hstarted with
      | kept | answered | leased => exact ⟨hlist, fun k hk => hk⟩
      | admitted ext control command hadmitted =>
        have hnone := hgate.none_in_flight hadmitted.idle
        rw [hlist] at hnone
        cases hnone
    · cases hs
  | command i =>
    simp only [Adapter.step] at hs
    split at hs
    · cases hs
      unfold advanceCommand
      split <;> exact ⟨hlist, fun k hk => hk⟩
    · cases hs
  | completeRequest i =>
    simp only [Adapter.step] at hs
    split at hs
    · cases hs
      exact ⟨hlist, fun k hk => hk⟩
    · cases hs
  | submission i granted now => exact absurd rfl (hother i granted now)
  | setStopping stopping =>
    cases hs
    exact ⟨hlist, fun k hk => hk⟩
  | teardown workerBusy =>
    exact ⟨(advanceTeardown_aside hs).submissions.trans hlist, advanceTeardown_frees hs⟩

/-! ## The run -/

/-- A step of the work item of an SRB, and the states around it. -/
structure WorkStep where
  srb : ℕ
  before : Adapter
  after : Adapter

def workSteps (a : Adapter) (action : Action) (b : Adapter) : List WorkStep :=
  match action with
  | .submission i _ _ => a.submissions[i]?.toList.map fun s => ⟨s.id, a, b⟩
  | _ => []

theorem workSteps_submission {a b : Adapter} {s : Submission} (hgate : a.Gate)
    (hlist : a.submissions = [s]) {i : ℕ} {granted : Bool} {now : LONGLONG}
    (hs : Adapter.step a (.submission i granted now) = some b) :
    workSteps a (.submission i granted now) b = [⟨s.id, a, b⟩] := by
  unfold workSteps
  simp only
  cases hget : a.submissions[i]? with
  | none =>
    simp only [Adapter.step, hget] at hs
    cases hs
  | some s' =>
    obtain ⟨_, hlist'⟩ := hgate.only hget
    rw [hlist] at hlist'
    rw [(List.cons.inj hlist').1]
    rfl

theorem workSteps_other {a b : Adapter} {action : Action}
    (hother : ∀ i granted now, action ≠ .submission i granted now) :
    workSteps a action b = [] := by
  cases action with
  | submission i granted now => exact absurd rfl (hother i granted now)
  | _ => rfl

/-- The call has left no trace so far. -/
structure Attempt (id : ℕ) (work : Work) (b : Adapter) (log : List WorkStep) (s : Submission) :
    Prop where
  alone : b.submissions = [s]
  same : s.id = id
  creating : s.phase.creating work
  neutral : ∀ e ∈ log, e.srb = id → e.after.extension = e.before.extension
  freed : ∀ e ∈ log, e.srb = id → ∀ k, e.before.pool.next ≤ k → k < e.after.pool.next →
    k ∈ b.pool.frees ∨ k ∈ s.phase.owned

/-- The call is over, and its SRB does not come back. -/
structure Over (id : ℕ) (b : Adapter) : Prop where
  admitted : id ∈ b.history.admitted
  decided : ∀ s ∈ b.submissions, s.id = id → s.phase.decided

variable {id : ℕ} {work : Work} {b c : Adapter} {log : List WorkStep} {s : Submission}

theorem Attempt.served (h : Attempt id work b log s) (hgate : b.Gate) {i : ℕ} {granted : Bool}
    {now : LONGLONG} (hs : Adapter.step b (.submission i granted now) = some c) :
    (∃ s', Attempt id work c (log ++ [⟨s.id, b, c⟩]) s' ∧ c.extension = b.extension) ∨
      Over id c := by
  obtain ⟨s₁, d, next, hlist, hadvance, hc⟩ := step_submission hgate hs
  have hsame : s₁ = s := by
    rw [h.alone] at hlist
    exact (List.cons.inj hlist).1.symm
  subst hsame
  obtain ⟨s', rfl, hid, hneutral | hdecided⟩ := advance_creating h.creating hadvance
  · refine Or.inl ⟨s', ⟨by rw [hc]; rfl, hid.trans h.same, hneutral.creating, fun e he hsrb => ?_,
      fun e he hsrb k hle hlt => ?_⟩, by rw [hc]; exact hneutral.extension⟩
    · rcases List.mem_append.mp he with he | he
      · exact h.neutral e he hsrb
      · rw [List.mem_singleton.mp he, hc]
        exact hneutral.extension
    · have hfrees : c.pool.frees = d.pool.frees := by rw [hc]
      rw [hfrees]
      rcases List.mem_append.mp he with he | he
      · exact hneutral.kept k (h.freed e he hsrb k hle hlt)
      · rw [List.mem_singleton.mp he] at hle hlt
        rw [hc] at hlt
        exact Or.inr (hneutral.allocated k hle hlt)
  · refine Or.inr ⟨?_, fun s'' hs'' _ => ?_⟩
    · have hadmitted : c.history.admitted = b.history.admitted := by
        rw [hc]
        exact (advance_advanced hadvance).admitted
      rw [hadmitted, hgate.logged, h.alone, ← h.same]
      exact List.mem_append_right _ (List.mem_singleton_self _)
    · rw [hc] at hs''
      rw [List.mem_singleton.mp hs'']
      exact hdecided

theorem Attempt.aside (h : Attempt id work b log s) (hgate : b.Gate) {action : Action}
    (hs : Adapter.step b action = some c)
    (hother : ∀ i granted now, action ≠ .submission i granted now) :
    Attempt id work c (log ++ []) s := by
  obtain ⟨hlist, hfrees⟩ := step_otherThread hgate h.alone hs hother
  rw [List.append_nil]
  exact ⟨hlist, h.same, h.creating, h.neutral, fun e he hsrb k hle hlt =>
    (h.freed e he hsrb k hle hlt).imp_left (hfrees k)⟩

theorem Over.step (h : Over id b) (hgate : b.Gate) {action : Action}
    (hs : Adapter.step b action = some c) : Over id c := by
  have hsame : c.submissions = b.submissions → c.history.admitted = b.history.admitted →
      Over id c := fun hsubmissions hadmitted =>
    ⟨hadmitted ▸ h.admitted, hsubmissions ▸ h.decided⟩
  cases action with
  | startIo srb now =>
    simp only [Adapter.step] at hs
    split at hs
    · cases hs
      have hstarted := startIo_started b srb now
      generalize b.startIo srb now = d at hstarted hsame ⊢
      cases hstarted with
      | kept | answered | leased => exact hsame rfl rfl
      | admitted ext control command hadmitted =>
        refine ⟨List.mem_append_left _ h.admitted, fun s hs hid => ?_⟩
        rcases List.mem_append.mp hs with hs | hs
        · exact h.decided s hs hid
        · rw [List.mem_singleton.mp hs] at hid
          have hbelow := hgate.below id h.admitted
          rw [← hid] at hbelow
          exact absurd hbelow (Nat.lt_irrefl _)
    · cases hs
  | command i =>
    simp only [Adapter.step] at hs
    split at hs
    · cases hs
      unfold advanceCommand
      split
      · exact ⟨h.admitted, h.decided⟩
      · exact ⟨h.admitted, h.decided⟩
    · cases hs
  | completeRequest i =>
    simp only [Adapter.step] at hs
    split at hs
    · cases hs
      exact hsame rfl rfl
    · cases hs
  | submission i granted now =>
    obtain ⟨s, d, next, hlist, hadvance, hc⟩ := step_submission hgate hs
    have hkept := advance_advanced hadvance
    rw [hc]
    refine ⟨hkept.admitted ▸ h.admitted, fun s' hs' hid => ?_⟩
    cases next with
    | none => exact absurd hs' List.not_mem_nil
    | some s'' =>
      rw [List.mem_singleton.mp hs'] at hid ⊢
      have hdecided : s.phase.decided :=
        h.decided s (hlist ▸ List.mem_singleton_self s) ((hkept.continued s'' rfl).1.symm.trans hid)
      exact advance_decided hdecided hadvance s'' rfl
  | setStopping stopping =>
    cases hs
    exact hsame rfl rfl
  | teardown workerBusy =>
    exact hsame (advanceTeardown_aside hs).submissions (advanceTeardown_aside hs).admitted

/-- The steps of the other threads leave the store of a create in flight alone. -/
theorem Attempt.keepsStore (h : Attempt id work b log s)
    (hreach : Reachable system noRestartDuringTeardown b) {action : Action}
    (hallowed : noRestartDuringTeardown b action) (hs : Adapter.step b action = some c)
    (hother : ∀ i granted now, action ≠ .submission i granted now) :
    SameStore b.extension c.extension := by
  obtain ⟨⟨hgate, hcoherent⟩, hmachine⟩ := reachable_simulated restart_beforeTeardown hreach
  have hlist := (step_otherThread hgate h.alone hs hother).1
  have htask : b.machine.task = some ⟨s.command, s.phase.stage⟩ := by
    rw [machine_active h.alone]
    rfl
  have htask' : c.machine.task = b.machine.task := by
    rw [machine_active h.alone, machine_active hlist]
    rfl
  have hcreates : s.phase.stage.creates = true := by
    have hcreating := h.creating
    cases hphase : s.phase <;> rw [hphase] at hcreating <;> first
      | rfl
      | exact hcreating.elim
  have hsimulates := (step_simulates hgate hcoherent (Records.reachable hmachine).unique
    (fun heq => restart_beforeTeardown b (heq ▸ hallowed)) hs).2
  rcases (Relation.reflGen_iff _ _ _).mp hsimulates with heq | hstep
  · have hluns : c.extension.luns = b.extension.luns := congrArg Machine.luns heq
    refine ⟨fun l => ?_, congrArg Machine.total heq, congrArg Machine.nextDeviceId heq⟩
    rw [hluns]
    exact .refl _
  · obtain ⟨hluns, htotal, hnext⟩ :=
      hstep.keepsStore (Quiet.reachable hmachine) htask hcreates htask'
    exact ⟨hluns, htotal, hnext⟩

/-- Where a call of `CreateDisk` is, as long as it has not failed otherwise. -/
theorem createDisk_attempted {C : Contract Adapter Action} {a : Adapter} (ha : Reachable system C a)
    (hlist : a.submissions = [s]) (hstart : s.phase = .selectLun work) {t : Adapter × List WorkStep}
    (hrun : Steps (system.logged workSteps) (C.logged WorkStep) (a, []) t) :
    (∃ s', Attempt s.id work t.1 t.2 s' ∧
      ((∀ a action, C a action → noRestartDuringTeardown a action) →
        SameStore a.extension t.1.extension)) ∨ Over s.id t.1 := by
  induction hrun with
  | refl =>
    refine Or.inl ⟨s, ⟨hlist, rfl, ?_, fun e he => absurd he List.not_mem_nil,
      fun e he => absurd he List.not_mem_nil⟩, fun _ => .refl _⟩
    rw [hstart]
    rfl
  | @step t u action hpath hallowed hs ih =>
    obtain ⟨hstep, hlog⟩ := System.logged_step hs
    have hreach : Reachable system C t.1 := ha.path hpath.unlogged
    have hgate := Gate.reachable hreach
    rcases ih with ⟨s', hattempt, hstore⟩ | hover
    · by_cases hown : ∃ i granted now, action = .submission i granted now
      · obtain ⟨i, granted, now, rfl⟩ := hown
        rw [hlog, workSteps_submission hgate hattempt.alone hstep]
        refine (hattempt.served hgate hstep).imp_left ?_
        rintro ⟨s'', hattempt', hextension⟩
        refine ⟨s'', hattempt', fun hC => ?_⟩
        rw [hextension]
        exact hstore hC
      · have hother : ∀ i granted now, action ≠ .submission i granted now :=
          fun i granted now heq => hown ⟨i, granted, now, heq⟩
        rw [hlog, workSteps_other hother]
        refine Or.inl ⟨s', hattempt.aside hgate hstep hother, fun hC => ?_⟩
        exact (hstore hC).trans
          (hattempt.keepsStore (hreach.mono hC) (hC _ _ hallowed) hstep hother)
    · exact Or.inr (hover.step hgate hstep)

/-- Publishing the failure of a reserved create fails its record. -/
theorem publish_failedCreate {C : Contract Adapter Action} (hb : Reachable system C b)
    (hlist : b.submissions = [s]) {snapshot : OperationRecord} {correlation : ULONGLONG}
    {status : NTSTATUS} (hphase : s.phase = .publish (.reserved snapshot correlation) status none)
    (hcreate : snapshot.mutation = wispDiskControlCreateDisk) (hfailed : ntSuccess status = false)
    {i : ℕ} {granted : Bool} {now : LONGLONG}
    (hs : Adapter.step b (.submission i granted now) = some c) :
    SameStore b.extension c.extension ∧
      ∃ j, (b.extension.operations j).id = s.command.identity.operationId ∧
        (b.extension.operations j).deviceId = 0 ∧
        c.extension.operations =
          Function.update b.extension.operations j
            { b.extension.operations j with state := .failed, result := status } := by
  have hmachine := reachable_anywhere hb
  have hrecords := Records.reachable hmachine
  have htask : b.machine.task = some ⟨s.command, .publish (.reserved snapshot correlation) status none⟩ := by
    rw [machine_active hlist]
    show some (Task.mk s.command s.phase.stage) = _
    rw [hphase]
    rfl
  have hflight := hrecords.inFlight _ _ htask
  have hreserved : s.command.isReserved = true := by
    by_contra hlegacy
    have heq := hflight.legacyWork (Bool.not_eq_true _ ▸ hlegacy) _ rfl
    unfold MutationCommand.legacyWork at heq
    split at heq <;> cases heq
  obtain ⟨j, hpending, hwork⟩ := hflight.pending hreserved rfl
  obtain ⟨_, heq⟩ := hwork _ rfl
  cases heq
  have hunnamed : (b.extension.operations j).deviceId = 0 :=
    hmachine.unnamed j hcreate (Or.inr hpending.state)
  obtain ⟨s₁, d, next, hlist', hadvance, hc⟩ := step_submission (Gate.reachable hb) hs
  rw [hlist] at hlist'
  cases hlist'
  unfold advance at hadvance
  simp only [hphase] at hadvance
  cases hadvance
  have hresolved : resolvedRecord (b.extension.operations j) status none =
      { b.extension.operations j with state := .failed, result := status } := by
    have hcreate' : (b.extension.operations j).mutation = wispDiskControlCreateDisk := hcreate
    unfold resolvedRecord
    simp only [hcreate', if_true, hfailed, Bool.false_eq_true, if_false]
  have hextension : c.extension = (publishOperationResult b.extension s.control
      (resolvedRecord (b.extension.operations j) status none) correlation now).1 := by
    rw [hc]
    rfl
  rw [hextension]
  have hzero : (b.extension.operations j).id ≠ 0 :=
    hrecords.id_ne_zero (i := j) (by rw [hpending.state]; exact OperationState.noConfusion)
  rcases publishOperationResult_spec b.extension s.control
      (resolvedRecord (b.extension.operations j) status none) correlation now with
    ⟨_, hmissing⟩ | ⟨k, hk, _, debug, hpublished, _⟩
  · rw [resolvedRecord_id] at hmissing
    exact absurd rfl (hmissing.resolve_left hzero j)
  · rw [resolvedRecord_id] at hk
    have hjk : j = k := hrecords.unique j k hzero hk.symm
    subst hjk
    rw [hpublished, hresolved]
    refine ⟨⟨fun l => ?_, rfl, rfl⟩, j, hpending.id, hunnamed, rfl⟩
    show (b.extension.luns l).SameDisk ((if _ then _ else b.extension.luns) l)
    rw [if_neg]
    · exact .refl _
    · rintro ⟨hsuccess, _⟩
      rw [show ntSuccess status = false from hfailed] at hsuccess
      cases hsuccess

/-- A create that fails leaves no trace: its steps change nothing, what it allocated is freed, and
it names no disk; the store is the one it was called on, and its record fails. -/
theorem failedCreate_leavesNoTrace {C : Contract Adapter Action} {a b : Adapter}
    {log : List WorkStep} {s s' : Submission} {work work' : Work} {status : NTSTATUS}
    {created : Option (ULONG × UCHAR)} (ha : Reachable system C a) (hs : s ∈ a.submissions)
    (hstart : s.phase = .selectLun work)
    (hrun : Steps (system.logged workSteps) (C.logged WorkStep) (a, []) (b, log))
    (hs' : s' ∈ b.submissions) (hid : s'.id = s.id)
    (hend : s'.phase = .publish work' status created) (hfailed : ntSuccess status = false) :
    work' = work ∧ created = none ∧
    (∀ e ∈ log, e.srb = s.id → e.after.extension = e.before.extension ∧
      ∀ k, e.before.pool.next ≤ k → k < e.after.pool.next → k ∈ b.pool.frees) ∧
    ((∀ a action, C a action → noRestartDuringTeardown a action) →
      SameStore a.extension b.extension) ∧
    ∀ snapshot correlation, work = .reserved snapshot correlation →
      ∀ i granted now c, step b (.submission i granted now) = some c →
        SameStore b.extension c.extension ∧
          ∃ j, (b.extension.operations j).id = s'.command.identity.operationId ∧
            (b.extension.operations j).deviceId = 0 ∧
            c.extension.operations = Function.update b.extension.operations j
              { b.extension.operations j with state := .failed, result := status } := by
  have hlist : a.submissions = [s] := by
    obtain ⟨i, hget⟩ := List.mem_iff_getElem?.mp hs
    exact ((Gate.reachable ha).only hget).2
  rcases createDisk_attempted ha hlist hstart hrun with ⟨s'', hattempt, hstore⟩ | hover
  · have hsame : s' = s'' := by
      have hmem : s' ∈ [s''] := hattempt.alone ▸ hs'
      exact List.mem_singleton.mp hmem
    subst hsame
    have hcreating := hattempt.creating
    rw [hend] at hcreating
    obtain ⟨rfl, rfl, _⟩ := hcreating
    refine ⟨rfl, rfl, fun e he hsrb => ⟨hattempt.neutral e he hsrb, fun k hle hlt => ?_⟩, hstore,
      ?_⟩
    · have hk := hattempt.freed e he hsrb k hle hlt
      rw [hend] at hk
      exact hk.resolve_right List.not_mem_nil
    · rintro snapshot correlation rfl i granted now c hstep
      have hshaped : (Stage.select (.reserved snapshot correlation)).shaped := by
        apply Shaped.reachable (reachable_anywhere ha) ⟨s.command, _⟩
        rw [machine_active hlist]
        show some (Task.mk s.command s.phase.stage) = _
        rw [hstart]
        rfl
      exact publish_failedCreate (ha.path hrun.unlogged) hattempt.alone hend
        (beq_iff_eq.mp hshaped) hfailed hstep
  · have hdecided := hover.decided s' hs' hid
    rw [hend] at hdecided
    rw [show ntSuccess status = true from hdecided] at hfailed
    cases hfailed

/-- A reserved create that has just been started. -/
def startedCreate : Adapter :=
  fresh.after ([.startIo (reserveSrb wispDiskControlCreateDisk) 0,
    .startIo (createReservedSrb 7 1 16777216 90) 0] ++ serve 4)

/-- The adapter stops between the selection and the commit. -/
def stopsMeanwhile : List Action := serve 3 ++ [.setStopping true] ++ serve 2

/-- The SRB of a call of `CreateDisk` that is about to select its LUN. -/
def selectingSrb (s : Submission) : Option (ℕ × Work) :=
  match s.phase with
  | .selectLun work => some (s.id, work)
  | _ => none

/-- The SRB of a call of `CreateDisk` or `DeleteDisk` that has failed, and its status. -/
def failingSrb (s : Submission) : Option (ℕ × NTSTATUS) :=
  match s.phase with
  | .publish _ status none => some (s.id, status)
  | _ => none

theorem failedCreate_leavesNoTrace_stopped :
    SameStore startedCreate.extension (startedCreate.after stopsMeanwhile).extension := by
  have ha : Reachable system noRestartDuringTeardown startedCreate :=
    reachable_after_kept (by decide +kernel) (by decide +kernel)
  have hpath : Steps system noRestartDuringTeardown startedCreate
      (startedCreate.after stopsMeanwhile) :=
    path_after (by decide +kernel) (by decide +kernel)
  obtain ⟨log, hrun⟩ := hpath.logged workSteps []
  have hstart : startedCreate.submissions.filterMap
      (fun s => (selectingSrb s).map Prod.fst) = [1] := by
    decide +kernel
  have hend : (startedCreate.after stopsMeanwhile).submissions.filterMap failingSrb =
      [(1, statusDeviceNotReady)] := by
    decide +kernel
  obtain ⟨s, hs, hselecting⟩ := List.mem_filterMap.mp (hstart ▸ List.mem_singleton_self 1)
  obtain ⟨s', hs', hfailing⟩ := List.mem_filterMap.mp
    (hend ▸ List.mem_singleton_self (1, statusDeviceNotReady))
  unfold selectingSrb at hselecting
  unfold failingSrb at hfailing
  split at hselecting
  · rename_i work hphase
    split at hfailing
    · rename_i work' status hphase'
      obtain ⟨hid', hstatus⟩ := Prod.mk.inj (Option.some.inj hfailing)
      have hid : s'.id = s.id := hid'.trans (Option.some.inj hselecting).symm
      have hfailed : ntSuccess status = false := hstatus ▸ ntSuccess_deviceNotReady
      exact (failedCreate_leavesNoTrace ha hs hphase hrun hs' hid hphase' hfailed).2.2.2.1
        fun _ _ h => h
    · cases hfailing
  · cases hselecting

end Adapter

end WispDisk
