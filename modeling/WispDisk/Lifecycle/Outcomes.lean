import WispDisk.Lifecycle.Disks

/-! What a reserved operation has done to the disks. A commit or removal belongs to an execution,
and the records say what happened: a Succeeded or Deleted create has its commit, a Succeeded delete
its removal, and a Failed operation has neither. No assumption on restarts is needed. -/
namespace WispDisk
open SlotTable
set_option autoImplicit false

/-- The disks committed and removed so far. -/
structure Effects where
  commits : List Commit
  removals : List Removal

def Machine.effects (c : Machine) : Effects where
  commits := c.commits
  removals := c.removals

namespace Effects

/-- Nothing was done for a reserved operation. -/
structure Untouched (e : Effects) (x : ULONGLONG) : Prop where
  commits : ∀ commit ∈ e.commits, commit.operation ≠ some x
  removals : ∀ removal ∈ e.removals, removal.operation ≠ some x

/-- The disk that a result reports was committed for the operation. -/
def CommittedAs (e : Effects) (x : ULONGLONG) (request : CreateRequest) (deviceId : ULONG)
    (lun : UCHAR) : Prop :=
  ∃ commit ∈ e.commits, commit.operation = some x ∧ commit.request = request ∧
    commit.deviceId = deviceId ∧ UInt8.ofNat commit.lun.val = lun

/-- The disk was removed for the operation. -/
def RemovedAs (e : Effects) (x : ULONGLONG) (deviceId : ULONG) : Prop :=
  ∃ removal ∈ e.removals, removal.operation = some x ∧ removal.deviceId = deviceId

def commit (e : Effects) (new : Commit) : Effects := { e with commits := e.commits ++ [new] }

def remove (e : Effects) (new : Removal) : Effects := { e with removals := e.removals ++ [new] }

variable {e : Effects} {x : ULONGLONG} {request : CreateRequest} {deviceId : ULONG} {lun : UCHAR}

theorem Untouched.commit (h : e.Untouched x) {new : Commit} (hnew : new.operation ≠ some x) :
    (e.commit new).Untouched x where
  commits := fun c hc => by
    rcases List.mem_append.mp hc with hc | hc
    · exact h.commits c hc
    · exact List.mem_singleton.mp hc ▸ hnew
  removals := h.removals

theorem Untouched.remove (h : e.Untouched x) {new : Removal} (hnew : new.operation ≠ some x) :
    (e.remove new).Untouched x where
  commits := h.commits
  removals := fun r hr => by
    rcases List.mem_append.mp hr with hr | hr
    · exact h.removals r hr
    · exact List.mem_singleton.mp hr ▸ hnew

theorem CommittedAs.commit (h : e.CommittedAs x request deviceId lun) (new : Commit) :
    (e.commit new).CommittedAs x request deviceId lun := by
  obtain ⟨c, hc, hrest⟩ := h
  exact ⟨c, List.mem_append_left _ hc, hrest⟩

theorem RemovedAs.remove (h : e.RemovedAs x deviceId) (new : Removal) :
    (e.remove new).RemovedAs x deviceId := by
  obtain ⟨r, hr, hrest⟩ := h
  exact ⟨r, List.mem_append_left _ hr, hrest⟩

/-- Reserved operations appear at most once in a log that did not have them. -/
theorem filterMap_nodup {α : Type} {f : α → Option ULONGLONG} {log : List α}
    (h : (log.filterMap f).Nodup) {new : α} (hnew : ∀ x, f new = some x → ∀ a ∈ log, f a ≠ some x) :
    ((log ++ [new]).filterMap f).Nodup := by
  rw [List.filterMap_append]
  cases hf : f new with
  | none => simpa [hf] using h
  | some x =>
    have hmem : x ∉ log.filterMap f := fun hx => by
      obtain ⟨a, ha, heq⟩ := List.mem_filterMap.mp hx
      exact hnew x hf a ha heq
    have hsingle : [new].filterMap f = [x] := by simp [hf]
    rw [hsingle]
    exact h.append (List.nodup_singleton x) (List.disjoint_singleton.mpr hmem)

end Effects

open Effects

/-- What a record tells about the disks. -/
structure Truthful (e : Effects) (r : OperationRecord) : Prop where
  failed : r.state = .failed → e.Untouched r.id
  created : r.mutation = wispDiskControlCreateDisk → r.state = .succeeded ∨ r.state = .deleted →
    e.CommittedAs r.id r.create r.deviceId r.lun
  deleted : r.state = .deleted → r.mutation = wispDiskControlCreateDisk
  removed : r.mutation ≠ wispDiskControlCreateDisk → r.state = .succeeded →
    e.RemovedAs r.id r.delete.deviceId

theorem Truthful.of_other {e : Effects} {r : OperationRecord} (hfailed : r.state ≠ .failed)
    (hsucceeded : r.state ≠ .succeeded) (hdeleted : r.state ≠ .deleted) : Truthful e r where
  failed := fun hs => absurd hs hfailed
  created := fun _ hs => hs.elim (fun hs => absurd hs hsucceeded) fun hs => absurd hs hdeleted
  deleted := fun hs => absurd hs hdeleted
  removed := fun _ hs => absurd hs hsucceeded

theorem Truthful.of_failed {e : Effects} {r : OperationRecord} (h : r.state = .failed)
    (hid : e.Untouched r.id) : Truthful e r := by
  refine ⟨fun _ => hid, fun _ hs => ?_, fun hs => ?_, fun _ hs => ?_⟩ <;> simp [h] at hs

theorem Truthful.markDeleted {e : Effects} {r : OperationRecord} (h : Truthful e r)
    (deviceId : ULONG) : Truthful e (ManagementController.markDeleted deviceId r) := by
  unfold ManagementController.markDeleted
  split
  · rename_i hmatch
    exact ⟨nofun, fun _ _ => h.created hmatch.1 (Or.inl hmatch.2.2), fun _ => hmatch.1, nofun⟩
  · exact h

theorem Truthful.commit {e : Effects} {r : OperationRecord} (h : Truthful e r) {new : Commit}
    (hnew : r.state = .failed → new.operation ≠ some r.id) : Truthful (e.commit new) r where
  failed := fun hs => (h.failed hs).commit (hnew hs)
  created := fun hm hs => (h.created hm hs).commit new
  deleted := h.deleted
  removed := h.removed

theorem Truthful.remove {e : Effects} {r : OperationRecord} (h : Truthful e r) {new : Removal}
    (hnew : r.state = .failed → new.operation ≠ some r.id) : Truthful (e.remove new) r where
  failed := fun hs => (h.failed hs).remove (hnew hs)
  created := h.created
  deleted := h.deleted
  removed := fun hm hs => (h.removed hm hs).remove new

/-- What the mutation in flight has done to the disks by a stage. -/
def Stage.accounted (e : Effects) : Stage → Prop
  | .bound | .finishing => True
  | .select work | .allocate work _ | .commit work _ _ | .free work _ _ | .mark work
  | .drain work _ => ∀ x, work.operation = some x → e.Untouched x
  | .publish work status created => ∀ x, work.operation = some x →
    match created with
    | some (deviceId, lun) => e.CommittedAs x work.request deviceId lun
    | none => if ntSuccess status then e.RemovedAs x work.target else e.Untouched x

structure Outcomes (g : OperationLog) (task : Option Task) (e : Effects) : Prop where
  committedOnce : (e.commits.filterMap Commit.operation).Nodup
  removedOnce : (e.removals.filterMap Removal.operation).Nodup
  committed : ∀ commit ∈ e.commits, ∀ x, commit.operation = some x → ∃ execution ∈ g.executions,
    execution.operationId = x ∧ execution.mutation = wispDiskControlCreateDisk ∧
      execution.create = commit.request
  removed : ∀ removal ∈ e.removals, ∀ x, removal.operation = some x → ∃ execution ∈ g.executions,
    execution.operationId = x ∧ execution.mutation ≠ wispDiskControlCreateDisk ∧
      execution.delete.deviceId = removal.deviceId
  executing : ∀ t, task = some t → ∀ snapshot correlation,
    t.stage.work? = some (.reserved snapshot correlation) →
      Execution.ofRecord snapshot ∈ g.executions
  accounted : ∀ t, task = some t → t.stage.accounted e
  truthful : ∀ i, Truthful e (g.operations i)

namespace Outcomes

variable {g : OperationLog} {task task' : Option Task} {e : Effects}

theorem init (adapterInstance : ULONGLONG) :
    Outcomes { adapterInstance := adapterInstance : Machine }.log none ⟨[], []⟩ where
  committedOnce := List.nodup_nil
  removedOnce := List.nodup_nil
  committed := fun _ h => by cases h
  removed := fun _ h => by cases h
  executing := fun _ h => by cases h
  accounted := fun _ h => by cases h
  truthful := fun _ => Truthful.of_other nofun nofun nofun

/-- What was not executed changed nothing. -/
theorem untouched (h : Outcomes g task e) {x : ULONGLONG}
    (hx : x ∉ g.executions.map Execution.operationId) : e.Untouched x where
  commits := fun commit hcommit hop => by
    obtain ⟨execution, hexecution, hid, _⟩ := h.committed commit hcommit x hop
    exact hx (List.mem_map.mpr ⟨execution, hexecution, hid⟩)
  removals := fun removal hremoval hop => by
    obtain ⟨execution, hexecution, hid, _⟩ := h.removed removal hremoval x hop
    exact hx (List.mem_map.mpr ⟨execution, hexecution, hid⟩)

/-! ## Preservation -/

/-- The table changes to records that are still true. -/
theorem rewrite (h : Outcomes g task e)
    {operations : Fin kMaximumOperationCount → OperationRecord}
    (htruthful : ∀ i, Truthful e (operations i)) :
    Outcomes { g with operations := operations } task e :=
  { h with truthful := htruthful }

/-- The task ends or only has to answer. -/
theorem settle (h : Outcomes g task e) (command : MutationCommand)
    (htask : task' = none ∨ task' = some ⟨command, .bound⟩ ∨ task' = some ⟨command, .finishing⟩) :
    Outcomes g task' e :=
  { h with
    executing := fun t ht => by
      rcases htask with heq | heq | heq <;> rw [heq] at ht <;> cases ht <;> exact nofun
    accounted := fun t ht => by
      rcases htask with heq | heq | heq <;> rw [heq] at ht <;> cases ht <;> trivial }

/-- The task goes on with its work. -/
theorem advance {command : MutationCommand} {stage stage' : Stage}
    (h : Outcomes g (some ⟨command, stage⟩) e)
    (hwork : ∀ work, stage'.work? = some work → stage.work? = some work)
    (haccounted : stage.accounted e → stage'.accounted e) :
    Outcomes g (some ⟨command, stage'⟩) e :=
  { h with
    executing := fun t ht snapshot correlation hw => by
      cases ht
      exact h.executing _ rfl snapshot correlation (hwork _ hw)
    accounted := fun t ht => by
      cases ht
      exact haccounted (h.accounted _ rfl) }

theorem start_accounted {work : Work} (h : ∀ x, work.operation = some x → e.Untouched x) :
    (Stage.start work).accounted e := by
  unfold Stage.start
  split <;> exact h

/-- A legacy mutation starts. -/
theorem startLegacy {command : MutationCommand} (h : Outcomes g task e) :
    Outcomes g (some ⟨command, .start command.legacyWork⟩) e := by
  have hlegacy : command.legacyWork.operation = none ∧
      ∀ snapshot correlation, command.legacyWork ≠ .reserved snapshot correlation := by
    unfold MutationCommand.legacyWork
    split <;> exact ⟨rfl, nofun⟩
  refine { h with executing := fun t ht snapshot correlation hw => ?_, accounted := fun t ht => ?_ }
  · cases ht
    rw [(Records.start_isOpen _).2.2] at hw
    exact absurd (Option.some.inj hw) (hlegacy.2 snapshot correlation)
  · cases ht
    refine start_accounted fun x hx => ?_
    rw [hlegacy.1] at hx
    cases hx

/-- A reserved mutation starts; nothing was done for it before. -/
theorem startReserved {command : MutationCommand} {record : OperationRecord}
    {correlation : ULONGLONG} (h : Outcomes g task e)
    (hnew : record.id ∉ g.executions.map Execution.operationId) :
    Outcomes { g with executions := g.executions ++ [Execution.ofRecord record] }
      (some ⟨command, .start (.reserved record correlation)⟩) e where
  committedOnce := h.committedOnce
  removedOnce := h.removedOnce
  committed := fun commit hcommit x hop => by
    obtain ⟨execution, hexecution, hrest⟩ := h.committed commit hcommit x hop
    exact ⟨execution, List.mem_append_left _ hexecution, hrest⟩
  removed := fun removal hremoval x hop => by
    obtain ⟨execution, hexecution, hrest⟩ := h.removed removal hremoval x hop
    exact ⟨execution, List.mem_append_left _ hexecution, hrest⟩
  executing := fun t ht snapshot correlation' hw => by
    cases ht
    rw [(Records.start_isOpen _).2.2] at hw
    cases hw
    exact List.mem_append_right _ List.mem_cons_self
  accounted := fun t ht => by
    cases ht
    refine start_accounted fun x hx => ?_
    cases hx
    exact h.untouched hnew
  truthful := h.truthful

/-- `CommitNewLun` for the mutation in flight. -/
theorem commit {command : MutationCommand} {stage : Stage} {work : Work} (new : Commit)
    (h : Outcomes g (some ⟨command, stage⟩) e) (hwork : stage.work? = some work)
    (hcreate : work.isCreate = true) (haccounted : ∀ x, work.operation = some x → e.Untouched x)
    (hoperation : new.operation = work.operation) (hrequest : new.request = work.request)
    (hpending : ∀ x, work.operation = some x → ∀ i, (g.operations i).id = x →
      (g.operations i).state ≠ .failed) {status : NTSTATUS} :
    Outcomes g (some ⟨command, .publish work status
      (some (new.deviceId, UInt8.ofNat new.lun.val))⟩) (e.commit new) where
  committedOnce := filterMap_nodup h.committedOnce fun x hx =>
    (haccounted x (hoperation ▸ hx)).commits
  removedOnce := h.removedOnce
  committed := fun c hc x hop => by
    rcases List.mem_append.mp hc with hc | hc
    · exact h.committed c hc x hop
    · rw [List.mem_singleton.mp hc] at hop ⊢
      rw [hoperation] at hop
      cases work with
      | reserved snapshot correlation =>
        cases hop
        simp only [Work.isCreate, beq_iff_eq] at hcreate
        exact ⟨_, h.executing _ rfl snapshot correlation hwork, rfl, hcreate, hrequest.symm⟩
      | legacyCreate | legacyDelete => cases hop
  removed := h.removed
  executing := fun t ht snapshot correlation hw => by
    cases ht
    cases hw
    exact h.executing _ rfl snapshot correlation hwork
  accounted := fun t ht => by
    cases ht
    exact fun x hx => ⟨new, List.mem_append_right _ List.mem_cons_self, hoperation.trans hx,
      hrequest, rfl, rfl⟩
  truthful := fun i => (h.truthful i).commit fun hf hop =>
    hpending _ (hoperation ▸ hop) i rfl hf

/-- `FinalizeDiskRemoval`, by the mutation in flight or by teardown. -/
theorem remove (h : Outcomes g task e) (new : Removal) (deviceId : ULONG)
    (hoperation : ∀ x, new.operation = some x → e.Untouched x ∧
      (∀ i, (g.operations i).id = x → (g.operations i).state ≠ .failed) ∧
      ∃ execution ∈ g.executions, execution.operationId = x ∧
        execution.mutation ≠ wispDiskControlCreateDisk ∧
        execution.delete.deviceId = new.deviceId)
    (hexecuting : ∀ t, task' = some t → ∀ snapshot correlation,
      t.stage.work? = some (.reserved snapshot correlation) →
        Execution.ofRecord snapshot ∈ g.executions)
    (haccounted : ∀ t, task' = some t → t.stage.accounted (e.remove new)) :
    Outcomes { g with
      operations := fun i => ManagementController.markDeleted deviceId (g.operations i) } task'
      (e.remove new) where
  committedOnce := h.committedOnce
  removedOnce := filterMap_nodup h.removedOnce fun x hx => (hoperation x hx).1.removals
  committed := h.committed
  removed := fun r hr x hop => by
    rcases List.mem_append.mp hr with hr | hr
    · exact h.removed r hr x hop
    · rw [List.mem_singleton.mp hr] at hop ⊢
      exact (hoperation x hop).2.2
  executing := hexecuting
  accounted := haccounted
  truthful := fun i => by
    refine Truthful.markDeleted ?_ deviceId
    exact (h.truthful i).remove fun hf hop => (hoperation _ hop).2.1 i rfl hf

end Outcomes

/-- The record that a finished reserved mutation publishes. -/
theorem Truthful.resolved {e : Effects} {snapshot : OperationRecord} {correlation : ULONGLONG}
    {status : NTSTATUS} {created : Option (ULONG × UCHAR)}
    (haccounted : (Stage.publish (.reserved snapshot correlation) status created).accounted e)
    (hshape : (Stage.publish (.reserved snapshot correlation) status created).shaped) :
    Truthful e (resolvedRecord snapshot status created) := by
  have hdone := haccounted snapshot.id rfl
  simp only [Stage.shaped, Work.isCreate, beq_iff_eq] at hshape
  by_cases hcreate : snapshot.mutation = wispDiskControlCreateDisk
  · rw [if_pos hcreate] at hshape
    rcases hshape with ⟨hnone, hstatus⟩ | ⟨hsome, hstatus⟩
    · rw [hnone] at hdone ⊢
      simp only [hstatus] at hdone
      exact Truthful.of_failed (by simp [hstatus]) (by simpa using hdone)
    · obtain ⟨⟨deviceId, lun⟩, hcreated⟩ := Option.isSome_iff_exists.mp hsome
      subst hcreated hstatus
      have hrecord : resolvedRecord snapshot statusSuccess (some (deviceId, lun)) =
          { snapshot with
            deviceId := deviceId
            lun := lun
            result := statusSuccess
            state := .succeeded } := by
        simp [resolvedRecord, hcreate]
      rw [hrecord]
      exact ⟨OperationState.noConfusion, fun _ _ => hdone, OperationState.noConfusion,
        fun hne => absurd hcreate hne⟩
  · rw [if_neg hcreate] at hshape
    obtain ⟨hnone, hstatus⟩ := hshape
    subst hnone
    rcases hstatus with hstatus | hstatus <;> subst hstatus
    · simp only [ntSuccess_success, if_true] at hdone
      refine ⟨fun hf => ?_, fun hm => ?_, fun hd => ?_, fun _ _ => ?_⟩
      · simp at hf
      · exact absurd (by simpa using hm) hcreate
      · simp at hd
      · simpa [Work.target] using hdone
    · simp only [ntSuccess_noSuchDevice] at hdone
      exact Truthful.of_failed (by simp) (by simpa using hdone)

/-! ## Every step -/

/-- The record of the reserved mutation in flight is the pending one. -/
theorem Records.pending_of_work {g : OperationLog} {command : MutationCommand} {stage : Stage}
    {work : Work} (h : Records g (some ⟨command, stage⟩)) (hwork : stage.work? = some work)
    {x : ULONGLONG} (hx : work.operation = some x) :
    ∃ i correlation, work = .reserved (g.operations i) correlation ∧ (g.operations i).id = x ∧
      (g.operations i).state = .pending := by
  have hf := h.inFlight command stage rfl
  cases hkind : command.isReserved with
  | false =>
    have heq := hf.legacyWork hkind work hwork
    unfold MutationCommand.legacyWork at heq
    split at heq <;> rw [heq] at hx <;> cases hx
  | true =>
    have hopen : stage.isOpen = true := by
      cases stage <;> first | rfl | cases hwork
    obtain ⟨i, hi, hsnapshot⟩ := hf.pending hkind hopen
    obtain ⟨correlation, heq⟩ := hsnapshot work hwork
    rw [heq] at hx
    exact ⟨i, correlation, heq, Option.some.inj hx, hi.state⟩

theorem Records.not_failed_of_work {g : OperationLog} {command : MutationCommand} {stage : Stage}
    {work : Work} (h : Records g (some ⟨command, stage⟩)) (hwork : stage.work? = some work)
    {x : ULONGLONG} (hx : work.operation = some x) (j : Fin kMaximumOperationCount)
    (hj : (g.operations j).id = x) : (g.operations j).state ≠ .failed := by
  obtain ⟨i, _, _, hid, hstate⟩ := h.pending_of_work hwork hx
  have hzero : (g.operations i).id ≠ 0 := h.id_ne_zero (by rw [hstate]; decide)
  rw [← h.unique i j hzero (hid.trans hj.symm), hstate]
  decide

theorem Failing.truthful {operations operations' : Fin kMaximumOperationCount → OperationRecord}
    {command : MutationCommand} {e : Effects} (hfail : Failing operations command operations')
    (h : ∀ i, Truthful e (operations i))
    (hnew : command.isReserved = true → e.Untouched command.operationId) (i) :
    Truthful e (operations' i) := by
  cases hfail with
  | legacy | missing => exact h i
  | failed hkind j hid hzero status hstatus =>
    refine forall_update operations (fun _ r => Truthful e r) (Truthful.of_failed rfl ?_) h i
    change e.Untouched (operations j).id
    rw [hid]
    exact hnew hkind

/-- Teardown removes disks for no operation. -/
theorem Stage.accounted.teardown {e : Effects} {stage : Stage} (h : stage.accounted e)
    {deviceId : ULONG} : stage.accounted (e.remove ⟨none, deviceId⟩) := by
  cases stage with
  | bound | finishing => trivial
  | publish work status created =>
    intro x hx
    have hx' := h x hx
    cases created with
    | some created => exact hx'
    | none =>
      simp only at hx' ⊢
      split at hx'
      · rename_i hstatus
        rw [if_pos hstatus]
        exact hx'.remove _
      · rename_i hstatus
        rw [if_neg hstatus]
        exact hx'.remove nofun
  | select | allocate | commit | free | mark | drain => exact fun x hx => (h x hx).remove nofun

theorem Machine.DrainStep.effects {c c' : Machine} {d : Drain} {next : DrainStage}
    (h : DrainStep c d c' next) : c'.effects = c.effects := by
  cases h <;> rfl

theorem Outcomes.step {restartable : Machine → Prop} {c c' : Machine}
    (h : Outcomes c.log c.task c.effects) (hr : Records c.log c.task) (hshape : Shaped c.task)
    (hs : c.Step restartable c') : Outcomes c'.log c'.task c'.effects := by
  have hbound : ∀ command, c.task = some ⟨command, .bound⟩ → command.isReserved = true →
      c.effects.Untouched command.operationId := fun command htask hkind =>
    h.untouched ((hr.inFlight command .bound htask).unexecuted hkind rfl)
  cases hs with
  | reserved i mutation hmutation hopen hnext hslot =>
    have hnew : Truthful c.effects
        (ManagementController.reservedRecord c.nextOperationId mutation) := by
      refine Truthful.of_other ?_ ?_ ?_ <;> exact OperationState.noConfusion
    exact { h with
      truthful := forall_update c.operations (fun _ r => Truthful c.effects r) hnew h.truthful }
  | admittedLegacy command hopen hidle hkind hvalid =>
    exact h.settle command (Or.inr (Or.inl rfl))
  | admittedReserved command i hopen hidle hkind hvalid hinstance hid hzero hmutation hstate =>
    have hnew : Truthful c.effects
        (ManagementController.boundRecord (c.operations i) command) := by
      refine Truthful.of_other ?_ ?_ ?_ <;> exact OperationState.noConfusion
    have hnext := (h.settle command (Or.inr (Or.inl rfl))).rewrite
      (forall_update c.operations (fun _ r => Truthful c.effects r) (i := i) hnew h.truthful)
    exact { hnext with }
  | queueFailed command htask operations hfail =>
    exact (h.settle command (Or.inl rfl)).rewrite
      (hfail.truthful h.truthful (hbound command htask))
  | rejected command htask hkind operations hfail =>
    exact (h.settle command (Or.inr (Or.inr rfl))).rewrite
      (hfail.truthful h.truthful (hbound command htask))
  | startedLegacy command htask hkind => exact h.startLegacy
  | missing command htask | ended command htask =>
    first
    | exact h.settle command (Or.inr (Or.inr rfl))
    | exact h.settle command (Or.inl rfl)
  | startedReserved command i correlation htask hkind hid hzero hstate =>
    refine h.startReserved ?_
    have hnew := (hr.inFlight command .bound htask).unexecuted hkind rfl
    rw [hid]
    exact hnew
  | notSelected command work status htask hstatus =>
    rw [htask] at h
    refine h.advance (fun _ hw => hw) fun ha x hx => ?_
    simp only [hstatus]
    exact ha x hx
  | selected command work l htask | allocated command work l htask
  | notCommitted command work l allocation status htask | marked command work l htask =>
    rw [htask] at h
    exact h.advance (fun _ hw => hw) fun ha => ha
  | notAllocated command work l htask =>
    rw [htask] at h
    exact h.advance (fun _ hw => hw) fun ha => ha
  | notMarked command work htask =>
    rw [htask] at h
    exact h.advance (fun _ hw => hw) fun ha => ha
  | freed command work allocation status htask =>
    rw [htask] at h
    obtain ⟨_, hstatus⟩ := hshape _ htask
    refine h.advance (fun _ hw => hw) fun ha x hx => ?_
    simp only [hstatus]
    exact ha x hx
  | committed command work l allocation htask hopen hempty hnext =>
    rw [htask] at h hr
    have hcreate : work.isCreate = true := hshape _ htask
    exact h.commit ⟨work.operation, work.request, c.nextDeviceId, l, allocation⟩ rfl hcreate
      (h.accounted _ rfl) rfl rfl fun x hx => hr.not_failed_of_work rfl hx
  | workerDrained command work l stage next c' htask hdrain =>
    rw [htask, ← hdrain.log.1, ← hdrain.effects] at h
    exact h.advance (fun _ hw => hw) fun ha => ha
  | workerFinalized command work l htask =>
    rw [htask] at h hr
    have hdelete : work.isCreate = false := hshape _ htask
    refine h.remove ⟨work.operation, work.target⟩ work.target
      (fun x hx => ⟨h.accounted _ rfl x hx, hr.not_failed_of_work rfl hx, ?_⟩)
      (fun t ht snapshot correlation hw => ?_) fun t ht => ?_
    · obtain ⟨i, correlation, hwork, hid, _⟩ := hr.pending_of_work rfl hx
      subst hwork
      simp only [Work.isCreate, beq_eq_false_iff_ne] at hdelete
      exact ⟨_, h.executing _ rfl _ correlation rfl, hid, hdelete, rfl⟩
    · cases ht
      exact h.executing _ rfl snapshot correlation hw
    · cases ht
      exact fun x hx => ⟨_, List.mem_append_right _ List.mem_cons_self, hx, rfl⟩
  | answered command work status created htask hrecord =>
    exact h.settle command (Or.inr (Or.inr rfl))
  | published command snapshot correlation status created i htask hid hzero =>
    have hpublished := h.truthful
    refine (h.settle command (Or.inr (Or.inr rfl))).rewrite
      (forall_update c.operations (fun _ r => Truthful c.effects r) ?_ h.truthful)
    exact Truthful.resolved (h.accounted _ htask) (hshape _ htask)
  | teardownDrained l stage next c' hclosing hdrain =>
    rw [← hdrain.log.1, ← hdrain.log.2, ← hdrain.effects] at h
    exact h
  | teardownFinalized l deviceId hclosing =>
    exact h.remove ⟨none, deviceId⟩ deviceId (fun _ hx => by cases hx) h.executing
      fun t ht => (h.accounted t ht).teardown
  | _ => exact h

theorem Outcomes.reachable {restartable : Machine → Prop} {c : Machine}
    (h : c.Reachable restartable) : Outcomes c.log c.task c.effects := by
  obtain ⟨adapterInstance, hrun⟩ := h
  induction hrun with
  | refl => exact Outcomes.init adapterInstance
  | tail hrun hs ih =>
    exact ih.step (Records.reachable ⟨_, hrun⟩) (Shaped.reachable ⟨_, hrun⟩) hs

end WispDisk
