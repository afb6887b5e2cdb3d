import WispDisk.Lifecycle.Outcomes

/-! What a record says about itself: a success has the result STATUS_SUCCESS and, for a create, a
disk; a failure has an error; only creates are deleted. -/
namespace WispDisk
open ManagementController SlotTable
set_option autoImplicit false

/-- The result that belongs to a final state. -/
structure OperationRecord.Resulted (r : OperationRecord) : Prop where
  stated : r.id ≠ 0 → r.state ≠ .unset
  succeeded : r.state = .succeeded → r.result = statusSuccess
  failed : r.state = .failed → ntSuccess r.result = false

namespace OperationRecord.Resulted

theorem of_open {r : OperationRecord}
    (h : r.state = .reserved ∨ r.state = .pending ∨ r.state = .deleted) : r.Resulted := by
  refine ⟨fun _ hu => ?_, fun hs => ?_, fun hf => ?_⟩
  · rcases h with h | h | h <;> cases h.symm.trans hu
  · rcases h with h | h | h <;> cases h.symm.trans hs
  · rcases h with h | h | h <;> cases h.symm.trans hf

theorem markDeleted {r : OperationRecord} (h : r.Resulted) (deviceId : ULONG) :
    (ManagementController.markDeleted deviceId r).Resulted := by
  unfold ManagementController.markDeleted
  split
  · exact of_open (Or.inr (Or.inr rfl))
  · exact h

theorem resolved {snapshot : OperationRecord} {correlation : ULONGLONG} {status : NTSTATUS}
    {created : Option (ULONG × UCHAR)}
    (h : (Stage.publish (.reserved snapshot correlation) status created).shaped) :
    (resolvedRecord snapshot status created).Resulted := by
  have hstatus : status = statusSuccess ∨ ntSuccess status = false := by
    unfold Stage.shaped at h
    simp only at h
    split at h
    · exact h.elim (fun h => Or.inr h.2) fun h => Or.inl h.2
    · refine h.2.imp_right fun hnone => ?_
      rw [hnone]
      exact ntSuccess_noSuchDevice
  refine ⟨fun _ hu => ?_, fun hs => ?_, fun hf => ?_⟩
  · rw [resolvedRecord_state] at hu
    split at hu <;> cases hu
  · rw [resolvedRecord_result]
    rw [resolvedRecord_state] at hs
    split at hs
    · rename_i hsuccess
      exact hstatus.resolve_right fun hfailed => by rw [hfailed] at hsuccess; cases hsuccess
    · cases hs
  · rw [resolvedRecord_result]
    rw [resolvedRecord_state] at hf
    split at hf
    · cases hf
    · rename_i hfailure
      rwa [Bool.not_eq_true] at hfailure

end OperationRecord.Resulted

theorem Failing.resulted {operations operations' : Fin kMaximumOperationCount → OperationRecord}
    {command : MutationCommand} (h : Failing operations command operations')
    (hall : ∀ i, (operations i).Resulted) (i : Fin kMaximumOperationCount) :
    (operations' i).Resulted := by
  cases h with
  | legacy | missing => exact hall i
  | failed hkind j hid hzero status hstatus =>
    refine forall_update operations (fun _ r => r.Resulted) ?_ hall i
    exact ⟨fun _ hu => OperationState.noConfusion hu, fun hs => OperationState.noConfusion hs,
      fun _ => hstatus⟩

namespace Machine

variable {restartable : Machine → Prop} {c c' : Machine}

theorem Step.resulted (hs : c.Step restartable c') (hshape : Shaped c.task)
    (h : ∀ i, (c.operations i).Resulted) (i : Fin kMaximumOperationCount) :
    (c'.operations i).Resulted := by
  cases hs with
  | reserved j mutation =>
    refine forall_update c.operations (fun _ r => r.Resulted) ?_ h i
    exact OperationRecord.Resulted.of_open (Or.inl rfl)
  | admittedReserved command j =>
    refine forall_update c.operations (fun _ r => r.Resulted) ?_ h i
    exact OperationRecord.Resulted.of_open (Or.inr (Or.inl rfl))
  | queueFailed command htask operations hfail => exact hfail.resulted h i
  | rejected command htask hkind operations hfail => exact hfail.resulted h i
  | published command snapshot correlation status created j htask =>
    refine forall_update c.operations (fun _ r => r.Resulted) ?_ h i
    exact OperationRecord.Resulted.resolved (hshape _ htask)
  | workerFinalized command work l => exact (h i).markDeleted work.target
  | teardownFinalized l deviceId => exact (h i).markDeleted deviceId
  | workerDrained command work l stage next d htask hdrain =>
    cases hdrain <;> exact h i
  | teardownDrained l stage next d hclosing hdrain =>
    cases hdrain <;> exact h i
  | _ => exact h i

theorem Reachable.resulted (hr : c.Reachable restartable) (i : Fin kMaximumOperationCount) :
    (c.operations i).Resulted := by
  obtain ⟨adapterInstance, hrun⟩ := hr
  induction hrun generalizing i with
  | refl =>
    exact ⟨fun h => absurd rfl h, fun hs => OperationState.noConfusion hs,
      fun hf => OperationState.noConfusion hf⟩
  | tail hrun hs ih => exact hs.resulted (Shaped.reachable ⟨_, hrun⟩) ih i

end Machine

/-! ## Records of the table -/

/-- What a record in use says about its operation. -/
structure OperationRecord.Meaningful (r : OperationRecord) : Prop extends r.Resulted where
  inUse : r.id ≠ 0
  kind : r.mutation = wispDiskControlCreateDisk ∨ r.mutation = wispDiskControlDeleteDisk
  created : r.mutation = wispDiskControlCreateDisk → r.state = .succeeded →
    r.deviceId ≠ 0 ∧ r.lun.toNat < kMaximumDiskCount
  deleted : r.state = .deleted → r.mutation = wispDiskControlCreateDisk

theorem Machine.Reachable.meaningful {restartable : Machine → Prop} {c : Machine}
    (h : c.Reachable restartable) {i : Fin kMaximumOperationCount} (hid : (c.operations i).id ≠ 0) :
    (c.operations i).Meaningful := by
  have hrecords := Records.reachable h
  have htruthful : Truthful c.effects (c.operations i) := (Outcomes.reachable h).truthful i
  refine ⟨h.resulted i, hid, hrecords.kind i hid, fun hcreate hsucceeded => ?_, htruthful.deleted⟩
  · obtain ⟨commit, hcommit, _, _, hdevice, hlun⟩ := htruthful.created hcreate (Or.inl hsucceeded)
    have hissued := (Accounting.reachable h).issued
    have hpositive := hissued.positive commit.deviceId (List.mem_map.mpr ⟨commit, hcommit, rfl⟩)
    have hbound : commit.lun.val < 16 := commit.lun.isLt
    refine ⟨fun hzero => ?_, ?_⟩
    · rw [hdevice, hzero] at hpositive
      exact absurd hpositive (Nat.lt_irrefl _)
    · rw [← hlun, UInt8.toNat_ofNat']
      show commit.lun.val % 256 < 16
      omega

end WispDisk
