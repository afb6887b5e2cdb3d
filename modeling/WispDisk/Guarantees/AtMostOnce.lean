import WispDisk.Guarantees.Schedules
import WispDisk.Lifecycle.Moves
import WispDisk.Lifecycle.Simulation

/-! A reserved handle is executed at most once: its record only moves forward, and a resubmission
is refused or gets the recorded result. -/
namespace WispDisk
open ControlDispatch ManagementController Transition
set_option autoImplicit false

/-- What a resubmission of an operation that is no longer reserved is answered with. -/
inductive Resubmission (ext : AdapterExtension) (control : ControlRequest)
    (command : MutationCommand) : ControlRequest → Prop
  | refused (status : NTSTATUS)
      (hstatus : status = statusDeviceNotReady ∧ ext.adapterStopping = true ∨
        status = statusDeviceBusy ∧ ext.managementBusy = true) :
      Resubmission ext control command
        (control.writeError command.operation.code status command.correlationId)
  | unknown (h : command.identity.adapterInstance ≠ ext.adapterInstance ∨
      command.operationId = 0 ∨ ∀ i, (ext.operations i).id ≠ command.operationId) :
      Resubmission ext control command
        (control.writeError command.operation.code statusNotFound command.correlationId)
  | different (i : Fin kMaximumOperationCount) (hid : (ext.operations i).id = command.operationId)
      (h : (ext.operations i).mutation ≠ command.mutation ∨
        sameParameters (ext.operations i) command = false) :
      Resubmission ext control command
        (control.writeError command.operation.code statusInvalidParameter command.correlationId)
  | recorded (i : Fin kMaximumOperationCount) (hid : (ext.operations i).id = command.operationId)
      (hmutation : (ext.operations i).mutation = command.mutation)
      (hparameters : sameParameters (ext.operations i) command = true) :
      Resubmission ext control command
        (writeOperationResponse control (copyResultLocked ext (ext.operations i))
          command.correlationId)

/-- No submission of an operation that is not reserved is admitted, and its answer changes neither
table. -/
theorem submit_resubmitted {ext : AdapterExtension} (control : ControlRequest)
    {command : MutationCommand} (now : LONGLONG) (hkind : command.isReserved = true)
    (hstate : ∀ i, (ext.operations i).id = command.operationId →
      (ext.operations i).state ≠ .reserved) :
    ∃ ext' control', submit ext control command now = .complete ext' control' ∧
      ext'.operations = ext.operations ∧ ext'.luns = ext.luns ∧
        Resubmission ext control command control' := by
  have hspec := prepareSubmission_spec ext control command now
  unfold submit
  generalize prepareSubmission ext control command now = prepared at hspec ⊢
  cases hspec with
  | refused status hstatus => exact ⟨_, _, rfl, rfl, rfl, Resubmission.refused status hstatus⟩
  | unbound status hopen hidle hkind hstatus =>
    refine ⟨_, _, rfl, rfl, rfl, ?_⟩
    rcases hstatus with ⟨rfl, hunknown⟩ | ⟨rfl, i, hid, hdifferent⟩
    · exact Resubmission.unknown hunknown
    · exact Resubmission.different i hid (hdifferent.imp_right And.right)
  | replayed i hopen hidle hkind hinstance hid hzero hmutation hstate hparameters =>
    exact ⟨_, _, rfl, rfl, rfl, Resubmission.recorded i hid hmutation hparameters⟩
  | legacy hopen hidle hlegacy => exact absurd hlegacy (by rw [hkind]; decide)
  | bound i hopen hidle hkind hinstance hid hzero hmutation hreserved =>
    exact absurd hreserved (hstate i hid)

namespace Adapter

/-- Reserved operations on a run from `a` to `b`. `history.executions` logs the calls of `CreateDisk`
and `DeleteDisk` for them, `history.accepted` the commands that `BindOperationLocked` accepted. -/
structure AtMostOnce (a b : Adapter) : Prop where
  executedOnce : (b.history.executions.map Execution.operationId).Nodup
  /-- An operation is executed with the parameters of the one command accepted for it. -/
  executedAs : ∀ e ∈ b.history.executions, ∃ command ∈ b.history.accepted,
    command.operationId = e.operationId ∧ e.mutation = command.mutation ∧
      e.create = command.create ∧ e.delete = command.remove
  acceptedOnce : (b.history.accepted.map MutationCommand.operationId).Nodup
  /-- A record moves in its slot, or leaves the table. -/
  moves : ∀ i, (a.extension.operations i).id ≠ 0 →
    OperationRecord.Moves (a.extension.operations i) (b.extension.operations i) ∨
      ∀ j, (b.extension.operations j).id ≠ (a.extension.operations i).id
  settled : ∀ i j, (a.extension.operations i).id ≠ 0 →
    (b.extension.operations j).id = (a.extension.operations i).id →
    (a.extension.operations i).state = .succeeded ∨ (a.extension.operations i).state = .failed →
      OperationRecord.Kept (a.extension.operations i) (b.extension.operations j)
  /-- `HwStartIo` admits a reserved command only for a Reserved record. -/
  admits : ∀ srb now, (b.startIo srb now).history.accepted = b.history.accepted ∨
    ∃ command i, (b.startIo srb now).history.accepted = b.history.accepted ++ [command] ∧
      (b.extension.operations i).id = command.operationId ∧
        (b.extension.operations i).state = .reserved
  resubmitted : ∀ control command now, command.isReserved = true →
    (∀ i, (b.extension.operations i).id = command.operationId →
      (b.extension.operations i).state ≠ .reserved) →
    ∃ ext control', submit b.extension control command now = .complete ext control' ∧
      ext.operations = b.extension.operations ∧ ext.luns = b.extension.luns ∧
        Resubmission b.extension control command control'

theorem startIo_admits (a : Adapter) (srb : ScsiRequestBlock) (now : LONGLONG) :
    (a.startIo srb now).history.accepted = a.history.accepted ∨
      ∃ command i, (a.startIo srb now).history.accepted = a.history.accepted ++ [command] ∧
        (a.extension.operations i).id = command.operationId ∧
          (a.extension.operations i).state = .reserved := by
  have hstarted := startIo_started a srb now
  generalize a.startIo srb now = b at hstarted ⊢
  cases hstarted with
  | kept | answered | leased => exact Or.inl rfl
  | admitted ext control command h =>
    cases h.extension with
    | legacy debug hkind =>
      simp only [hkind, Bool.false_eq_true, if_false, List.append_nil]
      exact Or.inl trivial
    | bound debug i hkind hinstance hid hzero hmutation hstate =>
      simp only [hkind, if_true]
      exact Or.inr ⟨command, i, rfl, hid, hstate⟩

/-- At-most-once execution on every run, with clients, queue failures and faults of any kind. -/
theorem at_most_once (a b : Adapter) (ha : Reachable system anyAction a)
    (hp : Steps system anyAction a b) : AtMostOnce a b := by
  have hmachine := reachable_anywhere ha
  have hrun := path_anywhere ha hp
  have hrecords := Records.reachable (reachable_anywhere (ha.path hp))
  have hmoves : ∀ i, (a.extension.operations i).id ≠ 0 →
      OperationRecord.Moves (a.extension.operations i) (b.extension.operations i) ∨
        ∀ j, (b.extension.operations j).id ≠ (a.extension.operations i).id := fun i hi =>
    Machine.Followed.run hmachine hrun hi
  refine ⟨hrecords.executedOnce, fun e he => ?_, hrecords.acceptedOnce, hmoves,
    fun i j hi hj hsettled => ?_, startIo_admits b, fun control command now hkind hstate =>
      submit_resubmitted control now hkind hstate⟩
  · obtain ⟨command, hcommand, hid, hrest⟩ := hrecords.executed e he
    exact ⟨command, hcommand, hid.symm, hrest⟩
  · rcases hmoves i hi with hmove | hgone
    · have hid : (b.extension.operations i).id = (b.extension.operations j).id :=
        hmove.id_eq.trans hj.symm
      have hij : i = j := hrecords.unique i j (hmove.id_eq ▸ hi) hid
      exact hij ▸ hmove.kept hsettled
    · exact absurd hj (hgone j)

/-- The reservation, the create and a delete of one handle's disk. -/
theorem at_most_once_created :
    let a := fresh.after [.startIo (reserveSrb wispDiskControlCreateDisk) 0]
    AtMostOnce a (a.after (.startIo (createReservedSrb 7 1 1048576 82) 0 :: serve 14 ++
      deleteDisk 1)) :=
  at_most_once _ _ (reachable_after (by decide +kernel))
    ((path_after (by decide +kernel) (by decide +kernel)).mono fun _ _ _ => trivial)

end Adapter

end WispDisk
