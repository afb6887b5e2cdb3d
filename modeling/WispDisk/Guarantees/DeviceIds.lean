import WispDisk.Guarantees.Schedules
import WispDisk.Lifecycle.Erasure
import WispDisk.Lifecycle.Simulation

/-! Device IDs over a run: `CommitNewLun` hands each out once, a disk that is gone never comes
back under its ID, and deleting an ID that no disk has changes nothing. -/
namespace WispDisk
open ManagementController Transition SlotTable
set_option autoImplicit false

/-! ## Deleting an ID that no disk has -/

theorem markLunStopping_eq_none {ext : AdapterExtension} {deviceId : ULONG}
    (h : ∀ l, (ext.luns l).state = .online → (ext.luns l).deviceId ≠ deviceId) :
    LunStore.markLunStopping ext deviceId = none := by
  cases hmark : LunStore.markLunStopping ext deviceId with
  | none => rfl
  | some result =>
    obtain ⟨honline, htarget, _⟩ := LunStore.markLunStopping_some hmark
    exact absurd htarget (h _ honline)

namespace Adapter

/-- What publishing a refused delete does: it answers with the status and changes no LUN, no byte
count and no record of a create. -/
structure RefusalPublished (a : Adapter) (s : Submission) (work : Work) (b : Adapter)
    (s' : Submission) : Prop where
  luns : b.extension.luns = a.extension.luns
  total : b.extension.totalAllocatedBytes = a.extension.totalAllocatedBytes
  creates : ∀ i, (a.extension.operations i).mutation = wispDiskControlCreateDisk →
    b.extension.operations i = a.extension.operations i
  answer : match work with
    | .legacyCreate _ => False
    | .legacyDelete request =>
      s'.control = writeDeleteResponse s.control request statusNoSuchDevice
    | .reserved snapshot correlation => ∃ i, (b.extension.operations i).id = snapshot.id ∧
      (b.extension.operations i).state = .failed ∧
      (b.extension.operations i).result = statusNoSuchDevice ∧
      s'.control = writeOperationResponse s.control
        (copyResultLocked b.extension (b.extension.operations i)) correlation

/-- Deleting the device ID is refused: `DeleteDisk` returns `STATUS_NO_SUCH_DEVICE` and leaves the
whole adapter as it was. -/
def RefusesDelete (a : Adapter) (deviceId : ULONG) : Prop :=
  ∀ s ∈ a.submissions, ∀ work, s.phase = .markStopping work → work.target = deviceId →
    ∀ granted now, a.advance s granted now =
      some (a, some { s with phase := .publish work statusNoSuchDevice none })

/-- The disk of a device ID that was handed out has been finalized. -/
def Finalized (a : Adapter) (deviceId : ULONG) : Prop :=
  deviceId ∈ a.history.commits.map Commit.deviceId ∧ ∀ l, (a.extension.luns l).deviceId ≠ deviceId

/-- Device IDs in state `b`, reached from state `a`. -/
structure DeviceIds (a b : Adapter) : Prop where
  distinct : (b.history.commits.map Commit.deviceId).Nodup
  nonzero : ∀ commit ∈ b.history.commits, commit.deviceId ≠ 0
  exhausted : b.extension.nextDeviceId = 0 → ∀ request l allocation, ∃ status,
    ntSuccess status = false ∧
      LunStore.commitNewLun b.extension request l allocation = .error status
  /-- Finalizing the LUN that holds a device ID leaves no LUN with that ID. -/
  finalizes : ∀ l deviceId, (a.extension.luns l).state ≠ .empty →
    (a.extension.luns l).deviceId ∈ a.history.commits.map Commit.deviceId ∧
      ∀ m, ((finalizeDiskRemoval a.extension l deviceId).luns m).deviceId ≠
        (a.extension.luns l).deviceId
  gone : ∀ deviceId, a.Finalized deviceId → b.Finalized deviceId
  refused : ∀ deviceId, a.Finalized deviceId ∨ deviceId ∉ b.history.commits.map Commit.deviceId →
    b.RefusesDelete deviceId
  published : ∀ s ∈ b.submissions, ∀ work, work.isCreate = false →
    s.phase = .publish work statusNoSuchDevice none → ∀ granted now, ∃ c s',
      b.advance s granted now = some (c, some s') ∧ RefusalPublished b s work c s'

theorem finalizeDiskRemoval_deviceId {ext : AdapterExtension} {commits : List Commit}
    {task : Option Task} (h : Accounting ⟨ext.nextDeviceId, ext.totalAllocatedBytes, ext.luns,
      commits⟩ task) {l : Fin kMaximumDiskCount} (deviceId : ULONG)
    (hl : (ext.luns l).state ≠ .empty) (m : Fin kMaximumDiskCount) :
    ((finalizeDiskRemoval ext l deviceId).luns m).deviceId ≠ (ext.luns l).deviceId := by
  have hluns : (finalizeDiskRemoval ext l deviceId).luns =
      Function.update ext.luns l (LunStore.removedLun (ext.luns l)) := rfl
  rw [hluns]
  rcases eq_or_ne m l with rfl | hm
  · rw [Function.update_self]
    exact (h.deviceId_ne_zero hl).symm
  · rw [Function.update_of_ne hm]
    exact fun heq => hm (h.distinct l m hl heq.symm).symm

theorem markStopping_refused {a : Adapter} {deviceId : ULONG}
    (h : ∀ l, (a.extension.luns l).state = .online → (a.extension.luns l).deviceId ≠ deviceId) :
    a.RefusesDelete deviceId := by
  intro s _ work hphase htarget granted now
  unfold advance
  simp only [hphase, htarget, markLunStopping_eq_none h]

/-- The record that a reserved mutation will publish is in the table. -/
theorem reserved_record {C : Contract Adapter Action} {a : Adapter} (h : Reachable system C a)
    {s : Submission} (hs : s ∈ a.submissions) {snapshot : OperationRecord}
    {correlation : ULONGLONG} {status : NTSTATUS} {created : Option (ULONG × UCHAR)}
    (hphase : s.phase = .publish (.reserved snapshot correlation) status created) :
    ∃ i, (a.extension.operations i).id ≠ 0 ∧ snapshot = a.extension.operations i := by
  obtain ⟨i, hi⟩ := List.mem_iff_getElem?.mp hs
  have hrecords := Records.reachable (reachable_anywhere h)
  have htask : a.machine.task = some ⟨s.command, .publish (.reserved snapshot correlation) status
      created⟩ := by
    rw [machine_active ((Gate.reachable h).only hi).2]
    exact task_eq hphase
  obtain ⟨k, _, heq, _, hstate⟩ :=
    (htask ▸ hrecords).pending_of_work (x := snapshot.id) rfl rfl
  cases heq
  refine ⟨k, hrecords.id_ne_zero ?_, rfl⟩
  rw [hstate]
  exact OperationState.noConfusion

theorem published_refusal {C : Contract Adapter Action} {a : Adapter} (h : Reachable system C a)
    {s : Submission} (hs : s ∈ a.submissions) {work : Work} (hwork : work.isCreate = false)
    (hphase : s.phase = .publish work statusNoSuchDevice none) (granted : Bool) (now : LONGLONG) :
    ∃ b s', a.advance s granted now = some (b, some s') ∧ RefusalPublished a s work b s' := by
  unfold advance
  simp only [hphase]
  refine ⟨_, _, rfl, ?_⟩
  cases work with
  | legacyCreate request => cases hwork
  | legacyDelete request => exact ⟨rfl, rfl, fun _ _ => rfl, rfl⟩
  | reserved snapshot correlation =>
    obtain ⟨k, hk, hsnapshot⟩ := reserved_record h hs hphase
    have hmutation : snapshot.mutation ≠ wispDiskControlCreateDisk := beq_eq_false_iff_ne.mp hwork
    have hrecord : resolvedRecord snapshot statusNoSuchDevice none = { snapshot with
        deviceId := snapshot.delete.deviceId, result := statusNoSuchDevice, state := .failed } := by
      unfold resolvedRecord
      simp only [if_neg hmutation, ntSuccess_noSuchDevice, Bool.false_eq_true, if_false]
    unfold publish
    simp only [hrecord]
    rcases publishOperationResult_spec a.extension s.control { snapshot with
        deviceId := snapshot.delete.deviceId, result := statusNoSuchDevice, state := .failed }
        correlation now with
      ⟨_, hzero | hnone⟩ | ⟨i, hid, hzero, debug, hpublished, hanswer⟩
    · exact absurd (hsnapshot ▸ hzero) hk
    · exact absurd (by rw [hsnapshot]) (hnone k)
    · have hik : i = k := by
        have hrecords := Records.reachable (reachable_anywhere h)
        have hkid := (congrArg OperationRecord.id hsnapshot).symm.trans hid.symm
        exact (hrecords.unique k i hk hkid).symm
      subst hik
      have hluns : ¬ (ntSuccess statusNoSuchDevice = true ∧
          snapshot.mutation = wispDiskControlCreateDisk) := fun hboth => hmutation hboth.2
      rw [if_neg hluns] at hpublished
      rw [hpublished, hanswer]
      refine ⟨rfl, rfl, fun j hj => ?_, i, ?_⟩
      · refine Function.update_of_ne (fun hji => hmutation ?_) _ _
        rw [hsnapshot, ← hji]
        exact hj
      · simp only [Function.update_self, true_and]
        rfl

/-- Device IDs over any run, whatever StorPort does. -/
theorem device_ids (a b : Adapter) (ha : Reachable system anyAction a)
    (hp : Steps system anyAction a b) : DeviceIds a b := by
  have hmachine := reachable_anywhere ha
  have haccounting := Accounting.reachable hmachine
  have hb := ha.path hp
  have hbaccounting := Accounting.reachable (reachable_anywhere hb)
  have hgone : ∀ deviceId, a.Finalized deviceId → b.Finalized deviceId := fun deviceId hd =>
    Machine.Gone.run (show a.machine.Gone deviceId from hd) hmachine (path_anywhere ha hp)
  refine ⟨hbaccounting.issued.nodup, fun commit hcommit hzero => ?_, fun hnext => ?_,
    fun l deviceId hl => ?_, hgone, fun deviceId hstale => ?_,
    fun s hs work hwork hphase => published_refusal hb hs hwork hphase⟩
  · have hpositive := hbaccounting.issued.positive _ (List.mem_map_of_mem hcommit)
    rw [hzero] at hpositive
    exact absurd hpositive (by decide)
  · intro request l allocation
    cases hcommit : LunStore.commitNewLun b.extension request l allocation with
    | error status => exact ⟨status, LunStore.commitNewLun_error hcommit, rfl⟩
    | ok result => exact absurd hnext (LunStore.commitNewLun_ok hcommit).2.2.1
  · exact ⟨haccounting.committed l hl, finalizeDiskRemoval_deviceId haccounting deviceId hl⟩
  · refine markStopping_refused fun l honline heq => ?_
    have hl : (b.extension.luns l).state ≠ .empty := by
      rw [honline]
      exact LunState.noConfusion
    rcases hstale with hfinal | hunknown
    · exact (hgone deviceId hfinal).2 l heq
    · exact hunknown (heq ▸ hbaccounting.committed l hl)

/-- The first disk is deleted and its LUN used again. -/
theorem device_ids_reused :
    let a := fresh.after (createDisk 1048576 82)
    DeviceIds a (a.after (deleteDisk 1 ++ createDisk 1048576 83)) :=
  device_ids _ _ (reachable_after (by decide +kernel))
    ((path_after (by decide +kernel) (by decide +kernel)).mono fun _ _ _ => trivial)

end Adapter

end WispDisk
