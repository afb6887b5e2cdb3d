import WispDisk.Guarantees.Schedules
import WispDisk.Lifecycle.Retention
import WispDisk.Lifecycle.Simulation

/-! Reservations on the adapter: there is always a record to reserve, only records that nobody
needs are reclaimed, and a handle can be queried until 110 later reservations have been made. This
rests on StorPort's contract: a restart callback during teardown lets records outlive their disks. -/
namespace WispDisk
open ManagementController Transition
set_option autoImplicit false

/-- A record that a reservation may reclaim. -/
def OperationRecord.Evictable (r : OperationRecord) : Prop :=
  r.state ≠ .pending ∧ ¬r.LiveCreate

theorem OperationRecord.evictable_iff (r : OperationRecord) : r.Evictable ↔ pinned r = false := by
  rw [← Bool.not_eq_true, Machine.pinned_iff, not_or]
  rfl

namespace Adapter

/-- What `ReserveOperation` does to the table: it writes one slot, and reclaims the record with the
smallest ID among the evictable ones if all slots are in use. -/
structure Reclaims (before after : AdapterExtension) (mutation : ULONG) (result : OperationResult) :
    Prop where
  returned : result = copyResultLocked after (reservedRecord before.nextOperationId mutation)
  slot : ∃ i, after.operations i = reservedRecord before.nextOperationId mutation ∧
    (∀ j, j ≠ i → after.operations j = before.operations j) ∧
    (before.operations i).Evictable ∧
    ((before.operations i).id ≠ 0 → (∀ j, (before.operations j).id ≠ 0) ∧
      ∀ j, (before.operations j).Evictable →
        (before.operations i).id ≤ (before.operations j).id)

structure ServesReservations (a : Adapter) : Prop where
  available : a.extension.adapterStopping = false → a.extension.nextOperationId ≠ 0 →
    ∀ mutation, mutation = wispDiskControlCreateDisk ∨ mutation = wispDiskControlDeleteDisk →
      ∃ ext result, reserveOperation a.extension mutation = .ok (ext, result)
  reclaims : ∀ mutation ext result, reserveOperation a.extension mutation = .ok (ext, result) →
    Reclaims a.extension ext mutation result
  /-- `history.reservations` logs the returned operation IDs in order. -/
  retained : ∀ earlier operation later,
    a.history.reservations = earlier ++ operation :: later → later.length ≤ 110 →
      ∃ result, queryOperation a.extension a.extension.adapterInstance operation = .ok result ∧
        result.adapterInstance = a.extension.adapterInstance ∧ result.operationId = operation

theorem reserveOperation_available {ext : AdapterExtension} {mutation : ULONG}
    (hopen : ext.adapterStopping = false) (hnext : ext.nextOperationId ≠ 0)
    (hmutation : mutation = wispDiskControlCreateDisk ∨ mutation = wispDiskControlDeleteDisk)
    {i : Fin kMaximumOperationCount} (hslot : selectSlot ext.operations recordIndices none = some i) :
    ∃ ext' result, reserveOperation ext mutation = .ok (ext', result) := by
  have hkind : ¬(mutation ≠ wispDiskControlCreateDisk ∧ mutation ≠ wispDiskControlDeleteDisk) := by
    rw [not_and_or, not_not, not_not]
    exact hmutation
  unfold reserveOperation
  simp only [if_neg hkind, hopen, Bool.false_eq_true, if_false, hslot, if_neg hnext]
  exact ⟨_, _, rfl⟩

theorem reserveOperation_reclaims {C : Contract Adapter Action} {a : Adapter}
    (h : Reachable system C a) {mutation : ULONG} {ext : AdapterExtension}
    {result : OperationResult}
    (hreserve : reserveOperation a.extension mutation = .ok (ext, result)) :
    Reclaims a.extension ext mutation result := by
  obtain ⟨_, _, _, hresult, i, hslot, hext⟩ := reserveOperation_ok hreserve
  subst hext
  refine ⟨hresult, i, ?_, fun j hj => Function.update_of_ne hj _ _, ?_, fun hne => ?_⟩
  · exact Function.update_self ..
  · rcases selectSlot_evicts hslot with hblank | ⟨_, hfree, _⟩
    · have hstate : (a.extension.operations i).state = .unset :=
        (Records.reachable (reachable_anywhere h)).blank i hblank
      unfold OperationRecord.Evictable OperationRecord.LiveCreate
      rw [hstate]
      exact ⟨OperationState.noConfusion, fun hlive => OperationState.noConfusion hlive.2⟩
    · exact (OperationRecord.evictable_iff _).mpr hfree
  · obtain ⟨hused, _, hmin⟩ := (selectSlot_evicts hslot).resolve_left hne
    exact ⟨hused, fun j hj => hmin j ((OperationRecord.evictable_iff _).mp hj)⟩

theorem queryOperation_found {ext : AdapterExtension} {operation : ULONGLONG}
    (hne : operation ≠ 0) {i : Fin kMaximumOperationCount}
    (hid : (ext.operations i).id = operation) :
    ∃ result, queryOperation ext ext.adapterInstance operation = .ok result ∧
      result.adapterInstance = ext.adapterInstance ∧ result.operationId = operation := by
  unfold queryOperation
  cases hfind : findOperationLocked ext operation with
  | none =>
    rcases findOperationLocked_none hfind with hzero | hnone
    · exact absurd hzero hne
    · exact absurd hid (hnone i)
  | some k =>
    simp only [ne_eq, not_true_eq_false, if_false]
    exact ⟨_, rfl, rfl, (findOperationLocked_some hfind).1⟩

/-- Reservations on every run in which StorPort makes no restart callback during teardown. -/
theorem reservations_served (a : Adapter) (h : Reachable system noRestartDuringTeardown a) :
    a.ServesReservations := by
  have hmachine := reachable_beforeTeardown h
  refine ⟨fun hopen hnext mutation hmutation => ?_,
    fun mutation ext result => reserveOperation_reclaims h,
    fun earlier operation later hsplit hlength => ?_⟩
  · obtain ⟨i, hslot⟩ := Machine.selectSlot_isSome hmachine
    exact reserveOperation_available hopen hnext hmutation hslot
  · obtain ⟨i, hi⟩ := Machine.Retained.reachable hmachine earlier operation later hsplit hlength
    have hmem : operation ∈ a.machine.reservations := by
      have hlist : a.machine.reservations = earlier ++ operation :: later := hsplit
      rw [hlist]
      exact List.mem_append_right _ List.mem_cons_self
    have hpositive := (Records.reachable hmachine).issued.positive operation hmem
    have hne : operation ≠ 0 := fun hzero => by
      rw [hzero] at hpositive
      exact absurd hpositive (by decide)
    exact queryOperation_found hne hi

theorem reservations_served_once :
    (fresh.after [.startIo (reserveSrb wispDiskControlCreateDisk) 0]).ServesReservations :=
  reservations_served _ (reachable_after_kept (by decide +kernel) (by decide +kernel))

/-! ## Restarts during teardown -/

/-- An operation is reserved and creates a disk, from `HwStartIo` to `EndManagementLocked`. -/
def reserveAndCreate (operation : ULONGLONG) : List Action :=
  [.startIo (reserveSrb wispDiskControlCreateDisk) 0,
    .startIo (createReservedSrb 7 operation 1048576 82) 0] ++ serve 14

/-- The worker and the teardown thread drain the LUN of one disk. The worker finalizes it, an
operation creates a disk there, and teardown finalizes that disk under the ID of the first: it is
gone, and its record stays Succeeded. -/
def orphanRecord (deviceId : ULONG) (operation : ULONGLONG) (drained : ℕ) : List Action :=
  createDisk 1048576 82 ++ .startIo (deleteDiskSrb deviceId) 0 :: serve 4 ++ tearDown drained ++
    serve 10 ++ reserveAndCreate operation ++ tearDown 1

/-- With a restart callback after `WaitForIdle`, two records of no disk join those of the sixteen
disks that are online; then 111 operations are reserved. -/
def crowdTable : List Action :=
  tearDown 3 ++ .setStopping false :: orphanRecord 1 1 8 ++ orphanRecord 3 2 6 ++
    ((List.range 16).flatMap fun i => reserveAndCreate (UInt64.ofNat (i + 3))) ++
    List.replicate 111 (.startIo (reserveSrb wispDiskControlCreateDisk) 0)

/-- Whether the handle of the 19th of 129 reservations has been forgotten. -/
def forgets (a : Adapter) : Bool :=
  a.history.reservations.length == 129 && a.history.reservations[18]? == some 19 &&
    recordIndices.all fun i => (a.extension.operations i).id != 19

theorem crowdTable_forgets : (run system fresh crowdTable).any forgets = true := by decide +kernel

/-- 110 reservations after its own, an operation cannot be queried. -/
theorem restart_forgets_operation :
    ¬∀ a, Reachable system anyAction a → a.ServesReservations := fun h => by
  obtain ⟨a, hrun, hforgets⟩ := (Option.any_eq_true _ _).mp crowdTable_forgets
  unfold forgets at hforgets
  rw [Bool.and_eq_true, Bool.and_eq_true, beq_iff_eq, beq_iff_eq, List.all_eq_true] at hforgets
  obtain ⟨⟨hlength, hoperation⟩, hnone⟩ := hforgets
  obtain ⟨hlt, hget⟩ := List.getElem?_eq_some_iff.mp hoperation
  have hsplit : a.history.reservations =
      a.history.reservations.take 18 ++ 19 :: a.history.reservations.drop 19 := by
    rw [← hget, ← List.drop_eq_getElem_cons hlt, List.take_append_drop]
  have hserves := h a (reachable_of_run fresh_initial hrun)
  have hlater : (a.history.reservations.drop 19).length ≤ 110 := by
    rw [List.length_drop, hlength]
  obtain ⟨result, hquery, _⟩ := hserves.retained _ _ _ hsplit hlater
  unfold queryOperation at hquery
  cases hfind : findOperationLocked a.extension 19 with
  | none =>
    rw [hfind] at hquery
    cases hquery
  | some i =>
    have hid := (findOperationLocked_some hfind).1
    have hother := bne_iff_ne.mp (hnone i (mem_recordIndices i))
    exact hother hid

end Adapter

end WispDisk
