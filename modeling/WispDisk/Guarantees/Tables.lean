import WispDisk.Guarantees.Schedules
import WispDisk.Lifecycle.Agreement
import WispDisk.Lifecycle.Simulation
import WispDisk.Lifecycle.Whereabouts

/-! The operation table and the LUN table of the adapter agree between any two critical sections,
under StorPort's contract for restarts. -/
namespace WispDisk
open Transition
set_option autoImplicit false

namespace Adapter

/-- The two-way correspondence of Succeeded creates and owned LUNs. -/
structure TablesAgree (a : Adapter) : Prop where
  /-- A Succeeded create names the Online or Stopping LUN of its disk. -/
  succeeded : ∀ i, (a.extension.operations i).LiveCreate → ∃ l : Fin kMaximumDiskCount,
    (a.extension.operations i).lun = UInt8.ofNat l.val ∧
      Holds (a.extension.luns l) (a.extension.operations i).deviceId
        (a.extension.operations i).create (a.extension.operations i).id
  /-- An owned LUN of an operation has exactly one record, a Succeeded create for it. -/
  owned : ∀ l, (a.extension.luns l).state ≠ .empty →
    (a.extension.luns l).createOperationId ≠ 0 → ∃ i, (a.extension.operations i).LiveCreate ∧
      (a.extension.operations i).id = (a.extension.luns l).createOperationId ∧
      (a.extension.operations i).lun = UInt8.ofNat l.val ∧
      (a.extension.operations i).deviceId = (a.extension.luns l).deviceId ∧
      ∀ j, (a.extension.operations j).id = (a.extension.luns l).createOperationId → j = i
  /-- An owned LUN of no operation comes from a legacy create or from the pending one. -/
  unbound : ∀ l, (a.extension.luns l).state ≠ .empty →
    (a.extension.luns l).createOperationId = 0 →
    (∃ commit ∈ a.history.commits, commit.operation = none ∧
        commit.deviceId = (a.extension.luns l).deviceId) ∨
      ∃ i, (a.extension.operations i).mutation = wispDiskControlCreateDisk ∧
        (a.extension.operations i).state = .pending ∧
        (∀ j, (a.extension.operations j).state = .pending → j = i) ∧
        ∃ commit ∈ a.history.commits, commit.operation = some (a.extension.operations i).id ∧
          commit.deviceId = (a.extension.luns l).deviceId ∧ commit.lun = l
  /-- The disk of a Deleted create is on no LUN and its backing store was freed once. -/
  deleted : ∀ i, (a.extension.operations i).DeletedCreate →
    (∀ l, (a.extension.luns l).state ≠ .empty →
        (a.extension.luns l).deviceId ≠ (a.extension.operations i).deviceId) ∧
      ∃ commit ∈ a.history.commits, commit.operation = some (a.extension.operations i).id ∧
        commit.deviceId = (a.extension.operations i).deviceId ∧
        a.pool.frees.count commit.allocation = 1

end Adapter

/-- A disk that waits for its record belongs to the one pending create. -/
theorem Machine.publishing_pending {restartable : Machine → Prop} {c : Machine}
    (h : c.Reachable restartable) {snapshot : OperationRecord} {deviceId : ULONG} {lun : UCHAR}
    (hpublishing : publishing c.task = some (snapshot, deviceId, lun)) :
    ∃ i, (c.operations i).mutation = wispDiskControlCreateDisk ∧
      (c.operations i).state = .pending ∧
      (∀ j, (c.operations j).state = .pending → j = i) ∧
      ∃ commit ∈ c.commits, commit.operation = some (c.operations i).id ∧
        commit.deviceId = deviceId ∧ UInt8.ofNat commit.lun.val = lun := by
  have hrecords := Records.reachable h
  unfold publishing at hpublishing
  split at hpublishing
  · rename_i command snapshot correlation status deviceId lun htask
    cases hpublishing
    have hcreate : snapshot.mutation = wispDiskControlCreateDisk := by
      have hshape := Shaped.reachable h _ htask
      by_contra hdelete
      have hwork : (Work.reserved snapshot correlation).isCreate = false :=
        beq_eq_false_iff_ne.mpr hdelete
      simp only [Stage.shaped, hwork, Bool.false_eq_true, if_false] at hshape
      cases hshape.1
    have haccounted := (Outcomes.reachable h).accounted _ htask snapshot.id rfl
    obtain ⟨commit, hcommit, hoperation, _, hdevice, hlun⟩ := haccounted
    obtain ⟨i, _, heq, _, hstate⟩ :=
      (htask ▸ hrecords).pending_of_work (x := snapshot.id) rfl rfl
    cases heq
    exact ⟨i, hcreate, hstate, fun j hj => hrecords.pending_unique hj hstate, commit, hcommit,
      hoperation, hdevice, hlun⟩
  · cases hpublishing

/-- The operation table and the LUN table agree in every reachable state. -/
theorem Adapter.tables_agree (a : Adapter)
    (h : Reachable Adapter.system Adapter.noRestartDuringTeardown a) : a.TablesAgree := by
  have hmachine := Adapter.reachable_beforeTeardown h
  have hrecords := Records.reachable hmachine
  have hagreement := Machine.Agreement.reachable hmachine
  refine ⟨hagreement.named, fun l hl hoperation => ?_, fun l hl hoperation => ?_,
    fun i hi => ⟨hagreement.gone i hi, ?_⟩⟩
  · obtain ⟨i, hlive, hid, hlun⟩ := hagreement.recorded l hl hoperation
    obtain ⟨m, hm, hholds⟩ := hagreement.named i hlive
    have hml : l = m := lunNumber_inj (hlun.symm.trans hm)
    subst hml
    refine ⟨i, hlive, hid, hlun, hholds.deviceId.symm, fun j hj => ?_⟩
    have hne : (a.extension.operations i).id ≠ 0 := fun hzero => hoperation (hid.symm.trans hzero)
    exact (hrecords.unique i j hne (hid.trans hj.symm)).symm
  · rcases hagreement.unrecorded l hl hoperation with hlegacy | ⟨snapshot, hpublishing⟩
    · exact Or.inl hlegacy
    · obtain ⟨i, hmutation, hstate, honly, commit, hcommit, hoperation, hdevice, hlun⟩ :=
        Machine.publishing_pending hmachine hpublishing
      exact Or.inr ⟨i, hmutation, hstate, honly, commit, hcommit, hoperation, hdevice,
        lunNumber_inj hlun⟩
  · obtain ⟨commit, hcommit, hoperation, _, hdevice, _⟩ :=
      ((Outcomes.reachable hmachine).truthful i).created hi.1 (Or.inr hi.2)
    refine ⟨commit, hcommit, hoperation, hdevice, Machine.freed_of_gone hmachine hcommit ?_⟩
    intro l hl
    rw [hdevice]
    exact hagreement.gone i hi l hl

/-- A reserved create that has been published. -/
theorem Adapter.tables_agree_created :
    (Adapter.fresh.after (.startIo (reserveSrb wispDiskControlCreateDisk) 0 ::
      .startIo (createReservedSrb 7 1 1048576 82) 0 :: serve 14)).TablesAgree :=
  Adapter.tables_agree _ (Adapter.reachable_after_kept (by decide +kernel) (by decide +kernel))

end WispDisk
