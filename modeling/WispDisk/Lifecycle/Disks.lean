import WispDisk.Foundations.SlotTable
import WispDisk.Lifecycle.Records

/-! The LUN table over a run: sizes, device IDs and the byte count. The quota is checked when a LUN
is selected and not again when it is committed; `headroom` is the room that the mutation in flight
has been promised in between. No assumption on restarts is needed. -/
namespace WispDisk
open Identifiers SlotTable
set_option autoImplicit false

/-- The LUN table with the disks that were ever committed. -/
structure DiskLog where
  nextDeviceId : ULONG
  total : ULONGLONG
  luns : Fin kMaximumDiskCount → Lun
  commits : List Commit

def Machine.disks (c : Machine) : DiskLog where
  nextDeviceId := c.nextDeviceId
  total := c.total
  luns := c.luns
  commits := c.commits

theorem lunNumber_toNat (l : Fin kMaximumDiskCount) : (UInt8.ofNat l.val).toNat = l.val := by
  have hl : l.val < 16 := l.isLt
  exact UInt8.toNat_ofNat_of_lt' (by change _ < 256; omega)

theorem lunNumber_inj {l m : Fin kMaximumDiskCount} (h : UInt8.ofNat l.val = UInt8.ofNat m.val) :
    l = m := by
  have hnat := congrArg UInt8.toNat h
  rw [lunNumber_toNat, lunNumber_toNat] at hnat
  exact Fin.ext hnat

/-- The sizes that `ValidateCreateRequest` lets through. -/
structure ValidSize (size : ULONGLONG) : Prop where
  lower : kMinimumDiskSize ≤ size
  upper : size ≤ kMaximumDiskSize
  aligned : size % kLogicalSectorSize.toUInt64 = 0

theorem CreateRequest.validSize {request : CreateRequest} (h : request.acceptable = true) :
    ValidSize request.sizeBytes := by
  simp only [CreateRequest.acceptable, Bool.not_eq_true', Bool.or_eq_false_iff,
    decide_eq_false_iff_not, UInt64.not_lt, bne_eq_false_iff_eq] at h
  obtain ⟨⟨⟨⟨⟨⟨⟨⟨hlower, hupper⟩, haligned⟩, _⟩, _⟩, _⟩, _⟩, _⟩, _⟩ := h
  exact ⟨hlower, hupper, haligned⟩

namespace ValidSize

variable {size : ULONGLONG}

theorem toNat_le (h : ValidSize size) : size.toNat ≤ 256 * 1024 * 1024 :=
  UInt64.le_iff_toNat_le.mp h.upper

theorem toNat_mod (h : ValidSize size) : size.toNat % 512 = 0 := by
  have haligned := congrArg UInt64.toNat h.aligned
  rw [UInt64.toNat_mod] at haligned
  exact haligned

theorem toNat_ge (h : ValidSize size) : 1024 * 1024 ≤ size.toNat :=
  UInt64.le_iff_toNat_le.mp h.lower

theorem room (h : ValidSize size) :
    (kMaximumTotalDiskBytes - size).toNat = kMaximumTotalDiskBytes.toNat - size.toNat := by
  refine UInt64.toNat_sub_of_le _ _ (UInt64.le_iff_toNat_le.mpr ?_)
  have hle := h.toNat_le
  have hmax : kMaximumTotalDiskBytes.toNat = 512 * 1024 * 1024 := by decide
  omega

end ValidSize

/-! ## The shape of a mutation in flight -/

/-- Creates run `CreateDisk`, deletes run `DeleteDisk`, and a result says whether there is a disk. -/
def Stage.shaped : Stage → Prop
  | .bound | .finishing => True
  | .select work | .allocate work _ | .commit work _ _ => work.isCreate = true
  | .free work _ status => work.isCreate = true ∧ ntSuccess status = false
  | .mark work | .drain work _ => work.isCreate = false
  | .publish work status created =>
    if work.isCreate then
      (created = none ∧ ntSuccess status = false) ∨ (created.isSome ∧ status = statusSuccess)
    else created = none ∧ (status = statusSuccess ∨ status = statusNoSuchDevice)

def Shaped (task : Option Task) : Prop := ∀ t, task = some t → t.stage.shaped

theorem Stage.start_shaped (work : Work) : (Stage.start work).shaped := by
  unfold Stage.start
  cases hcreate : work.isCreate with
  | true => exact hcreate
  | false => exact hcreate

theorem Machine.Step.shaped {restartable : Machine → Prop} {c c' : Machine}
    (hs : c.Step restartable c') (h : Shaped c.task) : Shaped c'.task := by
  intro t ht
  cases hs with
  | reserved | acquired | released | stopped | restarted | entered | admissionClosed | idle
  | idleLeft | markedAll | selectedStopping | noneStopping | targetRead | removedRead
  | workerReleased | invalidated | teardownFinalized => exact h t ht
  | teardownDrained l stage next c' hclosing hdrain =>
    rw [← hdrain.log.2] at h
    exact h t ht
  | queueFailed | ended => cases ht
  | admittedLegacy | admittedReserved | rejected | missing | answered | published =>
    cases ht
    trivial
  | startedLegacy command htask hkind =>
    cases ht
    exact Stage.start_shaped _
  | startedReserved command i correlation htask hkind hid hzero hstate =>
    cases ht
    exact Stage.start_shaped _
  | notSelected command work status htask hstatus =>
    cases ht
    have hwork : work.isCreate = true := h _ htask
    simp [Stage.shaped, hwork, hstatus]
  | selected command work l htask hquota hempty =>
    cases ht
    have hwork : work.isCreate = true := h _ htask
    exact hwork
  | notAllocated command work l htask =>
    cases ht
    have hwork : work.isCreate = true := h _ htask
    simp [Stage.shaped, hwork]
  | allocated command work l htask =>
    cases ht
    have hwork : work.isCreate = true := h _ htask
    exact hwork
  | notCommitted command work l allocation status htask hstatus =>
    cases ht
    exact ⟨h _ htask, hstatus⟩
  | committed command work l allocation htask hopen hempty hnext =>
    cases ht
    have hwork : work.isCreate = true := h _ htask
    simp [Stage.shaped, hwork]
  | freed command work allocation status htask =>
    cases ht
    obtain ⟨hwork, hstatus⟩ : work.isCreate = true ∧ ntSuccess status = false := h _ htask
    simp [Stage.shaped, hwork, hstatus]
  | notMarked command work htask hnone =>
    cases ht
    have hwork : work.isCreate = false := h _ htask
    simp [Stage.shaped, hwork]
  | marked command work l htask honline htarget =>
    cases ht
    have hwork : work.isCreate = false := h _ htask
    exact hwork
  | workerDrained command work l stage next c' htask hdrain =>
    cases ht
    have hwork : work.isCreate = false := h _ htask
    exact hwork
  | workerFinalized command work l htask =>
    cases ht
    have hwork : work.isCreate = false := h _ htask
    simp [Stage.shaped, hwork]

/-- A mutation that creates works on the request its command carries. -/
theorem InFlight.request {g : OperationLog} {command : MutationCommand} {stage : Stage}
    {work : Work} (h : InFlight g command stage) (hwork : stage.work? = some work)
    (hcreate : work.isCreate = true) : work.request = command.create ∧
      command.create.acceptable = true := by
  have hmutation : command.mutation = wispDiskControlCreateDisk ∧ work.request = command.create := by
    cases hkind : command.isReserved with
    | false =>
      have heq := h.legacyWork hkind work hwork
      unfold MutationCommand.legacyWork at heq
      split at heq
      · rename_i hm
        rw [heq]
        exact ⟨hm, rfl⟩
      · rw [heq] at hcreate
        cases hcreate
    | true =>
      have hopen : stage.isOpen = true := by
        cases stage <;> first | rfl | cases hwork
      obtain ⟨i, hi, hsnapshot⟩ := h.pending hkind hopen
      obtain ⟨correlation, heq⟩ := hsnapshot work hwork
      subst heq
      simp only [Work.isCreate, beq_iff_eq] at hcreate
      exact ⟨hi.mutation.symm.trans hcreate, hi.create⟩
  refine ⟨hmutation.2, ?_⟩
  have hvalid := h.valid
  rw [MutationCommand.validated, if_pos hmutation.1] at hvalid
  exact hvalid

/-- A create in flight asks for a valid size. -/
theorem InFlight.validSize {g : OperationLog} {command : MutationCommand} {stage : Stage}
    {work : Work} (h : InFlight g command stage) (hwork : stage.work? = some work)
    (hcreate : work.isCreate = true) : ValidSize work.request.sizeBytes := by
  obtain ⟨hrequest, hacceptable⟩ := h.request hwork hcreate
  rw [hrequest]
  exact CreateRequest.validSize hacceptable

/-! ## Accounting -/

/-- Room promised to the mutation in flight. -/
def Stage.headroom : Stage → ℕ
  | .allocate work _ | .commit work _ _ => work.request.sizeBytes.toNat
  | _ => 0

def headroom (task : Option Task) : ℕ := (task.map fun t => t.stage.headroom).getD 0

/-- Two states of one LUN that hold the same disk, if any. -/
structure SameDisk (l l' : Lun) : Prop where
  number : l'.lun = l.lun
  deviceId : l'.deviceId = l.deviceId
  size : l'.sizeBytes = l.sizeBytes
  media : l'.mediaKind = l.mediaKind
  letter : l'.requestedDriveLetter = l.requestedDriveLetter
  empty : l'.state = .empty ↔ l.state = .empty

theorem SameDisk.refl (l : Lun) : SameDisk l l := ⟨rfl, rfl, rfl, rfl, rfl, Iff.rfl⟩

/-- The bytes of all LUNs of a table. -/
def lunBytes (luns : Fin kMaximumDiskCount → Lun) : ℕ := ∑ l, (luns l).sizeBytes.toNat

theorem lunBytes_update (luns : Fin kMaximumDiskCount → Lun) (l : Fin kMaximumDiskCount)
    (lun : Lun) : lunBytes (Function.update luns l lun) + (luns l).sizeBytes.toNat =
      lunBytes luns + lun.sizeBytes.toNat :=
  sum_update luns (fun lun => lun.sizeBytes.toNat) l lun

structure Accounting (d : DiskLog) (task : Option Task) : Prop where
  issued : Issued UInt32.toNat d.nextDeviceId (d.commits.map Commit.deviceId)
  number : ∀ l, (d.luns l).lun = UInt8.ofNat l.val
  blank : ∀ l, (d.luns l).state = .empty → (d.luns l).sizeBytes = 0 ∧ (d.luns l).deviceId = 0
  valid : ∀ l, (d.luns l).state ≠ .empty → ValidSize (d.luns l).sizeBytes
  committed : ∀ l, (d.luns l).state ≠ .empty →
    (d.luns l).deviceId ∈ d.commits.map Commit.deviceId
  distinct : ∀ l m, (d.luns l).state ≠ .empty → (d.luns l).deviceId = (d.luns m).deviceId → l = m
  total : d.total.toNat = lunBytes d.luns
  quota : d.total.toNat + headroom task ≤ kMaximumTotalDiskBytes.toNat

namespace Accounting

variable {d : DiskLog} {task task' : Option Task}

theorem init (adapterInstance : ULONGLONG) :
    Accounting { adapterInstance := adapterInstance : Machine }.disks none where
  issued := Issued.empty _
  number := fun _ => rfl
  blank := fun _ _ => ⟨rfl, rfl⟩
  valid := fun _ h => absurd rfl h
  committed := fun _ h => absurd rfl h
  distinct := fun _ _ h => absurd rfl h
  total := by
    change (0 : UInt64).toNat = lunBytes initialLun
    simp [lunBytes, initialLun]
  quota := Nat.zero_le _

theorem deviceId_ne_zero (h : Accounting d task) {l : Fin kMaximumDiskCount}
    (hstate : (d.luns l).state ≠ .empty) : (d.luns l).deviceId ≠ 0 := fun heq => by
  have hpositive := h.issued.positive _ (h.committed l hstate)
  rw [heq] at hpositive
  exact absurd hpositive (by decide)

theorem next_uncommitted (h : Accounting d task) (hnext : d.nextDeviceId ≠ 0) :
    d.nextDeviceId ∉ d.commits.map Commit.deviceId :=
  h.issued.fresh fun heq => hnext (UInt32.toNat.inj heq)

theorem size_le_total (h : Accounting d task) (l : Fin kMaximumDiskCount) :
    (d.luns l).sizeBytes ≤ d.total := by
  rw [UInt64.le_iff_toNat_le, h.total]
  exact size_le_sum d.luns (fun lun => lun.sizeBytes.toNat) l

theorem total_owned (h : Accounting d task) :
    d.total.toNat = ∑ l, if (d.luns l).state = .empty then 0 else (d.luns l).sizeBytes.toNat := by
  rw [h.total]
  unfold lunBytes
  refine Finset.sum_congr rfl fun l _ => ?_
  split
  · rename_i hempty
    rw [(h.blank l hempty).1]
    rfl
  · rfl

theorem bounded (h : Accounting d task) :
    d.total.toNat ≤ 512 * 1024 * 1024 := by
  have hquota := h.quota
  have hmax : kMaximumTotalDiskBytes.toNat = 512 * 1024 * 1024 := by decide
  omega

/-- The promised room changes. -/
theorem promise (h : Accounting d task)
    (hquota : d.total.toNat + headroom task' ≤ kMaximumTotalDiskBytes.toNat) :
    Accounting d task' :=
  { h with quota := hquota }

/-- A mutation in flight gives room back. -/
theorem relax (h : Accounting d task) (hroom : headroom task' = 0) : Accounting d task' :=
  h.promise (by have := h.quota; omega)

/-- The LUNs keep their disks. -/
theorem same (h : Accounting d task) {luns : Fin kMaximumDiskCount → Lun}
    (hsame : ∀ l, SameDisk (d.luns l) (luns l)) : Accounting { d with luns := luns } task where
  issued := h.issued
  number := fun l => (hsame l).number.trans (h.number l)
  blank := by
    intro l hl
    simp only [(hsame l).size, (hsame l).deviceId, (hsame l).empty] at hl ⊢
    exact h.blank l hl
  valid := by
    intro l hl
    simp only [(hsame l).size, ne_eq, (hsame l).empty] at hl ⊢
    exact h.valid l hl
  committed := by
    intro l hl
    simp only [(hsame l).deviceId, ne_eq, (hsame l).empty] at hl ⊢
    exact h.committed l hl
  distinct := by
    intro l m hl heq
    simp only [(hsame l).deviceId, (hsame m).deviceId, ne_eq, (hsame l).empty] at hl heq
    exact h.distinct l m hl heq
  total := by
    simp only [lunBytes, fun l => (hsame l).size]
    exact h.total
  quota := h.quota

/-- `CommitNewLun` into an Empty LUN uses up the promised room. -/
theorem commit (h : Accounting d task) {l : Fin kMaximumDiskCount} {request : CreateRequest}
    {allocation : Allocation} {operation : Option ULONGLONG}
    (hempty : (d.luns l).state = .empty) (hnext : d.nextDeviceId ≠ 0)
    (hvalid : ValidSize request.sizeBytes)
    (hpromised : headroom task = request.sizeBytes.toNat) (hroom : headroom task' = 0) :
    Accounting { d with
      luns := Function.update d.luns l (LunStore.newLun request l allocation d.nextDeviceId)
      total := d.total + request.sizeBytes
      nextDeviceId := d.nextDeviceId + 1
      commits := d.commits ++ [⟨operation, request, d.nextDeviceId, l, allocation⟩] } task' := by
  have hquota := h.quota
  have hmax : kMaximumTotalDiskBytes.toNat = 512 * 1024 * 1024 := by decide
  have hsum : (d.total + request.sizeBytes).toNat = d.total.toNat + request.sizeBytes.toNat := by
    rw [UInt64.toNat_add, Nat.mod_eq_of_lt (by omega)]
  have hother : ∀ m, (d.luns m).state ≠ .empty → (d.luns m).deviceId ≠ d.nextDeviceId :=
    fun m hm heq => h.next_uncommitted hnext (heq ▸ h.committed m hm)
  refine ⟨?_, ?_, ?_, ?_, ?_, ?_, ?_, ?_⟩
  · simp only [List.map_append, List.map_singleton]
    exact h.issued.issue (fun heq => hnext (UInt32.toNat.inj heq)) (toNat_succ_uint32 _)
  · exact forall_update d.luns (fun m lun => lun.lun = UInt8.ofNat m.val) rfl h.number
  · exact forall_update d.luns (fun _ lun => lun.state = .empty → lun.sizeBytes = 0 ∧
      lun.deviceId = 0) nofun h.blank
  · exact forall_update d.luns (fun _ lun => lun.state ≠ .empty → ValidSize lun.sizeBytes)
      (fun _ => hvalid) h.valid
  · simp only [List.map_append, List.map_singleton, List.mem_append, List.mem_singleton]
    exact forall_update d.luns (fun _ lun => lun.state ≠ .empty →
        lun.deviceId ∈ d.commits.map Commit.deviceId ∨ lun.deviceId = d.nextDeviceId)
      (fun _ => Or.inr rfl) fun m hm => Or.inl (h.committed m hm)
  · intro m k hm heq
    rcases eq_or_ne m l with rfl | hml
    · rcases eq_or_ne k m with rfl | hkm
      · rfl
      · simp only [Function.update_self, Function.update_of_ne hkm] at heq
        by_cases hk : (d.luns k).state = .empty
        · rw [(h.blank k hk).2] at heq
          exact absurd heq hnext
        · exact absurd heq.symm (hother k hk)
    · simp only [Function.update_of_ne hml] at hm heq
      rcases eq_or_ne k l with rfl | hkl
      · simp only [Function.update_self] at heq
        exact absurd heq (hother m hm)
      · simp only [Function.update_of_ne hkl] at heq
        exact h.distinct m k hm heq
  · have hupdate := lunBytes_update d.luns l
      (LunStore.newLun request l allocation d.nextDeviceId)
    rw [(h.blank l hempty).1, ← h.total, UInt64.toNat_zero, Nat.add_zero] at hupdate
    exact hsum.trans hupdate.symm
  · rw [hsum, hroom]
    omega

/-- `FinalizeRemovalLocked` takes exactly the LUN's size off the total. -/
theorem remove (h : Accounting d task) (l : Fin kMaximumDiskCount) :
    Accounting { d with
      luns := Function.update d.luns l (LunStore.removedLun (d.luns l))
      total := if (d.luns l).sizeBytes ≤ d.total then d.total - (d.luns l).sizeBytes else 0 }
      task := by
  have hle := h.size_le_total l
  have hsub : (d.total - (d.luns l).sizeBytes).toNat =
      d.total.toNat - (d.luns l).sizeBytes.toNat := UInt64.toNat_sub_of_le _ _ hle
  have hquota := h.quota
  rw [if_pos hle]
  refine ⟨h.issued, ?_, ?_, ?_, ?_, ?_, ?_, ?_⟩
  · exact forall_update d.luns (fun m lun => lun.lun = UInt8.ofNat m.val) (h.number l) h.number
  · exact forall_update d.luns (fun _ lun => lun.state = .empty → lun.sizeBytes = 0 ∧
      lun.deviceId = 0) (fun _ => ⟨rfl, rfl⟩) h.blank
  · exact forall_update d.luns (fun _ lun => lun.state ≠ .empty → ValidSize lun.sizeBytes)
      (fun hne => absurd rfl hne) h.valid
  · exact forall_update d.luns (fun _ lun => lun.state ≠ .empty →
      lun.deviceId ∈ d.commits.map Commit.deviceId) (fun hne => absurd rfl hne) h.committed
  · intro m k hm heq
    rcases eq_or_ne m l with rfl | hml
    · simp only [Function.update_self] at hm
      exact absurd rfl hm
    · simp only [Function.update_of_ne hml] at hm heq
      rcases eq_or_ne k l with rfl | hkl
      · simp only [Function.update_self] at heq
        exact absurd heq (h.deviceId_ne_zero hm)
      · simp only [Function.update_of_ne hkl] at heq
        exact h.distinct m k hm heq
  · have hupdate := lunBytes_update d.luns l (LunStore.removedLun (d.luns l))
    have hzero : (LunStore.removedLun (d.luns l)).sizeBytes.toNat = 0 := rfl
    rw [← h.total, hzero] at hupdate
    rw [hsub]
    exact Nat.sub_eq_of_eq_add hupdate.symm
  · rw [hsub]
    omega

end Accounting

/-! ## Steps that keep the disks -/

theorem Lun.acquired_same (l : Lun) : SameDisk l l.acquired := ⟨rfl, rfl, rfl, rfl, rfl, Iff.rfl⟩

theorem Lun.released_same (l : Lun) : SameDisk l l.released := by
  unfold Lun.released
  split <;> exact ⟨rfl, rfl, rfl, rfl, rfl, Iff.rfl⟩

theorem Machine.publishedLuns_same (luns : Fin kMaximumDiskCount → Lun) (record : OperationRecord)
    (l : Fin kMaximumDiskCount) : SameDisk (luns l) (publishedLuns luns record l) := by
  have hbind : ∀ lun, SameDisk lun { lun with createOperationId := record.id } := fun _ =>
    ⟨rfl, rfl, rfl, rfl, rfl, Iff.rfl⟩
  unfold publishedLuns bindCreate
  split
  · split
    · exact relate_update SameDisk.refl (hbind _) l
    · exact SameDisk.refl _
  · exact SameDisk.refl _

theorem Machine.DrainStep.same {c c' : Machine} {d : Drain} {next : DrainStage}
    (h : DrainStep c d c' next) : (∀ l, SameDisk (c.luns l) (c'.luns l)) ∧
      c'.disks = { c.disks with luns := c'.luns } := by
  cases h with
  | waited | refused | freed => exact ⟨fun l => SameDisk.refl _, rfl⟩
  | detached l hstate =>
    exact ⟨relate_update SameDisk.refl ⟨rfl, rfl, rfl, rfl, rfl, Iff.rfl⟩, rfl⟩

/-- Every step keeps the accounts. -/
theorem Accounting.step {restartable : Machine → Prop} {c c' : Machine}
    (h : Accounting c.disks c.task) (hr : Records c.log c.task) (hshape : Shaped c.task)
    (hs : c.Step restartable c') : Accounting c'.disks c'.task := by
  cases hs with
  | reserved | stopped | restarted | entered | admissionClosed | idle | idleLeft
  | selectedStopping | noneStopping | targetRead | removedRead | workerReleased | invalidated =>
    exact h
  | admittedLegacy | admittedReserved | queueFailed | rejected | missing | notSelected
  | notAllocated | notCommitted | freed | notMarked | answered | ended => exact h.relax rfl
  | startedLegacy | startedReserved =>
    refine h.relax ?_
    simp only [headroom, Machine.setTask, Option.map_some, Option.getD_some, Stage.start]
    split <;> rfl
  | selected command work l htask hquota hempty =>
    have hvalid := (hr.inFlight _ _ htask).validSize rfl (hshape _ htask)
    have hle := UInt64.le_iff_toNat_le.mp hquota
    have hsize := hvalid.toNat_le
    have hmax : kMaximumTotalDiskBytes.toNat = 512 * 1024 * 1024 := by decide
    rw [hvalid.room] at hle
    refine h.promise ?_
    change c.total.toNat + work.request.sizeBytes.toNat ≤ _
    omega
  | allocated command work l htask =>
    have hquota := h.quota
    rw [htask] at hquota
    exact h.promise hquota
  | committed command work l allocation htask hopen hempty hnext =>
    have hvalid := (hr.inFlight _ _ htask).validSize rfl (hshape _ htask)
    refine h.commit hempty hnext hvalid ?_ rfl
    rw [htask]
    rfl
  | marked command work l htask honline htarget =>
    refine (h.relax rfl).same (relate_update SameDisk.refl ⟨rfl, rfl, rfl, rfl, rfl, ?_⟩)
    exact ⟨nofun, fun hempty => LunState.noConfusion (honline.symm.trans hempty)⟩
  | workerDrained command work l stage next c' htask hdrain =>
    have hsame := h.same hdrain.same.1
    rw [← hdrain.same.2] at hsame
    exact hsame.relax rfl
  | workerFinalized command work l htask => exact (h.remove l).relax rfl
  | published command snapshot correlation status created i htask hid hzero =>
    exact (h.relax rfl).same (Machine.publishedLuns_same c.luns _)
  | acquired l backing honline hbacking hlimit =>
    exact h.same (relate_update SameDisk.refl (Lun.acquired_same _))
  | released i lease hlease => exact h.same (relate_update SameDisk.refl (Lun.released_same _))
  | markedAll hclosing =>
    refine h.same fun l => ?_
    simp only
    split
    · rename_i honline
      exact ⟨rfl, rfl, rfl, rfl, rfl, nofun, fun hempty => LunState.noConfusion (honline.symm.trans hempty)⟩
    · exact SameDisk.refl _
  | teardownDrained l stage next c' hclosing hdrain =>
    have hsame := h.same hdrain.same.1
    rw [← hdrain.same.2, ← hdrain.log.2] at hsame
    exact hsame
  | teardownFinalized l deviceId hclosing => exact h.remove l

theorem Shaped.reachable {restartable : Machine → Prop} {c : Machine}
    (h : c.Reachable restartable) : Shaped c.task := by
  obtain ⟨adapterInstance, hrun⟩ := h
  induction hrun with
  | refl =>
    intro t ht
    cases ht
  | tail _ hs ih => exact hs.shaped ih

theorem Accounting.reachable {restartable : Machine → Prop} {c : Machine}
    (h : c.Reachable restartable) : Accounting c.disks c.task := by
  obtain ⟨adapterInstance, hrun⟩ := h
  induction hrun with
  | refl => exact Accounting.init adapterInstance
  | tail hrun hs ih =>
    exact ih.step (Records.reachable ⟨_, hrun⟩) (Shaped.reachable ⟨_, hrun⟩) hs

end WispDisk
