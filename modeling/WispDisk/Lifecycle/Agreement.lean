import WispDisk.Lifecycle.Backing
import WispDisk.Lifecycle.Outcomes

/-! The operation table and the LUN table agree, when StorPort does not restart an adapter whose
teardown has begun: a Succeeded create and the LUN it names point at each other. In between,
`CommitNewLun` leaves a LUN whose record is still Pending; `publishing` is that disk. -/
namespace WispDisk
open SlotTable Effects
set_option autoImplicit false

/-- A create whose disk exists. -/
def OperationRecord.LiveCreate (r : OperationRecord) : Prop :=
  r.mutation = wispDiskControlCreateDisk ∧ r.state = .succeeded

/-- A create whose disk has been removed. -/
def OperationRecord.DeletedCreate (r : OperationRecord) : Prop :=
  r.mutation = wispDiskControlCreateDisk ∧ r.state = .deleted

theorem OperationRecord.not_created {r : OperationRecord} {s : OperationState} (h : r.state = s)
    (hs : s ≠ .succeeded ∧ s ≠ .deleted) : ¬r.LiveCreate ∧ ¬r.DeletedCreate :=
  ⟨fun hlive => hs.1 (h.symm.trans hlive.2), fun hdead => hs.2 (h.symm.trans hdead.2)⟩

/-- The LUN holds a disk of a request, created for an operation (zero for none). -/
structure Holds (lun : Lun) (deviceId : ULONG) (request : CreateRequest) (operation : ULONGLONG) :
    Prop where
  state : lun.state ≠ .empty
  deviceId : lun.deviceId = deviceId
  size : lun.sizeBytes = request.sizeBytes
  media : lun.mediaKind = request.mediaKind
  letter : lun.requestedDriveLetter = request.requestedDriveLetter
  operation : lun.createOperationId = operation

/-- The disk committed for a reserved create that is not published yet. -/
def publishing : Option Task → Option (OperationRecord × ULONG × UCHAR)
  | some ⟨_, .publish (.reserved snapshot _) _ (some (deviceId, lun))⟩ =>
    some (snapshot, deviceId, lun)
  | _ => none

structure Agreement (operations : Fin kMaximumOperationCount → OperationRecord)
    (luns : Fin kMaximumDiskCount → Lun) (publishing : Option (OperationRecord × ULONG × UCHAR))
    (commits : List Commit) : Prop where
  named : ∀ i, (operations i).LiveCreate → ∃ l : Fin kMaximumDiskCount,
    (operations i).lun = UInt8.ofNat l.val ∧
      Holds (luns l) (operations i).deviceId (operations i).create (operations i).id
  recorded : ∀ l, (luns l).state ≠ .empty → (luns l).createOperationId ≠ 0 → ∃ i,
    (operations i).LiveCreate ∧ (operations i).id = (luns l).createOperationId ∧
      (operations i).lun = UInt8.ofNat l.val
  unrecorded : ∀ l, (luns l).state ≠ .empty → (luns l).createOperationId = 0 →
    (∃ commit ∈ commits, commit.operation = none ∧ commit.deviceId = (luns l).deviceId) ∨
      ∃ snapshot, publishing = some (snapshot, (luns l).deviceId, UInt8.ofNat l.val)
  publishing : ∀ snapshot deviceId lun, publishing = some (snapshot, deviceId, lun) →
    ∃ l : Fin kMaximumDiskCount, lun = UInt8.ofNat l.val ∧
      Holds (luns l) deviceId snapshot.create 0
  gone : ∀ i, (operations i).DeletedCreate → ∀ l, (luns l).state ≠ .empty →
    (luns l).deviceId ≠ (operations i).deviceId

/-- Two states of one LUN that hold the same disk of the same operation. -/
structure SameEntry (l l' : Lun) : Prop extends SameDisk l l' where
  operation : l'.createOperationId = l.createOperationId

theorem SameEntry.refl (l : Lun) : SameEntry l l := ⟨SameDisk.refl l, rfl⟩

theorem Holds.same {l l' : Lun} {deviceId : ULONG} {request : CreateRequest}
    {operation : ULONGLONG} (h : Holds l deviceId request operation) (hsame : SameEntry l l') :
    Holds l' deviceId request operation :=
  ⟨fun hempty => h.state (hsame.empty.mp hempty), hsame.deviceId.trans h.deviceId,
    hsame.size.trans h.size, hsame.media.trans h.media, hsame.letter.trans h.letter,
    hsame.operation.trans h.operation⟩

namespace Agreement

variable {operations : Fin kMaximumOperationCount → OperationRecord}
  {luns : Fin kMaximumDiskCount → Lun} {pub : Option (OperationRecord × ULONG × UCHAR)}
  {commits : List Commit}

theorem init : Agreement (fun _ => {}) initialLun none [] where
  named := fun _ h => nomatch h.2
  recorded := fun _ h => absurd rfl h
  unrecorded := fun _ h => absurd rfl h
  publishing := nofun
  gone := fun _ h => nomatch h.2

/-- The LUNs keep their disks. -/
theorem same (h : Agreement operations luns pub commits) {luns' : Fin kMaximumDiskCount → Lun}
    (hsame : ∀ l, SameEntry (luns l) (luns' l)) : Agreement operations luns' pub commits where
  named := fun i hi => by
    obtain ⟨l, hl, hholds⟩ := h.named i hi
    exact ⟨l, hl, hholds.same (hsame l)⟩
  recorded := fun l hl hop => by
    rw [(hsame l).operation] at hop ⊢
    exact h.recorded l (fun hempty => hl ((hsame l).empty.mpr hempty)) hop
  unrecorded := fun l hl hop => by
    rw [(hsame l).deviceId]
    exact h.unrecorded l (fun hempty => hl ((hsame l).empty.mpr hempty)) ((hsame l).operation ▸ hop)
  publishing := fun snapshot deviceId lun hp => by
    obtain ⟨l, hl, hholds⟩ := h.publishing snapshot deviceId lun hp
    exact ⟨l, hl, hholds.same (hsame l)⟩
  gone := fun i hi l hl => by
    rw [(hsame l).deviceId]
    exact h.gone i hi l fun hempty => hl ((hsame l).empty.mpr hempty)

/-- Records change that are no creates with a disk, before or after. -/
theorem rewrite (h : Agreement operations luns pub commits)
    {operations' : Fin kMaximumOperationCount → OperationRecord}
    (hkeep : ∀ i, (operations i).LiveCreate → operations' i = operations i)
    (hnew : ∀ i, (operations' i).LiveCreate ∨ (operations' i).DeletedCreate →
      operations' i = operations i) : Agreement operations' luns pub commits where
  named := fun i hi => by
    have heq := hnew i (Or.inl hi)
    rw [heq] at hi ⊢
    exact h.named i hi
  recorded := fun l hl hop => by
    obtain ⟨i, hi, hid, hlun⟩ := h.recorded l hl hop
    exact ⟨i, by rwa [hkeep i hi], by rwa [hkeep i hi], by rwa [hkeep i hi]⟩
  unrecorded := h.unrecorded
  publishing := h.publishing
  gone := fun i hi => by
    have heq := hnew i (Or.inr hi)
    rw [heq] at hi ⊢
    exact h.gone i hi

/-- One record changes that is no create with a disk, before or after. -/
theorem rewriteOne (h : Agreement operations luns pub commits) {i : Fin kMaximumOperationCount}
    {record : OperationRecord} (hbefore : ¬(operations i).LiveCreate)
    (hafter : ¬record.LiveCreate ∧ ¬record.DeletedCreate) :
    Agreement (Function.update operations i record) luns pub commits := by
  refine h.rewrite (fun j hj => ?_) fun j hj => ?_
  · rcases eq_or_ne j i with rfl | hne
    · exact absurd hj hbefore
    · exact Function.update_of_ne hne _ _
  · rcases eq_or_ne j i with rfl | hne
    · rw [Function.update_self] at hj
      exact absurd hj (not_or.mpr hafter)
    · exact Function.update_of_ne hne _ _

/-- `CommitNewLun`: a legacy create has no record, a reserved one publishes its record later. -/
theorem commit (h : Agreement operations luns none commits) {l : Fin kMaximumDiskCount}
    {request : CreateRequest} {allocation : Allocation} {deviceId : ULONG}
    {operation : Option ULONGLONG} (hempty : (luns l).state = .empty)
    (hfresh : ∀ i, (operations i).DeletedCreate → (operations i).deviceId ≠ deviceId)
    (pub' : Option (OperationRecord × ULONG × UCHAR))
    (hpub : (pub' = none ∧ operation = none) ∨
      ∃ snapshot : OperationRecord, pub' = some (snapshot, deviceId, UInt8.ofNat l.val) ∧
        snapshot.create = request) :
    Agreement operations
      (Function.update luns l (LunStore.newLun request l allocation deviceId)) pub'
      (commits ++ [⟨operation, request, deviceId, l, allocation⟩]) where
  named := fun i hi => by
    obtain ⟨m, hm, hholds⟩ := h.named i hi
    have hne : m ≠ l := fun heq => hholds.state (heq ▸ hempty)
    refine ⟨m, hm, ?_⟩
    rwa [Function.update_of_ne hne]
  recorded := fun m hm hop => by
    rcases eq_or_ne m l with rfl | hne
    · rw [Function.update_self] at hop
      exact absurd rfl hop
    · rw [Function.update_of_ne hne] at hm hop ⊢
      exact h.recorded m hm hop
  unrecorded := fun m hm hop => by
    rcases eq_or_ne m l with rfl | hne
    · rw [Function.update_self]
      rcases hpub with ⟨_, hnone⟩ | ⟨snapshot, hsome, _⟩
      · exact Or.inl ⟨_, List.mem_append_right _ List.mem_cons_self, hnone, rfl⟩
      · exact Or.inr ⟨snapshot, hsome⟩
    · rw [Function.update_of_ne hne] at hm hop ⊢
      rcases h.unrecorded m hm hop with ⟨commit, hcommit, hrest⟩ | ⟨_, hnone⟩
      · exact Or.inl ⟨commit, List.mem_append_left _ hcommit, hrest⟩
      · cases hnone
  publishing := fun snapshot deviceId' lun hp => by
    rcases hpub with ⟨hnone, _⟩ | ⟨snapshot', hsome, hrequest⟩
    · rw [hnone] at hp
      cases hp
    · rw [hsome] at hp
      cases hp
      refine ⟨l, rfl, ?_⟩
      rw [Function.update_self, hrequest]
      exact ⟨nofun, rfl, rfl, rfl, rfl, rfl⟩
  gone := fun i hi m hm => by
    rcases eq_or_ne m l with rfl | hne
    · rw [Function.update_self]
      exact (hfresh i hi).symm
    · rw [Function.update_of_ne hne] at hm ⊢
      exact h.gone i hi m hm

/-- `PublishOperationResult` of a create that has a disk. -/
theorem publish {i : Fin kMaximumOperationCount} {record : OperationRecord} {deviceId : ULONG}
    {lun : UCHAR} (h : Agreement operations luns (some (operations i, deviceId, lun)) commits)
    (hbefore : (operations i).state = .pending) (hlive : record.LiveCreate)
    (hzero : record.id ≠ 0)
    (hcreate : record.create = (operations i).create) (hdevice : record.deviceId = deviceId)
    (hlun : record.lun = lun) (hused : ∀ j, (operations j).LiveCreate → (operations j).id ≠ 0) :
    Agreement (Function.update operations i record)
      (Machine.bindCreate luns record.lun record.id) none commits := by
  obtain ⟨l, hl, hholds⟩ := h.publishing _ _ _ rfl
  have hbound : Machine.bindCreate luns record.lun record.id =
      Function.update luns l { luns l with createOperationId := record.id } := by
    unfold Machine.bindCreate
    rw [hlun, hl, dif_pos (by rw [lunNumber_toNat]; exact l.isLt)]
    simp only [lunNumber_toNat]
  have hother : ∀ j, (operations j).LiveCreate → j ≠ i := fun j hj heq => by
    rw [heq] at hj
    exact nomatch hbefore.symm.trans hj.2
  rw [hbound]
  refine ⟨fun j hj => ?_, fun m hm hop => ?_, fun m hm hop => ?_, nofun, fun j hj m hm => ?_⟩
  · rcases eq_or_ne j i with rfl | hne
    · refine ⟨l, ?_, ?_⟩
      · rw [Function.update_self, hlun, hl]
      · simp only [Function.update_self]
        exact ⟨hholds.state, hholds.deviceId.trans hdevice.symm,
          hholds.size.trans (by rw [hcreate]), hholds.media.trans (by rw [hcreate]),
          hholds.letter.trans (by rw [hcreate]), rfl⟩
    · rw [Function.update_of_ne hne] at hj ⊢
      obtain ⟨m, hm, hholds'⟩ := h.named j hj
      have hml : m ≠ l := fun heq => by
        rw [heq] at hholds'
        exact hused j hj (hholds'.operation.symm.trans hholds.operation)
      refine ⟨m, hm, ?_⟩
      rwa [Function.update_of_ne hml]
  · rcases eq_or_ne m l with rfl | hne
    · refine ⟨i, ?_, ?_, ?_⟩
      · rwa [Function.update_self]
      · rw [Function.update_self, Function.update_self]
      · rw [Function.update_self, hlun, hl]
    · rw [Function.update_of_ne hne] at hm hop ⊢
      obtain ⟨j, hj, hjid, hjlun⟩ := h.recorded m hm hop
      have hji := hother j hj
      exact ⟨j, by rwa [Function.update_of_ne hji], by rwa [Function.update_of_ne hji],
        by rwa [Function.update_of_ne hji]⟩
  · rcases eq_or_ne m l with rfl | hne
    · rw [Function.update_self] at hop
      exact absurd hop hzero
    · rw [Function.update_of_ne hne] at hm hop ⊢
      rcases h.unrecorded m hm hop with hlegacy | ⟨_, heq⟩
      · exact Or.inl hlegacy
      · cases heq
        exact absurd (lunNumber_inj hl) hne
  · have hji : j ≠ i := fun heq => by
      rw [heq, Function.update_self] at hj
      exact nomatch hlive.2.symm.trans hj.2
    rw [Function.update_of_ne hji] at hj ⊢
    rcases eq_or_ne m l with rfl | hne
    · rw [Function.update_self]
      exact h.gone j hj m hholds.state
    · rw [Function.update_of_ne hne] at hm ⊢
      exact h.gone j hj m hm

/-- `FinalizeDiskRemoval` of the disk in a LUN. -/
theorem finalize (h : Agreement operations luns none commits) {l : Fin kMaximumDiskCount}
    (hstate : (luns l).state ≠ .empty)
    (hdistinct : ∀ m, (luns l).deviceId = (luns m).deviceId → l = m) :
    Agreement (fun i => ManagementController.markDeleted (luns l).deviceId (operations i))
      (Function.update luns l (LunStore.removedLun (luns l))) none commits := by
  have hkept : ∀ i, (ManagementController.markDeleted (luns l).deviceId (operations i)).LiveCreate →
      ManagementController.markDeleted (luns l).deviceId (operations i) = operations i ∧
        (operations i).deviceId ≠ (luns l).deviceId := by
    intro i hi
    unfold ManagementController.markDeleted at hi ⊢
    split at hi
    · exact nomatch hi.2
    · rename_i hne
      rw [if_neg hne]
      exact ⟨rfl, fun heq => hne ⟨hi.1, heq, hi.2⟩⟩
  have hkeep : ∀ i, (operations i).deviceId ≠ (luns l).deviceId →
      ManagementController.markDeleted (luns l).deviceId (operations i) = operations i := by
    intro i hne
    unfold ManagementController.markDeleted
    rw [if_neg fun hmatch => hne hmatch.2.1]
  refine ⟨fun i hi => ?_, fun m hm hop => ?_, fun m hm hop => ?_, nofun, fun i hi m hm => ?_⟩
  · obtain ⟨heq, hdevice⟩ := hkept i hi
    simp only [heq] at hi ⊢
    obtain ⟨m, hm, hholds⟩ := h.named i hi
    have hne : m ≠ l := fun hml => by
      rw [hml] at hholds
      exact hdevice hholds.deviceId.symm
    refine ⟨m, hm, ?_⟩
    rwa [Function.update_of_ne hne]
  · rcases eq_or_ne m l with rfl | hne
    · rw [Function.update_self] at hm
      exact absurd rfl hm
    · rw [Function.update_of_ne hne] at hm hop ⊢
      obtain ⟨i, hi, hid, hlun⟩ := h.recorded m hm hop
      obtain ⟨k, hk, hholds⟩ := h.named i hi
      have hkm : k = m := lunNumber_inj (hk.symm.trans hlun)
      subst hkm
      have hdevice : (operations i).deviceId ≠ (luns l).deviceId := fun heq =>
        hne (hdistinct k (heq.symm.trans hholds.deviceId.symm)).symm
      refine ⟨i, ?_, ?_, ?_⟩ <;> simp only [hkeep i hdevice]
      exacts [hi, hid, hlun]
  · rcases eq_or_ne m l with rfl | hne
    · rw [Function.update_self] at hm
      exact absurd rfl hm
    · rw [Function.update_of_ne hne] at hm hop ⊢
      exact h.unrecorded m hm hop
  · rcases eq_or_ne m l with rfl | hne
    · rw [Function.update_self] at hm
      exact absurd rfl hm
    · rw [Function.update_of_ne hne] at hm ⊢
      simp only [ManagementController.markDeleted] at hi ⊢
      split at hi
      · rename_i hmatch
        rw [if_pos hmatch]
        simp only [hmatch.2.1]
        exact fun heq => hne (hdistinct m heq.symm).symm
      · rename_i hmatch
        rw [if_neg hmatch]
        exact h.gone i hi m hm

end Agreement

/-! ## Every step -/

theorem pinned_of_live {r : OperationRecord} (h : r.LiveCreate) :
    ManagementController.pinned r = true := by
  simp [ManagementController.pinned, h.1, h.2]

theorem publishing_none (command : MutationCommand) (work : Work) (status : NTSTATUS) :
    publishing (some ⟨command, .publish work status none⟩) = none := by
  cases work <;> rfl

theorem publishing_start (command : MutationCommand) (work : Work) :
    publishing (some ⟨command, .start work⟩) = none := by
  unfold Stage.start
  split <;> rfl

theorem Failing.agreement {c : Machine} {command : MutationCommand} {stage : Stage}
    {operations : Fin kMaximumOperationCount → OperationRecord}
    {pub : Option (OperationRecord × ULONG × UCHAR)}
    (hfail : Failing c.operations command operations) (hr : Records c.log (some ⟨command, stage⟩))
    (hopen : stage.isOpen = true) (h : Agreement c.operations c.luns pub c.commits) :
    Agreement operations c.luns pub c.commits := by
  cases hfail with
  | legacy | missing => exact h
  | failed hkind i hid hzero status hstatus =>
    obtain ⟨k, hk, _⟩ := (hr.inFlight command stage rfl).pending hkind hopen
    have hik : i = k := hr.slot_eq hk hid
    subst hik
    refine h.rewriteOne (fun hlive => ?_) (OperationRecord.not_created (s := .failed) rfl (by decide))
    exact nomatch hk.state.symm.trans hlive.2

theorem Lun.released_entry (l : Lun) : SameEntry l l.released := by
  refine ⟨l.released_same, ?_⟩
  unfold Lun.released
  split <;> rfl

theorem Machine.DrainStep.entry {c c' : Machine} {d : Drain} {next : DrainStage}
    (h : DrainStep c d c' next) : (∀ l, SameEntry (c.luns l) (c'.luns l)) ∧
      c'.operations = c.operations ∧ c'.commits = c.commits := by
  cases h with
  | waited | refused | freed => exact ⟨fun l => SameEntry.refl _, rfl, rfl⟩
  | detached l hstate =>
    exact ⟨relate_update SameEntry.refl ⟨⟨rfl, rfl, rfl, rfl, rfl, Iff.rfl⟩, rfl⟩, rfl, rfl⟩

def Machine.Agreement (c : Machine) : Prop :=
  WispDisk.Agreement c.operations c.luns (publishing c.task) c.commits

/-- The worker and teardown finalize only the LUN they have emptied, under its own device ID. -/
theorem Machine.Agreement.finalize {c : Machine}
    (h : WispDisk.Agreement c.operations c.luns none c.commits)
    (ha : Accounting c.disks c.task) {l : Fin kMaximumDiskCount} {deviceId : ULONG}
    (hstate : (c.luns l).state = .stopping) (hdevice : (c.luns l).deviceId = deviceId) :
    WispDisk.Agreement (c.finalizeRemoval l deviceId).operations
      (c.finalizeRemoval l deviceId).luns none c.commits := by
  subst hdevice
  have hne : (c.luns l).state ≠ .empty := by
    rw [hstate]
    decide
  exact WispDisk.Agreement.finalize h hne fun m => ha.distinct l m hne

/-- `PublishOperationResult`, whatever the result. -/
theorem Machine.Agreement.published {c : Machine} (h : c.Agreement)
    (hr : Records c.log c.task) (hshape : Shaped c.task) {command : MutationCommand}
    {snapshot : OperationRecord} {correlation : ULONGLONG} {status : NTSTATUS}
    {created : Option (ULONG × UCHAR)} {i : Fin kMaximumOperationCount}
    (htask : c.task = some ⟨command, .publish (.reserved snapshot correlation) status created⟩)
    (hid : (c.operations i).id = snapshot.id) (hzero : (c.operations i).id ≠ 0) :
    WispDisk.Agreement (Function.update c.operations i (resolvedRecord snapshot status created))
      (publishedLuns c.luns (resolvedRecord snapshot status created)) none c.commits := by
  unfold Machine.Agreement at h
  have hstage := hshape _ htask
  rw [htask] at h hr
  have hsnapshot := (hr.publish rfl hid hzero status created).1
  obtain ⟨k, _, hwork, hkid, hkstate⟩ := hr.pending_of_work rfl rfl
  have hik : i = k := hr.unique i k hzero (hid.trans hkid.symm)
  subst hik
  have hpending : (c.operations i).state = .pending := hkstate
  have hnotlive : ¬(c.operations i).LiveCreate := fun hlive =>
    nomatch hpending.symm.trans hlive.2
  simp only [Stage.shaped, Work.isCreate, beq_iff_eq] at hstage
  cases created with
  | none =>
    have hluns : publishedLuns c.luns (resolvedRecord snapshot status none) = c.luns := by
      unfold publishedLuns
      rw [if_neg]
      simp only [resolvedRecord_result, resolvedRecord_mutation]
      rintro ⟨hsuccess, hcreate⟩
      simp [hcreate, hsuccess] at hstage
    rw [hluns]
    rw [publishing_none] at h
    refine h.rewriteOne hnotlive ⟨fun hlive => ?_, fun hdead => ?_⟩
    · obtain ⟨hcreate, hstate⟩ := hlive
      simp only [resolvedRecord_mutation, resolvedRecord_state] at hcreate hstate
      rw [if_pos hcreate] at hstage
      simp at hstage
      simp [hstage] at hstate
    · have hstate := hdead.2
      rw [resolvedRecord_state] at hstate
      split at hstate <;> cases hstate
  | some created =>
    obtain ⟨deviceId, lun⟩ := created
    have hcreate : snapshot.mutation = wispDiskControlCreateDisk := by
      by_contra hne
      simp [hne] at hstage
    have hsuccess : status = statusSuccess := by
      simpa [hcreate] using hstage
    subst hsuccess
    have hluns : publishedLuns c.luns (resolvedRecord snapshot statusSuccess (some (deviceId, lun))) =
        bindCreate c.luns (resolvedRecord snapshot statusSuccess (some (deviceId, lun))).lun
          (resolvedRecord snapshot statusSuccess (some (deviceId, lun))).id := by
      unfold publishedLuns
      rw [if_pos]
      simp [hcreate]
    have hfields : (resolvedRecord snapshot statusSuccess (some (deviceId, lun))).deviceId =
        deviceId ∧ (resolvedRecord snapshot statusSuccess (some (deviceId, lun))).lun = lun := by
      simp [resolvedRecord, hcreate]
    rw [hluns]
    have hpub : publishing (some ⟨command, .publish (.reserved snapshot correlation) statusSuccess
        (some (deviceId, lun))⟩) = some (c.operations i, deviceId, lun) := by
      rw [hsnapshot]
      rfl
    rw [hpub] at h
    refine h.publish hpending ⟨?_, ?_⟩ ?_ ?_ hfields.1 hfields.2 fun j hj => hr.id_ne_zero ?_
    · simpa using hcreate
    · simp
    · rw [resolvedRecord_id, ← hid]
      exact hzero
    · rw [resolvedRecord_create, hsnapshot]
      rfl
    · change (c.operations j).state ≠ .unset
      rw [hj.2]
      decide

theorem Machine.Agreement.step {c c' : Machine} (h : c.Agreement) (hr : Records c.log c.task)
    (hshape : Shaped c.task) (ha : Accounting c.disks c.task)
    (ho : Outcomes c.log c.task c.effects) (hremoving : c.Removing)
    (hquiet : Quiet c.stopping c.task c.closing) (hs : c.Step Machine.beforeTeardown c') :
    c'.Agreement := by
  have hall := h
  unfold Machine.Agreement at h ⊢
  cases hs with
  | reserved i mutation hmutation hopen hnext hslot =>
    refine h.rewriteOne (fun hlive => ?_)
      (OperationRecord.not_created (s := .reserved) rfl (by decide))
    rcases ManagementController.selectSlot_evicts hslot with hzero | ⟨_, hfree, _⟩
    · exact nomatch (hr.blank i hzero).symm.trans hlive.2
    · exact nomatch (pinned_of_live hlive).symm.trans hfree
  | admittedLegacy command hopen hidle =>
    rw [hidle] at h
    exact h
  | admittedReserved command i hopen hidle hkind hvalid hinstance hid hzero hmutation hstate =>
    rw [hidle] at h
    exact h.rewriteOne (OperationRecord.not_created hstate (by decide)).1
      (OperationRecord.not_created (s := .pending) rfl (by decide))
  | queueFailed command htask operations hfail | rejected command htask _ operations hfail =>
    rw [htask] at h hr
    exact hfail.agreement hr rfl h
  | startedLegacy command htask | startedReserved command i correlation htask =>
    rw [htask] at h
    simp only [setTask, publishing_start]
    exact h
  | missing command htask | selected command work l htask | allocated command work l htask
  | notCommitted command work l allocation status htask | ended command htask =>
    rw [htask] at h
    exact h
  | notSelected command work status htask | notAllocated command work l htask
  | notMarked command work htask | freed command work allocation status htask =>
    rw [htask] at h
    simp only [setTask, publishing_none]
    exact h
  | committed command work l allocation htask hopen hempty hnext =>
    rw [htask] at h
    refine h.commit hempty (fun i hi => ?_) _ ?_
    · obtain ⟨commit, hcommit, _, _, hdevice, _⟩ := (ho.truthful i).created hi.1 (Or.inr hi.2)
      intro heq
      refine ha.next_uncommitted hnext (List.mem_map.mpr ⟨commit, hcommit, ?_⟩)
      exact hdevice.trans heq
    · cases work with
      | reserved snapshot correlation => exact Or.inr ⟨snapshot, rfl, rfl⟩
      | legacyCreate | legacyDelete => exact Or.inl ⟨rfl, rfl⟩
  | marked command work l htask honline htarget =>
    rw [htask] at h
    refine h.same (relate_update SameEntry.refl ⟨⟨rfl, rfl, rfl, rfl, rfl, ?_⟩, rfl⟩)
    exact ⟨LunState.noConfusion, fun hempty => LunState.noConfusion (honline.symm.trans hempty)⟩
  | workerDrained command work l stage next c' htask hdrain =>
    rw [htask] at h
    obtain ⟨hentry, hoperations, hcommits⟩ := hdrain.entry
    simp only [setTask, hoperations, hcommits]
    exact h.same hentry
  | workerFinalized command work l htask =>
    have hat : draining (removal c.task) c.closing = some (l, .inside .drained) := by
      rw [htask, draining_of_not_idle (hquiet.not_idle (by rw [htask]; exact Option.some_ne_none _))]
      rfl
    have htarget := hremoving.aimed work ⟨l, .drained⟩ (by rw [htask]; rfl)
    rw [htask] at h
    simp only [publishing_none]
    exact Machine.Agreement.finalize h ha (hremoving.drained l _ hat).1 htarget
  | answered command work status created htask hrecord =>
    rw [htask] at h hr
    have hkind := hr.not_unanswered rfl rfl hrecord
    have hlegacy := (hr.inFlight command _ rfl).legacyWork hkind work rfl
    have hnone : publishing (some ⟨command, .publish work status created⟩) = none := by
      unfold MutationCommand.legacyWork at hlegacy
      split at hlegacy <;> subst hlegacy <;> rfl
    rw [hnone] at h
    exact h
  | published command snapshot correlation status created i htask hid hzero =>
    exact hall.published hr hshape htask hid hzero
  | acquired l backing honline hbacking hlimit =>
    exact h.same (relate_update SameEntry.refl ⟨Lun.acquired_same _, rfl⟩)
  | released i lease hlease => exact h.same (relate_update SameEntry.refl (Lun.released_entry _))
  | markedAll hclosing =>
    refine h.same fun l => ?_
    simp only
    split
    · rename_i honline
      exact ⟨⟨rfl, rfl, rfl, rfl, rfl, LunState.noConfusion,
        fun hempty => LunState.noConfusion (honline.symm.trans hempty)⟩, rfl⟩
    · exact SameEntry.refl _
  | teardownDrained l stage next c' hclosing hdrain =>
    obtain ⟨hentry, hoperations, hcommits⟩ := hdrain.entry
    simp only [hdrain.log.2, hoperations, hcommits]
    exact h.same hentry
  | teardownFinalized l deviceId hclosing =>
    have hidle : c.task = none := hquiet.idle (by rw [hclosing]; rfl)
    have hat : draining (removal c.task) c.closing = some (l, .finalizing deviceId) := by
      rw [hclosing]
      rfl
    have hl := hremoving.drained l _ hat
    simp only [Machine.finalizeRemoval, hidle]
    rw [hidle] at h
    exact Machine.Agreement.finalize h ha hl.1 hl.2.2.2
  | _ => exact h

theorem Machine.Agreement.reachable {c : Machine} (h : c.Reachable Machine.beforeTeardown) :
    c.Agreement := by
  obtain ⟨adapterInstance, hrun⟩ := h
  induction hrun with
  | refl => exact Agreement.init
  | tail hrun hs ih =>
    exact ih.step (Records.reachable ⟨_, hrun⟩) (Shaped.reachable ⟨_, hrun⟩)
      (Accounting.reachable ⟨_, hrun⟩) (Outcomes.reachable ⟨_, hrun⟩)
      (Machine.Removing.reachable ⟨_, hrun⟩) (Quiet.reachable ⟨_, hrun⟩) hs

end WispDisk
