import WispDisk.Lifecycle.Disks

/-! What a LUN says of its disk. Every LUN that is not Empty holds the disk of a commit, with the
parameters of its create request, and an Online LUN has its backing store. No assumption on restarts
is needed. -/
namespace WispDisk
open SlotTable
set_option autoImplicit false

/-- The LUN holds the disk that was committed. -/
structure Commit.Describes (commit : Commit) (l : Fin kMaximumDiskCount) (lun : Lun) : Prop where
  number : commit.lun = l
  deviceId : lun.deviceId = commit.deviceId
  size : lun.sizeBytes = commit.request.sizeBytes
  media : lun.mediaKind = commit.request.mediaKind
  letter : lun.requestedDriveLetter = commit.request.requestedDriveLetter

theorem Commit.Describes.same {commit : Commit} {l : Fin kMaximumDiskCount} {lun lun' : Lun}
    (h : commit.Describes l lun) (hsame : SameDisk lun lun') : commit.Describes l lun' :=
  ⟨h.number, hsame.deviceId.trans h.deviceId, hsame.size.trans h.size, hsame.media.trans h.media,
    hsame.letter.trans h.letter⟩

/-- Two states of one LUN, the later of them Online only if the earlier one was. -/
structure SameFace (l l' : Lun) : Prop where
  disk : SameDisk l l'
  online : l'.state = .online → l.state = .online ∧ l'.backingStore = l.backingStore

theorem SameFace.refl (l : Lun) : SameFace l l := ⟨SameDisk.refl l, fun h => ⟨h, rfl⟩⟩

structure Described (luns : Fin kMaximumDiskCount → Lun) (commits : List Commit) : Prop where
  committed : ∀ l, (luns l).state ≠ .empty → ∃ commit ∈ commits, commit.Describes l (luns l)
  backed : ∀ l, (luns l).state = .online → (luns l).backingStore.isSome = true

namespace Described

variable {luns luns' : Fin kMaximumDiskCount → Lun} {commits : List Commit}

theorem init : Described initialLun [] := ⟨fun _ h => absurd rfl h, fun _ h => by cases h⟩

theorem same (h : Described luns commits) (hsame : ∀ l, SameFace (luns l) (luns' l)) :
    Described luns' commits where
  committed := by
    intro l hl
    have hbefore : (luns l).state ≠ .empty := fun hempty => hl ((hsame l).disk.empty.mpr hempty)
    obtain ⟨commit, hcommit, hdescribes⟩ := h.committed l hbefore
    exact ⟨commit, hcommit, hdescribes.same (hsame l).disk⟩
  backed := by
    intro l hl
    obtain ⟨honline, hbacking⟩ := (hsame l).online hl
    rw [hbacking]
    exact h.backed l honline

theorem commit (h : Described luns commits) (l : Fin kMaximumDiskCount) (request : CreateRequest)
    (allocation : Allocation) (deviceId : ULONG) (operation : Option ULONGLONG) :
    Described (Function.update luns l (LunStore.newLun request l allocation deviceId))
      (commits ++ [⟨operation, request, deviceId, l, allocation⟩]) where
  committed := by
    refine forall_update luns (fun m lun => lun.state ≠ .empty → ∃ commit ∈ commits ++ _,
      commit.Describes m lun) (fun _ => ?_) fun m hm => ?_
    · exact ⟨_, List.mem_append_right _ (List.mem_singleton_self _), rfl, rfl, rfl, rfl, rfl⟩
    · obtain ⟨commit, hcommit, hdescribes⟩ := h.committed m hm
      exact ⟨commit, List.mem_append_left _ hcommit, hdescribes⟩
  backed := forall_update luns (fun _ lun => lun.state = .online → lun.backingStore.isSome = true)
    (fun _ => rfl) h.backed

theorem remove (h : Described luns commits) (l : Fin kMaximumDiskCount) :
    Described (Function.update luns l (LunStore.removedLun (luns l))) commits where
  committed := forall_update luns (fun m lun => lun.state ≠ .empty →
    ∃ commit ∈ commits, commit.Describes m lun) (fun hne => absurd rfl hne) h.committed
  backed := forall_update luns (fun _ lun => lun.state = .online → lun.backingStore.isSome = true)
    (fun honline => by cases honline) h.backed

end Described

/-! ## Steps -/

theorem Machine.publishedLuns_face (luns : Fin kMaximumDiskCount → Lun) (record : OperationRecord)
    (l : Fin kMaximumDiskCount) : SameFace (luns l) (publishedLuns luns record l) := by
  have hbind : ∀ lun, SameFace lun { lun with createOperationId := record.id } := fun _ =>
    ⟨⟨rfl, rfl, rfl, rfl, rfl, Iff.rfl⟩, fun h => ⟨h, rfl⟩⟩
  unfold publishedLuns bindCreate
  split
  · split
    · exact relate_update SameFace.refl (hbind _) l
    · exact SameFace.refl _
  · exact SameFace.refl _

theorem Machine.DrainStep.face {c c' : Machine} {d : Drain} {next : DrainStage}
    (h : DrainStep c d c' next) : ∀ l, SameFace (c.luns l) (c'.luns l) := by
  cases h with
  | waited | refused | freed => exact fun l => SameFace.refl _
  | detached l hstate =>
    refine relate_update SameFace.refl ⟨⟨rfl, rfl, rfl, rfl, rfl, Iff.rfl⟩, fun honline => ?_⟩
    exact LunState.noConfusion (hstate.symm.trans honline)

theorem Described.step {restartable : Machine → Prop} {c c' : Machine}
    (h : Described c.luns c.commits) (hs : c.Step restartable c') :
    Described c'.luns c'.commits := by
  cases hs with
  | committed command work l allocation htask hopen hempty hnext => exact h.commit l _ _ _ _
  | marked command work l htask honline htarget =>
    refine h.same (relate_update SameFace.refl ⟨⟨rfl, rfl, rfl, rfl, rfl, ?_⟩, nofun⟩)
    exact ⟨nofun, fun hempty => LunState.noConfusion (honline.symm.trans hempty)⟩
  | workerDrained command work l stage next c' htask hdrain =>
    have hcommits : c'.commits = c.commits := congrArg DiskLog.commits hdrain.same.2
    have hface := h.same hdrain.face
    rw [← hcommits] at hface
    exact hface
  | workerFinalized command work l htask => exact h.remove l
  | published command snapshot correlation status created i htask hid hzero =>
    exact h.same (Machine.publishedLuns_face c.luns _)
  | acquired l backing honline hbacking hlimit =>
    exact h.same (relate_update SameFace.refl ⟨Lun.acquired_same _, fun h => ⟨h, rfl⟩⟩)
  | released i lease hlease =>
    have hreleased : ∀ lun : Lun, lun.released.state = lun.state ∧
        lun.released.backingStore = lun.backingStore := by
      intro lun
      unfold Lun.released
      split <;> exact ⟨rfl, rfl⟩
    obtain ⟨hstate, hbacking⟩ := hreleased (c.luns lease.lun)
    refine h.same (relate_update SameFace.refl ⟨Lun.released_same _, fun honline => ?_⟩)
    exact ⟨hstate.symm.trans honline, hbacking⟩
  | markedAll hclosing =>
    refine h.same fun l => ?_
    simp only
    split
    · rename_i honline
      refine ⟨⟨rfl, rfl, rfl, rfl, rfl, nofun, fun hempty => ?_⟩, nofun⟩
      exact LunState.noConfusion (honline.symm.trans hempty)
    · exact SameFace.refl _
  | teardownDrained l stage next c' hclosing hdrain =>
    have hcommits : c'.commits = c.commits := congrArg DiskLog.commits hdrain.same.2
    have hface := h.same hdrain.face
    rw [← hcommits] at hface
    exact hface
  | teardownFinalized l deviceId hclosing => exact h.remove l
  | _ => exact h

theorem Described.reachable {restartable : Machine → Prop} {c : Machine}
    (h : c.Reachable restartable) : Described c.luns c.commits := by
  obtain ⟨adapterInstance, hrun⟩ := h
  induction hrun with
  | refl => exact Described.init
  | tail _ hs ih => exact ih.step hs

end WispDisk
