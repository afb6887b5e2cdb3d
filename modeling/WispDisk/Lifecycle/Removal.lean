import WispDisk.Foundations.Counting
import WispDisk.Lifecycle.Disks

/-! Removal and teardown, when StorPort does not restart an adapter whose teardown has begun. At most
one thread removes disks at a time (`Quiet`), and the LUN it is at is Stopping and goes through the
stages of `DrainAndFreeBacking` in order (`Removing`). The activity counters (`Counters`) and the
LUN that the worker removes being off line (`Withdrawn`) need no such assumption. -/
namespace WispDisk
open SlotTable
set_option autoImplicit false

/-! ## Counters and events -/

def leaseCount (leases : List Lease) (l : Fin kMaximumDiskCount) : ℕ :=
  leases.countP fun lease => lease.lun = l

theorem leaseCount_append (leases : List Lease) (lease : Lease) (l : Fin kMaximumDiskCount) :
    leaseCount (leases ++ [lease]) l = leaseCount leases l + if lease.lun = l then 1 else 0 := by
  simp [leaseCount, List.countP_append, List.countP_singleton]

theorem leaseCount_eraseIdx {leases : List Lease} {i : ℕ} {lease : Lease}
    (hlease : leases[i]? = some lease) (l : Fin kMaximumDiskCount) :
    leaseCount (leases.eraseIdx i) l + (if lease.lun = l then 1 else 0) = leaseCount leases l := by
  have hcount := Counting.countP_eraseIdx hlease fun x => decide (x.lun = l)
  simpa [leaseCount] using hcount

theorem leaseCount_le (leases : List Lease) (l : Fin kMaximumDiskCount) :
    leaseCount leases l ≤ leases.length := List.countP_le_length

/-- The event says whether there are active requests, which live leases stand for. -/
structure Counters (luns : Fin kMaximumDiskCount → Lun) (leases : List Lease) : Prop where
  event : ∀ l, (luns l).noActiveRequestsEvent = decide ((luns l).activeRequests = 0)
  atMost : ∀ l, (luns l).activeRequests.toNat ≤ leaseCount leases l
  limited : leases.length ≤ Adapter.maximumNumberOfIo

/-- Two states of one LUN with the same activity. -/
def SameActivity (l l' : Lun) : Prop :=
  l'.activeRequests = l.activeRequests ∧ l'.noActiveRequestsEvent = l.noActiveRequestsEvent

theorem SameActivity.refl (l : Lun) : SameActivity l l := ⟨rfl, rfl⟩

theorem Lun.acquired_toNat {l : Lun} (h : l.activeRequests.toNat < 2 ^ 32 - 1) :
    l.acquired.activeRequests.toNat = l.activeRequests.toNat + 1 := by
  change (l.activeRequests + 1).toNat = _
  rw [UInt32.toNat_add, UInt32.toNat_one, Nat.mod_eq_of_lt (by omega)]

theorem Lun.released_toNat (l : Lun) :
    l.released.activeRequests.toNat = l.activeRequests.toNat - 1 := by
  unfold Lun.released
  split
  · rename_i hzero
    rw [hzero]
    rfl
  · rename_i hne
    have hpos : l.activeRequests.toNat ≠ 0 := fun h => hne (UInt32.toNat.inj h)
    refine UInt32.toNat_sub_of_le _ _ (UInt32.le_iff_toNat_le.mpr ?_)
    rw [UInt32.toNat_one]
    omega

theorem Lun.acquired_event {l : Lun} (h : l.activeRequests.toNat < 2 ^ 32 - 1)
    (hevent : l.noActiveRequestsEvent = decide (l.activeRequests = 0)) :
    l.acquired.noActiveRequestsEvent = decide (l.acquired.activeRequests = 0) := by
  have hne : l.acquired.activeRequests ≠ 0 := fun heq => by
    have hnat := Lun.acquired_toNat h
    rw [heq] at hnat
    exact absurd hnat (by rw [UInt32.toNat_zero]; omega)
  rw [decide_eq_false hne]
  unfold Lun.acquired
  split
  · rfl
  · rename_i hactive
    rw [hevent, decide_eq_false hactive]

theorem Lun.released_event {l : Lun}
    (hevent : l.noActiveRequestsEvent = decide (l.activeRequests = 0)) :
    l.released.noActiveRequestsEvent = decide (l.released.activeRequests = 0) := by
  unfold Lun.released
  split
  · exact hevent
  · rename_i hne
    simp only
    split
    · rename_i hlast
      rw [decide_eq_true hlast]
    · rename_i hmore
      rw [hevent, decide_eq_false hne, decide_eq_false hmore]

namespace Counters

variable {luns : Fin kMaximumDiskCount → Lun} {leases : List Lease}

theorem same (h : Counters luns leases) {luns' : Fin kMaximumDiskCount → Lun}
    (hsame : ∀ l, SameActivity (luns l) (luns' l)) : Counters luns' leases where
  event := fun l => by rw [(hsame l).1, (hsame l).2, h.event l]
  atMost := fun l => by
    rw [(hsame l).1]
    exact h.atMost l
  limited := h.limited

/-- A LUN without active requests is replaced by one without active requests. -/
theorem replace (h : Counters luns leases) {l : Fin kMaximumDiskCount} {lun : Lun}
    (hactive : lun.activeRequests = 0) (hevent : lun.noActiveRequestsEvent = true) :
    Counters (Function.update luns l lun) leases where
  event := forall_update luns (fun _ lun => lun.noActiveRequestsEvent =
    decide (lun.activeRequests = 0)) (by rw [hactive, hevent]; rfl) h.event
  atMost := forall_update luns (fun m lun => lun.activeRequests.toNat ≤ leaseCount leases m)
    (by rw [hactive]; exact Nat.zero_le _) h.atMost
  limited := h.limited

theorem acquire (h : Counters luns leases) (l : Fin kMaximumDiskCount) (view : LunView)
    (hlimit : leases.length < Adapter.maximumNumberOfIo) :
    Counters (Function.update luns l (luns l).acquired) (leases ++ [⟨l, view⟩]) := by
  have hroom : (luns l).activeRequests.toNat < 2 ^ 32 - 1 :=
    (h.atMost l).trans_lt ((leaseCount_le _ _).trans_lt hlimit)
  have hat := h.atMost l
  refine ⟨?_, ?_, ?_⟩
  · exact forall_update luns (fun _ lun => lun.noActiveRequestsEvent =
      decide (lun.activeRequests = 0)) (Lun.acquired_event hroom (h.event l)) h.event
  · simp only [leaseCount_append]
    refine forall_update luns (fun m lun => lun.activeRequests.toNat ≤
      leaseCount leases m + if l = m then 1 else 0) ?_ fun m => (h.atMost m).trans (by omega)
    rw [Lun.acquired_toNat hroom, if_pos rfl]
    omega
  · rw [List.length_append, List.length_singleton]
    exact hlimit

theorem release (h : Counters luns leases) {i : ℕ} {lease : Lease}
    (hlease : leases[i]? = some lease) :
    Counters (Function.update luns lease.lun (luns lease.lun).released) (leases.eraseIdx i) := by
  have hcount := leaseCount_eraseIdx hlease
  refine ⟨?_, fun m => ?_, ?_⟩
  · exact forall_update luns (fun _ lun => lun.noActiveRequestsEvent =
      decide (lun.activeRequests = 0)) (Lun.released_event (h.event _)) h.event
  · have hm := hcount m
    have hat := h.atMost m
    rcases eq_or_ne m lease.lun with rfl | hne
    · rw [Function.update_self, Lun.released_toNat]
      rw [if_pos rfl] at hm
      omega
    · rw [Function.update_of_ne hne]
      rw [if_neg (Ne.symm hne)] at hm
      omega
  · exact (List.length_eraseIdx_le leases i).trans h.limited

end Counters

theorem Machine.publishedLuns_activity (luns : Fin kMaximumDiskCount → Lun)
    (record : OperationRecord) (l : Fin kMaximumDiskCount) :
    SameActivity (luns l) (publishedLuns luns record l) := by
  have hbind : ∀ lun, SameActivity lun { lun with createOperationId := record.id } := fun _ =>
    ⟨rfl, rfl⟩
  unfold publishedLuns bindCreate
  split
  · split
    · exact relate_update SameActivity.refl (hbind _) l
    · exact SameActivity.refl _
  · exact SameActivity.refl _

theorem Machine.DrainStep.activity {c c' : Machine} {d : Drain} {next : DrainStage}
    (h : DrainStep c d c' next) :
    (∀ l, SameActivity (c.luns l) (c'.luns l)) ∧ c'.leases = c.leases := by
  cases h with
  | waited | refused | freed => exact ⟨fun _ => SameActivity.refl _, rfl⟩
  | detached l hstate => exact ⟨relate_update SameActivity.refl ⟨rfl, rfl⟩, rfl⟩

theorem Counters.step {restartable : Machine → Prop} {c c' : Machine}
    (h : Counters c.luns c.leases) (hs : c.Step restartable c') : Counters c'.luns c'.leases := by
  cases hs with
  | committed command work l allocation htask hopen hempty hnext => exact h.replace rfl rfl
  | marked command work l htask honline htarget =>
    exact h.same (relate_update SameActivity.refl ⟨rfl, rfl⟩)
  | workerDrained command work l stage next c' htask hdrain =>
    have hsame := h.same hdrain.activity.1
    rw [← hdrain.activity.2] at hsame
    exact hsame
  | teardownDrained l stage next c' hclosing hdrain =>
    have hsame := h.same hdrain.activity.1
    rw [← hdrain.activity.2] at hsame
    exact hsame
  | workerFinalized | teardownFinalized =>
    exact h.same (relate_update SameActivity.refl ⟨rfl, rfl⟩)
  | published => exact h.same (Machine.publishedLuns_activity c.luns _)
  | acquired l backing honline hbacking hlimit => exact h.acquire l _ hlimit
  | released i lease hlease => exact h.release hlease
  | markedAll hclosing =>
    refine h.same fun l => ?_
    simp only
    split <;> exact ⟨rfl, rfl⟩
  | _ => exact h

theorem Counters.reachable {restartable : Machine → Prop} {c : Machine}
    (h : c.Reachable restartable) : Counters c.luns c.leases := by
  obtain ⟨adapterInstance, hrun⟩ := h
  induction hrun with
  | refl => exact ⟨fun _ => rfl, fun _ => Nat.zero_le _, Nat.zero_le _⟩
  | tail _ hs ih => exact ih.step hs

/-! ## One thread removes at a time -/

namespace Closing

/-- `CloseAdmission` has run. -/
def admissionClosed : Closing → Bool
  | notStarted | closeAdmission => false
  | _ => true

/-- `WaitForIdle` has returned. -/
def idleReached : Closing → Bool
  | notStarted | closeAdmission | waitForIdle => false
  | _ => true

/-- `MarkAllLunsStopping` has run. -/
def allMarked : Closing → Bool
  | notStarted | closeAdmission | waitForIdle | idleObserved | markAllStopping => false
  | _ => true

theorem admissionClosed_of_idleReached {closing : Closing} (h : closing.idleReached = true) :
    closing.admissionClosed = true := by
  cases closing <;> first | rfl | cases h

theorem idleReached_of_allMarked {closing : Closing} (h : closing.allMarked = true) :
    closing.idleReached = true := by
  cases closing <;> first | rfl | cases h

end Closing

/-- What teardown has stopped by a point of its program. -/
structure Quiet (stopping : Bool) (task : Option Task) (closing : Closing) : Prop where
  stopping : closing.admissionClosed = true → stopping = true
  idle : closing.idleReached = true → task = none

namespace Quiet

variable {stopping : Bool} {task : Option Task} {closing : Closing}

theorem not_closed (h : Quiet false task closing) : closing.admissionClosed = false := by
  by_contra hclosed
  exact absurd (h.stopping (Bool.not_eq_false _ ▸ hclosed)) (by decide)

theorem not_idle (h : Quiet stopping task closing) (htask : task ≠ none) :
    closing.idleReached = false := by
  by_contra hidle
  exact htask (h.idle (Bool.not_eq_false _ ▸ hidle))

/-- Admission is open, so teardown has not closed it. -/
theorem admitted (h : Quiet false task closing) (task' : Option Task) :
    Quiet false task' closing where
  stopping := fun hclosed => h.stopping hclosed
  idle := fun hidle => by
    have hclosed := Closing.admissionClosed_of_idleReached hidle
    rw [h.not_closed] at hclosed
    cases hclosed

/-- The mutation in flight goes on or ends. -/
theorem advance (h : Quiet stopping task closing) (htask : task ≠ none) (task' : Option Task) :
    Quiet stopping task' closing where
  stopping := h.stopping
  idle := fun hidle => by
    rw [h.not_idle htask] at hidle
    cases hidle

end Quiet

theorem Quiet.step {c c' : Machine} (h : Quiet c.stopping c.task c.closing)
    (hs : c.Step Machine.beforeTeardown c') : Quiet c'.stopping c'.task c'.closing := by
  cases hs with
  | reserved | acquired | released => exact h
  | admittedLegacy command hopen | admittedReserved command i hopen =>
    rw [hopen] at h
    change Quiet c.stopping _ _
    rw [hopen]
    exact h.admitted _
  | stopped => exact ⟨fun _ => rfl, h.idle⟩
  | restarted hclosing =>
    have hclosing : c.closing = .notStarted := hclosing
    refine ⟨fun hclosed => ?_, h.idle⟩
    simp only [hclosing] at hclosed
    cases hclosed
  | entered hclosing => exact ⟨nofun, nofun⟩
  | admissionClosed hclosing => exact ⟨fun _ => rfl, nofun⟩
  | idle hclosing hidle => exact ⟨fun _ => h.stopping (by rw [hclosing]; rfl), fun _ => hidle⟩
  | idleLeft hclosing | markedAll hclosing | selectedStopping l hclosing | noneStopping hclosing
  | targetRead l hclosing | removedRead l hclosing | teardownFinalized l deviceId hclosing
  | workerReleased hclosing | invalidated hclosing =>
    exact ⟨fun _ => h.stopping (by rw [hclosing]; rfl), fun _ => h.idle (by rw [hclosing]; rfl)⟩
  | teardownDrained l stage next c' hclosing hdrain =>
    rw [hclosing] at h
    have hstopping : c'.stopping = c.stopping := by cases hdrain <;> rfl
    rw [← hstopping, ← hdrain.log.2] at h
    exact ⟨fun _ => h.stopping rfl, fun _ => h.idle rfl⟩
  | workerDrained command work l stage next c' htask hdrain =>
    have hsame : c'.stopping = c.stopping ∧ c'.closing = c.closing := by
      cases hdrain <;> exact ⟨rfl, rfl⟩
    have hnext := h.advance (by rw [htask]; exact Option.some_ne_none _)
      (some ⟨command, .drain work ⟨l, next⟩⟩)
    rw [← hsame.1, ← hsame.2] at hnext
    exact hnext
  | queueFailed command htask | rejected command htask | startedLegacy command htask
  | missing command htask | startedReserved command i correlation htask
  | notSelected command work status htask | selected command work l htask
  | notAllocated command work l htask | allocated command work l htask
  | notCommitted command work l allocation status htask | committed command work l allocation htask
  | freed command work allocation status htask | notMarked command work htask
  | marked command work l htask | workerFinalized command work l htask
  | answered command work status created htask
  | published command snapshot correlation status created i htask | ended command htask =>
    exact h.advance (by rw [htask]; exact Option.some_ne_none _) _

/-! ## The LUN being removed -/

/-- Where the removing thread is with its LUN. -/
inductive Position
  | chosen
  | inside (stage : DrainStage)
  | finalizing (deviceId : ULONG)

/-- The removal that the mutation in flight is in. -/
def removal : Option Task → Option (Work × Drain)
  | some ⟨_, .drain work drain⟩ => some (work, drain)
  | _ => none

/-- The LUN being removed, by the teardown thread or else by the worker. -/
def draining (removal : Option (Work × Drain)) :
    Closing → Option (Fin kMaximumDiskCount × Position)
  | .readTarget l => some (l, .chosen)
  | .drain d => some (d.lun, .inside d.stage)
  | .finalize l deviceId => some (l, .finalizing deviceId)
  | _ => removal.map fun r => (r.2.lun, .inside r.2.stage)

/-- What the removing thread has made of its LUN. -/
def Lun.drained (lun : Lun) : Position → Prop
  | .chosen => lun.state = .stopping ∧ lun.backingStore.isSome = true
  | .inside (.waiting deviceId) =>
    lun.state = .stopping ∧ lun.backingStore.isSome = true ∧ lun.deviceId = deviceId
  | .inside (.detaching deviceId) => lun.state = .stopping ∧ lun.backingStore.isSome = true ∧
    lun.deviceId = deviceId ∧ lun.activeRequests = 0
  | .inside (.freeing _) | .inside .drained =>
    lun.state = .stopping ∧ lun.backingStore = none ∧ lun.activeRequests = 0
  | .finalizing deviceId => lun.state = .stopping ∧ lun.backingStore = none ∧
    lun.activeRequests = 0 ∧ lun.deviceId = deviceId

theorem Lun.drained.stopping {lun : Lun} {p : Position} (h : lun.drained p) :
    lun.state = .stopping := by
  cases p with
  | chosen => exact h.1
  | inside stage => cases stage <;> exact h.1
  | finalizing deviceId => exact h.1

/-- Two states of one LUN that a removing thread cannot tell apart. -/
structure SamePlace (l l' : Lun) : Prop where
  state : l'.state = l.state
  backing : l'.backingStore = l.backingStore
  deviceId : l'.deviceId = l.deviceId
  idle : l.state ≠ .online → l.activeRequests = 0 → l'.activeRequests = 0

theorem SamePlace.refl (l : Lun) : SamePlace l l := ⟨rfl, rfl, rfl, fun _ h => h⟩

theorem SamePlace.drained {l l' : Lun} (h : SamePlace l l') {p : Position} (hd : l.drained p) :
    l'.drained p := by
  have hidle : l.activeRequests = 0 → l'.activeRequests = 0 := h.idle (by rw [hd.stopping]; decide)
  cases p with
  | chosen => exact ⟨h.state.trans hd.1, h.backing ▸ hd.2⟩
  | inside stage =>
    cases stage with
    | waiting deviceId => exact ⟨h.state.trans hd.1, h.backing ▸ hd.2.1, h.deviceId.trans hd.2.2⟩
    | detaching deviceId =>
      exact ⟨h.state.trans hd.1, h.backing ▸ hd.2.1, h.deviceId.trans hd.2.2.1, hidle hd.2.2.2⟩
    | freeing backing => exact ⟨h.state.trans hd.1, h.backing.trans hd.2.1, hidle hd.2.2⟩
    | drained => exact ⟨h.state.trans hd.1, h.backing.trans hd.2.1, hidle hd.2.2⟩
  | finalizing deviceId =>
    exact ⟨h.state.trans hd.1, h.backing.trans hd.2.1, hidle hd.2.2.1,
      h.deviceId.trans hd.2.2.2⟩

structure Removing (luns : Fin kMaximumDiskCount → Lun) (removal : Option (Work × Drain))
    (draining : Option (Fin kMaximumDiskCount × Position)) (allMarked : Bool) : Prop where
  online : ∀ l, (luns l).state = .online → (luns l).backingStore.isSome = true
  empty : ∀ l, (luns l).state = .empty → (luns l).backingStore = none
  aimed : ∀ work d, removal = some (work, d) → (luns d.lun).deviceId = work.target
  drained : ∀ l p, draining = some (l, p) → (luns l).drained p
  emptied : ∀ l, (luns l).state = .stopping → (luns l).backingStore = none →
    ∃ p, draining = some (l, p)
  early : allMarked = false → ∀ l, (luns l).state = .stopping → ∃ p, draining = some (l, p)
  late : allMarked = true → ∀ l, (luns l).state ≠ .online

namespace Removing

variable {luns : Fin kMaximumDiskCount → Lun} {removal : Option (Work × Drain)}
  {draining : Option (Fin kMaximumDiskCount × Position)} {allMarked : Bool}

theorem init : Removing initialLun none none false where
  online := fun _ h => by cases h
  empty := fun _ _ => rfl
  aimed := fun _ _ h => by cases h
  drained := fun _ _ h => by cases h
  emptied := fun _ h => by cases h
  early := fun _ _ h => by cases h
  late := fun h => by cases h

theorem same (h : Removing luns removal draining allMarked)
    {luns' : Fin kMaximumDiskCount → Lun} (hsame : ∀ l, SamePlace (luns l) (luns' l)) :
    Removing luns' removal draining allMarked where
  online := fun l hl => by
    rw [(hsame l).backing]
    exact h.online l ((hsame l).state ▸ hl)
  empty := fun l hl => by
    rw [(hsame l).backing]
    exact h.empty l ((hsame l).state ▸ hl)
  aimed := fun work d hr => (hsame d.lun).deviceId.trans (h.aimed work d hr)
  drained := fun l p hd => (hsame l).drained (h.drained l p hd)
  emptied := fun l hl hb => h.emptied l ((hsame l).state ▸ hl) ((hsame l).backing ▸ hb)
  early := fun hm l hl => h.early hm l ((hsame l).state ▸ hl)
  late := fun hm l hl => h.late hm l ((hsame l).state ▸ hl)

/-- An Empty LUN goes Online. -/
theorem commit (h : Removing luns removal draining false) {l : Fin kMaximumDiskCount} {lun : Lun}
    (hempty : (luns l).state = .empty) (honline : lun.state = .online)
    (hbacking : lun.backingStore.isSome = true) (hidle : removal = none) :
    Removing (Function.update luns l lun) removal draining false where
  online := forall_update luns (fun _ lun => lun.state = .online → lun.backingStore.isSome = true)
    (fun _ => hbacking) h.online
  empty := forall_update luns (fun _ lun => lun.state = .empty → lun.backingStore = none)
    (fun he => LunState.noConfusion (honline.symm.trans he)) h.empty
  aimed := fun _ _ hr => nomatch hidle.symm.trans hr
  drained := fun k p hd => by
    have hk := h.drained k p hd
    have hne : k ≠ l := fun heq => by
      rw [heq] at hk
      exact nomatch hempty.symm.trans hk.stopping
    rw [Function.update_of_ne hne]
    exact hk
  emptied := forall_update luns (fun k lun => lun.state = .stopping → lun.backingStore = none →
    ∃ p, draining = some (k, p)) (fun hs => LunState.noConfusion (honline.symm.trans hs)) h.emptied
  early := fun hm => forall_update luns (fun k lun => lun.state = .stopping →
    ∃ p, draining = some (k, p)) (fun hs => LunState.noConfusion (honline.symm.trans hs)) (h.early hm)
  late := nofun

/-- The worker marks its LUN when no LUN is being removed. -/
theorem mark (h : Removing luns none none false) {l : Fin kMaximumDiskCount} {work : Work}
    (honline : (luns l).state = .online) (htarget : (luns l).deviceId = work.target) :
    Removing (Function.update luns l { luns l with state := .stopping })
      (some (work, ⟨l, .waiting work.target⟩)) (some (l, .inside (.waiting work.target))) false where
  online := forall_update luns (fun _ lun => lun.state = .online → lun.backingStore.isSome = true)
    nofun h.online
  empty := forall_update luns (fun _ lun => lun.state = .empty → lun.backingStore = none)
    nofun h.empty
  aimed := fun work' d hr => by
    cases hr
    rw [Function.update_self]
    exact htarget
  drained := fun k p hd => by
    cases hd
    rw [Function.update_self]
    exact ⟨rfl, h.online l honline, htarget⟩
  emptied := fun k hk hb => by
    rcases eq_or_ne k l with rfl | hne
    · exact ⟨_, rfl⟩
    · rw [Function.update_of_ne hne] at hk hb
      obtain ⟨_, hd⟩ := h.emptied k hk hb
      cases hd
  early := fun _ k hk => by
    rcases eq_or_ne k l with rfl | hne
    · exact ⟨_, rfl⟩
    · rw [Function.update_of_ne hne] at hk
      obtain ⟨_, hd⟩ := h.early rfl k hk
      cases hd
  late := nofun

/-- The removing thread takes its next step on its LUN. -/
theorem proceed {l : Fin kMaximumDiskCount} {p p' : Position}
    (h : Removing luns removal (some (l, p)) allMarked) {removal' : Option (Work × Drain)}
    (haimed : ∀ work d, removal' = some (work, d) → (luns d.lun).deviceId = work.target) {lun : Lun}
    (hdevice : lun.deviceId = (luns l).deviceId) (hdrained : lun.drained p') :
    Removing (Function.update luns l lun) removal' (some (l, p')) allMarked where
  online := forall_update luns (fun _ lun => lun.state = .online → lun.backingStore.isSome = true)
    (fun ho => nomatch hdrained.stopping.symm.trans ho) h.online
  empty := forall_update luns (fun _ lun => lun.state = .empty → lun.backingStore = none)
    (fun he => nomatch hdrained.stopping.symm.trans he) h.empty
  aimed := fun work d hr => by
    rw [← haimed work d hr]
    rcases eq_or_ne d.lun l with heq | hne
    · rw [heq, Function.update_self]
      exact hdevice
    · rw [Function.update_of_ne hne]
  drained := fun k q hd => by
    cases hd
    rw [Function.update_self]
    exact hdrained
  emptied := fun k hk hb => by
    rcases eq_or_ne k l with rfl | hne
    · exact ⟨_, rfl⟩
    · rw [Function.update_of_ne hne] at hk hb
      obtain ⟨_, hd⟩ := h.emptied k hk hb
      cases hd
      exact absurd rfl hne
  early := fun hm k hk => by
    rcases eq_or_ne k l with rfl | hne
    · exact ⟨_, rfl⟩
    · rw [Function.update_of_ne hne] at hk
      obtain ⟨_, hd⟩ := h.early hm k hk
      cases hd
      exact absurd rfl hne
  late := fun hm => forall_update luns (fun _ lun => lun.state ≠ .online)
    (fun ho => nomatch hdrained.stopping.symm.trans ho) (h.late hm)

/-- The removing thread moves on without touching its LUN. -/
theorem moveOn {l : Fin kMaximumDiskCount} {p p' : Position}
    (h : Removing luns removal (some (l, p)) allMarked) {removal' : Option (Work × Drain)}
    (haimed : ∀ work d, removal' = some (work, d) → (luns d.lun).deviceId = work.target)
    (hdrained : (luns l).drained p') : Removing luns removal' (some (l, p')) allMarked := by
  have hnext := h.proceed haimed rfl hdrained
  rwa [Function.update_eq_self] at hnext

/-- `FinalizeRemovalLocked` ends the removal. -/
theorem finalize {l : Fin kMaximumDiskCount} {p : Position}
    (h : Removing luns removal (some (l, p)) allMarked) :
    Removing (Function.update luns l (LunStore.removedLun (luns l))) none none allMarked where
  online := forall_update luns (fun _ lun => lun.state = .online → lun.backingStore.isSome = true)
    nofun h.online
  empty := forall_update luns (fun _ lun => lun.state = .empty → lun.backingStore = none)
    (fun _ => rfl) h.empty
  aimed := nofun
  drained := nofun
  emptied := fun k hk hb => by
    rcases eq_or_ne k l with rfl | hne
    · rw [Function.update_self] at hk
      cases hk
    · rw [Function.update_of_ne hne] at hk hb
      obtain ⟨_, hd⟩ := h.emptied k hk hb
      cases hd
      exact absurd rfl hne
  early := fun hm k hk => by
    rcases eq_or_ne k l with rfl | hne
    · rw [Function.update_self] at hk
      cases hk
    · rw [Function.update_of_ne hne] at hk
      obtain ⟨_, hd⟩ := h.early hm k hk
      cases hd
      exact absurd rfl hne
  late := fun hm => forall_update luns (fun _ lun => lun.state ≠ .online) nofun (h.late hm)

/-- `MarkAllLunsStopping`, when no LUN is being removed. -/
theorem markAll (h : Removing luns none none false) :
    Removing (fun l => if (luns l).state = .online then { luns l with state := .stopping }
      else luns l) none none true where
  online := fun l hl => by
    simp only at hl
    split at hl
    · cases hl
    · contradiction
  empty := fun l hl => by
    simp only at hl ⊢
    split at hl
    · cases hl
    · rename_i hne
      rw [if_neg hne]
      exact h.empty l hl
  aimed := nofun
  drained := nofun
  emptied := fun l hl hb => by
    simp only at hl hb
    split at hl
    · rename_i honline
      rw [if_pos honline] at hb
      have hsome := h.online l honline
      rw [hb] at hsome
      cases hsome
    · exact h.early rfl l hl
  early := nofun
  late := fun _ l hl => by
    simp only at hl
    split at hl
    · cases hl
    · contradiction

/-- Teardown chooses the next Stopping LUN. -/
theorem choose (h : Removing luns none none true) {l : Fin kMaximumDiskCount}
    (hstate : (luns l).state = .stopping) : Removing luns none (some (l, .chosen)) true where
  online := h.online
  empty := h.empty
  aimed := nofun
  drained := fun k p hd => by
    cases hd
    refine ⟨hstate, ?_⟩
    cases hb : (luns l).backingStore with
    | some backing => rfl
    | none =>
      obtain ⟨_, hd⟩ := h.emptied l hstate hb
      cases hd
  emptied := fun k hk hb => by
    obtain ⟨_, hd⟩ := h.emptied k hk hb
    cases hd
  early := nofun
  late := h.late

end Removing

theorem draining_of_not_idle {removal : Option (Work × Drain)} {closing : Closing}
    (h : closing.idleReached = false) :
    draining removal closing = removal.map fun r => (r.2.lun, .inside r.2.stage) := by
  cases closing <;> first | rfl | cases h

theorem removal_start (command : MutationCommand) (work : Work) :
    removal (some ⟨command, .start work⟩) = none := by
  unfold Stage.start
  split <;> rfl

theorem Machine.publishedLuns_place (luns : Fin kMaximumDiskCount → Lun) (record : OperationRecord)
    (l : Fin kMaximumDiskCount) : SamePlace (luns l) (publishedLuns luns record l) := by
  have hbind : ∀ lun, SamePlace lun { lun with createOperationId := record.id } := fun _ =>
    ⟨rfl, rfl, rfl, fun _ h => h⟩
  unfold publishedLuns bindCreate
  split
  · split
    · exact relate_update SamePlace.refl (hbind _) l
    · exact SamePlace.refl _
  · exact SamePlace.refl _

theorem Lun.released_place (l : Lun) : SamePlace l l.released := by
  unfold Lun.released
  split
  · exact SamePlace.refl l
  · exact ⟨rfl, rfl, rfl, fun _ hzero => absurd hzero ‹_›⟩

/-- `DrainAndFreeBacking` on the LUN being removed is never refused. -/
theorem Removing.drainStep {c c' : Machine} {l : Fin kMaximumDiskCount} {stage next : DrainStage}
    {removal removal' : Option (Work × Drain)} {allMarked : Bool}
    (h : Removing c.luns removal (some (l, .inside stage)) allMarked)
    (hcounters : Counters c.luns c.leases) (hdrain : c.DrainStep ⟨l, stage⟩ c' next)
    (haimed : ∀ work d, removal' = some (work, d) → (c.luns d.lun).deviceId = work.target) :
    Removing c'.luns removal' (some (l, .inside next)) allMarked := by
  have hl := h.drained l _ rfl
  cases hdrain with
  | waited l deviceId hevent =>
    refine h.moveOn haimed ⟨hl.1, hl.2.1, hl.2.2, ?_⟩
    rw [hcounters.event l] at hevent
    exact of_decide_eq_true hevent
  | detached l hstate => exact h.proceed haimed rfl ⟨hstate, rfl, hl.2.2.2⟩
  | refused l deviceId hrefused =>
    rcases hrefused with hstate | hdevice
    · exact absurd hl.1 hstate
    · exact absurd hl.2.2.1 hdevice
  | freed l backing => exact h.moveOn haimed hl

theorem Machine.DrainStep.frame {c c' : Machine} {d : Drain} {next : DrainStage}
    (h : DrainStep c d c' next) : c'.stopping = c.stopping ∧ c'.closing = c.closing ∧
      c'.nextAllocation = c.nextAllocation ∧ c'.leases = c.leases := by
  cases h <;> exact ⟨rfl, rfl, rfl, rfl⟩

def Machine.Removing (c : Machine) : Prop :=
  WispDisk.Removing c.luns (removal c.task) (draining (removal c.task) c.closing)
    c.closing.allMarked

theorem Machine.Removing.step {c c' : Machine} (h : c.Removing)
    (hquiet : Quiet c.stopping c.task c.closing) (hcounters : Counters c.luns c.leases)
    (hs : c.Step Machine.beforeTeardown c') : c'.Removing := by
  have hunmarked : ∀ {closing : Closing}, closing.idleReached = false →
      closing.allMarked = false := fun {closing} hidle => by
    by_contra hmarked
    rw [Bool.not_eq_false] at hmarked
    rw [Closing.idleReached_of_allMarked hmarked] at hidle
    cases hidle
  unfold Machine.Removing at h ⊢
  cases hs with
  | reserved | stopped | restarted => exact h
  | admittedLegacy command hopen hidle | admittedReserved command i hopen hidle =>
    rw [hidle] at h
    exact h
  | queueFailed command htask | rejected command htask | missing command htask
  | notSelected command work status htask | selected command work l htask
  | notAllocated command work l htask | allocated command work l htask
  | notCommitted command work l allocation status htask | freed command work allocation status htask
  | notMarked command work htask | answered command work status created htask
  | ended command htask =>
    rw [htask] at h
    exact h
  | startedLegacy command htask | startedReserved command i correlation htask =>
    rw [htask] at h
    simp only [setTask, removal_start]
    exact h
  | committed command work l allocation htask hopen hempty hnext =>
    rw [hopen] at hquiet
    have hclosed := hquiet.not_closed
    have hmarked : c.closing.allMarked = false := by
      by_contra hmarked
      rw [Bool.not_eq_false] at hmarked
      have := Closing.admissionClosed_of_idleReached (Closing.idleReached_of_allMarked hmarked)
      rw [hclosed] at this
      cases this
    rw [htask, hmarked] at h
    simp only [hmarked]
    exact h.commit hempty rfl rfl rfl
  | marked command work l htask honline htarget =>
    have hidle := hquiet.not_idle (by rw [htask]; exact Option.some_ne_none _)
    rw [htask, draining_of_not_idle hidle, hunmarked hidle] at h
    simp only [draining_of_not_idle hidle, hunmarked hidle]
    exact h.mark honline htarget
  | workerDrained command work l stage next c' htask hdrain =>
    have hidle := hquiet.not_idle (by rw [htask]; exact Option.some_ne_none _)
    obtain ⟨_, hclosing, _, _⟩ := hdrain.frame
    rw [htask, draining_of_not_idle hidle] at h
    simp only [setTask, hclosing, draining_of_not_idle hidle]
    refine h.drainStep hcounters hdrain fun work' d hr => ?_
    cases hr
    exact h.aimed work ⟨l, stage⟩ rfl
  | workerFinalized command work l htask =>
    have hidle := hquiet.not_idle (by rw [htask]; exact Option.some_ne_none _)
    rw [htask, draining_of_not_idle hidle] at h
    simp only [finalizeRemoval, draining_of_not_idle hidle]
    exact h.finalize
  | published command snapshot correlation status created i htask hid hzero =>
    rw [htask] at h
    exact h.same (publishedLuns_place c.luns _)
  | acquired l backing honline hbacking hlimit =>
    exact h.same (relate_update SamePlace.refl ⟨rfl, rfl, rfl, fun hne => absurd honline hne⟩)
  | released i lease hlease => exact h.same (relate_update SamePlace.refl (Lun.released_place _))
  | entered hclosing | admissionClosed hclosing | idleLeft hclosing
  | noneStopping hclosing | workerReleased hclosing | invalidated hclosing =>
    rw [hclosing] at h
    exact h
  | idle hclosing hidle =>
    rw [hclosing] at h
    exact h
  | markedAll hclosing =>
    have hidle : c.task = none := hquiet.idle (by rw [hclosing]; rfl)
    rw [hclosing, hidle] at h
    simp only [hidle]
    exact h.markAll
  | selectedStopping l hclosing hstate =>
    have hidle : c.task = none := hquiet.idle (by rw [hclosing]; rfl)
    rw [hclosing, hidle] at h
    simp only [hidle]
    exact h.choose hstate
  | targetRead l hclosing =>
    have hidle : c.task = none := hquiet.idle (by rw [hclosing]; rfl)
    rw [hclosing, hidle] at h
    simp only [hidle]
    have hl := h.drained l _ rfl
    exact h.moveOn (fun _ _ hr => by cases hr) ⟨hl.1, hl.2, rfl⟩
  | teardownDrained l stage next c' hclosing hdrain =>
    have hidle : c.task = none := hquiet.idle (by rw [hclosing]; rfl)
    rw [hclosing, hidle] at h
    simp only [hdrain.log.2, hidle]
    exact h.drainStep hcounters hdrain fun _ _ hr => by cases hr
  | removedRead l hclosing =>
    have hidle : c.task = none := hquiet.idle (by rw [hclosing]; rfl)
    rw [hclosing, hidle] at h
    simp only [hidle]
    have hl := h.drained l _ rfl
    exact h.moveOn (fun _ _ hr => by cases hr) ⟨hl.1, hl.2.1, hl.2.2, rfl⟩
  | teardownFinalized l deviceId hclosing =>
    have hidle : c.task = none := hquiet.idle (by rw [hclosing]; rfl)
    rw [hclosing, hidle] at h
    simp only [finalizeRemoval, hidle]
    exact h.finalize

/-! ## The worker's LUN, whatever StorPort calls back -/

/-- The LUN that the worker removes is not Online. -/
def Machine.Withdrawn (c : Machine) : Prop :=
  ∀ work d, removal c.task = some (work, d) → (c.luns d.lun).state ≠ .online

namespace Machine

variable {restartable : Machine → Prop} {c c' : Machine}

/-- An entry that is not brought online. -/
theorem online_update {luns : Fin kMaximumDiskCount → Lun} {l : Fin kMaximumDiskCount} {lun : Lun}
    (k : Fin kMaximumDiskCount) (hk : (Function.update luns l lun k).state = .online)
    (hlun : lun.state = .online → (luns l).state = .online) : (luns k).state = .online :=
  relate_update (R := fun before after : Lun => after.state = .online → before.state = .online)
    (fun _ honline => honline) hlun k hk

theorem DrainStep.online {d : Drain} {next : DrainStage} (h : DrainStep c d c' next)
    (l : Fin kMaximumDiskCount) (honline : (c'.luns l).state = .online) :
    (c.luns l).state = .online := by
  cases h with
  | waited | refused | freed => exact honline
  | detached k hstate => exact online_update l honline fun hk => hk

/-- Only a commit brings a LUN online, and the committing worker removes none. -/
theorem Step.online (hs : c.Step restartable c') (l : Fin kMaximumDiskCount)
    (honline : (c'.luns l).state = .online) :
    (c.luns l).state = .online ∨ removal c'.task = none := by
  cases hs with
  | committed => exact Or.inr rfl
  | marked | workerFinalized | teardownFinalized =>
    exact Or.inl (online_update l honline nofun)
  | workerDrained command work k stage next c' htask hdrain => exact Or.inl (hdrain.online l honline)
  | teardownDrained k stage next c' hclosing hdrain => exact Or.inl (hdrain.online l honline)
  | published =>
    rw [(publishedLuns_place c.luns _ l).state] at honline
    exact Or.inl honline
  | acquired k => exact Or.inl (online_update l honline fun hk => hk)
  | released i lease =>
    refine Or.inl (online_update l honline fun h => ?_)
    rwa [(Lun.released_place _).state] at h
  | markedAll =>
    simp only at honline
    split at honline
    · cases honline
    · exact Or.inl honline
  | _ => exact Or.inl honline

/-- The worker removes the LUN that it has marked. -/
theorem Step.removal_from (hs : c.Step restartable c') {work : Work} {d : Drain}
    (h : removal c'.task = some (work, d)) :
    (∃ d', removal c.task = some (work, d') ∧ d'.lun = d.lun) ∨
      (c'.luns d.lun).state = .stopping := by
  cases hs with
  | marked command work' l htask honline htarget =>
    cases h
    exact Or.inr (congrArg Lun.state (Function.update_self l _ c.luns))
  | workerDrained command work' l stage next c' htask hdrain =>
    cases h
    rw [htask]
    exact Or.inl ⟨_, rfl, rfl⟩
  | teardownDrained l stage next c' hclosing hdrain =>
    rw [← hdrain.log.2]
    exact Or.inl ⟨d, h, rfl⟩
  | startedLegacy command htask | startedReserved command i correlation htask =>
    exact absurd (h.symm.trans (removal_start command _)) (Option.some_ne_none _)
  | reserved | acquired | released | stopped | restarted | entered | admissionClosed | idle
  | idleLeft | markedAll | selectedStopping | noneStopping | targetRead | removedRead
  | teardownFinalized | workerReleased | invalidated => exact Or.inl ⟨d, h, rfl⟩
  | _ => cases h

theorem Withdrawn.step (h : c.Withdrawn) (hs : c.Step restartable c') : c'.Withdrawn := by
  intro work d hremoval honline
  rcases hs.removal_from hremoval with ⟨d', hbefore, hlun⟩ | hstopping
  · rcases hs.online d.lun honline with hwas | hnone
    · apply h work d' hbefore
      rwa [hlun]
    · rw [hnone] at hremoval
      cases hremoval
  · rw [hstopping] at honline
    cases honline

theorem Withdrawn.reachable (h : c.Reachable restartable) : c.Withdrawn := by
  obtain ⟨adapterInstance, hrun⟩ := h
  induction hrun with
  | refl => exact fun _ _ hremoval => by cases hremoval
  | tail _ hs ih => exact ih.step hs

end Machine

theorem Quiet.reachable {c : Machine} (h : c.Reachable Machine.beforeTeardown) :
    Quiet c.stopping c.task c.closing := by
  obtain ⟨adapterInstance, hrun⟩ := h
  induction hrun with
  | refl => exact ⟨nofun, nofun⟩
  | tail _ hs ih => exact ih.step hs

theorem Machine.Removing.reachable {c : Machine} (h : c.Reachable Machine.beforeTeardown) :
    c.Removing := by
  obtain ⟨adapterInstance, hrun⟩ := h
  induction hrun with
  | refl => exact Removing.init
  | tail hrun hs ih =>
    exact ih.step (Quiet.reachable ⟨_, hrun⟩) (Counters.reachable ⟨_, hrun⟩) hs

end WispDisk
