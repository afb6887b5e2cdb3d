import WispDisk.Foundations.Counting
import WispDisk.Lifecycle.Progress

/-! Where the SRBs are. From `HwStartIo` to its `RequestComplete` an SRB is with the call of
`StartIo` or with the worker, and a step moves it on (`Tracked`). What was queued to the worker is
the worker's to complete. -/
namespace WispDisk
open Counting Transition
set_option autoImplicit false

/-! ## What StorPort sees -/

inductive Completer
  | startIo
  | worker
  deriving DecidableEq

inductive SrbEvent
  /-- `AcquireIo` gave the SRB a lease on a LUN. -/
  | leased (id : ℕ) (lun : Fin kMaximumDiskCount)
  /-- `StorPortQueueWorkItem` succeeded. -/
  | queued (id : ℕ)
  | completed (completer : Completer) (id : ℕ) (status : UCHAR)
  deriving DecidableEq

namespace SrbEvent

def isQueued (id : ℕ) : SrbEvent → Bool
  | queued id' => id' == id
  | _ => false

def isCompleted (completer : Completer) (id : ℕ) : SrbEvent → Bool
  | completed completer' id' _ => completer' == completer && id' == id
  | _ => false

end SrbEvent

/-- Who an SRB is with: the call of `StartIo`, the worker, or, completed, nobody. -/
inductive Owner
  | caller
  | worker
  | answered
  deriving DecidableEq

def Phase.owner : Phase → Owner
  | .prepared | .queueFailed => .caller
  | .notifyBus _ | .endManagement => .answered
  | _ => .worker

theorem Phase.owner_start (work : Work) : work.start.owner = .worker := by
  unfold Work.start
  split <;> rfl

namespace Adapter

def completer : Action → Completer
  | .completeRequest _ => .startIo
  | _ => .worker

/-- The leases, the queued work items and the `RequestComplete` notifications of a step. -/
def srbEvents (a : Adapter) (action : Action) (b : Adapter) : List SrbEvent :=
  (match action with
    | .startIo _ _ => (b.commands.drop a.commands.length).map fun c => .leased c.id c.lun
    | .submission i granted _ =>
      match a.submissions[i]? with
      | some s =>
        match s.phase with
        | .prepared => if a.extension.managementWorker && granted then [.queued s.id] else []
        | _ => []
      | none => []
    | _ => []) ++
  (b.history.completions.drop a.history.completions.length).map fun completion =>
    .completed (completer action) completion.1 completion.2.srbStatus

abbrev SrbSystem := system.logged srbEvents

/-! ## Who has an SRB -/

def withCaller (a : Adapter) (id : ℕ) : ℕ :=
  a.commands.countP (fun c => c.id == id) + a.returned.countP (fun r => r.id == id) +
    a.submissions.countP fun s => s.id == id && s.phase.owner == .caller

def withWorker (a : Adapter) (id : ℕ) : ℕ :=
  a.submissions.countP fun s => s.id == id && s.phase.owner == .worker

def completedBy (log : List SrbEvent) (completer : Completer) (id : ℕ) : ℕ :=
  log.countP (SrbEvent.isCompleted completer id)

def queuedTimes (log : List SrbEvent) (id : ℕ) : ℕ := log.countP (SrbEvent.isQueued id)

/-- Every SRB that StorPort has passed in is in one place, and the worker's are the queued ones. -/
structure Tracked (a : Adapter) (log : List SrbEvent) : Prop where
  placed : ∀ id, a.withCaller id + completedBy log .startIo id + queuedTimes log id =
    if id < a.nextSrb then 1 else 0
  queued : ∀ id, queuedTimes log id = a.withWorker id + completedBy log .worker id

/-! ## Steps -/

/-- What a step of a submission does with its SRB. -/
inductive AdvanceSrb (a : Adapter) (s : Submission) (granted : Bool) (a' : Adapter)
    (next : Option Submission) : Prop
  | queued (hphase : s.phase = .prepared)
      (hgranted : (a.extension.managementWorker && granted) = true)
      (hnext : next = some { s with phase := .queued }) (hreturned : a'.returned = a.returned)
      (hcompletions : a'.history.completions = a.history.completions)
  | notQueued (hphase : s.phase = .prepared)
      (hgranted : (a.extension.managementWorker && granted) = false)
      (hnext : next = some { s with phase := .queueFailed }) (hreturned : a'.returned = a.returned)
      (hcompletions : a'.history.completions = a.history.completions)
  | refused (r : Returned) (hphase : s.phase = .queueFailed) (hid : r.id = s.id)
      (hstatus : r.status ≠ srbStatusPending) (hnext : next = none)
      (hreturned : a'.returned = a.returned ++ [r])
      (hcompletions : a'.history.completions = a.history.completions)
  | working (s' : Submission) (hphase : s.phase ≠ .prepared) (hnext : next = some s')
      (howner : s'.phase.owner = s.phase.owner) (hreturned : a'.returned = a.returned)
      (hcompletions : a'.history.completions = a.history.completions)
  | completed (m : Metadata) (s' : Submission) (hphase : s.phase = .complete m)
      (hnext : next = some s') (howner : s'.phase.owner = .answered)
      (hreturned : a'.returned = a.returned)
      (hcompletions :
        a'.history.completions = a.history.completions ++ [(s.id, s.control.toSrb)])
  | ended (hphase : s.phase = .endManagement) (hnext : next = none)
      (hreturned : a'.returned = a.returned)
      (hcompletions : a'.history.completions = a.history.completions)

theorem controlStatus_ne_pending (srb : ScsiRequestBlock) :
    controlStatus srb ≠ srbStatusPending := by
  have hinvalid : srbStatusInvalidRequest ≠ srbStatusPending := by decide
  unfold controlStatus
  split
  · exact hinvalid
  · assumption

theorem beginWork_owner (a : Adapter) (s : Submission) :
    (a.beginWork s).2.phase.owner = .worker ∧ (a.beginWork s).1.returned = a.returned ∧
      (a.beginWork s).1.history = a.history := by
  unfold beginWork
  simp only
  split
  · refine ⟨?_, rfl, rfl⟩
    simp only
    split <;> rfl
  split
  · refine ⟨?_, rfl, rfl⟩
    simp only
    split
    · exact Phase.owner_start _
    · rfl
  split
  · refine ⟨?_, rfl, rfl⟩
    simp only
    split
    · exact Phase.owner_start _
    · rfl
  · exact ⟨rfl, rfl, rfl⟩

theorem advance_srb {a a' : Adapter} {s : Submission} {next : Option Submission} {granted : Bool}
    {now : LONGLONG} (h : advance a s granted now = some (a', next)) :
    AdvanceSrb a s granted a' next := by
  have hother : ∀ {phase : Phase}, s.phase = phase → phase ≠ .prepared → s.phase ≠ .prepared :=
    fun heq hne => heq ▸ hne
  unfold advance at h
  cases hphase : s.phase with
  | prepared =>
    simp only [hphase] at h
    cases hgranted : (a.extension.managementWorker && granted) with
    | true =>
      simp only [hgranted, if_true] at h
      cases h
      exact AdvanceSrb.queued hphase hgranted rfl rfl rfl
    | false =>
      simp only [hgranted, Bool.false_eq_true, if_false] at h
      cases h
      exact AdvanceSrb.notQueued hphase hgranted rfl rfl rfl
  | queueFailed =>
    simp only [hphase] at h
    cases h
    exact AdvanceSrb.refused _ hphase rfl (controlStatus_ne_pending _) rfl rfl rfl
  | complete m =>
    simp only [hphase] at h
    cases h
    refine AdvanceSrb.completed m _ hphase rfl ?_ rfl rfl
    simp only
    split <;> rfl
  | endManagement =>
    simp only [hphase] at h
    cases h
    exact AdvanceSrb.ended hphase rfl rfl rfl
  | takeFault =>
    simp only [hphase] at h
    cases h
    obtain ⟨howner, hreturned, hhistory⟩ := beginWork_owner a s
    exact AdvanceSrb.working _ (hother hphase Phase.noConfusion) rfl (by rw [hphase, howner]; rfl)
      hreturned (by rw [hhistory])
  | publish work status created =>
    simp only [hphase] at h
    cases h
    refine AdvanceSrb.working _ (hother hphase Phase.noConfusion) rfl ?_ ?_ ?_ <;>
      cases work <;> first | rfl | (rw [hphase]; rfl)
  | snapshotPending =>
    simp only [hphase] at h
    split at h <;> cases h
    · exact AdvanceSrb.working _ (hother hphase Phase.noConfusion) rfl (by rw [hphase]; rfl) rfl rfl
    · exact AdvanceSrb.working _ (hother hphase Phase.noConfusion) rfl
        (by rw [hphase]; exact Phase.owner_start _) rfl rfl
  | queued | selectLun | allocate | commit | markStopping | waitForLunIo =>
    simp only [hphase] at h
    split at h <;> cases h <;>
      exact AdvanceSrb.working _ (hother hphase Phase.noConfusion) rfl (by rw [hphase]; rfl) rfl rfl
  | rejectOperation | zeroMemory | freeAllocation | detach | freePool | finalize | respond
  | traceResponse | notifyBus =>
    simp only [hphase] at h
    cases h
    exact AdvanceSrb.working _ (hother hphase Phase.noConfusion) rfl (by rw [hphase]; rfl) rfl rfl

/-- The SRBs that a step leaves alone. -/
structure SameSrbs (a b : Adapter) : Prop where
  commands : b.commands = a.commands
  submissions : b.submissions = a.submissions
  returned : b.returned = a.returned
  nextSrb : b.nextSrb = a.nextSrb
  completions : b.history.completions = a.history.completions

theorem advanceTeardown_sameSrbs {a a' : Adapter} {workerBusy : Bool}
    (h : a.advanceTeardown workerBusy = some a') : SameSrbs a a' := by
  unfold advanceTeardown at h
  cases hteardown : a.teardown with
  | notStarted | waitForIdle | waitForLunIo =>
    simp only [hteardown] at h
    split at h
    · cases h
      exact ⟨rfl, rfl, rfl, rfl, rfl⟩
    · cases h
  | firstStopping | releaseWorker =>
    simp only [hteardown] at h
    split at h <;>
    · cases h
      exact ⟨rfl, rfl, rfl, rfl, rfl⟩
  | done =>
    simp only [hteardown] at h
    cases h
  | closeAdmission | idleObserved | markAllStopping | readTarget | detach | freePool | readRemoved
  | finalize | invalidate =>
    simp only [hteardown] at h
    cases h
    exact ⟨rfl, rfl, rfl, rfl, rfl⟩

theorem srbEvents_none {a b : Adapter} (action : Action)
    (haction : match action with
      | .startIo _ _ | .submission _ _ _ => False
      | _ => True)
    (hcompletions : b.history.completions = a.history.completions) : srbEvents a action b = [] := by
  unfold srbEvents
  rw [hcompletions, List.drop_length, List.map_nil, List.append_nil]
  cases action with
  | startIo | submission => exact haction.elim
  | command | completeRequest | setStopping | teardown => rfl

theorem srbEvents_completeRequest (a : Adapter) (i id : ℕ) (srb : ScsiRequestBlock) :
    srbEvents a (.completeRequest i)
        ({ a with returned := a.returned.eraseIdx i }.complete id srb) =
      [.completed .startIo id srb.srbStatus] := by
  simp [srbEvents, complete, completer]

section Counts

variable {log more : List SrbEvent} {id : ℕ}

theorem completedBy_append (log more : List SrbEvent) (completer : Completer) (id : ℕ) :
    completedBy (log ++ more) completer id =
      completedBy log completer id + completedBy more completer id :=
  List.countP_append

theorem queuedTimes_append (log more : List SrbEvent) (id : ℕ) :
    queuedTimes (log ++ more) id = queuedTimes log id + queuedTimes more id :=
  List.countP_append

@[simp] theorem completedBy_nil (completer : Completer) (id : ℕ) :
    completedBy [] completer id = 0 := rfl

@[simp] theorem queuedTimes_nil (id : ℕ) : queuedTimes [] id = 0 := rfl

@[simp] theorem completedBy_queued (id' : ℕ) (completer : Completer) (id : ℕ) :
    completedBy [.queued id'] completer id = 0 := rfl

@[simp] theorem queuedTimes_queued (id' id : ℕ) :
    queuedTimes [.queued id'] id = if id' = id then 1 else 0 := by
  simp [queuedTimes, List.countP_singleton, SrbEvent.isQueued]

@[simp] theorem completedBy_completed (completer' : Completer) (id' : ℕ) (status : UCHAR)
    (completer : Completer) (id : ℕ) : completedBy [.completed completer' id' status] completer id =
      if completer' = completer ∧ id' = id then 1 else 0 := by
  simp [completedBy, List.countP_singleton, SrbEvent.isCompleted]

@[simp] theorem queuedTimes_completed (completer : Completer) (id' : ℕ) (status : UCHAR) (id : ℕ) :
    queuedTimes [.completed completer id' status] id = 0 := rfl

end Counts

namespace Tracked

variable {a b : Adapter} {log : List SrbEvent}

theorem same (h : a.Tracked log) (hsame : SameSrbs a b) : b.Tracked (log ++ []) where
  placed := fun id => by
    have hid := h.placed id
    unfold withCaller at hid ⊢
    rw [List.append_nil, hsame.commands, hsame.submissions, hsame.returned, hsame.nextSrb]
    exact hid
  queued := fun id => by
    have hid := h.queued id
    unfold withWorker at hid ⊢
    rw [List.append_nil, hsame.submissions]
    exact hid

/-- A call of `StartIo` begins: its SRB gets the next number and is with that call. -/
theorem begun (h : a.Tracked log) {more : List SrbEvent} (hnext : b.nextSrb = a.nextSrb + 1)
    (hcaller : ∀ id, b.withCaller id = a.withCaller id + if a.nextSrb = id then 1 else 0)
    (hworker : ∀ id, b.withWorker id = a.withWorker id)
    (hmore : ∀ e ∈ more, ∃ id lun, e = .leased id lun) : b.Tracked (log ++ more) := by
  have hnone : ∀ completer id, completedBy more completer id = 0 ∧ queuedTimes more id = 0 := by
    refine fun completer id => ⟨List.countP_eq_zero.mpr fun e he => ?_,
      List.countP_eq_zero.mpr fun e he => ?_⟩ <;>
    · obtain ⟨_, _, rfl⟩ := hmore e he
      exact Bool.false_ne_true
  refine ⟨fun id => ?_, fun id => ?_⟩
  · have hid := h.placed id
    rw [completedBy_append, queuedTimes_append, (hnone .startIo id).1, (hnone .startIo id).2,
      hcaller, hnext]
    split at hid <;> split <;> split <;> omega
  · rw [completedBy_append, queuedTimes_append, (hnone .worker id).1, (hnone .worker id).2, hworker,
      Nat.add_zero, Nat.add_zero]
    exact h.queued id

theorem startIo (h : a.Tracked log) (srb : ScsiRequestBlock) (now : LONGLONG) :
    (a.startIo srb now).Tracked (log ++ srbEvents a (.startIo srb now) (a.startIo srb now)) := by
  have hstarted := startIo_started a srb now
  generalize a.startIo srb now = b at hstarted ⊢
  have hevents : b.history.completions = a.history.completions →
      ∀ e ∈ srbEvents a (.startIo srb now) b, ∃ id lun, e = .leased id lun := by
    intro hsame e he
    unfold srbEvents at he
    rw [hsame, List.drop_length, List.map_nil, List.append_nil] at he
    obtain ⟨c, _, rfl⟩ := List.mem_map.mp he
    exact ⟨c.id, c.lun, rfl⟩
  cases hstarted with
  | kept r hid | answered ext r hid _ =>
    refine h.begun rfl (fun id => ?_) (fun _ => rfl) (hevents rfl)
    simp only [withCaller, countP_snoc, hid, beq_iff_eq]
    split <;> omega
  | admitted ext control command _ =>
    refine h.begun rfl (fun id => ?_) (fun id => ?_) (hevents rfl)
    · simp only [withCaller, countP_snoc, Phase.owner, beq_self_eq_true, Bool.and_true, beq_iff_eq]
      split <;> omega
    · have howner : (Owner.caller == Owner.worker) = false := by decide
      simp only [withWorker, countP_snoc, Phase.owner, howner, Bool.and_false,
        Bool.false_eq_true, if_false, Nat.add_zero]
  | leased srb ext l view _ =>
    refine h.begun rfl (fun id => ?_) (fun _ => rfl) (hevents rfl)
    simp only [withCaller, countP_snoc, beq_iff_eq]
    split <;> omega

theorem command (h : a.Tracked log) {i : ℕ} {c : ScsiCommand} (hc : a.commands[i]? = some c) :
    (a.advanceCommand i c).Tracked (log ++ []) := by
  have hcaller : ∀ id, (a.advanceCommand i c).withCaller id = a.withCaller id := by
    intro id
    unfold advanceCommand
    split
    · simp only [withCaller]
      rw [countP_set_same hc]
      rfl
    · have hcount := countP_eraseIdx hc fun c => c.id == id
      simp only [withCaller, giveBack, countP_snoc]
      omega
  have hrest : (a.advanceCommand i c).submissions = a.submissions ∧
      (a.advanceCommand i c).nextSrb = a.nextSrb := by
    unfold advanceCommand
    split <;> exact ⟨rfl, rfl⟩
  refine ⟨fun id => ?_, fun id => ?_⟩
  · rw [List.append_nil, hcaller, hrest.2]
    exact h.placed id
  · rw [List.append_nil, withWorker, hrest.1]
    exact h.queued id

theorem completeRequest (h : a.Tracked log) {i : ℕ} {r : Returned} (hr : a.returned[i]? = some r)
    (srb : ScsiRequestBlock) :
    ({ a with returned := a.returned.eraseIdx i }.complete r.id srb).Tracked
      (log ++ [SrbEvent.completed .startIo r.id srb.srbStatus]) := by
  refine ⟨fun id => ?_, fun id => ?_⟩
  · have hid := h.placed id
    have hcount := countP_eraseIdx hr fun r => r.id == id
    have hdone : completedBy [SrbEvent.completed .startIo r.id srb.srbStatus] .startIo id =
        if (r.id == id) = true then 1 else 0 := by
      simp [completedBy, SrbEvent.isCompleted, List.countP_singleton]
    have hnone : queuedTimes [SrbEvent.completed .startIo r.id srb.srbStatus] id = 0 := rfl
    rw [completedBy_append, queuedTimes_append, hdone, hnone]
    refine Eq.trans ?_ hid
    simp only [withCaller, complete]
    omega
  · have hid := h.queued id
    have hnone : completedBy [SrbEvent.completed .startIo r.id srb.srbStatus] .worker id = 0 := rfl
    rw [completedBy_append, queuedTimes_append, hnone]
    exact hid

/-- The submission in flight is with the given owner, as the SRB `id`. -/
def heldBy (owner : Owner) (active : Option Submission) (id : ℕ) : ℕ :=
  active.toList.countP fun s => s.id == id && s.phase.owner == owner

@[simp] theorem heldBy_none (owner : Owner) (id : ℕ) : heldBy owner none id = 0 := rfl

@[simp] theorem heldBy_some (owner : Owner) (s : Submission) (id : ℕ) :
    heldBy owner (some s) id = if s.id = id ∧ s.phase.owner = owner then 1 else 0 := by
  simp [heldBy, List.countP_singleton]

/-- The submission in flight moves on. -/
theorem moved (h : a.Tracked log) (active next : Option Submission) {more : List SrbEvent}
    (hactive : a.submissions = active.toList) (hnext : b.submissions = next.toList)
    (hcommands : b.commands = a.commands) (hnextSrb : b.nextSrb = a.nextSrb)
    (hcaller : ∀ id, b.returned.countP (fun r => r.id == id) + heldBy .caller next id +
        completedBy more .startIo id + queuedTimes more id =
      a.returned.countP (fun r => r.id == id) + heldBy .caller active id)
    (hworker : ∀ id, queuedTimes more id + heldBy .worker active id =
      heldBy .worker next id + completedBy more .worker id) : b.Tracked (log ++ more) := by
  refine ⟨fun id => ?_, fun id => ?_⟩
  · have hid := h.placed id
    have hmove := hcaller id
    unfold heldBy at hmove
    unfold withCaller at hid ⊢
    rw [hactive] at hid
    rw [completedBy_append, queuedTimes_append, hcommands, hnext, hnextSrb, ← hid]
    omega
  · have hid := h.queued id
    have hmove := hworker id
    unfold heldBy at hmove
    unfold withWorker at hid ⊢
    rw [hactive] at hid
    rw [completedBy_append, queuedTimes_append, hnext, hid]
    omega

theorem srbEvents_submission {s : Submission} {granted : Bool} {now : LONGLONG}
    (hlist : a.submissions = [s]) (hphase : s.phase ≠ .prepared)
    {news : List (ℕ × ScsiRequestBlock)}
    (hcompletions : b.history.completions = a.history.completions ++ news) :
    srbEvents a (.submission 0 granted now) b =
      news.map fun completion => .completed .worker completion.1 completion.2.srbStatus := by
  have hget : a.submissions[0]? = some s := by rw [hlist]; rfl
  unfold srbEvents
  rw [hcompletions, List.drop_left]
  simp only [hget]
  rfl

theorem srbEvents_prepared {s : Submission} {granted : Bool} {now : LONGLONG}
    (hlist : a.submissions = [s]) (hphase : s.phase = .prepared)
    (hcompletions : b.history.completions = a.history.completions) :
    srbEvents a (.submission 0 granted now) b =
      if a.extension.managementWorker && granted then [.queued s.id] else [] := by
  have hget : a.submissions[0]? = some s := by rw [hlist]; rfl
  unfold srbEvents
  rw [hcompletions, List.drop_length, List.map_nil, List.append_nil]
  simp only [hget, hphase]

/-- A step of the submission in flight. -/
theorem submission (h : a.Tracked log) {s : Submission} {b' : Adapter} {next : Option Submission}
    {granted : Bool} {now : LONGLONG} (hlist : a.submissions = [s])
    (hadvance : a.advance s granted now = some (b', next))
    (hb : b = { b' with submissions := next.toList }) :
    b.Tracked (log ++ srbEvents a (.submission 0 granted now) b) := by
  have hadvanced := advance_advanced hadvance
  have hcommands : b.commands = a.commands := hb ▸ hadvanced.commands
  have hnextSrb : b.nextSrb = a.nextSrb := hb ▸ hadvanced.nextSrb
  have hsubmissions : b.submissions = next.toList := hb ▸ rfl
  have hreturned' : b.returned = b'.returned := hb ▸ rfl
  have hhistory : b.history = b'.history := hb ▸ rfl
  have hid : ∀ s', next = some s' → s'.id = s.id := fun s' hs' => (hadvanced.continued s' hs').1
  have hcaller : Phase.owner .prepared = .caller ∧ Phase.owner .queueFailed = .caller ∧
      Phase.owner .queued = .worker ∧ Phase.owner .endManagement = .answered := ⟨rfl, rfl, rfl, rfl⟩
  cases advance_srb hadvance with
  | queued hphase hgranted hnext hreturned hcompletions =>
    rw [← hhistory] at hcompletions
    rw [srbEvents_prepared hlist hphase hcompletions, hgranted, if_pos rfl]
    refine h.moved (some s) next hlist hsubmissions hcommands hnextSrb (fun id => ?_) fun id => ?_
    · simp only [hnext, heldBy_some, hphase, hcaller, completedBy_queued, queuedTimes_queued,
        hreturned', hreturned, reduceCtorEq, and_false, and_true, if_false, Nat.add_zero]
    · simp only [hnext, heldBy_some, hphase, hcaller, completedBy_queued, queuedTimes_queued,
        reduceCtorEq, and_false, and_true, if_false, Nat.add_zero]
  | notQueued hphase hgranted hnext hreturned hcompletions =>
    rw [← hhistory] at hcompletions
    rw [srbEvents_prepared hlist hphase hcompletions, hgranted, if_neg Bool.false_ne_true]
    refine h.moved (some s) next hlist hsubmissions hcommands hnextSrb (fun id => ?_) fun id => ?_
    · simp only [hnext, heldBy_some, hphase, hcaller, completedBy_nil, queuedTimes_nil,
        hreturned', hreturned, Nat.add_zero]
    · simp only [hnext, heldBy_some, hphase, hcaller, completedBy_nil, queuedTimes_nil,
        reduceCtorEq, and_false, if_false, Nat.add_zero]
  | refused r hphase hr hstatus hnext hreturned hcompletions =>
    have hnot : s.phase ≠ .prepared := by rw [hphase]; exact Phase.noConfusion
    rw [← hhistory, ← List.append_nil a.history.completions] at hcompletions
    rw [srbEvents_submission hlist hnot hcompletions, List.map_nil]
    refine h.moved (some s) next hlist hsubmissions hcommands hnextSrb (fun id => ?_) fun id => ?_
    · simp only [hnext, heldBy_some, heldBy_none, hphase, hcaller, completedBy_nil,
        queuedTimes_nil, hreturned', hreturned, countP_snoc, hr, beq_iff_eq, and_true,
        Nat.add_zero]
    · simp only [hnext, heldBy_some, heldBy_none, hphase, hcaller, completedBy_nil,
        queuedTimes_nil, reduceCtorEq, and_false, if_false, Nat.add_zero]
  | working s' hphase hnext howner hreturned hcompletions =>
    rw [← hhistory, ← List.append_nil a.history.completions] at hcompletions
    rw [srbEvents_submission hlist hphase hcompletions, List.map_nil]
    refine h.moved (some s) next hlist hsubmissions hcommands hnextSrb (fun id => ?_) fun id => ?_
    · simp only [hnext, heldBy_some, howner, hid s' hnext, completedBy_nil, queuedTimes_nil,
        hreturned', hreturned, Nat.add_zero]
    · simp only [hnext, heldBy_some, howner, hid s' hnext, completedBy_nil, queuedTimes_nil,
        Nat.zero_add, Nat.add_zero]
  | completed m s' hphase hnext howner hreturned hcompletions =>
    have hnot : s.phase ≠ .prepared := by rw [hphase]; exact Phase.noConfusion
    have hwas : s.phase.owner = .worker := by rw [hphase]; rfl
    rw [← hhistory] at hcompletions
    rw [srbEvents_submission hlist hnot hcompletions, List.map_singleton]
    refine h.moved (some s) next hlist hsubmissions hcommands hnextSrb (fun id => ?_) fun id => ?_
    · simp only [hnext, heldBy_some, howner, hwas, completedBy_completed, queuedTimes_completed,
        hreturned', hreturned, reduceCtorEq, false_and, and_false, if_false, Nat.add_zero]
    · simp only [hnext, heldBy_some, howner, hwas, completedBy_completed, queuedTimes_completed,
        reduceCtorEq, true_and, and_true, and_false, if_false, Nat.zero_add]
  | ended hphase hnext hreturned hcompletions =>
    have hnot : s.phase ≠ .prepared := by rw [hphase]; exact Phase.noConfusion
    rw [← hhistory, ← List.append_nil a.history.completions] at hcompletions
    rw [srbEvents_submission hlist hnot hcompletions, List.map_nil]
    refine h.moved (some s) next hlist hsubmissions hcommands hnextSrb (fun id => ?_) fun id => ?_
    · simp only [hnext, heldBy_some, heldBy_none, hphase, hcaller, completedBy_nil,
        queuedTimes_nil, hreturned', hreturned, reduceCtorEq, and_false, if_false, Nat.add_zero]
    · simp only [hnext, heldBy_some, heldBy_none, hphase, hcaller, completedBy_nil,
        queuedTimes_nil, reduceCtorEq, and_false, if_false, Nat.add_zero]

theorem step {action : Action} (h : a.Tracked log) (hgate : a.Gate)
    (hs : Adapter.step a action = some b) : b.Tracked (log ++ srbEvents a action b) := by
  cases action with
  | startIo srb now =>
    simp only [Adapter.step] at hs
    split at hs
    · cases hs
      exact h.startIo srb now
    · cases hs
  | command i =>
    simp only [Adapter.step] at hs
    split at hs
    · rename_i c hc
      cases hs
      have hsame : (a.advanceCommand i c).history.completions = a.history.completions := by
        rw [(advanceCommand_submissions a i c).2]
      rw [srbEvents_none (.command i) trivial hsame]
      exact h.command hc
    · cases hs
  | completeRequest i =>
    simp only [Adapter.step] at hs
    split at hs
    · rename_i r hr
      cases hs
      rw [srbEvents_completeRequest]
      exact h.completeRequest hr _
    · cases hs
  | submission i granted now =>
    obtain ⟨s, b', next, hlist, hadvance, hb⟩ := step_submission hgate hs
    have hi : i = 0 := by
      simp only [Adapter.step, hlist] at hs
      cases i with
      | zero => rfl
      | succ i => cases hs
    rw [hi]
    exact h.submission hlist hadvance hb
  | setStopping stopping =>
    cases hs
    have hsame : SameSrbs a { a with extension := Adapter.setStopping a.extension stopping } :=
      ⟨rfl, rfl, rfl, rfl, rfl⟩
    rw [srbEvents_none (.setStopping stopping) trivial hsame.completions]
    exact h.same hsame
  | teardown workerBusy =>
    have hsame := advanceTeardown_sameSrbs hs
    rw [srbEvents_none (.teardown workerBusy) trivial hsame.completions]
    exact h.same hsame

theorem reachable {C : Contract Adapter Action} {s : Adapter × List SrbEvent}
    (h : Reachable SrbSystem (Contract.logged _ C) s) : s.1.Tracked s.2 := by
  induction h with
  | initial h =>
    obtain ⟨⟨adapterInstance, dbg, contents, hinitial⟩, hlog⟩ := h
    rw [hinitial, hlog]
    exact ⟨fun _ => rfl, fun _ => rfl⟩
  | step hr ha hs ih =>
    obtain ⟨hstep, hlog⟩ := System.logged_step hs
    rw [hlog]
    exact ih.step (Gate.reachable hr.unlogged) hstep

end Tracked

end Adapter

end WispDisk
