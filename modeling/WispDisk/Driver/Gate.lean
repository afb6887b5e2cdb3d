import WispDisk.Driver.Envelope
import WispDisk.Driver.Adapter

/-! The single-flight gate on the adapter itself: what one step of an admitted submission leaves
alone (`Advanced`), and the invariant that `ManagementBusy`, `ManagementIdleEvent` and the logs of
admissions and ends describe the one submission in flight. It needs no contract. -/
namespace WispDisk
open ControlDispatch ManagementController Transition
set_option autoImplicit false

/-! ## The gate of the extension -/

/-- The extensions have the gate in the same state. -/
structure AdapterExtension.SameGate (ext ext' : AdapterExtension) : Prop where
  busy : ext'.managementBusy = ext.managementBusy
  idle : ext'.managementIdleEvent = ext.managementIdleEvent

theorem AdapterExtension.SameGate.refl (ext : AdapterExtension) : ext.SameGate ext := ⟨rfl, rfl⟩

theorem failOperationLocked_sameGate (ext : AdapterExtension) (id : ULONGLONG) (status : NTSTATUS)
    (control : ControlRequest) (correlation : ULONGLONG) (now : LONGLONG) :
    ext.SameGate (failOperationLocked ext id status control correlation now).1 := by
  rcases failOperationLocked_spec ext id status control correlation now with
    ⟨hsame, _⟩ | ⟨i, debug, _, _, hfailed, _⟩
  · rw [hsame]
    exact AdapterExtension.SameGate.refl ext
  · rw [hfailed]
    exact ⟨rfl, rfl⟩

theorem publishOperationResult_sameGate (ext : AdapterExtension) (control : ControlRequest)
    (snapshot : OperationRecord) (correlation : ULONGLONG) (now : LONGLONG) :
    ext.SameGate (publishOperationResult ext control snapshot correlation now).1 := by
  rcases publishOperationResult_spec ext control snapshot correlation now with
    ⟨hsame, _⟩ | ⟨i, _, _, debug, hpublished, _⟩
  · rw [hsame]
    exact AdapterExtension.SameGate.refl ext
  · rw [hpublished]
    exact ⟨rfl, rfl⟩

theorem detachBackingStore_sameGate (ext : AdapterExtension) (l : Fin kMaximumDiskCount)
    (deviceId : ULONG) : ext.SameGate (LunStore.detachBackingStore ext l deviceId).1 := by
  unfold LunStore.detachBackingStore
  split
  · exact AdapterExtension.SameGate.refl ext
  · exact ⟨rfl, rfl⟩

theorem releaseLunIo_sameGate (ext : AdapterExtension) (l : Fin kMaximumDiskCount) :
    ext.SameGate (LunStore.releaseLunIo ext l) := by
  unfold LunStore.releaseLunIo
  simp only
  split
  · exact AdapterExtension.SameGate.refl ext
  · exact ⟨rfl, rfl⟩

namespace Adapter

/-! ## One step of a submission -/

/-- What a step of a submission leaves alone, and what its end does. -/
structure Advanced (a : Adapter) (s : Submission) (a' : Adapter) (next : Option Submission) :
    Prop where
  submissions : a'.submissions = a.submissions
  commands : a'.commands = a.commands
  teardown : a'.teardown = a.teardown
  nextSrb : a'.nextSrb = a.nextSrb
  admitted : a'.history.admitted = a.history.admitted
  continued : ∀ s', next = some s' → s'.id = s.id ∧ s'.command = s.command ∧
    a.extension.SameGate a'.extension ∧ a'.history.ended = a.history.ended
  finished : next = none → a'.extension.managementBusy = false ∧
    a'.extension.managementIdleEvent = true ∧ a'.history.ended = a.history.ended ++ [s.id]

/-- A step after which the submission is still in flight. -/
theorem Advanced.of_some {a a' : Adapter} {s s' : Submission}
    (hsubmissions : a'.submissions = a.submissions) (hcommands : a'.commands = a.commands)
    (hteardown : a'.teardown = a.teardown) (hnext : a'.nextSrb = a.nextSrb)
    (hadmitted : a'.history.admitted = a.history.admitted)
    (hended : a'.history.ended = a.history.ended) (hid : s'.id = s.id)
    (hcommand : s'.command = s.command) (hgate : a.extension.SameGate a'.extension) :
    Advanced a s a' (some s') where
  submissions := hsubmissions
  commands := hcommands
  teardown := hteardown
  nextSrb := hnext
  admitted := hadmitted
  continued := fun t ht => by
    cases ht
    exact ⟨hid, hcommand, hgate, hended⟩
  finished := nofun

/-- The last step of a submission. -/
theorem Advanced.of_none {a a' : Adapter} {s : Submission}
    (hsubmissions : a'.submissions = a.submissions) (hcommands : a'.commands = a.commands)
    (hteardown : a'.teardown = a.teardown) (hnext : a'.nextSrb = a.nextSrb)
    (hadmitted : a'.history.admitted = a.history.admitted)
    (hended : a'.history.ended = a.history.ended ++ [s.id])
    (hbusy : a'.extension.managementBusy = false)
    (hidle : a'.extension.managementIdleEvent = true) : Advanced a s a' none where
  submissions := hsubmissions
  commands := hcommands
  teardown := hteardown
  nextSrb := hnext
  admitted := hadmitted
  continued := fun s' hs => absurd hs.symm (Option.some_ne_none s')
  finished := fun _ => ⟨hbusy, hidle, hended⟩

/-- A step that touches nothing but the submission. -/
theorem Advanced.stay {a : Adapter} {s s' : Submission} (hid : s'.id = s.id)
    (hcommand : s'.command = s.command) : Advanced a s a (some s') :=
  Advanced.of_some rfl rfl rfl rfl rfl rfl hid hcommand (AdapterExtension.SameGate.refl _)

theorem beginWork_advanced (a : Adapter) (s : Submission) :
    Advanced a s (a.beginWork s).1 (some (a.beginWork s).2) := by
  unfold beginWork
  simp only
  split
  · exact Advanced.of_some rfl rfl rfl rfl rfl rfl rfl rfl ⟨rfl, rfl⟩
  split
  · exact Advanced.stay rfl rfl
  split
  · exact Advanced.stay rfl rfl
  · exact Advanced.stay rfl rfl

theorem publish_advanced (a : Adapter) (s : Submission) (work : Work) (status : NTSTATUS)
    (created : Option (ULONG × UCHAR)) (now : LONGLONG) :
    Advanced a s (a.publish s work status created now).1
      (some (a.publish s work status created now).2) := by
  cases work with
  | legacyCreate request => exact Advanced.stay rfl rfl
  | legacyDelete request => exact Advanced.stay rfl rfl
  | reserved snapshot correlation =>
    exact Advanced.of_some rfl rfl rfl rfl rfl rfl rfl rfl (publishOperationResult_sameGate ..)

theorem advance_advanced {a a' : Adapter} {s : Submission} {next : Option Submission}
    {granted : Bool} {now : LONGLONG} (h : advance a s granted now = some (a', next)) :
    Advanced a s a' next := by
  obtain ⟨id, control, command, fault, phase⟩ := s
  unfold advance at h
  cases phase with
  | prepared | respond =>
    cases h
    exact Advanced.stay rfl rfl
  | queueFailed | endManagement =>
    cases h
    exact Advanced.of_none rfl rfl rfl rfl rfl rfl rfl rfl
  | queued =>
    simp only at h
    split at h
    · cases h
      exact Advanced.stay rfl rfl
    · cases h
      exact Advanced.of_some rfl rfl rfl rfl rfl rfl rfl rfl ⟨rfl, rfl⟩
  | takeFault =>
    cases h
    exact beginWork_advanced a _
  | rejectOperation =>
    cases h
    exact Advanced.of_some rfl rfl rfl rfl rfl rfl rfl rfl (failOperationLocked_sameGate ..)
  | snapshotPending =>
    simp only at h
    split at h
    · cases h
      exact Advanced.stay rfl rfl
    · cases h
      exact Advanced.of_some rfl rfl rfl rfl rfl rfl rfl rfl ⟨rfl, rfl⟩
  | selectLun work =>
    simp only at h
    split at h <;>
    · cases h
      exact Advanced.stay rfl rfl
  | allocate work selected =>
    simp only at h
    split at h
    · cases h
      exact Advanced.of_some rfl rfl rfl rfl rfl rfl rfl rfl ⟨rfl, rfl⟩
    · cases h
      exact Advanced.stay rfl rfl
  | commit work selected allocation =>
    simp only at h
    split at h
    · cases h
      exact Advanced.stay rfl rfl
    · rename_i ext deviceId hcommit
      obtain ⟨_, _, _, _, hext⟩ := LunStore.commitNewLun_ok hcommit
      cases h
      rw [hext]
      exact Advanced.of_some rfl rfl rfl rfl rfl rfl rfl rfl ⟨rfl, rfl⟩
  | markStopping work =>
    simp only at h
    split at h
    · cases h
      exact Advanced.stay rfl rfl
    · rename_i ext lun hmark
      obtain ⟨_, _, hext⟩ := LunStore.markLunStopping_some hmark
      cases h
      rw [hext]
      exact Advanced.of_some rfl rfl rfl rfl rfl rfl rfl rfl ⟨rfl, rfl⟩
  | waitForLunIo work lun =>
    simp only at h
    split at h
    · cases h
      exact Advanced.stay rfl rfl
    · cases h
  | detach work lun =>
    cases h
    exact Advanced.of_some rfl rfl rfl rfl rfl rfl rfl rfl (detachBackingStore_sameGate ..)
  | publish work status created =>
    cases h
    exact publish_advanced ..
  | zeroMemory | freeAllocation | freePool | finalize | traceResponse | complete | notifyBus =>
    cases h
    exact Advanced.of_some rfl rfl rfl rfl rfl rfl rfl rfl ⟨rfl, rfl⟩

/-! ## One call of StartIo -/

/-- What `StartIo` can leave of the adapter. -/
inductive Started (a : Adapter) : Adapter → Prop
  | kept (r : Returned) (hid : r.id = a.nextSrb) :
      Started a { a with nextSrb := a.nextSrb + 1, returned := a.returned ++ [r] }
  | answered (ext : AdapterExtension) (r : Returned) (hid : r.id = a.nextSrb)
      (h : Answered a.extension ext) :
      Started a { a with
        nextSrb := a.nextSrb + 1
        extension := ext
        returned := a.returned ++ [r]
        history := { a.history with
          reservations := a.history.reservations ++ reservationOf a.extension ext } }
  | admitted (ext : AdapterExtension) (control : ControlRequest) (command : MutationCommand)
      (h : Admitted a.extension ext control command) :
      Started a { a with
        nextSrb := a.nextSrb + 1
        extension := ext
        submissions :=
          a.submissions ++ [{ id := a.nextSrb, control := control, command := command }]
        history := { a.history with
          admitted := a.history.admitted ++ [a.nextSrb]
          accepted := a.history.accepted ++ if command.isReserved then [command] else [] } }
  | leased (srb : ScsiRequestBlock) (ext : AdapterExtension) (l : Fin kMaximumDiskCount)
      (view : LunView) (h : LunStore.acquireLunIo a.extension srb = some (ext, l, view)) :
      Started a { a with
        nextSrb := a.nextSrb + 1
        extension := ext
        commands := a.commands ++ [{ id := a.nextSrb, srb := srb, lun := l, view := view }] }

theorem startIo_started (a : Adapter) (srb : ScsiRequestBlock) (now : LONGLONG) :
    Started a (a.startIo srb now) := by
  unfold startIo
  simp only
  split
  · unfold startIoControl
    simp only
    rcases handleIoControl_spec a.extension srb now with
      ⟨ext, srb', heq, h⟩ | ⟨ext, control, command, heq, h⟩
    · simp only [heq]
      exact Started.answered ext _ rfl h
    · simp only [heq]
      exact Started.admitted ext control command h
  split
  · unfold startExecuteScsi
    split
    · exact Started.kept _ rfl
    split
    · exact Started.kept _ rfl
    split
    · exact Started.kept _ rfl
    · rename_i ext l view hacquire
      exact Started.leased srb ext l view hacquire
  split
  · exact Started.kept _ rfl
  · exact Started.kept _ rfl

/-! ## The teardown thread -/

/-- What a step of the teardown thread leaves alone. -/
structure Aside (a a' : Adapter) : Prop where
  submissions : a'.submissions = a.submissions
  gate : a.extension.SameGate a'.extension
  admitted : a'.history.admitted = a.history.admitted
  ended : a'.history.ended = a.history.ended
  nextSrb : a'.nextSrb = a.nextSrb

theorem advanceTeardown_aside {a a' : Adapter} {workerBusy : Bool}
    (h : a.advanceTeardown workerBusy = some a') : Aside a a' := by
  unfold advanceTeardown at h
  cases hteardown : a.teardown with
  | notStarted | waitForIdle | waitForLunIo =>
    simp only [hteardown] at h
    split at h
    · cases h
      exact ⟨rfl, ⟨rfl, rfl⟩, rfl, rfl, rfl⟩
    · cases h
  | firstStopping | releaseWorker =>
    simp only [hteardown] at h
    split at h <;>
    · cases h
      exact ⟨rfl, ⟨rfl, rfl⟩, rfl, rfl, rfl⟩
  | detach l deviceId =>
    simp only [hteardown] at h
    cases h
    exact ⟨rfl, detachBackingStore_sameGate .., rfl, rfl, rfl⟩
  | done =>
    simp only [hteardown] at h
    cases h
  | closeAdmission | idleObserved | markAllStopping | readTarget | freePool | readRemoved
  | finalize | invalidate =>
    simp only [hteardown] at h
    cases h
    exact ⟨rfl, ⟨rfl, rfl⟩, rfl, rfl, rfl⟩

/-! ## The gate -/

/-- The gate describes the one submission in flight. -/
structure Gate (a : Adapter) : Prop where
  single : a.submissions.length ≤ 1
  busy : a.extension.managementBusy = !a.submissions.isEmpty
  idle : a.extension.managementIdleEvent = !a.extension.managementBusy
  logged : a.history.admitted = a.history.ended ++ a.submissions.map Submission.id
  distinct : a.history.admitted.Nodup
  below : ∀ id ∈ a.history.admitted, id < a.nextSrb

namespace Gate

variable {a a' : Adapter}

theorem none_in_flight (h : a.Gate) (hidle : a.extension.managementBusy = false) :
    a.submissions = [] := by
  have hbusy := h.busy
  rw [hidle] at hbusy
  exact List.isEmpty_iff.mp (by simpa using hbusy)

/-- The submission that a step names is the only one. -/
theorem only {i : ℕ} {s : Submission} (h : a.Gate) (hs : a.submissions[i]? = some s) :
    i = 0 ∧ a.submissions = [s] := by
  have hsingle := h.single
  cases hlist : a.submissions with
  | nil => simp [hlist] at hs
  | cons t rest =>
    have hrest : rest = [] := by
      rw [hlist, List.length_cons] at hsingle
      exact List.eq_nil_of_length_eq_zero (by omega)
    subst hrest
    rw [hlist] at hs
    cases i with
    | zero =>
      cases hs
      exact ⟨rfl, rfl⟩
    | succ i => simp at hs

/-- The gate depends on the submissions, the two gate fields and the two logs. -/
theorem transfer (h : a.Gate) (hsubmissions : a'.submissions = a.submissions)
    (hgate : a.extension.SameGate a'.extension)
    (hadmitted : a'.history.admitted = a.history.admitted)
    (hended : a'.history.ended = a.history.ended) (hnext : a.nextSrb ≤ a'.nextSrb) : a'.Gate where
  single := by
    rw [hsubmissions]
    exact h.single
  busy := by
    rw [hgate.busy, hsubmissions]
    exact h.busy
  idle := by
    rw [hgate.busy, hgate.idle]
    exact h.idle
  logged := by
    rw [hadmitted, hended, hsubmissions]
    exact h.logged
  distinct := by
    rw [hadmitted]
    exact h.distinct
  below := fun id hid => by
    rw [hadmitted] at hid
    exact lt_of_lt_of_le (h.below id hid) hnext

theorem initial (adapterInstance : ULONGLONG) (dbg : Bool) (contents : Allocation → Layout.Bytes) :
    (Adapter.initial adapterInstance dbg contents).Gate where
  single := Nat.zero_le 1
  busy := rfl
  idle := rfl
  logged := rfl
  distinct := List.nodup_nil
  below := fun _ hid => by cases hid

/-- Answering at once leaves the gate as it was. -/
theorem answered_sameGate {ext : AdapterExtension} (h : a.Gate)
    (hanswered : Answered a.extension ext) : a.extension.SameGate ext := by
  cases hanswered with
  | kept debug => exact ⟨rfl, rfl⟩
  | passed hidle =>
    refine ⟨hidle.symm, ?_⟩
    rw [h.idle, hidle]
    rfl
  | reserved => exact ⟨rfl, rfl⟩

/-- Admission closes the gate. -/
theorem closed {ext ext' : AdapterExtension} {command : MutationCommand}
    (h : AdmittedExtension ext command ext') :
    ext'.managementBusy = true ∧ ext'.managementIdleEvent = false := by
  cases h <;> exact ⟨rfl, rfl⟩

theorem started (h : a.Gate) (hstarted : Started a a') : a'.Gate := by
  cases hstarted with
  | kept r hid => exact h.transfer rfl ⟨rfl, rfl⟩ rfl rfl (Nat.le_succ _)
  | answered ext r hid hanswered =>
    exact h.transfer rfl (h.answered_sameGate hanswered) rfl rfl (Nat.le_succ _)
  | admitted ext control command hadmitted =>
    obtain ⟨hbusy, hidle⟩ := closed hadmitted.extension
    have hnone := h.none_in_flight hadmitted.idle
    have hlogged := h.logged
    rw [hnone, List.map_nil, List.append_nil] at hlogged
    refine ⟨?_, ?_, ?_, ?_, ?_, ?_⟩
    · simp [hnone]
    · simp [hnone, hbusy]
    · simp [hbusy, hidle]
    · simp [hnone, hlogged]
    · refine List.nodup_append.mpr ⟨h.distinct, List.nodup_singleton _, fun id hid id' hid' => ?_⟩
      rw [List.mem_singleton] at hid'
      subst hid'
      exact Nat.ne_of_lt (h.below id hid)
    · intro id hid
      rcases List.mem_append.mp hid with hid | hid
      · exact Nat.lt_succ_of_lt (h.below id hid)
      · rw [List.mem_singleton] at hid
        subst hid
        exact Nat.lt_succ_self _
  | leased srb ext l view hacquire =>
    obtain ⟨_, _, _, _, _, _, _, _, hext⟩ := LunStore.acquireLunIo_some hacquire
    rw [hext]
    exact h.transfer rfl ⟨rfl, rfl⟩ rfl rfl (Nat.le_succ _)

theorem advanced {s : Submission} {next : Option Submission} (h : a.Gate)
    (hs : a.submissions = [s]) (hadvanced : Advanced a s a' next) :
    Adapter.Gate { a' with submissions := next.toList } := by
  have hlogged := h.logged
  have hbusy := h.busy
  rw [hs] at hlogged hbusy
  have hdistinct := h.distinct
  have hbelow := h.below
  rw [← hadvanced.admitted] at hdistinct hbelow
  cases next with
  | some s' =>
    obtain ⟨hid, _, hgate, hended⟩ := hadvanced.continued s' rfl
    refine ⟨Nat.le_refl 1, hgate.busy.trans hbusy, ?_, ?_, hdistinct, fun id hmem => ?_⟩
    · exact hgate.idle.trans (h.idle.trans (by rw [hgate.busy]))
    · rw [hadvanced.admitted, hlogged, hended]
      simp [hid]
    · rw [hadvanced.nextSrb]
      exact hbelow id hmem
  | none =>
    obtain ⟨hopen, hidle, hended⟩ := hadvanced.finished rfl
    refine ⟨Nat.zero_le 1, hopen, ?_, ?_, hdistinct, fun id hmem => ?_⟩
    · rw [hopen]
      exact hidle
    · rw [hadvanced.admitted, hlogged, hended]
      simp
    · rw [hadvanced.nextSrb]
      exact hbelow id hmem

theorem commanded (h : a.Gate) (i : ℕ) (c : ScsiCommand) : (a.advanceCommand i c).Gate := by
  unfold advanceCommand
  split
  · exact h.transfer rfl ⟨rfl, rfl⟩ rfl rfl (Nat.le_refl _)
  · exact h.transfer rfl (releaseLunIo_sameGate ..) rfl rfl (Nat.le_refl _)

theorem tornDown {workerBusy : Bool} (h : a.Gate) (hs : a.advanceTeardown workerBusy = some a') :
    a'.Gate := by
  obtain ⟨hsubmissions, hgate, hadmitted, hended, hnext⟩ := advanceTeardown_aside hs
  exact h.transfer hsubmissions hgate hadmitted hended (Nat.le_of_eq hnext.symm)

end Gate

/-- A step of the submission in flight. -/
theorem step_submission {a a' : Adapter} {i : ℕ} {granted : Bool} {now : LONGLONG} (h : a.Gate)
    (hs : step a (.submission i granted now) = some a') :
    ∃ s b next, a.submissions = [s] ∧ a.advance s granted now = some (b, next) ∧
      a' = { b with submissions := next.toList } := by
  simp only [step] at hs
  split at hs
  · rename_i s hget
    obtain ⟨hi, hlist⟩ := h.only hget
    subst hi
    split at hs
    · rename_i b s' hadvance
      have hsame := (advance_advanced hadvance).submissions
      cases hs
      exact ⟨s, b, some s', hlist, hadvance, by rw [hsame, hlist]; rfl⟩
    · rename_i b hadvance
      have hsame := (advance_advanced hadvance).submissions
      cases hs
      exact ⟨s, b, none, hlist, hadvance, by rw [hsame, hlist]; rfl⟩
    · cases hs
  · cases hs

theorem Gate.step {a a' : Adapter} {action : Action} (h : a.Gate)
    (hs : Adapter.step a action = some a') : a'.Gate := by
  cases action with
  | startIo srb now =>
    simp only [Adapter.step] at hs
    split at hs
    · cases hs
      exact h.started (startIo_started a srb now)
    · cases hs
  | command i =>
    simp only [Adapter.step] at hs
    split at hs
    · cases hs
      exact h.commanded _ _
    · cases hs
  | completeRequest i =>
    simp only [Adapter.step] at hs
    split at hs
    · cases hs
      exact h.transfer rfl ⟨rfl, rfl⟩ rfl rfl (Nat.le_refl _)
    · cases hs
  | submission i granted now =>
    obtain ⟨s, b, next, hlist, hadvance, heq⟩ := step_submission h hs
    subst heq
    exact h.advanced hlist (advance_advanced hadvance)
  | setStopping stopping =>
    cases hs
    refine h.transfer rfl ?_ rfl rfl (Nat.le_refl _)
    unfold setStopping
    split <;> exact ⟨rfl, rfl⟩
  | teardown workerBusy => exact h.tornDown hs

/-- Nothing is admitted while `AdapterStopping` is set. -/
theorem step_admitted {a a' : Adapter} {action : Action} (h : a.Gate)
    (hstopping : a.extension.adapterStopping = true) (hs : Adapter.step a action = some a') :
    a'.history.admitted = a.history.admitted := by
  cases action with
  | startIo srb now =>
    simp only [Adapter.step] at hs
    split at hs
    · cases hs
      have hstarted := startIo_started a srb now
      generalize a.startIo srb now = b at hstarted
      cases hstarted with
      | kept | answered | leased => rfl
      | admitted ext control command hadmitted =>
        have hopen := hadmitted.opened
        rw [hstopping] at hopen
        cases hopen
    · cases hs
  | command i =>
    simp only [Adapter.step] at hs
    split at hs
    · cases hs
      unfold advanceCommand
      split <;> rfl
    · cases hs
  | completeRequest i =>
    simp only [Adapter.step] at hs
    split at hs
    · cases hs
      rfl
    · cases hs
  | submission i granted now =>
    obtain ⟨s, b, next, _, hadvance, heq⟩ := step_submission h hs
    subst heq
    exact (advance_advanced hadvance).admitted
  | setStopping stopping =>
    cases hs
    rfl
  | teardown workerBusy => exact (advanceTeardown_aside hs).admitted

/-- The gate's invariant on every run, whatever StorPort does. -/
theorem Gate.reachable {C : Contract Adapter Action} {a : Adapter}
    (h : Reachable system C a) : a.Gate := by
  refine h.invariant ?_ fun _ _ _ _ hgate _ hs => hgate.step hs
  rintro _ ⟨adapterInstance, dbg, contents, rfl⟩
  exact Gate.initial adapterInstance dbg contents

end Adapter

end WispDisk
