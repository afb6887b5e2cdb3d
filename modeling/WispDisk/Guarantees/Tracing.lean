import WispDisk.Driver.Journal
import WispDisk.Driver.Sections
import WispDisk.Lifecycle.Confinement
import WispDisk.Cli.Commands
import WispDisk.Guarantees.Schedules

/-! The Debug trace and fault injection over whole runs. Every step of the adapter is at most one
change of a journal that is never shortened, and the ring, the sequence number and the fault counter
always show that journal. A Release build injects no fault. -/
namespace WispDisk
open Layout ControlDispatch ManagementController Transition
set_option autoImplicit false

/-! ## What a section does to the diagnostics -/

/-- The diagnostics before and after a section that takes no fault. -/
inductive DebugChange (debug : Option DebugState) : Option DebugState → Prop
  | kept : DebugChange debug debug
  | recorded (e : Diagnostics.TraceEvent) (now : LONGLONG) :
      DebugChange debug (debug.map fun d => Diagnostics.record d e now)
  | configured (d : DebugState) (mode : Mode) (count : ULONG) (hd : debug = some d)
      (hcount : ¬ Diagnostics.kMaximumFaultCount < count) :
      DebugChange debug (some (d.configured mode count))

theorem failOperationLocked_debug (ext : AdapterExtension) (id : ULONGLONG) (status : NTSTATUS)
    (control : ControlRequest) (correlation : ULONGLONG) (now : LONGLONG) :
    DebugChange ext.debug
      (failOperationLocked ext id status control correlation now).1.debug := by
  unfold failOperationLocked
  split
  · exact .kept
  · exact .recorded _ now

theorem publishOperationResult_debug (ext : AdapterExtension) (control : ControlRequest)
    (snapshot : OperationRecord) (correlation : ULONGLONG) (now : LONGLONG) :
    DebugChange ext.debug
      (publishOperationResult ext control snapshot correlation now).1.debug := by
  have hbind : ∀ lun operation,
      (LunStore.bindCreateOperationLocked ext lun operation).debug = ext.debug := by
    intro lun operation
    unfold LunStore.bindCreateOperationLocked
    split <;> rfl
  unfold publishOperationResult
  split
  · exact .kept
  · simp only
    split
    · rw [← hbind snapshot.lun snapshot.id]
      exact .recorded _ now
    · exact .recorded _ now

theorem failQueueing_debug (ext : AdapterExtension) (control : ControlRequest)
    (command : MutationCommand) (now : LONGLONG) :
    DebugChange ext.debug (failQueueing ext control command now).1.debug := by
  unfold failQueueing
  cases command.isReserved with
  | true => exact failOperationLocked_debug ext _ _ control _ now
  | false => exact .kept

def ControlDispatch.Outcome.extension : Outcome → AdapterExtension
  | .complete ext _ => ext
  | .submitted ext _ _ => ext

theorem submit_debug (ext : AdapterExtension) (control : ControlRequest) (command : MutationCommand)
    (now : LONGLONG) : DebugChange ext.debug (submit ext control command now).extension.debug := by
  have hspec := prepareSubmission_spec ext control command now
  unfold submit
  generalize prepareSubmission ext control command now = prepared at hspec ⊢
  cases hspec with
  | refused | unbound | replayed => exact .kept
  | legacy | bound => exact .recorded _ now

theorem handleControl_debug (ext : AdapterExtension) (control : ControlRequest) :
    DebugChange ext.debug (Diagnostics.handleControl ext control).1.debug := by
  unfold Diagnostics.handleControl
  simp only
  split
  · exact .kept
  · rename_i d hd
    split
    · split
      · exact .kept
      split
      · exact .kept
      · unfold Diagnostics.configure
        split
        · rename_i mode _
          split
          · exact .kept
          · rename_i hcount
            exact .configured d mode _ hd hcount
        · exact .kept
    · split
      · exact .kept
      split
      · exact .kept
      · exact .kept

theorem handleReserveOperation_debug (ext : AdapterExtension) (control : ControlRequest) :
    (handleReserveOperation ext control).extension.debug = ext.debug := by
  unfold handleReserveOperation
  split
  · rfl
  · simp only
    split
    · rfl
    · rename_i reserved hreserve
      split at hreserve
      · obtain ⟨_, _, _, _, i, _, heq⟩ := reserveOperation_ok hreserve
        subst heq
        rfl
      · cases hreserve

theorem dispatchControlRequest_debug (ext : AdapterExtension) (control : ControlRequest)
    (now : LONGLONG) :
    DebugChange ext.debug (dispatchControlRequest ext control now).extension.debug := by
  unfold dispatchControlRequest
  simp only
  split
  · exact handleControl_debug ext control
  split
  · rw [handleReserveOperation_debug]
    exact .kept
  split
  · unfold handleQueryOperation
    split
    · exact .kept
    · split <;> exact .kept
  split
  · unfold handleListState
    simp only
    split
    · split <;> exact .kept
    · split <;> exact .kept
  split
  · unfold handleReservedCreateControl
    split
    · exact .kept
    · simp only
      split
      · exact .kept
      · exact submit_debug _ _ _ now
  split
  · unfold handleReservedDeleteControl
    split
    · exact .kept
    · simp only
      split
      · exact .kept
      · exact submit_debug _ _ _ now
  split
  · unfold handleQueryVersion
    simp only
    split
    · exact .kept
    · split <;> exact .kept
  split
  · unfold handleListDisks
    simp only
    split <;> exact .kept
  split
  · unfold handleCreateControl
    simp only
    split
    · exact .kept
    · exact submit_debug _ _ _ now
  split
  · unfold handleDeleteControl
    simp only
    split
    · exact .kept
    · exact submit_debug _ _ _ now
  · exact .kept

def ControlDispatch.IoControlOutcome.extension : IoControlOutcome → AdapterExtension
  | .complete ext _ => ext
  | .submitted ext _ _ => ext

theorem handleIoControl_debug (ext : AdapterExtension) (srb : ScsiRequestBlock) (now : LONGLONG) :
    DebugChange ext.debug (handleIoControl ext srb now).extension.debug := by
  unfold handleIoControl
  split
  · exact .kept
  · rename_i control _
    have hdispatch := dispatchControlRequest_debug ext control now
    cases hresult : dispatchControlRequest ext control now with
    | complete ext' control' =>
      rw [hresult] at hdispatch
      exact hdispatch
    | submitted ext' control' command =>
      rw [hresult] at hdispatch
      exact hdispatch

/-! ## What a step does to the diagnostics -/

namespace Adapter

/-- A step of a submission changes the diagnostics and keeps the fault, or it takes one. -/
inductive AdvanceDebug (a : Adapter) (s : Submission) (a' : Adapter) : Option Submission → Prop
  | changed (next : Option Submission)
      (hdebug : DebugChange a.extension.debug a'.extension.debug)
      (hnext : ∀ s', next = some s' → s'.id = s.id ∧ s'.fault = s.fault) :
      AdvanceDebug a s a' next
  | faulted (s' : Submission)
      (hdebug : a'.extension.debug = a.extension.debug.map Diagnostics.consumeFault)
      (hid : s'.id = s.id) (hfault : s'.fault = Diagnostics.injectedFault a.extension.debug) :
      AdvanceDebug a s a' (some s')

variable {a a' b : Adapter} {s : Submission}

theorem AdvanceDebug.working {s' : Submission} (hid : s'.id = s.id) (hfault : s'.fault = s.fault)
    (hdebug : DebugChange a.extension.debug a'.extension.debug) :
    AdvanceDebug a s a' (some s') := by
  refine .changed _ hdebug fun t ht => ?_
  cases ht
  exact ⟨hid, hfault⟩

theorem beginWork_debug (a : Adapter) (s : Submission) :
    AdvanceDebug a s (a.beginWork s).1 (some (a.beginWork s).2) := by
  unfold beginWork
  simp only
  split
  · exact .faulted _ rfl rfl rfl
  split
  · exact .working rfl rfl .kept
  split
  · exact .working rfl rfl .kept
  · exact .working rfl rfl .kept

theorem publish_debug (a : Adapter) (s : Submission) (work : Work) (status : NTSTATUS)
    (created : Option (ULONG × UCHAR)) (now : LONGLONG) :
    AdvanceDebug a s (a.publish s work status created now).1
      (some (a.publish s work status created now).2) := by
  cases work with
  | legacyCreate | legacyDelete => exact .working rfl rfl .kept
  | reserved snapshot correlation =>
    exact .working rfl rfl (publishOperationResult_debug a.extension s.control _ correlation now)

theorem detachBackingStore_debug (ext : AdapterExtension) (lun : Fin kMaximumDiskCount)
    (deviceId : ULONG) : (LunStore.detachBackingStore ext lun deviceId).1.debug = ext.debug := by
  unfold LunStore.detachBackingStore
  split <;> rfl

theorem advance_debug {granted : Bool} {now : LONGLONG} {next : Option Submission}
    (h : advance a s granted now = some (a', next)) : AdvanceDebug a s a' next := by
  unfold advance at h
  cases hphase : s.phase with
  | prepared | zeroMemory | freeAllocation | freePool | finalize | respond =>
    simp only [hphase] at h
    cases h
    exact .working rfl rfl .kept
  | queueFailed =>
    simp only [hphase] at h
    cases h
    refine .changed _ (failQueueing_debug a.extension s.control s.command now) fun _ h => ?_
    cases h
  | queued =>
    simp only [hphase] at h
    split at h <;> cases h
    · exact .working rfl rfl .kept
    · exact .working rfl rfl (.recorded _ now)
  | takeFault =>
    simp only [hphase] at h
    cases h
    exact beginWork_debug a s
  | rejectOperation =>
    simp only [hphase] at h
    cases h
    exact .working rfl rfl (failOperationLocked_debug a.extension _ _ s.control _ now)
  | selectLun | allocate | waitForLunIo | snapshotPending =>
    simp only [hphase] at h
    split at h <;> cases h <;> exact .working rfl rfl .kept
  | commit work selected allocation =>
    simp only [hphase] at h
    split at h <;> cases h
    · exact .working rfl rfl .kept
    · rename_i ext deviceId hcommit
      refine .working rfl rfl ?_
      obtain ⟨_, _, _, _, rfl⟩ := LunStore.commitNewLun_ok hcommit
      exact .kept
  | markStopping work =>
    simp only [hphase] at h
    split at h <;> cases h
    · exact .working rfl rfl .kept
    · rename_i ext lun hmark
      obtain ⟨_, _, rfl⟩ := LunStore.markLunStopping_some hmark
      exact .working rfl rfl .kept
  | detach work lun =>
    simp only [hphase] at h
    cases h
    refine .working rfl rfl ?_
    simp only
    rw [detachBackingStore_debug]
    exact .kept
  | publish work status created =>
    simp only [hphase] at h
    cases h
    exact publish_debug a s work status created now
  | traceResponse | complete | notifyBus =>
    simp only [hphase] at h
    cases h
    exact .working rfl rfl (.recorded _ now)
  | endManagement =>
    simp only [hphase] at h
    cases h
    exact .changed _ .kept (fun _ h => by cases h)

theorem advanceTeardown_debug {workerBusy : Bool} (h : a.advanceTeardown workerBusy = some b) :
    b.extension.debug = a.extension.debug := by
  unfold advanceTeardown at h
  cases hteardown : a.teardown with
  | notStarted | waitForIdle | waitForLunIo =>
    simp only [hteardown] at h
    split at h <;> cases h
    rfl
  | firstStopping | releaseWorker =>
    simp only [hteardown] at h
    split at h <;> cases h <;> rfl
  | detach lun deviceId =>
    simp only [hteardown] at h
    cases h
    exact detachBackingStore_debug _ lun deviceId
  | done =>
    simp only [hteardown] at h
    cases h
  | closeAdmission | idleObserved | markAllStopping | readTarget | freePool | readRemoved | finalize
  | invalidate =>
    simp only [hteardown] at h
    cases h
    rfl

/-- `HwStartIo` changes the diagnostics; a new submission has no fault yet. -/
theorem advanceCommand_debug (a : Adapter) (i : ℕ) (c : ScsiCommand) :
    (a.advanceCommand i c).extension.debug = a.extension.debug ∧
      (a.advanceCommand i c).submissions = a.submissions := by
  unfold advanceCommand
  split
  · exact ⟨rfl, rfl⟩
  · refine ⟨?_, rfl⟩
    unfold giveBack LunStore.releaseLunIo
    simp only
    split <;> rfl

theorem startIo_debug (a : Adapter) (srb : ScsiRequestBlock) (now : LONGLONG) :
    DebugChange a.extension.debug (a.startIo srb now).extension.debug ∧
      ∀ s ∈ (a.startIo srb now).submissions, s ∈ a.submissions ∨ s.fault = .disabled := by
  have hsame : ∀ s ∈ a.submissions, s ∈ a.submissions ∨ s.fault = .disabled := fun s hs => .inl hs
  unfold startIo
  simp only
  split
  · have hcontrol := handleIoControl_debug a.extension srb now
    unfold startIoControl
    simp only
    cases hresult : handleIoControl a.extension srb now with
    | complete ext srb =>
      rw [hresult] at hcontrol
      exact ⟨hcontrol, hsame⟩
    | submitted ext control command =>
      rw [hresult] at hcontrol
      refine ⟨hcontrol, fun s hs => ?_⟩
      rcases List.mem_append.mp hs with hs | hs
      · exact .inl hs
      · exact .inr (List.mem_singleton.mp hs ▸ rfl)
  split
  · unfold startExecuteScsi
    split
    · exact ⟨.kept, hsame⟩
    split
    · exact ⟨.kept, hsame⟩
    · simp only
      split
      · exact ⟨.kept, hsame⟩
      · rename_i ext lun view hacquire
        have hkept : ext.debug = a.extension.debug := by
          obtain ⟨_, _, _, _, _, _, _, _, rfl⟩ := LunStore.acquireLunIo_some hacquire
          rfl
        refine ⟨?_, hsame⟩
        simp only
        rw [hkept]
        exact .kept
  split
  · exact ⟨.kept, hsame⟩
  · exact ⟨.kept, hsame⟩

/-! ## Runs -/

/-- The adapter shows a journal: its Debug part does, and every fault that a submission carries is
recorded there. The journal of a Release build has no fault. -/
structure Shows (a : Adapter) (j : Journal) : Prop where
  debug : ∀ d, a.extension.debug = some d → d.Shows j
  release : a.extension.debug = none → j.faults = []
  carried : ∀ s ∈ a.submissions, s.fault ≠ .disabled → (s.id, s.fault) ∈ j.faults

variable {j : Journal}

theorem shows_initial (adapterInstance : ULONGLONG) (dbg : Bool) (contents : Allocation → Bytes) :
    (initial adapterInstance dbg contents).Shows {} := by
  refine ⟨fun d hd => ?_, fun _ => rfl, fun s hs => by cases hs⟩
  cases dbg with
  | false => cases hd
  | true =>
    cases hd
    exact DebugState.shows_initial

/-- A section that takes no fault is one change of the journal at most. -/
theorem Shows.changed (h : a.Shows j) (hdebug : DebugChange a.extension.debug b.extension.debug)
    (hcarried : ∀ s ∈ b.submissions, s.fault ≠ .disabled →
      ∃ s' ∈ a.submissions, s'.id = s.id ∧ s'.fault = s.fault) :
    ∃ j', Relation.ReflGen Journal.Step j j' ∧ b.Shows j' := by
  have hkeep : ∀ {j' : Journal}, j'.faults = j.faults →
      ∀ s ∈ b.submissions, s.fault ≠ .disabled → (s.id, s.fault) ∈ j'.faults := by
    intro j' hfaults s hs hfault
    obtain ⟨s', hs', hid, hsame⟩ := hcarried s hs hfault
    rw [hfaults, ← hid, ← hsame]
    exact h.carried s' hs' (hsame ▸ hfault)
  cases hbefore : a.extension.debug with
  | none =>
    have hafter : b.extension.debug = none := by
      rw [hbefore] at hdebug
      generalize b.extension.debug = debug at hdebug
      cases hdebug with
      | kept => rfl
      | recorded => rfl
      | configured d mode count hd => cases hd
    refine ⟨j, .refl, fun d hd => ?_, fun _ => h.release hbefore, hkeep rfl⟩
    rw [hafter] at hd
    cases hd
  | some d =>
    have hshows := h.debug d hbefore
    rw [hbefore] at hdebug
    generalize hafter : b.extension.debug = debug at hdebug
    have hshown : ∀ {j' : Journal} {d' : DebugState}, debug = some d' → d'.Shows j' →
        j'.faults = j.faults → b.Shows j' := by
      intro j' d' hd' hshows' hfaults
      refine ⟨fun d'' hd'' => ?_, fun hnone => ?_, hkeep hfaults⟩
      · rw [hafter, hd'] at hd''
        exact Option.some.inj hd'' ▸ hshows'
      · rw [hafter, hd'] at hnone
        cases hnone
    cases hdebug with
    | kept => exact ⟨j, .refl, hshown rfl hshows rfl⟩
    | recorded e now =>
      obtain ⟨j', hstep, hfaults, hshows'⟩ := hshows.record e now
      exact ⟨j', hstep, hshown rfl hshows' hfaults⟩
    | configured d' mode count hd' hcount =>
      cases hd'
      obtain ⟨j', hstep, hfaults, hshows'⟩ := hshows.configure mode hcount
      exact ⟨j', .single hstep, hshown rfl hshows' hfaults⟩

/-- A submission that takes a fault takes one of the journal's remaining ones. -/
theorem Shows.faulted (h : a.Shows j)
    (hdebug : b.extension.debug = a.extension.debug.map Diagnostics.consumeFault) (id : ℕ)
    (hcarried : ∀ s ∈ b.submissions,
      s ∈ a.submissions ∨ s.id = id ∧ s.fault = Diagnostics.injectedFault a.extension.debug) :
    ∃ j', Relation.ReflGen Journal.Step j j' ∧ b.Shows j' := by
  cases hbefore : a.extension.debug with
  | none =>
    rw [hbefore] at hdebug hcarried
    refine ⟨j, .refl, fun d hd => ?_, fun _ => h.release hbefore, fun s hs hfault => ?_⟩
    · rw [hdebug] at hd
      cases hd
    · rcases hcarried s hs with hold | ⟨_, hnone⟩
      · exact h.carried s hold hfault
      · exact absurd hnone hfault
  | some d =>
    rw [hbefore] at hdebug hcarried
    have hsome : ∀ {j' : Journal}, (Diagnostics.consumeFault d).Shows j' →
        ∀ d', b.extension.debug = some d' → d'.Shows j' := by
      intro j' hshows d' hd'
      rw [hdebug] at hd'
      exact Option.some.inj hd' ▸ hshows
    have hnever : b.extension.debug ≠ none := by
      rw [hdebug]
      exact Option.some_ne_none _
    rcases (h.debug d hbefore).takeFault id with ⟨hnone, hsame⟩ | ⟨j', hstep, hshows, hfaults⟩
    · have hshows : (Diagnostics.consumeFault d).Shows j := by
        rw [hsame]
        exact h.debug d hbefore
      refine ⟨j, .refl, hsome hshows, fun hd => absurd hd hnever, fun s hs hfault => ?_⟩
      rcases hcarried s hs with hold | ⟨_, hinjected⟩
      · exact h.carried s hold hfault
      · exact absurd (hinjected.trans hnone) hfault
    · refine ⟨j', .single hstep, hsome hshows, fun hd => absurd hd hnever, fun s hs hfault => ?_⟩
      rw [hfaults]
      rcases hcarried s hs with hold | ⟨hid, hinjected⟩
      · exact List.mem_append_left _ (h.carried s hold hfault)
      · rw [hid, hinjected]
        exact List.mem_append_right _ (List.mem_singleton_self _)

/-- A step of the adapter is at most one change of the journal. -/
theorem Shows.step {action : Action} (h : a.Shows j) (hs : Adapter.step a action = some b) :
    ∃ j', Relation.ReflGen Journal.Step j j' ∧ b.Shows j' := by
  have hsame : a.extension.debug = b.extension.debug → a.submissions = b.submissions →
      ∃ j', Relation.ReflGen Journal.Step j j' ∧ b.Shows j' := by
    intro hdebug hsubmissions
    refine h.changed (hdebug ▸ .kept) fun s hs _ => ⟨s, hsubmissions ▸ hs, rfl, rfl⟩
  cases action with
  | startIo srb now =>
    simp only [Adapter.step] at hs
    split at hs <;> cases hs
    obtain ⟨hdebug, hsubmissions⟩ := startIo_debug a srb now
    refine h.changed hdebug fun s hs hfault => ?_
    exact ⟨s, (hsubmissions s hs).resolve_right hfault, rfl, rfl⟩
  | command i =>
    simp only [Adapter.step] at hs
    split at hs <;> cases hs
    rename_i c _
    have hcommand := advanceCommand_debug a i c
    exact hsame hcommand.1.symm hcommand.2.symm
  | completeRequest i =>
    simp only [Adapter.step] at hs
    split at hs <;> cases hs
    exact hsame rfl rfl
  | submission i granted now =>
    simp only [Adapter.step] at hs
    split at hs
    · rename_i s hget
      have hmember : s ∈ a.submissions := List.mem_of_getElem? hget
      cases hadvance : a.advance s granted now with
      | none =>
        rw [hadvance] at hs
        cases hs
      | some result =>
        obtain ⟨a', next⟩ := result
        have hadvanced := (advance_debug hadvance)
        have hothers := (advance_advanced hadvance).submissions
        rw [hadvance] at hs
        cases hadvanced with
        | changed _ hdebug hnext =>
          cases next with
          | none =>
            cases hs
            refine h.changed hdebug fun t ht _ => ⟨t, ?_, rfl, rfl⟩
            exact hothers ▸ List.mem_of_mem_eraseIdx ht
          | some s' =>
            cases hs
            refine h.changed hdebug fun t ht _ => ?_
            rcases List.mem_or_eq_of_mem_set ht with ht | rfl
            · exact ⟨t, hothers ▸ ht, rfl, rfl⟩
            · obtain ⟨hid, hfault⟩ := hnext _ rfl
              exact ⟨s, hmember, hid.symm, hfault.symm⟩
        | faulted s' hdebug hid hfault =>
          cases hs
          refine h.faulted hdebug s.id fun t ht => ?_
          rcases List.mem_or_eq_of_mem_set ht with ht | rfl
          · exact .inl (hothers ▸ ht)
          · exact .inr ⟨hid, hfault⟩
    · cases hs
  | setStopping stopping =>
    cases hs
    refine hsame ?_ rfl
    unfold setStopping
    split <;> rfl
  | teardown workerBusy =>
    exact hsame (advanceTeardown_debug hs).symm (advanceTeardown_sameSrbs hs).submissions.symm

/-- The diagnostics of every reachable adapter show a journal that a new one comes to. -/
theorem reachable_shows {C : Contract Adapter Action} (h : Reachable system C a) :
    ∃ j, Journal.Reachable j ∧ a.Shows j := by
  induction h with
  | initial h =>
    obtain ⟨adapterInstance, dbg, contents, rfl⟩ := h
    exact ⟨{}, Relation.ReflTransGen.refl, shows_initial adapterInstance dbg contents⟩
  | step _ _ hs ih =>
    obtain ⟨j, hj, hshows⟩ := ih
    obtain ⟨j', hstep, hshows'⟩ := hshows.step hs
    exact ⟨j', hj.trans hstep.to_reflTransGen, hshows'⟩

/-- A run continues the journal. -/
theorem Shows.steps {C : Contract Adapter Action} (h : a.Shows j) (hrun : Steps system C a b) :
    ∃ j', Relation.ReflTransGen Journal.Step j j' ∧ b.Shows j' := by
  induction hrun with
  | refl => exact ⟨j, Relation.ReflTransGen.refl, h⟩
  | step _ _ hs ih =>
    obtain ⟨j', hj', hshows⟩ := ih
    obtain ⟨j'', hstep, hshows'⟩ := hshows.step hs
    exact ⟨j'', hj'.trans hstep.to_reflTransGen, hshows'⟩

/-- The journal of a reachable adapter: its entries are numbered, its faults come of accepted
configurations, a step is at most one change of it, and a later state shows a continuation of it. -/
theorem diagnostics_journaled {C : Contract Adapter Action} (h : Reachable system C a) :
    ∃ j, Journal.Reachable j ∧ Journal.Consistent j ∧ a.Shows j ∧
      (∀ action b, system.step a action = some b →
        ∃ j', Relation.ReflGen Journal.Step j j' ∧ b.Shows j') ∧
      ∀ b, Steps system C a b → ∃ j', Relation.ReflTransGen Journal.Step j j' ∧
        Journal.Consistent j' ∧ b.Shows j' ∧ j.entries <+: j'.entries ∧ j.faults <+: j'.faults := by
  obtain ⟨j, hj, hshows⟩ := reachable_shows h
  refine ⟨j, hj, hj.consistent, hshows, fun action b hs => hshows.step hs, fun b hrun => ?_⟩
  obtain ⟨j', hj', hshows'⟩ := hshows.steps hrun
  have hextends := Journal.extends_of_steps hj'
  exact ⟨j', hj', Journal.Reachable.consistent (hj.trans hj'), hshows', hextends.1, hextends.2⟩

/-- The Debug control interface as a client uses it. -/
def configureRequest (mode count : ULONG) : Cli.Request :=
  let operation : Cli.ControlOperation :=
    { code := Diagnostics.kConfigureControlCode
      requestSize := Diagnostics.Configuration.size
      responseSize := ResponseHeader.size }
  { operation := operation
    correlationId := 1
    fields := (operation.requestHeader 1).fields ++ [fieldULONG mode, fieldULONG count] }

def readTraceRequest : Cli.Request :=
  let operation : Cli.ControlOperation :=
    { code := Diagnostics.kReadTraceControlCode
      requestSize := RequestHeader.size
      responseSize := Diagnostics.traceResponseSize }
  { operation := operation, correlationId := 2, fields := (operation.requestHeader 2).fields }

/-- A client turns tracing on; the create that follows has been accepted. -/
def traced : Adapter :=
  (initial 7 true fun _ _ => 0).after
    [.startIo (configureRequest 1 0).toSrb 0, .startIo (createDiskSrb 512 69) 5]

theorem traced_reachable : Reachable system anyAction traced :=
  reachable_of_run ⟨7, true, _, rfl⟩ (run_after (by decide +kernel))

theorem traced_journaled :
    ∃ j, Journal.Reachable j ∧ Journal.Consistent j ∧ traced.Shows j ∧
      (∀ action b, system.step traced action = some b →
        ∃ j', Relation.ReflGen Journal.Step j j' ∧ b.Shows j') ∧
      ∀ b, Steps system anyAction traced b → ∃ j', Relation.ReflTransGen Journal.Step j j' ∧
        Journal.Consistent j' ∧ b.Shows j' ∧ j.entries <+: j'.entries ∧ j.faults <+: j'.faults :=
  diagnostics_journaled traced_reachable

end Adapter

/-! ## Reading the trace -/

namespace Journal

/-- The entries that a read returns: the newest ones since the sequence number has wrapped, sixteen
at most. -/
def recent (j : Journal) : List TraceEntry :=
  j.entries.drop (j.entries.length - min (j.entries.length % 2 ^ 64) Diagnostics.traceSnapshotCount)

theorem recent_length (j : Journal) :
    j.recent.length = min (j.entries.length % 2 ^ 64) Diagnostics.traceSnapshotCount := by
  have hle := Nat.mod_le j.entries.length (2 ^ 64)
  unfold recent
  rw [List.length_drop]
  omega

/-- The reply to a read. -/
def response (j : Journal) (header : ResponseHeader) : Fields :=
  header.fields ++
    [fieldULONGLONG (UInt64.ofNat j.entries.length), (4, j.recent.length), (4, 0)] ++
    (j.recent ++ List.replicate (Diagnostics.traceSnapshotCount - j.recent.length)
      ({} : TraceEntry)).flatMap Diagnostics.TraceEntry.fields

/-- The entries that a read returns carry the numbers up to the sequence number of the reply. -/
theorem Consistent.recent_numbered {j : Journal} (h : Consistent j) {i : ℕ} {e : TraceEntry}
    (he : j.recent[i]? = some e) :
    e.sequence = UInt64.ofNat (j.entries.length - j.recent.length + i + 1) := by
  have hle := Nat.mod_le j.entries.length (2 ^ 64)
  rw [recent_length]
  unfold recent at he
  rw [List.getElem?_drop] at he
  exact h.numbered _ e he

end Journal

/-- What a read copies from the ring is the end of the journal. -/
theorem DebugState.Shows.response_eq {d : DebugState} {j : Journal} (h : d.Shows j)
    (header : ResponseHeader) :
    Diagnostics.traceResponse header d = j.response header := by
  have hsequence : d.traceSequence.toNat = j.entries.length % 2 ^ 64 := by
    rw [h.sequence, UInt64.toNat_ofNat']
  have hle := Nat.mod_le j.entries.length (2 ^ 64)
  have hcount := j.recent_length
  have hsmall : j.recent.length ≤ Diagnostics.traceSnapshotCount :=
    hcount ▸ Nat.min_le_right _ _
  have hwrapped : j.recent.length ≤ j.entries.length % 2 ^ 64 := hcount ▸ Nat.min_le_left _ _
  have hread : ∀ i < j.recent.length,
      d.trace (Fin.ofNat traceEntryCount (j.entries.length % 2 ^ 64 - j.recent.length + i)) =
        d.trace (Fin.ofNat traceEntryCount (j.entries.length - j.recent.length + i)) := by
    intro i hi
    have hwrap := Nat.div_add_mod j.entries.length (2 ^ 64)
    have hslot : j.entries.length - j.recent.length + i =
        j.entries.length % 2 ^ 64 - j.recent.length + i + 2 ^ 64 * (j.entries.length / 2 ^ 64) := by
      omega
    refine congrArg d.trace (Fin.ext ?_)
    show _ % traceEntryCount = _ % traceEntryCount
    unfold traceEntryCount
    omega
  have hrecent : (List.range j.recent.length).map (fun i =>
      d.trace (Fin.ofNat traceEntryCount (j.entries.length % 2 ^ 64 - j.recent.length + i))) =
        j.recent := by
    have hring := h.ring.recent (hsmall.trans (by decide)) (hwrapped.trans hle)
    rw [List.map_congr_left fun i hi => hread i (List.mem_range.mp hi), hring, hcount]
    rfl
  have hsnapshot : (List.range Diagnostics.traceSnapshotCount).map (fun index =>
      if index < j.recent.length then
        d.trace (Fin.ofNat traceEntryCount (j.entries.length % 2 ^ 64 - j.recent.length + index))
      else {}) =
        j.recent ++ List.replicate (Diagnostics.traceSnapshotCount - j.recent.length)
          ({} : TraceEntry) := by
    have hsplit := Nat.add_sub_of_le hsmall
    conv_lhs => rw [← hsplit]
    rw [List.range_add, List.map_append, List.map_map]
    refine congrArg₂ _ ?_ ?_
    · rw [List.map_congr_left fun i hi => if_pos (List.mem_range.mp hi)]
      exact hrecent
    · apply List.eq_replicate_iff.mpr
      refine ⟨by rw [List.length_map, List.length_range], fun entry hentry => ?_⟩
      obtain ⟨i, _, rfl⟩ := List.mem_map.mp hentry
      exact if_neg (by simp)
  unfold Diagnostics.traceResponse Journal.response
  rw [← hsnapshot, List.flatMap_map, hsequence, ← hcount, h.sequence]

/-- A valid read of the trace is answered from the ring. -/
theorem Diagnostics.handleControl_readTrace {ext : AdapterExtension} {control : ControlRequest}
    {d : DebugState} {header : RequestHeader} (hdebug : ext.debug = some d)
    (hcode : control.ioControl.controlCode = kReadTraceControlCode)
    (hheader : readAndValidateRequestHeader control.payload control.ioControl.length
      RequestHeader.size kReadTraceControlCode = (statusSuccess, header))
    (hroom : ¬ control.ioControl.length < traceResponseSize) :
    handleControl ext control = (ext, control.writeResponse traceResponseSize
      (traceResponse (makeResponseHeader traceResponseSize kReadTraceControlCode statusSuccess
        header.correlationId) d) statusSuccess) := by
  unfold handleControl
  simp only [hdebug, hcode, hheader]
  rw [if_neg (by decide), if_neg (by decide), if_neg hroom]

/-- What the diagnostics answer is what the SRB is completed with. -/
theorem ControlDispatch.handleIoControl_diagnosed {ext ext' : AdapterExtension}
    {srb : ScsiRequestBlock} {control control' : ControlRequest}
    (hcontrol : ControlRequest.fromSrb srb = some control)
    (hcode : control.ioControl.controlCode = Diagnostics.kConfigureControlCode ∨
      control.ioControl.controlCode = Diagnostics.kReadTraceControlCode)
    (hhandled : Diagnostics.handleControl ext control = (ext', control')) (now : LONGLONG) :
    handleIoControl ext srb now = .complete ext' control'.toSrb := by
  have hdispatched : dispatchControlRequest ext control now = .complete ext' control' := by
    unfold dispatchControlRequest
    rw [if_pos hcode, hhandled]
  unfold handleIoControl
  simp only [hcontrol, hdispatched]

namespace Adapter

/-- A valid read of the trace, at any time, answers with the newest entries of the journal and
changes nothing. -/
theorem readTrace_replies {C : Contract Adapter Action} {a : Adapter} {d : DebugState}
    {srb : ScsiRequestBlock} {control : ControlRequest} {header : RequestHeader}
    (h : Reachable system C a) (hdebug : a.extension.debug = some d)
    (hfunction : srb.function = srbFunctionIoControl)
    (hcontrol : ControlRequest.fromSrb srb = some control)
    (hcode : control.ioControl.controlCode = Diagnostics.kReadTraceControlCode)
    (hheader : readAndValidateRequestHeader control.payload control.ioControl.length
      RequestHeader.size Diagnostics.kReadTraceControlCode = (statusSuccess, header))
    (hroom : ¬ control.ioControl.length < Diagnostics.traceResponseSize) (now : LONGLONG) :
    ∃ j, Journal.Reachable j ∧ a.Shows j ∧ (a.startIo srb now).extension = a.extension ∧
      (a.startIo srb now).returned = a.returned ++ [{
        id := a.nextSrb
        srb := (control.writeResponse Diagnostics.traceResponseSize
          (j.response (makeResponseHeader Diagnostics.traceResponseSize
            Diagnostics.kReadTraceControlCode statusSuccess header.correlationId))
          statusSuccess).toSrb
        status := srbStatusSuccess }] ∧
      ∀ i e, j.recent[i]? = some e →
        e.sequence = UInt64.ofNat (j.entries.length - j.recent.length + i + 1) := by
  obtain ⟨j, hj, hshows⟩ := reachable_shows h
  have hhandled := Diagnostics.handleControl_readTrace hdebug hcode hheader hroom
  rw [(hshows.debug d hdebug).response_eq] at hhandled
  have hstarted := handleIoControl_diagnosed hcontrol (.inr hcode) hhandled now
  have hwritten : ∀ fields, controlStatus (control.writeResponse Diagnostics.traceResponseSize
      fields statusSuccess).toSrb = srbStatusSuccess := by
    intro fields
    unfold ControlRequest.writeResponse
    rw [if_neg hroom]
    rfl
  refine ⟨j, hj, hshows, ?_, ?_, fun i e he => hj.consistent.recent_numbered he⟩
  · unfold startIo startIoControl
    simp only [if_pos hfunction, hstarted]
    rfl
  · unfold startIo startIoControl
    simp only [if_pos hfunction, hstarted, giveBack, hwritten]

/-- The trace is read while the create is on its way. -/
theorem traced_replies :
    let header := makeResponseHeader Diagnostics.traceResponseSize
      Diagnostics.kReadTraceControlCode statusSuccess 2
    ∃ j, Journal.Reachable j ∧ traced.Shows j ∧
      (traced.startIo readTraceRequest.toSrb 9).extension = traced.extension ∧
      (traced.startIo readTraceRequest.toSrb 9).returned = traced.returned ++ [{
        id := traced.nextSrb
        srb := (readTraceRequest.control.writeResponse Diagnostics.traceResponseSize
          (j.response header) statusSuccess).toSrb
        status := srbStatusSuccess }] ∧
      ∀ i e, j.recent[i]? = some e →
        e.sequence = UInt64.ofNat (j.entries.length - j.recent.length + i + 1) := by
  have hdebug : traced.extension.debug.isSome = true := by decide +kernel
  obtain ⟨d, hd⟩ := Option.isSome_iff_exists.mp hdebug
  have hheader : readAndValidateRequestHeader readTraceRequest.control.payload
      readTraceRequest.control.ioControl.length RequestHeader.size
      Diagnostics.kReadTraceControlCode =
        (statusSuccess, readTraceRequest.operation.requestHeader 2) := by
    decide +kernel
  exact readTrace_replies traced_reachable hd rfl (Cli.Request.fromSrb_toSrb _) rfl hheader
    (by decide) 9

end Adapter

end WispDisk
