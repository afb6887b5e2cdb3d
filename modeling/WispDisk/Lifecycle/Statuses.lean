import WispDisk.Lifecycle.Completions

/-! Statuses. `Submit` marks an SRB PENDING before the worker can see it, and every way to its
completion writes another status first. -/
namespace WispDisk
open Transition
set_option autoImplicit false

/-! ## SCSI handlers -/

namespace Scsi

theorem setSense_ne_pending (srb : ScsiRequestBlock) (senseKey additionalSenseCode : UCHAR) :
    (setSense srb senseKey additionalSenseCode).1 ≠ srbStatusPending := by
  have herror : srbStatusError ≠ srbStatusPending := by decide
  have hautosense : srbStatusError ||| srbStatusAutosenseValid ≠ srbStatusPending := by decide
  unfold setSense
  split
  · split
    · exact hautosense
    · exact herror
  · exact herror

theorem copyScsiResponse_ne_pending (srb : ScsiRequestBlock) (response : List UCHAR)
    (responseLength : ULONG) :
    (copyScsiResponse srb response responseLength).1 ≠ srbStatusPending := by
  have hsuccess : srbStatusSuccess ≠ srbStatusPending := by decide
  have hoverrun : srbStatusDataOverrun ≠ srbStatusPending := by decide
  unfold copyScsiResponse
  split
  · split
    · exact setSense_ne_pending _ _ _
    · exact hsuccess
  · simp only
    split
    · exact hoverrun
    · exact hsuccess

theorem handleReportLuns_ne_pending (ext : AdapterExtension) (srb : ScsiRequestBlock) :
    (handleReportLuns ext srb).1 ≠ srbStatusPending := by
  unfold handleReportLuns
  split
  · exact setSense_ne_pending _ _ _
  · exact copyScsiResponse_ne_pending _ _ _

theorem transfer_ne_pending (view : LunView) (backing : Layout.Bytes) (srb : ScsiRequestBlock)
    (t : Transfer) : (transfer view backing srb t).1 ≠ srbStatusPending := by
  have hsuccess : srbStatusSuccess ≠ srbStatusPending := by decide
  unfold transfer
  split
  · exact hsuccess
  · simp only
    split
    · exact setSense_ne_pending _ _ _
    · split
      · exact setSense_ne_pending _ _ _
      · split
        · exact setSense_ne_pending _ _ _
        · split
          · exact hsuccess
          · exact hsuccess

theorem dispatchScsiCommand_ne_pending (view : LunView) (backing : Layout.Bytes)
    (srb : ScsiRequestBlock) :
    (dispatchScsiCommand view backing srb).1 ≠ srbStatusPending := by
  have hsuccess : srbStatusSuccess ≠ srbStatusPending := by decide
  unfold dispatchScsiCommand
  simp only
  split
  · exact hsuccess
  split
  · unfold handleInquiry
    split
    · exact setSense_ne_pending _ _ _
    · split
      · exact setSense_ne_pending _ _ _
      · exact copyScsiResponse_ne_pending _ _ _
  split
  · unfold handleRequestSense
    split
    · exact setSense_ne_pending _ _ _
    · exact copyScsiResponse_ne_pending _ _ _
  split
  · exact copyScsiResponse_ne_pending _ _ _
  split
  · unfold handleReadCapacity16
    split
    · exact setSense_ne_pending _ _ _
    · exact copyScsiResponse_ne_pending _ _ _
  have hmode : ∀ tenByte, (handleModeSense srb tenByte).1 ≠ srbStatusPending := by
    intro tenByte
    unfold handleModeSense
    generalize (if tenByte = true then (10 : UCHAR) else 6) = minimum
    split
    · exact setSense_ne_pending _ _ _
    · simp only
      split
      · exact setSense_ne_pending _ _ _
      · exact copyScsiResponse_ne_pending _ _ _
  split
  · exact hmode false
  split
  · exact hmode true
  split
  · unfold handleReadWrite
    split
    · exact setSense_ne_pending _ _ _
    · exact transfer_ne_pending _ _ _ _
  · exact setSense_ne_pending _ _ _

end Scsi

/-! ## Answers of the worker -/

/-- The answer is in the SRB. -/
def ControlRequest.Answered (control : ControlRequest) : Prop :=
  control.srb.srbStatus ≠ srbStatusPending

namespace ControlRequest

theorem prepareCompletion_answered (control : ControlRequest) (status : NTSTATUS)
    (payloadLength : ULONG) : (control.prepareCompletion status payloadLength).Answered :=
  show srbStatusSuccess ≠ srbStatusPending by decide

theorem writeResponse_answered (control : ControlRequest) (size : ULONG) (response : Layout.Fields)
    (status : NTSTATUS) : (control.writeResponse size response status).Answered := by
  unfold writeResponse
  split <;> exact prepareCompletion_answered _ _ _

theorem writeError_answered (control : ControlRequest) (operation : ULONG) (status : NTSTATUS)
    (correlationId : ULONGLONG) : (control.writeError operation status correlationId).Answered := by
  unfold writeError
  split
  · exact writeResponse_answered _ _ _ _
  · exact prepareCompletion_answered _ _ _

end ControlRequest

namespace ManagementController

theorem failOperationLocked_answered (ext : AdapterExtension) (id : ULONGLONG) (status : NTSTATUS)
    (control : ControlRequest) (correlation : ULONGLONG) (now : LONGLONG) :
    (failOperationLocked ext id status control correlation now).2.Answered := by
  unfold failOperationLocked
  split
  · exact ControlRequest.writeError_answered _ _ _ _
  · exact ControlRequest.writeResponse_answered _ _ _ _

theorem publishOperationResult_answered (ext : AdapterExtension) (control : ControlRequest)
    (snapshot : OperationRecord) (correlation : ULONGLONG) (now : LONGLONG) :
    (publishOperationResult ext control snapshot correlation now).2.Answered := by
  unfold publishOperationResult
  split
  · exact ControlRequest.writeError_answered _ _ _ _
  · exact ControlRequest.writeResponse_answered _ _ _ _

theorem snapshotPendingOperation_answered {ext : AdapterExtension} {control answer : ControlRequest}
    {identity : OperationRequest}
    (h : snapshotPendingOperation ext control identity = .error answer) : answer.Answered := by
  unfold snapshotPendingOperation at h
  simp only at h
  split at h
  · cases h
    exact ControlRequest.writeError_answered _ _ _ _
  · split at h
    · cases h
      exact ControlRequest.writeError_answered _ _ _ _
    · cases h

end ManagementController

/-- The worker has written the answer and not completed the SRB. -/
def Phase.answering : Phase → Bool
  | .respond | .traceResponse _ | .complete _ => true
  | _ => false

theorem Phase.answering_start (work : Work) : work.start.answering = false := by
  unfold Work.start
  split <;> rfl

namespace Adapter

theorem failTransport_answered {fault : Mode} {control : ControlRequest} (h : control.Answered) :
    (failTransport fault control).Answered := by
  unfold failTransport
  split
  · exact show srbStatusError ≠ srbStatusPending by decide
  · exact h

theorem beginWork_answered (a : Adapter) (s : Submission) :
    (a.beginWork s).2.phase.answering = true → (a.beginWork s).2.control.Answered := by
  have hif : ∀ (b : Bool) (work : Work) (status : NTSTATUS),
      (if b = true then work.start else Phase.publish work status none).answering = false := by
    intro b work status
    split
    · exact Phase.answering_start work
    · rfl
  unfold beginWork
  simp only
  split
  · simp only
    split <;> exact fun h => absurd h Bool.false_ne_true
  split
  · exact fun h => absurd (h.symm.trans (hif _ _ _)) Bool.true_eq_false.mp
  split
  · exact fun h => absurd (h.symm.trans (hif _ _ _)) Bool.true_eq_false.mp
  · exact fun _ => ControlRequest.writeError_answered _ _ _ _

/-- The worker answers an SRB before it completes it. -/
theorem advance_answered {a a' : Adapter} {s s' : Submission} {granted : Bool} {now : LONGLONG}
    (h : advance a s granted now = some (a', some s'))
    (hs : s.phase.answering = true → s.control.Answered) :
    s'.phase.answering = true → s'.control.Answered := by
  intro hanswering
  unfold advance at h
  cases hphase : s.phase with
  | takeFault =>
    simp only [hphase] at h
    cases h
    exact beginWork_answered a s hanswering
  | queued =>
    simp only [hphase] at h
    split at h
    · cases h
      exact show srbStatusInvalidRequest ≠ srbStatusPending by decide
    · cases h
      cases hanswering
  | rejectOperation =>
    simp only [hphase] at h
    cases h
    exact ManagementController.failOperationLocked_answered _ _ _ _ _ _
  | snapshotPending =>
    simp only [hphase] at h
    split at h
    · rename_i answer heq
      cases h
      exact ManagementController.snapshotPendingOperation_answered heq
    · cases h
      simp only [Phase.answering_start] at hanswering
      cases hanswering
  | publish work status created =>
    simp only [hphase] at h
    unfold publish at h
    cases work with
    | legacyCreate request =>
      cases h
      exact ControlRequest.writeResponse_answered _ _ _ _
    | legacyDelete request =>
      cases h
      exact ControlRequest.writeResponse_answered _ _ _ _
    | reserved snapshot correlation =>
      cases h
      exact ManagementController.publishOperationResult_answered _ _ _ _ _
  | respond =>
    simp only [hphase] at h
    cases h
    exact failTransport_answered (hs (by rw [hphase]; rfl))
  | traceResponse m =>
    simp only [hphase] at h
    cases h
    exact hs (by rw [hphase]; rfl)
  | complete m =>
    simp only [hphase] at h
    cases h
    simp only at hanswering
    split at hanswering <;> cases hanswering
  | prepared =>
    simp only [hphase] at h
    cases h
    simp only at hanswering
    split at hanswering <;> cases hanswering
  | selectLun | allocate | commit | markStopping | waitForLunIo =>
    simp only [hphase] at h
    split at h <;> cases h <;> cases hanswering
  | queueFailed | endManagement =>
    simp only [hphase] at h
    cases h
  | zeroMemory | freeAllocation | detach | freePool | finalize | notifyBus =>
    simp only [hphase] at h
    cases h
    cases hanswering

/-- No SRB waits for its completion, or was completed, with the status PENDING. -/
structure Statused (a : Adapter) : Prop where
  commands : ∀ c ∈ a.commands, ∀ status, c.status = some status → status ≠ srbStatusPending
  returned : ∀ r ∈ a.returned, r.status ≠ srbStatusPending
  submissions : ∀ s ∈ a.submissions, s.phase.answering = true → s.control.Answered
  completions : ∀ completion ∈ a.history.completions, completion.2.srbStatus ≠ srbStatusPending

/-- `StartIo` gives nothing back with the status PENDING. -/
theorem startIo_returned (a : Adapter) (srb : ScsiRequestBlock) (now : LONGLONG) :
    ∀ r ∈ (a.startIo srb now).returned, r ∈ a.returned ∨ r.status ≠ srbStatusPending := by
  have hgiven : ∀ (b : Adapter) (id : ℕ) (srb : ScsiRequestBlock) (status : UCHAR),
      b.returned = a.returned → status ≠ srbStatusPending →
        ∀ r ∈ (b.giveBack id srb status).returned, r ∈ a.returned ∨ r.status ≠ srbStatusPending := by
    intro b id srb status hb hstatus r hr
    rcases List.mem_append.mp hr with hr | hr
    · exact Or.inl (hb ▸ hr)
    · rw [List.mem_singleton.mp hr]
      exact Or.inr hstatus
  have hsuccess : srbStatusSuccess ≠ srbStatusPending := by decide
  have hinvalid : srbStatusInvalidRequest ≠ srbStatusPending := by decide
  have hnoDevice : srbStatusNoDevice ≠ srbStatusPending := by decide
  unfold startIo
  simp only
  split
  · unfold startIoControl
    split
    · exact hgiven _ _ _ _ rfl (controlStatus_ne_pending _)
    · exact fun r hr => Or.inl hr
  split
  · unfold startExecuteScsi
    split
    · exact hgiven _ _ _ _ rfl (Scsi.setSense_ne_pending _ _ _)
    split
    · exact hgiven _ _ _ _ rfl (Scsi.handleReportLuns_ne_pending _ _)
    split
    · exact hgiven _ _ _ _ rfl hnoDevice
    · exact fun r hr => Or.inl hr
  split
  · exact hgiven _ _ _ _ rfl hsuccess
  · exact hgiven _ _ _ _ rfl hinvalid

namespace Statused

variable {a b : Adapter}

theorem same (h : a.Statused) (hsame : SameSrbs a b) : b.Statused := by
  refine ⟨?_, ?_, ?_, ?_⟩
  · rw [hsame.commands]
    exact h.commands
  · rw [hsame.returned]
    exact h.returned
  · rw [hsame.submissions]
    exact h.submissions
  · rw [hsame.completions]
    exact h.completions

theorem startIo (h : a.Statused) (srb : ScsiRequestBlock) (now : LONGLONG) :
    (a.startIo srb now).Statused := by
  have hreturned : ∀ r ∈ (a.startIo srb now).returned, r.status ≠ srbStatusPending := fun r hr =>
    (startIo_returned a srb now r hr).elim (h.returned r) id
  have hstarted := startIo_started a srb now
  generalize a.startIo srb now = b at hstarted hreturned
  cases hstarted with
  | kept | answered => exact ⟨h.commands, hreturned, h.submissions, h.completions⟩
  | admitted =>
    refine ⟨h.commands, hreturned, fun s hs => ?_, h.completions⟩
    rcases List.mem_append.mp hs with hs | hs
    · exact h.submissions s hs
    · rw [List.mem_singleton.mp hs]
      exact fun hanswering => absurd hanswering Bool.false_ne_true
  | leased =>
    refine ⟨fun c hc => ?_, hreturned, h.submissions, h.completions⟩
    rcases List.mem_append.mp hc with hc | hc
    · exact h.commands c hc
    · rw [List.mem_singleton.mp hc]
      exact fun status hstatus => absurd hstatus.symm (Option.some_ne_none status)

theorem command (h : a.Statused) {i : ℕ} {c : ScsiCommand} (hc : a.commands[i]? = some c) :
    (a.advanceCommand i c).Statused := by
  unfold advanceCommand
  split
  · refine ⟨fun c' hc' => ?_, h.returned, h.submissions, h.completions⟩
    rcases List.mem_or_eq_of_mem_set hc' with hc' | rfl
    · exact h.commands c' hc'
    · intro status hstatus
      cases hstatus
      exact Scsi.dispatchScsiCommand_ne_pending _ _ _
  · rename_i status hstatus
    refine ⟨fun c' hc' => h.commands c' (List.mem_of_mem_eraseIdx hc'), fun r hr => ?_,
      h.submissions, h.completions⟩
    rcases List.mem_append.mp hr with hr | hr
    · exact h.returned r hr
    · rw [List.mem_singleton.mp hr]
      exact h.commands c (List.mem_of_getElem? hc) status hstatus

theorem completeRequest (h : a.Statused) {i : ℕ} {r : Returned} (hr : a.returned[i]? = some r) :
    ({ a with returned := a.returned.eraseIdx i }.complete r.id
      (Adapter.completeRequest r.srb r.status)).Statused := by
  refine ⟨h.commands, fun r' hr' => h.returned r' (List.mem_of_mem_eraseIdx hr'), h.submissions,
    fun completion hcompletion => ?_⟩
  rcases List.mem_append.mp hcompletion with hcompletion | hcompletion
  · exact h.completions completion hcompletion
  · rw [List.mem_singleton.mp hcompletion]
    exact h.returned r (List.mem_of_getElem? hr)

theorem submission (h : a.Statused) {s : Submission} {b' : Adapter} {next : Option Submission}
    {granted : Bool} {now : LONGLONG} (hlist : a.submissions = [s])
    (hadvance : a.advance s granted now = some (b', next))
    (hb : b = { b' with submissions := next.toList }) : b.Statused := by
  have hs : s.phase.answering = true → s.control.Answered :=
    h.submissions s (hlist ▸ List.mem_singleton_self s)
  have hcommands : b.commands = a.commands := hb ▸ (advance_advanced hadvance).commands
  have hsubmissions : ∀ s' ∈ b.submissions, s'.phase.answering = true → s'.control.Answered := by
    rw [hb]
    cases next with
    | none => exact fun _ hs' => absurd hs' List.not_mem_nil
    | some s' =>
      intro s'' hs''
      rw [List.mem_singleton.mp hs'']
      exact advance_answered hadvance hs
  have hreturned' : b.returned = b'.returned := hb ▸ rfl
  have hhistory : b.history = b'.history := hb ▸ rfl
  refine ⟨hcommands ▸ h.commands, ?_, hsubmissions, ?_⟩
  · rw [hreturned']
    cases advance_srb hadvance with
    | refused r _ _ hstatus _ hreturned _ =>
      rw [hreturned]
      intro r' hr'
      rcases List.mem_append.mp hr' with hr' | hr'
      · exact h.returned r' hr'
      · rw [List.mem_singleton.mp hr']
        exact hstatus
    | queued _ _ _ hreturned | notQueued _ _ _ hreturned | working _ _ _ _ hreturned
    | completed _ _ _ _ _ hreturned | ended _ _ hreturned =>
      rw [hreturned]
      exact h.returned
  · rw [hhistory]
    cases advance_srb hadvance with
    | completed m s' hphase _ _ _ hcompletions =>
      rw [hcompletions]
      intro completion hcompletion
      rcases List.mem_append.mp hcompletion with hcompletion | hcompletion
      · exact h.completions completion hcompletion
      · rw [List.mem_singleton.mp hcompletion]
        exact hs (by rw [hphase]; rfl)
    | queued _ _ _ _ hcompletions | notQueued _ _ _ _ hcompletions
    | refused _ _ _ _ _ _ hcompletions | working _ _ _ _ _ hcompletions
    | ended _ _ _ hcompletions =>
      rw [hcompletions]
      exact h.completions

theorem step {action : Action} (h : a.Statused) (hgate : a.Gate)
    (hs : Adapter.step a action = some b) : b.Statused := by
  cases action with
  | startIo srb now =>
    simp only [Adapter.step] at hs
    split at hs
    · cases hs
      exact h.startIo srb now
    · cases hs
  | command i =>
    simp only [Adapter.step] at hs
    split at hs
    · rename_i c hc
      cases hs
      exact h.command hc
    · cases hs
  | completeRequest i =>
    simp only [Adapter.step] at hs
    split at hs
    · rename_i r hr
      cases hs
      exact h.completeRequest hr
    · cases hs
  | submission i granted now =>
    obtain ⟨s, b', next, hlist, hadvance, hb⟩ := step_submission hgate hs
    exact h.submission hlist hadvance hb
  | setStopping stopping =>
    cases hs
    exact ⟨h.commands, h.returned, h.submissions, h.completions⟩
  | teardown workerBusy => exact h.same (advanceTeardown_sameSrbs hs)

theorem reachable {C : Contract Adapter Action} (h : Reachable system C a) : a.Statused := by
  induction h with
  | initial h =>
    obtain ⟨adapterInstance, dbg, contents, rfl⟩ := h
    exact ⟨fun _ hc => absurd hc List.not_mem_nil, fun _ hr => absurd hr List.not_mem_nil,
      fun _ hs => absurd hs List.not_mem_nil, fun _ hc => absurd hc List.not_mem_nil⟩
  | step hr ha hs ih => exact ih.step (Gate.reachable hr) hs

end Statused

/-- A completion in a step's events is a completion of the history. -/
theorem completed_mem {a b : Adapter} {action : Action} {completer : Completer} {id : ℕ}
    {status : UCHAR} (h : .completed completer id status ∈ srbEvents a action b) :
    ∃ completion ∈ b.history.completions, completion.2.srbStatus = status := by
  rcases List.mem_append.mp h with h | h
  · exfalso
    cases action with
    | startIo srb now =>
      obtain ⟨c, _, heq⟩ := List.mem_map.mp h
      cases heq
    | submission i granted now =>
      simp only at h
      split at h
      · split at h
        · split at h
          · cases List.mem_singleton.mp h
          · cases h
        · cases h
      · cases h
    | command | completeRequest | setStopping | teardown => cases h
  · obtain ⟨completion, hmem, heq⟩ := List.mem_map.mp h
    cases heq
    exact ⟨completion, List.mem_of_mem_drop hmem, rfl⟩

/-- No SRB is completed with the status PENDING. -/
theorem completed_ne_pending {C : Contract Adapter Action} {s : Adapter × List SrbEvent}
    (h : Reachable SrbSystem (Contract.logged _ C) s) {completer : Completer} {id : ℕ}
    {status : UCHAR} : .completed completer id status ∈ s.2 → status ≠ srbStatusPending := by
  induction h with
  | initial h =>
    rw [h.2]
    exact fun hmem => absurd hmem List.not_mem_nil
  | step hr ha hs ih =>
    obtain ⟨hstep, hlog⟩ := System.logged_step hs
    rw [hlog]
    intro hmem
    rcases List.mem_append.mp hmem with hmem | hmem
    · exact ih hmem
    · obtain ⟨completion, hcompletion, rfl⟩ := completed_mem hmem
      exact (Statused.reachable (hr.unlogged.step ha hstep)).completions completion hcompletion

end Adapter

end WispDisk
