import WispDisk.Guarantees.Schedules
import WispDisk.Lifecycle.Confinement
import WispDisk.Lifecycle.Outcomes
import WispDisk.Lifecycle.Removal

/-! Bus-change notifications. The worker decides on `BusChangeDetected` by the bytes of the response
that it has written; on every run that is exactly when its work has changed the set of online LUNs. -/
namespace WispDisk
open Layout ManagementController Transition
set_option autoImplicit false

/-! ## What a response announces -/

theorem returnCode_success {status : NTSTATUS} :
    status.toUInt32 = statusSuccess.toUInt32 ↔ status = statusSuccess := by
  constructor
  · intro h
    cases status
    exact congrArg Int32.ofUInt32 h
  · exact fun h => congrArg Int32.toUInt32 h

/-- A completion of another length than an operation response goes by its return code. -/
theorem metadata_prepareCompletion (control : ControlRequest) (status : NTSTATUS) {length : ULONG}
    (hlength : length ≠ OperationResponse.size) :
    (metadata (control.prepareCompletion status length)).busChanged =
      (status = statusSuccess ∧ isMutationCode control.ioControl.controlCode) := by
  unfold metadata
  simp only [ControlRequest.prepareCompletion, hlength, and_false, if_false, decide_eq_true_eq,
    returnCode_success]

theorem metadata_bare (control : ControlRequest) {status : NTSTATUS}
    (hstatus : ntSuccess status = false) :
    (metadata (control.prepareCompletion status 0)).busChanged = false := by
  have hlength : (0 : ULONG) ≠ OperationResponse.size := by decide
  have hchanged := metadata_prepareCompletion control status hlength
  rw [Bool.eq_false_iff, ne_eq, hchanged]
  rintro ⟨hsuccess, _⟩
  rw [hsuccess] at hstatus
  cases hstatus

/-- A response that is not an operation response and has its room. -/
theorem metadata_writeResponse {control : ControlRequest} {size : ULONG} (response : Fields)
    (status : NTSTATUS) (hroom : size ≤ control.ioControl.length)
    (hsize : size ≠ OperationResponse.size) (hcode : isMutationCode control.ioControl.controlCode) :
    (metadata (control.writeResponse size response status)).busChanged =
      decide (status = statusSuccess) := by
  unfold ControlRequest.writeResponse
  rw [if_neg (UInt32.not_lt.mpr hroom)]
  apply Bool.eq_iff_iff.mpr
  rw [metadata_prepareCompletion _ status hsize, decide_eq_true_eq]
  exact and_iff_left hcode

theorem metadata_writeError (control : ControlRequest) (operation : ULONG) {status : NTSTATUS}
    (hstatus : ntSuccess status = false) (correlationId : ULONGLONG) :
    (metadata (control.writeError operation status correlationId)).busChanged = false := by
  unfold ControlRequest.writeError ControlRequest.writeResponse
  split
  · split
    · exact metadata_bare control ntSuccess_bufferTooSmall
    · have hlength : ResponseHeader.size ≠ OperationResponse.size := by decide
      rw [Bool.eq_false_iff, ne_eq, metadata_prepareCompletion _ status hlength]
      rintro ⟨hsuccess, _⟩
      rw [hsuccess] at hstatus
      cases hstatus
  · exact metadata_bare control hstatus

/-- A reserved request is answered with its operation, which says whether it has succeeded. -/
theorem metadata_operation {control : ControlRequest} (result : OperationResult)
    (correlation : ULONGLONG) (hroom : OperationResponse.size ≤ control.ioControl.length)
    (hcode : isReservedCode control.ioControl.controlCode = true) :
    (metadata (writeOperationResponse control result correlation)).busChanged =
      (decide (result.state = .succeeded) && ntSuccess result.status) := by
  have hread := OperationResponse.read_encode control.payload 0
    (operationResponse control result correlation) []
  rw [List.append_nil] at hread
  unfold writeOperationResponse ControlRequest.writeResponse metadata
  rw [if_neg (UInt32.not_lt.mpr hroom)]
  simp only [ControlRequest.prepareCompletion, hcode, and_self, if_true, hread]
  show decide (result.state.code = OperationState.succeeded.code ∧ ntSuccess result.status) = _
  rw [Bool.decide_and, Bool.decide_eq_true]
  congr 1
  apply decide_eq_decide.mpr
  exact ⟨OperationState.code_injective, fun h => congrArg OperationState.code h⟩

theorem metadata_failTransport (fault : Mode) (control : ControlRequest) :
    (metadata (Adapter.failTransport fault control)).busChanged = (metadata control).busChanged := by
  unfold Adapter.failTransport
  split
  · unfold metadata
    simp only
    split <;> rfl
  · rfl

theorem metadata_failOperation {ext : AdapterExtension} {id : ULONGLONG} {status : NTSTATUS}
    {control : ControlRequest} {correlation : ULONGLONG} {now : LONGLONG}
    (hroom : OperationResponse.size ≤ control.ioControl.length)
    (hcode : isReservedCode control.ioControl.controlCode = true) :
    (metadata (failOperationLocked ext id status control correlation now).2).busChanged = false := by
  unfold failOperationLocked
  split
  · exact metadata_writeError _ _ ntSuccess_notFound _
  · rw [metadata_operation _ _ hroom hcode]
    rfl

/-! ## The requests that the worker can answer -/

/-- The envelope of a mutation's SRB has room for its response. -/
def Work.Answerable (control : ControlRequest) : Work → Prop
  | .legacyCreate _ => control.ioControl.controlCode = wispDiskControlCreateDisk ∧
    CreateResponse.size ≤ control.ioControl.length
  | .legacyDelete _ => control.ioControl.controlCode = wispDiskControlDeleteDisk ∧
    ResponseHeader.size ≤ control.ioControl.length
  | .reserved _ _ => isReservedCode control.ioControl.controlCode = true ∧
    OperationResponse.size ≤ control.ioControl.length

/-- Until it is answered, a submission keeps room for its answer. -/
structure Submission.Answerable (s : Submission) : Prop where
  bound : s.phase.stage = .bound → isReservedCode s.control.ioControl.controlCode = true →
    OperationResponse.size ≤ s.control.ioControl.length
  working : ∀ work, s.phase.stage.work? = some work → work.Answerable s.control

namespace Submission.Answerable

variable {s : Submission}

theorem finishing (hstage : s.phase.stage = .finishing) : s.Answerable where
  bound := fun hbound => by
    rw [hstage] at hbound
    cases hbound
  working := fun work hwork => by
    rw [hstage] at hwork
    cases hwork

/-- The work goes on with the same request. -/
theorem working_on {phase : Phase} {work : Work} (hphase : phase.stage.work? = some work)
    (hwork : work.Answerable s.control) : { s with phase := phase }.Answerable where
  bound := fun hbound => by
    simp only at hbound
    rw [hbound] at hphase
    cases hphase
  working := fun work' hwork' => by
    simp only at hwork'
    rw [hphase] at hwork'
    cases hwork'
    exact hwork

theorem start_work? (work : Work) : work.start.stage.work? = some work := by
  rw [Phase.stage_start]
  unfold Stage.start
  split <;> rfl

end Submission.Answerable

theorem validateCreateRequest_room {control : ControlRequest} {request : CreateRequest}
    (h : validateCreateRequest control = (statusSuccess, request)) :
    CreateResponse.size ≤ control.ioControl.length := by
  have hlong : ¬ control.ioControl.length < CreateRequest.size := by
    intro hshort
    unfold validateCreateRequest ControlRequest.readRequest readAndValidateRequestHeader at h
    rw [if_pos (Or.inl hshort)] at h
    cases h
  have hsizes : CreateResponse.size.toNat = 32 ∧ CreateRequest.size.toNat = 48 := ⟨rfl, rfl⟩
  rw [UInt32.lt_iff_toNat_lt] at hlong
  rw [UInt32.le_iff_toNat_le]
  omega

theorem validateDeleteRequest_room {control : ControlRequest} {request : DeleteRequest}
    (h : validateDeleteRequest control = (statusSuccess, request)) :
    ResponseHeader.size ≤ control.ioControl.length := by
  have hlong : ¬ control.ioControl.length < DeleteRequest.size := by
    intro hshort
    unfold validateDeleteRequest ControlRequest.readRequest readAndValidateRequestHeader at h
    rw [if_pos (Or.inl hshort)] at h
    cases h
  have hsizes : ResponseHeader.size.toNat = 24 ∧ DeleteRequest.size.toNat = 32 := ⟨rfl, rfl⟩
  rw [UInt32.lt_iff_toNat_lt] at hlong
  rw [UInt32.le_iff_toNat_le]
  omega

namespace Adapter

theorem beginWork_answerable (a : Adapter) {s : Submission} (h : s.Answerable)
    (hcoherent : s.Coherent) (hphase : s.phase = .takeFault) : (a.beginWork s).2.Answerable := by
  have hstage : s.phase.stage = .bound := by
    rw [hphase]
    rfl
  have hcarries := hcoherent.carries hstage
  have hreads : ∀ (fault : Mode) (phase : Phase), phase.stage = .bound →
      ({ s with fault := fault, phase := phase } : Submission).Answerable := by
    intro fault phase hnext
    refine ⟨fun _ => h.bound hstage, fun work hwork => ?_⟩
    simp only [hnext] at hwork
    cases hwork
  have hkind := s.command.isReservedCode_eq
  have hcode := hcarries.code
  unfold beginWork
  simp only [hcode, hkind]
  cases hop : s.command.operation with
  | createReserved | deleteReserved =>
    have hreserved : s.command.isReserved = true := by
      unfold MutationCommand.isReserved
      rw [hop]
      rfl
    simp only [hreserved, if_true]
    apply hreads
    split <;> rfl
  | createDisk =>
    have hlegacy : s.command.isReserved = false := by
      unfold MutationCommand.isReserved
      rw [hop]
      rfl
    have hvalid := hcarries.create hop
    rw [hop] at hcode
    simp only [hlegacy, MutationOperation.code, hvalid, ntSuccess_success, Bool.false_eq_true,
      if_false, if_true]
    exact Submission.Answerable.working_on (Submission.Answerable.start_work? _)
      ⟨hcode, validateCreateRequest_room hvalid⟩
  | deleteDisk =>
    have hlegacy : s.command.isReserved = false := by
      unfold MutationCommand.isReserved
      rw [hop]
      rfl
    have hvalid := hcarries.remove hop
    rw [hop] at hcode
    have hcreate : wispDiskControlDeleteDisk ≠ wispDiskControlCreateDisk := by decide
    simp only [hlegacy, MutationOperation.code, hvalid, ntSuccess_success, Bool.false_eq_true,
      if_false, if_true, hcreate]
    exact Submission.Answerable.working_on (Submission.Answerable.start_work? _)
      ⟨hcode, validateDeleteRequest_room hvalid⟩

/-- A step of a submission keeps the room for its answer. -/
theorem advance_answerable {a a' : Adapter} {s : Submission} {granted : Bool} {now : LONGLONG}
    {next : Option Submission} (h : s.Answerable) (hcoherent : s.Coherent)
    (hadvance : advance a s granted now = some (a', next)) :
    ∀ s', next = some s' → s'.Answerable := by
  have hsame : ∀ {s' : Submission}, next = some s' → s'.Answerable →
      ∀ t, next = some t → t.Answerable := by
    intro s' hnext hs' t ht
    rw [hnext] at ht
    cases ht
    exact hs'
  have hbound : ∀ phase : Phase, phase.stage = .bound → s.phase.stage = .bound →
      ({ s with phase := phase } : Submission).Answerable := by
    intro phase hphase hstage
    refine ⟨fun _ => h.bound hstage, fun work hwork => ?_⟩
    simp only [hphase] at hwork
    cases hwork
  unfold advance at hadvance
  cases hphase : s.phase with
  | prepared =>
    simp only [hphase] at hadvance
    cases hadvance
    refine hsame rfl (hbound _ ?_ (by rw [hphase]; rfl))
    split <;> rfl
  | queueFailed | endManagement =>
    simp only [hphase] at hadvance
    cases hadvance
    exact fun s' hs' => absurd hs'.symm (Option.some_ne_none s')
  | queued =>
    have hstage : s.phase.stage = .bound := by
      rw [hphase]
      rfl
    simp only [hphase] at hadvance
    split at hadvance
    · cases hadvance
      exact hsame rfl (Submission.Answerable.finishing rfl)
    · rename_i decoded hdecoded
      cases hadvance
      have heq := ControlRequest.fromSrb_toSrb_some hdecoded
      refine hsame rfl ⟨fun _ hcode => ?_, fun work hwork => by cases hwork⟩
      rw [heq] at hcode ⊢
      exact h.bound hstage hcode
  | takeFault =>
    simp only [hphase] at hadvance
    cases hadvance
    exact hsame rfl (beginWork_answerable a h hcoherent hphase)
  | snapshotPending =>
    have hstage : s.phase.stage = .bound := by
      rw [hphase]
      rfl
    have hcarries := hcoherent.carries hstage
    have hcode : isReservedCode s.control.ioControl.controlCode = true := by
      rw [hcarries.code, MutationCommand.isReservedCode_eq]
      exact hcoherent.reserved (Or.inr hphase)
    simp only [hphase] at hadvance
    split at hadvance
    · cases hadvance
      exact hsame rfl (Submission.Answerable.finishing rfl)
    · cases hadvance
      exact hsame rfl (Submission.Answerable.working_on (Submission.Answerable.start_work? _)
        ⟨hcode, h.bound hstage hcode⟩)
  | selectLun work | allocate work l | commit work l allocation | markStopping work
  | waitForLunIo work l =>
    have hwork := h.working work (by rw [hphase]; rfl)
    simp only [hphase] at hadvance
    split at hadvance <;> cases hadvance <;>
      exact hsame rfl (Submission.Answerable.working_on rfl hwork)
  | zeroMemory work l allocation | freeAllocation work allocation status | detach work l
  | freePool work l backing | finalize work l =>
    have hwork := h.working work (by rw [hphase]; rfl)
    simp only [hphase] at hadvance
    cases hadvance
    exact hsame rfl (Submission.Answerable.working_on rfl hwork)
  | publish work status created =>
    simp only [hphase] at hadvance
    cases hadvance
    cases work <;> exact hsame rfl (Submission.Answerable.finishing rfl)
  | rejectOperation | respond | traceResponse m | notifyBus m =>
    simp only [hphase] at hadvance
    cases hadvance
    exact hsame rfl (Submission.Answerable.finishing rfl)
  | complete m =>
    simp only [hphase] at hadvance
    cases hadvance
    refine hsame rfl (Submission.Answerable.finishing ?_)
    simp only
    split <;> rfl

/-- An admitted request has room for its response. -/
theorem handleIoControl_room {ext ext' : AdapterExtension} {srb : ScsiRequestBlock}
    {now : LONGLONG} {control : ControlRequest} {command : MutationCommand}
    (h : ControlDispatch.handleIoControl ext srb now = .submitted ext' control command) :
    isReservedCode control.ioControl.controlCode = true →
      OperationResponse.size ≤ control.ioControl.length := by
  unfold ControlDispatch.handleIoControl at h
  split at h
  · cases h
  · rename_i request hrequest
    have hreplies := ControlDispatch.dispatchControlRequest_replies ext request now
    generalize ControlDispatch.dispatchControlRequest ext request now = outcome at h hreplies
    cases hreplies with
    | complete ext hreply => cases h
    | submitted ext command hroom =>
      cases h
      exact hroom

theorem startIo_answerable (a : Adapter) (srb : ScsiRequestBlock) (now : LONGLONG) :
    ∀ s ∈ (a.startIo srb now).submissions, s ∈ a.submissions ∨ s.Answerable := by
  intro s hs
  have hold : ∀ {b : Adapter}, b.submissions = a.submissions → s ∈ b.submissions →
      s ∈ a.submissions ∨ s.Answerable := by
    intro b hsame hb
    rw [hsame] at hb
    exact Or.inl hb
  unfold startIo at hs
  simp only at hs
  split at hs
  · unfold startIoControl at hs
    split at hs
    · exact hold rfl hs
    · rename_i ext control command hhandled
      rcases List.mem_append.mp hs with hs | hs
      · exact Or.inl hs
      · rw [List.mem_singleton.mp hs]
        exact Or.inr ⟨fun _ => handleIoControl_room hhandled, fun work hwork => by cases hwork⟩
  split at hs
  · unfold startExecuteScsi at hs
    split at hs
    · exact hold rfl hs
    split at hs
    · exact hold rfl hs
    split at hs
    · exact hold rfl hs
    · exact hold rfl hs
  split at hs
  · exact hold rfl hs
  · exact hold rfl hs

theorem coherent_reachable {C : Contract Adapter Action} {a : Adapter}
    (h : Reachable system C a) : a.Coherent := by
  have hsimulated : (a.Gate ∧ a.Coherent) ∧ Machine.Reachable Machine.anywhere a.machine :=
    reachable_simulated (fun _ _ => trivial) h
  exact hsimulated.1.2

theorem answerable_reachable {C : Contract Adapter Action} {a : Adapter}
    (h : Reachable system C a) : ∀ s ∈ a.submissions, s.Answerable := by
  induction h with
  | initial h =>
    obtain ⟨adapterInstance, dbg, contents, rfl⟩ := h
    exact fun s hs => absurd hs List.not_mem_nil
  | @step a b action hr hallowed hs ih =>
    have hgate := Gate.reachable hr
    cases action with
    | startIo srb now =>
      simp only [system, Adapter.step] at hs
      split at hs
      · cases hs
        exact fun s hs => (startIo_answerable a srb now s hs).elim (ih s) id
      · cases hs
    | submission i granted now =>
      obtain ⟨s, b', next, hlist, hadvance, rfl⟩ := step_submission hgate hs
      have hmem : s ∈ a.submissions := by
        rw [hlist]
        exact List.mem_singleton_self s
      have hcoherent := coherent_reachable hr s hmem
      intro t ht
      exact advance_answerable (ih s hmem) hcoherent hadvance t (Option.mem_toList.mp ht)
    | command i =>
      simp only [system, Adapter.step] at hs
      split at hs
      · cases hs
        rwa [(advanceCommand_submissions a i _).1]
      · cases hs
    | completeRequest i =>
      simp only [system, Adapter.step] at hs
      split at hs
      · cases hs
        exact ih
      · cases hs
    | setStopping stopping =>
      cases hs
      exact ih
    | teardown workerBusy =>
      rw [(advanceTeardown_sameSrbs hs).submissions]
      exact ih

/-! ## The set of online LUNs -/

theorem onlineLuns_congr {ext ext' : AdapterExtension}
    (h : ∀ l, (ext'.luns l).state = .online ↔ (ext.luns l).state = .online) :
    LunStore.onlineLuns ext' = LunStore.onlineLuns ext := by
  unfold LunStore.onlineLuns
  apply List.filter_congr
  intro l _
  rw [Bool.eq_iff_iff, beq_iff_eq, beq_iff_eq]
  exact h l

theorem mem_onlineLuns {ext : AdapterExtension} {l : Fin kMaximumDiskCount} :
    l ∈ LunStore.onlineLuns ext ↔ (ext.luns l).state = .online := by
  unfold LunStore.onlineLuns
  rw [List.mem_filter, beq_iff_eq]
  exact and_iff_right (LunStore.mem_indices l)

end Adapter

/-! ## What the worker has to announce -/

/-- Whether a submission, up to its completion, has changed the set of online LUNs: by the step of
its work, then by the status and by the response. -/
def Submission.announces (s : Submission) : Bool :=
  match s.phase with
  | .waitForLunIo _ _ | .detach _ _ | .freePool _ _ _ | .finalize _ _ => true
  | .publish _ status _ => ntSuccess status
  | .respond => (metadata s.control).busChanged
  | .traceResponse m | .complete m => m.busChanged
  | _ => false

theorem Submission.announces_at {s : Submission} {phase : Phase} (h : s.phase = phase) :
    s.announces = ({ s with phase := phase } : Submission).announces := by
  subst h
  rfl

namespace Adapter

/-- What a step of a submission does to the online LUNs, and what it tells StorPort. -/
inductive BusStep (a : Adapter) (s : Submission) (a' : Adapter) : Option Submission → Prop
  | working (s' : Submission) (hid : s'.id = s.id) (howner : s.phase.owner ≠ .answered)
      (howner' : s'.phase.owner ≠ .answered)
      (hsame : LunStore.onlineLuns a'.extension = LunStore.onlineLuns a.extension →
        s'.announces = s.announces)
      (hchanged : LunStore.onlineLuns a'.extension ≠ LunStore.onlineLuns a.extension →
        s.announces = false ∧ s'.announces = true)
      (hcompletions : a'.history.completions = a.history.completions)
      (hnotified : a'.history.busChanges = a.history.busChanges) : BusStep a s a' (some s')
  | completed (m : Metadata) (s' : Submission) (hid : s'.id = s.id) (hphase : s.phase = .complete m)
      (hphase' : s'.phase = if m.busChanged then .notifyBus m else .endManagement)
      (hsame : LunStore.onlineLuns a'.extension = LunStore.onlineLuns a.extension)
      (hcompletions : a'.history.completions =
        a.history.completions ++ [(s.id, s.control.toSrb)])
      (hnotified : a'.history.busChanges = a.history.busChanges) : BusStep a s a' (some s')
  | notified (m : Metadata) (s' : Submission) (hid : s'.id = s.id) (hphase : s.phase = .notifyBus m)
      (hphase' : s'.phase = .endManagement)
      (hsame : LunStore.onlineLuns a'.extension = LunStore.onlineLuns a.extension)
      (hcompletions : a'.history.completions = a.history.completions)
      (hnotified : a'.history.busChanges = a.history.busChanges ++ [s.id]) :
      BusStep a s a' (some s')
  | ended (hphase : s.phase = .queueFailed ∨ s.phase = .endManagement)
      (hsame : LunStore.onlineLuns a'.extension = LunStore.onlineLuns a.extension)
      (hcompletions : a'.history.completions = a.history.completions)
      (hnotified : a'.history.busChanges = a.history.busChanges) : BusStep a s a' none

/-- A step that leaves the online LUNs alone. -/
theorem BusStep.stay {a a' : Adapter} {s s' : Submission} (hid : s'.id = s.id)
    (howner : s.phase.owner ≠ .answered) (howner' : s'.phase.owner ≠ .answered)
    (hstates : ∀ l, (a'.extension.luns l).state = .online ↔ (a.extension.luns l).state = .online)
    (hannounces : s'.announces = s.announces)
    (hcompletions : a'.history.completions = a.history.completions)
    (hnotified : a'.history.busChanges = a.history.busChanges) : BusStep a s a' (some s') :=
  .working s' hid howner howner' (fun _ => hannounces)
    (fun hchanged => absurd (onlineLuns_congr hstates) hchanged) hcompletions hnotified

/-- A step that changes the state of one LUN. -/
theorem BusStep.change {a a' : Adapter} {s s' : Submission} (hid : s'.id = s.id)
    (howner : s.phase.owner ≠ .answered) (howner' : s'.phase.owner ≠ .answered)
    (l : Fin kMaximumDiskCount)
    (hstate : ¬ ((a'.extension.luns l).state = .online ↔ (a.extension.luns l).state = .online))
    (hbefore : s.announces = false) (hafter : s'.announces = true)
    (hcompletions : a'.history.completions = a.history.completions)
    (hnotified : a'.history.busChanges = a.history.busChanges) : BusStep a s a' (some s') := by
  refine .working s' hid howner howner' (fun hsame => absurd ?_ hstate)
    (fun _ => ⟨hbefore, hafter⟩) hcompletions hnotified
  rw [← mem_onlineLuns, ← mem_onlineLuns, hsame]

theorem announces_start {s : Submission} {work : Work} (hphase : s.phase = work.start) :
    s.announces = false ∧ s.phase.owner ≠ .answered := by
  unfold Submission.announces
  rw [hphase, Phase.owner_start]
  unfold Work.start
  cases work.isCreate with
  | true => exact ⟨rfl, Owner.noConfusion⟩
  | false => exact ⟨rfl, Owner.noConfusion⟩

/-- What the tables tell of a submission: the shape of its stage, the record that it publishes and
the LUN that it removes. -/
structure Grounded (a : Adapter) (s : Submission) : Prop where
  shaped : s.phase.stage.shaped
  record : ∀ snapshot correlation status created,
    s.phase = .publish (.reserved snapshot correlation) status created →
      ∃ i, (a.extension.operations i).id = snapshot.id ∧ snapshot.id ≠ 0
  withdrawn : ∀ work l, s.phase = .finalize work l → (a.extension.luns l).state ≠ .online

section BusSteps

variable {a : Adapter} {s : Submission}

theorem beginWork_bus (a : Adapter) (hphase : s.phase = .takeFault) :
    BusStep a s (a.beginWork s).1 (some (a.beginWork s).2) := by
  have howner : s.phase.owner ≠ .answered := by
    rw [hphase]
    exact Owner.noConfusion
  have hbefore : s.announces = false := Submission.announces_at hphase
  have hworks : ∀ (work : Work) (status : NTSTATUS), BusStep a s a (some { s with
      phase := if ntSuccess status then work.start else .publish work status none }) := by
    intro work status
    cases hstatus : ntSuccess status with
    | true =>
      obtain ⟨hannounces, howner'⟩ :=
        show Submission.announces { s with phase := work.start } = false ∧ _ from announces_start rfl
      exact .stay rfl howner howner' (fun _ => Iff.rfl) (hannounces.trans hbefore.symm) rfl rfl
    | false =>
      refine .stay rfl howner Owner.noConfusion (fun _ => Iff.rfl) ?_ rfl rfl
      rw [hbefore]
      exact hstatus
  unfold beginWork
  simp only
  split
  · refine .stay rfl howner ?_ (fun _ => Iff.rfl) ?_ rfl rfl
    · simp only
      split <;> exact Owner.noConfusion
    · rw [hbefore]
      unfold Submission.announces
      simp only
      split <;> rename_i hnext <;> split at hnext <;> first | rfl | cases hnext
  split
  · exact hworks _ _
  split
  · exact hworks _ _
  · refine .stay rfl howner Owner.noConfusion (fun _ => Iff.rfl) ?_ rfl rfl
    rw [hbefore]
    exact metadata_writeError _ _ (by decide) _

theorem failQueueing_luns (ext : AdapterExtension) (control : ControlRequest)
    (command : MutationCommand) (now : LONGLONG) :
    (failQueueing ext control command now).1.luns = ext.luns := by
  unfold failQueueing
  cases hkind : command.isReserved with
  | false => rfl
  | true =>
    simp only [if_true]
    rcases failOperationLocked_spec ext command.identity.operationId statusInsufficientResources
      control command.correlationId now with ⟨hsame, _⟩ | ⟨i, debug, _, _, hfailed, _⟩
    · rw [hsame]
      rfl
    · rw [hfailed]
      rfl

theorem commit_bus {work : Work} {l : Fin kMaximumDiskCount} {allocation : Allocation}
    (hphase : s.phase = .commit work l allocation) {granted : Bool} {now : LONGLONG}
    {a' : Adapter} {next : Option Submission} (h : a.advance s granted now = some (a', next)) :
    BusStep a s a' next := by
  have howner : s.phase.owner ≠ .answered := by
    rw [hphase]
    exact Owner.noConfusion
  have hbefore : s.announces = false := Submission.announces_at hphase
  unfold advance at h
  simp only [hphase] at h
  split at h
  · cases h
    exact .stay rfl howner Owner.noConfusion (fun _ => Iff.rfl) hbefore.symm rfl rfl
  · rename_i ext deviceId hcommit
    obtain ⟨_, hempty, _, _, rfl⟩ := LunStore.commitNewLun_ok hcommit
    cases h
    refine .change rfl howner Owner.noConfusion l (fun hiff => ?_) hbefore rfl rfl rfl
    have honline := hiff.mp (congrArg Lun.state (Function.update_self l _ a.extension.luns))
    rw [hempty] at honline
    cases honline

theorem markStopping_bus {work : Work} (hphase : s.phase = .markStopping work) {granted : Bool}
    {now : LONGLONG} {a' : Adapter} {next : Option Submission}
    (h : a.advance s granted now = some (a', next)) : BusStep a s a' next := by
  have howner : s.phase.owner ≠ .answered := by
    rw [hphase]
    exact Owner.noConfusion
  have hbefore : s.announces = false := Submission.announces_at hphase
  unfold advance at h
  simp only [hphase] at h
  split at h
  · cases h
    exact .stay rfl howner Owner.noConfusion (fun _ => Iff.rfl) hbefore.symm rfl rfl
  · rename_i ext l hmark
    obtain ⟨honline, _, rfl⟩ := LunStore.markLunStopping_some hmark
    cases h
    refine .change rfl howner Owner.noConfusion l (fun hiff => ?_) hbefore rfl rfl rfl
    have hstopping := congrArg Lun.state (Function.update_self l
      { a.extension.luns l with state := .stopping } a.extension.luns)
    cases hstopping.symm.trans (hiff.mpr honline)

theorem finalize_bus {work : Work} {l : Fin kMaximumDiskCount} (hground : Grounded a s)
    (hphase : s.phase = .finalize work l) {granted : Bool}
    {now : LONGLONG} {a' : Adapter} {next : Option Submission}
    (h : a.advance s granted now = some (a', next)) : BusStep a s a' next := by
  have howner : s.phase.owner ≠ .answered := by
    rw [hphase]
    exact Owner.noConfusion
  have hbefore : s.announces = true := Submission.announces_at hphase
  have hoffline := hground.withdrawn work l hphase
  unfold advance at h
  simp only [hphase] at h
  cases h
  refine .stay rfl howner Owner.noConfusion (fun m => ?_) hbefore.symm rfl rfl
  show (Function.update a.extension.luns l (LunStore.removedLun (a.extension.luns l)) m).state =
    .online ↔ (a.extension.luns m).state = .online
  by_cases hm : m = l
  · rw [hm, Function.update_self]
    exact ⟨fun honline => LunState.noConfusion honline, fun honline => absurd honline hoffline⟩
  · rw [Function.update_of_ne hm]

theorem bindCreate_state (ext : AdapterExtension) (lun : UCHAR) (operation : ULONGLONG)
    (l : Fin kMaximumDiskCount) :
    ((LunStore.bindCreateOperationLocked ext lun operation).luns l).state = (ext.luns l).state := by
  unfold LunStore.bindCreateOperationLocked
  split
  · rename_i hlun
    show (Function.update ext.luns ⟨lun.toNat, hlun⟩ _ l).state = _
    by_cases hl : l = ⟨lun.toNat, hlun⟩
    · rw [hl, Function.update_self]
    · rw [Function.update_of_ne hl]
  · rfl

/-- The response tells what the work has done. -/
theorem publish_bus {work : Work} {status : NTSTATUS} {created : Option (ULONG × UCHAR)}
    (hanswer : s.Answerable) (hground : Grounded a s) (hphase : s.phase = .publish work status created)
    (now : LONGLONG) : BusStep a s (a.publish s work status created now).1
      (some (a.publish s work status created now).2) := by
  have howner : s.phase.owner ≠ .answered := by
    rw [hphase]
    exact Owner.noConfusion
  have hbefore : s.announces = ntSuccess status := Submission.announces_at hphase
  have hwork := hanswer.working work (by rw [hphase]; rfl)
  have hstatus : decide (status = statusSuccess) = ntSuccess status := by
    have hshaped := hground.shaped
    rw [hphase] at hshaped
    change if work.isCreate then _ else _ at hshaped
    have hcases : status = statusSuccess ∨ ntSuccess status = false := by
      split at hshaped
      · exact hshaped.elim (fun h => Or.inr h.2) fun h => Or.inl h.2
      · exact hshaped.2.imp_right fun hnone => by rw [hnone]; rfl
    rcases hcases with hsuccess | hfailed
    · rw [hsuccess]
      rfl
    · rw [hfailed, decide_eq_false_iff_not]
      intro hsuccess
      rw [hsuccess] at hfailed
      cases hfailed
  cases work with
  | legacyCreate request =>
    obtain ⟨hcode, hroom⟩ := hwork
    refine .stay rfl howner Owner.noConfusion (fun _ => Iff.rfl) ?_ rfl rfl
    rw [hbefore, ← hstatus]
    exact metadata_writeResponse _ status hroom (by decide) (by rw [hcode]; rfl)
  | legacyDelete request =>
    obtain ⟨hcode, hroom⟩ := hwork
    refine .stay rfl howner Owner.noConfusion (fun _ => Iff.rfl) ?_ rfl rfl
    rw [hbefore, ← hstatus]
    exact metadata_writeResponse _ status hroom (by decide) (by rw [hcode]; rfl)
  | reserved snapshot correlation =>
    obtain ⟨hcode, hroom⟩ := hwork
    obtain ⟨j, hj, hzero⟩ := hground.record _ _ _ _ hphase
    unfold publish
    simp only
    rcases publishOperationResult_spec a.extension s.control
        (resolvedRecord snapshot status created) correlation now with
      ⟨_, hmissing⟩ | ⟨i, _, _, debug, hpublished, hcontrol⟩
    · rw [resolvedRecord_id] at hmissing
      rcases hmissing with hnone | hnone
      · exact absurd hnone hzero
      · exact absurd hj (hnone j)
    · rw [hpublished, hcontrol]
      refine .stay rfl howner Owner.noConfusion (fun l => ?_) ?_ rfl rfl
      · simp only
        split
        · rw [bindCreate_state]
        · exact Iff.rfl
      · rw [hbefore]
        refine (metadata_operation _ _ hroom hcode).trans ?_
        show (decide ((resolvedRecord snapshot status created).state = .succeeded) &&
          ntSuccess (resolvedRecord snapshot status created).result) = _
        rw [resolvedRecord_state, resolvedRecord_result]
        cases hsuccess : ntSuccess status with
        | true => rfl
        | false => rfl

theorem prepared_bus (hphase : s.phase = .prepared) {granted : Bool} {now : LONGLONG}
    {a' : Adapter} {next : Option Submission} (h : a.advance s granted now = some (a', next)) :
    BusStep a s a' next := by
  unfold advance at h
  simp only [hphase] at h
  cases h
  refine .stay rfl (by rw [hphase]; exact Owner.noConfusion) ?_ (fun _ => Iff.rfl) ?_ rfl rfl
  · simp only
    split <;> exact Owner.noConfusion
  · unfold Submission.announces
    rw [hphase]
    simp only
    split <;> rename_i hnext <;> split at hnext <;> first | rfl | cases hnext

/-- A rejected operation fails its record and leaves the LUNs alone. -/
theorem rejectOperation_bus (hanswer : s.Answerable) (hcoherent : s.Coherent)
    (hphase : s.phase = .rejectOperation) {granted : Bool} {now : LONGLONG} {a' : Adapter}
    {next : Option Submission}
    (h : a.advance s granted now = some (a', next)) : BusStep a s a' next := by
  have hstage : s.phase.stage = .bound := by
    rw [hphase]
    rfl
  have hcode : isReservedCode s.control.ioControl.controlCode = true := by
    rw [(hcoherent.carries hstage).code, MutationCommand.isReservedCode_eq]
    exact hcoherent.reserved (Or.inl hphase)
  unfold advance at h
  simp only [hphase] at h
  cases h
  refine .stay rfl (by rw [hphase]; exact Owner.noConfusion) Owner.noConfusion (fun l => ?_) ?_
    rfl rfl
  · rcases failOperationLocked_spec a.extension
      (OperationRequest.read s.control.payload 0).operationId statusInsufficientResources
      s.control (OperationRequest.read s.control.payload 0).header.correlationId now with
      ⟨hsame, _⟩ | ⟨i, debug, _, _, hfailed, _⟩
    · simp only [hsame]
    · simp only [hfailed]
  · refine (metadata_failOperation (hanswer.bound hstage hcode) hcode).trans ?_
    unfold Submission.announces
    rw [hphase]

theorem snapshotPending_bus (hphase : s.phase = .snapshotPending) {granted : Bool}
    {now : LONGLONG} {a' : Adapter} {next : Option Submission}
    (h : a.advance s granted now = some (a', next)) : BusStep a s a' next := by
  have hbefore : s.announces = false := Submission.announces_at hphase
  unfold advance at h
  simp only [hphase] at h
  split at h
  · rename_i control hmissing
    cases h
    refine .stay rfl (by rw [hphase]; exact Owner.noConfusion) Owner.noConfusion
      (fun _ => Iff.rfl) ?_ rfl rfl
    rw [hbefore]
    show (metadata control).busChanged = false
    unfold snapshotPendingOperation at hmissing
    simp only at hmissing
    split at hmissing
    · cases hmissing
      exact metadata_writeError _ _ ntSuccess_notFound _
    · split at hmissing
      · cases hmissing
        exact metadata_writeError _ _ ntSuccess_notFound _
      · cases hmissing
  · rename_i snapshot hsnapshot
    cases h
    refine .stay rfl (by rw [hphase]; exact Owner.noConfusion) ?_ (fun _ => Iff.rfl) ?_ rfl rfl
    · exact (announces_start rfl).2
    · rw [hbefore]
      exact (announces_start rfl).1

theorem selectLun_bus {work : Work} (hphase : s.phase = .selectLun work) {granted : Bool}
    {now : LONGLONG} {a' : Adapter} {next : Option Submission}
    (h : a.advance s granted now = some (a', next)) : BusStep a s a' next := by
  have hbefore : s.announces = false := Submission.announces_at hphase
  unfold advance at h
  simp only [hphase] at h
  split at h
  · rename_i status hselect
    cases h
    refine .stay rfl (by rw [hphase]; exact Owner.noConfusion) Owner.noConfusion
      (fun _ => Iff.rfl) ?_ rfl rfl
    rw [hbefore]
    exact LunStore.selectAvailableLun_error hselect
  · cases h
    exact .stay rfl (by rw [hphase]; exact Owner.noConfusion) Owner.noConfusion
      (fun _ => Iff.rfl) hbefore.symm rfl rfl

/-- The LUN that is detached stays in its state. -/
theorem detach_bus {work : Work} {l : Fin kMaximumDiskCount} (hphase : s.phase = .detach work l)
    {granted : Bool} {now : LONGLONG} {a' : Adapter} {next : Option Submission}
    (h : a.advance s granted now = some (a', next)) : BusStep a s a' next := by
  have hbefore : s.announces = true := Submission.announces_at hphase
  unfold advance at h
  simp only [hphase] at h
  cases h
  refine .stay rfl (by rw [hphase]; exact Owner.noConfusion) Owner.noConfusion (fun m => ?_)
    hbefore.symm rfl rfl
  by_cases hrefused : (a.extension.luns l).state ≠ .stopping ∨
      (a.extension.luns l).deviceId ≠ work.target
  · rw [LunStore.detachBackingStore_refused hrefused]
  · rw [not_or, not_not, not_not] at hrefused
    obtain ⟨hstate, htarget⟩ := hrefused
    rw [← htarget, LunStore.detachBackingStore_taken hstate]
    show (Function.update a.extension.luns l _ m).state = _ ↔ _
    by_cases hm : m = l
    · rw [hm, Function.update_self]
    · rw [Function.update_of_ne hm]

theorem freeAllocation_bus {work : Work} {allocation : Allocation} {status : NTSTATUS}
    (hground : Grounded a s) (hphase : s.phase = .freeAllocation work allocation status)
    {granted : Bool} {now : LONGLONG} {a' : Adapter} {next : Option Submission}
    (h : a.advance s granted now = some (a', next)) : BusStep a s a' next := by
  have hbefore : s.announces = false := Submission.announces_at hphase
  have hshaped := hground.shaped
  rw [hphase] at hshaped
  unfold advance at h
  simp only [hphase] at h
  cases h
  refine .stay rfl (by rw [hphase]; exact Owner.noConfusion) Owner.noConfusion
    (fun _ => Iff.rfl) ?_ rfl rfl
  rw [hbefore]
  exact hshaped.2

theorem advance_bus {granted : Bool} {now : LONGLONG} {a' : Adapter} {next : Option Submission}
    (hanswer : s.Answerable) (hcoherent : s.Coherent) (hground : Grounded a s)
    (h : a.advance s granted now = some (a', next)) : BusStep a s a' next := by
  cases hphase : s.phase with
  | commit work l allocation => exact commit_bus hphase h
  | markStopping work => exact markStopping_bus hphase h
  | finalize work l => exact finalize_bus hground hphase h
  | takeFault =>
    unfold advance at h
    simp only [hphase] at h
    cases h
    exact beginWork_bus a hphase
  | publish work status created =>
    unfold advance at h
    simp only [hphase] at h
    cases h
    exact publish_bus hanswer hground hphase now
  | prepared => exact prepared_bus hphase h
  | queueFailed =>
    unfold advance at h
    simp only [hphase] at h
    cases h
    refine .ended (Or.inl hphase) (onlineLuns_congr fun l => ?_) rfl rfl
    show ((failQueueing a.extension s.control s.command now).1.luns l).state = _ ↔ _
    rw [failQueueing_luns]
  | queued =>
    have hcarries := hcoherent.carries (by rw [hphase]; rfl)
    unfold advance at h
    simp only [hphase, ControlRequest.fromSrb_toSrb hcarries.enveloped] at h
    cases h
    refine .stay rfl (by rw [hphase]; exact Owner.noConfusion) Owner.noConfusion (fun _ => Iff.rfl)
      ?_ rfl rfl
    unfold Submission.announces
    rw [hphase]
  | rejectOperation => exact rejectOperation_bus hanswer hcoherent hphase h
  | snapshotPending => exact snapshotPending_bus hphase h
  | selectLun work => exact selectLun_bus hphase h
  | allocate work l =>
    have hbefore : s.announces = false := Submission.announces_at hphase
    unfold advance at h
    simp only [hphase] at h
    split at h <;> cases h <;>
      exact .stay rfl (by rw [hphase]; exact Owner.noConfusion) Owner.noConfusion
        (fun _ => Iff.rfl) hbefore.symm rfl rfl
  | freeAllocation work allocation status => exact freeAllocation_bus hground hphase h
  | waitForLunIo work l =>
    have hbefore : s.announces = true := Submission.announces_at hphase
    unfold advance at h
    simp only [hphase] at h
    split at h
    · cases h
      exact .stay rfl (by rw [hphase]; exact Owner.noConfusion) Owner.noConfusion
        (fun _ => Iff.rfl) hbefore.symm rfl rfl
    · cases h
  | detach work l => exact detach_bus hphase h
  | zeroMemory work l allocation | freePool work l backing =>
    have hbefore := Submission.announces.eq_def s
    rw [hphase] at hbefore
    unfold advance at h
    simp only [hphase] at h
    cases h
    exact .stay rfl (by rw [hphase]; exact Owner.noConfusion) Owner.noConfusion
      (fun _ => Iff.rfl) hbefore.symm rfl rfl
  | respond =>
    have hbefore : s.announces = (metadata s.control).busChanged := Submission.announces_at hphase
    unfold advance at h
    simp only [hphase] at h
    cases h
    refine .stay rfl (by rw [hphase]; exact Owner.noConfusion) Owner.noConfusion
      (fun _ => Iff.rfl) ?_ rfl rfl
    rw [hbefore]
    exact metadata_failTransport s.fault s.control
  | traceResponse m =>
    have hbefore : s.announces = m.busChanged := Submission.announces_at hphase
    unfold advance at h
    simp only [hphase] at h
    cases h
    exact .stay rfl (by rw [hphase]; exact Owner.noConfusion) Owner.noConfusion
      (fun _ => Iff.rfl) hbefore.symm rfl rfl
  | complete m =>
    unfold advance at h
    simp only [hphase] at h
    cases h
    exact .completed m _ rfl hphase rfl (onlineLuns_congr fun _ => Iff.rfl) rfl rfl
  | notifyBus m =>
    unfold advance at h
    simp only [hphase] at h
    cases h
    exact .notified m _ rfl hphase rfl (onlineLuns_congr fun _ => Iff.rfl) rfl rfl
  | endManagement =>
    unfold advance at h
    simp only [hphase] at h
    cases h
    exact .ended (Or.inr hphase) (onlineLuns_congr fun _ => Iff.rfl) rfl rfl

end BusSteps

/-! ## Grounded submissions -/

theorem grounded_reachable {C : Contract Adapter Action} {a : Adapter} (h : Reachable system C a)
    {s : Submission} (hlist : a.submissions = [s]) : Grounded a s := by
  have hmachine := reachable_anywhere h
  have htask : a.machine.task = some s.task := by
    rw [machine_active hlist]
    rfl
  have hrecords := Records.reachable hmachine
  refine ⟨Shaped.reachable hmachine _ htask, fun snapshot correlation status created hphase => ?_,
    fun work l hphase => ?_⟩
  · rw [htask] at hrecords
    have hwork : s.task.stage.work? = some (.reserved snapshot correlation) := by
      show s.phase.stage.work? = _
      rw [hphase]
      rfl
    obtain ⟨i, _, _, hid, hstate⟩ := hrecords.pending_of_work hwork rfl
    refine ⟨i, hid, ?_⟩
    rw [← hid]
    exact hrecords.id_ne_zero (by rw [hstate]; exact OperationState.noConfusion)
  · apply Machine.Withdrawn.reachable hmachine work ⟨l, .drained⟩
    rw [htask]
    show removal (some ⟨s.command, s.phase.stage⟩) = _
    rw [hphase]
    rfl

end Adapter

/-! ## The notifications of a run -/

/-- What one request's work item does that concerns the bus. -/
inductive BusEvent
  | changed (id : ℕ)
  | completed (id : ℕ)
  | notified (id : ℕ)
  deriving DecidableEq

def BusEvent.id : BusEvent → ℕ
  | changed id => id
  | completed id => id
  | notified id => id

namespace Adapter

/-- A step of a work item: whether it changes the set of online LUNs, and what it tells StorPort. -/
def busEvents (a : Adapter) (action : Action) (b : Adapter) : List BusEvent :=
  match action with
  | .submission i _ _ =>
    match a.submissions[i]? with
    | some s =>
      (if LunStore.onlineLuns b.extension = LunStore.onlineLuns a.extension then []
        else [.changed s.id]) ++
      ((b.history.completions.drop a.history.completions.length).map fun completion =>
        .completed completion.1) ++
      ((b.history.busChanges.drop a.history.busChanges.length).map .notified)
    | none => []
  | _ => []

abbrev BusSystem := system.logged busEvents

/-- The notifications of an ended request match its change. -/
def Settled (log : List BusEvent) (id : ℕ) : Prop :=
  log.count (.notified id) = if .changed id ∈ log then 1 else 0

/-- Where a submission in flight is between its change and its notification. -/
def Standing (log : List BusEvent) (s : Submission) : Prop :=
  match s.phase with
  | .endManagement => Settled log s.id
  | .notifyBus _ => .changed s.id ∈ log ∧ .completed s.id ∈ log ∧ .notified s.id ∉ log
  | _ => (.changed s.id ∈ log ↔ s.announces = true) ∧ .notified s.id ∉ log

structure Announced (a : Adapter) (log : List BusEvent) : Prop where
  known : ∀ e ∈ log, e.id ∈ a.history.admitted
  standing : ∀ s ∈ a.submissions, Standing log s
  settled : ∀ id ∈ a.history.ended, Settled log id
  once : ∀ id, log.count (.changed id) ≤ 1
  ordered : ∀ id before after, log = before ++ .notified id :: after →
    .changed id ∈ before ∧ .completed id ∈ before

namespace Announced

variable {a b : Adapter} {log : List BusEvent}

/-- A request without events has nothing to announce. -/
theorem standing_new {s : Submission} (hphase : s.phase = .prepared)
    (hnone : ∀ e ∈ log, e.id ≠ s.id) : Standing log s := by
  unfold Standing Submission.announces
  rw [hphase]
  refine ⟨⟨fun hchanged => absurd rfl (hnone _ hchanged), fun h => by cases h⟩, fun hnotified => ?_⟩
  exact hnone _ hnotified rfl

/-- The other steps leave the work items and their events alone. -/
theorem same (h : a.Announced log) (hsubmissions : b.submissions = a.submissions)
    (hadmitted : b.history.admitted = a.history.admitted)
    (hended : b.history.ended = a.history.ended) : b.Announced (log ++ []) := by
  rw [List.append_nil]
  refine ⟨?_, ?_, ?_, h.once, h.ordered⟩
  · rw [hadmitted]
    exact h.known
  · rw [hsubmissions]
    exact h.standing
  · rw [hended]
    exact h.settled

theorem startIo (h : a.Announced log) (hgate : a.Gate) (srb : ScsiRequestBlock) (now : LONGLONG) :
    (a.startIo srb now).Announced (log ++ []) := by
  have hstarted := startIo_started a srb now
  generalize a.startIo srb now = b at hstarted
  cases hstarted with
  | kept r hid => exact h.same rfl rfl rfl
  | answered ext r hid hanswered => exact h.same rfl rfl rfl
  | leased srb ext l view hacquire => exact h.same rfl rfl rfl
  | admitted ext control command hadmitted =>
    rw [List.append_nil]
    refine ⟨fun e he => List.mem_append_left _ (h.known e he), fun s hs => ?_, h.settled, h.once,
      h.ordered⟩
    rcases List.mem_append.mp hs with hs | hs
    · exact h.standing s hs
    · rw [List.mem_singleton.mp hs]
      apply standing_new rfl
      intro e he heq
      have hbelow := hgate.below _ (h.known e he)
      rw [heq] at hbelow
      exact absurd hbelow (Nat.lt_irrefl _)

/-- New events of one request leave the others as they stand. -/
theorem settled_append {more : List BusEvent} {id : ℕ} (h : Settled log id)
    (hmore : ∀ e ∈ more, e.id ≠ id) : Settled (log ++ more) id := by
  have hchanged : BusEvent.changed id ∈ log ++ more ↔ .changed id ∈ log := by
    rw [List.mem_append]
    exact or_iff_left fun hnew => hmore _ hnew rfl
  have hnotified : more.count (.notified id) = 0 :=
    List.count_eq_zero.mpr fun hnew => hmore _ hnew rfl
  unfold Settled at h ⊢
  rw [List.count_append, hnotified, Nat.add_zero, h]
  simp only [hchanged]

/-- Events without a notification keep the order. -/
theorem ordered_append {more : List BusEvent}
    (h : ∀ id before after, log = before ++ .notified id :: after →
      .changed id ∈ before ∧ .completed id ∈ before)
    (hmore : ∀ id, .notified id ∈ more → .changed id ∈ log ∧ .completed id ∈ log ∧
      more = [.notified id]) {id : ℕ} {before after : List BusEvent}
    (hsplit : log ++ more = before ++ .notified id :: after) :
    .changed id ∈ before ∧ .completed id ∈ before := by
  rcases List.append_eq_append_iff.mp hsplit with ⟨middle, rfl, hrest⟩ | ⟨rest, hlog, hrest⟩
  · have hnew : BusEvent.notified id ∈ more := by
      rw [hrest]
      exact List.mem_append_right _ List.mem_cons_self
    obtain ⟨hchanged, hcompleted, _⟩ := hmore id hnew
    exact ⟨List.mem_append_left _ hchanged, List.mem_append_left _ hcompleted⟩
  · cases rest with
    | nil =>
      rw [List.nil_append] at hrest
      rw [List.append_nil] at hlog
      have hnew : BusEvent.notified id ∈ more := by
        rw [← hrest]
        exact List.mem_cons_self
      obtain ⟨hchanged, hcompleted, _⟩ := hmore id hnew
      rw [← hlog]
      exact ⟨hchanged, hcompleted⟩
    | cons e rest =>
      rw [List.cons_append] at hrest
      obtain ⟨rfl, _⟩ := List.cons.inj hrest
      exact h id before rest hlog

theorem standing_iff {s : Submission} (howner : s.phase.owner ≠ .answered) :
    Standing log s ↔ (.changed s.id ∈ log ↔ s.announces = true) ∧ .notified s.id ∉ log := by
  unfold Standing
  cases hphase : s.phase <;> first
    | exact Iff.rfl
    | (rw [hphase] at howner; exact absurd rfl howner)

/-- A step of the request in flight, by its events and by where it leaves the request. -/
theorem moved (h : a.Announced log) (hgate : a.Gate) {s : Submission} {next : Option Submission}
    {more : List BusEvent} (hlist : a.submissions = [s]) (hb : b.submissions = next.toList)
    (hadmitted : b.history.admitted = a.history.admitted)
    (hended : b.history.ended = a.history.ended ++ if next.isSome then [] else [s.id])
    (hmore : ∀ e ∈ more, e.id = s.id)
    (hchanged : .changed s.id ∈ log → more.count (.changed s.id) = 0)
    (honce : more.count (.changed s.id) ≤ 1)
    (hnotified : .notified s.id ∈ more → .changed s.id ∈ log ∧ .completed s.id ∈ log ∧
      more = [.notified s.id])
    (hstanding : ∀ s', next = some s' → Standing (log ++ more) s')
    (hsettled : next = none → Settled (log ++ more) s.id) : b.Announced (log ++ more) := by
  have hactive : s.id ∈ a.history.admitted := by
    rw [hgate.logged, hlist]
    exact List.mem_append_right _ (List.mem_singleton_self _)
  have hfresh : ∀ id ∈ a.history.ended, id ≠ s.id := by
    intro id hid heq
    have hdistinct := hgate.distinct
    rw [hgate.logged, hlist] at hdistinct
    exact (List.nodup_append.mp hdistinct).2.2 id hid s.id (List.mem_singleton_self _) heq
  refine ⟨fun e he => ?_, fun s' hs' => ?_, fun id hid => ?_, fun id => ?_,
    fun id before after hsplit => ?_⟩
  · rw [hadmitted]
    rcases List.mem_append.mp he with he | he
    · exact h.known e he
    · rw [hmore e he]
      exact hactive
  · rw [hb] at hs'
    exact hstanding s' (Option.mem_toList.mp hs')
  · rw [hended] at hid
    rcases List.mem_append.mp hid with hid | hid
    · exact settled_append (h.settled id hid) fun e he heq =>
        hfresh id hid (heq.symm.trans (hmore e he))
    · cases next with
      | some s' => exact absurd hid List.not_mem_nil
      | none =>
        rw [List.mem_singleton.mp hid]
        exact hsettled rfl
  · rw [List.count_append]
    by_cases hid : id = s.id
    · subst hid
      by_cases hlog : BusEvent.changed s.id ∈ log
      · rw [hchanged hlog, Nat.add_zero]
        exact h.once _
      · rw [List.count_eq_zero.mpr hlog, Nat.zero_add]
        exact honce
    · have hnone : more.count (.changed id) = 0 :=
        List.count_eq_zero.mpr fun hnew => hid (hmore _ hnew)
      rw [hnone, Nat.add_zero]
      exact h.once id
  · apply ordered_append h.ordered _ hsplit
    intro id' hnew
    have hid' : id' = s.id := hmore _ hnew
    rw [hid'] at hnew ⊢
    exact hnotified hnew

theorem busEvents_submission {s : Submission} {granted : Bool} {now : LONGLONG}
    (hlist : a.submissions = [s]) {left : List Submission}
    {completed : List (ℕ × ScsiRequestBlock)} {notified : List ℕ}
    (hcompletions : b.history.completions = a.history.completions ++ completed)
    (hnotified : b.history.busChanges = a.history.busChanges ++ notified) :
    busEvents a (.submission 0 granted now) { b with submissions := left } =
      (if LunStore.onlineLuns b.extension = LunStore.onlineLuns a.extension then []
        else [.changed s.id]) ++ (completed.map fun completion => .completed completion.1) ++
        notified.map .notified := by
  have hget : a.submissions[0]? = some s := by
    rw [hlist]
    rfl
  unfold busEvents
  simp only [hget, hcompletions, hnotified, List.drop_left]

/-- The step that changes the bus is logged. -/
theorem standing_changed {s s' : Submission} (hid : s'.id = s.id)
    (howner : s'.phase.owner ≠ .answered) (hannounces : s'.announces = true)
    (hnot : BusEvent.notified s.id ∉ log) : Standing (log ++ [.changed s.id]) s' := by
  rw [standing_iff howner, hid, hannounces]
  refine ⟨⟨fun _ => rfl, fun _ => List.mem_append_right _ (List.mem_singleton_self _)⟩, ?_⟩
  intro hnew
  rcases List.mem_append.mp hnew with hnew | hnew
  · exact hnot hnew
  · cases List.mem_singleton.mp hnew

/-- The answer is logged; a change that has been made is announced next. -/
theorem standing_completed {s s' : Submission} {m : Metadata} (hid : s'.id = s.id)
    (hphase : s'.phase = if m.busChanged then .notifyBus m else .endManagement)
    (hchanged : BusEvent.changed s.id ∈ log ↔ m.busChanged = true)
    (hnot : BusEvent.notified s.id ∉ log) : Standing (log ++ [.completed s.id]) s' := by
  have hnotified : BusEvent.notified s.id ∉ log ++ [.completed s.id] := by
    intro hnew
    rcases List.mem_append.mp hnew with hnew | hnew
    · exact hnot hnew
    · cases List.mem_singleton.mp hnew
  unfold Standing
  rw [hphase, hid]
  cases hbus : m.busChanged with
  | true =>
    exact ⟨List.mem_append_left _ (hchanged.mpr hbus),
      List.mem_append_right _ (List.mem_singleton_self _), hnotified⟩
  | false =>
    have hlog : BusEvent.changed s.id ∉ log ++ [.completed s.id] := by
      intro hnew
      rcases List.mem_append.mp hnew with hnew | hnew
      · rw [hchanged, hbus] at hnew
        cases hnew
      · cases List.mem_singleton.mp hnew
    show Settled _ _
    unfold Settled
    rw [if_neg hlog]
    exact List.count_eq_zero.mpr hnotified

/-- The notification is logged. -/
theorem standing_notified {s s' : Submission} (hid : s'.id = s.id)
    (hphase : s'.phase = .endManagement) (hchanged : BusEvent.changed s.id ∈ log)
    (hnot : BusEvent.notified s.id ∉ log) : Standing (log ++ [.notified s.id]) s' := by
  unfold Standing
  rw [hphase, hid]
  show Settled _ _
  unfold Settled
  rw [if_pos (List.mem_append_left _ hchanged), List.count_append, List.count_eq_zero.mpr hnot,
    List.count_singleton_self]

/-- A request that ends has announced its change. -/
theorem settled_ended {s : Submission} (hstands : Standing log s)
    (hphase : s.phase = .queueFailed ∨ s.phase = .endManagement) : Settled log s.id := by
  rcases hphase with hphase | hphase
  · have hannounces : s.announces = false := by
      unfold Submission.announces
      rw [hphase]
    rw [standing_iff (by rw [hphase]; exact Owner.noConfusion), hannounces] at hstands
    unfold Settled
    rw [if_neg fun hchanged => Bool.false_ne_true (hstands.1.mp hchanged)]
    exact List.count_eq_zero.mpr hstands.2
  · unfold Standing at hstands
    rw [hphase] at hstands
    exact hstands

theorem submission (h : a.Announced log) (hgate : a.Gate) {s : Submission} {b' : Adapter}
    {next : Option Submission} {granted : Bool} {now : LONGLONG} (hlist : a.submissions = [s])
    (hadvance : a.advance s granted now = some (b', next)) (hbus : BusStep a s b' next)
    (hb : b = { b' with submissions := next.toList }) :
    b.Announced (log ++ busEvents a (.submission 0 granted now) b) := by
  have hadvanced := advance_advanced hadvance
  have hstands := h.standing s (by rw [hlist]; exact List.mem_singleton_self s)
  subst hb
  cases hbus with
  | working s' hid howner howner' hsame hchanged hcompletions hnotified =>
    obtain ⟨_, _, _, hended⟩ := hadvanced.continued s' rfl
    rw [standing_iff howner] at hstands
    rw [busEvents_submission hlist (hcompletions.trans (List.append_nil _).symm)
      (hnotified.trans (List.append_nil _).symm), List.map_nil, List.map_nil, List.append_nil,
      List.append_nil]
    by_cases honline : LunStore.onlineLuns b'.extension = LunStore.onlineLuns a.extension
    · rw [if_pos honline]
      refine h.moved hgate hlist rfl hadvanced.admitted
        (hended.trans (List.append_nil _).symm) (fun e he => absurd he List.not_mem_nil)
        (fun _ => rfl) (Nat.zero_le _) (fun hnew => absurd hnew List.not_mem_nil) ?_
        fun hnone => absurd hnone (Option.some_ne_none _)
      intro t ht
      cases ht
      rw [standing_iff howner', List.append_nil, hid, hsame honline]
      exact hstands
    · obtain ⟨hbefore, hafter⟩ := hchanged honline
      rw [if_neg honline]
      have hnot : BusEvent.changed s.id ∉ log := by
        rw [hstands.1, hbefore]
        exact Bool.false_ne_true
      refine h.moved hgate hlist rfl hadvanced.admitted
        (hended.trans (List.append_nil _).symm) (fun e he => by rw [List.mem_singleton.mp he]; rfl)
        (fun hlog => absurd hlog hnot) (by rw [List.count_singleton_self]) (fun hnew => ?_) ?_
        fun hnone => absurd hnone (Option.some_ne_none _)
      · cases List.mem_singleton.mp hnew
      · intro t ht
        cases ht
        exact standing_changed hid howner' hafter hstands.2
  | completed m s' hid hphase hphase' hsame hcompletions hnotified =>
    obtain ⟨_, _, _, hended⟩ := hadvanced.continued s' rfl
    have hannounces : s.announces = m.busChanged := Submission.announces_at hphase
    rw [standing_iff (by rw [hphase]; exact Owner.noConfusion), hannounces] at hstands
    rw [busEvents_submission hlist hcompletions (hnotified.trans (List.append_nil _).symm),
      if_pos hsame, List.nil_append, List.map_nil, List.append_nil, List.map_singleton]
    refine h.moved hgate hlist rfl hadvanced.admitted
      (hended.trans (List.append_nil _).symm) (fun e he => by rw [List.mem_singleton.mp he]; rfl)
      (fun _ => rfl) (Nat.zero_le _) (fun hnew => ?_) ?_
      fun hnone => absurd hnone (Option.some_ne_none _)
    · cases List.mem_singleton.mp hnew
    · intro t ht
      cases ht
      exact standing_completed hid hphase' hstands.1 hstands.2
  | notified m s' hid hphase hphase' hsame hcompletions hnotified =>
    obtain ⟨_, _, _, hended⟩ := hadvanced.continued s' rfl
    unfold Standing at hstands
    rw [hphase] at hstands
    obtain ⟨hchanged, hcompleted, hnot⟩ := hstands
    rw [busEvents_submission hlist (hcompletions.trans (List.append_nil _).symm) hnotified,
      if_pos hsame, List.nil_append, List.map_nil, List.nil_append, List.map_singleton]
    refine h.moved hgate hlist rfl hadvanced.admitted
      (hended.trans (List.append_nil _).symm) (fun e he => by rw [List.mem_singleton.mp he]; rfl)
      (fun _ => rfl) (Nat.zero_le _) (fun _ => ⟨hchanged, hcompleted, rfl⟩) ?_
      fun hnone => absurd hnone (Option.some_ne_none _)
    intro t ht
    cases ht
    exact standing_notified hid hphase' hchanged hnot
  | ended hphase hsame hcompletions hnotified =>
    obtain ⟨_, _, hended⟩ := hadvanced.finished rfl
    have hended : b'.history.ended =
        a.history.ended ++ if (none : Option Submission).isSome then [] else [s.id] := hended
    rw [busEvents_submission hlist (hcompletions.trans (List.append_nil _).symm)
      (hnotified.trans (List.append_nil _).symm), if_pos hsame, List.map_nil, List.map_nil,
      List.append_nil, List.append_nil]
    refine h.moved hgate hlist rfl hadvanced.admitted hended
      (fun e he => absurd he List.not_mem_nil) (fun _ => rfl) (Nat.zero_le _)
      (fun hnew => absurd hnew List.not_mem_nil)
      (fun s' hs' => absurd hs'.symm (Option.some_ne_none s')) fun _ => ?_
    rw [List.append_nil]
    exact settled_ended hstands hphase

theorem step {C : Contract Adapter Action} {action : Action} (h : a.Announced log)
    (hr : Reachable system C a)
    (hs : Adapter.step a action = some b) : b.Announced (log ++ busEvents a action b) := by
  have hgate := Gate.reachable hr
  cases action with
  | startIo srb now =>
    simp only [Adapter.step] at hs
    split at hs
    · cases hs
      exact h.startIo hgate srb now
    · cases hs
  | submission i granted now =>
    obtain ⟨s, b', next, hlist, hadvance, hb⟩ := step_submission hgate hs
    have hmem : s ∈ a.submissions := by
      rw [hlist]
      exact List.mem_singleton_self s
    have hi : i = 0 := by
      simp only [Adapter.step, hlist] at hs
      cases i with
      | zero => rfl
      | succ i => cases hs
    rw [hi]
    exact h.submission hgate hlist hadvance (advance_bus (answerable_reachable hr s hmem)
      (coherent_reachable hr s hmem) (grounded_reachable hr hlist) hadvance) hb
  | command i =>
    simp only [Adapter.step] at hs
    split at hs
    · rename_i c hc
      cases hs
      obtain ⟨hsubmissions, hhistory⟩ := advanceCommand_submissions a i c
      exact h.same hsubmissions (by rw [hhistory]) (by rw [hhistory])
    · cases hs
  | completeRequest i =>
    simp only [Adapter.step] at hs
    split at hs
    · cases hs
      exact h.same rfl rfl rfl
    · cases hs
  | setStopping stopping =>
    cases hs
    exact h.same rfl rfl rfl
  | teardown workerBusy =>
    have haside := advanceTeardown_aside hs
    exact h.same (advanceTeardown_sameSrbs hs).submissions haside.admitted haside.ended

theorem reachable {C : Contract Adapter Action} {s : Adapter × List BusEvent}
    (h : Reachable BusSystem (Contract.logged _ C) s) :
    s.1.Announced s.2 := by
  induction h with
  | initial h =>
    obtain ⟨⟨adapterInstance, dbg, contents, hinitial⟩, hlog⟩ := h
    rw [hinitial, hlog]
    refine ⟨fun e he => absurd he List.not_mem_nil, fun s hs => absurd hs List.not_mem_nil,
      fun id hid => absurd hid List.not_mem_nil, fun id => Nat.zero_le _,
      fun id before after hsplit => ?_⟩
    exact absurd hsplit.symm (List.append_ne_nil_of_right_ne_nil before (List.cons_ne_nil _ after))
  | step hr ha hs ih =>
    obtain ⟨hstep, hlog⟩ := System.logged_step hs
    rw [hlog]
    exact ih.step hr.unlogged hstep

end Announced

/-- The notifications of a run are exact. -/
structure NotifiesExactly (a : Adapter) (log : List BusEvent) : Prop where
  /-- A request that has ended has notified StorPort once if its work item has changed the set of
  online LUNs, and not at all otherwise. -/
  notified : ∀ id ∈ a.history.ended,
    log.count (.notified id) = if .changed id ∈ log then 1 else 0
  /-- No work item changes that set twice, so a change is not undone. -/
  once : ∀ id, log.count (.changed id) ≤ 1
  /-- A notification comes after the change and after the request's completion. -/
  ordered : ∀ id before after, log = before ++ .notified id :: after →
    .changed id ∈ before ∧ .completed id ∈ before

/-- On every run, whatever the requests, the injected faults and the callbacks, bus changes are
notified exactly. -/
theorem notifiesExactly (a : Adapter) (log : List BusEvent)
    (h : Reachable BusSystem (Contract.logged _ anyAction) (a, log)) :
    a.NotifiesExactly log := by
  have hannounced := Announced.reachable h
  exact ⟨hannounced.settled, hannounced.once, hannounced.ordered⟩

/-- A disk is created and deleted again. -/
theorem notifiesExactly_created : ∃ log,
    (fresh.after (createDisk 1048576 82 ++ deleteDisk 1)).NotifiesExactly log := by
  have hreachable : Reachable system anyAction
      (fresh.after (createDisk 1048576 82 ++ deleteDisk 1)) := reachable_after (by decide +kernel)
  obtain ⟨log, hlog⟩ := hreachable.logged busEvents
  exact ⟨log, notifiesExactly _ log hlog⟩

end Adapter

end WispDisk
