import WispDisk.Cli.Decoding
import WispDisk.Guarantees.AcceptedCreates
import WispDisk.Guarantees.Handles
import WispDisk.Lifecycle.Moves
import WispDisk.Lifecycle.Results

/-! Every reply to a reserve, query, create or delete request means something to the client. Whoever
writes it, the handler, the caller whose work item was not queued or the worker, writes an error or
shows a record of the table; and a record of a reachable table is never invalid. -/
namespace WispDisk
open Layout ManagementController ControlDispatch Transition
set_option autoImplicit false

namespace Cli

/-! ## Replies -/

/-- The reply shows such a record. -/
def Request.Shows (request : Request) (adapterInstance : ULONGLONG) (P : OperationRecord → Prop)
    (reply : OperationResponse) : Prop :=
  ∃ record : OperationRecord, record.Meaningful ∧ P record ∧ reply =
    { header := makeResponseHeader OperationResponse.size request.operation.code statusSuccess
        request.correlationId
      adapterInstance := adapterInstance
      operationId := record.id
      mutation := record.mutation
      state := record.state.code
      resultStatus := record.result
      deviceId := record.deviceId
      lun := record.lun }

/-- The driver has refused the request with this status when it came in. -/
def Request.Refused (request : Request) (ext : AdapterExtension) (now : LONGLONG)
    (status : NTSTATUS) : Prop :=
  ∃ ext', dispatchControlRequest ext request.control now =
    .complete ext' (request.control.writeError request.operation.code status request.correlationId)

/-- The completed SRB is the rejection that the driver wrote, with one of these statuses, or shows
such a record. -/
inductive Request.Replied (request : Request) (adapterInstance : ULONGLONG) (Q : NTSTATUS → Prop)
    (P : OperationRecord → Prop) (srb : ScsiRequestBlock) : Prop
  | rejected (status : NTSTATUS) (hQ : Q status) (hnegative : status < 0)
      (hwritten : request.ErrorWritten status srb)
      (h : request.receiveSrb srb = .error (.driverRejection status))
  | shown (payload : Bytes) (hwritten : ResponseWritten payload srb)
      (h : request.receiveSrb srb = .ok payload)
      (hshows : request.Shows adapterInstance P (OperationResponse.read payload 0))

namespace Request

variable {request : Request} {adapterInstance : ULONGLONG} {Q : NTSTATUS → Prop}
  {P : OperationRecord → Prop} {control : ControlRequest}

theorem Replied.mono {Q' : NTSTATUS → Prop} {P' : OperationRecord → Prop} {srb : ScsiRequestBlock}
    (h : request.Replied adapterInstance Q P srb) (hQ : ∀ status, Q status → Q' status)
    (hP : ∀ record, P record → P' record) :
    request.Replied adapterInstance Q' P' srb := by
  cases h with
  | rejected status hrejected hnegative hwritten h =>
    exact .rejected status (hQ status hrejected) hnegative hwritten h
  | shown payload hwritten h hshows =>
    obtain ⟨record, hmeaningful, hrecord, hreply⟩ := hshows
    exact .shown payload hwritten h ⟨record, hmeaningful, hP record hrecord, hreply⟩

theorem Replied.congr {srb srb' : ScsiRequestBlock} (h : request.Replied adapterInstance Q P srb)
    (hbuffer : srb'.dataBuffer = srb.dataBuffer)
    (hlength : srb'.dataTransferLength = srb.dataTransferLength) :
    request.Replied adapterInstance Q P srb' := by
  have hsame : request.receiveSrb srb' = request.receiveSrb srb := receiveSrb_congr hbuffer hlength
  cases h with
  | rejected status hQ hnegative hwritten h =>
    refine .rejected status hQ hnegative ?_ (hsame.trans h)
    unfold ErrorWritten
    rwa [hbuffer]
  | shown payload hwritten h hshows =>
    refine .shown payload ?_ (hsame.trans h) hshows
    unfold ResponseWritten
    rwa [hbuffer]

theorem Bears.rejects (h : request.Bears control) {status : NTSTATUS} (hQ : Q status)
    (hfailed : ntSuccess status = false) : request.Replied adapterInstance Q P
      (control.writeError request.operation.code status request.correlationId).toSrb :=
  .rejected status hQ (status_lt_zero hfailed) (h.errorWritten status)
    (h.receiveSrb_writeError hfailed)

theorem Bears.shows (h : request.Bears control)
    (hsize : request.operation.responseSize = OperationResponse.size) {ext : AdapterExtension}
    (hinstance : ext.adapterInstance = adapterInstance) {record : OperationRecord}
    (hmeaningful : record.Meaningful) (hP : P record) :
    request.Replied adapterInstance Q P (writeOperationResponse control (copyResultLocked ext record)
      request.correlationId).toSrb := by
  obtain ⟨payload, hreceived, hwritten, hread⟩ :=
    h.receiveSrb_writeOperationResponse hsize (copyResultLocked ext record)
  refine .shown payload hwritten hreceived ⟨record, hmeaningful, hP, ?_⟩
  rw [hread, operationResponse, h.code, ← hinstance]
  rfl

theorem Bears.markPending (h : request.Bears control) :
    request.Bears (ManagementController.markPending control) :=
  ⟨h.header, h.signature, h.code, h.room⟩

end Request

/-! ## What is asked -/

/-- The record is that of the handle, reserved for the mutation. -/
structure OperationHandle.Names (handle : OperationHandle) (adapterInstance : ULONGLONG)
    (mutation : ULONG) (record : OperationRecord) : Prop where
  adapter : adapterInstance = handle.adapterInstance
  id : record.id = handle.id
  mutation : record.mutation = mutation

/-- A mutation request of a handle, and the command that the driver makes of it. -/
structure Request.Commands (request : Request) (handle : OperationHandle) (mutation : ULONG)
    (command : MutationCommand) : Prop where
  reserved : command.isReserved = true
  code : command.operation.code = request.operation.code
  adapter : command.identity.adapterInstance = handle.adapterInstance
  id : command.identity.operationId = handle.id
  mutation : command.mutation = mutation
  correlation : command.correlationId = request.correlationId
  header : command.identity.header.correlationId = request.correlationId
  read : OperationRequest.read request.control.payload 0 = command.identity

end Cli

open Cli

/-! ## The handlers -/

theorem validateCreateRequest_read {control : ControlRequest}
    (h : ntSuccess (validateCreateRequest control).1 = true) :
    (validateCreateRequest control).2 = CreateRequest.read control.payload 0 := by
  unfold validateCreateRequest at h ⊢
  simp only at h ⊢
  split at h
  · rename_i hfailed
    simp only at h
    rw [h] at hfailed
    cases hfailed
  · rename_i hread
    rw [if_neg hread]
    rw [Bool.not_eq_true', Bool.not_eq_false] at hread
    have hpayload : (control.readRequest CreateRequest.size CreateRequest.read {}
        wispDiskControlCreateDisk).2.1 = CreateRequest.read control.payload 0 := if_pos hread
    rw [hpayload]
    split <;> rfl

theorem validateDeleteRequest_read {control : ControlRequest}
    (h : ntSuccess (validateDeleteRequest control).1 = true) :
    (validateDeleteRequest control).2 = DeleteRequest.read control.payload 0 := by
  unfold validateDeleteRequest at h ⊢
  simp only at h ⊢
  split at h
  · rename_i hfailed
    simp only at h
    rw [h] at hfailed
    cases hfailed
  · rename_i hread
    rw [if_neg hread]
    rw [Bool.not_eq_true', Bool.not_eq_false] at hread
    have hpayload : (control.readRequest DeleteRequest.size DeleteRequest.read {}
        wispDiskControlDeleteDisk).2.1 = DeleteRequest.read control.payload 0 := if_pos hread
    rw [hpayload]
    split <;> rfl

namespace Adapter

/-- Every record in use means something. -/
def AllMeaningful (ext : AdapterExtension) : Prop :=
  ∀ i, (ext.operations i).id ≠ 0 → (ext.operations i).Meaningful

theorem allMeaningful {C : Contract Adapter Action} {a : Adapter} (h : Reachable system C a) :
    AllMeaningful a.extension := fun _ hid => (reachable_anywhere h).meaningful hid

end Adapter

open Adapter

theorem reserveOperation_error {ext : AdapterExtension} {mutation : ULONG} {status : NTSTATUS}
    (h : reserveOperation ext mutation = .error status) : ntSuccess status = false := by
  unfold reserveOperation at h
  split at h
  · cases h
    exact ntSuccess_invalidParameter
  · split at h
    · cases h
      exact ntSuccess_deviceNotReady
    · split at h
      · cases h
        exact ntSuccess_insufficientResources
      · split at h
        · cases h
          exact ntSuccess_insufficientResources
        · cases h

/-- What a handler leaves of a request: an error, a record shown, or its command with the request
marked PENDING. -/
inductive Cli.Request.Handles (request : Request) (adapterInstance : ULONGLONG)
    (P : OperationRecord → Prop) (C : MutationCommand → Prop) : Outcome → Prop
  | refused (ext : AdapterExtension) (status : NTSTATUS) (h : ntSuccess status = false) :
      Handles request adapterInstance P C (.complete ext
        (request.control.writeError request.operation.code status request.correlationId))
  | shown (ext : AdapterExtension) {control : ControlRequest}
      (h : request.Replied adapterInstance (fun _ => False) P control.toSrb) :
      Handles request adapterInstance P C (.complete ext control)
  | submitted (ext : AdapterExtension) (command : MutationCommand) (h : C command) :
      Handles request adapterInstance P C (.submitted ext (markPending request.control) command)

variable {Q : NTSTATUS → Prop} {P : OperationRecord → Prop}

theorem Cli.Request.Handles.imp {request : Request} {adapterInstance : ULONGLONG}
    {C C' : MutationCommand → Prop} {outcome : Outcome}
    (h : request.Handles adapterInstance P C outcome) (hC : ∀ command, C command → C' command) :
    request.Handles adapterInstance P C' outcome := by
  cases h with
  | refused ext status h => exact .refused ext status h
  | shown ext h => exact .shown ext h
  | submitted ext command h => exact .submitted ext command (hC command h)

theorem submit_handles {request : Request} {handle : OperationHandle} {mutation : ULONG}
    {command : MutationCommand} {C : MutationCommand → Prop} {ext : AdapterExtension}
    (hcommands : request.Commands handle mutation command)
    (hC : request.Commands handle mutation command → C command)
    (hsize : request.operation.responseSize = OperationResponse.size)
    (hmeaningful : AllMeaningful ext)
    (hP : ∀ i, handle.Names ext.adapterInstance mutation (ext.operations i) →
      (ext.operations i).id ≠ 0 → (ext.operations i).state ≠ .reserved → P (ext.operations i))
    (now : LONGLONG) :
    request.Handles ext.adapterInstance P C (submit ext request.control command now) := by
  have hbears := request.bears_sent
  have hspec := prepareSubmission_spec ext request.control command now
  unfold submit
  generalize prepareSubmission ext request.control command now = prepared at hspec ⊢
  have hrejects : ∀ (ext' : AdapterExtension) {status : NTSTATUS}, ntSuccess status = false →
      request.Handles ext.adapterInstance P C
        (.complete ext' (request.control.writeError command.operation.code status
          command.correlationId)) := by
    intro ext' status hfailed
    rw [hcommands.code, hcommands.correlation]
    exact .refused ext' _ hfailed
  cases hspec with
  | refused status hstatus =>
    apply hrejects
    rcases hstatus with ⟨rfl, _⟩ | ⟨rfl, _⟩
    · exact ntSuccess_deviceNotReady
    · exact ntSuccess_deviceBusy
  | unbound status hopen hidle hkind hstatus =>
    apply hrejects
    rcases hstatus with ⟨rfl, _⟩ | ⟨rfl, _⟩
    · exact ntSuccess_notFound
    · exact ntSuccess_invalidParameter
  | replayed i hopen hidle hkind hinstance hid hzero hmutation hstate hparameters =>
    refine .shown _ ?_
    rw [hcommands.correlation]
    apply hbears.shows hsize rfl (hmeaningful i hzero)
    apply hP i _ hzero hstate
    exact ⟨hinstance.symm.trans hcommands.adapter, hid.trans hcommands.id,
      hmutation.trans hcommands.mutation⟩
  | legacy hopen hidle hkind => exact .submitted _ _ (hC hcommands)
  | bound i hopen hidle hkind hinstance hid hzero hmutation hstate =>
    exact .submitted _ _ (hC hcommands)

section Dispatch

variable (ext : AdapterExtension) (now : LONGLONG) (handle : OperationHandle)
  (correlationId : ULONGLONG)

theorem create_handles (letter : DriveLetter) (media : MediaKind) (sizeBytes : ULONGLONG)
    (hmeaningful : AllMeaningful ext)
    (hP : ∀ i, handle.Names ext.adapterInstance wispDiskControlCreateDisk (ext.operations i) →
      (ext.operations i).id ≠ 0 → (ext.operations i).state ≠ .reserved → P (ext.operations i)) :
    (Request.create handle letter media sizeBytes correlationId).Handles ext.adapterInstance P
      (fun command => (Request.create handle letter media sizeBytes correlationId).Commands handle
          wispDiskControlCreateDisk command ∧
        command.create = createdParameters letter media sizeBytes correlationId)
      (dispatchControlRequest ext
        (Request.create handle letter media sizeBytes correlationId).control now) := by
  have hsize : (Request.create handle letter media sizeBytes correlationId).operation.responseSize =
      OperationResponse.size := rfl
  have hsent := Request.readOperationRequest_sent
    (Request.create_headed handle letter media sizeBytes correlationId)
    (n := ReservedCreateRequest.size) rfl (by decide) (by decide) ReservedCreateRequest.read {}
  have hread := Request.reads_create handle letter media sizeBytes correlationId
  rw [hread] at hsent
  rw [create_dispatched]
  unfold handleReservedCreateControl
  rw [hsent]
  simp only
  split
  · rename_i hinvalid
    rw [Bool.not_eq_true'] at hinvalid
    exact .refused _ _ hinvalid
  · rename_i hvalid
    rw [Bool.not_eq_true', Bool.not_eq_false] at hvalid
    have hvalidated := (validateCreateRequest_read hvalid).trans (scratch_create _ _)
    apply submit_handles _ (fun hcommands => ⟨hcommands, hvalidated⟩) hsize hmeaningful hP now
    refine ⟨rfl, rfl, rfl, rfl, rfl, ?_, rfl, congrArg ReservedCreateRequest.operation hread⟩
    show (validateCreateRequest (scratch _ _ _)).2.header.correlationId = _
    rw [hvalidated]
    rfl

theorem delete_handles (deviceId : ULONG) (hmeaningful : AllMeaningful ext)
    (hP : ∀ i, handle.Names ext.adapterInstance wispDiskControlDeleteDisk (ext.operations i) →
      (ext.operations i).id ≠ 0 → (ext.operations i).state ≠ .reserved → P (ext.operations i)) :
    (Request.delete handle deviceId correlationId).Handles ext.adapterInstance P
      (fun command => (Request.delete handle deviceId correlationId).Commands handle
          wispDiskControlDeleteDisk command ∧ command.remove.deviceId = deviceId)
      (dispatchControlRequest ext (Request.delete handle deviceId correlationId).control now) := by
  have hsize : (Request.delete handle deviceId correlationId).operation.responseSize =
      OperationResponse.size := rfl
  have hsent := Request.readOperationRequest_sent
    (Request.delete_headed handle deviceId correlationId)
    (n := ReservedDeleteRequest.size) rfl (by decide) (by decide) ReservedDeleteRequest.read {}
  have hread := Request.reads_delete handle deviceId correlationId
  rw [hread] at hsent
  have hdispatched : dispatchControlRequest ext
      (Request.delete handle deviceId correlationId).control now =
        handleReservedDeleteControl ext
          (Request.delete handle deviceId correlationId).control now := by
    have hcode : (Request.delete handle deviceId correlationId).control.ioControl.controlCode =
        wispDiskControlDeleteReserved := rfl
    unfold dispatchControlRequest
    simp only [hcode]
    rw [if_neg (by decide), if_neg (by decide), if_neg (by decide), if_neg (by decide),
      if_neg (by decide), if_pos trivial]
  rw [hdispatched]
  unfold handleReservedDeleteControl
  rw [hsent]
  simp only
  split
  · rename_i hinvalid
    rw [Bool.not_eq_true'] at hinvalid
    exact .refused _ _ hinvalid
  · rename_i hvalid
    rw [Bool.not_eq_true', Bool.not_eq_false] at hvalid
    have hvalidated := (validateDeleteRequest_read hvalid).trans (scratch_delete _ _)
    apply submit_handles _ (fun hcommands => ⟨hcommands, congrArg DeleteRequest.deviceId hvalidated⟩)
      hsize hmeaningful hP now
    refine ⟨rfl, rfl, rfl, rfl, rfl, ?_, rfl, congrArg ReservedDeleteRequest.operation hread⟩
    show (validateDeleteRequest (scratch _ _ _)).2.header.correlationId = _
    rw [hvalidated]
    rfl

theorem query_handles {C : MutationCommand → Prop} (hmeaningful : AllMeaningful ext)
    (hP : ∀ i, (ext.operations i).id = handle.id → (ext.operations i).id ≠ 0 →
      handle.adapterInstance = ext.adapterInstance → P (ext.operations i)) :
    (Request.query handle correlationId).Handles ext.adapterInstance P C
      (dispatchControlRequest ext (Request.query handle correlationId).control now) := by
  have hsent := Request.readOperationRequest_sent (Request.query_headed handle correlationId)
    (n := OperationRequest.size) rfl (by decide) (by decide) OperationRequest.read {}
  rw [Request.reads_query] at hsent
  have hdispatched : dispatchControlRequest ext (Request.query handle correlationId).control now =
      handleQueryOperation ext (Request.query handle correlationId).control := by
    have hcode : (Request.query handle correlationId).control.ioControl.controlCode =
        wispDiskControlQueryOperation := rfl
    unfold dispatchControlRequest
    simp only [hcode]
    rw [if_neg (by decide), if_neg (by decide), if_pos trivial]
  have hbears := (Request.query handle correlationId).bears_sent
  rw [hdispatched]
  unfold handleQueryOperation
  rw [hsent]
  unfold queryOperation
  simp only
  cases hfind : findOperationLocked ext
      (ControlOperation.queryResult.operationRequest handle correlationId).operationId with
  | none => exact .refused _ _ ntSuccess_notFound
  | some i =>
    obtain ⟨hid, hzero⟩ := findOperationLocked_some hfind
    simp only
    split
    · rename_i status hstatus
      split at hstatus
      · cases hstatus
        exact .refused _ _ ntSuccess_notFound
      · cases hstatus
    · rename_i result hresult
      split at hresult
      · cases hresult
      · rename_i hsame
        cases hresult
        have hzero' : (ext.operations i).id ≠ 0 := hid ▸ hzero
        exact .shown _ (hbears.shows rfl rfl (hmeaningful i hzero')
          (hP i hid hzero' (not_not.mp hsame)))

/-- A reservation that is asked for is made, or refused with its status. -/
theorem reserve_dispatched (mutation : ULONG) :
    dispatchControlRequest ext (Request.reserve mutation correlationId).control now =
      match reserveOperation ext mutation with
      | .error status =>
        .complete ext ((Request.reserve mutation correlationId).control.writeError
          wispDiskControlReserveOperation status correlationId)
      | .ok (ext, result) =>
        .complete ext (writeOperationResponse (Request.reserve mutation correlationId).control
          result correlationId) := by
  have hsent := Request.readOperationRequest_sent (Request.reserve_headed mutation correlationId)
    (n := ReserveRequest.size) rfl (by decide) (by decide) ReserveRequest.read {}
  rw [Request.reads_reserve] at hsent
  have hcode : (Request.reserve mutation correlationId).control.ioControl.controlCode =
      wispDiskControlReserveOperation := rfl
  unfold dispatchControlRequest
  simp only [hcode]
  rw [if_neg (by decide), if_pos trivial]
  unfold handleReserveOperation
  rw [hsent]
  simp only [if_true]
  rfl

theorem reserve_handles {C : MutationCommand → Prop} (mutation : ULONG)
    (hP : ∀ ext' result, reserveOperation ext mutation = .ok (ext', result) →
      P (reservedRecord ext.nextOperationId mutation)) :
    (Request.reserve mutation correlationId).Handles ext.adapterInstance P C
      (dispatchControlRequest ext (Request.reserve mutation correlationId).control now) := by
  have hbears := (Request.reserve mutation correlationId).bears_sent
  rw [reserve_dispatched]
  cases hreserve : reserveOperation ext mutation with
  | error status => exact .refused _ _ (reserveOperation_error hreserve)
  | ok reserved =>
    obtain ⟨ext', result⟩ := reserved
    obtain ⟨hmutation, _, hnext, rfl, _⟩ := reserveOperation_ok hreserve
    refine .shown _ (hbears.shows rfl rfl ?_ (hP _ _ hreserve))
    exact ⟨.of_open (Or.inl rfl), hnext, hmutation, fun _ hs => OperationState.noConfusion hs,
      fun hd => OperationState.noConfusion hd⟩

end Dispatch

/-! ## The worker -/

/-- The submission of a mutation request. The worker never rejects it. -/
structure Cli.Request.Pursues (request : Request) (handle : OperationHandle) (mutation : ULONG)
    (adapterInstance : ULONGLONG) (P : OperationRecord → Prop) (s : Submission) : Prop where
  commands : request.Commands handle mutation s.command
  bound : s.phase.stage = .bound →
    request.Bears s.control ∧ OperationRequest.read s.control.payload 0 = s.command.identity
  working : ∀ work, s.phase.stage.work? = some work →
    request.Bears s.control ∧
      ∀ snapshot correlation, work = .reserved snapshot correlation →
        correlation = request.correlationId
  answered : s.phase.stage = .finishing →
    request.Replied adapterInstance (fun _ => False) P s.control.toSrb

namespace Adapter

variable {request : Request} {handle : OperationHandle} {mutation : ULONG}
  {adapterInstance : ULONGLONG} {a a' : Adapter} {s : Submission}

/-- The record of a reserved submission whose answer has not been written. -/
theorem pending_record (ha : Reachable system anyAction a) (hlist : a.submissions = [s])
    (hreserved : s.command.isReserved = true) (hopen : s.phase.stage.isOpen = true) :
    s.command.identity.adapterInstance = a.extension.adapterInstance ∧
      ∃ j, (a.extension.operations j).id = s.command.identity.operationId ∧
        (a.extension.operations j).id ≠ 0 ∧ (a.extension.operations j).state = .pending ∧
        (a.extension.operations j).mutation = s.command.mutation ∧
        (∀ i, (a.extension.operations i).id = s.command.identity.operationId → i = j) ∧
        ∀ work, s.phase.stage.work? = some work →
          ∃ correlation, work = .reserved (a.extension.operations j) correlation := by
  have hrecords := Records.reachable (reachable_anywhere ha)
  have htask : a.machine.task = some ⟨s.command, s.phase.stage⟩ := by
    rw [machine_active hlist]
    rfl
  have hflight := hrecords.inFlight _ _ htask
  obtain ⟨j, hpending, hwork⟩ := hflight.pending hreserved hopen
  have hzero : (a.extension.operations j).id ≠ 0 :=
    hrecords.id_ne_zero (i := j) (by rw [hpending.state]; exact OperationState.noConfusion)
  refine ⟨hflight.sameInstance hreserved, j, hpending.id, hzero, hpending.state, hpending.mutation,
    fun i hi => ?_, hwork⟩
  exact (hrecords.unique j i hzero (hpending.id.trans hi.symm)).symm

theorem step_of_advance (hlist : a.submissions = [s]) {granted : Bool} {now : LONGLONG}
    {next : Option Submission} (hadvance : advance a s granted now = some (a', next)) :
    Adapter.step a (.submission 0 granted now) =
      some { a' with submissions := next.toList } := by
  have hsame := (advance_advanced hadvance).submissions
  have hget : a.submissions[0]? = some s := by
    rw [hlist]
    rfl
  simp only [Adapter.step, hget, hadvance]
  cases next with
  | none => simp only [hsame, hlist]; rfl
  | some s' => simp only [hsame, hlist]; rfl

/-- What a step of a submission does to the SRB it pursues. -/
def Advances (a a' : Adapter) (next : Option Submission) (S : Submission → Prop)
    (R : ScsiRequestBlock → Prop) : Prop :=
  (∀ s', next = some s' → S s') ∧ (∀ r ∈ a'.returned, r ∈ a.returned ∨ R r.srb) ∧
    ∀ e ∈ a'.history.completions, e ∈ a.history.completions ∨ R e.2

theorem Advances.onward {next : Option Submission} {S : Submission → Prop}
    {R : ScsiRequestBlock → Prop} (hnext : ∀ s', next = some s' → S s')
    (hreturned : a'.returned = a.returned)
    (hcompletions : a'.history.completions = a.history.completions) :
    Advances a a' next S R :=
  ⟨hnext, fun _ hr => Or.inl (hreturned ▸ hr), fun _ he => Or.inl (hcompletions ▸ he)⟩

theorem Advances.mono {next : Option Submission} {S : Submission → Prop}
    {R R' : ScsiRequestBlock → Prop} (h : Advances a a' next S R) (hR : ∀ srb, R srb → R' srb) :
    Advances a a' next S R' :=
  ⟨h.1, fun r hr => (h.2.1 r hr).imp_right (hR _), fun e he => (h.2.2 e he).imp_right (hR _)⟩

/-- A command that has just been submitted. -/
theorem Commands.pursues {command : MutationCommand} (h : request.Commands handle mutation command)
    (id : ℕ) : request.Pursues handle mutation adapterInstance P
      { id := id, control := markPending request.control, command := command } where
  commands := h
  bound := fun _ => ⟨request.bears_sent.markPending, h.read⟩
  working := fun work hwork => by cases hwork
  answered := fun hfinished => by cases hfinished

/-- A step of the work itself, or of the SRB's way out. -/
theorem Pursues.move (h : request.Pursues handle mutation adapterInstance P s) {phase : Phase}
    (hopen : phase.stage ≠ .bound) (hwork : phase.stage.work? = s.phase.stage.work?)
    (hfinished : phase.stage = .finishing → s.phase.stage = .finishing) :
    request.Pursues handle mutation adapterInstance P { s with phase := phase } where
  commands := h.commands
  bound := fun hbound => absurd hbound hopen
  working := fun work hphase => h.working work (hwork ▸ hphase)
  answered := fun hphase => h.answered (hfinished hphase)

theorem Pursues.answer (h : request.Commands handle mutation s.command) {control : ControlRequest}
    {phase : Phase} (hphase : phase.stage = .finishing)
    (hreplied : request.Replied adapterInstance (fun _ => False) P
      control.toSrb) :
    request.Pursues handle mutation adapterInstance P { s with control := control, phase := phase }
    where
  commands := h
  bound := fun hbound => by cases hphase.symm.trans hbound
  working := fun work hwork => by
    rw [show (Submission.mk _ _ _ _ phase).phase.stage = .finishing from hphase] at hwork
    cases hwork
  answered := fun _ => hreplied

theorem Pursues.stay (h : request.Pursues handle mutation adapterInstance P s)
    (hstage : s.phase.stage = .bound) {phase : Phase} (hphase : phase.stage = .bound) :
    request.Pursues handle mutation adapterInstance P { s with phase := phase } where
  commands := h.commands
  bound := fun _ => h.bound hstage
  working := fun work hwork => by
    rw [show (Submission.mk _ _ _ _ phase).phase.stage = .bound from hphase] at hwork
    cases hwork
  answered := fun hfinished => by cases hphase.symm.trans hfinished

theorem Pursues.names (h : request.Pursues handle mutation adapterInstance P s)
    (ha : Reachable system anyAction a) (hlist : a.submissions = [s])
    (hinstance : a.extension.adapterInstance = adapterInstance)
    (hopen : s.phase.stage.isOpen = true) {record : OperationRecord}
    (hid : record.id = s.command.identity.operationId)
    (hmutation : record.mutation = s.command.mutation) :
    handle.Names adapterInstance mutation record where
  adapter := hinstance.symm.trans
    ((pending_record ha hlist h.commands.reserved hopen).1.symm.trans h.commands.adapter)
  id := hid.trans h.commands.id
  mutation := hmutation.trans h.commands.mutation

/-- The reply that fails the record. -/
theorem failOperationLocked_replied (ha : Reachable system anyAction a) (hlist : a.submissions = [s])
    (hsize : request.operation.responseSize = OperationResponse.size)
    (hinstance : a.extension.adapterInstance = adapterInstance)
    (h : request.Pursues handle mutation adapterInstance P s) (hstage : s.phase.stage = .bound)
    {ext : AdapterExtension} {control : ControlRequest} {status : NTSTATUS} {now : LONGLONG}
    (hfailed : failOperationLocked a.extension s.command.identity.operationId status s.control
      request.correlationId now = (ext, control)) (hall : AllMeaningful ext)
    (hP : ∀ i, handle.Names adapterInstance mutation (ext.operations i) →
      (ext.operations i).id ≠ 0 → P (ext.operations i)) :
    request.Replied adapterInstance (fun _ => False) P control.toSrb := by
  have hopen : s.phase.stage.isOpen = true := by
    rw [hstage]
    rfl
  obtain ⟨_, j, hid, hzero, _, hmutation, honly, _⟩ :=
    pending_record ha hlist h.commands.reserved hopen
  rcases failOperationLocked_spec a.extension s.command.identity.operationId status s.control
      request.correlationId now with ⟨_, hnone⟩ | ⟨i, debug, hi, _, hext, hcontrol⟩
  · rcases hnone with hnone | hnone
    · exact absurd (hid.trans hnone) hzero
    · exact absurd hid (hnone j)
  · rw [hfailed] at hext hcontrol
    simp only at hext hcontrol
    rw [honly i hi] at hext hcontrol
    have hrecord : ext.operations j =
        { a.extension.operations j with state := .failed, result := status } := by
      rw [hext]
      exact Function.update_self ..
    have hzero' : (ext.operations j).id ≠ 0 := by
      rw [hrecord]
      exact hzero
    rw [hcontrol]
    apply (h.bound hstage).1.shows hsize hinstance
    · rw [← hrecord]
      exact hall j hzero'
    · rw [← hrecord]
      apply hP j _ hzero'
      rw [hrecord]
      exact Pursues.names h ha hlist hinstance hopen hid hmutation

/-- The reply that publishes the record. -/
theorem publishOperationResult_replied (ha : Reachable system anyAction a)
    (hlist : a.submissions = [s]) (hsize : request.operation.responseSize = OperationResponse.size)
    (hinstance : a.extension.adapterInstance = adapterInstance)
    (h : request.Pursues handle mutation adapterInstance P s) {snapshot : OperationRecord}
    {correlation : ULONGLONG} {status : NTSTATUS} {created : Option (ULONG × UCHAR)}
    (hphase : s.phase = .publish (.reserved snapshot correlation) status created)
    {ext : AdapterExtension} {control : ControlRequest} {now : LONGLONG}
    (hpublished : publishOperationResult a.extension s.control
      (resolvedRecord snapshot status created) correlation now = (ext, control))
    (hall : AllMeaningful ext)
    (hP : ∀ i, handle.Names adapterInstance mutation (ext.operations i) →
      (ext.operations i).id ≠ 0 → P (ext.operations i)) :
    request.Replied adapterInstance (fun _ => False) P control.toSrb := by
  have hwork : s.phase.stage.work? = some (.reserved snapshot correlation) := by
    rw [hphase]
    rfl
  have hopen : s.phase.stage.isOpen = true := by
    rw [hphase]
    rfl
  obtain ⟨hbears, hcorrelation⟩ := h.working _ hwork
  have hcorrelation' := hcorrelation snapshot correlation rfl
  obtain ⟨_, j, hid, hzero, _, hmutation, honly, hsnapshot⟩ :=
    pending_record ha hlist h.commands.reserved hopen
  obtain ⟨_, heq⟩ := hsnapshot _ hwork
  cases heq
  rcases publishOperationResult_spec a.extension s.control
      (resolvedRecord (a.extension.operations j) status created) correlation now with
    ⟨_, hnone⟩ | ⟨i, hi, _, debug, hext, hcontrol⟩
  · rw [resolvedRecord_id] at hnone
    rcases hnone with hnone | hnone
    · exact absurd hnone hzero
    · exact absurd rfl (hnone j)
  · rw [hpublished] at hext hcontrol
    simp only at hext hcontrol
    rw [resolvedRecord_id] at hi
    rw [honly i (hi.trans hid)] at hext
    have hrecord : ext.operations j =
        resolvedRecord (a.extension.operations j) status created := by
      rw [hext]
      exact Function.update_self ..
    have hzero' : (ext.operations j).id ≠ 0 := by
      rw [hrecord, resolvedRecord_id]
      exact hzero
    rw [hcontrol, hcorrelation']
    apply hbears.shows hsize hinstance
    · rw [← hrecord]
      exact hall j hzero'
    · rw [← hrecord]
      apply hP j _ hzero'
      rw [hrecord]
      exact Pursues.names h ha hlist hinstance hopen ((resolvedRecord_id ..).trans hid)
        ((resolvedRecord_mutation ..).trans hmutation)

/-- The caller whose work item was not queued fails the record. -/
theorem queueFailed_pursues (ha : Reachable system anyAction a) (hlist : a.submissions = [s])
    (hsize : request.operation.responseSize = OperationResponse.size)
    (hinstance : a.extension.adapterInstance = adapterInstance)
    (h : request.Pursues handle mutation adapterInstance P s)
    (hphase : s.phase = .queueFailed) {granted : Bool} {now : LONGLONG}
    {next : Option Submission} (hadvance : advance a s granted now = some (a', next))
    (hall : AllMeaningful a'.extension)
    (hP : ∀ i, handle.Names adapterInstance mutation (a'.extension.operations i) →
      (a'.extension.operations i).id ≠ 0 → P (a'.extension.operations i)) :
    Advances a a' next (request.Pursues handle mutation adapterInstance P)
      (request.Replied adapterInstance (fun _ => False) P) := by
  unfold advance at hadvance
  have hstage : s.phase.stage = .bound := by rw [hphase]; rfl
  simp only [hphase] at hadvance
  cases hadvance
  refine ⟨fun s' hs' => (by cases hs'), fun r hr => ?_, fun e he => Or.inl he⟩
  rcases List.mem_append.mp hr with hr | hr
  · exact Or.inl hr
  · rw [List.mem_singleton.mp hr]
    refine Or.inr ?_
    have hqueueing : ∀ ext' control', failQueueing a.extension s.control s.command now =
        (ext', control') → ∃ ext, failOperationLocked a.extension s.command.identity.operationId
          statusInsufficientResources s.control request.correlationId now = (ext, control') ∧
            ext' = endManagementLocked ext := by
      intro ext' control' hq
      unfold failQueueing at hq
      simp only [h.commands.reserved, if_true, h.commands.correlation] at hq
      cases hq
      exact ⟨_, rfl, rfl⟩
    obtain ⟨ext, hfailed, hext⟩ := hqueueing (failQueueing a.extension s.control s.command now).1
      (failQueueing a.extension s.control s.command now).2 rfl
    have hsame : ∀ i, ext.operations i =
        (failQueueing a.extension s.control s.command now).1.operations i := by
      intro i
      rw [hext]
      rfl
    refine failOperationLocked_replied ha hlist hsize hinstance h hstage hfailed
      (fun i hi => ?_) fun i hnames hi => ?_
    · rw [hsame] at hi ⊢
      exact hall i hi
    · rw [hsame] at hi hnames ⊢
      exact hP i hnames hi

theorem takeFault_pursues (h : request.Pursues handle mutation adapterInstance P s)
    (hcoherent : s.Coherent) (hphase : s.phase = .takeFault) {granted : Bool} {now : LONGLONG}
    {next : Option Submission} (hadvance : advance a s granted now = some (a', next)) :
    Advances a a' next (request.Pursues handle mutation adapterInstance P)
      (request.Replied adapterInstance (fun _ => False) P) := by
  unfold advance at hadvance
  have hstage : s.phase.stage = .bound := by rw [hphase]; rfl
  have hcode : isReservedCode s.control.ioControl.controlCode = true := by
    rw [(hcoherent.carries hstage).code]
    have hreserved := h.commands.reserved
    unfold MutationCommand.isReserved at hreserved
    cases hoperation : s.command.operation <;> rw [hoperation] at hreserved <;> first
      | rfl
      | cases hreserved
  simp only [hphase] at hadvance
  unfold beginWork at hadvance
  simp only [hcode, if_true] at hadvance
  cases hadvance
  refine .onward (fun s' hs' => ?_) rfl rfl
  cases hs'
  have hstay : request.Pursues handle mutation adapterInstance P
      { s with phase := if (Diagnostics.takeFault a.extension).2 = .rejectOperation
        then .rejectOperation else .snapshotPending } := by
    apply Pursues.stay h hstage
    split <;> rfl
  exact ⟨hstay.commands, hstay.bound, hstay.working, hstay.answered⟩

/-- The worker finds the record of its command, which is still pending. -/
theorem snapshotPending_pursues (ha : Reachable system anyAction a) (hlist : a.submissions = [s])
    (h : request.Pursues handle mutation adapterInstance P s)
    (hphase : s.phase = .snapshotPending) {granted : Bool} {now : LONGLONG}
    {next : Option Submission} (hadvance : advance a s granted now = some (a', next)) :
    Advances a a' next (request.Pursues handle mutation adapterInstance P)
      (request.Replied adapterInstance (fun _ => False) P) := by
  unfold advance at hadvance
  have hstage : s.phase.stage = .bound := by rw [hphase]; rfl
  have hopen : s.phase.stage.isOpen = true := by rw [hphase]; rfl
  simp only [hphase] at hadvance
  obtain ⟨hbears, hread⟩ := h.bound hstage
  rw [hread, h.commands.header] at hadvance
  split at hadvance
  · rename_i control hmissing
    obtain ⟨hsame, j, hid, hzero, hstate, _, honly, _⟩ :=
      pending_record ha hlist h.commands.reserved hopen
    rcases snapshotPendingOperation_error hmissing with (hnone | hnone) | ⟨i, hi, hother | hother⟩
    · exact absurd (hid.trans hnone) hzero
    · exact absurd hid (hnone j)
    · exact absurd hsame hother
    · rw [honly i hi] at hother
      exact absurd hstate hother
  · rename_i snapshot hsnapshot
    cases hadvance
    refine .onward (fun s' hs' => ?_) rfl rfl
    cases hs'
    refine ⟨h.commands, fun hbound => ?_, fun work hwork => ?_, fun hfinished => ?_⟩
    · rw [show (Submission.mk _ _ _ _ (Work.start _)).phase.stage = _ from
        Phase.stage_start _] at hbound
      unfold Stage.start at hbound
      split at hbound <;> cases hbound
    · rw [show (Submission.mk _ _ _ _ (Work.start _)).phase.stage = _ from
        Phase.stage_start _] at hwork
      refine ⟨hbears, fun snapshot' correlation heq => ?_⟩
      unfold Stage.start at hwork
      split at hwork <;> cases hwork <;> cases heq <;> rfl
    · rw [show (Submission.mk _ _ _ _ (Work.start _)).phase.stage = _ from
        Phase.stage_start _] at hfinished
      unfold Stage.start at hfinished
      split at hfinished <;> cases hfinished

theorem publish_pursues (ha : Reachable system anyAction a) (hlist : a.submissions = [s])
    (hsize : request.operation.responseSize = OperationResponse.size)
    (hinstance : a.extension.adapterInstance = adapterInstance)
    (h : request.Pursues handle mutation adapterInstance P s) {work : Work}
    {status : NTSTATUS} {created : Option (ULONG × UCHAR)}
    (hphase : s.phase = .publish work status created) {granted : Bool} {now : LONGLONG}
    {next : Option Submission} (hadvance : advance a s granted now = some (a', next))
    (hall : AllMeaningful a'.extension)
    (hP : ∀ i, handle.Names adapterInstance mutation (a'.extension.operations i) →
      (a'.extension.operations i).id ≠ 0 → P (a'.extension.operations i)) :
    Advances a a' next (request.Pursues handle mutation adapterInstance P)
      (request.Replied adapterInstance (fun _ => False) P) := by
  unfold advance at hadvance
  have hopen : s.phase.stage.isOpen = true := by rw [hphase]; rfl
  have hwork : s.phase.stage.work? = some work := by rw [hphase]; rfl
  obtain ⟨_, j, _, _, _, _, _, hsnapshot⟩ :=
    pending_record ha hlist h.commands.reserved hopen
  obtain ⟨correlation, rfl⟩ := hsnapshot work hwork
  simp only [hphase] at hadvance
  cases hadvance
  refine .onward (fun s' hs' => ?_) rfl rfl
  cases hs'
  exact Pursues.answer h.commands rfl
    (publishOperationResult_replied ha hlist hsize hinstance h hphase rfl hall hP)

/-- The SRB is completed as it was answered. -/
theorem complete_pursues (h : request.Pursues handle mutation adapterInstance P s)
    {m : Metadata} (hphase : s.phase = .complete m) {granted : Bool} {now : LONGLONG}
    {next : Option Submission} (hadvance : advance a s granted now = some (a', next)) :
    Advances a a' next (request.Pursues handle mutation adapterInstance P)
      (request.Replied adapterInstance (fun _ => False) P) := by
  unfold advance at hadvance
  have hstage : s.phase.stage = .finishing := by rw [hphase]; rfl
  simp only [hphase] at hadvance
  cases hadvance
  refine ⟨fun s' hs' => ?_, fun r hr => Or.inl hr, fun e he => ?_⟩
  · cases hs'
    apply Pursues.move h
    · split <;> exact Stage.noConfusion
    · rw [hphase]
      split <;> rfl
    · exact fun _ => hstage
  · rcases List.mem_append.mp he with he | he
    · exact Or.inl he
    · rw [List.mem_singleton.mp he]
      exact Or.inr (h.answered hstage)

theorem advance_pursues (ha : Reachable system anyAction a) (hlist : a.submissions = [s])
    (hsize : request.operation.responseSize = OperationResponse.size)
    (hinstance : a.extension.adapterInstance = adapterInstance)
    (h : request.Pursues handle mutation adapterInstance P s) {granted : Bool} {now : LONGLONG}
    {next : Option Submission} (hadvance : advance a s granted now = some (a', next))
    (hP : ∀ i, handle.Names adapterInstance mutation (a'.extension.operations i) →
      (a'.extension.operations i).id ≠ 0 → P (a'.extension.operations i)) :
    Advances a a' next (request.Pursues handle mutation adapterInstance P)
      (request.Replied adapterInstance (fun _ => False) P) := by
  have hstep : system.step a (.submission 0 granted now) =
      some { a' with submissions := next.toList } := step_of_advance hlist hadvance
  have hall : AllMeaningful a'.extension := by
    have hmeaningful := allMeaningful (Reachable.step ha trivial hstep)
    exact hmeaningful
  have hrestart : ∀ b : Adapter, anyAction b (Action.setStopping false) →
      Machine.anywhere b.machine := fun _ _ => trivial
  have hcoherent : s.Coherent :=
    (reachable_simulated hrestart ha).1.2 s (hlist ▸ List.mem_singleton_self s)
  have hmove : ∀ {b : Adapter} {phase : Phase}, phase.stage ≠ .bound →
      phase.stage.work? = s.phase.stage.work? →
      (phase.stage = .finishing → s.phase.stage = .finishing) → b.returned = a.returned →
      b.history.completions = a.history.completions →
      Advances a b (some { s with phase := phase })
        (request.Pursues handle mutation adapterInstance P)
        (request.Replied adapterInstance (fun _ => False) P) :=
    fun hopen hwork hfinished hreturned hcompletions =>
      .onward (fun s' hs' => Option.some.inj hs' ▸ Pursues.move h hopen hwork hfinished)
        hreturned hcompletions
  cases hphase : s.phase with
  | prepared =>
    unfold advance at hadvance
    simp only [hphase] at hadvance
    cases hadvance
    have hstage : s.phase.stage = .bound := by rw [hphase]; rfl
    refine .onward (fun s' hs' => ?_) rfl rfl
    cases hs'
    apply Pursues.stay h hstage
    split <;> rfl
  | queueFailed => exact queueFailed_pursues ha hlist hsize hinstance h hphase hadvance hall hP
  | queued =>
    have hstage : s.phase.stage = .bound := by rw [hphase]; rfl
    unfold advance at hadvance
    simp only [hphase] at hadvance
    have hdecoded := ControlRequest.fromSrb_toSrb (hcoherent.carries hstage).enveloped
    rw [hdecoded] at hadvance
    simp only at hadvance
    cases hadvance
    refine .onward (fun s' hs' => ?_) rfl rfl
    cases hs'
    obtain ⟨hbears, hread⟩ := h.bound hstage
    exact ⟨h.commands, fun _ => ⟨⟨hbears.header, hbears.signature, hbears.code, hbears.room⟩, hread⟩,
      fun work hwork => (by cases hwork), fun hfinished => (by cases hfinished)⟩
  | takeFault => exact takeFault_pursues h hcoherent hphase hadvance
  | rejectOperation =>
    have hstage : s.phase.stage = .bound := by rw [hphase]; rfl
    unfold advance at hadvance
    simp only [hphase] at hadvance
    obtain ⟨_, hread⟩ := h.bound hstage
    rw [hread, h.commands.header] at hadvance
    cases hadvance
    refine .onward (fun s' hs' => ?_) rfl rfl
    cases hs'
    exact Pursues.answer h.commands rfl
      (failOperationLocked_replied ha hlist hsize hinstance h hstage rfl hall hP)
  | snapshotPending => exact snapshotPending_pursues ha hlist h hphase hadvance
  | publish work status created =>
    exact publish_pursues ha hlist hsize hinstance h hphase hadvance hall hP
  | respond =>
    have hstage : s.phase.stage = .finishing := by rw [hphase]; rfl
    unfold advance at hadvance
    simp only [hphase] at hadvance
    cases hadvance
    refine .onward (fun s' hs' => ?_) rfl rfl
    cases hs'
    apply Pursues.answer h.commands rfl
    apply (h.answered hstage).congr
    · unfold failTransport
      split <;> rfl
    · unfold failTransport
      split <;> rfl
  | complete m => exact complete_pursues h hphase hadvance
  | endManagement =>
    unfold advance at hadvance
    simp only [hphase] at hadvance
    cases hadvance
    exact .onward (fun s' hs' => by cases hs') rfl rfl
  | traceResponse | notifyBus =>
    unfold advance at hadvance
    simp only [hphase] at hadvance
    cases hadvance
    exact hmove Stage.noConfusion (by rw [hphase]; rfl) (fun _ => by rw [hphase]; rfl) rfl rfl
  | selectLun | commit | markStopping =>
    unfold advance at hadvance
    simp only [hphase] at hadvance
    split at hadvance <;>
    · cases hadvance
      exact hmove Stage.noConfusion (by rw [hphase]; rfl) Stage.noConfusion rfl rfl
  | allocate =>
    unfold advance at hadvance
    simp only [hphase] at hadvance
    split at hadvance <;>
    · cases hadvance
      exact hmove Stage.noConfusion (by rw [hphase]; rfl) Stage.noConfusion rfl rfl
  | waitForLunIo =>
    unfold advance at hadvance
    simp only [hphase] at hadvance
    split at hadvance
    · cases hadvance
      exact hmove Stage.noConfusion (by rw [hphase]; rfl) Stage.noConfusion rfl rfl
    · cases hadvance
  | zeroMemory | freeAllocation | detach | freePool | finalize =>
    unfold advance at hadvance
    simp only [hphase] at hadvance
    cases hadvance
    exact hmove Stage.noConfusion (by rw [hphase]; rfl) Stage.noConfusion rfl rfl

end Adapter

/-! ## What a reply means -/

/-- What the client makes of an accepted reply. -/
structure Cli.Request.Meaning (request : Request) (handle : Option OperationHandle)
    (mutation : ULONG) (reply : OperationResponse) : Prop where
  size : reply.header.structSize = OperationResponse.size
  version : reply.header.protocolVersion = wispdiskProtocolVersion
  operation : reply.header.operation = request.operation.code
  correlation : reply.header.correlationId = request.correlationId
  identity : ∀ h, handle = some h →
    reply.matchesOperation h.adapterInstance h.id mutation = true
  valid : ∀ h, handle = some h → ∀ error, h.interpret reply mutation ≠ .ok (.invalid error)
  succeeded : reply.state = OperationState.succeeded.code → reply.resultStatus = 0
  failed : reply.state = OperationState.failed.code → reply.resultStatus < 0
  deleted : reply.state = OperationState.deleted.code →
    reply.mutation = wispDiskControlCreateDisk
  reservation : handle = none → reply.isValidReservation = true ∧ reply.mutation = mutation
  created : reply.mutation = wispDiskControlCreateDisk →
    reply.state = OperationState.succeeded.code → reply.isValidCreatedDisk = true

section Meaning

variable {request : Request} {adapterInstance : ULONGLONG} {P : OperationRecord → Prop}
  {reply : OperationResponse} {mutation : ULONG}

theorem shown_succeeded (h : request.Shows adapterInstance P reply)
    (hstate : reply.state = OperationState.succeeded.code) : reply.resultStatus = 0 := by
  obtain ⟨record, hmeaningful, _, rfl⟩ := h
  exact hmeaningful.succeeded (OperationState.code_injective hstate)

theorem shown_failed (h : request.Shows adapterInstance P reply)
    (hstate : reply.state = OperationState.failed.code) : reply.resultStatus < 0 := by
  obtain ⟨record, hmeaningful, _, rfl⟩ := h
  exact Request.status_lt_zero (hmeaningful.failed (OperationState.code_injective hstate))

theorem shown_deleted (h : request.Shows adapterInstance P reply)
    (hstate : reply.state = OperationState.deleted.code) :
    reply.mutation = wispDiskControlCreateDisk := by
  obtain ⟨record, hmeaningful, _, rfl⟩ := h
  exact hmeaningful.deleted (OperationState.code_injective hstate)

theorem shown_created (h : request.Shows adapterInstance P reply) (hinstance : adapterInstance ≠ 0)
    (hmutation : reply.mutation = wispDiskControlCreateDisk)
    (hstate : reply.state = OperationState.succeeded.code) : reply.isValidCreatedDisk = true := by
  have hresult := shown_succeeded h hstate
  obtain ⟨record, hmeaningful, _, rfl⟩ := h
  have hsucceeded : record.state = .succeeded := OperationState.code_injective hstate
  obtain ⟨hdevice, hlun⟩ := hmeaningful.created hmutation hsucceeded
  have hbound : record.lun.toNat < wispdiskMaximumDiskCount.toNat := hlun
  have hkind : record.mutation = wispDiskControlCreateDisk := hmutation
  have hzero : record.result = 0 := hresult
  unfold OperationResponse.isValidCreatedDisk
  simp only [hkind, hsucceeded, hzero, hbound, bne_iff_ne, Bool.and_eq_true, beq_self_eq_true,
    decide_true, and_true]
  exact ⟨⟨hinstance, hmeaningful.inUse⟩, hdevice⟩

theorem shown_reservation
    (h : request.Shows adapterInstance
      (fun record => record.state = .reserved ∧ record.mutation = mutation) reply)
    (hinstance : adapterInstance ≠ 0) :
    reply.isValidReservation = true ∧ reply.mutation = mutation := by
  obtain ⟨record, hmeaningful, ⟨hstate, hmutation⟩, rfl⟩ := h
  refine ⟨?_, hmutation⟩
  unfold OperationResponse.isValidReservation
  simp only [hstate, bne_iff_ne, Bool.and_eq_true, Bool.or_eq_true, beq_iff_eq, and_true]
  exact ⟨⟨hinstance, hmeaningful.inUse⟩, hmeaningful.kind⟩

theorem shown_identity {handle : OperationHandle}
    (h : request.Shows adapterInstance (handle.Names adapterInstance mutation) reply) :
    reply.matchesOperation handle.adapterInstance handle.id mutation = true := by
  obtain ⟨record, _, hnames, rfl⟩ := h
  unfold OperationResponse.matchesOperation
  simp only [hnames.adapter, hnames.id, hnames.mutation, beq_self_eq_true, Bool.and_self]

/-- `interpret` never calls a shown record invalid. -/
theorem shown_valid {handle : OperationHandle}
    (h : request.Shows adapterInstance (handle.Names adapterInstance mutation) reply)
    (error : Error) : handle.interpret reply mutation ≠ .ok (.invalid error) := by
  have hidentity := shown_identity h
  have hsucceeded := shown_succeeded h
  have hfailed := shown_failed h
  obtain ⟨record, hmeaningful, hnames, hreply⟩ := h
  have hstate : reply.state = record.state.code := by rw [hreply]
  intro hinvalid
  unfold OperationHandle.interpret at hinvalid
  rw [hidentity, if_neg Bool.noConfusion] at hinvalid
  split at hinvalid
  · cases hinvalid
  rename_i hnotSucceeded
  split at hinvalid
  · cases hinvalid
  rename_i hnotFailed
  split at hinvalid
  · cases hinvalid
  rename_i hnotDeleted
  split at hinvalid
  · cases hinvalid
  rename_i hnotReserved
  split at hinvalid
  · cases hinvalid
  rename_i hnotPending
  cases hrecord : record.state with
  | unset => exact hmeaningful.stated hmeaningful.inUse hrecord
  | reserved => exact hnotReserved (by rw [hstate, hrecord])
  | pending => exact hnotPending (by rw [hstate, hrecord])
  | succeeded =>
    rw [hrecord] at hstate
    exact hnotSucceeded ⟨hstate, hsucceeded hstate⟩
  | failed =>
    rw [hrecord] at hstate
    exact hnotFailed ⟨hstate, hfailed hstate⟩
  | deleted => exact hnotDeleted (by rw [hstate, hrecord])

end Meaning

/-! ## What is asked -/

/-- The operation was reserved for that mutation at some time before. -/
def Cli.OperationHandle.ReservedFor (handle : OperationHandle) (a : Adapter) (mutation : ULONG) :
    Prop :=
  ∃ b i, Reachable Adapter.system anyAction b ∧ Steps Adapter.system anyAction b a ∧
    (b.extension.operations i).id = handle.id ∧ (b.extension.operations i).mutation = mutation

/-- The requests about an operation, each with the handle it names and the mutation that the client
means; a reservation names none. -/
inductive Cli.Request.Asks (a : Adapter) : Request → Option OperationHandle → ULONG → Prop
  | reserve (mutation : ULONG) (correlationId : ULONGLONG) :
      Asks a (.reserve mutation correlationId) none mutation
  | query (handle : OperationHandle) (mutation : ULONG) (correlationId : ULONGLONG)
      (h : handle.ReservedFor a mutation) :
      Asks a (.query handle correlationId) (some handle) mutation
  | create (handle : OperationHandle) (letter : DriveLetter) (media : MediaKind)
      (sizeBytes correlationId : ULONGLONG) :
      Asks a (.create handle letter media sizeBytes correlationId) (some handle)
        wispDiskControlCreateDisk
  | delete (handle : OperationHandle) (deviceId : ULONG) (correlationId : ULONGLONG) :
      Asks a (.delete handle deviceId correlationId) (some handle) wispDiskControlDeleteDisk

theorem OperationRecord.Moves.mutation_eq {r r' : OperationRecord} (h : Moves r r') :
    r'.mutation = r.mutation := by
  induction h with
  | refl => rfl
  | tail _ hmove ih =>
    cases hmove with
    | bound | deleted => exact ih
    | finished _ _ _ _ hmutation => exact hmutation.trans ih

theorem Cli.OperationHandle.ReservedFor.names {handle : OperationHandle} {a : Adapter}
    {mutation : ULONG} (h : handle.ReservedFor a mutation) {i : Fin kMaximumOperationCount}
    (hid : (a.extension.operations i).id = handle.id) (hzero : (a.extension.operations i).id ≠ 0) :
    (a.extension.operations i).mutation = mutation := by
  obtain ⟨b, j, hb, hpath, hreserved, hmutation⟩ := h
  have hrun := path_anywhere hb hpath
  have hreach := reachable_anywhere hb
  have hrecords := Records.reachable (reachable_anywhere (hb.path hpath))
  have hknown : (b.machine.operations j).id ≠ 0 := by
    show (b.extension.operations j).id ≠ 0
    rw [hreserved, ← hid]
    exact hzero
  rcases Machine.Followed.run hreach hrun hknown with hmoves | hgone
  · have hknown' : (a.machine.operations j).id ≠ 0 := by
      rw [hmoves.id_eq]
      exact hknown
    have hsame : j = i :=
      hrecords.unique j i hknown' (hmoves.id_eq.trans (hreserved.trans hid.symm))
    rw [← hsame]
    exact hmoves.mutation_eq.trans hmutation
  · exact absurd (hid.trans hreserved.symm) (hgone i)

namespace Adapter

variable {request : Request} {adapterInstance : ULONGLONG} {C : MutationCommand → Prop}
  {S : Submission → Prop} {R : ScsiRequestBlock → Prop} {a b : Adapter}

/-- `HwStartIo` answers the request at once, with nothing accepted, or submits it. -/
theorem startIo_handled (ha : Reachable system anyAction a) {now : LONGLONG}
    (hhandles : request.Handles adapterInstance P C
      (dispatchControlRequest a.extension request.control now))
    (hreplied : (a.startIo request.toSrb now).history.accepted = a.history.accepted →
      ∀ srb, request.Replied adapterInstance (request.Refused a.extension now) P srb → R srb)
    (hsubmitted : ∀ command, C command →
      S { id := a.nextSrb, control := markPending request.control, command := command }) :
    (a.startIo request.toSrb now).Tracks a.nextSrb S R := by
  apply startIo_tracks (Gate.reachable ha) (Below.reachable ha) rfl
  · intro ext reply hcomplete
    have hkept : (a.startIo request.toSrb now).history.accepted = a.history.accepted := by
      unfold startIo
      simp only
      rw [if_pos (show request.toSrb.function = srbFunctionIoControl from rfl)]
      unfold startIoControl
      simp only [hcomplete]
      rfl
    rw [handleIoControl, request.fromSrb_toSrb] at hcomplete
    simp only at hcomplete
    generalize houtcome : dispatchControlRequest a.extension request.control now = outcome
      at hcomplete hhandles
    cases hhandles with
    | refused ext' status h =>
      cases hcomplete
      exact hreplied hkept _ (request.bears_sent.rejects ⟨_, houtcome⟩ h)
    | shown ext' h =>
      cases hcomplete
      exact hreplied hkept _ (h.mono (fun _ hnever => hnever.elim) fun _ h => h)
    | submitted ext' command h => cases hcomplete
  · intro ext control command hadmitted
    rw [handleIoControl, request.fromSrb_toSrb] at hadmitted
    simp only at hadmitted
    generalize dispatchControlRequest a.extension request.control now = outcome at *
    cases hhandles with
    | refused ext' status h => cases hadmitted
    | shown ext' h => cases hadmitted
    | submitted ext' command' h =>
      cases hadmitted
      exact hsubmitted _ h

theorem run_replied {id : ℕ} (ha : Reachable system anyAction a)
    (h : a.Tracks id S R) (hrun : Steps system anyAction a b)
    (hadvance : ∀ c s granted now c' next, Reachable system anyAction c →
      Steps system anyAction a c → c.submissions = [s] → S s →
        advance c s granted now = some (c', next) → Advances c c' next S R)
    (hcompleted : ∀ srb status, R srb → R (completeRequest srb status)) : b.Tracks id S R := by
  apply hrun.relates (R := fun _ c => c.Tracks id S R) ha h
  intro c action c' hpath hc htracks _ hs
  exact htracks.step hs
    (fun s granted now d next hlist hS hstep _ =>
      hadvance c s granted now d next hc hpath hlist hS hstep)
    hcompleted

end Adapter

theorem Cli.Request.Replied.completed {request : Request} {adapterInstance : ULONGLONG}
    (srb : ScsiRequestBlock) (status : UCHAR) (h : request.Replied adapterInstance Q P srb) :
    request.Replied adapterInstance Q P (Adapter.completeRequest srb status) := h.congr rfl rfl

/-- What the client decodes from a completed SRB: if the driver has refused the request and written
an error, a rejection with the driver's status, otherwise the response that the driver has
written. -/
inductive Cli.Request.Decodes (request : Request) (handle : Option OperationHandle)
    (mutation : ULONG) (refused : NTSTATUS → Prop) (srb : ScsiRequestBlock) : Prop
  | rejection (status : NTSTATUS) (hrefused : refused status) (hnegative : status < 0)
      (hwritten : request.ErrorWritten status srb)
      (h : request.receiveSrb srb = .error (.driverRejection status))
  | response (payload : Bytes) (hwritten : ResponseWritten payload srb)
      (h : request.receiveSrb srb = .ok payload)
      (hmeaning : request.Meaning handle mutation (OperationResponse.read payload 0))

theorem Cli.Request.Replied.decodes {request : Request} {adapterInstance : ULONGLONG}
    {handle : OperationHandle} {mutation : ULONG} {srb : ScsiRequestBlock}
    (h : request.Replied adapterInstance Q (handle.Names adapterInstance mutation) srb)
    (hinstance : adapterInstance ≠ 0) : request.Decodes (some handle) mutation Q srb := by
  cases h with
  | rejected status hQ hnegative hwritten h =>
    exact .rejection status hQ hnegative hwritten h
  | shown payload hwritten h hshows =>
    refine .response payload hwritten h ⟨?_, ?_, ?_, ?_, fun handle' heq => ?_, fun handle' heq => ?_,
      shown_succeeded hshows, shown_failed hshows, shown_deleted hshows, fun hnone => ?_,
      shown_created hshows hinstance⟩
    · obtain ⟨record, _, _, hreply⟩ := hshows
      rw [hreply]
      rfl
    · obtain ⟨record, _, _, hreply⟩ := hshows
      rw [hreply]
      rfl
    · obtain ⟨record, _, _, hreply⟩ := hshows
      rw [hreply]
      rfl
    · obtain ⟨record, _, _, hreply⟩ := hshows
      rw [hreply]
      rfl
    · cases heq
      exact shown_identity hshows
    · cases heq
      exact shown_valid hshows
    · cases hnone

theorem Cli.Request.Replied.reserves {request : Request} {adapterInstance : ULONGLONG}
    {mutation : ULONG} {srb : ScsiRequestBlock}
    (h : request.Replied adapterInstance Q
      (fun record => record.state = .reserved ∧ record.mutation = mutation) srb)
    (hinstance : adapterInstance ≠ 0) : request.Decodes none mutation Q srb := by
  cases h with
  | rejected status hQ hnegative hwritten h =>
    exact .rejection status hQ hnegative hwritten h
  | shown payload hwritten h hshows =>
    refine .response payload hwritten h ⟨?_, ?_, ?_, ?_, fun handle' heq => (by cases heq),
      fun handle' heq => (by cases heq),
      shown_succeeded hshows, shown_failed hshows, shown_deleted hshows,
      fun _ => shown_reservation hshows hinstance, shown_created hshows hinstance⟩
    all_goals
      obtain ⟨record, _, _, hreply⟩ := hshows
      rw [hreply]
      rfl

namespace Adapter

theorem step_startIo {a b : Adapter} {srb : ScsiRequestBlock} {now : LONGLONG}
    (hs : Adapter.step a (.startIo srb now) = some b) : b = a.startIo srb now := by
  simp only [Adapter.step] at hs
  split at hs
  · cases hs
    rfl
  · cases hs

/-- The reply to a mutation request. -/
theorem mutation_replied {request : Request} {handle : OperationHandle} {mutation : ULONG}
    {a a₁ b : Adapter} (ha : Reachable system anyAction a)
    (hsize : request.operation.responseSize = OperationResponse.size) {now : LONGLONG}
    (hhandles : request.Handles a.extension.adapterInstance
      (handle.Names a.extension.adapterInstance mutation) (request.Commands handle mutation)
      (dispatchControlRequest a.extension request.control now))
    (hsend : system.step a (.startIo request.toSrb now) = some a₁)
    (hrun : Steps system anyAction a₁ b) :
    b.Tracks a.nextSrb
      (request.Pursues handle mutation a.extension.adapterInstance
        (handle.Names a.extension.adapterInstance mutation))
      (request.Replied a.extension.adapterInstance (request.Refused a.extension now)
        (handle.Names a.extension.adapterInstance mutation)) := by
  have ha₁ : Reachable system anyAction a₁ := Reachable.step ha trivial hsend
  have hstart := step_startIo hsend
  have htracks : a₁.Tracks a.nextSrb
      (request.Pursues handle mutation a.extension.adapterInstance
        (handle.Names a.extension.adapterInstance mutation))
      (request.Replied a.extension.adapterInstance (request.Refused a.extension now)
        (handle.Names a.extension.adapterInstance mutation)) := by
    rw [hstart]
    exact startIo_handled ha hhandles (fun _ _ h => h) fun command hcommands =>
      Commands.pursues hcommands _
  apply run_replied ha₁ htracks hrun _ Request.Replied.completed
  intro c s granted now c' next hc hpath hlist hpursues hadvance
  have hinstance : c.extension.adapterInstance = a.extension.adapterInstance :=
    Driver.adapter_instance ha ((Steps.single trivial hsend).trans hpath)
  exact (advance_pursues hc hlist hsize hinstance hpursues hadvance fun _ h _ => h).mono
    fun _ h => h.mono (fun _ hnever => hnever.elim) fun _ h => h

/-- The reply to a request that is answered at once. -/
theorem inquiry_replied {request : Request} {P : OperationRecord → Prop} {a a₁ b : Adapter}
    (ha : Reachable system anyAction a) {now : LONGLONG}
    (hhandles : request.Handles a.extension.adapterInstance P (fun _ => False)
      (dispatchControlRequest a.extension request.control now))
    (hsend : system.step a (.startIo request.toSrb now) = some a₁)
    (hrun : Steps system anyAction a₁ b) :
    b.Tracks a.nextSrb (fun _ => False)
      (request.Replied a.extension.adapterInstance (request.Refused a.extension now) P) := by
  have ha₁ : Reachable system anyAction a₁ := Reachable.step ha trivial hsend
  have hstart := step_startIo hsend
  have htracks : a₁.Tracks a.nextSrb (fun _ => False)
      (request.Replied a.extension.adapterInstance (request.Refused a.extension now) P) := by
    rw [hstart]
    exact startIo_handled ha hhandles (fun _ _ h => h) fun _ h => h
  apply run_replied ha₁ htracks hrun _ Request.Replied.completed
  intro c s granted now c' next hc hpath hlist hnever
  exact hnever.elim

end Adapter

/-- Whatever the driver completes a request about an operation with, the client decodes it: to a
rejection with the negative status that the driver has written, if it has refused the request, and
otherwise to the response that it has written, which means something. -/
theorem replies_meaningful {d : Driver} (hd : Reachable Driver.system Driver.belowLimit d)
    {a : Adapter} (ha : a ∈ d.adapters) {request : Request} {handle : Option OperationHandle}
    {mutation : ULONG} (hasked : request.Asks a handle mutation) {now : LONGLONG} {a₁ b : Adapter}
    (hsend : a.step (.startIo request.toSrb now) = some a₁)
    (hrun : Steps Adapter.system anyAction a₁ b) {srb : ScsiRequestBlock}
    (hdone : (a.nextSrb, srb) ∈ b.history.completions) :
    request.fits = true ∧ request.Decodes handle mutation (request.Refused a.extension now) srb := by
  have hnumbered := Driver.Numbered.reachable hd
  have hreach := hnumbered.reached a ha
  have hinstance : a.extension.adapterInstance ≠ 0 := by
    intro hzero
    have hpositive := (hnumbered.below a ha).1
    rw [hzero] at hpositive
    exact absurd hpositive (Nat.lt_irrefl _)
  have hmeaningful := allMeaningful hreach
  cases hasked with
  | reserve _ correlationId =>
    have htracks := inquiry_replied hreach
      (reserve_handles
        (P := fun record => record.state = .reserved ∧ record.mutation = mutation)
        a.extension now correlationId mutation fun _ _ _ => ⟨rfl, rfl⟩) hsend hrun
    exact ⟨rfl, (htracks.every.completions _ hdone rfl).reserves hinstance⟩
  | query handle _ correlationId hreserved =>
    have htracks := inquiry_replied hreach
      (query_handles a.extension now handle correlationId hmeaningful
        (P := handle.Names a.extension.adapterInstance mutation) fun i hid hzero hsame =>
          ⟨hsame.symm, hid, hreserved.names hid hzero⟩) hsend hrun
    exact ⟨rfl, (htracks.every.completions _ hdone rfl).decodes hinstance⟩
  | create handle letter media sizeBytes correlationId =>
    have htracks := mutation_replied hreach rfl
      ((create_handles a.extension now handle correlationId letter media sizeBytes hmeaningful
        fun _ h _ _ => h).imp fun _ h => h.1) hsend hrun
    exact ⟨rfl, (htracks.every.completions _ hdone rfl).decodes hinstance⟩
  | delete handle deviceId correlationId =>
    have htracks := mutation_replied hreach rfl
      ((delete_handles a.extension now handle correlationId deviceId hmeaningful
        fun _ h _ _ => h).imp fun _ h => h.1) hsend hrun
    exact ⟨rfl, (htracks.every.completions _ hdone rfl).decodes hinstance⟩

theorem racedAdapters_nonempty :
    (Driver.afterRun {} Driver.twoAdapters).adapters ≠ [] := by
  decide +kernel

/-- The first of the two adapters, about to be asked for a reservation. -/
def racedAdapter : Adapter :=
  (Driver.afterRun {} Driver.twoAdapters).adapters.head racedAdapters_nonempty

theorem replies_meaningful_reservation : ∃ srb,
    (racedAdapter.nextSrb, srb) ∈
      ((racedAdapter.startIo (Request.reserve wispDiskControlCreateDisk 1).toSrb 0).after
        [.completeRequest 0]).history.completions ∧
      (Request.reserve wispDiskControlCreateDisk 1).Decodes none wispDiskControlCreateDisk
        ((Request.reserve wispDiskControlCreateDisk 1).Refused racedAdapter.extension 0) srb := by
  have hd : Reachable Driver.system Driver.belowLimit (Driver.afterRun {} Driver.twoAdapters) :=
    (Reachable.initial rfl).path
      (Driver.steps_afterRun (by decide +kernel) (by decide +kernel))
  have hroom : racedAdapter.outstanding < maximumNumberOfIo := by decide +kernel
  have hids : ((racedAdapter.startIo (Request.reserve wispDiskControlCreateDisk 1).toSrb 0).after
      [.completeRequest 0]).history.completions.map Prod.fst = [racedAdapter.nextSrb] := by
    decide +kernel
  obtain ⟨⟨id, srb⟩, hmem, hid⟩ :=
    List.mem_map.mp (hids ▸ List.mem_singleton_self racedAdapter.nextSrb)
  rw [show id = racedAdapter.nextSrb from hid] at hmem
  have hsend : racedAdapter.step
      (.startIo (Request.reserve wispDiskControlCreateDisk 1).toSrb 0) =
        some (racedAdapter.startIo (Request.reserve wispDiskControlCreateDisk 1).toSrb 0) := by
    unfold Adapter.step
    exact if_pos hroom
  have hpath : Steps system noRestartDuringTeardown
      (racedAdapter.startIo (Request.reserve wispDiskControlCreateDisk 1).toSrb 0)
      ((racedAdapter.startIo (Request.reserve wispDiskControlCreateDisk 1).toSrb 0).after
        [.completeRequest 0]) := path_after (by decide +kernel) (by decide +kernel)
  have hdone := replies_meaningful hd (List.head_mem racedAdapters_nonempty)
    (.reserve wispDiskControlCreateDisk 1) hsend (hpath.mono fun _ _ _ => trivial) hmem
  exact ⟨srb, hmem, hdone.2⟩

end WispDisk
