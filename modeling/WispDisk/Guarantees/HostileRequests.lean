import WispDisk.Guarantees.Schedules
import WispDisk.Lifecycle.Tails

/-! Hostile control requests. Whatever an IO_CONTROL SRB carries, the driver uses only the bytes of
its data buffer that the envelope covers, completes it with no more data than it came with, and a
malformed request changes nothing. -/
namespace WispDisk
open Layout ControlDispatch ManagementController Transition
set_option autoImplicit false

/-! ## Malformed requests -/

/-- The data buffer does not start with a control envelope that fits into it. -/
inductive ScsiRequestBlock.BadEnvelope (srb : ScsiRequestBlock) : Prop
  | missing (h : srb.dataBuffer = none)
  | short (h : srb.dataTransferLength < SrbIoControl.size)
  | headerLength (buffer : Bytes) (hbuffer : srb.dataBuffer = some buffer)
      (h : (SrbIoControl.read buffer 0).headerLength ≠ SrbIoControl.size)
  | signature (buffer : Bytes) (hbuffer : srb.dataBuffer = some buffer)
      (h : (SrbIoControl.read buffer 0).signature ≠ wispdiskSrbSignature)
  | length (buffer : Bytes) (hbuffer : srb.dataBuffer = some buffer)
      (h : srb.dataTransferLength - SrbIoControl.size < (SrbIoControl.read buffer 0).length)

namespace ControlRequest

/-- The payload is too short for the request or its response, or the header is not the one of a
`request`-byte structure for the control code. -/
def Unreadable (control : ControlRequest) (request response : ULONG) : Prop :=
  let header := RequestHeader.read control.payload 0
  control.ioControl.length < request ∨ control.ioControl.length < response ∨
    header.structSize ≠ request ∨ header.protocolVersion ≠ wispdiskProtocolVersion ∨
    header.operation ≠ control.ioControl.controlCode ∨ header.flags ≠ 0

end ControlRequest

/-- A create parameter out of its range, or a reserved field in use. -/
def OutOfRange (sizeBytes : ULONGLONG) (logicalSectorSize mediaKind : ULONG)
    (requestedDriveLetter reserved16 : USHORT) (reserved32 : ULONG) : Prop :=
  sizeBytes < kMinimumDiskSize ∨ kMaximumDiskSize < sizeBytes ∨
    sizeBytes % kLogicalSectorSize.toUInt64 ≠ 0 ∨ logicalSectorSize ≠ kLogicalSectorSize ∨
    (mediaKind ≠ wispDiskMediaFixed ∧ mediaKind ≠ wispDiskMediaRemovable) ∨
    requestedDriveLetter < 65 ∨ 90 < requestedDriveLetter ∨ reserved16 ≠ 0 ∨ reserved32 ≠ 0

/-- What each control code refuses for its form alone. -/
def ControlRequest.Malformed (control : ControlRequest) : Prop :=
  let code := control.ioControl.controlCode
  if code = Diagnostics.kConfigureControlCode then
    control.Unreadable Diagnostics.Configuration.size ResponseHeader.size
  else if code = Diagnostics.kReadTraceControlCode then
    control.Unreadable RequestHeader.size Diagnostics.traceResponseSize
  else if code = wispDiskControlReserveOperation then
    control.Unreadable ReserveRequest.size OperationResponse.size ∨
      (ReserveRequest.read control.payload 0).reserved ≠ 0
  else if code = wispDiskControlQueryOperation then
    control.Unreadable OperationRequest.size OperationResponse.size
  else if code = wispDiskControlListState then
    control.Unreadable RequestHeader.size StateResponse.size
  else if code = wispDiskControlCreateReserved then
    let request := ReservedCreateRequest.read control.payload 0
    control.Unreadable ReservedCreateRequest.size OperationResponse.size ∨
      OutOfRange request.sizeBytes request.logicalSectorSize request.mediaKind
        request.requestedDriveLetter request.reserved16 request.reserved32
  else if code = wispDiskControlDeleteReserved then
    let request := ReservedDeleteRequest.read control.payload 0
    control.Unreadable ReservedDeleteRequest.size OperationResponse.size ∨
      request.deviceId = 0 ∨ request.reserved ≠ 0
  else if code = wispDiskControlQueryVersion then
    control.Unreadable RequestHeader.size QueryVersionResponse.size
  else if code = wispDiskControlListDisks then
    control.Unreadable RequestHeader.size ListResponse.size
  else if code = wispDiskControlCreateDisk then
    let request := CreateRequest.read control.payload 0
    control.Unreadable CreateRequest.size CreateResponse.size ∨
      OutOfRange request.sizeBytes request.logicalSectorSize request.mediaKind
        request.requestedDriveLetter request.reserved16 request.reserved32
  else if code = wispDiskControlDeleteDisk then
    let request := DeleteRequest.read control.payload 0
    control.Unreadable DeleteRequest.size ResponseHeader.size ∨
      request.deviceId = 0 ∨ request.reserved ≠ 0
  else True

/-! ## Refusals -/

/-- The answer reports an error. -/
def ControlRequest.Failed (control : ControlRequest) : Prop :=
  ntSuccess control.ioControl.returnCode.toInt32 = false

/-- A handler answers with an error and leaves the extension as it is. -/
def Unchanged (ext : AdapterExtension) (outcome : Outcome) : Prop :=
  ∃ reply : ControlRequest, reply.Failed ∧ outcome = .complete ext reply

section Refusals

variable {ext : AdapterExtension} {control : ControlRequest} {status : NTSTATUS}

theorem prepareCompletion_failed (control : ControlRequest) (h : ntSuccess status = false)
    (payloadLength : ULONG) :
    (control.prepareCompletion status payloadLength).Failed := by
  have hcode : (control.prepareCompletion status payloadLength).ioControl.returnCode.toInt32 =
      status := by
    unfold ControlRequest.prepareCompletion
    simp
  unfold ControlRequest.Failed
  rw [hcode]
  exact h

theorem writeResponse_failed (h : ntSuccess status = false) (size : ULONG) (response : Fields) :
    (control.writeResponse size response status).Failed := by
  unfold ControlRequest.writeResponse
  split
  · exact prepareCompletion_failed _ ntSuccess_bufferTooSmall _
  · exact prepareCompletion_failed _ h _

theorem writeError_failed (h : ntSuccess status = false) (operation : ULONG)
    (correlationId : ULONGLONG) : (control.writeError operation status correlationId).Failed := by
  unfold ControlRequest.writeError
  split
  · exact writeResponse_failed h _ _
  · exact prepareCompletion_failed _ h _

theorem unchanged_error (h : ntSuccess status = false) (operation : ULONG)
    (correlationId : ULONGLONG) :
    Unchanged ext (.complete ext (control.writeError operation status correlationId)) :=
  ⟨_, writeError_failed h operation correlationId, rfl⟩

/-- A header that passes the check is the one that was asked for. -/
theorem readAndValidateRequestHeader_ok {request operation : ULONG}
    (h : ntSuccess (readAndValidateRequestHeader control.payload control.ioControl.length request
      operation).1 = true) :
    request ≤ control.ioControl.length ∧
      (RequestHeader.read control.payload 0).structSize = request ∧
      (RequestHeader.read control.payload 0).protocolVersion = wispdiskProtocolVersion ∧
      (RequestHeader.read control.payload 0).operation = operation ∧
      (RequestHeader.read control.payload 0).flags = 0 := by
  have hroom := ControlRequest.readAndValidateRequestHeader_room h
  unfold readAndValidateRequestHeader at h
  split at h
  · cases h
  · simp only at h
    split at h
    · cases h
    · rename_i hheader
      simp only [not_or, not_not] at hheader
      exact ⟨hroom, hheader⟩

/-- An unreadable request fails the header check, or there is no room for its response. -/
theorem unreadable_header {request response operation : ULONG}
    (hoperation : control.ioControl.controlCode = operation)
    (h : control.Unreadable request response) (hroom : response ≤ control.ioControl.length) :
    ntSuccess (readAndValidateRequestHeader control.payload control.ioControl.length request
      operation).1 = false := by
  cases hstatus : ntSuccess (readAndValidateRequestHeader control.payload control.ioControl.length
      request operation).1 with
  | false => rfl
  | true =>
    obtain ⟨hrequest, hsize, hversion, hop, hflags⟩ := readAndValidateRequestHeader_ok hstatus
    rcases h with h | h | h | h | h | h
    · exact absurd h (UInt32.not_lt.mpr hrequest)
    · exact absurd h (UInt32.not_lt.mpr hroom)
    · exact absurd hsize h
    · exact absurd hversion h
    · exact absurd (hop.trans hoperation.symm) h
    · exact absurd hflags h

theorem readOperationRequest_failed {Request : Type} {reply : ControlRequest} {size : ULONG}
    {read : Bytes → ℕ → Request} {initial : Request}
    (h : readOperationRequest control size read initial = .error reply) : reply.Failed := by
  unfold readOperationRequest at h
  simp only at h
  generalize (if ntSuccess (control.readRequest size read initial control.ioControl.controlCode).1 =
    true ∧ control.ioControl.length < OperationResponse.size then statusBufferTooSmall
    else (control.readRequest size read initial control.ioControl.controlCode).1) = status at h
  split at h
  · rename_i hstatus
    cases h
    exact writeError_failed (by rwa [Bool.not_eq_true'] at hstatus) _ _
  · cases h

theorem readOperationRequest_readable {Request : Type} {size : ULONG} {read : Bytes → ℕ → Request}
    {initial request : Request} {header : RequestHeader}
    (h : readOperationRequest control size read initial = .ok (request, header)) :
    ¬ control.Unreadable size OperationResponse.size := by
  intro hunreadable
  have hroom := readOperationRequest_room h
  have hheader := unreadable_header rfl hunreadable hroom
  have hstatus : ntSuccess (control.readRequest size read initial
      control.ioControl.controlCode).1 = false := hheader
  unfold readOperationRequest at h
  simp only [hstatus, Bool.false_eq_true, false_and, if_false, Bool.not_false, if_true] at h
  cases h

theorem outOfRange_unacceptable {request : CreateRequest}
    (h : OutOfRange request.sizeBytes request.logicalSectorSize request.mediaKind
      request.requestedDriveLetter request.reserved16 request.reserved32) :
    request.acceptable = false := by
  unfold OutOfRange at h
  unfold CreateRequest.acceptable
  simp only [Bool.not_eq_false', Bool.or_eq_true, decide_eq_true_eq, bne_iff_ne, ne_eq,
    Bool.and_eq_true]
  tauto

/-- A create validator that finds a bad header or parameters out of range. -/
theorem validateCreateRequest_refused
    (h : control.ioControl.controlCode = wispDiskControlCreateDisk ∧
        control.Unreadable CreateRequest.size CreateResponse.size ∨
      (CreateRequest.read control.payload 0).acceptable = false) :
    ntSuccess (validateCreateRequest control).1 = false := by
  unfold validateCreateRequest
  simp only
  split
  · rename_i hstatus
    rwa [Bool.not_eq_true'] at hstatus
  · rename_i hstatus
    rw [Bool.not_eq_true', Bool.not_eq_false] at hstatus
    have hread : (control.readRequest CreateRequest.size CreateRequest.read {}
        wispDiskControlCreateDisk).2.1 = CreateRequest.read control.payload 0 := if_pos hstatus
    have hrequest : CreateRequest.size ≤ control.ioControl.length :=
      ControlRequest.readAndValidateRequestHeader_room hstatus
    rcases h with ⟨hcode, h⟩ | h
    · have hroom : CreateResponse.size ≤ control.ioControl.length :=
        UInt32.le_trans (by decide) hrequest
      exact absurd (unreadable_header hcode h hroom) (by rw [Bool.not_eq_false]; exact hstatus)
    · rw [hread, h]
      rfl

theorem validateDeleteRequest_refused
    (h : control.ioControl.controlCode = wispDiskControlDeleteDisk ∧
        control.Unreadable DeleteRequest.size ResponseHeader.size ∨
      (DeleteRequest.read control.payload 0).deviceId = 0 ∨
        (DeleteRequest.read control.payload 0).reserved ≠ 0) :
    ntSuccess (validateDeleteRequest control).1 = false := by
  unfold validateDeleteRequest
  simp only
  split
  · rename_i hstatus
    rwa [Bool.not_eq_true'] at hstatus
  · rename_i hstatus
    rw [Bool.not_eq_true', Bool.not_eq_false] at hstatus
    have hread : (control.readRequest DeleteRequest.size DeleteRequest.read {}
        wispDiskControlDeleteDisk).2.1 = DeleteRequest.read control.payload 0 := if_pos hstatus
    have hrequest : DeleteRequest.size ≤ control.ioControl.length :=
      ControlRequest.readAndValidateRequestHeader_room hstatus
    rcases h with ⟨hcode, h⟩ | h
    · have hroom : ResponseHeader.size ≤ control.ioControl.length :=
        UInt32.le_trans (by decide) hrequest
      exact absurd (unreadable_header hcode h hroom) (by rw [Bool.not_eq_false]; exact hstatus)
    · rw [hread, if_pos h]
      rfl

theorem scratch_create (control : ControlRequest) (parameters : CreateRequest) :
    CreateRequest.read (scratch control CreateRequest.size parameters.fields).payload 0 =
      parameters := by
  have hread := CreateRequest.read_encode (fun _ => 0) 0 parameters []
  rwa [List.append_nil] at hread

theorem scratch_delete (control : ControlRequest) (parameters : DeleteRequest) :
    DeleteRequest.read (scratch control DeleteRequest.size parameters.fields).payload 0 =
      parameters := by
  have hread := DeleteRequest.read_encode (fun _ => 0) 0 parameters []
  rwa [List.append_nil] at hread

/-! ## The handlers -/

theorem handleReserveOperation_unchanged
    (h : control.Unreadable ReserveRequest.size OperationResponse.size ∨
      (ReserveRequest.read control.payload 0).reserved ≠ 0) :
    Unchanged ext (handleReserveOperation ext control) := by
  unfold handleReserveOperation
  split
  · rename_i reply hread
    exact ⟨reply, readOperationRequest_failed hread, rfl⟩
  · rename_i request header hread
    have hreserved := h.resolve_left (readOperationRequest_readable hread)
    rw [← readOperationRequest_ok hread] at hreserved
    simp only [if_neg hreserved]
    exact unchanged_error ntSuccess_invalidParameter _ _

theorem handleQueryOperation_unchanged
    (h : control.Unreadable OperationRequest.size OperationResponse.size) :
    Unchanged ext (handleQueryOperation ext control) := by
  unfold handleQueryOperation
  split
  · rename_i reply hread
    exact ⟨reply, readOperationRequest_failed hread, rfl⟩
  · rename_i request header hread
    exact absurd h (readOperationRequest_readable hread)

theorem handleReservedCreateControl_unchanged (now : LONGLONG)
    (h : control.Unreadable ReservedCreateRequest.size OperationResponse.size ∨
      OutOfRange (ReservedCreateRequest.read control.payload 0).sizeBytes
        (ReservedCreateRequest.read control.payload 0).logicalSectorSize
        (ReservedCreateRequest.read control.payload 0).mediaKind
        (ReservedCreateRequest.read control.payload 0).requestedDriveLetter
        (ReservedCreateRequest.read control.payload 0).reserved16
        (ReservedCreateRequest.read control.payload 0).reserved32) :
    Unchanged ext (handleReservedCreateControl ext control now) := by
  unfold handleReservedCreateControl
  split
  · rename_i reply hread
    exact ⟨reply, readOperationRequest_failed hread, rfl⟩
  · rename_i request header hread
    have hrange := h.resolve_left (readOperationRequest_readable hread)
    rw [← readOperationRequest_ok hread] at hrange
    have hparameters : (CreateRequest.read (scratch control CreateRequest.size
        (reservedCreateParameters request).fields).payload 0).acceptable = false := by
      rw [scratch_create]
      exact outOfRange_unacceptable hrange
    have hstatus := validateCreateRequest_refused (Or.inr hparameters)
    simp only [hstatus, Bool.not_false, if_true]
    exact unchanged_error hstatus _ _

theorem handleReservedDeleteControl_unchanged (now : LONGLONG)
    (h : control.Unreadable ReservedDeleteRequest.size OperationResponse.size ∨
      (ReservedDeleteRequest.read control.payload 0).deviceId = 0 ∨
      (ReservedDeleteRequest.read control.payload 0).reserved ≠ 0) :
    Unchanged ext (handleReservedDeleteControl ext control now) := by
  unfold handleReservedDeleteControl
  split
  · rename_i reply hread
    exact ⟨reply, readOperationRequest_failed hread, rfl⟩
  · rename_i request header hread
    have hparameters := h.resolve_left (readOperationRequest_readable hread)
    rw [← readOperationRequest_ok hread] at hparameters
    have hscratch := scratch_delete control (reservedDeleteParameters request)
    have hstatus : ntSuccess (validateDeleteRequest (scratch control DeleteRequest.size
        (reservedDeleteParameters request).fields)).1 = false :=
      validateDeleteRequest_refused (Or.inr (by rw [hscratch]; exact hparameters))
    simp only [hstatus, Bool.not_false, if_true]
    exact unchanged_error hstatus _ _

theorem handleListState_unchanged
    (hcode : control.ioControl.controlCode = wispDiskControlListState)
    (h : control.Unreadable RequestHeader.size StateResponse.size) :
    Unchanged ext (handleListState ext control) := by
  unfold handleListState
  simp only
  split
  · exact unchanged_error ntSuccess_bufferTooSmall _ _
  · rename_i hshort
    have hstatus : ntSuccess (readAndValidateRequestHeader control.payload
        control.ioControl.length RequestHeader.size wispDiskControlListState).1 = false := by
      cases hok : ntSuccess (readAndValidateRequestHeader control.payload
        control.ioControl.length RequestHeader.size wispDiskControlListState).1 with
      | false => rfl
      | true =>
        have hroom := UInt32.not_lt.mp fun hlt => hshort ⟨hok, hlt⟩
        exact hok.symm.trans (unreadable_header hcode h hroom)
    rw [if_pos (by rw [hstatus]; rfl)]
    exact unchanged_error hstatus _ _

theorem handleQueryVersion_unchanged
    (hcode : control.ioControl.controlCode = wispDiskControlQueryVersion)
    (h : control.Unreadable RequestHeader.size QueryVersionResponse.size) :
    Unchanged ext (handleQueryVersion ext control) := by
  unfold handleQueryVersion
  simp only
  split
  · rename_i hstatus
    exact unchanged_error (by rwa [Bool.not_eq_true'] at hstatus) _ _
  · rename_i hstatus
    rw [Bool.not_eq_true', Bool.not_eq_false] at hstatus
    split
    · exact unchanged_error ntSuccess_bufferTooSmall _ _
    · rename_i hroom
      have hrefused := unreadable_header hcode h (UInt32.not_lt.mp hroom)
      exact absurd (hstatus.symm.trans hrefused) Bool.true_eq_false.mp

theorem handleListDisks_unchanged
    (hcode : control.ioControl.controlCode = wispDiskControlListDisks)
    (h : control.Unreadable RequestHeader.size ListResponse.size) :
    Unchanged ext (handleListDisks ext control) := by
  unfold handleListDisks
  simp only
  split
  · split
    · exact unchanged_error ntSuccess_bufferTooSmall _ _
    · rename_i hstatus
      exact unchanged_error (by rwa [Bool.not_eq_true] at hstatus) _ _
  · rename_i hshort
    rw [not_or, Bool.not_eq_true', Bool.not_eq_false] at hshort
    have hrefused := unreadable_header hcode h (UInt32.not_lt.mp hshort.2)
    exact absurd (hshort.1.symm.trans hrefused) Bool.true_eq_false.mp

theorem handleCreateControl_unchanged (now : LONGLONG)
    (hcode : control.ioControl.controlCode = wispDiskControlCreateDisk)
    (h : control.Unreadable CreateRequest.size CreateResponse.size ∨
      OutOfRange (CreateRequest.read control.payload 0).sizeBytes
        (CreateRequest.read control.payload 0).logicalSectorSize
        (CreateRequest.read control.payload 0).mediaKind
        (CreateRequest.read control.payload 0).requestedDriveLetter
        (CreateRequest.read control.payload 0).reserved16
        (CreateRequest.read control.payload 0).reserved32) :
    Unchanged ext (handleCreateControl ext control now) := by
  have hstatus : ntSuccess (validateCreateRequest control).1 = false :=
    validateCreateRequest_refused (h.imp (And.intro hcode) outOfRange_unacceptable)
  unfold handleCreateControl
  simp only [hstatus, Bool.not_false, if_true]
  exact ⟨_, writeResponse_failed hstatus _ _, rfl⟩

theorem handleDeleteControl_unchanged (now : LONGLONG)
    (hcode : control.ioControl.controlCode = wispDiskControlDeleteDisk)
    (h : control.Unreadable DeleteRequest.size ResponseHeader.size ∨
      (DeleteRequest.read control.payload 0).deviceId = 0 ∨
      (DeleteRequest.read control.payload 0).reserved ≠ 0) :
    Unchanged ext (handleDeleteControl ext control now) := by
  have hstatus : ntSuccess (validateDeleteRequest control).1 = false :=
    validateDeleteRequest_refused (h.imp_left (And.intro hcode))
  unfold handleDeleteControl
  simp only [hstatus, Bool.not_false, if_true]
  exact ⟨_, writeResponse_failed hstatus _ _, rfl⟩

/-- Without the Debug state nothing is configured or traced. -/
theorem handleControl_unchanged
    (hcode : control.ioControl.controlCode = Diagnostics.kConfigureControlCode ∧
        control.Unreadable Diagnostics.Configuration.size ResponseHeader.size ∨
      control.ioControl.controlCode ≠ Diagnostics.kConfigureControlCode ∧
        control.Unreadable RequestHeader.size Diagnostics.traceResponseSize) :
    Unchanged ext (.complete (Diagnostics.handleControl ext control).1
      (Diagnostics.handleControl ext control).2) := by
  have hunsupported : ntSuccess statusNotSupported = false := by decide
  unfold Diagnostics.handleControl
  cases ext.debug with
  | none => exact unchanged_error hunsupported _ _
  | some d =>
    rcases hcode with ⟨hcode, h⟩ | ⟨hcode, h⟩
    · simp only [if_pos hcode]
      split
      · rename_i hstatus
        exact unchanged_error (by rwa [Bool.not_eq_true'] at hstatus) _ _
      · rename_i hstatus
        rw [Bool.not_eq_true', Bool.not_eq_false] at hstatus
        split
        · exact unchanged_error ntSuccess_bufferTooSmall _ _
        · rename_i hroom
          have hrefused := unreadable_header rfl h (UInt32.not_lt.mp hroom)
          exact absurd (hstatus.symm.trans hrefused) Bool.true_eq_false.mp
    · simp only [if_neg hcode]
      split
      · rename_i hstatus
        exact unchanged_error (by rwa [Bool.not_eq_true'] at hstatus) _ _
      · rename_i hstatus
        rw [Bool.not_eq_true', Bool.not_eq_false] at hstatus
        split
        · exact unchanged_error ntSuccess_bufferTooSmall _ _
        · rename_i hroom
          have hrefused := unreadable_header rfl h (UInt32.not_lt.mp hroom)
          exact absurd (hstatus.symm.trans hrefused) Bool.true_eq_false.mp

theorem dispatchControlRequest_unchanged (ext : AdapterExtension) (now : LONGLONG)
    (h : control.Malformed) : Unchanged ext (dispatchControlRequest ext control now) := by
  have hunknown : ntSuccess statusInvalidDeviceRequest = false := by decide
  unfold ControlRequest.Malformed at h
  unfold dispatchControlRequest
  simp only at h ⊢
  by_cases hconfigure : control.ioControl.controlCode = Diagnostics.kConfigureControlCode
  · rw [if_pos hconfigure] at h
    rw [if_pos (Or.inl hconfigure)]
    exact handleControl_unchanged (Or.inl ⟨hconfigure, h⟩)
  rw [if_neg hconfigure] at h
  by_cases htrace : control.ioControl.controlCode = Diagnostics.kReadTraceControlCode
  · rw [if_pos htrace] at h
    rw [if_pos (Or.inr htrace)]
    exact handleControl_unchanged (Or.inr ⟨hconfigure, h⟩)
  rw [if_neg htrace] at h
  rw [if_neg (not_or.mpr ⟨hconfigure, htrace⟩)]
  split at h
  · rename_i hcode
    rw [if_pos hcode]
    exact handleReserveOperation_unchanged h
  rename_i hcode
  rw [if_neg hcode]
  split at h
  · rename_i hcode
    rw [if_pos hcode]
    exact handleQueryOperation_unchanged h
  rename_i hcode
  rw [if_neg hcode]
  split at h
  · rename_i hcode
    rw [if_pos hcode]
    exact handleListState_unchanged hcode h
  rename_i hcode
  rw [if_neg hcode]
  split at h
  · rename_i hcode
    rw [if_pos hcode]
    exact handleReservedCreateControl_unchanged now h
  rename_i hcode
  rw [if_neg hcode]
  split at h
  · rename_i hcode
    rw [if_pos hcode]
    exact handleReservedDeleteControl_unchanged now h
  rename_i hcode
  rw [if_neg hcode]
  split at h
  · rename_i hcode
    rw [if_pos hcode]
    exact handleQueryVersion_unchanged hcode h
  rename_i hcode
  rw [if_neg hcode]
  split at h
  · rename_i hcode
    rw [if_pos hcode]
    exact handleListDisks_unchanged hcode h
  rename_i hcode
  rw [if_neg hcode]
  split at h
  · rename_i hcode
    rw [if_pos hcode]
    exact handleCreateControl_unchanged now hcode h
  rename_i hcode
  rw [if_neg hcode]
  split at h
  · rename_i hcode
    rw [if_pos hcode]
    exact handleDeleteControl_unchanged now hcode h
  · rename_i hcode
    rw [if_neg hcode]
    exact unchanged_error hunknown _ _

end Refusals

/-! ## Any control request -/

theorem ScsiRequestBlock.BadEnvelope.fromSrb {srb : ScsiRequestBlock} (h : srb.BadEnvelope) :
    ControlRequest.fromSrb srb = none := by
  unfold ControlRequest.fromSrb
  cases hdata : srb.dataBuffer with
  | none => rfl
  | some buffer =>
    simp only
    by_cases hroom : srb.dataTransferLength < SrbIoControl.size
    · exact if_pos hroom
    rw [if_neg hroom]
    cases h with
    | missing h =>
      rw [h] at hdata
      cases hdata
    | short h => exact absurd h hroom
    | headerLength buffer' hbuffer h =>
      cases hdata.symm.trans hbuffer
      exact if_pos (Or.inl h)
    | signature buffer' hbuffer h =>
      cases hdata.symm.trans hbuffer
      exact if_pos (Or.inr (Or.inl h))
    | length buffer' hbuffer h =>
      cases hdata.symm.trans hbuffer
      exact if_pos (Or.inr (Or.inr h))

/-- What the driver may make of an SRB: no more data than it came with, and the same bytes from the
end of the envelope's payload on. -/
structure ScsiRequestBlock.Within (original srb : ScsiRequestBlock) : Prop where
  transferred : srb.dataTransferLength ≤ original.dataTransferLength
  kept : ∀ buffer buffer', original.dataBuffer = some buffer → srb.dataBuffer = some buffer' →
    ∀ i, extent original ≤ i → buffer' i = buffer i

namespace Adapter

/-- A control SRB does no harm: `reads` is about the bytes behind its extent at every later time,
`writes` about every place the SRB can be in, `envelope` and `refused` about malformed requests. -/
structure Contains (a : Adapter) (srb : ScsiRequestBlock) (now : LONGLONG) : Prop where
  bounded : extent srb ≤ srb.dataTransferLength.toNat
  reads : ∀ tail actions,
    run system (a.startIo (srb.withTail (extent srb) tail) now) actions =
      (run system (a.startIo srb now) actions).map (withTail a.nextSrb (extent srb) tail)
  writes : ∀ actions b, run system (a.startIo srb now) actions = some b →
    b.Every (fun c => c.id ≠ a.nextSrb) (fun s => s.id = a.nextSrb → srb.Within s.control.toSrb)
      fun id srb' => id = a.nextSrb → srb.Within srb'
  envelope : srb.BadEnvelope → a.startIo srb now =
    { a with
      nextSrb := a.nextSrb + 1
      returned := a.returned ++
        [⟨a.nextSrb, { srb with dataTransferLength := 0 }, controlStatus srb⟩] }
  refused : ∀ control, ControlRequest.fromSrb srb = some control → control.Malformed →
    ∃ reply : ControlRequest, reply.Failed ∧ a.startIo srb now =
      { a with
        nextSrb := a.nextSrb + 1
        returned := a.returned ++ [⟨a.nextSrb, reply.toSrb, controlStatus reply.toSrb⟩] }

/-- An answer that leaves the extension alone changes nothing but the SRB. -/
theorem startIo_unchanged (a : Adapter) {srb reply : ScsiRequestBlock} {now : LONGLONG}
    (hcontrol : srb.function = srbFunctionIoControl)
    (h : handleIoControl a.extension srb now = .complete a.extension reply) :
    a.startIo srb now = { a with
      nextSrb := a.nextSrb + 1
      returned := a.returned ++ [⟨a.nextSrb, reply, controlStatus reply⟩] } := by
  unfold startIo
  simp only
  rw [if_pos hcontrol]
  unfold startIoControl reservationOf giveBack
  simp only [h, if_true, List.append_nil]

/-- Replacing the tail of a buffer by itself changes nothing. -/
theorem withTail_own {srb : ScsiRequestBlock} {buffer : Bytes} (h : srb.dataBuffer = some buffer)
    (n : ℕ) : srb.withTail n buffer = srb := by
  unfold ScsiRequestBlock.withTail
  rw [h, Option.map_some, withTail_self, ← h]

theorem map_fixed {α : Type} {f : α → α} {l : List α} (h : l.map f = l) : ∀ x ∈ l, f x = x :=
  List.map_inj_left.mp (h.trans (List.map_id l).symm)

theorem withTail_fixed {srb : ScsiRequestBlock} {n : ℕ} {buffer buffer' : Bytes}
    (h : srb.withTail n buffer = srb) (hbuffer : srb.dataBuffer = some buffer') (i : ℕ)
    (hi : n ≤ i) : buffer' i = buffer i := by
  have hdata : srb.dataBuffer.map (Layout.withTail n buffer) = srb.dataBuffer :=
    congrArg ScsiRequestBlock.dataBuffer h
  rw [hbuffer, Option.map_some] at hdata
  rw [← Option.some.inj hdata]
  exact withTail_above _ _ hi

theorem hostile_control_requests {a : Adapter} (ha : Reachable system anyAction a)
    {srb : ScsiRequestBlock} (hcontrol : srb.function = srbFunctionIoControl) (now : LONGLONG) :
    a.Contains srb now := by
  have hgate := Gate.reachable ha
  have hbelow := Below.reachable ha
  have hconfined := startIo_confined hgate hbelow hcontrol now
  have hreads : ∀ tail actions,
      run system (a.startIo (srb.withTail (extent srb) tail) now) actions =
        (run system (a.startIo srb now) actions).map (withTail a.nextSrb (extent srb) tail) := by
    intro tail actions
    rw [withTail_startIo tail hbelow hcontrol now]
    exact hconfined.withTail_run tail (extent_le srb) actions
  refine ⟨extent_le srb, hreads, fun actions b hrun => ?_, fun h => ?_, fun control hview h => ?_⟩
  · have hb := hconfined.run (extent_le srb) hrun
    -- the run over the SRB's own buffer is the run itself
    have hown : ∀ buffer, srb.dataBuffer = some buffer →
        b.withTail a.nextSrb (extent srb) buffer = b := by
      intro buffer hbuffer
      have hsame := hreads buffer actions
      rw [withTail_own hbuffer, hrun] at hsame
      exact (Option.some.inj hsame).symm
    refine ⟨hb.every.commands, fun s hs hid => ?_, fun r hr hid => ?_, fun e he hid => ?_⟩
    · have hs' := hb.every.submissions s hs hid
      refine ⟨hs'.transferred, fun buffer buffer' hbuffer hbuffer' => ?_⟩
      have hfixed := map_fixed (congrArg Adapter.submissions (hown buffer hbuffer)) s hs
      rw [withTail_submission buffer hid] at hfixed
      have hcontrol' : s.control.withTail (extent srb) buffer = s.control :=
        congrArg Submission.control hfixed
      have h28 : 28 ≤ extent srb := Nat.le_trans (Nat.le_add_right _ _) hs'.fits
      have htoSrb := ControlRequest.withTail_toSrb buffer s.control h28
      rw [hcontrol'] at htoSrb
      exact withTail_fixed htoSrb.symm hbuffer'
    · refine ⟨hb.every.returned r hr hid, fun buffer buffer' hbuffer hbuffer' => ?_⟩
      have hfixed := map_fixed (congrArg Adapter.returned (hown buffer hbuffer)) r hr
      have hsame : r.withTail a.nextSrb (extent srb) buffer =
          { r with srb := r.srb.withTail (extent srb) buffer } := if_pos hid
      rw [hsame] at hfixed
      exact withTail_fixed (congrArg Returned.srb hfixed) hbuffer'
    · refine ⟨hb.every.completions e he hid, fun buffer buffer' hbuffer hbuffer' => ?_⟩
      have hfixed := map_fixed
        (congrArg (fun c : Adapter => c.history.completions) (hown buffer hbuffer)) e he
      have hsame : completionWithTail a.nextSrb (extent srb) buffer e =
          (e.1, e.2.withTail (extent srb) buffer) := if_pos hid
      rw [hsame] at hfixed
      exact withTail_fixed (congrArg Prod.snd hfixed) hbuffer'
  · apply startIo_unchanged a hcontrol
    unfold handleIoControl
    rw [h.fromSrb]
  · obtain ⟨reply, hfailed, hreply⟩ := dispatchControlRequest_unchanged a.extension now h
    refine ⟨reply, hfailed, startIo_unchanged a hcontrol ?_⟩
    unfold handleIoControl
    rw [hview]
    simp only [hreply]

/-- A new adapter, and an envelope whose `Length` reaches behind the buffer. -/
theorem hostile_control_requests_initial :
    (initial 1 false fun _ _ => 0).Contains
      { function := srbFunctionIoControl
        dataTransferLength := 60
        dataBuffer := some (overwrite (fun _ => 0) 0 (encode (SrbIoControl.fields
          { headerLength := SrbIoControl.size
            signature := wispdiskSrbSignature
            controlCode := wispDiskControlCreateDisk
            length := 0xFFFFFFFF }))) } 0 :=
  hostile_control_requests (Reachable.initial ⟨1, false, _, rfl⟩) rfl 0

end Adapter

end WispDisk
