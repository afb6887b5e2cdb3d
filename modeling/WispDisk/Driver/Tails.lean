import WispDisk.Driver.Envelope
import WispDisk.Protocol.Extents

/-! Every control handler commutes with replacing the buffer bytes behind the envelope's `Length`:
what it reads and writes lies before them. -/
namespace WispDisk
open Layout
set_option autoImplicit false

variable {n : ℕ} (tail : Bytes)

namespace ScsiRequestBlock

/-- The SRB over a buffer with other bytes from `n` on. -/
def withTail (n : ℕ) (tail : Bytes) (srb : ScsiRequestBlock) : ScsiRequestBlock :=
  { srb with dataBuffer := srb.dataBuffer.map (Layout.withTail n tail) }

end ScsiRequestBlock

namespace ControlRequest

def withTail (n : ℕ) (tail : Bytes) (control : ControlRequest) : ControlRequest :=
  { control with
    srb := control.srb.withTail n tail
    payload := Layout.withTail (n - 28) (fun i => tail (28 + i)) control.payload }

/-- The envelope and its `Length` payload bytes lie below `n`. -/
def Fits (control : ControlRequest) (n : ℕ) : Prop := 28 + control.ioControl.length.toNat ≤ n

theorem withTail_writeResponse {control : ControlRequest} (h : control.Fits n) {size : ULONG}
    {response : Fields} (hsize : (encode response).length = size.toNat) (status : NTSTATUS) :
    (control.withTail n tail).writeResponse size response status =
      (control.writeResponse size response status).withTail n tail := by
  have hlength : (control.withTail n tail).ioControl.length = control.ioControl.length := rfl
  unfold writeResponse
  rw [hlength]
  split
  · rfl
  · rename_i hroom
    have hfits : size.toNat ≤ control.ioControl.length.toNat :=
      UInt32.le_iff_toNat_le.mp (UInt32.not_lt.mp hroom)
    have hpayload : overwrite (control.withTail n tail).payload 0 (encode response) =
        Layout.withTail (n - 28) (fun i => tail (28 + i))
          (overwrite control.payload 0 (encode response)) := by
      apply overwrite_withTail
      rw [hsize]
      unfold Fits at h
      omega
    rw [hpayload]
    rfl

theorem withTail_writeError {control : ControlRequest} (h : control.Fits n) (operation : ULONG)
    (status : NTSTATUS) (correlationId : ULONGLONG) :
    (control.withTail n tail).writeError operation status correlationId =
      (control.writeError operation status correlationId).withTail n tail := by
  have hlength : (control.withTail n tail).ioControl.length = control.ioControl.length := rfl
  unfold writeError
  rw [hlength]
  split
  · exact withTail_writeResponse tail h (ResponseHeader.encode_length _) status
  · rfl

/-- A structure of the payload that the envelope's `Length` covers. -/
theorem withTail_read {Request : Type} {read : Bytes → ℕ → Request} {size : ℕ}
    (hread : Reads read size) {control : ControlRequest} (h : control.Fits n)
    (hsize : size ≤ control.ioControl.length.toNat) :
    read (control.withTail n tail).payload 0 = read control.payload 0 := by
  unfold Fits at h
  exact hread.withTail _ _ (by omega)

theorem withTail_readHeader {control : ControlRequest} (h : control.Fits n)
    (requiredLength expectedOperation : ULONG) :
    readAndValidateRequestHeader (control.withTail n tail).payload control.ioControl.length
        requiredLength expectedOperation =
      readAndValidateRequestHeader control.payload control.ioControl.length requiredLength
        expectedOperation := by
  unfold readAndValidateRequestHeader
  split
  · rfl
  · rename_i hroom
    rw [not_or, UInt32.not_lt, UInt32.not_lt, UInt32.le_iff_toNat_le, UInt32.le_iff_toNat_le]
      at hroom
    rw [withTail_read tail RequestHeader.reads h (hroom.2.trans hroom.1)]

theorem readAndValidateRequestHeader_room {payload : Bytes}
    {payloadLength requiredLength expectedOperation : ULONG}
    (h : ntSuccess (readAndValidateRequestHeader payload payloadLength requiredLength
      expectedOperation).1 = true) : requiredLength ≤ payloadLength := by
  unfold readAndValidateRequestHeader at h
  split at h
  · cases h
  · rename_i hroom
    rw [not_or, UInt32.not_lt] at hroom
    exact hroom.1

theorem withTail_readRequest {Request : Type} {read : Bytes → ℕ → Request} {size : ULONG}
    (hread : Reads read size.toNat) {control : ControlRequest} (h : control.Fits n)
    (initial : Request) (expectedOperation : ULONG) :
    (control.withTail n tail).readRequest size read initial expectedOperation =
      control.readRequest size read initial expectedOperation := by
  have hlength : (control.withTail n tail).ioControl.length = control.ioControl.length := rfl
  unfold readRequest
  rw [hlength, withTail_readHeader tail h]
  by_cases hstatus : ntSuccess (readAndValidateRequestHeader control.payload
      control.ioControl.length size expectedOperation).1 = true
  · have hroom := UInt32.le_iff_toNat_le.mp (readAndValidateRequestHeader_room hstatus)
    rw [withTail_read tail hread h hroom]
  · simp only [hstatus, Bool.false_eq_true, if_false]

/-! ## Through the SRB -/

theorem withTail_buffer (control : ControlRequest) (hn : 28 ≤ n) :
    (control.withTail n tail).buffer = Layout.withTail n tail control.buffer := by
  funext i
  by_cases hi : i < 28
  · rw [withTail_below _ _ (by omega)]
    unfold buffer
    rw [if_pos hi, if_pos hi]
    rfl
  · obtain ⟨j, rfl⟩ : ∃ j, i = 28 + j := ⟨i - 28, by omega⟩
    have hpayload : ∀ c : ControlRequest, c.buffer (28 + j) = c.payload j :=
      fun c => congrFun (buffer_payload c) j
    have htail : (control.withTail n tail).payload =
        Layout.withTail (n - 28) (fun i => tail (28 + i)) control.payload := rfl
    rw [hpayload, htail]
    by_cases hj : 28 + j < n
    · rw [withTail_below _ _ hj, hpayload, withTail_below _ _ (by omega)]
    · rw [withTail_above _ _ (by omega), withTail_above _ _ (by omega)]

theorem withTail_toSrb (control : ControlRequest) (hn : 28 ≤ n) :
    (control.withTail n tail).toSrb = control.toSrb.withTail n tail := by
  unfold toSrb
  rw [withTail_buffer tail control hn]
  rfl

/-- The decoder of the envelope reads it only from a buffer that is long enough. -/
theorem withTail_fromSrb (srb : ScsiRequestBlock)
    (hn : SrbIoControl.size ≤ srb.dataTransferLength → 28 ≤ n) :
    fromSrb (srb.withTail n tail) = (fromSrb srb).map (withTail n tail) := by
  have hlength : (srb.withTail n tail).dataTransferLength = srb.dataTransferLength := rfl
  have hbuffer : (srb.withTail n tail).dataBuffer =
      srb.dataBuffer.map (Layout.withTail n tail) := rfl
  unfold fromSrb
  rw [hbuffer, hlength]
  cases hdata : srb.dataBuffer with
  | none => rfl
  | some buffer =>
    simp only [Option.map_some]
    by_cases hroom : srb.dataTransferLength < SrbIoControl.size
    · rw [if_pos hroom, if_pos hroom]
      rfl
    · have h28 := hn (UInt32.not_lt.mp hroom)
      have hsize : SrbIoControl.size.toNat = 28 := rfl
      rw [if_neg hroom, if_neg hroom, SrbIoControl.reads.withTail _ _ (by omega)]
      split
      · rfl
      · rw [withTail_shift 28 tail buffer h28]
        rfl

end ControlRequest

/-! ## The validators -/

theorem withTail_validateCreateRequest {control : ControlRequest} (h : control.Fits n) :
    validateCreateRequest (control.withTail n tail) = validateCreateRequest control := by
  unfold validateCreateRequest
  rw [ControlRequest.withTail_readRequest tail CreateRequest.reads h]

theorem withTail_validateDeleteRequest {control : ControlRequest} (h : control.Fits n) :
    validateDeleteRequest (control.withTail n tail) = validateDeleteRequest control := by
  unfold validateDeleteRequest
  rw [ControlRequest.withTail_readRequest tail DeleteRequest.reads h]

theorem withTail_writeCreateResponse {control : ControlRequest} (h : control.Fits n)
    (request : CreateRequest) (status : NTSTATUS) (deviceId : ULONG) (lun : UCHAR) :
    writeCreateResponse (control.withTail n tail) request status deviceId lun =
      (writeCreateResponse control request status deviceId lun).withTail n tail :=
  ControlRequest.withTail_writeResponse tail h (CreateResponse.encode_length _) status

theorem withTail_writeDeleteResponse {control : ControlRequest} (h : control.Fits n)
    (request : DeleteRequest) (status : NTSTATUS) :
    writeDeleteResponse (control.withTail n tail) request status =
      (writeDeleteResponse control request status).withTail n tail :=
  ControlRequest.withTail_writeResponse tail h (ResponseHeader.encode_length _) status

/-! ## The handlers -/

namespace Diagnostics

theorem Configuration.reads : Reads Configuration.read Configuration.size.toNat := by
  intro m m' o h
  have hheader : RequestHeader.read m o = RequestHeader.read m' o :=
    RequestHeader.reads.inside (p := 0) (by decide) h
  unfold Configuration.read
  rw [hheader, reads_readULONG.inside (p := 24) (by decide) h,
    reads_readULONG.inside (p := 28) (by decide) h]

theorem TraceEntry.encode_length (e : TraceEntry) : (encode (TraceEntry.fields e)).length = 40 := by
  rw [Layout.encode_length]
  rfl

theorem traceResponse_encode_length (header : ResponseHeader) (d : DebugState) :
    (encode (traceResponse header d)).length = traceResponseSize.toNat := by
  unfold traceResponse
  rw [encode_append, List.length_append,
    flatMap_encode_length _ (fun index => TraceEntry.encode_length _), List.length_range,
    Layout.encode_length]
  rfl

theorem withTail_handleControl (ext : AdapterExtension) {control : ControlRequest}
    (h : control.Fits n) :
    handleControl ext (control.withTail n tail) =
      ((handleControl ext control).1, (handleControl ext control).2.withTail n tail) := by
  have henvelope : (control.withTail n tail).ioControl = control.ioControl := rfl
  have herror := ControlRequest.withTail_writeError tail h
  have htrace : ∀ header d status,
      (control.withTail n tail).writeResponse traceResponseSize (traceResponse header d) status =
        (control.writeResponse traceResponseSize (traceResponse header d) status).withTail n tail :=
    fun header d => ControlRequest.withTail_writeResponse tail h (traceResponse_encode_length header d)
  unfold handleControl
  simp only [henvelope, herror, htrace, ControlRequest.withTail_readRequest tail Configuration.reads h,
    ControlRequest.withTail_readHeader tail h]
  cases ext.debug with
  | none => rfl
  | some d =>
    simp only
    split
    · split
      · rfl
      · split <;> rfl
    · split
      · rfl
      · split <;> rfl

end Diagnostics

namespace ManagementController

theorem withTail_writeOperationResponse {control : ControlRequest} (h : control.Fits n)
    (result : OperationResult) (correlation : ULONGLONG) :
    writeOperationResponse (control.withTail n tail) result correlation =
      (writeOperationResponse control result correlation).withTail n tail :=
  ControlRequest.withTail_writeResponse tail h (OperationResponse.encode_length _) statusSuccess

theorem withTail_failOperationLocked (ext : AdapterExtension) (id : ULONGLONG) (status : NTSTATUS)
    {control : ControlRequest} (h : control.Fits n) (correlation : ULONGLONG) (now : LONGLONG) :
    failOperationLocked ext id status (control.withTail n tail) correlation now =
      ((failOperationLocked ext id status control correlation now).1,
        (failOperationLocked ext id status control correlation now).2.withTail n tail) := by
  have henvelope : (control.withTail n tail).ioControl = control.ioControl := rfl
  unfold failOperationLocked
  rw [henvelope, ControlRequest.withTail_writeError tail h]
  cases findOperationLocked ext id with
  | none => rfl
  | some i =>
    simp only
    rw [withTail_writeOperationResponse tail h]

theorem withTail_failQueueing (ext : AdapterExtension) {control : ControlRequest}
    (h : control.Fits n) (command : MutationCommand) (now : LONGLONG) :
    failQueueing ext (control.withTail n tail) command now =
      ((failQueueing ext control command now).1,
        (failQueueing ext control command now).2.withTail n tail) := by
  unfold failQueueing
  rw [withTail_failOperationLocked tail ext _ _ h, ControlRequest.withTail_writeError tail h]
  by_cases hkind : command.isReserved = true
  · simp only [hkind, if_true]
  · simp only [hkind, Bool.false_eq_true, if_false]

theorem withTail_publishOperationResult (ext : AdapterExtension) {control : ControlRequest}
    (h : control.Fits n) (snapshot : OperationRecord) (correlation : ULONGLONG) (now : LONGLONG) :
    publishOperationResult ext (control.withTail n tail) snapshot correlation now =
      ((publishOperationResult ext control snapshot correlation now).1,
        (publishOperationResult ext control snapshot correlation now).2.withTail n tail) := by
  have henvelope : (control.withTail n tail).ioControl = control.ioControl := rfl
  unfold publishOperationResult
  rw [henvelope, ControlRequest.withTail_writeError tail h]
  cases findOperationLocked ext snapshot.id with
  | none => rfl
  | some i =>
    simp only
    rw [withTail_writeOperationResponse tail h]

/-- The answer that there is no pending record, over the other tail. -/
theorem withTail_snapshotPendingOperation (ext : AdapterExtension) {control : ControlRequest}
    (h : control.Fits n) (identity : OperationRequest) :
    snapshotPendingOperation ext (control.withTail n tail) identity =
      (snapshotPendingOperation ext control identity).mapError
        (ControlRequest.withTail n tail) := by
  have henvelope : (control.withTail n tail).ioControl = control.ioControl := rfl
  unfold snapshotPendingOperation
  rw [henvelope, ControlRequest.withTail_writeError tail h]
  cases findOperationLocked ext identity.operationId with
  | none => rfl
  | some i =>
    simp only
    split <;> rfl

def Preparation.withTail (n : ℕ) (tail : Bytes) : Preparation → Preparation
  | .answered ext control => .answered ext (control.withTail n tail)
  | .admitted ext control => .admitted ext (control.withTail n tail)

theorem withTail_prepareSubmission (ext : AdapterExtension) {control : ControlRequest}
    (h : control.Fits n) (command : MutationCommand) (now : LONGLONG) :
    prepareSubmission ext (control.withTail n tail) command now =
      (prepareSubmission ext control command now).withTail n tail := by
  unfold prepareSubmission
  simp only [ControlRequest.withTail_writeError tail h, withTail_writeOperationResponse tail h]
  split
  · rfl
  · split
    · cases bindOperationLocked (beginManagementLocked ext).1 command <;> rfl
    · rfl

end ManagementController

namespace ControlDispatch
open ManagementController

def Outcome.withTail (n : ℕ) (tail : Bytes) : Outcome → Outcome
  | .complete ext control => .complete ext (control.withTail n tail)
  | .submitted ext control command => .submitted ext (control.withTail n tail) command

theorem withTail_submit (ext : AdapterExtension) {control : ControlRequest} (h : control.Fits n)
    (command : MutationCommand) (now : LONGLONG) :
    submit ext (control.withTail n tail) command now =
      (submit ext control command now).withTail n tail := by
  unfold submit
  rw [withTail_prepareSubmission tail ext h]
  cases prepareSubmission ext control command now <;> rfl

theorem withTail_readOperationRequest {Request : Type} {read : Bytes → ℕ → Request} {size : ULONG}
    (hread : Reads read size.toNat) {control : ControlRequest} (h : control.Fits n)
    (initial : Request) :
    readOperationRequest (control.withTail n tail) size read initial =
      (readOperationRequest control size read initial).mapError (ControlRequest.withTail n tail) := by
  have henvelope : (control.withTail n tail).ioControl = control.ioControl := rfl
  unfold readOperationRequest
  simp only [henvelope, ControlRequest.withTail_readRequest tail hread h,
    ControlRequest.withTail_writeError tail h]
  split
  · rfl
  · split <;> rfl

theorem withTail_handleReserveOperation (ext : AdapterExtension) {control : ControlRequest}
    (h : control.Fits n) :
    handleReserveOperation ext (control.withTail n tail) =
      (handleReserveOperation ext control).withTail n tail := by
  unfold handleReserveOperation
  rw [withTail_readOperationRequest tail ReserveRequest.reads h]
  simp only [ControlRequest.withTail_writeError tail h, withTail_writeOperationResponse tail h]
  cases readOperationRequest control ReserveRequest.size ReserveRequest.read {} with
  | error reply => rfl
  | ok found =>
    simp only [Except.mapError]
    split <;> rfl

theorem withTail_handleQueryOperation (ext : AdapterExtension) {control : ControlRequest}
    (h : control.Fits n) :
    handleQueryOperation ext (control.withTail n tail) =
      (handleQueryOperation ext control).withTail n tail := by
  unfold handleQueryOperation
  rw [withTail_readOperationRequest tail OperationRequest.reads h]
  simp only [ControlRequest.withTail_writeError tail h, withTail_writeOperationResponse tail h]
  cases readOperationRequest control OperationRequest.size OperationRequest.read {} with
  | error reply => rfl
  | ok found =>
    simp only [Except.mapError]
    split <;> rfl

/-- The scratch request is rebuilt from the decoded one, not from the buffer. -/
theorem withTail_scratch_create (control : ControlRequest) (size : ULONG) (parameters : Fields) :
    validateCreateRequest (scratch (control.withTail n tail) size parameters) =
      validateCreateRequest (scratch control size parameters) := rfl

theorem withTail_scratch_delete (control : ControlRequest) (size : ULONG) (parameters : Fields) :
    validateDeleteRequest (scratch (control.withTail n tail) size parameters) =
      validateDeleteRequest (scratch control size parameters) := rfl

theorem withTail_handleReservedCreateControl (ext : AdapterExtension) {control : ControlRequest}
    (h : control.Fits n) (now : LONGLONG) :
    handleReservedCreateControl ext (control.withTail n tail) now =
      (handleReservedCreateControl ext control now).withTail n tail := by
  unfold handleReservedCreateControl
  rw [withTail_readOperationRequest tail ReservedCreateRequest.reads h]
  simp only [ControlRequest.withTail_writeError tail h, withTail_scratch_create,
    withTail_submit tail ext h]
  cases readOperationRequest control ReservedCreateRequest.size ReservedCreateRequest.read {} with
  | error reply => rfl
  | ok found =>
    simp only [Except.mapError]
    split <;> rfl

theorem withTail_handleReservedDeleteControl (ext : AdapterExtension) {control : ControlRequest}
    (h : control.Fits n) (now : LONGLONG) :
    handleReservedDeleteControl ext (control.withTail n tail) now =
      (handleReservedDeleteControl ext control now).withTail n tail := by
  unfold handleReservedDeleteControl
  rw [withTail_readOperationRequest tail ReservedDeleteRequest.reads h]
  simp only [ControlRequest.withTail_writeError tail h, withTail_scratch_delete,
    withTail_submit tail ext h]
  cases readOperationRequest control ReservedDeleteRequest.size ReservedDeleteRequest.read {} with
  | error reply => rfl
  | ok found =>
    simp only [Except.mapError]
    split <;> rfl

theorem snapshotState_room (ext : AdapterExtension) (response : StateResponse) :
    (snapshotState ext response).disks.length ≤ 16 := by
  have hindices : LunStore.indices.length = 16 := List.length_finRange
  unfold snapshotState LunStore.snapshotStateLocked LunStore.ownedLuns
  rw [List.length_map, ← hindices]
  exact List.length_filter_le _ _

theorem snapshotOnlineDisks_room (ext : AdapterExtension) (response : ListResponse) :
    (LunStore.snapshotOnlineDisks ext response).disks.length ≤ 16 := by
  have hindices : LunStore.indices.length = 16 := List.length_finRange
  unfold LunStore.snapshotOnlineDisks LunStore.onlineLuns
  rw [List.length_map, ← hindices]
  exact List.length_filter_le _ _

theorem withTail_handleListState (ext : AdapterExtension) {control : ControlRequest}
    (h : control.Fits n) :
    handleListState ext (control.withTail n tail) =
      (handleListState ext control).withTail n tail := by
  have henvelope : (control.withTail n tail).ioControl = control.ioControl := rfl
  have hresponse : ∀ response status, (control.withTail n tail).writeResponse StateResponse.size
      (snapshotState ext response).fields status =
        (control.writeResponse StateResponse.size (snapshotState ext response).fields
          status).withTail n tail := fun response =>
    ControlRequest.withTail_writeResponse tail h
      (StateResponse.encode_length _ (snapshotState_room ext response))
  unfold handleListState
  simp only [henvelope, hresponse, ControlRequest.withTail_writeError tail h,
    ControlRequest.withTail_readHeader tail h]
  split
  · rfl
  · split <;> rfl

theorem withTail_handleQueryVersion (ext : AdapterExtension) {control : ControlRequest}
    (h : control.Fits n) :
    handleQueryVersion ext (control.withTail n tail) =
      (handleQueryVersion ext control).withTail n tail := by
  have henvelope : (control.withTail n tail).ioControl = control.ioControl := rfl
  have hresponse : ∀ correlationId status, (control.withTail n tail).writeResponse
      QueryVersionResponse.size (queryVersionResponse correlationId).fields status =
        (control.writeResponse QueryVersionResponse.size (queryVersionResponse correlationId).fields
          status).withTail n tail := fun correlationId =>
    ControlRequest.withTail_writeResponse tail h (QueryVersionResponse.encode_length _)
  unfold handleQueryVersion
  simp only [henvelope, hresponse, ControlRequest.withTail_writeError tail h,
    ControlRequest.withTail_readHeader tail h]
  split
  · rfl
  · split <;> rfl

theorem withTail_handleListDisks (ext : AdapterExtension) {control : ControlRequest}
    (h : control.Fits n) :
    handleListDisks ext (control.withTail n tail) =
      (handleListDisks ext control).withTail n tail := by
  have henvelope : (control.withTail n tail).ioControl = control.ioControl := rfl
  have hresponse : ∀ response status, (control.withTail n tail).writeResponse ListResponse.size
      (LunStore.snapshotOnlineDisks ext response).fields status =
        (control.writeResponse ListResponse.size (LunStore.snapshotOnlineDisks ext response).fields
          status).withTail n tail := fun response =>
    ControlRequest.withTail_writeResponse tail h
      (ListResponse.encode_length _ (snapshotOnlineDisks_room ext response))
  unfold handleListDisks
  simp only [henvelope, hresponse, ControlRequest.withTail_writeError tail h,
    ControlRequest.withTail_readHeader tail h]
  split <;> rfl

theorem withTail_handleCreateControl (ext : AdapterExtension) {control : ControlRequest}
    (h : control.Fits n) (now : LONGLONG) :
    handleCreateControl ext (control.withTail n tail) now =
      (handleCreateControl ext control now).withTail n tail := by
  unfold handleCreateControl
  simp only [withTail_validateCreateRequest tail h, withTail_writeCreateResponse tail h,
    withTail_submit tail ext h]
  split <;> rfl

theorem withTail_handleDeleteControl (ext : AdapterExtension) {control : ControlRequest}
    (h : control.Fits n) (now : LONGLONG) :
    handleDeleteControl ext (control.withTail n tail) now =
      (handleDeleteControl ext control now).withTail n tail := by
  unfold handleDeleteControl
  simp only [withTail_validateDeleteRequest tail h, withTail_writeDeleteResponse tail h,
    withTail_submit tail ext h]
  split <;> rfl

theorem withTail_dispatchControlRequest (ext : AdapterExtension) {control : ControlRequest}
    (h : control.Fits n) (now : LONGLONG) :
    dispatchControlRequest ext (control.withTail n tail) now =
      (dispatchControlRequest ext control now).withTail n tail := by
  have henvelope : (control.withTail n tail).ioControl = control.ioControl := rfl
  unfold dispatchControlRequest
  simp only [henvelope]
  split
  · rw [Diagnostics.withTail_handleControl tail ext h]
    rfl
  split
  · exact withTail_handleReserveOperation tail ext h
  split
  · exact withTail_handleQueryOperation tail ext h
  split
  · exact withTail_handleListState tail ext h
  split
  · exact withTail_handleReservedCreateControl tail ext h now
  split
  · exact withTail_handleReservedDeleteControl tail ext h now
  split
  · exact withTail_handleQueryVersion tail ext h
  split
  · exact withTail_handleListDisks tail ext h
  split
  · exact withTail_handleCreateControl tail ext h now
  split
  · exact withTail_handleDeleteControl tail ext h now
  · rw [ControlRequest.withTail_writeError tail h]
    rfl

def IoControlOutcome.withTail (n : ℕ) (tail : Bytes) : IoControlOutcome → IoControlOutcome
  | .complete ext srb => .complete ext (srb.withTail n tail)
  | .submitted ext control command => .submitted ext (control.withTail n tail) command

/-- The bytes of the data buffer that a control request may use: the envelope, and as much payload
as its `Length` says once it has been checked. -/
def extent (srb : ScsiRequestBlock) : ℕ :=
  match ControlRequest.fromSrb srb with
  | some control => 28 + control.ioControl.length.toNat
  | none => min 28 srb.dataTransferLength.toNat

theorem extent_le (srb : ScsiRequestBlock) : extent srb ≤ srb.dataTransferLength.toNat := by
  unfold extent
  cases hview : ControlRequest.fromSrb srb with
  | none => exact Nat.min_le_right _ _
  | some control =>
    obtain ⟨henveloped, hsrb⟩ := ControlRequest.fromSrb_enveloped hview
    have hroom := henveloped.room
    have hfits := henveloped.fits
    rw [hsrb] at hroom hfits
    have hsub := UInt32.toNat_sub_of_le _ _ hroom
    have hfits' := UInt32.le_iff_toNat_le.mp hfits
    have hroom' := UInt32.le_iff_toNat_le.mp hroom
    have h28 : SrbIoControl.size.toNat = 28 := rfl
    simp only
    omega

theorem fits_extent {srb : ScsiRequestBlock} {control : ControlRequest}
    (h : ControlRequest.fromSrb srb = some control) : control.Fits (extent srb) := by
  unfold ControlRequest.Fits extent
  rw [h]

theorem withTail_handleIoControl (ext : AdapterExtension) (srb : ScsiRequestBlock) (now : LONGLONG) :
    handleIoControl ext (srb.withTail (extent srb) tail) now =
      (handleIoControl ext srb now).withTail (extent srb) tail := by
  have hview : ControlRequest.fromSrb (srb.withTail (extent srb) tail) =
      (ControlRequest.fromSrb srb).map (ControlRequest.withTail (extent srb) tail) := by
    apply ControlRequest.withTail_fromSrb
    intro hroom
    have hroom' := UInt32.le_iff_toNat_le.mp hroom
    have h28 : SrbIoControl.size.toNat = 28 := rfl
    unfold extent
    cases ControlRequest.fromSrb srb with
    | none => simp only; omega
    | some control => simp only; omega
  unfold handleIoControl
  rw [hview]
  cases hcontrol : ControlRequest.fromSrb srb with
  | none => rfl
  | some control =>
    have hfits := fits_extent hcontrol
    have h28 : 28 ≤ extent srb := by
      unfold ControlRequest.Fits at hfits
      omega
    simp only [Option.map_some]
    rw [withTail_dispatchControlRequest tail ext hfits]
    cases dispatchControlRequest ext control now with
    | submitted ext control command => rfl
    | complete ext control =>
      simp only [Outcome.withTail, IoControlOutcome.withTail]
      rw [ControlRequest.withTail_toSrb tail control h28]

end ControlDispatch

end WispDisk
