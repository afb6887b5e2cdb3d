import WispDisk.Cli.Args
import WispDisk.Cli.Recovery
import WispDisk.Driver.Envelope

/-! The requests that `adapter/mod.rs` builds, with the `repr(C)` layouts of `protocol.rs`, and what
the driver makes of the bytes: `fromSrb_toSrb` is the control view it takes of a request that has
been sent, and the `reads_…` lemmas are the structures it finds there. -/
namespace WispDisk.Cli
open Layout
set_option autoImplicit false

/-! ## Layouts -/

namespace Repr

def requestHeader (h : RequestHeader) : Fields :=
  [fieldULONG h.structSize, fieldULONG h.protocolVersion, fieldULONG h.operation,
    fieldULONG h.flags, fieldULONGLONG h.correlationId]

def reserveRequest (r : ReserveRequest) : Fields :=
  requestHeader r.header ++ [fieldULONG r.mutation, fieldULONG r.reserved]

def operationRequest (r : OperationRequest) : Fields :=
  requestHeader r.header ++ [fieldULONGLONG r.adapterInstance, fieldULONGLONG r.operationId]

def reservedCreateRequest (r : ReservedCreateRequest) : Fields :=
  operationRequest r.operation ++
    [fieldULONGLONG r.sizeBytes, fieldULONG r.logicalSectorSize, fieldULONG r.mediaKind,
      fieldUSHORT r.requestedDriveLetter, fieldUSHORT r.reserved16, fieldULONG r.reserved32]

def reservedDeleteRequest (r : ReservedDeleteRequest) : Fields :=
  operationRequest r.operation ++ [fieldULONG r.deviceId, fieldULONG r.reserved]

/-! The two languages lay the requests out alike. -/

theorem reserveRequest_eq (r : ReserveRequest) : reserveRequest r = r.fields := rfl

theorem operationRequest_eq (r : OperationRequest) : operationRequest r = r.fields := rfl

theorem reservedCreateRequest_eq (r : ReservedCreateRequest) :
    reservedCreateRequest r = r.fields := rfl

theorem reservedDeleteRequest_eq (r : ReservedDeleteRequest) :
    reservedDeleteRequest r = r.fields := rfl

end Repr

/-! ## Requests -/

/-- `ProtocolMediaKind`. -/
def MediaKind.code : MediaKind → ULONG
  | fixed => 1
  | removable => 2

def logicalSectorSize : ULONG := 512

namespace Request

def queryVersion (correlationId : ULONGLONG) : Request where
  operation := .queryVersion
  correlationId := correlationId
  fields := Repr.requestHeader (ControlOperation.queryVersion.requestHeader correlationId)

/-- The request of `reserve_operation`. -/
def reserve (mutation : ULONG) (correlationId : ULONGLONG) : Request where
  operation := .reserveOperation
  correlationId := correlationId
  fields := Repr.reserveRequest
    { header := ControlOperation.reserveOperation.requestHeader correlationId
      mutation := mutation
      reserved := 0 }

/-- The request of `query_operation`. -/
def query (handle : OperationHandle) (correlationId : ULONGLONG) : Request where
  operation := .queryResult
  correlationId := correlationId
  fields := Repr.operationRequest (ControlOperation.queryResult.operationRequest handle correlationId)

/-- The request of `state`. -/
def listState (correlationId : ULONGLONG) : Request where
  operation := .listState
  correlationId := correlationId
  fields := Repr.requestHeader (ControlOperation.listState.requestHeader correlationId)

/-- The `ReservedCreateRequest` of `create_disk`. -/
def createParameters (handle : OperationHandle) (letter : DriveLetter) (media : MediaKind)
    (sizeBytes : ULONGLONG) (correlationId : ULONGLONG) : ReservedCreateRequest where
  operation := ControlOperation.createReserved.operationRequest handle correlationId
  sizeBytes := sizeBytes
  logicalSectorSize := logicalSectorSize
  mediaKind := media.code
  requestedDriveLetter := letter.asAscii.toUInt16
  reserved16 := 0
  reserved32 := 0

def create (handle : OperationHandle) (letter : DriveLetter) (media : MediaKind)
    (sizeBytes : ULONGLONG) (correlationId : ULONGLONG) : Request where
  operation := .createReserved
  correlationId := correlationId
  fields := Repr.reservedCreateRequest
    (createParameters handle letter media sizeBytes correlationId)

/-- The `ReservedDeleteRequest` of `delete_by_id`. -/
def deleteParameters (handle : OperationHandle) (deviceId : ULONG) (correlationId : ULONGLONG) :
    ReservedDeleteRequest where
  operation := ControlOperation.deleteReserved.operationRequest handle correlationId
  deviceId := deviceId
  reserved := 0

def delete (handle : OperationHandle) (deviceId : ULONG) (correlationId : ULONGLONG) : Request where
  operation := .deleteReserved
  correlationId := correlationId
  fields := Repr.reservedDeleteRequest (deleteParameters handle deviceId correlationId)

end Request

/-! ## What the driver reads -/

namespace Request

/-- The control view of a request that has been sent. -/
def control (request : Request) : ControlRequest where
  srb := request.toSrb
  ioControl := request.envelope
  payload := fun i => request.buffer (28 + i)

theorem fromSrb_toSrb (request : Request) :
    ControlRequest.fromSrb request.toSrb = some request.control := by
  have henvelope : SrbIoControl.read request.buffer 0 = request.envelope :=
    SrbIoControl.read_encode (fun _ => 0) 0 request.envelope request.fields
  have hdata : request.toSrb.dataBuffer = some request.buffer := rfl
  have hlong : ¬ request.toSrb.dataTransferLength < SrbIoControl.size := by
    show ¬ controlBufferSize < SrbIoControl.size
    decide
  unfold ControlRequest.fromSrb
  rw [hdata]
  simp only
  rw [if_neg hlong, henvelope, if_neg]
  · rfl
  · show ¬ (SrbIoControl.size ≠ SrbIoControl.size ∨ wispdiskSrbSignature ≠ wispdiskSrbSignature ∨
      controlBufferSize - SrbIoControl.size < controlBufferSize - SrbIoControl.size)
    decide

/-- The payload starts with the request. -/
theorem payload_overwrite (request : Request) :
    request.control.payload = overwrite (fun _ => 0) 0 (encode request.fields) := by
  have hlength : (encode request.envelope.fields).length = 28 := by
    rw [encode_length, request.envelope.widths]
    rfl
  funext i
  show overwrite (fun _ => 0) 0 (encode (request.envelope.fields ++ request.fields)) (28 + i) = _
  rw [encode_append]
  by_cases hi : i < (encode request.fields).length
  · have hinside := overwrite_inside (fun _ => 0) 0
      (encode request.envelope.fields ++ encode request.fields)
      (i := 28 + i) (by rw [List.length_append]; omega)
    have hinside' := overwrite_inside (fun _ => 0) 0 (encode request.fields) hi
    rw [Nat.zero_add] at hinside hinside'
    rw [hinside, hinside', List.getElem_append_right (by omega)]
    congr 1
    omega
  · have hafter := overwrite_after (fun _ => 0) 0
      (encode request.envelope.fields ++ encode request.fields)
      (i := 28 + i) (by rw [List.length_append]; omega)
    have hafter' := overwrite_after (fun _ => 0) 0 (encode request.fields) (i := i) (by omega)
    rw [hafter, hafter']

/-- A request that starts with the header of its operation. -/
def Headed (request : Request) : Prop :=
  ∃ rest, request.fields =
    (request.operation.requestHeader request.correlationId).fields ++ rest

theorem reserve_headed (mutation : ULONG) (correlationId : ULONGLONG) :
    (reserve mutation correlationId).Headed := ⟨_, rfl⟩

theorem query_headed (handle : OperationHandle) (correlationId : ULONGLONG) :
    (query handle correlationId).Headed := ⟨_, rfl⟩

theorem create_headed (handle : OperationHandle) (letter : DriveLetter) (media : MediaKind)
    (sizeBytes correlationId : ULONGLONG) :
    (create handle letter media sizeBytes correlationId).Headed := ⟨_, rfl⟩

theorem delete_headed (handle : OperationHandle) (deviceId : ULONG) (correlationId : ULONGLONG) :
    (delete handle deviceId correlationId).Headed := ⟨_, rfl⟩

theorem reads_header {request : Request} (h : request.Headed) :
    RequestHeader.read request.control.payload 0 =
      request.operation.requestHeader request.correlationId := by
  obtain ⟨rest, hfields⟩ := h
  rw [payload_overwrite, hfields]
  exact RequestHeader.read_encode (fun _ => 0) 0 _ rest

theorem reads_reserve (mutation : ULONG) (correlationId : ULONGLONG) :
    ReserveRequest.read (reserve mutation correlationId).control.payload 0 =
      { header := ControlOperation.reserveOperation.requestHeader correlationId
        mutation := mutation
        reserved := 0 } := by
  have hread := ReserveRequest.read_encode (fun _ => 0) 0
    { header := ControlOperation.reserveOperation.requestHeader correlationId
      mutation := mutation
      reserved := 0 } []
  rw [payload_overwrite]
  rwa [List.append_nil, ← Repr.reserveRequest_eq] at hread

theorem reads_query (handle : OperationHandle) (correlationId : ULONGLONG) :
    OperationRequest.read (query handle correlationId).control.payload 0 =
      ControlOperation.queryResult.operationRequest handle correlationId := by
  have hread := OperationRequest.read_encode (fun _ => 0) 0
    (ControlOperation.queryResult.operationRequest handle correlationId) []
  rw [payload_overwrite]
  rwa [List.append_nil, ← Repr.operationRequest_eq] at hread

theorem reads_create (handle : OperationHandle) (letter : DriveLetter) (media : MediaKind)
    (sizeBytes correlationId : ULONGLONG) :
    ReservedCreateRequest.read
        (create handle letter media sizeBytes correlationId).control.payload 0 =
      createParameters handle letter media sizeBytes correlationId := by
  have hread := ReservedCreateRequest.read_encode (fun _ => 0) 0
    (createParameters handle letter media sizeBytes correlationId) []
  rw [payload_overwrite]
  rwa [List.append_nil, ← Repr.reservedCreateRequest_eq] at hread

theorem reads_delete (handle : OperationHandle) (deviceId : ULONG) (correlationId : ULONGLONG) :
    ReservedDeleteRequest.read (delete handle deviceId correlationId).control.payload 0 =
      deleteParameters handle deviceId correlationId := by
  have hread := ReservedDeleteRequest.read_encode (fun _ => 0) 0
    (deleteParameters handle deviceId correlationId) []
  rw [payload_overwrite]
  rwa [List.append_nil, ← Repr.reservedDeleteRequest_eq] at hread

/-- The checks that every handler of a reserved operation starts with. -/
theorem readOperationRequest_sent {R : Type} {request : Request} (h : request.Headed)
    {n : ULONG} (hsize : request.operation.requestSize = n) (hlong : RequestHeader.size ≤ n)
    (hshort : n ≤ controlBufferSize - SrbIoControl.size) (read : Bytes → ℕ → R) (initial : R) :
    ControlDispatch.readOperationRequest request.control n read initial =
      .ok (read request.control.payload 0,
        request.operation.requestHeader request.correlationId) := by
  have hvalid : readAndValidateRequestHeader request.control.payload
      request.control.ioControl.length n request.control.ioControl.controlCode =
        (statusSuccess, request.operation.requestHeader request.correlationId) := by
    unfold readAndValidateRequestHeader
    rw [if_neg, reads_header h]
    · simp only
      rw [if_neg]
      rintro (hne | hne | hne | hne)
      · exact hne hsize
      · exact hne rfl
      · exact hne rfl
      · exact hne rfl
    · rintro (hlt | hlt)
      · exact UInt32.not_lt.mpr hshort hlt
      · exact UInt32.not_lt.mpr hlong hlt
  have hroom : ¬ request.control.ioControl.length < OperationResponse.size := by
    show ¬ controlBufferSize - SrbIoControl.size < OperationResponse.size
    decide
  unfold ControlDispatch.readOperationRequest ControlRequest.readRequest
  simp only [hvalid, ntSuccess_success, true_and, if_neg hroom, if_true, Bool.not_true,
    Bool.false_eq_true, if_false]

end Request

end WispDisk.Cli
