import WispDisk.Cli.Commands
import WispDisk.Cli.Recovery

/-! What `send` makes of the driver's answers to one of its own requests: an error that the driver
wrote is a rejection with its status, an operation response comes through as it was written. -/
namespace WispDisk
open Layout ManagementController
set_option autoImplicit false

namespace Cli.Request

/-- The control view still has the envelope of the request, with room for a response. -/
structure Bears (request : Request) (control : ControlRequest) : Prop where
  header : control.ioControl.headerLength = SrbIoControl.size
  signature : control.ioControl.signature = wispdiskSrbSignature
  code : control.ioControl.controlCode = request.operation.code
  room : OperationResponse.size ≤ control.ioControl.length

variable {request : Request} {control : ControlRequest}

theorem bears_sent (request : Request) : request.Bears request.control where
  header := rfl
  signature := rfl
  code := rfl
  room := by
    show OperationResponse.size ≤ controlBufferSize - SrbIoControl.size
    decide

/-- The SRB as `DeviceIoControl` returns it. -/
def receiveSrb (request : Request) (srb : ScsiRequestBlock) : Except Error Bytes :=
  match srb.dataBuffer with
  | none => .error (.message "driver returned a truncated control response (0 bytes)")
  | some buffer => request.receive srb.dataTransferLength buffer

theorem receiveSrb_congr {srb srb' : ScsiRequestBlock} (hbuffer : srb'.dataBuffer = srb.dataBuffer)
    (hlength : srb'.dataTransferLength = srb.dataTransferLength) :
    request.receiveSrb srb' = request.receiveSrb srb := by
  unfold receiveSrb
  rw [hbuffer, hlength]

/-- The driver has written this error to the request: the status is the return code of the envelope
and stands in the header of the response. -/
def ErrorWritten (request : Request) (status : NTSTATUS) (srb : ScsiRequestBlock) : Prop :=
  ∃ buffer, srb.dataBuffer = some buffer ∧
    (SrbIoControl.read buffer 0).returnCode = status.toUInt32 ∧
    ResponseHeader.read (fun i => buffer (28 + i)) 0 =
      makeResponseHeader ResponseHeader.size request.operation.code status request.correlationId

/-- The driver has written this payload, and success in the envelope. -/
def ResponseWritten (payload : Bytes) (srb : ScsiRequestBlock) : Prop :=
  ∃ buffer, srb.dataBuffer = some buffer ∧
    (SrbIoControl.read buffer 0).returnCode = statusSuccess.toUInt32 ∧
    payload = fun i => buffer (28 + i)

/-- What `send` makes of a response that begins with a header of the request. -/
theorem Bears.receiveSrb_writeResponse (h : request.Bears control) {size : ULONG} {response rest : Fields}
    {status : NTSTATUS} {header : ResponseHeader} (hresponse : response = header.fields ++ rest)
    (hlong : ResponseHeader.size ≤ size) (hroom : size ≤ OperationResponse.size)
    (hversion : header.protocolVersion = wispdiskProtocolVersion)
    (hoperation : header.operation = request.operation.code)
    (hcorrelation : header.correlationId = request.correlationId) :
    request.receiveSrb (control.writeResponse size response status).toSrb =
      if header.status < 0 ∨ status.toUInt32 &&& 0x80000000 ≠ 0 then
        .error (.driverRejection
          (if header.status < 0 then header.status else status.toUInt32.toInt32))
      else if SrbIoControl.size + size < SrbIoControl.size + request.operation.responseSize ∨
          size < request.operation.responseSize then
        .error (.message "driver returned a shorter response than its success header promised")
      else if header.structSize ≠ request.operation.responseSize then
        .error (.message ("driver returned an unexpected response size " ++
          toString header.structSize ++ " (expected " ++
            toString request.operation.responseSize ++ ")"))
      else .ok (overwrite control.payload 0 (encode response)) := by
  have hfits : ¬ control.ioControl.length < size :=
    UInt32.not_lt.mpr (UInt32.le_trans hroom h.room)
  have hreturned : ¬ SrbIoControl.size + size < SrbIoControl.size + ResponseHeader.size := by
    have hlong' := UInt32.le_iff_toNat_le.mp hlong
    have hroom' := UInt32.le_iff_toNat_le.mp hroom
    have hsize : OperationResponse.size.toNat = 64 := rfl
    have hsize' : ResponseHeader.size.toNat = 24 := rfl
    have hsize'' : SrbIoControl.size.toNat = 28 := rfl
    rw [UInt32.lt_iff_toNat_lt, UInt32.toNat_add, UInt32.toNat_add, hsize'', hsize']
    omega
  have hread : ResponseHeader.read (overwrite control.payload 0 (encode response)) 0 = header := by
    rw [hresponse]
    exact ResponseHeader.read_encode _ _ _ _
  unfold ControlRequest.writeResponse
  rw [if_neg hfits]
  generalize hwritten : ({ control with payload := overwrite control.payload 0 (encode response) }
    : ControlRequest).prepareCompletion status size = written
  have hlength : written.srb.dataTransferLength = SrbIoControl.size + size := by rw [← hwritten]; rfl
  have hpayload : written.payload = overwrite control.payload 0 (encode response) := by
    rw [← hwritten]
    rfl
  have hioControl : written.ioControl =
      { control.ioControl with returnCode := status.toUInt32, length := size } := by
    rw [← hwritten]
    rfl
  show request.receive written.srb.dataTransferLength written.buffer = _
  unfold receive
  simp only
  rw [hlength, if_neg hreturned, ControlRequest.buffer_ioControl, ControlRequest.buffer_payload,
    hpayload, hread, hioControl]
  unfold validateResponseHeader
  rw [if_neg (by rw [not_or, not_not, not_not]; exact ⟨h.header, h.signature⟩),
    if_neg (by
      rw [not_or, not_or, not_not, not_not, not_not]
      exact ⟨hversion, hoperation, hcorrelation⟩)]
  simp only
  by_cases hrejected : header.status < 0 ∨ status.toUInt32 &&& 0x80000000 ≠ 0
  · rw [if_pos hrejected, if_pos hrejected]
  · rw [if_neg hrejected, if_neg hrejected]

theorem status_lt_zero {status : NTSTATUS} (h : ntSuccess status = false) : status < 0 := by
  unfold ntSuccess at h
  exact Int32.not_le.mp (of_decide_eq_false h)

/-- What a response that fits leaves in the buffer. -/
theorem Bears.writeResponse_buffer (h : request.Bears control) {size : ULONG} (response : Fields)
    (status : NTSTATUS) (hroom : size ≤ OperationResponse.size) :
    ∃ buffer, (control.writeResponse size response status).toSrb.dataBuffer = some buffer ∧
      (SrbIoControl.read buffer 0).returnCode = status.toUInt32 ∧
      (fun i => buffer (28 + i)) = overwrite control.payload 0 (encode response) := by
  have hfits : ¬ control.ioControl.length < size :=
    UInt32.not_lt.mpr (UInt32.le_trans hroom h.room)
  unfold ControlRequest.writeResponse
  rw [if_neg hfits]
  refine ⟨_, rfl, ?_, ?_⟩
  · rw [ControlRequest.buffer_ioControl]
    rfl
  · rw [ControlRequest.buffer_payload]
    rfl

theorem Bears.errorWritten (h : request.Bears control) (status : NTSTATUS) :
    request.ErrorWritten status
      (control.writeError request.operation.code status request.correlationId).toSrb := by
  have hroom : ResponseHeader.size ≤ control.ioControl.length :=
    UInt32.le_trans (by decide) h.room
  unfold ControlRequest.writeError
  rw [if_pos hroom]
  obtain ⟨buffer, hbuffer, hcode, hpayload⟩ := h.writeResponse_buffer
    (makeResponseHeader ResponseHeader.size request.operation.code status
      request.correlationId).fields status (by decide : ResponseHeader.size ≤ OperationResponse.size)
  refine ⟨buffer, hbuffer, hcode, ?_⟩
  have hread := ResponseHeader.read_encode control.payload 0
    (makeResponseHeader ResponseHeader.size request.operation.code status request.correlationId) []
  rw [List.append_nil] at hread
  rw [hpayload, hread]

/-- An error that the driver wrote is a rejection with its status. -/
theorem Bears.receiveSrb_writeError (h : request.Bears control) {status : NTSTATUS}
    (hfailed : ntSuccess status = false) :
    request.receiveSrb
        (control.writeError request.operation.code status request.correlationId).toSrb =
      .error (.driverRejection status) := by
  have hnegative := status_lt_zero hfailed
  have hroom : ResponseHeader.size ≤ control.ioControl.length :=
    UInt32.le_trans (by decide) h.room
  unfold ControlRequest.writeError
  rw [if_pos hroom, h.receiveSrb_writeResponse (List.append_nil _).symm (by decide) (by decide)
    rfl rfl rfl]
  have hstatus : (makeResponseHeader ResponseHeader.size request.operation.code status
      request.correlationId).status = status := rfl
  rw [hstatus, if_pos (Or.inl hnegative), if_pos hnegative]

/-- An operation response comes through as it was written. -/
theorem Bears.receiveSrb_writeOperationResponse (h : request.Bears control)
    (hsize : request.operation.responseSize = OperationResponse.size) (result : OperationResult) :
    ∃ payload, request.receiveSrb
        (writeOperationResponse control result request.correlationId).toSrb = .ok payload ∧
      ResponseWritten payload
        (writeOperationResponse control result request.correlationId).toSrb ∧
      OperationResponse.read payload 0 =
        operationResponse control result request.correlationId := by
  refine ⟨overwrite control.payload 0
    (encode (operationResponse control result request.correlationId).fields), ?_, ?_, ?_⟩
  · have hfields : (operationResponse control result request.correlationId).fields =
        (operationResponse control result request.correlationId).header.fields ++
          ((operationResponse control result request.correlationId).fields.drop 5) := rfl
    have hsuccess : ¬ ((operationResponse control result request.correlationId).header.status < 0 ∨
        statusSuccess.toUInt32 &&& 0x80000000 ≠ 0) := by
      show ¬ (statusSuccess < 0 ∨ statusSuccess.toUInt32 &&& 0x80000000 ≠ 0)
      decide
    unfold writeOperationResponse
    rw [h.receiveSrb_writeResponse hfields (by decide) (by decide) rfl h.code rfl]
    rw [if_neg hsuccess, hsize, if_neg (by decide)]
    exact if_neg (not_not.mpr rfl)
  · obtain ⟨buffer, hbuffer, hcode, hpayload⟩ := h.writeResponse_buffer
      (operationResponse control result request.correlationId).fields statusSuccess
      (by decide : OperationResponse.size ≤ OperationResponse.size)
    exact ⟨buffer, hbuffer, hcode, hpayload.symm⟩
  · have hread := OperationResponse.read_encode control.payload 0
      (operationResponse control result request.correlationId) []
    rwa [List.append_nil] at hread

end Cli.Request

end WispDisk
