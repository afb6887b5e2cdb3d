import WispDisk.Driver.Extension

/-! The SRB, the control view of its data buffer (`control_request.h/.cpp`) and the request
validators. A `ControlRequest` holds the envelope and the payload that the source reaches through
pointers into the buffer; `toSrb` is the SRB with what has been written through them. -/
namespace WispDisk
open Layout
set_option autoImplicit false

def srbStatusPending : UCHAR := 0x00
def srbStatusSuccess : UCHAR := 0x01
def srbStatusError : UCHAR := 0x04
def srbStatusInvalidRequest : UCHAR := 0x06
def srbStatusNoDevice : UCHAR := 0x08
def srbStatusDataOverrun : UCHAR := 0x12
def srbStatusAutosenseValid : UCHAR := 0x80

def scsistatGood : UCHAR := 0x00
def scsistatCheckCondition : UCHAR := 0x02

/-- The `SCSI_REQUEST_BLOCK` fields the driver uses. A buffer is memory from its address on. -/
structure ScsiRequestBlock where
  function : UCHAR := 0
  srbStatus : UCHAR := srbStatusPending
  scsiStatus : UCHAR := 0
  pathId : UCHAR := 0
  targetId : UCHAR := 0
  lun : UCHAR := 0
  cdbLength : UCHAR := 0
  senseInfoBufferLength : UCHAR := 0
  dataTransferLength : ULONG := 0
  dataBuffer : Option Bytes := none
  senseInfoBuffer : Option Bytes := none
  cdb : Bytes := fun _ => 0

structure ControlRequest where
  srb : ScsiRequestBlock
  ioControl : SrbIoControl
  payload : Bytes

namespace ControlRequest

/-- `ControlRequest::FromSrb`; `none` is the empty view. -/
def fromSrb (srb : ScsiRequestBlock) : Option ControlRequest :=
  match srb.dataBuffer with
  | none => none
  | some buffer =>
    if srb.dataTransferLength < SrbIoControl.size then none
    else
      let envelope := SrbIoControl.read buffer 0
      if envelope.headerLength ≠ SrbIoControl.size ∨ envelope.signature ≠ wispdiskSrbSignature ∨
          srb.dataTransferLength - SrbIoControl.size < envelope.length then none
      else some { srb := srb, ioControl := envelope, payload := fun i => buffer (28 + i) }

/-- The data buffer under the view: the envelope, then the payload. -/
def buffer (control : ControlRequest) : Bytes :=
  fun i =>
    if i < 28 then overwrite (fun _ => 0) 0 (encode control.ioControl.fields) i
    else control.payload (i - 28)

def toSrb (control : ControlRequest) : ScsiRequestBlock :=
  { control.srb with dataBuffer := some control.buffer }

def prepareCompletion (control : ControlRequest) (status : NTSTATUS) (payloadLength : ULONG) :
    ControlRequest :=
  { control with
    ioControl := { control.ioControl with
      returnCode := status.toUInt32
      length := payloadLength }
    srb := { control.srb with
      dataTransferLength := SrbIoControl.size + payloadLength
      scsiStatus := scsistatGood
      srbStatus := srbStatusSuccess } }

/-- `ControlRequest::WriteResponse` of a structure given by its size and fields. -/
def writeResponse (control : ControlRequest) (size : ULONG) (response : Fields)
    (status : NTSTATUS) : ControlRequest :=
  if control.ioControl.length < size then control.prepareCompletion statusBufferTooSmall 0
  else
    { control with payload := overwrite control.payload 0 (encode response) }.prepareCompletion
      status size

end ControlRequest

def makeResponseHeader (structureSize operation : ULONG) (status : NTSTATUS)
    (correlationId : ULONGLONG) : ResponseHeader where
  structSize := structureSize
  protocolVersion := wispdiskProtocolVersion
  operation := operation
  status := status
  correlationId := correlationId

/-- `ReadAndValidateRequestHeader`; the header stays zero unless the payload is long enough. -/
def readAndValidateRequestHeader (payload : Bytes) (payloadLength requiredLength : ULONG)
    (expectedOperation : ULONG) : NTSTATUS × RequestHeader :=
  if payloadLength < requiredLength ∨ requiredLength < RequestHeader.size then
    (statusBufferTooSmall, {})
  else
    let header := RequestHeader.read payload 0
    if header.structSize ≠ requiredLength ∨ header.protocolVersion ≠ wispdiskProtocolVersion ∨
        header.operation ≠ expectedOperation ∨ header.flags ≠ 0 then
      (statusInvalidParameter, header)
    else (statusSuccess, header)

namespace ControlRequest

/-- `ControlRequest::ReadRequest` of a structure given by its size and reader: the status, the
request (the initial one unless the status is a success) and the header. -/
def readRequest {Request : Type} (control : ControlRequest) (size : ULONG)
    (read : Bytes → ℕ → Request) (initial : Request) (expectedOperation : ULONG) :
    NTSTATUS × Request × RequestHeader :=
  let result := readAndValidateRequestHeader control.payload control.ioControl.length size
    expectedOperation
  (result.1, if ntSuccess result.1 then read control.payload 0 else initial, result.2)

def writeError (control : ControlRequest) (operation : ULONG) (status : NTSTATUS)
    (correlationId : ULONGLONG) : ControlRequest :=
  if ResponseHeader.size ≤ control.ioControl.length then
    control.writeResponse ResponseHeader.size
      (makeResponseHeader ResponseHeader.size operation status correlationId).fields status
  else control.prepareCompletion status 0

end ControlRequest

/-- The parameter check of `ValidateCreateRequest`. -/
def CreateRequest.acceptable (request : CreateRequest) : Bool :=
  !(request.sizeBytes < kMinimumDiskSize || kMaximumDiskSize < request.sizeBytes ||
    request.sizeBytes % kLogicalSectorSize.toUInt64 != 0 ||
    request.logicalSectorSize != kLogicalSectorSize ||
    (request.mediaKind != wispDiskMediaFixed && request.mediaKind != wispDiskMediaRemovable) ||
    request.requestedDriveLetter < 65 || 90 < request.requestedDriveLetter ||
    request.reserved16 != 0 || request.reserved32 != 0)

def validateCreateRequest (control : ControlRequest) : NTSTATUS × CreateRequest :=
  let result := control.readRequest CreateRequest.size CreateRequest.read {}
    wispDiskControlCreateDisk
  if !ntSuccess result.1 then (result.1, { result.2.1 with header := result.2.2 })
  else if !result.2.1.acceptable then (statusInvalidParameter, result.2.1)
  else (statusSuccess, result.2.1)

def validateDeleteRequest (control : ControlRequest) : NTSTATUS × DeleteRequest :=
  let result := control.readRequest DeleteRequest.size DeleteRequest.read {}
    wispDiskControlDeleteDisk
  if !ntSuccess result.1 then (result.1, { result.2.1 with header := result.2.2 })
  else if result.2.1.deviceId = 0 ∨ result.2.1.reserved ≠ 0 then
    (statusInvalidParameter, result.2.1)
  else (statusSuccess, result.2.1)

def writeCreateResponse (control : ControlRequest) (request : CreateRequest) (status : NTSTATUS)
    (deviceId : ULONG) (lun : UCHAR) : ControlRequest :=
  control.writeResponse CreateResponse.size
    { header := makeResponseHeader CreateResponse.size wispDiskControlCreateDisk status
        request.header.correlationId
      deviceId := deviceId
      lun := lun : CreateResponse }.fields status

def writeDeleteResponse (control : ControlRequest) (request : DeleteRequest) (status : NTSTATUS) :
    ControlRequest :=
  control.writeResponse ResponseHeader.size
    (makeResponseHeader ResponseHeader.size wispDiskControlDeleteDisk status
      request.header.correlationId).fields status

end WispDisk
