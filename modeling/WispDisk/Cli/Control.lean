import WispDisk.Driver.Adapter

/-! The CLI's control requests: the operations of `control_operation.rs`, the errors that its
recovery code tells apart, and the two halves of `Adapter::send`, before and after
`DeviceIoControl`. The structures of `protocol.rs` are those of the shared protocol. -/
namespace WispDisk.Cli
open Layout
set_option autoImplicit false

/-- `OperationHandle`. -/
structure OperationHandle where
  adapterInstance : ULONGLONG
  id : ULONGLONG
  deriving DecidableEq

/-! ## Errors -/

/-- An error with its contexts, the outermost first. `os` is a Win32 call that failed. -/
inductive Error
  | message (text : String)
  | os (action : String) (code : ULONG)
  | driverRejection (status : NTSTATUS)
  | context (text : String) (source : Error)
  | unresolvedOutcome (handle : OperationHandle) (source : Error)
  | recoveryFailure (action : String) (cause source : Error)

namespace Error

/-- `downcast_ref::<DriverRejection>`. -/
def rejection? : Error → Option NTSTATUS
  | message _ => none
  | os _ _ => none
  | driverRejection status => some status
  | context _ source => source.rejection?
  | unresolvedOutcome _ source => source.rejection?
  | recoveryFailure _ _ source => source.rejection?

/-- `downcast_ref::<UnresolvedOutcome>`. -/
def unresolved? : Error → Option OperationHandle
  | message _ => none
  | os _ _ => none
  | driverRejection _ => none
  | context _ source => source.unresolved?
  | unresolvedOutcome handle _ => some handle
  | recoveryFailure _ _ source => source.unresolved?

/-- `raw_os_error` of `downcast_ref::<io::Error>`. -/
def osCode? : Error → Option ULONG
  | message _ => none
  | os _ code => some code
  | driverRejection _ => none
  | context _ source => source.osCode?
  | unresolvedOutcome _ source => source.osCode?
  | recoveryFailure _ _ source => source.osCode?

end Error

/-! ## Operations -/

/-- `ControlOperation`: the code with the sizes of its request and response. -/
structure ControlOperation where
  code : ULONG
  requestSize : ULONG
  responseSize : ULONG
  deriving DecidableEq

namespace ControlOperation

def queryVersion : ControlOperation where
  code := wispDiskControlQueryVersion
  requestSize := RequestHeader.size
  responseSize := QueryVersionResponse.size

def reserveOperation : ControlOperation where
  code := wispDiskControlReserveOperation
  requestSize := ReserveRequest.size
  responseSize := OperationResponse.size

def queryResult : ControlOperation where
  code := wispDiskControlQueryOperation
  requestSize := OperationRequest.size
  responseSize := OperationResponse.size

def listState : ControlOperation where
  code := wispDiskControlListState
  requestSize := RequestHeader.size
  responseSize := StateResponse.size

def createReserved : ControlOperation where
  code := wispDiskControlCreateReserved
  requestSize := ReservedCreateRequest.size
  responseSize := OperationResponse.size

def deleteReserved : ControlOperation where
  code := wispDiskControlDeleteReserved
  requestSize := ReservedDeleteRequest.size
  responseSize := OperationResponse.size

/-- `request_header`, with the correlation ID it drew. -/
def requestHeader (operation : ControlOperation) (correlationId : ULONGLONG) : RequestHeader where
  structSize := operation.requestSize
  protocolVersion := wispdiskProtocolVersion
  operation := operation.code
  flags := 0
  correlationId := correlationId

def operationRequest (operation : ControlOperation) (handle : OperationHandle)
    (correlationId : ULONGLONG) : OperationRequest where
  header := operation.requestHeader correlationId
  adapterInstance := handle.adapterInstance
  operationId := handle.id

end ControlOperation

/-- A request that `send` is given. -/
structure Request where
  operation : ControlOperation
  correlationId : ULONGLONG
  fields : Fields

/-! ## Sending -/

def controlBufferSize : ULONG := 1024
def controlTimeoutSeconds : ULONG := 30

namespace Request

/-- The check that `send` starts with. -/
def fits (request : Request) : Bool :=
  !(controlBufferSize < SrbIoControl.size + request.operation.responseSize ||
    controlBufferSize < SrbIoControl.size + request.operation.requestSize)

def envelope (request : Request) : SrbIoControl where
  headerLength := SrbIoControl.size
  signature := wispdiskSrbSignature
  timeout := controlTimeoutSeconds
  controlCode := request.operation.code
  returnCode := 0
  length := controlBufferSize - SrbIoControl.size

/-- The zeroed buffer with the envelope and the request copied to its front. -/
def buffer (request : Request) : Bytes :=
  overwrite (fun _ => 0) 0 (encode (request.envelope.fields ++ request.fields))

/-- The SRB that the port driver builds for `IOCTL_SCSI_MINIPORT` over the buffer. -/
def toSrb (request : Request) : ScsiRequestBlock where
  function := srbFunctionIoControl
  dataTransferLength := controlBufferSize
  dataBuffer := some request.buffer

end Request

/-! ## Receiving -/

/-- `validate_response_header`. -/
def validateResponseHeader (operation : ULONG) (correlationId : ULONGLONG) (control : SrbIoControl)
    (header : ResponseHeader) : Except Error Unit :=
  if control.headerLength ≠ SrbIoControl.size ∨ control.signature ≠ wispdiskSrbSignature then
    .error (.message "driver returned an invalid SRB control header")
  else if header.protocolVersion ≠ wispdiskProtocolVersion ∨ header.operation ≠ operation ∨
      header.correlationId ≠ correlationId then
    .error (.message "driver response did not match the request")
  else if header.status < 0 ∨ control.returnCode &&& 0x80000000 ≠ 0 then
    .error (.driverRejection
      (if header.status < 0 then header.status else control.returnCode.toInt32))
  else .ok ()

/-- `send` from the return of a successful `DeviceIoControl` on: the payload that holds the
response, or the reason to refuse it. -/
def Request.receive (request : Request) (returned : ULONG) (buffer : Bytes) : Except Error Bytes :=
  let responseSize := request.operation.responseSize
  if returned < SrbIoControl.size + ResponseHeader.size then
    .error (.message ("driver returned a truncated control response (" ++ toString returned ++
      " bytes)"))
  else
    let control := SrbIoControl.read buffer 0
    let payload : Bytes := fun i => buffer (28 + i)
    let header := ResponseHeader.read payload 0
    match validateResponseHeader request.operation.code request.correlationId control header with
    | .error error => .error error
    | .ok () =>
      if returned < SrbIoControl.size + responseSize ∨ control.length < responseSize then
        .error (.message "driver returned a shorter response than its success header promised")
      else if header.structSize ≠ responseSize then
        .error (.message ("driver returned an unexpected response size " ++
          toString header.structSize ++ " (expected " ++ toString responseSize ++ ")"))
      else .ok payload

/-! ## Responses that only the CLI reads -/

def readQueryVersionResponse (m : Bytes) (o : ℕ) : QueryVersionResponse where
  header := ResponseHeader.read m o
  versionMajor := readULONG m (o + 24)
  versionMinor := readULONG m (o + 28)
  capabilities := readULONG m (o + 32)
  maximumDiskCount := readULONG m (o + 36)

def readDiskInfo (m : Bytes) (o : ℕ) : DiskInfo where
  deviceId := readULONG m (o + 0)
  pathId := readUCHAR m (o + 4)
  targetId := readUCHAR m (o + 5)
  lun := readUCHAR m (o + 6)
  reserved8 := readUCHAR m (o + 7)
  sizeBytes := readULONGLONG m (o + 8)
  logicalSectorSize := readULONG m (o + 16)
  mediaKind := readULONG m (o + 20)
  requestedDriveLetter := readUSHORT m (o + 24)
  reserved16 := readUSHORT m (o + 26)

def readDiskState (m : Bytes) (o : ℕ) : DiskState where
  disk := readDiskInfo m o
  createOperationId := readULONGLONG m (o + 32)
  state := readULONG m (o + 40)
  reserved := readULONG m (o + 44)

/-- The whole array of disks is read, whatever the count says. -/
def readStateResponse (m : Bytes) (o : ℕ) : StateResponse where
  header := ResponseHeader.read m o
  adapterInstance := readULONGLONG m (o + 24)
  allocatedBytes := readULONGLONG m (o + 32)
  diskCount := readULONG m (o + 40)
  pendingOperations := readULONG m (o + 44)
  disks := (List.range wispdiskMaximumDiskCount.toNat).map fun i => readDiskState m (o + 48 + 48 * i)

end WispDisk.Cli
