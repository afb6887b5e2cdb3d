import WispDisk.Driver.ManagementController

/-! The protocol handlers of `operation_state.cpp`, `disk_operations.cpp` and `management.cpp`.
A handler either leaves the answered control request or submits a mutation that
`PrepareSubmission` admitted; `handleIoControl` is `WispDiskHandleIoControl`. -/
namespace WispDisk
open Layout
set_option autoImplicit false

namespace ControlDispatch
open ManagementController

/-- What a handler leaves behind: the answered SRB (`Complete`), or an admitted command whose SRB
is about to be queued. -/
inductive Outcome
  | complete (ext : AdapterExtension) (control : ControlRequest)
  | submitted (ext : AdapterExtension) (control : ControlRequest) (command : MutationCommand)

/-- `Submit` up to `StorPortQueueWorkItem`. -/
def submit (ext : AdapterExtension) (control : ControlRequest) (command : MutationCommand)
    (now : LONGLONG) : Outcome :=
  match prepareSubmission ext control command now with
  | .answered ext control => .complete ext control
  | .admitted ext control => .submitted ext control command

/-- `ReadOperationRequest`: the decoded request, or the control request with its error. -/
def readOperationRequest {Request : Type} (control : ControlRequest) (size : ULONG)
    (read : Bytes → ℕ → Request) (initial : Request) :
    Except ControlRequest (Request × RequestHeader) :=
  let operation := control.ioControl.controlCode
  let result := control.readRequest size read initial operation
  let status :=
    if ntSuccess result.1 ∧ control.ioControl.length < OperationResponse.size then
      statusBufferTooSmall
    else result.1
  if !ntSuccess status then .error (control.writeError operation status result.2.2.correlationId)
  else .ok (result.2.1, result.2.2)

def handleReserveOperation (ext : AdapterExtension) (control : ControlRequest) : Outcome :=
  match readOperationRequest control ReserveRequest.size ReserveRequest.read {} with
  | .error control => .complete ext control
  | .ok (request, header) =>
    let reserved :=
      if request.reserved = 0 then reserveOperation ext request.mutation
      else .error statusInvalidParameter
    match reserved with
    | .error status =>
      .complete ext
        (control.writeError wispDiskControlReserveOperation status header.correlationId)
    | .ok (ext, result) =>
      .complete ext (writeOperationResponse control result header.correlationId)

def handleQueryOperation (ext : AdapterExtension) (control : ControlRequest) : Outcome :=
  match readOperationRequest control OperationRequest.size OperationRequest.read {} with
  | .error control => .complete ext control
  | .ok (request, header) =>
    match queryOperation ext request.adapterInstance request.operationId with
    | .error status =>
      .complete ext (control.writeError wispDiskControlQueryOperation status header.correlationId)
    | .ok result => .complete ext (writeOperationResponse control result header.correlationId)

/-- The legacy create request that `HandleReservedCreateControl` rebuilds for the validator. -/
def reservedCreateParameters (request : ReservedCreateRequest) : CreateRequest where
  header := { request.operation.header with
    structSize := CreateRequest.size
    operation := wispDiskControlCreateDisk }
  sizeBytes := request.sizeBytes
  logicalSectorSize := request.logicalSectorSize
  mediaKind := request.mediaKind
  requestedDriveLetter := request.requestedDriveLetter
  reserved16 := request.reserved16
  reserved32 := request.reserved32

def reservedDeleteParameters (request : ReservedDeleteRequest) : DeleteRequest where
  header := { request.operation.header with
    structSize := DeleteRequest.size
    operation := wispDiskControlDeleteDisk }
  deviceId := request.deviceId
  reserved := request.reserved

/-- The validator's view of rebuilt parameters: a scratch envelope over their bytes. -/
def scratch (control : ControlRequest) (size : ULONG) (parameters : Fields) : ControlRequest where
  srb := control.srb
  ioControl := { length := size }
  payload := overwrite (fun _ => 0) 0 (encode parameters)

def handleReservedCreateControl (ext : AdapterExtension) (control : ControlRequest)
    (now : LONGLONG) : Outcome :=
  match readOperationRequest control ReservedCreateRequest.size ReservedCreateRequest.read {} with
  | .error control => .complete ext control
  | .ok (request, header) =>
    let parameters := reservedCreateParameters request
    let (status, validated) :=
      validateCreateRequest (scratch control CreateRequest.size parameters.fields)
    if !ntSuccess status then
      .complete ext (control.writeError wispDiskControlCreateReserved status header.correlationId)
    else
      submit ext control
        { operation := .createReserved, identity := request.operation, create := validated } now

def handleReservedDeleteControl (ext : AdapterExtension) (control : ControlRequest)
    (now : LONGLONG) : Outcome :=
  match readOperationRequest control ReservedDeleteRequest.size ReservedDeleteRequest.read {} with
  | .error control => .complete ext control
  | .ok (request, header) =>
    let parameters := reservedDeleteParameters request
    let (status, validated) :=
      validateDeleteRequest (scratch control DeleteRequest.size parameters.fields)
    if !ntSuccess status then
      .complete ext (control.writeError wispDiskControlDeleteReserved status header.correlationId)
    else
      submit ext control
        { operation := .deleteReserved, identity := request.operation, remove := validated } now

def handleListState (ext : AdapterExtension) (control : ControlRequest) : Outcome :=
  let (status, header) := readAndValidateRequestHeader control.payload control.ioControl.length
    RequestHeader.size wispDiskControlListState
  let status :=
    if ntSuccess status ∧ control.ioControl.length < StateResponse.size then statusBufferTooSmall
    else status
  if !ntSuccess status then
    .complete ext (control.writeError wispDiskControlListState status header.correlationId)
  else
    let response := snapshotState ext
      { header := makeResponseHeader StateResponse.size wispDiskControlListState statusSuccess
          header.correlationId }
    .complete ext (control.writeResponse StateResponse.size response.fields statusSuccess)

def queryVersionResponse (correlationId : ULONGLONG) : QueryVersionResponse where
  header := makeResponseHeader QueryVersionResponse.size wispDiskControlQueryVersion statusSuccess
    correlationId
  versionMajor := 0
  versionMinor := 3
  capabilities := wispdiskCapCreateDelete ||| wispdiskCapReadWrite ||| wispdiskCapRemovable |||
    wispdiskCapOperationRecovery
  maximumDiskCount := UInt32.ofNat kMaximumDiskCount

def handleQueryVersion (ext : AdapterExtension) (control : ControlRequest) : Outcome :=
  let (validation, request) := readAndValidateRequestHeader control.payload
    control.ioControl.length RequestHeader.size wispDiskControlQueryVersion
  if !ntSuccess validation then
    .complete ext (control.writeError wispDiskControlQueryVersion validation request.correlationId)
  else if control.ioControl.length < QueryVersionResponse.size then
    .complete ext
      (control.writeError wispDiskControlQueryVersion statusBufferTooSmall request.correlationId)
  else
    .complete ext (control.writeResponse QueryVersionResponse.size
      (queryVersionResponse request.correlationId).fields statusSuccess)

def handleListDisks (ext : AdapterExtension) (control : ControlRequest) : Outcome :=
  let (validation, request) := readAndValidateRequestHeader control.payload
    control.ioControl.length RequestHeader.size wispDiskControlListDisks
  if !ntSuccess validation ∨ control.ioControl.length < ListResponse.size then
    let status := if ntSuccess validation then statusBufferTooSmall else validation
    .complete ext (control.writeError wispDiskControlListDisks status request.correlationId)
  else
    let response := LunStore.snapshotOnlineDisks ext
      { header := makeResponseHeader ListResponse.size wispDiskControlListDisks statusSuccess
          request.correlationId }
    .complete ext (control.writeResponse ListResponse.size response.fields statusSuccess)

def handleCreateControl (ext : AdapterExtension) (control : ControlRequest) (now : LONGLONG) :
    Outcome :=
  let (status, request) := validateCreateRequest control
  if !ntSuccess status then .complete ext (writeCreateResponse control request status 0 0)
  else submit ext control { operation := .createDisk, create := request } now

def handleDeleteControl (ext : AdapterExtension) (control : ControlRequest) (now : LONGLONG) :
    Outcome :=
  let (status, request) := validateDeleteRequest control
  if !ntSuccess status then .complete ext (writeDeleteResponse control request status)
  else submit ext control { operation := .deleteDisk, remove := request } now

def dispatchControlRequest (ext : AdapterExtension) (control : ControlRequest) (now : LONGLONG) :
    Outcome :=
  let code := control.ioControl.controlCode
  if code = Diagnostics.kConfigureControlCode ∨ code = Diagnostics.kReadTraceControlCode then
    let (ext, control) := Diagnostics.handleControl ext control
    .complete ext control
  else if code = wispDiskControlReserveOperation then handleReserveOperation ext control
  else if code = wispDiskControlQueryOperation then handleQueryOperation ext control
  else if code = wispDiskControlListState then handleListState ext control
  else if code = wispDiskControlCreateReserved then handleReservedCreateControl ext control now
  else if code = wispDiskControlDeleteReserved then handleReservedDeleteControl ext control now
  else if code = wispDiskControlQueryVersion then handleQueryVersion ext control
  else if code = wispDiskControlListDisks then handleListDisks ext control
  else if code = wispDiskControlCreateDisk then handleCreateControl ext control now
  else if code = wispDiskControlDeleteDisk then handleDeleteControl ext control now
  else .complete ext (control.writeError code statusInvalidDeviceRequest 0)

/-- `WispDiskHandleIoControl`: the extension with the SRB to complete, or the admitted command. -/
inductive IoControlOutcome
  | complete (ext : AdapterExtension) (srb : ScsiRequestBlock)
  | submitted (ext : AdapterExtension) (control : ControlRequest) (command : MutationCommand)

def handleIoControl (ext : AdapterExtension) (srb : ScsiRequestBlock) (now : LONGLONG) :
    IoControlOutcome :=
  match ControlRequest.fromSrb srb with
  | none => .complete ext { srb with dataTransferLength := 0 }
  | some control =>
    match dispatchControlRequest ext control now with
    | .complete ext control => .complete ext control.toSrb
    | .submitted ext control command => .submitted ext control command

end ControlDispatch

end WispDisk
