import WispDisk.Foundations.Layout

/-! The shared wire protocol: Windows integer types, status and control codes, and the packed
message structures of `wispdisk_protocol.h` with their byte layouts. Every structure has a `read`
at an offset of byte memory and a `fields` list whose encoding is its wire image; the round trip
`T.read_encode` is what a receiver of a copied structure relies on. -/
namespace WispDisk
open Layout
set_option autoImplicit false

/-! ## Integer types -/

abbrev UCHAR := UInt8
abbrev USHORT := UInt16
abbrev ULONG := UInt32
abbrev LONGLONG := UInt64
abbrev ULONGLONG := UInt64
abbrev NTSTATUS := Int32

/-- `NT_SUCCESS`. -/
def ntSuccess (status : NTSTATUS) : Bool := decide (0 ≤ status)

def statusSuccess : NTSTATUS := 0
def statusPending : NTSTATUS := 0x103
def statusDeviceBusy : NTSTATUS := (0x80000011 : UInt32).toInt32
def statusInvalidParameter : NTSTATUS := (0xC000000D : UInt32).toInt32
def statusNoSuchDevice : NTSTATUS := (0xC000000E : UInt32).toInt32
def statusInvalidDeviceRequest : NTSTATUS := (0xC0000010 : UInt32).toInt32
def statusBufferTooSmall : NTSTATUS := (0xC0000023 : UInt32).toInt32
def statusQuotaExceeded : NTSTATUS := (0xC0000044 : UInt32).toInt32
def statusInsufficientResources : NTSTATUS := (0xC000009A : UInt32).toInt32
def statusDeviceNotReady : NTSTATUS := (0xC00000A3 : UInt32).toInt32
def statusNotSupported : NTSTATUS := (0xC00000BB : UInt32).toInt32
def statusNotFound : NTSTATUS := (0xC0000225 : UInt32).toInt32

@[simp] theorem ntSuccess_success : ntSuccess statusSuccess = true := by decide
@[simp] theorem ntSuccess_deviceBusy : ntSuccess statusDeviceBusy = false := by decide
@[simp] theorem ntSuccess_invalidParameter : ntSuccess statusInvalidParameter = false := by decide
@[simp] theorem ntSuccess_noSuchDevice : ntSuccess statusNoSuchDevice = false := by decide
@[simp] theorem ntSuccess_bufferTooSmall : ntSuccess statusBufferTooSmall = false := by decide
@[simp] theorem ntSuccess_quotaExceeded : ntSuccess statusQuotaExceeded = false := by decide
@[simp] theorem ntSuccess_insufficientResources :
    ntSuccess statusInsufficientResources = false := by decide
@[simp] theorem ntSuccess_deviceNotReady : ntSuccess statusDeviceNotReady = false := by decide
@[simp] theorem ntSuccess_notFound : ntSuccess statusNotFound = false := by decide

/-! ## Constants -/

def wispdiskProtocolVersion : ULONG := 1
def wispdiskMaximumDiskCount : ULONG := 16

def wispdiskCapCreateDelete : ULONG := 0x00000001
def wispdiskCapReadWrite : ULONG := 0x00000002
def wispdiskCapRemovable : ULONG := 0x00000004
def wispdiskCapOperationRecovery : ULONG := 0x00000008

def wispDiskControlQueryVersion : ULONG := 0x800
def wispDiskControlCreateDisk : ULONG := 0x801
def wispDiskControlDeleteDisk : ULONG := 0x802
def wispDiskControlListDisks : ULONG := 0x803
def wispDiskControlReserveOperation : ULONG := 0x804
def wispDiskControlQueryOperation : ULONG := 0x805
def wispDiskControlCreateReserved : ULONG := 0x806
def wispDiskControlDeleteReserved : ULONG := 0x807
def wispDiskControlListState : ULONG := 0x808

def wispDiskMediaFixed : ULONG := 1
def wispDiskMediaRemovable : ULONG := 2

/-- `WISPDISK_OPERATION_STATE`; `unset` is the zero of a record no reservation has used. -/
inductive OperationState
  | unset
  | reserved
  | pending
  | succeeded
  | failed
  | deleted
  deriving DecidableEq, Repr

def OperationState.code : OperationState → ULONG
  | unset => 0
  | reserved => 1
  | pending => 2
  | succeeded => 3
  | failed => 4
  | deleted => 5

theorem OperationState.code_injective {s t : OperationState} (h : s.code = t.code) : s = t := by
  cases s <;> cases t <;> first | rfl | exact absurd h (by decide)

/-! ## Field access -/

def readUCHAR (m : Bytes) (o : ℕ) : UCHAR := UInt8.ofNat (readLE m o 1)
def readUSHORT (m : Bytes) (o : ℕ) : USHORT := UInt16.ofNat (readLE m o 2)
def readULONG (m : Bytes) (o : ℕ) : ULONG := UInt32.ofNat (readLE m o 4)
def readULONGLONG (m : Bytes) (o : ℕ) : ULONGLONG := UInt64.ofNat (readLE m o 8)
def readNTSTATUS (m : Bytes) (o : ℕ) : NTSTATUS := (readULONG m o).toInt32

def fieldUCHAR (v : UCHAR) : ℕ × ℕ := (1, v.toNat)
def fieldUSHORT (v : USHORT) : ℕ × ℕ := (2, v.toNat)
def fieldULONG (v : ULONG) : ℕ × ℕ := (4, v.toNat)
def fieldULONGLONG (v : ULONGLONG) : ℕ × ℕ := (8, v.toNat)
def fieldNTSTATUS (v : NTSTATUS) : ℕ × ℕ := fieldULONG v.toUInt32

theorem readUCHAR_encode (m : Bytes) (o : ℕ) {fs : Fields} (rest : Fields) {ws : List ℕ}
    (hw : fs.map Prod.fst = ws) (k : ℕ) {p : ℕ} (hp : (ws.take k).sum = p) {v : UCHAR}
    (hk : fs[k]? = some (fieldUCHAR v)) :
    readUCHAR (overwrite m o (encode (fs ++ rest))) (o + p) = v := by
  have h := readLE_encode_widths m o rest hw k hp hk v.toNat_lt
  simp [readUCHAR, h]

theorem readUSHORT_encode (m : Bytes) (o : ℕ) {fs : Fields} (rest : Fields) {ws : List ℕ}
    (hw : fs.map Prod.fst = ws) (k : ℕ) {p : ℕ} (hp : (ws.take k).sum = p) {v : USHORT}
    (hk : fs[k]? = some (fieldUSHORT v)) :
    readUSHORT (overwrite m o (encode (fs ++ rest))) (o + p) = v := by
  have h := readLE_encode_widths m o rest hw k hp hk v.toNat_lt
  simp [readUSHORT, h]

theorem readULONG_encode (m : Bytes) (o : ℕ) {fs : Fields} (rest : Fields) {ws : List ℕ}
    (hw : fs.map Prod.fst = ws) (k : ℕ) {p : ℕ} (hp : (ws.take k).sum = p) {v : ULONG}
    (hk : fs[k]? = some (fieldULONG v)) :
    readULONG (overwrite m o (encode (fs ++ rest))) (o + p) = v := by
  have h := readLE_encode_widths m o rest hw k hp hk v.toNat_lt
  simp [readULONG, h]

theorem readULONGLONG_encode (m : Bytes) (o : ℕ) {fs : Fields} (rest : Fields) {ws : List ℕ}
    (hw : fs.map Prod.fst = ws) (k : ℕ) {p : ℕ} (hp : (ws.take k).sum = p) {v : ULONGLONG}
    (hk : fs[k]? = some (fieldULONGLONG v)) :
    readULONGLONG (overwrite m o (encode (fs ++ rest))) (o + p) = v := by
  have h := readLE_encode_widths m o rest hw k hp hk v.toNat_lt
  simp [readULONGLONG, h]

theorem readNTSTATUS_encode (m : Bytes) (o : ℕ) {fs : Fields} (rest : Fields) {ws : List ℕ}
    (hw : fs.map Prod.fst = ws) (k : ℕ) {p : ℕ} (hp : (ws.take k).sum = p) {v : NTSTATUS}
    (hk : fs[k]? = some (fieldNTSTATUS v)) :
    readNTSTATUS (overwrite m o (encode (fs ++ rest))) (o + p) = v := by
  rw [readNTSTATUS, readULONG_encode m o rest hw k hp hk]
  simp

/-! ## Messages the driver reads back -/

/-- The eight bytes `WISPDK01` read as one little-endian integer. -/
def wispdiskSrbSignature : ULONGLONG := 0x31304B4450534957

/-- `SRB_IO_CONTROL`, with its signature bytes as one integer. -/
structure SrbIoControl where
  headerLength : ULONG := 0
  signature : ULONGLONG := 0
  timeout : ULONG := 0
  controlCode : ULONG := 0
  returnCode : ULONG := 0
  length : ULONG := 0
  deriving DecidableEq

def SrbIoControl.size : ULONG := 28

def SrbIoControl.fields (r : SrbIoControl) : Fields :=
  [fieldULONG r.headerLength, fieldULONGLONG r.signature, fieldULONG r.timeout,
    fieldULONG r.controlCode, fieldULONG r.returnCode, fieldULONG r.length]

def SrbIoControl.read (m : Bytes) (o : ℕ) : SrbIoControl where
  headerLength := readULONG m (o + 0)
  signature := readULONGLONG m (o + 4)
  timeout := readULONG m (o + 12)
  controlCode := readULONG m (o + 16)
  returnCode := readULONG m (o + 20)
  length := readULONG m (o + 24)

theorem SrbIoControl.widths (r : SrbIoControl) :
    r.fields.map Prod.fst = [4, 8, 4, 4, 4, 4] := rfl

theorem SrbIoControl.read_encode (m : Bytes) (o : ℕ) (r : SrbIoControl) (rest : Fields) :
    SrbIoControl.read (overwrite m o (encode (r.fields ++ rest))) o = r := by
  rw [SrbIoControl.read, readULONG_encode m o rest r.widths 0 (by decide) rfl,
    readULONGLONG_encode m o rest r.widths 1 (by decide) rfl,
    readULONG_encode m o rest r.widths 2 (by decide) rfl,
    readULONG_encode m o rest r.widths 3 (by decide) rfl,
    readULONG_encode m o rest r.widths 4 (by decide) rfl,
    readULONG_encode m o rest r.widths 5 (by decide) rfl]

/-- `WISPDISK_REQUEST_HEADER`. -/
structure RequestHeader where
  structSize : ULONG := 0
  protocolVersion : ULONG := 0
  operation : ULONG := 0
  flags : ULONG := 0
  correlationId : ULONGLONG := 0
  deriving DecidableEq

def RequestHeader.size : ULONG := 24

def RequestHeader.fields (r : RequestHeader) : Fields :=
  [fieldULONG r.structSize, fieldULONG r.protocolVersion, fieldULONG r.operation,
    fieldULONG r.flags, fieldULONGLONG r.correlationId]

def RequestHeader.read (m : Bytes) (o : ℕ) : RequestHeader where
  structSize := readULONG m (o + 0)
  protocolVersion := readULONG m (o + 4)
  operation := readULONG m (o + 8)
  flags := readULONG m (o + 12)
  correlationId := readULONGLONG m (o + 16)

theorem RequestHeader.widths (r : RequestHeader) :
    r.fields.map Prod.fst = [4, 4, 4, 4, 8] := rfl

theorem RequestHeader.read_encode (m : Bytes) (o : ℕ) (r : RequestHeader) (rest : Fields) :
    RequestHeader.read (overwrite m o (encode (r.fields ++ rest))) o = r := by
  rw [RequestHeader.read, readULONG_encode m o rest r.widths 0 (by decide) rfl,
    readULONG_encode m o rest r.widths 1 (by decide) rfl,
    readULONG_encode m o rest r.widths 2 (by decide) rfl,
    readULONG_encode m o rest r.widths 3 (by decide) rfl,
    readULONGLONG_encode m o rest r.widths 4 (by decide) rfl]

/-- `WISPDISK_RESPONSE_HEADER`. -/
structure ResponseHeader where
  structSize : ULONG := 0
  protocolVersion : ULONG := 0
  operation : ULONG := 0
  status : NTSTATUS := 0
  correlationId : ULONGLONG := 0
  deriving DecidableEq

def ResponseHeader.size : ULONG := 24

def ResponseHeader.fields (r : ResponseHeader) : Fields :=
  [fieldULONG r.structSize, fieldULONG r.protocolVersion, fieldULONG r.operation,
    fieldNTSTATUS r.status, fieldULONGLONG r.correlationId]

def ResponseHeader.read (m : Bytes) (o : ℕ) : ResponseHeader where
  structSize := readULONG m (o + 0)
  protocolVersion := readULONG m (o + 4)
  operation := readULONG m (o + 8)
  status := readNTSTATUS m (o + 12)
  correlationId := readULONGLONG m (o + 16)

theorem ResponseHeader.widths (r : ResponseHeader) :
    r.fields.map Prod.fst = [4, 4, 4, 4, 8] := rfl

theorem ResponseHeader.read_encode (m : Bytes) (o : ℕ) (r : ResponseHeader) (rest : Fields) :
    ResponseHeader.read (overwrite m o (encode (r.fields ++ rest))) o = r := by
  rw [ResponseHeader.read, readULONG_encode m o rest r.widths 0 (by decide) rfl,
    readULONG_encode m o rest r.widths 1 (by decide) rfl,
    readULONG_encode m o rest r.widths 2 (by decide) rfl,
    readNTSTATUS_encode m o rest r.widths 3 (by decide) rfl,
    readULONGLONG_encode m o rest r.widths 4 (by decide) rfl]

/-- `WISPDISK_CREATE_REQUEST`. -/
structure CreateRequest where
  header : RequestHeader := {}
  sizeBytes : ULONGLONG := 0
  logicalSectorSize : ULONG := 0
  mediaKind : ULONG := 0
  requestedDriveLetter : USHORT := 0
  reserved16 : USHORT := 0
  reserved32 : ULONG := 0
  deriving DecidableEq

def CreateRequest.size : ULONG := 48

def CreateRequest.fields (r : CreateRequest) : Fields :=
  r.header.fields ++ [fieldULONGLONG r.sizeBytes, fieldULONG r.logicalSectorSize,
    fieldULONG r.mediaKind, fieldUSHORT r.requestedDriveLetter, fieldUSHORT r.reserved16,
    fieldULONG r.reserved32]

def CreateRequest.read (m : Bytes) (o : ℕ) : CreateRequest where
  header := RequestHeader.read m o
  sizeBytes := readULONGLONG m (o + 24)
  logicalSectorSize := readULONG m (o + 32)
  mediaKind := readULONG m (o + 36)
  requestedDriveLetter := readUSHORT m (o + 40)
  reserved16 := readUSHORT m (o + 42)
  reserved32 := readULONG m (o + 44)

theorem CreateRequest.widths (r : CreateRequest) :
    r.fields.map Prod.fst = [4, 4, 4, 4, 8, 8, 4, 4, 2, 2, 4] := rfl

theorem CreateRequest.read_encode (m : Bytes) (o : ℕ) (r : CreateRequest) (rest : Fields) :
    CreateRequest.read (overwrite m o (encode (r.fields ++ rest))) o = r := by
  have hhead : RequestHeader.read (overwrite m o (encode (r.fields ++ rest))) o = r.header :=
    RequestHeader.read_encode m o r.header ((r.fields ++ rest).drop 5)
  rw [CreateRequest.read, hhead, readULONGLONG_encode m o rest r.widths 5 (by decide) rfl,
    readULONG_encode m o rest r.widths 6 (by decide) rfl,
    readULONG_encode m o rest r.widths 7 (by decide) rfl,
    readUSHORT_encode m o rest r.widths 8 (by decide) rfl,
    readUSHORT_encode m o rest r.widths 9 (by decide) rfl,
    readULONG_encode m o rest r.widths 10 (by decide) rfl]

/-- `WISPDISK_DELETE_REQUEST`. -/
structure DeleteRequest where
  header : RequestHeader := {}
  deviceId : ULONG := 0
  reserved : ULONG := 0
  deriving DecidableEq

def DeleteRequest.size : ULONG := 32

def DeleteRequest.fields (r : DeleteRequest) : Fields :=
  r.header.fields ++ [fieldULONG r.deviceId, fieldULONG r.reserved]

def DeleteRequest.read (m : Bytes) (o : ℕ) : DeleteRequest where
  header := RequestHeader.read m o
  deviceId := readULONG m (o + 24)
  reserved := readULONG m (o + 28)

theorem DeleteRequest.widths (r : DeleteRequest) :
    r.fields.map Prod.fst = [4, 4, 4, 4, 8, 4, 4] := rfl

theorem DeleteRequest.read_encode (m : Bytes) (o : ℕ) (r : DeleteRequest) (rest : Fields) :
    DeleteRequest.read (overwrite m o (encode (r.fields ++ rest))) o = r := by
  have hhead : RequestHeader.read (overwrite m o (encode (r.fields ++ rest))) o = r.header :=
    RequestHeader.read_encode m o r.header ((r.fields ++ rest).drop 5)
  rw [DeleteRequest.read, hhead, readULONG_encode m o rest r.widths 5 (by decide) rfl,
    readULONG_encode m o rest r.widths 6 (by decide) rfl]

/-- `WISPDISK_RESERVE_REQUEST`. -/
structure ReserveRequest where
  header : RequestHeader := {}
  mutation : ULONG := 0
  reserved : ULONG := 0
  deriving DecidableEq

def ReserveRequest.size : ULONG := 32

def ReserveRequest.fields (r : ReserveRequest) : Fields :=
  r.header.fields ++ [fieldULONG r.mutation, fieldULONG r.reserved]

def ReserveRequest.read (m : Bytes) (o : ℕ) : ReserveRequest where
  header := RequestHeader.read m o
  mutation := readULONG m (o + 24)
  reserved := readULONG m (o + 28)

theorem ReserveRequest.widths (r : ReserveRequest) :
    r.fields.map Prod.fst = [4, 4, 4, 4, 8, 4, 4] := rfl

theorem ReserveRequest.read_encode (m : Bytes) (o : ℕ) (r : ReserveRequest) (rest : Fields) :
    ReserveRequest.read (overwrite m o (encode (r.fields ++ rest))) o = r := by
  have hhead : RequestHeader.read (overwrite m o (encode (r.fields ++ rest))) o = r.header :=
    RequestHeader.read_encode m o r.header ((r.fields ++ rest).drop 5)
  rw [ReserveRequest.read, hhead, readULONG_encode m o rest r.widths 5 (by decide) rfl,
    readULONG_encode m o rest r.widths 6 (by decide) rfl]

/-- `WISPDISK_OPERATION_REQUEST`. -/
structure OperationRequest where
  header : RequestHeader := {}
  adapterInstance : ULONGLONG := 0
  operationId : ULONGLONG := 0
  deriving DecidableEq

def OperationRequest.size : ULONG := 40

def OperationRequest.fields (r : OperationRequest) : Fields :=
  r.header.fields ++ [fieldULONGLONG r.adapterInstance, fieldULONGLONG r.operationId]

def OperationRequest.read (m : Bytes) (o : ℕ) : OperationRequest where
  header := RequestHeader.read m o
  adapterInstance := readULONGLONG m (o + 24)
  operationId := readULONGLONG m (o + 32)

theorem OperationRequest.widths (r : OperationRequest) :
    r.fields.map Prod.fst = [4, 4, 4, 4, 8, 8, 8] := rfl

theorem OperationRequest.read_encode (m : Bytes) (o : ℕ) (r : OperationRequest) (rest : Fields) :
    OperationRequest.read (overwrite m o (encode (r.fields ++ rest))) o = r := by
  have hhead : RequestHeader.read (overwrite m o (encode (r.fields ++ rest))) o = r.header :=
    RequestHeader.read_encode m o r.header ((r.fields ++ rest).drop 5)
  rw [OperationRequest.read, hhead, readULONGLONG_encode m o rest r.widths 5 (by decide) rfl,
    readULONGLONG_encode m o rest r.widths 6 (by decide) rfl]

/-- `WISPDISK_RESERVED_CREATE_REQUEST`. -/
structure ReservedCreateRequest where
  operation : OperationRequest := {}
  sizeBytes : ULONGLONG := 0
  logicalSectorSize : ULONG := 0
  mediaKind : ULONG := 0
  requestedDriveLetter : USHORT := 0
  reserved16 : USHORT := 0
  reserved32 : ULONG := 0
  deriving DecidableEq

def ReservedCreateRequest.size : ULONG := 64

def ReservedCreateRequest.fields (r : ReservedCreateRequest) : Fields :=
  r.operation.fields ++ [fieldULONGLONG r.sizeBytes, fieldULONG r.logicalSectorSize,
    fieldULONG r.mediaKind, fieldUSHORT r.requestedDriveLetter, fieldUSHORT r.reserved16,
    fieldULONG r.reserved32]

def ReservedCreateRequest.read (m : Bytes) (o : ℕ) : ReservedCreateRequest where
  operation := OperationRequest.read m o
  sizeBytes := readULONGLONG m (o + 40)
  logicalSectorSize := readULONG m (o + 48)
  mediaKind := readULONG m (o + 52)
  requestedDriveLetter := readUSHORT m (o + 56)
  reserved16 := readUSHORT m (o + 58)
  reserved32 := readULONG m (o + 60)

theorem ReservedCreateRequest.widths (r : ReservedCreateRequest) :
    r.fields.map Prod.fst = [4, 4, 4, 4, 8, 8, 8, 8, 4, 4, 2, 2, 4] := rfl

theorem ReservedCreateRequest.read_encode (m : Bytes) (o : ℕ) (r : ReservedCreateRequest) (rest : Fields) :
    ReservedCreateRequest.read (overwrite m o (encode (r.fields ++ rest))) o = r := by
  have hhead : OperationRequest.read (overwrite m o (encode (r.fields ++ rest))) o = r.operation :=
    OperationRequest.read_encode m o r.operation ((r.fields ++ rest).drop 7)
  rw [ReservedCreateRequest.read, hhead, readULONGLONG_encode m o rest r.widths 7 (by decide) rfl,
    readULONG_encode m o rest r.widths 8 (by decide) rfl,
    readULONG_encode m o rest r.widths 9 (by decide) rfl,
    readUSHORT_encode m o rest r.widths 10 (by decide) rfl,
    readUSHORT_encode m o rest r.widths 11 (by decide) rfl,
    readULONG_encode m o rest r.widths 12 (by decide) rfl]

/-- `WISPDISK_RESERVED_DELETE_REQUEST`. -/
structure ReservedDeleteRequest where
  operation : OperationRequest := {}
  deviceId : ULONG := 0
  reserved : ULONG := 0
  deriving DecidableEq

def ReservedDeleteRequest.size : ULONG := 48

def ReservedDeleteRequest.fields (r : ReservedDeleteRequest) : Fields :=
  r.operation.fields ++ [fieldULONG r.deviceId, fieldULONG r.reserved]

def ReservedDeleteRequest.read (m : Bytes) (o : ℕ) : ReservedDeleteRequest where
  operation := OperationRequest.read m o
  deviceId := readULONG m (o + 40)
  reserved := readULONG m (o + 44)

theorem ReservedDeleteRequest.widths (r : ReservedDeleteRequest) :
    r.fields.map Prod.fst = [4, 4, 4, 4, 8, 8, 8, 4, 4] := rfl

theorem ReservedDeleteRequest.read_encode (m : Bytes) (o : ℕ) (r : ReservedDeleteRequest) (rest : Fields) :
    ReservedDeleteRequest.read (overwrite m o (encode (r.fields ++ rest))) o = r := by
  have hhead : OperationRequest.read (overwrite m o (encode (r.fields ++ rest))) o = r.operation :=
    OperationRequest.read_encode m o r.operation ((r.fields ++ rest).drop 7)
  rw [ReservedDeleteRequest.read, hhead, readULONG_encode m o rest r.widths 7 (by decide) rfl,
    readULONG_encode m o rest r.widths 8 (by decide) rfl]

/-- `WISPDISK_OPERATION_RESPONSE`. -/
structure OperationResponse where
  header : ResponseHeader := {}
  adapterInstance : ULONGLONG := 0
  operationId : ULONGLONG := 0
  mutation : ULONG := 0
  state : ULONG := 0
  resultStatus : NTSTATUS := 0
  deviceId : ULONG := 0
  pathId : UCHAR := 0
  targetId : UCHAR := 0
  lun : UCHAR := 0
  reserved8 : UCHAR := 0
  reserved32 : ULONG := 0
  deriving DecidableEq

def OperationResponse.size : ULONG := 64

def OperationResponse.fields (r : OperationResponse) : Fields :=
  r.header.fields ++ [fieldULONGLONG r.adapterInstance, fieldULONGLONG r.operationId,
    fieldULONG r.mutation, fieldULONG r.state, fieldNTSTATUS r.resultStatus,
    fieldULONG r.deviceId, fieldUCHAR r.pathId, fieldUCHAR r.targetId, fieldUCHAR r.lun,
    fieldUCHAR r.reserved8, fieldULONG r.reserved32]

def OperationResponse.read (m : Bytes) (o : ℕ) : OperationResponse where
  header := ResponseHeader.read m o
  adapterInstance := readULONGLONG m (o + 24)
  operationId := readULONGLONG m (o + 32)
  mutation := readULONG m (o + 40)
  state := readULONG m (o + 44)
  resultStatus := readNTSTATUS m (o + 48)
  deviceId := readULONG m (o + 52)
  pathId := readUCHAR m (o + 56)
  targetId := readUCHAR m (o + 57)
  lun := readUCHAR m (o + 58)
  reserved8 := readUCHAR m (o + 59)
  reserved32 := readULONG m (o + 60)

theorem OperationResponse.widths (r : OperationResponse) :
    r.fields.map Prod.fst = [4, 4, 4, 4, 8, 8, 8, 4, 4, 4, 4, 1, 1, 1, 1, 4] := rfl

theorem OperationResponse.read_encode (m : Bytes) (o : ℕ) (r : OperationResponse) (rest : Fields) :
    OperationResponse.read (overwrite m o (encode (r.fields ++ rest))) o = r := by
  have hhead : ResponseHeader.read (overwrite m o (encode (r.fields ++ rest))) o = r.header :=
    ResponseHeader.read_encode m o r.header ((r.fields ++ rest).drop 5)
  rw [OperationResponse.read, hhead, readULONGLONG_encode m o rest r.widths 5 (by decide) rfl,
    readULONGLONG_encode m o rest r.widths 6 (by decide) rfl,
    readULONG_encode m o rest r.widths 7 (by decide) rfl,
    readULONG_encode m o rest r.widths 8 (by decide) rfl,
    readNTSTATUS_encode m o rest r.widths 9 (by decide) rfl,
    readULONG_encode m o rest r.widths 10 (by decide) rfl,
    readUCHAR_encode m o rest r.widths 11 (by decide) rfl,
    readUCHAR_encode m o rest r.widths 12 (by decide) rfl,
    readUCHAR_encode m o rest r.widths 13 (by decide) rfl,
    readUCHAR_encode m o rest r.widths 14 (by decide) rfl,
    readULONG_encode m o rest r.widths 15 (by decide) rfl]

/-! ## Messages the driver only writes -/

/-- `WISPDISK_QUERY_VERSION_RESPONSE`. -/
structure QueryVersionResponse where
  header : ResponseHeader := {}
  versionMajor : ULONG := 0
  versionMinor : ULONG := 0
  capabilities : ULONG := 0
  maximumDiskCount : ULONG := 0
  deriving DecidableEq

def QueryVersionResponse.size : ULONG := 40

def QueryVersionResponse.fields (r : QueryVersionResponse) : Fields :=
  r.header.fields ++ [fieldULONG r.versionMajor, fieldULONG r.versionMinor,
    fieldULONG r.capabilities, fieldULONG r.maximumDiskCount]

/-- `WISPDISK_CREATE_RESPONSE`. -/
structure CreateResponse where
  header : ResponseHeader := {}
  deviceId : ULONG := 0
  pathId : UCHAR := 0
  targetId : UCHAR := 0
  lun : UCHAR := 0
  reserved : UCHAR := 0
  deriving DecidableEq

def CreateResponse.size : ULONG := 32

def CreateResponse.fields (r : CreateResponse) : Fields :=
  r.header.fields ++ [fieldULONG r.deviceId, fieldUCHAR r.pathId, fieldUCHAR r.targetId,
    fieldUCHAR r.lun, fieldUCHAR r.reserved]

/-- `WISPDISK_DISK_INFO`. -/
structure DiskInfo where
  deviceId : ULONG := 0
  pathId : UCHAR := 0
  targetId : UCHAR := 0
  lun : UCHAR := 0
  reserved8 : UCHAR := 0
  sizeBytes : ULONGLONG := 0
  logicalSectorSize : ULONG := 0
  mediaKind : ULONG := 0
  requestedDriveLetter : USHORT := 0
  reserved16 : USHORT := 0
  deriving DecidableEq

-- the last field is the padding to the structure's alignment of 8
def DiskInfo.fields (r : DiskInfo) : Fields :=
  [fieldULONG r.deviceId, fieldUCHAR r.pathId, fieldUCHAR r.targetId, fieldUCHAR r.lun,
    fieldUCHAR r.reserved8, fieldULONGLONG r.sizeBytes, fieldULONG r.logicalSectorSize,
    fieldULONG r.mediaKind, fieldUSHORT r.requestedDriveLetter, fieldUSHORT r.reserved16, (4, 0)]

/-- The array `Disks[WISPDISK_MAXIMUM_DISK_COUNT]` with its first entries filled. -/
def diskArray {α : Type} (zero : α) (fields : α → Fields) (entries : List α) : Fields :=
  (entries ++ List.replicate (wispdiskMaximumDiskCount.toNat - entries.length) zero).flatMap fields

/-- `WISPDISK_LIST_RESPONSE`; `disks` holds the entries below `diskCount`. -/
structure ListResponse where
  header : ResponseHeader := {}
  diskCount : ULONG := 0
  reserved : ULONG := 0
  disks : List DiskInfo := []
  deriving DecidableEq

def ListResponse.size : ULONG := 544

def ListResponse.fields (r : ListResponse) : Fields :=
  r.header.fields ++ [fieldULONG r.diskCount, fieldULONG r.reserved] ++
    diskArray {} DiskInfo.fields r.disks

/-- `WISPDISK_DISK_STATE`. -/
structure DiskState where
  disk : DiskInfo := {}
  createOperationId : ULONGLONG := 0
  state : ULONG := 0
  reserved : ULONG := 0
  deriving DecidableEq

def DiskState.fields (r : DiskState) : Fields :=
  r.disk.fields ++ [fieldULONGLONG r.createOperationId, fieldULONG r.state, fieldULONG r.reserved]

/-- `WISPDISK_STATE_RESPONSE`; `disks` holds the entries below `diskCount`. -/
structure StateResponse where
  header : ResponseHeader := {}
  adapterInstance : ULONGLONG := 0
  allocatedBytes : ULONGLONG := 0
  diskCount : ULONG := 0
  pendingOperations : ULONG := 0
  disks : List DiskState := []
  deriving DecidableEq

def StateResponse.size : ULONG := 816

def StateResponse.fields (r : StateResponse) : Fields :=
  r.header.fields ++ [fieldULONGLONG r.adapterInstance, fieldULONGLONG r.allocatedBytes,
    fieldULONG r.diskCount, fieldULONG r.pendingOperations] ++
    diskArray {} DiskState.fields r.disks

end WispDisk
