import WispDisk.Driver.LunStore

/-! The SCSI command set (`scsi_response.cpp`, `scsi_commands.cpp`, `read_write.cpp`, `scsi.cpp`).
A handler returns the SRB status with the changed SRB; only `handleReadWrite` touches the backing
store, which is memory from its base address on. -/
namespace WispDisk
open Layout
set_option autoImplicit false

namespace Scsi

def scsiopTestUnitReady : UCHAR := 0x00
def scsiopRequestSense : UCHAR := 0x03
def scsiopRead6 : UCHAR := 0x08
def scsiopWrite6 : UCHAR := 0x0A
def scsiopInquiry : UCHAR := 0x12
def scsiopModeSelect : UCHAR := 0x15
def scsiopModeSense : UCHAR := 0x1A
def scsiopStartStopUnit : UCHAR := 0x1B
def scsiopMediumRemoval : UCHAR := 0x1E
def scsiopReadCapacity : UCHAR := 0x25
def scsiopRead : UCHAR := 0x28
def scsiopWrite : UCHAR := 0x2A
def scsiopVerify : UCHAR := 0x2F
def scsiopSynchronizeCache : UCHAR := 0x35
def scsiopModeSelect10 : UCHAR := 0x55
def scsiopModeSense10 : UCHAR := 0x5A
def scsiopRead16 : UCHAR := 0x88
def scsiopWrite16 : UCHAR := 0x8A
def scsiopVerify16 : UCHAR := 0x8F
def scsiopSynchronizeCache16 : UCHAR := 0x91
def scsiopReadCapacity16 : UCHAR := 0x9E
def scsiopReportLuns : UCHAR := 0xA0
def scsiopRead12 : UCHAR := 0xA8
def scsiopWrite12 : UCHAR := 0xAA
def serviceActionReadCapacity16 : UCHAR := 0x10

def scsiSenseIllegalRequest : UCHAR := 0x05
def scsiAdsenseIllegalCommand : UCHAR := 0x20
def scsiAdsenseIllegalBlock : UCHAR := 0x21
def scsiAdsenseInvalidCdb : UCHAR := 0x24
def scsiSenseErrorcodeFixedCurrent : UCHAR := 0x70
def kSenseDataLength : ℕ := 18

/-! ## Responses -/

def readBigEndian32 (m : Bytes) (o : ℕ) : ULONG :=
  ((m o).toUInt32 <<< 24) ||| ((m (o + 1)).toUInt32 <<< 16) ||| ((m (o + 2)).toUInt32 <<< 8) |||
    (m (o + 3)).toUInt32

def readBigEndian64 (m : Bytes) (o : ℕ) : ULONGLONG :=
  (List.range 8).foldl (fun result index => (result <<< 8) ||| (m (o + index)).toUInt64) 0

def bigEndian16 (value : USHORT) : List UCHAR :=
  [(value >>> 8).toUInt8, value.toUInt8]

def bigEndian32 (value : ULONG) : List UCHAR :=
  [(value >>> 24).toUInt8, (value >>> 16).toUInt8, (value >>> 8).toUInt8, value.toUInt8]

-- the source fills the destination from its last byte and shifts the value down
def bigEndian64 (value : ULONGLONG) : List UCHAR :=
  (List.range 8).map fun index => (value >>> (8 * (7 - index)).toUInt64).toUInt8

def hexDigits : List UCHAR :=
  [48, 49, 50, 51, 52, 53, 54, 55, 56, 57, 65, 66, 67, 68, 69, 70]

/-- The bytes `WriteDeviceIdHex` writes. -/
def deviceIdHex (deviceId : ULONG) : List UCHAR :=
  (List.range 8).map fun index =>
    hexDigits.getD ((deviceId >>> ((7 - index) * 4).toUInt32) &&& 0x0f).toNat 0

/-- The fixed-format sense data of `SetSense`. -/
def senseData (senseKey additionalSenseCode additionalSenseQualifier : UCHAR) : List UCHAR :=
  [scsiSenseErrorcodeFixedCurrent, 0, senseKey, 0, 0, 0, 0, 10, 0, 0, 0, 0, additionalSenseCode,
    additionalSenseQualifier, 0, 0, 0, 0]

def setSense (srb : ScsiRequestBlock) (senseKey additionalSenseCode : UCHAR) :
    UCHAR × ScsiRequestBlock :=
  let failed := { srb with dataTransferLength := 0, scsiStatus := scsistatCheckCondition }
  match srb.senseInfoBuffer with
  | some sense =>
    if kSenseDataLength ≤ srb.senseInfoBufferLength.toNat then
      (srbStatusError ||| srbStatusAutosenseValid,
        { failed with
          senseInfoBuffer := some (overwrite sense 0 (senseData senseKey additionalSenseCode 0)) })
    else (srbStatusError, failed)
  | none => (srbStatusError, failed)

def invalidCdb (srb : ScsiRequestBlock) : UCHAR × ScsiRequestBlock :=
  setSense srb scsiSenseIllegalRequest scsiAdsenseInvalidCdb

/-- `CopyScsiResponse` of the first `responseLength` bytes of a response. -/
def copyScsiResponse (srb : ScsiRequestBlock) (response : List UCHAR) (responseLength : ULONG) :
    UCHAR × ScsiRequestBlock :=
  match srb.dataBuffer with
  | none =>
    if responseLength ≠ 0 then invalidCdb srb
    else (srbStatusSuccess, { srb with dataTransferLength := 0 })
  | some buffer =>
    let available := srb.dataTransferLength
    let transferred := if responseLength < available then responseLength else available
    (if available < responseLength then srbStatusDataOverrun else srbStatusSuccess,
      { srb with
        dataBuffer := some (overwrite buffer 0 (response.take transferred.toNat))
        dataTransferLength := transferred })

/-! ## Commands that return data -/

/-- A fixed-size response buffer: the given bytes, then zeros. -/
def responseBuffer (size : ℕ) (bytes : List UCHAR) : List UCHAR :=
  bytes ++ List.replicate (size - bytes.length) 0

def clamp (responseLength allocationLength : ULONG) : ULONG :=
  if allocationLength < responseLength then allocationLength else responseLength

def kDirectAccessDevice : UCHAR := 0x00
def kVpdSupportedPages : UCHAR := 0x00
def kVpdUnitSerialNumber : UCHAR := 0x80
def kVpdDeviceIdentification : UCHAR := 0x83

-- "WISPDISK", "VIRTUAL DISK    ", "0002" and "WISPDK"
def inquiryVendor : List UCHAR := [87, 73, 83, 80, 68, 73, 83, 75]
def inquiryProduct : List UCHAR :=
  [86, 73, 82, 84, 85, 65, 76, 32, 68, 73, 83, 75, 32, 32, 32, 32]
def inquiryRevision : List UCHAR := [48, 48, 48, 50]
def serialPrefix : List UCHAR := [87, 73, 83, 80, 68, 75]

/-- The response of `HandleInquiry` with its length; `none` for a page it does not have. -/
def inquiryResponse (view : LunView) (enableVitalProductData : Bool) (pageCode : UCHAR) :
    Option (List UCHAR × ULONG) :=
  if !enableVitalProductData then
    if pageCode ≠ 0 then none
    else
      let removable : UCHAR := if view.mediaKind = wispDiskMediaRemovable then 0x80 else 0x00
      some ([kDirectAccessDevice, removable, 0x05, 0x02, 31, 0, 0, 0] ++ inquiryVendor ++
        inquiryProduct ++ inquiryRevision, 36)
  else if pageCode = kVpdSupportedPages then
    some ([kDirectAccessDevice, kVpdSupportedPages, 0, 3, kVpdSupportedPages,
      kVpdUnitSerialNumber, kVpdDeviceIdentification], 7)
  else if pageCode = kVpdUnitSerialNumber then
    some ([kDirectAccessDevice, kVpdUnitSerialNumber, 0, 14] ++ serialPrefix ++
      deviceIdHex view.deviceId, 18)
  else if pageCode = kVpdDeviceIdentification then
    some ([kDirectAccessDevice, kVpdDeviceIdentification] ++ bigEndian16 26 ++
      [0x02, 0x01, 0, 22] ++ inquiryVendor ++ serialPrefix ++ deviceIdHex view.deviceId, 30)
  else none

def handleInquiry (view : LunView) (srb : ScsiRequestBlock) : UCHAR × ScsiRequestBlock :=
  if srb.cdbLength < 6 then invalidCdb srb
  else
    match inquiryResponse view (srb.cdb 1 &&& 0x01 ≠ 0) (srb.cdb 2) with
    | none => invalidCdb srb
    | some (response, responseLength) =>
      copyScsiResponse srb (responseBuffer 64 response) (clamp responseLength (srb.cdb 4).toUInt32)

def handleReadCapacity10 (view : LunView) (srb : ScsiRequestBlock) : UCHAR × ScsiRequestBlock :=
  let lastLba := view.sizeBytes / kLogicalSectorSize.toUInt64 - 1
  let reportedLastLba : ULONG := if 0xFFFFFFFF < lastLba then 0xFFFFFFFF else lastLba.toUInt32
  copyScsiResponse srb (bigEndian32 reportedLastLba ++ bigEndian32 kLogicalSectorSize) 8

def handleReadCapacity16 (view : LunView) (srb : ScsiRequestBlock) : UCHAR × ScsiRequestBlock :=
  if srb.cdbLength < 16 ∨ srb.cdb 1 &&& 0x1f ≠ serviceActionReadCapacity16 then invalidCdb srb
  else
    let response := bigEndian64 (view.sizeBytes / kLogicalSectorSize.toUInt64 - 1) ++
      bigEndian32 kLogicalSectorSize
    copyScsiResponse srb (responseBuffer 32 response) 32

def handleRequestSense (srb : ScsiRequestBlock) : UCHAR × ScsiRequestBlock :=
  if srb.cdbLength < 6 then invalidCdb srb
  else
    let response := [scsiSenseErrorcodeFixedCurrent, 0, 0, 0, 0, 0, 0, 10]
    copyScsiResponse srb (responseBuffer kSenseDataLength response)
      (clamp (UInt32.ofNat kSenseDataLength) (srb.cdb 4).toUInt32)

/-- The response of `HandleModeSense` with its length. -/
def modeSenseResponse (tenByte cachingPage : Bool) : List UCHAR × ULONG :=
  let header : ULONG := if tenByte then 8 else 4
  let responseLength := if cachingPage then header + 20 else header
  let page : List UCHAR := if cachingPage then [0x08, 0x12] else []
  if tenByte then
    (bigEndian16 (responseLength - 2).toUInt16 ++ [0, 0, 0, 0, 0, 0] ++ page, responseLength)
  else ([(responseLength - 1).toUInt8, 0, 0, 0] ++ page, responseLength)

def handleModeSense (srb : ScsiRequestBlock) (tenByte : Bool) : UCHAR × ScsiRequestBlock :=
  if srb.cdbLength < if tenByte then 10 else 6 then invalidCdb srb
  else
    let pageCode := srb.cdb 2 &&& 0x3f
    if pageCode ≠ 0x00 ∧ pageCode ≠ 0x08 ∧ pageCode ≠ 0x3f then invalidCdb srb
    else
      let (response, responseLength) :=
        modeSenseResponse tenByte (pageCode = 0x08 ∨ pageCode = 0x3f)
      let allocationLength : ULONG :=
        if tenByte then ((srb.cdb 7).toUInt32 <<< 8) ||| (srb.cdb 8).toUInt32
        else (srb.cdb 4).toUInt32
      copyScsiResponse srb (responseBuffer 32 response) (clamp responseLength allocationLength)

/-- The response of `HandleReportLuns` for the online LUNs of a snapshot. -/
def reportLunsResponse (luns : List UCHAR) : List UCHAR × ULONG :=
  let count := UInt32.ofNat luns.length
  (bigEndian32 (count * 8) ++ [0, 0, 0, 0] ++ luns.flatMap fun lun => [0, lun, 0, 0, 0, 0, 0, 0],
    8 + count * 8)

def handleReportLuns (ext : AdapterExtension) (srb : ScsiRequestBlock) :
    UCHAR × ScsiRequestBlock :=
  if srb.cdbLength < 12 ∨ srb.pathId ≠ 0 ∨ srb.targetId ≠ 0 then invalidCdb srb
  else
    let (response, responseLength) := reportLunsResponse (LunStore.snapshotOnlineLuns ext)
    copyScsiResponse srb (responseBuffer (8 + kMaximumDiskCount * 8) response)
      (clamp responseLength (readBigEndian32 srb.cdb 6))

/-! ## READ and WRITE -/

/-- A decoded READ or WRITE command. -/
structure Transfer where
  logicalBlock : ULONGLONG
  blockCount : ULONG
  isWrite : Bool
  deriving DecidableEq

def isWriteOperation (operation : UCHAR) : Bool :=
  operation == scsiopWrite6 || operation == scsiopWrite || operation == scsiopWrite12 ||
    operation == scsiopWrite16

def parseReadWriteCdb (srb : ScsiRequestBlock) : Option Transfer :=
  let operation := srb.cdb 0
  let isWrite := isWriteOperation operation
  if operation = scsiopRead6 ∨ operation = scsiopWrite6 then
    if srb.cdbLength < 6 then none
    else some
      { logicalBlock := ((srb.cdb 1 &&& 0x1f).toUInt64 <<< 16) ||| ((srb.cdb 2).toUInt64 <<< 8) |||
          (srb.cdb 3).toUInt64
        blockCount := if srb.cdb 4 = 0 then 256 else (srb.cdb 4).toUInt32
        isWrite := isWrite }
  else if operation = scsiopRead ∨ operation = scsiopWrite then
    if srb.cdbLength < 10 then none
    else some
      { logicalBlock := (readBigEndian32 srb.cdb 2).toUInt64
        blockCount := ((srb.cdb 7).toUInt32 <<< 8) ||| (srb.cdb 8).toUInt32
        isWrite := isWrite }
  else if operation = scsiopRead12 ∨ operation = scsiopWrite12 then
    if srb.cdbLength < 12 then none
    else some
      { logicalBlock := (readBigEndian32 srb.cdb 2).toUInt64
        blockCount := readBigEndian32 srb.cdb 6
        isWrite := isWrite }
  else if operation = scsiopRead16 ∨ operation = scsiopWrite16 then
    if srb.cdbLength < 16 then none
    else some
      { logicalBlock := readBigEndian64 srb.cdb 2
        blockCount := readBigEndian32 srb.cdb 10
        isWrite := isWrite }
  else none

/-- `RtlCopyMemory` of `n` bytes from `source + p` to `destination + o`. -/
def copyMemory (destination : Bytes) (o : ℕ) (source : Bytes) (p n : ℕ) : Bytes :=
  fun i => if o ≤ i ∧ i < o + n then source (p + (i - o)) else destination i

/-- `HandleReadWrite` after the decoding: the status, the SRB and the backing store. -/
def transfer (view : LunView) (backing : Bytes) (srb : ScsiRequestBlock) (t : Transfer) :
    UCHAR × ScsiRequestBlock × Bytes :=
  if t.blockCount = 0 then (srbStatusSuccess, { srb with dataTransferLength := 0 }, backing)
  else
    let diskBlocks := view.sizeBytes / kLogicalSectorSize.toUInt64
    if diskBlocks ≤ t.logicalBlock ∨ diskBlocks - t.logicalBlock < t.blockCount.toUInt64 then
      let (status, srb) := setSense srb scsiSenseIllegalRequest scsiAdsenseIllegalBlock
      (status, srb, backing)
    else
      let byteOffset := t.logicalBlock * kLogicalSectorSize.toUInt64
      let byteCount64 := t.blockCount.toUInt64 * kLogicalSectorSize.toUInt64
      match srb.dataBuffer with
      | none =>
        let (status, srb) := invalidCdb srb
        (status, srb, backing)
      | some requestBuffer =>
        if kMaximumTransferLength.toUInt64 < byteCount64 ∨ 0xFFFFFFFF < byteCount64 ∨
            srb.dataTransferLength.toUInt64 < byteCount64 then
          let (status, srb) := invalidCdb srb
          (status, srb, backing)
        else
          let byteCount := byteCount64.toUInt32
          if t.isWrite then
            (srbStatusSuccess, { srb with dataTransferLength := byteCount },
              copyMemory backing byteOffset.toNat requestBuffer 0 byteCount.toNat)
          else
            (srbStatusSuccess, { srb with
              dataBuffer :=
                some (copyMemory requestBuffer 0 backing byteOffset.toNat byteCount.toNat)
              dataTransferLength := byteCount }, backing)

def handleReadWrite (view : LunView) (backing : Bytes) (srb : ScsiRequestBlock) :
    UCHAR × ScsiRequestBlock × Bytes :=
  match parseReadWriteCdb srb with
  | none =>
    let (status, srb) := invalidCdb srb
    (status, srb, backing)
  | some t => transfer view backing srb t

/-! ## Dispatch -/

def noDataOperations : List UCHAR :=
  [scsiopTestUnitReady, scsiopStartStopUnit, scsiopMediumRemoval, scsiopSynchronizeCache,
    scsiopSynchronizeCache16, scsiopVerify, scsiopVerify16, scsiopModeSelect, scsiopModeSelect10]

def readWriteOperations : List UCHAR :=
  [scsiopRead6, scsiopWrite6, scsiopRead, scsiopWrite, scsiopRead12, scsiopWrite12, scsiopRead16,
    scsiopWrite16]

def dispatchScsiCommand (view : LunView) (backing : Bytes) (srb : ScsiRequestBlock) :
    UCHAR × ScsiRequestBlock × Bytes :=
  let operation := srb.cdb 0
  let keep (result : UCHAR × ScsiRequestBlock) := (result.1, result.2, backing)
  if operation ∈ noDataOperations then
    (srbStatusSuccess, { srb with dataTransferLength := 0 }, backing)
  else if operation = scsiopInquiry then keep (handleInquiry view srb)
  else if operation = scsiopRequestSense then keep (handleRequestSense srb)
  else if operation = scsiopReadCapacity then keep (handleReadCapacity10 view srb)
  else if operation = scsiopReadCapacity16 then keep (handleReadCapacity16 view srb)
  else if operation = scsiopModeSense then keep (handleModeSense srb false)
  else if operation = scsiopModeSense10 then keep (handleModeSense srb true)
  else if operation ∈ readWriteOperations then handleReadWrite view backing srb
  else keep (setSense srb scsiSenseIllegalRequest scsiAdsenseIllegalCommand)

end Scsi

end WispDisk
