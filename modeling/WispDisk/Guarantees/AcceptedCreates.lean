import WispDisk.Cli.Commands
import WispDisk.Guarantees.HostileRequests
import WispDisk.Guarantees.SizeGrammar

/-! Every create that the command line accepts passes the driver's checks: what
`Cli::into_command` guarantees of a size and a letter is what `ValidateCreateRequest` asks for, and
the bytes that `send` writes are read back field by field. -/
namespace WispDisk.Cli
open Layout ControlDispatch
set_option autoImplicit false

/-! ## The limits of the command line -/

namespace CommandLine

variable {cli : CommandLine} {letter : DriveLetter} {media : MediaKind} {sizeBytes : ULONGLONG}
  {fileSystem : FileSystem}

/-- The sizes that `into_command` lets through. -/
structure Creatable (sizeBytes : ULONGLONG) : Prop where
  minimum : minDiskSize ≤ sizeBytes
  maximum : sizeBytes ≤ maxDiskSize
  aligned : sizeBytes % argumentSectorSize = 0

theorem intoCommand_creatable
    (h : cli.intoCommand = .ok (.add letter media sizeBytes fileSystem)) : Creatable sizeBytes := by
  obtain ⟨_, _, _, _, _, _, hcommand⟩ := intoCommand_add_iff.mp h
  obtain ⟨_, _, _, _, hdisk⟩ := addCommand_ok_iff.mp hcommand
  obtain ⟨_, hminimum, hmaximum, haligned⟩ := (diskSize_iff _ _).mp hdisk
  exact ⟨UInt64.not_lt.mp hminimum, UInt64.not_lt.mp hmaximum, haligned⟩

end CommandLine

/-! ## The driver's checks -/

theorem DriveLetter.asAscii_upper (letter : DriveLetter) :
    65 ≤ letter.asAscii.toUInt16 ∧ letter.asAscii.toUInt16 ≤ 90 := by
  have hvalue := letter.asAscii_toNat
  have hupper := letter.upper
  have hlow : (65 : USHORT).toNat = 65 := rfl
  have hhigh : (90 : USHORT).toNat = 90 := rfl
  rw [UInt16.le_iff_toNat_le, UInt16.le_iff_toNat_le, UInt8.toNat_toUInt16, hlow, hhigh, hvalue]
  exact hupper

/-- The parameters that `HandleReservedCreateControl` rebuilds from a request of the CLI. -/
def createdParameters (letter : DriveLetter) (media : MediaKind)
    (sizeBytes correlationId : ULONGLONG) : CreateRequest where
  header :=
    { structSize := CreateRequest.size
      protocolVersion := wispdiskProtocolVersion
      operation := wispDiskControlCreateDisk
      flags := 0
      correlationId := correlationId }
  sizeBytes := sizeBytes
  logicalSectorSize := logicalSectorSize
  mediaKind := media.code
  requestedDriveLetter := letter.asAscii.toUInt16
  reserved16 := 0
  reserved32 := 0

theorem reservedCreateParameters_create (handle : OperationHandle) (letter : DriveLetter)
    (media : MediaKind) (sizeBytes correlationId : ULONGLONG) :
    reservedCreateParameters (Request.createParameters handle letter media sizeBytes correlationId) =
      createdParameters letter media sizeBytes correlationId := rfl

theorem createdParameters_acceptable (letter : DriveLetter) (media : MediaKind)
    {sizeBytes : ULONGLONG} (correlationId : ULONGLONG)
    (hsize : CommandLine.Creatable sizeBytes) :
    (createdParameters letter media sizeBytes correlationId).acceptable = true := by
  have hleast : kMinimumDiskSize ≤ minDiskSize := by decide
  have hgreatest : maxDiskSize ≤ kMaximumDiskSize := by decide
  have hminimum : ¬ sizeBytes < kMinimumDiskSize :=
    UInt64.not_lt.mpr (UInt64.le_trans hleast hsize.minimum)
  have hmaximum : ¬ kMaximumDiskSize < sizeBytes :=
    UInt64.not_lt.mpr (UInt64.le_trans hsize.maximum hgreatest)
  have haligned : sizeBytes % kLogicalSectorSize.toUInt64 = 0 := hsize.aligned
  have hsector : logicalSectorSize = kLogicalSectorSize := rfl
  obtain ⟨hlow, hhigh⟩ := letter.asAscii_upper
  have hmedia : (media.code != wispDiskMediaFixed && media.code != wispDiskMediaRemovable) = false := by
    cases media with
    | fixed => rfl
    | removable => rfl
  simp only [CreateRequest.acceptable, createdParameters, hminimum, hmaximum, haligned, hsector,
    hmedia, UInt16.not_lt.mpr hlow, UInt16.not_lt.mpr hhigh, decide_false, bne_self_eq_false,
    Bool.or_false, Bool.not_false]

/-- The validator reads rebuilt parameters back as they are. -/
theorem validateCreateRequest_scratch (control : ControlRequest) {parameters : CreateRequest}
    (hsize : parameters.header.structSize = CreateRequest.size)
    (hversion : parameters.header.protocolVersion = wispdiskProtocolVersion)
    (hoperation : parameters.header.operation = wispDiskControlCreateDisk)
    (hflags : parameters.header.flags = 0) (hacceptable : parameters.acceptable = true) :
    validateCreateRequest (scratch control CreateRequest.size parameters.fields) =
      (statusSuccess, parameters) := by
  have hread := scratch_create control parameters
  have hheader : RequestHeader.read
      (scratch control CreateRequest.size parameters.fields).payload 0 = parameters.header :=
    congrArg CreateRequest.header hread
  have hvalid : readAndValidateRequestHeader
      (scratch control CreateRequest.size parameters.fields).payload
      (scratch control CreateRequest.size parameters.fields).ioControl.length CreateRequest.size
      wispDiskControlCreateDisk = (statusSuccess, parameters.header) := by
    unfold readAndValidateRequestHeader
    rw [hheader, if_neg]
    · simp only
      rw [if_neg]
      rintro (hne | hne | hne | hne)
      · exact hne hsize
      · exact hne hversion
      · exact hne hoperation
      · exact hne hflags
    · show ¬ (CreateRequest.size < CreateRequest.size ∨ CreateRequest.size < RequestHeader.size)
      decide
  unfold validateCreateRequest ControlRequest.readRequest
  simp only [hvalid, ntSuccess_success, if_true, hread, hacceptable, Bool.not_true,
    Bool.false_eq_true, if_false]

/-! ## Acceptance -/

/-- The driver takes a create request of the CLI and submits it with the command's parameters. -/
structure Accepted (handle : OperationHandle) (letter : DriveLetter) (media : MediaKind)
    (sizeBytes correlationId : ULONGLONG) (ext : AdapterExtension) (now : LONGLONG) : Prop where
  sent : (Request.create handle letter media sizeBytes correlationId).fits = true
  received : ControlRequest.fromSrb
      (Request.create handle letter media sizeBytes correlationId).toSrb =
    some (Request.create handle letter media sizeBytes correlationId).control
  read : readOperationRequest (Request.create handle letter media sizeBytes correlationId).control
      ReservedCreateRequest.size ReservedCreateRequest.read {} =
    .ok (Request.createParameters handle letter media sizeBytes correlationId,
      ControlOperation.createReserved.requestHeader correlationId)
  /-- The command that `SubmitCreate` is given. -/
  submitted : ∃ command : MutationCommand,
    dispatchControlRequest ext
        (Request.create handle letter media sizeBytes correlationId).control now =
      submit ext (Request.create handle letter media sizeBytes correlationId).control command now ∧
    command.operation = .createReserved ∧
    command.identity.adapterInstance = handle.adapterInstance ∧
    command.identity.operationId = handle.id ∧
    command.identity.header.correlationId = correlationId ∧
    command.create.sizeBytes = sizeBytes ∧
    command.create.logicalSectorSize = kLogicalSectorSize ∧
    command.create.mediaKind =
      (if media = .fixed then wispDiskMediaFixed else wispDiskMediaRemovable) ∧
    command.create.requestedDriveLetter.toNat = letter.letter.toNat ∧
    65 ≤ command.create.requestedDriveLetter ∧ command.create.requestedDriveLetter ≤ 90 ∧
    command.create.header.correlationId = correlationId ∧
    validateCreateRequest (scratch
        (Request.create handle letter media sizeBytes correlationId).control CreateRequest.size
        (reservedCreateParameters
          (Request.createParameters handle letter media sizeBytes correlationId)).fields) =
      (statusSuccess, command.create)

theorem create_dispatched (handle : OperationHandle) (letter : DriveLetter) (media : MediaKind)
    (sizeBytes correlationId : ULONGLONG) (ext : AdapterExtension) (now : LONGLONG) :
    dispatchControlRequest ext
        (Request.create handle letter media sizeBytes correlationId).control now =
      handleReservedCreateControl ext
        (Request.create handle letter media sizeBytes correlationId).control now := by
  have hcode : (Request.create handle letter media sizeBytes correlationId).control.ioControl.controlCode =
      wispDiskControlCreateReserved := rfl
  unfold dispatchControlRequest
  simp only [hcode]
  rw [if_neg (by decide), if_neg (by decide), if_neg (by decide), if_neg (by decide),
    if_pos trivial]

/-- Whatever arguments parse and become an `Add` command, the driver accepts the create request
that the command sends under any handle and correlation ID. -/
theorem add_command_accepted {arguments : Arguments} {cli : CommandLine} {letter : DriveLetter}
    {media : MediaKind} {sizeBytes : ULONGLONG} {fileSystem : FileSystem}
    (_hparse : arguments.parse = .ok cli)
    (hadd : cli.intoCommand = .ok (.add letter media sizeBytes fileSystem))
    (handle : OperationHandle) (correlationId : ULONGLONG) (ext : AdapterExtension)
    (now : LONGLONG) : Accepted handle letter media sizeBytes correlationId ext now := by
  have hsize := CommandLine.intoCommand_creatable hadd
  have hread : readOperationRequest
      (Request.create handle letter media sizeBytes correlationId).control
      ReservedCreateRequest.size ReservedCreateRequest.read {} =
        .ok (Request.createParameters handle letter media sizeBytes correlationId,
          ControlOperation.createReserved.requestHeader correlationId) := by
    have hheaded := Request.create_headed handle letter media sizeBytes correlationId
    have hlong : RequestHeader.size ≤ ReservedCreateRequest.size := by decide
    have hshort : ReservedCreateRequest.size ≤ controlBufferSize - SrbIoControl.size := by decide
    have hsent := Request.readOperationRequest_sent hheaded rfl hlong hshort
      ReservedCreateRequest.read {}
    rw [Request.reads_create] at hsent
    exact hsent
  have hacceptable := createdParameters_acceptable letter media correlationId hsize
  have hvalid := validateCreateRequest_scratch
    (Request.create handle letter media sizeBytes correlationId).control rfl rfl rfl rfl hacceptable
  have hletter : (createdParameters letter media sizeBytes correlationId).requestedDriveLetter.toNat =
      letter.letter.toNat := by
    rw [← letter.asAscii_toNat]
    exact UInt8.toNat_toUInt16 _
  refine ⟨rfl, Request.fromSrb_toSrb _, hread,
    { operation := .createReserved
      identity := ControlOperation.createReserved.operationRequest handle correlationId
      create := createdParameters letter media sizeBytes correlationId }, ?_, rfl, rfl, rfl, rfl,
    rfl, rfl, ?_, hletter, letter.asAscii_upper.1, letter.asAscii_upper.2, rfl, hvalid⟩
  · rw [create_dispatched]
    unfold handleReservedCreateControl
    rw [hread]
    simp only [reservedCreateParameters_create, hvalid, ntSuccess_success, Bool.not_true,
      Bool.false_eq_true, if_false]
    rfl
  · cases media with
    | fixed => rfl
    | removable => rfl

/-- `/add /hdd /letter:r: /size:16MiB`. -/
def addArguments : Arguments where
  add := true
  hdd := true
  letter := some ['r', ':']
  size := some ['1', '6', 'M', 'i', 'B']

def letterR : DriveLetter where
  letter := 'R'
  upper := by decide

def addCommandLine : CommandLine where
  add := true
  delete := false
  force := false
  list := false
  json := false
  id := none
  adapter := none
  hdd := true
  removable := false
  letter := some letterR
  size := some { bytes := 16777216 }
  fileSystem := none

theorem add_command_accepted_sixteen_mebibytes :
    addArguments.parse = .ok addCommandLine ∧
      addCommandLine.intoCommand = .ok (.add letterR .fixed 16777216 .ntfs) ∧
      Accepted { adapterInstance := 1, id := 1 } letterR .fixed 16777216 7 {} 0 := by
  have hparse : addArguments.parse = .ok addCommandLine := rfl
  have hadd : addCommandLine.intoCommand = .ok (.add letterR .fixed 16777216 .ntfs) := rfl
  exact ⟨hparse, hadd, add_command_accepted hparse hadd _ _ _ _⟩

end WispDisk.Cli
