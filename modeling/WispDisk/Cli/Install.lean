import WispDisk.Cli.Enumeration
import WispDisk.Cli.Storage

/-! `adapter/install.rs`: the driver package is written out and staged, the root device is created if
there is none, and a device that was created is removed again when the driver cannot be bound. -/
namespace WispDisk.Cli
open Procedures
set_option autoImplicit false

/-- `payload.rs`: the files of the driver package that the build embeds. -/
structure DriverPayload where
  driverSys : List UCHAR
  driverInf : List UCHAR
  driverCat : List UCHAR

/-- The units of `ROOT\WISPDISK`. -/
def rootHardwareId : WideString :=
  [82, 79, 79, 84, 92, 87, 73, 83, 80, 68, 73, 83, 75]

/-- A Win32 call of the setup with the context of its error. -/
def askWin32 {α : Type} (action : String) (answer : Except ULONG α) : FallibleSetup α :=
  .done (win32 action answer)

/-! ## The package -/

def writePackageFile (path : String) (contents : List UCHAR) : FallibleSetup Unit :=
  if contents = [] then bailSetup ("embedded package file " ++ path ++ " is empty")
  else .call (.inr (.writeFile path contents)) (askWin32 ("extract driver package at " ++ path))

/-- The directory of the package below `ProgramData`. -/
def packageDirectory (programData : Option String) : String :=
  programData.getD "C:\\ProgramData" ++ "\\WispDisk\\Driver\\0.3.0"

/-- `DriverPackage::extract_embedded`, with the path of the INF that it resolves. -/
def extractEmbedded (payload : DriverPayload) (programData : Option String) :
    FallibleSetup String :=
  let directory := packageDirectory programData
  Procedure.tryBind
    (.call (.inr (.createDirectories directory))
      (askWin32 ("create driver-package directory at " ++ directory)))
    fun () =>
      (writePackageFile (directory ++ "\\WispDisk.sys") payload.driverSys).tryBind fun () =>
        (writePackageFile (directory ++ "\\WispDisk.inf") payload.driverInf).tryBind fun () =>
          (writePackageFile (directory ++ "\\WispDisk.cat") payload.driverCat).tryBind fun () =>
            let inf := directory ++ "\\WispDisk.inf"
            .call (.inr (.canonicalize inf)) (askWin32 ("resolve extracted INF at " ++ inf))

/-! ## The root device -/

/-- `eq_ignore_ascii_case`, on the units of a string that is ASCII on one side. -/
def asciiUpperUnit (unit : UInt16) : UInt16 :=
  if 97 ≤ unit ∧ unit ≤ 122 then unit - 32 else unit

def sameIgnoringCase (value expected : WideString) : Bool :=
  value.map asciiUpperUnit == expected.map asciiUpperUnit

def hardwareIdBuffer : ℕ := 512
def errorInvalidData : ULONG := 13

/-- The units of the buffer that `device_has_hardware_id` looks at. -/
def hardwareIdUnits (buffer : List UInt16) (required : ULONG) : List UInt16 :=
  buffer.take (min (required.toNat / 2) hardwareIdBuffer)

def deviceHasHardwareId (set : Handle) (index : ℕ) (expected : WideString) :
    FallibleSetup Bool :=
  .call (.inr (.getHardwareId set index)) fun
    | .error code =>
      if code = errorInvalidData then .done (.ok false)
      else .done (.error (.os "read adapter hardware id" code))
    | .ok (buffer, required) =>
      .done (.ok ((multiszEntries (hardwareIdUnits buffer required)).any
        fun value => sameIgnoringCase value expected))

/-- The loop of `exists` over the devices of the set. -/
def existsFrom (set : Handle) : List ℕ → FallibleSetup Bool
  | [] => .done (.ok false)
  | index :: indices =>
    .call (.inr (.enumDeviceInfo set index)) fun
      | .error code => .done (.error (.os "enumerate SCSI adapter" code))
      | .ok () => (deviceHasHardwareId set index rootHardwareId).tryBind fun
        | true => .done (.ok true)
        | false => existsFrom set indices

/-- `CreatedDevice::exists`. -/
def deviceExists : FallibleSetup Bool :=
  .call (.inr .getAdapterDevices) fun
    | .error code => .done (.error (.os "enumerate SCSI adapters" code))
    | .ok (set, count) => existsFrom set (List.range count)

/-- `CreatedDevice` up to its device data: the set that holds the device. -/
structure CreatedDevice where
  set : Handle
  deriving DecidableEq

namespace CreatedDevice

/-- `create_if_missing` when there is no device. -/
def create : FallibleSetup (Option CreatedDevice) :=
  Procedure.tryBind
    (.call (.inr .createDeviceInfoList) (askWin32 "create device-information set")) fun set =>
      Procedure.tryBind
        (.call (.inr (.createDeviceInfo set)) (askWin32 "create WispDisk root device")) fun () =>
          Procedure.tryBind
            -- MULTI_SZ keeps both of its NULs
            (.call (.inr (.setHardwareId set (rootHardwareId ++ [0, 0])))
              (askWin32 "set WispDisk root-device hardware id")) fun () =>
              Procedure.tryBind
                (.call (.inr (.registerDevice set)) (askWin32 "register WispDisk root device"))
                fun () => .done (.ok (some { set := set }))

def createIfMissing : FallibleSetup (Option CreatedDevice) :=
  deviceExists.tryBind fun
    | true => .done (.ok none)
    | false => create

def remove (device : CreatedDevice) : FallibleSetup Unit :=
  .call (.inr (.removeDevice device.set))
    (askWin32 "remove newly created WispDisk root device")

end CreatedDevice

/-- What `install` returns once the driver could not be bound. -/
def rollbackBind (created : Option CreatedDevice) (error : Error) : FallibleSetup Unit :=
  match created with
  | none => .done (.error error)
  | some device => device.remove.bind fun
    | .error recovery =>
      .done (.error (recoveryFailed error "removing the newly created root device also failed"
        recovery))
    | .ok () => .done (.error error)

/-- `DriverPackage::install`. -/
def installPackage (inf : String) : FallibleSetup Unit :=
  Procedure.tryBind
    (.call (.inr (.stagePackage inf))
      (askWin32 "stage driver package (is this console elevated, and is the package signed?)"))
    fun _ =>
      CreatedDevice.createIfMissing.tryBind fun created =>
        .call (.inr (.bindDriver rootHardwareId inf)) fun
          | .error code => rollbackBind created (.os "bind and start WispDisk driver" code)
          | .ok rebootRequired =>
            if rebootRequired then
              bailSetup ("Windows installed the driver package but requires a reboot before it " ++
                "can start")
            else .done (.ok ())

def installEmbeddedDriver (payload : DriverPayload) (programData : Option String) :
    FallibleSetup Unit :=
  (extractEmbedded payload programData).tryBind installPackage

end WispDisk.Cli
