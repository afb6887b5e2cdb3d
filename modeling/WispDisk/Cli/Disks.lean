import WispDisk.Cli.Volumes

/-! `disk/mod.rs`: physical disk numbers and SCSI addresses, in both directions. -/
namespace WispDisk.Cli
open Procedures
set_option autoImplicit false

def scsiAddressSize : ℕ := 8
def storageDeviceNumberSize : ℕ := 12
def fileDeviceDisk : ULONG := 7

/-- `disk_location`. -/
def diskLocation (adapter : OpenAdapter) (entry : DiskState) : ScsiLocation where
  port := adapter.portNumber
  path := entry.disk.pathId
  target := entry.disk.targetId
  lun := entry.disk.lun

def scsiLocation (handle : Handle) : Fallible ScsiLocation :=
  .call (.getScsiAddress handle) fun
    | .error code => .done (.error (.os "query SCSI address" code))
    | .ok (location, returned) =>
      if returned < scsiAddressSize then
        bail ("disk returned a truncated SCSI address (" ++ toString returned ++ " bytes)")
      else .done (.ok location)

def storageDeviceNumber (handle : Handle) : Fallible ULONG :=
  .call (.getDeviceNumber handle) fun
    | .error code => .done (.error (.os "query disk-interface device number" code))
    | .ok (number, returned) =>
      if returned < storageDeviceNumberSize then
        bail ("disk interface returned a truncated device number (" ++ toString returned ++
          " bytes)")
      else if number.deviceType ≠ fileDeviceDisk then
        bail ("disk interface reported unexpected device type " ++ toString number.deviceType)
      else .done (.ok number.deviceNumber)

def physicalDiskAddress (number : ULONG) : Fallible ScsiLocation :=
  .call (.createFile (.physicalDrive number) .none) fun
    | .error code => .done (.error (.os ("open PhysicalDrive" ++ toString number) code))
    | .ok disk =>
      withContext ("query PhysicalDrive" ++ toString number ++ " SCSI address") (scsiLocation disk)

def verifyPhysicalDiskLocation (number : ULONG) (expected : ScsiLocation) : Fallible Unit :=
  (physicalDiskAddress number).tryBind fun actual =>
    if actual ≠ expected then
      bail ("PhysicalDrive" ++ toString number ++
        " changed identity before initialization; refusing to format it")
    else .done (.ok ())

def ScsiLocation.text (location : ScsiLocation) : String :=
  toString location.port ++ ":" ++ toString location.path ++ ":" ++ toString location.target ++
    ":" ++ toString location.lun

/-! ## From an address to a disk number -/

/-- What one disk interface says of its address and number; an interface that cannot be asked is
passed over. -/
def interfaceNumber (expected : ScsiLocation) (index : ℕ) : Windows (Option ULONG) :=
  .call (.getInterfaceDetail index) fun
    | .error _ => .done none
    | .ok path =>
      .call (.createFile (.path path) .none) fun
        | .error _ => .done none
        | .ok disk =>
          (scsiLocation disk).bind fun
            | .error _ => .done none
            | .ok actual =>
              if actual ≠ expected then .done none
              else
                (storageDeviceNumber disk).bind fun
                  | .error _ => .done none
                  | .ok number => .done (some number)

/-- One interface of `find_physical_disk`. -/
def matchInterface (expected : ScsiLocation) (matched : Option ULONG) (index : ℕ) :
    Fallible (Option ULONG) :=
  .call (.enumDeviceInterfaces index) fun
    | .error code => .done (.error (.os "enumerate disk interface" code))
    | .ok () =>
      (interfaceNumber expected index).bind fun
        | none => .done (.ok matched)
        | some number =>
          match matched with
          | none => .done (.ok (some number))
          | some previous =>
            if previous ≠ number then
              bail ("multiple physical disks reported SCSI " ++ expected.text)
            else .done (.ok matched)

def findPhysicalDisk (expected : ScsiLocation) : Fallible (Option ULONG) :=
  .call .getClassDevs fun
    | .error code => .done (.error (.os "enumerate present disk interfaces" code))
    | .ok count => Procedure.tryFold (matchInterface expected) none (List.range count)

def waitForPhysicalDisk (location : ScsiLocation) : Fallible ULONG :=
  .call .registerNotification fun
    | .error error => .done (.error error)
    | .ok () => .call .retriesLeft (retry (findPhysicalDisk location)
      ("new disk at SCSI " ++ location.text ++ " did not appear within 30 seconds")
      (ask .waitNotification))

def waitForPhysicalDiskAbsent (number : ULONG) (location : ScsiLocation) : Fallible Unit :=
  .call .retriesLeft (retry
    ((physicalDiskAddress number).bind fun address =>
      .done (.ok (if address.toOption ≠ some location then some () else none)))
    ("deleted disk at SCSI " ++ location.text ++ " remained present for 30 seconds")
    (.done (.ok ())))

end WispDisk.Cli
