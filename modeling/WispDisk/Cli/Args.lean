import WispDisk.Foundations.Layout
import WispDisk.Driver.Extension

/-! `args.rs`: the options as their `FromStr` implementations parse them and the command that
`Cli::into_command` makes of them. A `DriveLetter` carries the proof that it is an upper-case ASCII
letter. Option values are lists of characters. -/
namespace WispDisk.Cli
set_option autoImplicit false

/-! ## Characters -/

/-- `char::is_whitespace`. -/
def isWhitespace (c : Char) : Bool :=
  let n := c.toNat
  (9 ≤ n && n ≤ 13) || n == 32 || n == 0x85 || n == 0xA0 || n == 0x1680 ||
    (0x2000 ≤ n && n ≤ 0x200A) || n == 0x2028 || n == 0x2029 || n == 0x202F || n == 0x205F ||
    n == 0x3000

def trimEnd (drop : Char → Bool) (value : List Char) : List Char :=
  (value.reverse.dropWhile drop).reverse

/-- `str::trim`. -/
def trim (value : List Char) : List Char := trimEnd isWhitespace (value.dropWhile isWhitespace)

def isAsciiDigit (c : Char) : Bool := 48 ≤ c.toNat && c.toNat ≤ 57

def isAsciiUppercase (c : Char) : Bool := 65 ≤ c.toNat && c.toNat ≤ 90

def isAsciiLowercase (c : Char) : Bool := 97 ≤ c.toNat && c.toNat ≤ 122

def isAsciiAlphabetic (c : Char) : Bool := isAsciiUppercase c || isAsciiLowercase c

/-- `char::to_ascii_uppercase`. -/
def toAsciiUppercase (c : Char) : Char :=
  if isAsciiLowercase c then Char.ofNat (c.toNat - 32) else c

theorem toAsciiUppercase_upper {c : Char} (h : isAsciiAlphabetic c = true) :
    65 ≤ (toAsciiUppercase c).toNat ∧ (toAsciiUppercase c).toNat ≤ 90 := by
  rw [toAsciiUppercase]
  split
  · rename_i hlower
    simp only [isAsciiLowercase, Bool.and_eq_true, decide_eq_true_eq] at hlower
    have hvalid : (c.toNat - 32).isValidChar := Or.inl (by omega)
    have hvalue : (Char.ofNat (c.toNat - 32)).toNat = c.toNat - 32 := by
      rw [Char.ofNat, dif_pos hvalid]
      rfl
    rw [hvalue]
    omega
  · rename_i hlower
    simp only [isAsciiAlphabetic, Bool.or_eq_true] at h
    have hupper := h.resolve_right hlower
    simp only [isAsciiUppercase, Bool.and_eq_true, decide_eq_true_eq] at hupper
    exact hupper

/-! ## Option values -/

structure DriveLetter where
  letter : Char
  upper : 65 ≤ letter.toNat ∧ letter.toNat ≤ 90
  deriving DecidableEq

namespace DriveLetter

def asAscii (letter : DriveLetter) : UCHAR := UInt8.ofNat letter.letter.toNat

def fromStr (value : List Char) : Except String DriveLetter :=
  match trimEnd (· == ':') (trim value) with
  | [] => .error "drive letter is empty"
  | [letter] =>
    if h : isAsciiAlphabetic letter = true then
      .ok { letter := toAsciiUppercase letter, upper := toAsciiUppercase_upper h }
    else .error "drive letter must be one ASCII letter, such as R or R:"
  | _ :: _ :: _ => .error "drive letter must be one ASCII letter, such as R or R:"

theorem asAscii_toNat (letter : DriveLetter) : letter.asAscii.toNat = letter.letter.toNat := by
  have h := letter.upper
  rw [asAscii, UInt8.toNat_ofNat']
  omega

end DriveLetter

structure ByteSize where
  bytes : ULONGLONG
  deriving DecidableEq

namespace ByteSize

/-- `parse::<u64>` of ASCII digits. -/
def parseDigits (digits : List Char) : Option ℕ :=
  let n := digits.foldl (fun n c => 10 * n + (c.toNat - 48)) 0
  if n < 2 ^ 64 then some n else none

def multiplier (suffix : List Char) : Option ℕ :=
  match String.ofList (suffix.map toAsciiUppercase) with
  | "" | "B" => some 1
  | "KB" => some 1000
  | "KIB" => some 1024
  | "MB" => some 1000000
  | "MIB" => some 1048576
  | "GB" => some 1000000000
  | "GIB" => some 1073741824
  | "TB" => some 1000000000000
  | "TIB" => some 1099511627776
  | _ => none

def fromStr (value : List Char) : Except String ByteSize :=
  let value := trim value
  let inNumber (c : Char) : Bool := isAsciiDigit c || c == '_'
  let number := (value.takeWhile inNumber).filter (· != '_')
  let suffix := value.dropWhile inNumber
  if number.isEmpty then .error "size must start with an integer"
  else
    match parseDigits number with
    | none => .error "size is not a valid 64-bit integer"
    | some amount =>
      match multiplier suffix with
      | none =>
        .error "unknown size suffix; use B, KB, KiB, MB, MiB, GB, GiB, TB, or TiB"
      | some multiplier =>
        if amount * multiplier < 2 ^ 64 then
          .ok { bytes := UInt64.ofNat (amount * multiplier) }
        else .error "size is too large"

end ByteSize

inductive FileSystem
  | fat
  | fat32
  | ntfs
  deriving DecidableEq

def FileSystem.fromStr (value : List Char) : Except String FileSystem :=
  match String.ofList ((trim value).map toAsciiUppercase) with
  | "FAT" => .ok .fat
  | "FAT32" => .ok .fat32
  | "NTFS" => .ok .ntfs
  | _ => .error "file system must be FAT, FAT32, or NTFS"

inductive MediaKind
  | fixed
  | removable
  deriving DecidableEq

/-! ## The command line -/

/-- The option values as given: a flag's presence, or the text of an option. -/
structure Arguments where
  add : Bool := false
  delete : Bool := false
  force : Bool := false
  list : Bool := false
  json : Bool := false
  id : Option ULONG := none
  adapter : Option ULONGLONG := none
  hdd : Bool := false
  removable : Bool := false
  letter : Option (List Char) := none
  size : Option (List Char) := none
  fileSystem : Option (List Char) := none

/-- `Cli`, less its `log` option. -/
structure CommandLine where
  add : Bool
  delete : Bool
  force : Bool
  list : Bool
  json : Bool
  id : Option ULONG
  adapter : Option ULONGLONG
  hdd : Bool
  removable : Bool
  letter : Option DriveLetter
  size : Option ByteSize
  fileSystem : Option FileSystem

/-- An option's value, when the option is present. -/
def optionValue {α : Type} (fromStr : List Char → Except String α) :
    Option (List Char) → Except String (Option α)
  | none => .ok none
  | some value => (fromStr value).map some

/-- What clap makes of the options: the `operation` group takes exactly one of its flags, the
`media` group at most one, and every option holds what its `FromStr` parsed. -/
def Arguments.parse (arguments : Arguments) : Except String CommandLine := do
  if [arguments.add, arguments.delete, arguments.list].count true ≠ 1 then
    throw "exactly one of add, delete and list is required"
  if arguments.hdd ∧ arguments.removable then throw "hdd cannot be used with removable"
  let letter ← optionValue DriveLetter.fromStr arguments.letter
  let size ← optionValue ByteSize.fromStr arguments.size
  let fileSystem ← optionValue FileSystem.fromStr arguments.fileSystem
  return { add := arguments.add
           delete := arguments.delete
           force := arguments.force
           list := arguments.list
           json := arguments.json
           id := arguments.id
           adapter := arguments.adapter
           hdd := arguments.hdd
           removable := arguments.removable
           letter := letter
           size := size
           fileSystem := fileSystem }

inductive ValidationError
  | unexpectedOptions
  | forceWithoutDelete
  | deleteIdentity
  | missingLetter
  | missingMedia
  | missingSize
  | mediaOnDelete
  | sizeOnDelete
  | fileSystemOnDelete
  | sizeTooSmall
  | fat32SizeTooSmall
  | sizeTooLarge
  | unalignedSize
  deriving DecidableEq

inductive Command
  | list (json : Bool)
  | deleteId (adapter : ULONGLONG) (id : ULONG) (force : Bool)
  | add (letter : DriveLetter) (media : MediaKind) (sizeBytes : ULONGLONG)
      (fileSystem : FileSystem)
  | delete (letter : DriveLetter) (force : Bool)
  deriving DecidableEq

def minDiskSize : ULONGLONG := 16 * 1024 * 1024
def minFat32DiskSize : ULONGLONG := 64 * 1024 * 1024
def maxDiskSize : ULONGLONG := 256 * 1024 * 1024
def argumentSectorSize : ULONGLONG := 512

namespace CommandLine

/-- The branch of `into_command` for `add`. -/
def addCommand (cli : CommandLine) : Except ValidationError Command :=
  match cli.letter with
  | none => .error .missingLetter
  | some letter =>
    let media := match cli.hdd, cli.removable with
      | true, false => some MediaKind.fixed
      | false, true => some MediaKind.removable
      | _, _ => none
    match media with
    | none => .error .missingMedia
    | some media =>
      match cli.size with
      | none => .error .missingSize
      | some size =>
        let fileSystem := cli.fileSystem.getD .ntfs
        if fileSystem = .fat32 ∧ size.bytes < minFat32DiskSize then .error .fat32SizeTooSmall
        else if size.bytes < minDiskSize then .error .sizeTooSmall
        else if maxDiskSize < size.bytes then .error .sizeTooLarge
        else if size.bytes % argumentSectorSize ≠ 0 then .error .unalignedSize
        else .ok (.add letter media size.bytes fileSystem)

/-- The branch of `into_command` for `delete`. -/
def deleteCommand (cli : CommandLine) : Except ValidationError Command :=
  if cli.hdd ∨ cli.removable then .error .mediaOnDelete
  else if cli.size.isSome then .error .sizeOnDelete
  else if cli.fileSystem.isSome then .error .fileSystemOnDelete
  else
    match cli.letter, cli.id, cli.adapter with
    | some letter, none, none => .ok (.delete letter cli.force)
    | none, some id, some adapter =>
      if id ≠ 0 ∧ adapter ≠ 0 then .ok (.deleteId adapter id cli.force)
      else .error .deleteIdentity
    | none, none, none => .error .missingLetter
    | _, _, _ => .error .deleteIdentity

def intoCommand (cli : CommandLine) : Except ValidationError Command :=
  if cli.force ∧ !cli.delete then .error .forceWithoutDelete
  else if cli.list then
    if cli.letter.isSome ∨ cli.size.isSome ∨ cli.fileSystem.isSome ∨ cli.hdd ∨ cli.removable ∨
        cli.id.isSome ∨ cli.adapter.isSome then
      .error .unexpectedOptions
    else .ok (.list cli.json)
  else if cli.json ∨ (cli.add ∧ (cli.id.isSome ∨ cli.adapter.isSome)) then
    .error .unexpectedOptions
  else if cli.add then cli.addCommand
  else cli.deleteCommand

end CommandLine

/-! ## The slash spelling -/

/-- An argument of the process; Windows may hand over one that is not Unicode. -/
inductive OsString
  | unicode (text : List Char)
  | other (units : List UInt16)
  deriving DecidableEq

/-- `char::to_ascii_lowercase`. -/
def toAsciiLowercase (c : Char) : Char :=
  if isAsciiUppercase c then Char.ofNat (c.toNat + 32) else c

/-- `str::split_once` at a colon, with the whole text as the name where there is none. -/
def splitOption (slashOption : List Char) : List Char × Option (List Char) :=
  match slashOption.dropWhile (· != ':') with
  | [] => (slashOption, none)
  | _ :: value => (slashOption.takeWhile (· != ':'), some value)

def canonicalOption : String → Option String
  | "list" => some "list"
  | "json" => some "json"
  | "id" => some "id"
  | "adapter" => some "adapter"
  | "add" => some "add"
  | "del" => some "del"
  | "force" => some "force"
  | "hdd" => some "hdd"
  | "rem" => some "rem"
  | "letter" => some "letter"
  | "size" => some "size"
  | "fs" => some "fs"
  | "log" => some "log"
  | "help" => some "help"
  | "?" => some "help"
  | "version" => some "version"
  | _ => none

def normalizeOne (argument : OsString) : OsString :=
  match argument with
  | .unicode ('/' :: slashOption) =>
    let (name, value) := splitOption slashOption
    let name := String.ofList (name.map toAsciiLowercase)
    if name = "timings" then .unicode "--log=debug".toList
    else
      match canonicalOption name with
      | none => argument
      | some canonical =>
        match value with
        | some value => .unicode ("--".toList ++ canonical.toList ++ '=' :: value)
        | none => .unicode ("--".toList ++ canonical.toList)
  | argument => argument

def normalizeWindowsArgs (arguments : List OsString) : List OsString :=
  arguments.map normalizeOne

end WispDisk.Cli
