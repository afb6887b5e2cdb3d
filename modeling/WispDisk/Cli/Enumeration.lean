import Mathlib.Data.List.TakeWhile
import WispDisk.Cli.Volumes

/-! The buffers that Windows fills: `wide_from_buffer` and `multisz_entries` of `win32.rs`, the
iterator of `volume/finder.rs`, and `volume_paths` of `volume/discovery.rs`. -/
namespace WispDisk.Cli
open Procedures
set_option autoImplicit false

/-! ## Buffers -/

/-- `wide_from_buffer`: the units before the first NUL. -/
def wideFromBuffer (buffer : List UInt16) : Option WideString :=
  if 0 ∈ buffer then some (buffer.takeWhile (· != 0)) else none

/-- `multisz_entries`: the entries before the first empty one. -/
def multiszEntries (buffer : List UInt16) : List WideString :=
  (buffer.splitOn 0).takeWhile fun entry => !entry.isEmpty

/-! ## `VolumeFinder` -/

/-- One answer of `FindNextVolumeW`: the buffer that it fills, or its error. -/
abbrev NextVolume := Except ULONG (List UInt16)

structure VolumeFinder where
  name : List UInt16
  first : Bool
  finished : Bool

namespace VolumeFinder

def errorNoMoreFiles : ULONG := 18

/-- `VolumeFinder::new`, after `FindFirstVolumeW` has filled the buffer. -/
def new (name : List UInt16) : VolumeFinder := { name := name, first := true, finished := false }

/-- The name in the buffer; an unterminated one ends the iteration. -/
def yieldName (finder : VolumeFinder) : Option (Except Error WideString) × VolumeFinder :=
  match wideFromBuffer finder.name with
  | some name => (some (.ok name), finder)
  | none => (some (.error (.message "unterminated volume name")), { finder with finished := true })

/-- Whether `next` calls `FindNextVolumeW`. -/
def advances (finder : VolumeFinder) : Bool := !finder.finished && !finder.first

/-- The part of `next` after a call of `FindNextVolumeW`. -/
def advance (finder : VolumeFinder) : NextVolume →
    Option (Except Error WideString) × VolumeFinder
  | .error code =>
    if code = errorNoMoreFiles then (none, { finder with name := [], finished := true })
    else (some (.error (.os "enumerate next volume" code)),
      { finder with name := [], finished := true })
  | .ok name => yieldName { finder with name := name }

/-- `next`, with the answer of `FindNextVolumeW` where it calls it. -/
def next (finder : VolumeFinder) (answer : NextVolume) :
    Option (Except Error WideString) × VolumeFinder :=
  if finder.finished then (none, finder)
  else if finder.first then yieldName { finder with first := false }
  else finder.advance answer

/-- The answer that `FindNextVolumeW` gives next; after the given ones there are no more volumes. -/
def upcoming (answers : List NextVolume) : NextVolume :=
  answers.headD (.error errorNoMoreFiles)

/-- The items of a finder that is asked again and again: each `next` that advances takes an answer. -/
def items : ℕ → VolumeFinder → List NextVolume → List (Option (Except Error WideString))
  | 0, _, _ => []
  | asks + 1, finder, answers =>
    (finder.next (upcoming answers)).1 ::
      items asks (finder.next (upcoming answers)).2
        (if finder.advances then answers.tail else answers)

end VolumeFinder

/-! ## `volume_paths` -/

/-- One answer of `GetVolumePathNamesForVolumeNameW`: whether it succeeded, with the last error, the
length that it requires and the units in the buffer. -/
structure PathNames where
  succeeded : Bool
  lastError : ULONG
  required : ULONG
  units : List UInt16

def errorMoreData : ULONG := 234

/-- `volume_paths`: a call is given the length of its buffer. -/
def volumePaths : Procedure ULONG (fun _ => PathNames) (Except Error (List WideString)) :=
  .call 0 fun probe =>
    if probe.required = 0 then .done (.error (.os "query volume mount points" probe.lastError))
    else
      .call probe.required fun read =>
        if read.succeeded then .done (.ok (multiszEntries read.units))
        else if read.lastError ≠ errorMoreData then
          .done (.error (.os "read volume mount points" read.lastError))
        else
          .call read.required fun reread =>
            if reread.succeeded then .done (.ok (multiszEntries reread.units))
            else .done (.error (.os "reread volume mount points" reread.lastError))

end WispDisk.Cli
