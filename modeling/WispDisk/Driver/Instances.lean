import WispDisk.Driver.Adapter

/-! The adapters of one driver image. `AdapterContext::Initialize` chooses the instance number of an
adapter in a compare-exchange loop over a static variable; each access to that variable is a step,
and calls for several adapters interleave with each other and with the adapters that run. -/
namespace WispDisk
open Layout Transition
set_option autoImplicit false

abbrev LONG64 := Int64

/-- A call of `Initialize` inside the loop: about to read `lastInstance`, or about to exchange it. -/
inductive Selection
  | read (instanceTime : LONG64)
  | exchange (instanceTime previous : LONG64)
  deriving DecidableEq

/-- The `instance` of one round. -/
def chosenInstance (instanceTime previous : LONG64) : LONG64 :=
  if previous < instanceTime then instanceTime else previous + 1

structure Driver where
  lastInstance : LONG64 := 0
  selecting : List Selection := []
  adapters : List Adapter := []

/-- StorPort's call of `HwFindAdapter` with the clock that `Initialize` reads, a step of the loop, or a
step of an adapter. `granted` is the outcome of `StorPortInitializeWorker`. -/
inductive DriverAction
  | findAdapter (instanceTime : LONG64)
  | select (i : ℕ) (granted dbg : Bool) (contents : Allocation → Bytes)
  | adapter (i : ℕ) (action : Action)

namespace Driver

/-- `InterlockedCompareExchange64`, and the rest of `Initialize` when it succeeds. -/
def exchange (d : Driver) (i : ℕ) (instanceTime previous : LONG64) (granted dbg : Bool)
    (contents : Allocation → Bytes) : Driver :=
  let chosen := chosenInstance instanceTime previous
  if d.lastInstance = previous then
    { lastInstance := chosen
      selecting := d.selecting.eraseIdx i
      adapters :=
        if granted then d.adapters ++ [Adapter.initial chosen.toUInt64 dbg contents]
        else d.adapters }
  else { d with selecting := d.selecting.set i (.read instanceTime) }

def step (d : Driver) : DriverAction → Option Driver
  | .findAdapter instanceTime => some { d with selecting := d.selecting ++ [.read instanceTime] }
  | .select i granted dbg contents =>
    match d.selecting[i]? with
    | some (.read instanceTime) =>
      some { d with selecting := d.selecting.set i (.exchange instanceTime d.lastInstance) }
    | some (.exchange instanceTime previous) =>
      some (d.exchange i instanceTime previous granted dbg contents)
    | none => none
  | .adapter i action =>
    match d.adapters[i]? with
    | some a =>
      match a.step action with
      | some b => some { d with adapters := d.adapters.set i b }
      | none => none
    | none => none

def system : System Driver DriverAction where
  initial d := d = {}
  step := step

/-- Instance numbers stay below the limit of a LONG64. -/
def belowLimit : Contract Driver DriverAction := fun d action =>
  ∀ i granted dbg contents instanceTime previous, action = .select i granted dbg contents →
    d.selecting[i]? = some (.exchange instanceTime previous) → previous.toInt < 2 ^ 63 - 1

/-- The pairs that `ReserveOperation` has returned on all adapters. -/
def handles (d : Driver) : List (ULONGLONG × ULONGLONG) :=
  d.adapters.flatMap fun a =>
    a.history.reservations.map fun operation => (a.extension.adapterInstance, operation)

end Driver

end WispDisk
