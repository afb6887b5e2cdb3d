import WispDisk.Cli.Decoding
import WispDisk.Cli.Mutations
import WispDisk.Foundations.Transition

/-! One call of `create_disk` or `delete_by_id` composed with the driver of its adapter. Between and
during the requests of the call the adapter moves on its own and serves other clients. A request
reaches the driver, which admits it at once, or gets lost; its reply comes back when the driver has
completed it, or any error but a rejection comes back in place of the reply. -/
namespace WispDisk
open Transition Cli
set_option autoImplicit false

structure Session where
  adapter : Adapter
  progress : Progress := .checking
  /-- The SRB of the request that has reached the driver, and the request. -/
  sent : Option (ℕ × Request) := none
  /-- The handle that the driver has reserved for the call. -/
  handle : Option OperationHandle := none

inductive SessionAction
  /-- A step of the adapter that is not for the call. -/
  | driver (action : Action)
  | send (correlationId : ULONGLONG) (now : LONGLONG)
  /-- The request in flight has been completed, as number `i` of the completions. -/
  | receive (i : ℕ)
  /-- The send fails, whether the request has reached the driver or not. -/
  | lose (error : Error)
  | wait (again : Bool)

namespace Session

/-- The handle of the reservation that the adapter has just made. -/
def reservedHandle (before after : Adapter) : Option OperationHandle :=
  (Adapter.reservationOf before.extension after.extension).head?.map fun id =>
    { adapterInstance := before.extension.adapterInstance, id := id }

def step (call : MutationCall) (s : Session) : SessionAction → Option Session
  | .driver action => (s.adapter.step action).map fun a => { s with adapter := a }
  | .send correlationId now =>
    match s.sent, s.progress.request call correlationId with
    | none, some request =>
      (s.adapter.step (.startIo request.toSrb now)).map fun a =>
        { adapter := a
          progress := s.progress
          sent := some (s.adapter.nextSrb, request)
          handle :=
            match s.progress with
            | .reserving => reservedHandle s.adapter a
            | _ => s.handle }
    | _, _ => none
  | .receive i =>
    match s.sent, s.adapter.history.completions[i]? with
    | some (id, request), some (completed, srb) =>
      if completed = id then
        (s.progress.receive call (request.receiveSrb srb)).map fun progress =>
          { s with progress := progress, sent := none }
      else none
    | _, _ => none
  | .lose error =>
    if error.rejection?.isNone then
      (s.progress.receive call (.error error)).map fun progress =>
        { s with progress := progress, sent := none }
    else none
  | .wait again =>
    (s.progress.wait call again).map fun progress => { s with progress := progress }

/-- A call that begins on an adapter in any state. -/
def system (call : MutationCall) : System Session SessionAction where
  initial s := Reachable Adapter.system anyAction s.adapter ∧ s.progress = .checking ∧
    s.sent = none ∧ s.handle = none
  step := step call

end Session

/-- The SRB is a reserved create or delete request for the handle. -/
def Cli.OperationHandle.MutatedBy (handle : OperationHandle) (srb : ScsiRequestBlock) : Prop :=
  ∃ control, ControlRequest.fromSrb srb = some control ∧
    isReservedCode control.ioControl.controlCode = true ∧
    (OperationRequest.read control.payload 0).adapterInstance = handle.adapterInstance ∧
    (OperationRequest.read control.payload 0).operationId = handle.id

/-- Other clients do not use the handle of the call. -/
def Session.othersKeepOff : Contract Session SessionAction := fun s action =>
  ∀ srb now, action = .driver (.startIo srb now) → ∀ handle, s.handle = some handle →
    ¬ handle.MutatedBy srb

end WispDisk
