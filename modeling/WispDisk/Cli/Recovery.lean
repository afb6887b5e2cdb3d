import WispDisk.Cli.Control

/-! `recovery.rs`: `resolve_operation` as the sequence of calls it makes of its attempt. A
`Resolution` is where the loop is between two calls; the answer of a call leads to the next. -/
namespace WispDisk
set_option autoImplicit false

namespace OperationResponse

def isValidReservation (r : OperationResponse) : Bool :=
  r.adapterInstance != 0 && r.operationId != 0 &&
    (r.mutation == wispDiskControlCreateDisk || r.mutation == wispDiskControlDeleteDisk) &&
    r.state == OperationState.reserved.code

def matchesOperation (r : OperationResponse) (adapterInstance id : ULONGLONG) (mutation : ULONG) :
    Bool :=
  r.adapterInstance == adapterInstance && r.operationId == id && r.mutation == mutation

def isValidCreatedDisk (r : OperationResponse) : Bool :=
  r.adapterInstance != 0 && r.operationId != 0 && r.mutation == wispDiskControlCreateDisk &&
    r.state == OperationState.succeeded.code && r.resultStatus == 0 && r.deviceId != 0 &&
    r.pathId == 0 && r.targetId == 0 && decide (r.lun.toNat < wispdiskMaximumDiskCount.toNat)

end OperationResponse

namespace Cli

/-- `DriverRejection::is_terminal`: STATUS_DEVICE_BUSY leaves the reserved operation available. -/
def isTerminal (rejection : NTSTATUS) : Bool := rejection != statusDeviceBusy

inductive RecoveryAction
  | submit
  | query
  deriving DecidableEq

inductive RecoveryProgress
  | complete (reply : OperationResponse)
  | reserved
  | pending
  | invalid (error : Error)

namespace OperationHandle

/-- `OperationHandle::try_from` of a reply. -/
def ofReservation (response : OperationResponse) : Except Error OperationHandle :=
  if response.isValidReservation then
    .ok { adapterInstance := response.adapterInstance, id := response.operationId }
  else .error (.message "driver returned an invalid operation reservation")

def interpret (handle : OperationHandle) (reply : OperationResponse) (mutation : ULONG) :
    Except Error RecoveryProgress :=
  if reply.matchesOperation handle.adapterInstance handle.id mutation = false then
    .ok (.invalid (.message "operation query returned a different identity"))
  else if reply.state = OperationState.succeeded.code ∧ reply.resultStatus = 0 then
    .ok (.complete reply)
  else if reply.state = OperationState.failed.code ∧ reply.resultStatus < 0 then
    .error (.driverRejection reply.resultStatus)
  else if reply.state = OperationState.deleted.code then
    .error (.message ("operation " ++ toString handle.id ++ " created device " ++
      toString reply.deviceId ++ " which has already been deleted"))
  else if reply.state = OperationState.reserved.code then .ok .reserved
  else if reply.state = OperationState.pending.code then .ok .pending
  else .ok (.invalid (.message "driver returned an invalid operation state or result"))

end OperationHandle

def recoveryFailed (primary : Error) (action : String) (recovery : Error) : Error :=
  .recoveryFailure action recovery primary

namespace Error

/-- `downcast_ref::<RecoveryFailure>`: the action and the cause of the outermost one. -/
def recovery? : Error → Option (String × Error)
  | message _ => none
  | os _ _ => none
  | driverRejection _ => none
  | context _ source => source.recovery?
  | unresolvedOutcome _ source => source.recovery?
  | recoveryFailure action cause _ => some (action, cause)

theorem recovery?_lt {error : Error} {failure : String × Error}
    (h : error.recovery? = some failure) : sizeOf failure.2 < sizeOf error := by
  induction error with
  | message text => cases h
  | os action code => cases h
  | driverRejection status => cases h
  | context text source ih =>
    have hsource := ih h
    simp only [context.sizeOf_spec]
    omega
  | unresolvedOutcome handle source ih =>
    have hsource := ih h
    simp only [unresolvedOutcome.sizeOf_spec]
    omega
  | recoveryFailure action cause source ih₁ ih₂ =>
    cases h
    simp only [recoveryFailure.sizeOf_spec]
    omega

/-- `is_unresolved`. -/
def isUnresolved (error : Error) : Bool :=
  error.unresolved?.isSome ||
    match _h : error.recovery? with
    | none => false
    | some failure => isUnresolved failure.2
termination_by sizeOf error
decreasing_by exact recovery?_lt _h

end Error

/-- `error_exit_code`. -/
def errorExitCode (error : Error) : UInt8 := if error.isUnresolved then 3 else 1

structure RecoveryErrors where
  submission : Option Error := none
  query : Option Error := none

namespace RecoveryErrors

def recordSubmission (errors : RecoveryErrors) (error : Error) : Except Error RecoveryErrors :=
  if error.rejection?.any isTerminal then .error error
  else .ok { errors with submission := some error }

def recordQuery (errors : RecoveryErrors) (error : Error) : RecoveryErrors :=
  { errors with query := some error }

def unresolved (errors : RecoveryErrors) (handle : OperationHandle) : Error :=
  let cause := match errors.submission, errors.query with
    | some first, some last => some (recoveryFailed first "operation query also failed" last)
    | first, last => first <|> last
  .unresolvedOutcome handle
    (cause.getD (.message "operation remained pending past the recovery deadline"))

end RecoveryErrors

/-! ## The loop -/

/-- The call that the loop of `resolve_operation` makes next, or its result. -/
inductive Resolution
  | submitting (errors : RecoveryErrors)
  | querying (errors : RecoveryErrors)
  | waiting (action : RecoveryAction) (errors : RecoveryErrors)
  | returned (result : Except Error OperationResponse)

/-- A call of the attempt with its answer. -/
inductive RecoveryEvent
  | submit (result : Except Error OperationResponse)
  | query (result : Except Error OperationResponse)
  | wait (again : Bool)

namespace Resolution

def start : Resolution := .submitting {}

def next (errors : RecoveryErrors) : RecoveryAction → Resolution
  | .submit => .submitting errors
  | .query => .querying errors

/-- What the loop makes of `current`. -/
def settle (handle : OperationHandle) (mutation : ULONG) (errors : RecoveryErrors)
    (current : Except Error OperationResponse) : Resolution :=
  match current with
  | .ok reply =>
    match handle.interpret reply mutation with
    | .error error => .returned (.error error)
    | .ok (.complete reply) => .returned (.ok reply)
    | .ok .reserved => .waiting .submit errors
    | .ok .pending => .waiting .query errors
    | .ok (.invalid error) => .waiting .query (errors.recordQuery error)
  | .error error => .waiting .query (errors.recordQuery error)

def step (handle : OperationHandle) (mutation : ULONG) :
    Resolution → RecoveryEvent → Option Resolution
  | .submitting errors, .submit (.ok reply) => some (settle handle mutation errors (.ok reply))
  | .submitting errors, .submit (.error error) =>
    match errors.recordSubmission error with
    | .error error => some (.returned (.error error))
    -- the `continue`: the query comes without a wait
    | .ok errors => some (.querying errors)
  | .querying errors, .query current => some (settle handle mutation errors current)
  | .waiting action errors, .wait true => some (next errors action)
  | .waiting _ errors, .wait false => some (.returned (.error (errors.unresolved handle)))
  | _, _ => none

end Resolution

/-! ## Attempts -/

/-- `RecoveryAttempt` over the state of its transport and clock. -/
structure RecoveryAttempt (τ : Type) where
  submit : τ → Except Error OperationResponse × τ
  query : τ → Except Error OperationResponse × τ
  waitForRetry : τ → Bool × τ

namespace RecoveryAttempt

variable {τ : Type} (attempt : RecoveryAttempt τ)

/-- The call that the loop makes in a state of the attempt. -/
def call (t : τ) : Resolution → Option (RecoveryEvent × τ)
  | .submitting _ => some (.submit (attempt.submit t).1, (attempt.submit t).2)
  | .querying _ => some (.query (attempt.query t).1, (attempt.query t).2)
  | .waiting _ _ => some (.wait (attempt.waitForRetry t).1, (attempt.waitForRetry t).2)
  | .returned _ => none

/-- The first `n` calls of `resolve_operation` from a point of its loop. -/
def calls (handle : OperationHandle) (mutation : ULONG) :
    ℕ → τ → Resolution → List RecoveryEvent × Resolution
  | 0, _, r => ([], r)
  | n + 1, t, r =>
    match attempt.call t r with
    | none => ([], r)
    | some (event, t) =>
      match r.step handle mutation event with
      | none => ([], r)
      | some r =>
        let (events, r) := calls handle mutation n t r
        (event :: events, r)

/-- `resolve_operation`, cut off after `n` calls. -/
def resolveOperation (handle : OperationHandle) (mutation : ULONG) (n : ℕ) (t : τ) :
    List RecoveryEvent × Resolution :=
  attempt.calls handle mutation n t .start

end RecoveryAttempt

end Cli

end WispDisk
