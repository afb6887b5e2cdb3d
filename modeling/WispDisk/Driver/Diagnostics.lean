import WispDisk.Driver.LunStore

/-! `diagnostics.cpp`: the Debug circular trace, fault injection and the diagnostic control codes.
All of it lives in the `debug` part of the extension, so a Release build leaves the extension
alone. `now` is the performance counter that a trace entry records. -/
namespace WispDisk
open Layout
set_option autoImplicit false

namespace Diagnostics

def kConfigureControlCode : ULONG := 0x8F0
def kReadTraceControlCode : ULONG := 0x8F1
def kMaximumFaultCount : ULONG := 1000
abbrev traceSnapshotCount : ℕ := 16

/-- One event as the source passes it to `Trace`. -/
structure TraceEvent where
  operation : ULONGLONG
  device : ULONG
  phase : TracePhase
  status : NTSTATUS
  srbStatus : ULONG := 0

def record (d : DebugState) (e : TraceEvent) (now : LONGLONG) : DebugState :=
  if d.traceEnabled then
    let sequence := d.traceSequence + 1
    { d with
      traceSequence := sequence
      trace := Function.update d.trace (Fin.ofNat traceEntryCount (sequence - 1).toNat)
        { sequence := sequence
          operationId := e.operation
          timestamp := now
          deviceId := e.device
          phase := e.phase.code
          status := e.status
          srbStatus := e.srbStatus } }
  else d

def traceLocked (ext : AdapterExtension) (e : TraceEvent) (now : LONGLONG) : AdapterExtension :=
  { ext with debug := ext.debug.map fun d => record d e now }

def consumeFault (d : DebugState) : DebugState :=
  if d.faultRemaining ≠ 0 then { d with faultRemaining := d.faultRemaining - 1 } else d

def injectedFault : Option DebugState → Mode
  | some d => if d.faultRemaining ≠ 0 then d.faultMode else .disabled
  | none => .disabled

/-- `TakeFault`: the next injected fault, which uses one of the remaining ones up. -/
def takeFault (ext : AdapterExtension) : AdapterExtension × Mode :=
  ({ ext with debug := ext.debug.map consumeFault }, injectedFault ext.debug)

def configure (ext : AdapterExtension) (d : DebugState) (mode count : ULONG) :
    AdapterExtension × NTSTATUS :=
  match Mode.ofCode mode with
  | some requestedMode =>
    if kMaximumFaultCount < count then (ext, statusInvalidParameter)
    else
      ({ ext with
        debug := some { d with
          traceEnabled := requestedMode != .disabled
          faultMode := requestedMode
          faultRemaining :=
            if requestedMode ≠ .disabled ∧ requestedMode ≠ .traceOnly then count else 0 } },
      statusSuccess)
  | none => (ext, statusInvalidParameter)

/-- The `Configuration` request of the Debug control interface. -/
structure Configuration where
  header : RequestHeader := {}
  mode : ULONG := 0
  count : ULONG := 0

def Configuration.size : ULONG := 32

def Configuration.read (m : Bytes) (o : ℕ) : Configuration where
  header := RequestHeader.read m o
  mode := readULONG m (o + 24)
  count := readULONG m (o + 28)

def TraceEntry.fields (e : TraceEntry) : Fields :=
  [fieldULONGLONG e.sequence, fieldULONGLONG e.operationId, fieldULONGLONG e.timestamp,
    fieldULONG e.deviceId, fieldULONG e.phase, fieldNTSTATUS e.status, fieldULONG e.srbStatus]

/-- `TraceResponse`: the header, then the newest entries of the ring, oldest first. -/
def traceResponse (header : ResponseHeader) (d : DebugState) : Fields :=
  let count := min d.traceSequence.toNat traceSnapshotCount
  let first := d.traceSequence.toNat - count
  header.fields ++ [fieldULONGLONG d.traceSequence, (4, count), (4, 0)] ++
    (List.range traceSnapshotCount).flatMap fun index =>
      TraceEntry.fields
        (if index < count then d.trace (Fin.ofNat traceEntryCount (first + index)) else {})

def traceResponseSize : ULONG := 680

/-- `diagnostics::HandleControl`. -/
def handleControl (ext : AdapterExtension) (control : ControlRequest) :
    AdapterExtension × ControlRequest :=
  let operation := control.ioControl.controlCode
  match ext.debug with
  | none => (ext, control.writeError operation statusNotSupported 0)
  | some d =>
    if operation = kConfigureControlCode then
      let (status, request, header) :=
        control.readRequest Configuration.size Configuration.read {} operation
      if !ntSuccess status then (ext, control.writeError operation status header.correlationId)
      else if control.ioControl.length < ResponseHeader.size then
        (ext, control.writeError operation statusBufferTooSmall header.correlationId)
      else
        let (ext', status) := configure ext d request.mode request.count
        (ext', control.writeError operation status header.correlationId)
    else
      let (status, header) := readAndValidateRequestHeader control.payload
        control.ioControl.length RequestHeader.size operation
      if !ntSuccess status then (ext, control.writeError operation status header.correlationId)
      else if control.ioControl.length < traceResponseSize then
        (ext, control.writeError operation statusBufferTooSmall header.correlationId)
      else
        let header := makeResponseHeader traceResponseSize operation statusSuccess
          header.correlationId
        (ext, control.writeResponse traceResponseSize (traceResponse header d) statusSuccess)

end Diagnostics

end WispDisk
