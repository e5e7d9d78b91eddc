import CoworkService.Json

/-!
# Events pushed to subscribers

The event structs of the `process` package that the native supervisor emits,
the two `map[string]string` events of the VM manager, and the JSON text
`json.Marshal` makes of each.  `OOMKillCount` is never set, so its
`omitempty` field never appears; `Signal` appears only when it is non-empty.
-/

namespace CoworkService.Process

open Json

/-- The values handed to `emit`, one constructor per Go type. -/
inductive Event where
  /-- `StdoutEvent`. -/
  | stdout (processId data : Bytes)
  /-- `ExitEvent`, with `Signal` empty for a normal exit. -/
  | exit (processId : Bytes) (exitCode : Int) (signal : Bytes)
  /-- `ErrorEvent`. -/
  | error (processId message : Bytes) (fatal : Bool)
  /-- `map[string]string{"type": kind, "name": name}` of `Manager.emitEvent`. -/
  | vm (kind name : Bytes)
  deriving DecidableEq, Repr

/-- `NewStdoutEvent`. -/
def newStdoutEvent (processId data : Bytes) : Event := .stdout processId data

/-- `NewExitEvent`. -/
def newExitEvent (processId : Bytes) (code : Int) : Event := .exit processId code []

/-- `NewExitEventWithSignal`. -/
def newExitEventWithSignal (processId : Bytes) (code : Int) (signal : Bytes) : Event :=
  .exit processId code signal

/-- `NewErrorEvent`. -/
def newErrorEvent (processId message : Bytes) (fatal : Bool) : Event :=
  .error processId message fatal

/-- The process id an event carries, if any. -/
def Event.processId? : Event → Option Bytes
  | .stdout processId _ | .exit processId _ _ | .error processId _ _ => some processId
  | .vm _ _ => none

/-- `json.Marshal(event)`. -/
def Event.marshal : Event → Bytes
  | .stdout processId data =>
      object [(ascii "type", quote (ascii "stdout")), (ascii "id", quote processId),
        (ascii "data", quote data)]
  | .exit processId exitCode signal =>
      object ([(ascii "type", quote (ascii "exit")), (ascii "id", quote processId),
        (ascii "exitCode", int exitCode)] ++
        if signal = [] then [] else [(ascii "signal", quote signal)])
  | .error processId message fatal =>
      object [(ascii "type", quote (ascii "error")), (ascii "id", quote processId),
        (ascii "message", quote message), (ascii "fatal", bool fatal)]
  | .vm kind name => object [(ascii "name", quote name), (ascii "type", quote kind)]

end CoworkService.Process
