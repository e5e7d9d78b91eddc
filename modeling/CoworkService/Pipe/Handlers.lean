import CoworkService.Json

/-!
# The RPC dispatcher

`Handler.Handle` and its seventeen `handle*` methods of `pipe/handlers.go`,
over the `VMBackend` interface of `pipe/server.go`.

The backend is any state machine: each operation reads and returns a state
`σ`, so a backend that is shared with other connections, or that answers from
an oracle, is one instance.  `encoding/json` decoding is a parameter too: for
each Go type it gives the value `json.Unmarshal` leaves in a zero-valued
target and the error it returns, which is what the handlers read.
-/

namespace CoworkService.Pipe

open Json

/-- `json.Unmarshal(data, &v)` into a zero-valued `v`: the value left in `v`
and `err.Error()` when it fails. -/
abbrev Unmarshal (α : Type) := Bytes → α × Option Bytes

/-- `Request`; `params` is the raw message, empty when the field is absent.
The `id` is never read back and is left out. -/
structure Request where
  method : Bytes
  params : Bytes
  deriving DecidableEq, Repr

structure ConfigureParams where
  memory : Int
  cpus : Int

structure VmNameParams where
  name : Bytes

structure AdditionalMount where
  path : Bytes
  mode : Bytes

structure SpawnParams where
  name : Bytes
  id : Bytes
  cmd : Bytes
  args : List Bytes
  env : List (Bytes × Bytes)
  cwd : Bytes
  additionalMounts : List (Bytes × AdditionalMount)

structure ProcessIdParams where
  processId : Bytes

structure WriteStdinParams where
  processId : Bytes
  data : Bytes

structure MountPathParams where
  name : Bytes
  hostPath : Bytes
  guestPath : Bytes

structure ReadFileParams where
  name : Bytes
  path : Bytes

structure OauthTokenParams where
  name : Bytes
  token : Bytes

structure DebugLoggingParams where
  enabled : Bool

/-- The decoders of `encoding/json` for the request and every parameter type. -/
structure Decoders where
  request : Unmarshal Request
  configure : Unmarshal ConfigureParams
  vmName : Unmarshal VmNameParams
  spawn : Unmarshal SpawnParams
  processId : Unmarshal ProcessIdParams
  writeStdin : Unmarshal WriteStdinParams
  mountPath : Unmarshal MountPathParams
  readFile : Unmarshal ReadFileParams
  oauthToken : Unmarshal OauthTokenParams
  debugLogging : Unmarshal DebugLoggingParams

/-- `VMBackend`.  An `error` is its text, `none` standing for `nil`;
`subscribeEvents` returns the effect of its `cancel` function. -/
structure VMBackend (σ : Type) where
  configure : Int → Int → σ → Option Bytes × σ
  createVM : Bytes → σ → Option Bytes × σ
  startVM : Bytes → σ → Option Bytes × σ
  stopVM : Bytes → σ → Option Bytes × σ
  isRunning : Bytes → σ → Except Bytes Bool × σ
  isGuestConnected : Bytes → σ → Except Bytes Bool × σ
  spawn : Bytes → Bytes → Bytes → List Bytes → List (Bytes × Bytes) → Bytes →
    List (Bytes × Bytes) → σ → Except Bytes Bytes × σ
  kill : Bytes → σ → Option Bytes × σ
  writeStdin : Bytes → Bytes → σ → Option Bytes × σ
  isProcessRunning : Bytes → σ → Except Bytes Bool × σ
  mountPath : Bytes → Bytes → Bytes → σ → Option Bytes × σ
  readFile : Bytes → Bytes → σ → Except Bytes Bytes × σ
  installSdk : Bytes → σ → Option Bytes × σ
  addApprovedOauthToken : Bytes → Bytes → σ → Option Bytes × σ
  setDebugLogging : Bool → σ → σ
  subscribeEvents : Bytes → σ → Except Bytes (σ → σ) × σ
  getDownloadStatus : σ → Bytes

/-- The `result` values the handlers pass to `WriteResponse`. -/
inductive Result where
  /-- `nil`, which `omitempty` drops from the reply. -/
  | none
  | running (value : Bool)
  | connected (value : Bool)
  | id (value : Bytes)
  | data (value : Bytes)
  | subscribed
  | status (value : Bytes)
  deriving DecidableEq, Repr

/-- `Response`, as `WriteResponse` and `WriteError` fill it. -/
inductive Response where
  | success (result : Result)
  | failure (message : Bytes)
  deriving DecidableEq, Repr

/-- The JSON of a non-nil result. -/
def Result.marshal : Result → Bytes
  | .none => ascii "null"
  | .running value => object [(ascii "running", bool value)]
  | .connected value => object [(ascii "connected", bool value)]
  | .id value => object [(ascii "id", quote value)]
  | .data value => object [(ascii "data", quote value)]
  | .subscribed => object [(ascii "subscribed", bool true)]
  | .status value => object [(ascii "status", quote value)]

/-- `json.Marshal(resp)`: `result` and `error` carry `omitempty`. -/
def Response.marshal : Response → Bytes
  | .success .none => object [(ascii "success", bool true)]
  | .success result => object [(ascii "success", bool true), (ascii "result", result.marshal)]
  | .failure message =>
      object ([(ascii "success", bool false)] ++
        if message = [] then [] else [(ascii "error", quote message)])

/-- `WriteError` replies with the message only; its `id` and `code` are not
written. -/
def invalidParams (detail : Bytes) : Response :=
  .failure (ascii "Invalid params: " ++ detail)

/-- The step every handler with required parameters shares: decode, call the
backend, reply with its error text or with the result. -/
def handleRequired {α σ : Type} (decode : Unmarshal α)
    (call : α → σ → Except Bytes Result × σ) (params : Bytes) (state : σ) :
    Response × σ :=
  match decode params with
  | (_, some detail) => (invalidParams detail, state)
  | (value, none) =>
      match call value state with
      | (.error message, state) => (.failure message, state)
      | (.ok result, state) => (.success result, state)

/-- The handlers that decode `params` only when present and ignore the
decoding error. -/
def handleOptional {α σ : Type} (decode : Unmarshal α) (zero : α)
    (call : α → σ → Except Bytes Result × σ) (params : Bytes) (state : σ) :
    Response × σ :=
  let value := if params = [] then zero else (decode params).1
  match call value state with
  | (.error message, state) => (.failure message, state)
  | (.ok result, state) => (.success result, state)

/-- A backend call that only reports an error, replied to with `nil`. -/
def noResult {σ : Type} : Option Bytes × σ → Except Bytes Result × σ
  | (some message, state) => (.error message, state)
  | (none, state) => (.ok .none, state)

/-- A backend call whose value is wrapped into a one-key result map. -/
def withResult {α σ : Type} (wrap : α → Result) :
    Except Bytes α × σ → Except Bytes Result × σ
  | (.error message, state) => (.error message, state)
  | (.ok value, state) => (.ok (wrap value), state)

section Handlers

variable {σ : Type} (backend : VMBackend σ) (decoders : Decoders)

def handleConfigure : Bytes → σ → Response × σ :=
  handleRequired decoders.configure fun p => noResult ∘ backend.configure p.memory p.cpus

def handleCreateVM : Bytes → σ → Response × σ :=
  handleRequired decoders.vmName fun p => noResult ∘ backend.createVM p.name

def handleStartVM : Bytes → σ → Response × σ :=
  handleRequired decoders.vmName fun p => noResult ∘ backend.startVM p.name

def handleStopVM : Bytes → σ → Response × σ :=
  handleRequired decoders.vmName fun p => noResult ∘ backend.stopVM p.name

def handleIsRunning : Bytes → σ → Response × σ :=
  handleOptional decoders.vmName ⟨[]⟩ fun p => withResult .running ∘ backend.isRunning p.name

def handleIsGuestConnected : Bytes → σ → Response × σ :=
  handleOptional decoders.vmName ⟨[]⟩ fun p =>
    withResult .connected ∘ backend.isGuestConnected p.name

/-- `handleSpawn` keeps only the `path` of each additional mount. -/
def handleSpawn : Bytes → σ → Response × σ :=
  handleRequired decoders.spawn fun p =>
    withResult .id ∘ backend.spawn p.name p.id p.cmd p.args p.env p.cwd
      (p.additionalMounts.map fun mount => (mount.1, mount.2.path))

def handleKill : Bytes → σ → Response × σ :=
  handleRequired decoders.processId fun p => noResult ∘ backend.kill p.processId

def handleWriteStdin : Bytes → σ → Response × σ :=
  handleRequired decoders.writeStdin fun p => noResult ∘ backend.writeStdin p.processId p.data

def handleIsProcessRunning : Bytes → σ → Response × σ :=
  handleRequired decoders.processId fun p =>
    withResult .running ∘ backend.isProcessRunning p.processId

def handleMountPath : Bytes → σ → Response × σ :=
  handleRequired decoders.mountPath fun p =>
    noResult ∘ backend.mountPath p.name p.hostPath p.guestPath

def handleReadFile : Bytes → σ → Response × σ :=
  handleRequired decoders.readFile fun p => withResult .data ∘ backend.readFile p.name p.path

def handleInstallSdk : Bytes → σ → Response × σ :=
  handleRequired decoders.vmName fun p => noResult ∘ backend.installSdk p.name

def handleAddApprovedOauthToken : Bytes → σ → Response × σ :=
  handleRequired decoders.oauthToken fun p =>
    noResult ∘ backend.addApprovedOauthToken p.name p.token

/-- `SetDebugLogging` has no error result: the reply is always `nil`. -/
def handleSetDebugLogging : Bytes → σ → Response × σ :=
  handleRequired decoders.debugLogging fun p state =>
    (.ok .none, backend.setDebugLogging p.enabled state)

/-- `handleGetDownloadStatus` reads no parameters at all. -/
def handleGetDownloadStatus (state : σ) : Response × σ :=
  (.success (.status (backend.getDownloadStatus state)), state)

end Handlers

/-- The seventeen names of the `switch` in `Handle`. -/
inductive Method where
  | configure | createVM | startVM | stopVM | isRunning | isGuestConnected | spawn | kill
  | writeStdin | isProcessRunning | mountPath | readFile | installSdk | addApprovedOauthToken
  | setDebugLogging | subscribeEvents | getDownloadStatus
  deriving DecidableEq, Repr

/-- The `case` literal of each method. -/
def Method.name : Method → Bytes
  | .configure => ascii "configure"
  | .createVM => ascii "createVM"
  | .startVM => ascii "startVM"
  | .stopVM => ascii "stopVM"
  | .isRunning => ascii "isRunning"
  | .isGuestConnected => ascii "isGuestConnected"
  | .spawn => ascii "spawn"
  | .kill => ascii "kill"
  | .writeStdin => ascii "writeStdin"
  | .isProcessRunning => ascii "isProcessRunning"
  | .mountPath => ascii "mountPath"
  | .readFile => ascii "readFile"
  | .installSdk => ascii "installSdk"
  | .addApprovedOauthToken => ascii "addApprovedOauthToken"
  | .setDebugLogging => ascii "setDebugLogging"
  | .subscribeEvents => ascii "subscribeEvents"
  | .getDownloadStatus => ascii "getDownloadStatus"

/-- The cases in the order the `switch` lists them. -/
def Method.all : List Method :=
  [.configure, .createVM, .startVM, .stopVM, .isRunning, .isGuestConnected, .spawn, .kill,
    .writeStdin, .isProcessRunning, .mountPath, .readFile, .installSdk,
    .addApprovedOauthToken, .setDebugLogging, .subscribeEvents, .getDownloadStatus]

/-- The `switch req.Method`: the first case whose literal equals the name. -/
def Method.ofName? (name : Bytes) : Option Method :=
  Method.all.find? fun method => method.name == name

/-- What `Handle` leaves behind: a reply written, or, for a successful
`subscribeEvents`, the acknowledgement written and the connection handed to
the read loop that waits for it to fail. -/
inductive Handled (σ : Type) where
  | replied (response : Response) (state : σ)
  | subscribed (cancel : σ → σ) (state : σ)

/-- A handler's reply and the state after it. -/
def Handled.ofReply {σ : Type} : Response × σ → Handled σ
  | (response, state) => .replied response state

/-- The reply `handleSubscribeEvents` writes once the callback is registered. -/
def subscribeAck : Response := .success .subscribed

section Handle

variable {σ : Type} (backend : VMBackend σ) (decoders : Decoders)

/-- `handleSubscribeEvents` up to its read loop. -/
def handleSubscribeEvents (params : Bytes) (state : σ) : Handled σ :=
  let p : VmNameParams := if params = [] then ⟨[]⟩ else (decoders.vmName params).1
  match backend.subscribeEvents p.name state with
  | (.error message, state) => .replied (.failure message) state
  | (.ok cancel, state) => .subscribed cancel state

/-- The handler each method dispatches to. -/
def Method.handle : Method → Bytes → σ → Handled σ
  | .configure, params, state => .ofReply (handleConfigure backend decoders params state)
  | .createVM, params, state => .ofReply (handleCreateVM backend decoders params state)
  | .startVM, params, state => .ofReply (handleStartVM backend decoders params state)
  | .stopVM, params, state => .ofReply (handleStopVM backend decoders params state)
  | .isRunning, params, state => .ofReply (handleIsRunning backend decoders params state)
  | .isGuestConnected, params, state =>
      .ofReply (handleIsGuestConnected backend decoders params state)
  | .spawn, params, state => .ofReply (handleSpawn backend decoders params state)
  | .kill, params, state => .ofReply (handleKill backend decoders params state)
  | .writeStdin, params, state => .ofReply (handleWriteStdin backend decoders params state)
  | .isProcessRunning, params, state =>
      .ofReply (handleIsProcessRunning backend decoders params state)
  | .mountPath, params, state => .ofReply (handleMountPath backend decoders params state)
  | .readFile, params, state => .ofReply (handleReadFile backend decoders params state)
  | .installSdk, params, state => .ofReply (handleInstallSdk backend decoders params state)
  | .addApprovedOauthToken, params, state =>
      .ofReply (handleAddApprovedOauthToken backend decoders params state)
  | .setDebugLogging, params, state =>
      .ofReply (handleSetDebugLogging backend decoders params state)
  | .subscribeEvents, params, state => handleSubscribeEvents backend decoders params state
  | .getDownloadStatus, _, state => .ofReply (handleGetDownloadStatus backend state)

/-- `Handle`: parse the payload, then dispatch on the method name. -/
def handle (payload : Bytes) (state : σ) : Handled σ :=
  match decoders.request payload with
  | (_, some _) => .replied (.failure (ascii "Parse error")) state
  | (request, none) =>
      match Method.ofName? request.method with
      | some method => method.handle backend decoders request.params state
      | none => .replied (.failure (ascii "Method not found: " ++ request.method)) state

end Handle

end CoworkService.Pipe
