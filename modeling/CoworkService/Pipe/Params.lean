import CoworkService.Pipe.Request
import CoworkService.Pipe.Server

/-!
# Decoding the parameters

Each handler decodes `req.Params` with `json.Unmarshal(req.Params, &p)` into a
parameter type of its own.  All of them but `spawnParams` are flat structs of
`string`, `int` or `bool` fields, which `Json.unmarshalFields` decodes.  The
members of `spawnParams` (a slice and two maps) are stored by a parameter,
`storeSpawn`; its `checkValid` and its top level are those of every struct.
The texts of the errors are a parameter too, since they differ between Go
versions: the handlers only pass them on after `Invalid params: `.

A request without `params` is answered `Invalid params` by every method that
checks the decoding of its parameters, since no text at all is no JSON value;
and `configure` passes on exactly the integers that fit an `int64`.
-/

namespace CoworkService.Pipe

open Json

/-! ### The parameter types -/

/-- `json.Unmarshal(req.Params, &p)` into `configureParams`. -/
def decodeConfigureParams (params : Bytes) : ConfigureParams × Option UnmarshalError :=
  match unmarshalFields storeInt [foldedName "memory", foldedName "cpus"] params with
  | (values, error) => (⟨values.getD 0 0, values.getD 1 0⟩, error)

/-- `json.Unmarshal(req.Params, &p)` into `vmNameParams`. -/
def decodeVmNameParams (params : Bytes) : VmNameParams × Option UnmarshalError :=
  match unmarshalFields storeString [foldedName "name"] params with
  | (values, error) => (⟨values.getD 0 []⟩, error)

/-- `json.Unmarshal(req.Params, &p)` into `processIDParams`. -/
def decodeProcessIdParams (params : Bytes) : ProcessIdParams × Option UnmarshalError :=
  match unmarshalFields storeString [foldedName "id"] params with
  | (values, error) => (⟨values.getD 0 []⟩, error)

/-- `json.Unmarshal(req.Params, &p)` into `writeStdinParams`. -/
def decodeWriteStdinParams (params : Bytes) : WriteStdinParams × Option UnmarshalError :=
  match unmarshalFields storeString [foldedName "id", foldedName "data"] params with
  | (values, error) => (⟨values.getD 0 [], values.getD 1 []⟩, error)

/-- `json.Unmarshal(req.Params, &p)` into `mountPathParams`. -/
def decodeMountPathParams (params : Bytes) : MountPathParams × Option UnmarshalError :=
  match unmarshalFields storeString
      [foldedName "name", foldedName "hostPath", foldedName "guestPath"] params with
  | (values, error) => (⟨values.getD 0 [], values.getD 1 [], values.getD 2 []⟩, error)

/-- `json.Unmarshal(req.Params, &p)` into `readFileParams`. -/
def decodeReadFileParams (params : Bytes) : ReadFileParams × Option UnmarshalError :=
  match unmarshalFields storeString [foldedName "name", foldedName "path"] params with
  | (values, error) => (⟨values.getD 0 [], values.getD 1 []⟩, error)

/-- `json.Unmarshal(req.Params, &p)` into `oauthTokenParams`. -/
def decodeOauthTokenParams (params : Bytes) : OauthTokenParams × Option UnmarshalError :=
  match unmarshalFields storeString [foldedName "name", foldedName "token"] params with
  | (values, error) => (⟨values.getD 0 [], values.getD 1 []⟩, error)

/-- `json.Unmarshal(req.Params, &p)` into `debugLoggingParams`. -/
def decodeDebugLoggingParams (params : Bytes) : DebugLoggingParams × Option UnmarshalError :=
  match unmarshalFields storeBool [foldedName "enabled"] params with
  | (values, error) => (⟨values.getD 0 false⟩, error)

/-- The zero `spawnParams`. -/
def SpawnParams.zero : SpawnParams := ⟨[], [], [], [], [], [], []⟩

/-- `json.Unmarshal(req.Params, &p)` into `spawnParams`, its members stored by
`storeSpawn`. -/
def decodeSpawnParams (storeSpawn : MemberStore SpawnParams) :
    Bytes → SpawnParams × Option UnmarshalError :=
  unmarshalStruct storeSpawn SpawnParams.zero

example : (decodeMountPathParams (ascii
      "\x7b\"NAME\":\"vm\",\"hostpath\":null,\"guestPath\":\"/mnt\",\"name\":\"x\"\x7d")).1 |>
      fun p => p.name = ascii "x" ∧ p.hostPath = [] ∧ p.guestPath = ascii "/mnt" := by
  decide

example : (decodeConfigureParams (ascii "\x7b\"memory\":2048.0,\"cpus\":2\x7d")).1.cpus = 2 ∧
    (decodeConfigureParams (ascii "\x7b\"memory\":2048.0,\"cpus\":2\x7d")).2 = some .type := by
  decide

/-- A decoder whose errors read as `text` says. -/
def withText {α : Type} (text : ErrorText) (typeName : Bytes)
    (decode : Bytes → α × Option UnmarshalError) : Unmarshal α := fun params =>
  ((decode params).1, (decode params).2.map (text typeName params))

/-- The decoders `json.Unmarshal` gives `Handle` and the handlers. -/
def goDecoders (text : ErrorText) (storeSpawn : MemberStore SpawnParams) : Decoders where
  request := withText text (ascii "pipe.Request") decodeRequest
  configure := withText text (ascii "pipe.configureParams") decodeConfigureParams
  vmName := withText text (ascii "pipe.vmNameParams") decodeVmNameParams
  spawn := withText text (ascii "pipe.spawnParams") (decodeSpawnParams storeSpawn)
  processId := withText text (ascii "pipe.processIDParams") decodeProcessIdParams
  writeStdin := withText text (ascii "pipe.writeStdinParams") decodeWriteStdinParams
  mountPath := withText text (ascii "pipe.mountPathParams") decodeMountPathParams
  readFile := withText text (ascii "pipe.readFileParams") decodeReadFileParams
  oauthToken := withText text (ascii "pipe.oauthTokenParams") decodeOauthTokenParams
  debugLogging := withText text (ascii "pipe.debugLoggingParams") decodeDebugLoggingParams

/-! ### Integers -/

/-- `configure` passes on the memory and the CPU count of its params exactly
when both are integers that fit an `int64`; with any other integer it answers
`Invalid params`, the backend untouched. -/
theorem invoke_configure (text : ErrorText) (storeSpawn : MemberStore SpawnParams)
    {σ : Type} (backend : VMBackend σ) (memory cpus : Int) (state : σ) :
    Method.configure.invoke backend (goDecoders text storeSpawn)
        (object [(ascii "memory", int memory), (ascii "cpus", int cpus)]) state =
      if fitsInt64 memory ∧ fitsInt64 cpus then
        .ok (noResult (backend.configure memory cpus state))
      else .error (text (ascii "pipe.configureParams")
        (object [(ascii "memory", int memory), (ascii "cpus", int cpus)]) .type) := by
  have values : ∀ member ∈ [(ascii "memory", int memory), (ascii "cpus", int cpus)],
      isValue member.2 = true := by
    simp [(isValue_int memory).1, (isValue_int cpus).1]
  simp only [Method.invoke, goDecoders, withText, decodeConfigureParams, unmarshalFields,
    unmarshalStruct_object _ _ _ values, storeMembers, List.foldl_cons, List.foldl_nil,
    storeField_named (show [foldedName "memory", foldedName "cpus"].findIdx?
      (foldsTo (sanitize (ascii "memory"))) = some 0 by decide),
    storeField_named (show [foldedName "memory", foldedName "cpus"].findIdx?
      (foldsTo (sanitize (ascii "cpus"))) = some 1 by decide), storeInt_int]
  by_cases memoryFits : fitsInt64 memory <;> by_cases cpusFits : fitsInt64 cpus <;>
    simp [memoryFits, cpusFits, required]

end CoworkService.Pipe
