import CoworkService.Json.Unmarshal
import CoworkService.Vm.SendCommand

/-!
# The manager's calls to the sdk-daemon

`Spawn`, `Kill`, `WriteStdin`, `IsProcessRunning`, `ReadFile`, `InstallSdk` and
`AddApprovedOauthToken` first check that the sdk-daemon is connected (`m.vsock`
set and connected), then send one command with `SendCommand` and turn what it
returns into their own result.  A call is modelled by that check and, when it
passes, the result of `SendCommand`, whose steps are `Vsock.step`.

`Spawn` and `IsProcessRunning` decode the reply into a struct of one field.  A
reply without that member is no error to `json.Unmarshal`, so `Spawn` succeeds
with an empty process id and `IsProcessRunning` reports the process stopped,
whatever else the reply holds: an error the daemon reports in its reply is
taken for an answer.
-/

namespace CoworkService.Vm

open Json

/-- A call to the daemon: `sdk-daemon not connected` unless the check passes,
then the error of `SendCommand`, or the reply read by `read`. -/
def daemonCall {α : Type} (read : Bytes → Except Bytes α) (connected : Bool)
    (result : SendResult) : Except Bytes α :=
  if connected then
    match result with
    | .failure error => .error error.text
    | .response reply => read reply
  else .error SendError.notConnected.text

/-- `Kill`, `WriteStdin`, `InstallSdk` and `AddApprovedOauthToken`: the reply
is not read. -/
def commandCall (connected : Bool) (result : SendResult) : Except Bytes Unit :=
  daemonCall (fun _ => .ok ()) connected result

/-- The daemon's reply to `spawn` decoded into the anonymous struct of one
field `ProcessID string` tagged `processId`, as `Manager.Spawn` and
`Tracker.Spawn` both do: its process id. -/
def spawnReply (text : ErrorText) (reply : Bytes) : Except Bytes Bytes :=
  match unmarshalFields storeString [foldedName "processId"] reply with
  | (values, none) => .ok (values.getD 0 [])
  | (_, some error) =>
      .error (ascii "parsing spawn response: " ++
        text (ascii "struct \x7b ProcessID string \"json:\\\"processId\\\"\" \x7d") reply error)

/-- `Manager.Spawn` once its command is sent. -/
def Manager.spawn (text : ErrorText) : Bool → SendResult → Except Bytes Bytes :=
  daemonCall (spawnReply text)

/-- `Manager.IsProcessRunning` once its command is sent: the reply decoded
into the anonymous struct of one field `Running bool` tagged `running`. -/
def Manager.isProcessRunning (text : ErrorText) : Bool → SendResult → Except Bytes Bool :=
  daemonCall fun reply =>
    match unmarshalFields storeBool [foldedName "running"] reply with
    | (values, none) => .ok (values.getD 0 false)
    | (_, some error) =>
        .error (text (ascii "struct \x7b Running bool \"json:\\\"running\\\"\" \x7d") reply error)

/-- `Manager.ReadFile` once its command is sent: the reply itself. -/
def Manager.readFile : Bool → SendResult → Except Bytes Bytes :=
  daemonCall .ok

/-- `Manager.Kill`. -/
def Manager.kill : Bool → SendResult → Except Bytes Unit := commandCall

/-- `Manager.WriteStdin`. -/
def Manager.writeStdin : Bool → SendResult → Except Bytes Unit := commandCall

/-- `Manager.InstallSdk`. -/
def Manager.installSdk : Bool → SendResult → Except Bytes Unit := commandCall

/-- `Manager.AddApprovedOauthToken`. -/
def Manager.addApprovedOauthToken : Bool → SendResult → Except Bytes Unit := commandCall

/-- `Manager.MountPath`, which sends nothing. -/
def Manager.mountPath : Except Bytes Unit :=
  .error (ascii "dynamic mount not yet implemented; configure mounts before VM start")

example : Manager.spawn (fun _ _ _ => []) true
      (.response (ascii "\x7b\"processId\":\"p-7\"\x7d")) = .ok (ascii "p-7") ∧
    Manager.isProcessRunning (fun _ _ _ => []) true
      (.response (ascii "\x7b\"running\":true\x7d")) = .ok true ∧
    Manager.kill false (.response []) = .error (ascii "sdk-daemon not connected") :=
  ⟨rfl, rfl, rfl⟩

/-! ### Replies without the field -/

theorem storeMembers_unnamed {α : Type} [Inhabited α] (literal : Bytes → α → α × Bool)
    (names : List Bytes) (decoded : List α × Bool) :
    ∀ members : List (Bytes × Bytes),
      (∀ member ∈ members, names.findIdx? (foldsTo (sanitize member.1)) = none) →
      storeMembers (storeField literal names) decoded members = decoded
  | [], _ => rfl
  | member :: members, unnamed => by
      have skipped : storeField literal names decoded (sanitize member.1) member.2
          (numbersIn member.2) = decoded := by
        rw [storeField, unnamed member (List.mem_cons_self _ _)]
      rw [storeMembers, List.foldl_cons, skipped, ← storeMembers]
      exact storeMembers_unnamed literal names decoded members
        fun later member' => unnamed later (List.mem_cons_of_mem _ member')

/-- An object none of whose members names the field of a struct of one field
decodes to the zero struct, without an error. -/
theorem unmarshalFields_unnamed {α : Type} [Inhabited α] (literal : Bytes → α → α × Bool)
    (name : Bytes) (members : List (Bytes × Bytes))
    (values : ∀ member ∈ members, isValue member.2 = true)
    (unnamed : ∀ member ∈ members, foldsTo (sanitize member.1) name = false) :
    unmarshalFields literal [name] (object members) = ([default], none) := by
  rw [unmarshalFields, unmarshalStruct_object _ _ _ values,
    storeMembers_unnamed literal [name] _ members fun member found => by
      simp [List.findIdx?_cons, unnamed member found]]
  rfl

/-- A reply of the daemon that is a JSON object without a `processId` member
makes `Spawn` succeed with an empty process id, and one without a `running`
member makes `IsProcessRunning` report the process stopped, whatever the other
members say: an error the daemon reports in its reply is taken for an
answer. -/
theorem reply_without_field_is_an_answer (text : ErrorText) (members : List (Bytes × Bytes))
    (values : ∀ member ∈ members, isValue member.2 = true)
    (noId : ∀ member ∈ members, foldsTo (sanitize member.1) (foldedName "processId") = false)
    (noRunning :
      ∀ member ∈ members, foldsTo (sanitize member.1) (foldedName "running") = false) :
    Manager.spawn text true (.response (object members)) = .ok [] ∧
      Manager.isProcessRunning text true (.response (object members)) = .ok false := by
  constructor
  · simp only [Manager.spawn, daemonCall, spawnReply, if_true,
      unmarshalFields_unnamed storeString _ members values noId]
    rfl
  · simp only [Manager.isProcessRunning, daemonCall, if_true,
      unmarshalFields_unnamed storeBool _ members values noRunning]
    rfl

theorem reply_without_field_is_an_answer_error :
    (∀ member ∈ [(ascii "error", quote (ascii "no such file"))], isValue member.2 = true) ∧
      (∀ member ∈ [(ascii "error", quote (ascii "no such file"))],
        foldsTo (sanitize member.1) (foldedName "processId") = false) ∧
      (∀ member ∈ [(ascii "error", quote (ascii "no such file"))],
        foldsTo (sanitize member.1) (foldedName "running") = false) ∧
      Manager.spawn (fun _ _ _ => []) true
          (.response (object [(ascii "error", quote (ascii "no such file"))])) = .ok [] ∧
      Manager.isProcessRunning (fun _ _ _ => []) true
          (.response (object [(ascii "error", quote (ascii "no such file"))])) = .ok false :=
  ⟨by decide, by decide, by decide,
    reply_without_field_is_an_answer _ _ (by decide) (by decide) (by decide)⟩

end CoworkService.Vm
