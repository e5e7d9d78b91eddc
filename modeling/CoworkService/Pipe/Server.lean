import CoworkService.Pipe.Protocol
import CoworkService.Pipe.Handlers

/-!
# One connection: a reply per request

`Server.handleConnection` reads frames until a read fails or shutdown is
observed, and hands each payload to `Handle`.  A successful
`subscribeEvents` writes its acknowledgement and then reads, and drops,
frames until a read fails; the connection loop then carries on from where that
read stopped.

The specification side is the table of §4.2: which backend operation a method
calls, with which decoded parameters, and the shape of its result.
`Conversation` says, from that table alone, which replies one connection is
owed; `handleConnection_conversation` proves the loop writes them for every
byte stream, every backend and every shutdown time.
-/

namespace CoworkService.Pipe

/-- What a failed `ReadMessage` leaves unread: a short header or payload used
up the stream, a bad declared length only the header. -/
def ReadMessageError.unread : ReadMessageError → Bytes → Bytes
  | .lengthPrefix _, _ | .payload _ _, _ => []
  | .zeroLength, stream | .tooLarge _, stream => stream.drop 4

theorem ReadMessageError.length_unread_le (failure : ReadMessageError) (stream : Bytes) :
    (failure.unread stream).length ≤ stream.length := by
  cases failure <;> simp [unread]

/-- The read loop of `handleSubscribeEvents`: frames are read and dropped until
a read fails, and what that read left stays on the connection. -/
def drainFrames (stream : Bytes) : Bytes :=
  match read : readMessage stream with
  | .ok (_, rest) => drainFrames rest
  | .error failure => failure.unread stream
termination_by stream.length
decreasing_by exact readMessage_rest_lt read

theorem length_drainFrames_le (stream : Bytes) : (drainFrames stream).length ≤ stream.length := by
  induction stream using drainFrames.induct with
  | case1 stream payload rest read induction =>
      rw [drainFrames, read]
      exact induction.trans (readMessage_rest_lt read).le
  | case2 stream failure read =>
      rw [drainFrames, read]
      exact failure.length_unread_le stream

section Loop

variable {σ : Type} (backend : VMBackend σ) (decoders : Decoders)

/-- The `for` loop of `handleConnection` from its `iteration`-th turn; `quit`
says whether the `quit` channel is closed when that turn checks it.  The result
lists the replies written, in order, with the final backend state. -/
def serve (quit : Nat → Bool) (iteration : Nat) (stream : Bytes) (state : σ) :
    List Response × σ :=
  if quit iteration then ([], state)
  else
    match read : readMessage stream with
    | .error _ => ([], state)
    | .ok (payload, rest) =>
        match handle backend decoders payload state with
        | .replied response after =>
            let later := serve quit (iteration + 1) rest after
            (response :: later.1, later.2)
        | .subscribed cancel after =>
            let later := serve quit (iteration + 1) (drainFrames rest) (cancel after)
            (subscribeAck :: later.1, later.2)
termination_by stream.length
decreasing_by
  all_goals first
    | exact readMessage_rest_lt read
    | exact (length_drainFrames_le rest).trans_lt (readMessage_rest_lt read)

/-- `Server.handleConnection` on the bytes a client sends before closing. -/
def handleConnection (quit : Nat → Bool) (stream : Bytes) (state : σ) : List Response × σ :=
  serve backend decoders quit 0 stream state

end Loop

/-! ### The table of §4.2 -/

/-- Decode required parameters, reporting the decoder's error text. -/
def required {α β : Type} : α × Option Bytes → (α → β) → Except Bytes β
  | (_, some detail), _ => .error detail
  | (value, none), call => .ok (call value)

section Table

variable {σ : Type} (backend : VMBackend σ) (decoders : Decoders)

/-- The backend operation each method calls, on its decoded parameter record;
an error when required parameters do not decode.  `isRunning`,
`isGuestConnected` and `subscribeEvents` decode a present `params` and use the
record whatever the outcome; `getDownloadStatus` reads none. -/
def Method.invoke : Method → Bytes → σ → Except Bytes (Except Bytes Result × σ)
  | .configure, params, state => required (decoders.configure params) fun p =>
      noResult (backend.configure p.memory p.cpus state)
  | .createVM, params, state => required (decoders.vmName params) fun p =>
      noResult (backend.createVM p.name state)
  | .startVM, params, state => required (decoders.vmName params) fun p =>
      noResult (backend.startVM p.name state)
  | .stopVM, params, state => required (decoders.vmName params) fun p =>
      noResult (backend.stopVM p.name state)
  | .isRunning, params, state =>
      .ok (withResult .running (backend.isRunning (optionalName decoders params) state))
  | .isGuestConnected, params, state =>
      .ok (withResult .connected (backend.isGuestConnected (optionalName decoders params) state))
  | .spawn, params, state => required (decoders.spawn params) fun p =>
      withResult .id (backend.spawn p.name p.id p.cmd p.args p.env p.cwd
        (p.additionalMounts.map fun mount => (mount.1, mount.2.path)) state)
  | .kill, params, state => required (decoders.processId params) fun p =>
      noResult (backend.kill p.processId state)
  | .writeStdin, params, state => required (decoders.writeStdin params) fun p =>
      noResult (backend.writeStdin p.processId p.data state)
  | .isProcessRunning, params, state => required (decoders.processId params) fun p =>
      withResult .running (backend.isProcessRunning p.processId state)
  | .mountPath, params, state => required (decoders.mountPath params) fun p =>
      noResult (backend.mountPath p.name p.hostPath p.guestPath state)
  | .readFile, params, state => required (decoders.readFile params) fun p =>
      withResult .data (backend.readFile p.name p.path state)
  | .installSdk, params, state => required (decoders.vmName params) fun p =>
      noResult (backend.installSdk p.name state)
  | .addApprovedOauthToken, params, state => required (decoders.oauthToken params) fun p =>
      noResult (backend.addApprovedOauthToken p.name p.token state)
  | .setDebugLogging, params, state => required (decoders.debugLogging params) fun p =>
      (.ok .none, backend.setDebugLogging p.enabled state)
  | .subscribeEvents, params, state =>
      .ok (withResult (fun _ => .subscribed)
        (backend.subscribeEvents (optionalName decoders params) state))
  | .getDownloadStatus, _, state => .ok (.ok (.status (backend.getDownloadStatus state)), state)
where
  /-- The `name` of an optional `vmNameParams`. -/
  optionalName (decoders : Decoders) (params : Bytes) : Bytes :=
    if params = [] then [] else (decoders.vmName params).1.name

/-- The result shape of each method: `null`, `{running}`, `{connected}`,
`{id}`, `{data}`, `{subscribed}` or `{status}`. -/
def Method.Returns : Method → Result → Prop
  | .isRunning, result | .isProcessRunning, result => ∃ value, result = .running value
  | .isGuestConnected, result => ∃ value, result = .connected value
  | .spawn, result => ∃ value, result = .id value
  | .readFile, result => ∃ value, result = .data value
  | .subscribeEvents, result => result = .subscribed
  | .getDownloadStatus, result => ∃ value, result = .status value
  | _, result => result = .none

/-- The reply one request is owed, and the backend state after it: `Parse
error` for a payload that is no request, `Method not found: <m>` for a name
outside the table, `Invalid params: <detail>` when required parameters do not
decode, the backend's error text when the call fails, and otherwise success
with the method's result shape. -/
def Answers (payload : Bytes) (state : σ) (response : Response) (after : σ) : Prop :=
  match decoders.request payload with
  | (_, some _) => response = .failure (ascii "Parse error") ∧ after = state
  | (request, none) =>
      match Method.ofName? request.method with
      | none => response = .failure (ascii "Method not found: " ++ request.method) ∧
          after = state
      | some method =>
          match method.invoke backend decoders request.params state with
          | .error detail => response = invalidParams detail ∧ after = state
          | .ok (.error message, called) => response = .failure message ∧ after = called
          | .ok (.ok result, called) =>
              response = .success result ∧ method.Returns result ∧ after = called

/-- A request that subscribes successfully. -/
def Subscribes (payload : Bytes) (state : σ) : Prop :=
  ∃ request, decoders.request payload = (request, none) ∧
    Method.ofName? request.method = some .subscribeEvents ∧
    ∃ cancel after, backend.subscribeEvents
      (Method.invoke.optionalName decoders request.params) state = (.ok cancel, after)

/-- The replies one connection is owed from its `iteration`-th turn: none once
shutdown is seen or a read fails; otherwise the answer to the request read,
then the replies owed for the rest, until a successful subscription, whose
acknowledgement is the last reply this specification speaks about. -/
inductive Conversation (quit : Nat → Bool) : Nat → σ → Bytes → List Response → Prop where
  | shutdown {iteration state stream} : quit iteration = true →
      Conversation quit iteration state stream []
  | rejected {iteration state stream failure} : quit iteration = false →
      readMessage stream = .error failure → Conversation quit iteration state stream []
  | answer {iteration state stream payload rest response after responses} :
      quit iteration = false → readMessage stream = .ok (payload, rest) →
      ¬ Subscribes backend decoders payload state →
      Answers backend decoders payload state response after →
      Conversation quit (iteration + 1) after rest responses →
      Conversation quit iteration state stream (response :: responses)
  | subscribe {iteration state stream payload rest responses} :
      quit iteration = false → readMessage stream = .ok (payload, rest) →
      Subscribes backend decoders payload state →
      Conversation quit iteration state stream (subscribeAck :: responses)

end Table

/-! ### The dispatcher meets the table -/

theorem Method.ofName?_eq_some {name : Bytes} {method : Method}
    (found : Method.ofName? name = some method) : method.name = name := by
  simpa using List.find?_some found

theorem Method.ofName?_isSome_iff (name : Bytes) :
    (Method.ofName? name).isSome ↔ ∃ method : Method, method.name = name := by
  constructor
  · intro found
    obtain ⟨method, equal⟩ := Option.isSome_iff_exists.mp found
    exact ⟨method, Method.ofName?_eq_some equal⟩
  · rintro ⟨method, rfl⟩
    simp only [Method.ofName?, List.find?_isSome, beq_iff_eq]
    exact ⟨method, by cases method <;> decide, rfl⟩

section Refinement

variable {σ : Type} (backend : VMBackend σ) (decoders : Decoders)

/-- The reply a table outcome calls for. -/
def replyOf (state : σ) : Except Bytes (Except Bytes Result × σ) → Response × σ
  | .error detail => (invalidParams detail, state)
  | .ok (.error message, after) => (.failure message, after)
  | .ok (.ok result, after) => (.success result, after)

theorem handleRequired_eq_replyOf {α : Type} (decode : Unmarshal α)
    (call : α → σ → Except Bytes Result × σ) (params : Bytes) (state : σ) :
    handleRequired decode call params state =
      replyOf state (required (decode params) fun value => call value state) := by
  unfold handleRequired
  rcases decode params with ⟨value, _ | detail⟩
  · dsimp only [required]
    rcases call value state with ⟨_ | _, after⟩ <;> rfl
  · rfl

theorem handleOptional_eq_replyOf {α : Type} (decode : Unmarshal α) (zero : α)
    (call : α → σ → Except Bytes Result × σ) (params : Bytes) (state : σ) :
    handleOptional decode zero call params state =
      replyOf state (.ok (call (if params = [] then zero else (decode params).1) state)) := by
  unfold handleOptional
  dsimp only
  rcases call (if params = [] then zero else (decode params).1) state with
    ⟨_ | _, after⟩ <;> rfl

theorem required_eq_ok {α β : Type} {decoded : α × Option Bytes} {call : α → β} {value : β}
    (success : required decoded call = .ok value) :
    ∃ record, decoded = (record, none) ∧ call record = value := by
  rcases decoded with ⟨record, _ | detail⟩
  · exact ⟨record, rfl, by simpa [required] using success⟩
  · simp [required] at success

theorem noResult_eq_ok {outcome : Option Bytes × σ} {result : Result} {after : σ}
    (success : noResult outcome = (.ok result, after)) : result = .none := by
  rcases outcome with ⟨_ | _, _⟩ <;> simp_all [noResult]

theorem withResult_eq_ok {α : Type} {wrap : α → Result} {outcome : Except Bytes α × σ}
    {result : Result} {after : σ} (success : withResult wrap outcome = (.ok result, after)) :
    ∃ value, result = wrap value := by
  rcases outcome with ⟨_ | value, _⟩
  · simp [withResult] at success
  · simp only [withResult, Prod.mk.injEq, Except.ok.injEq] at success
    exact ⟨value, success.1.symm⟩

/-- Every successful table call has its method's result shape. -/
theorem Method.invoke_returns (method : Method) {params : Bytes} {state after : σ}
    {result : Result}
    (success : method.invoke backend decoders params state = .ok (.ok result, after)) :
    method.Returns result := by
  cases method <;> simp only [Method.invoke] at success
  all_goals first
    | (obtain ⟨record, -, called⟩ := required_eq_ok success
       first
        | exact noResult_eq_ok called
        | exact withResult_eq_ok called
        | (simp only [Prod.mk.injEq, Except.ok.injEq] at called
           exact called.1.symm))
    | (simp only [Except.ok.injEq] at success
       first
        | exact withResult_eq_ok success
        | (obtain ⟨_, rfl⟩ := withResult_eq_ok success
           rfl)
        | exact ⟨_, (Prod.mk.inj success).1 |> Except.ok.inj |>.symm⟩)

/-- Every method but `subscribeEvents` replies with what the table calls for. -/
theorem Method.handle_eq_replyOf {method : Method} (ordinary : method ≠ .subscribeEvents)
    (params : Bytes) (state : σ) :
    method.handle backend decoders params state =
      Handled.ofReply (replyOf state (method.invoke backend decoders params state)) := by
  cases method <;> simp only [Method.handle, Method.invoke, handleConfigure, handleCreateVM,
    handleStartVM, handleStopVM, handleIsRunning, handleIsGuestConnected, handleSpawn,
    handleKill, handleWriteStdin, handleIsProcessRunning, handleMountPath, handleReadFile,
    handleInstallSdk, handleAddApprovedOauthToken, handleSetDebugLogging,
    handleGetDownloadStatus, handleRequired_eq_replyOf, handleOptional_eq_replyOf,
    Method.invoke.optionalName, Function.comp_apply] <;> first
      | rfl
      | (split <;> rfl)
      | exact absurd rfl ordinary

theorem handleSubscribeEvents_eq (params : Bytes) (state : σ) :
    handleSubscribeEvents backend decoders params state =
      match backend.subscribeEvents (Method.invoke.optionalName decoders params) state with
      | (.error message, after) => .replied (.failure message) after
      | (.ok cancel, after) => .subscribed cancel after := by
  unfold handleSubscribeEvents Method.invoke.optionalName
  split <;> rfl

theorem replyOf_answers {method : Method} {request : Request} {payload : Bytes} {state : σ}
    (decoded : decoders.request payload = (request, none))
    (found : Method.ofName? request.method = some method) :
    Answers backend decoders payload state
      (replyOf state (method.invoke backend decoders request.params state)).1
      (replyOf state (method.invoke backend decoders request.params state)).2 := by
  unfold Answers
  rw [decoded]
  dsimp only
  rw [found]
  dsimp only
  rcases invoked : method.invoke backend decoders request.params state with
    detail | ⟨message | result, after⟩
  · exact ⟨rfl, rfl⟩
  · exact ⟨rfl, rfl⟩
  · exact ⟨rfl, method.invoke_returns backend decoders invoked, rfl⟩

theorem subscribes_iff {request : Request} {detail : Option Bytes} {payload : Bytes}
    {state : σ} (decoded : decoders.request payload = (request, detail)) :
    Subscribes backend decoders payload state ↔ detail = none ∧
      Method.ofName? request.method = some .subscribeEvents ∧
      ∃ cancel after, backend.subscribeEvents
        (Method.invoke.optionalName decoders request.params) state = (.ok cancel, after) := by
  simp only [Subscribes, decoded, Prod.mk.injEq]
  constructor
  · rintro ⟨_, ⟨rfl, rfl⟩, rest⟩
    exact ⟨rfl, rest⟩
  · rintro ⟨rfl, rest⟩
    exact ⟨request, ⟨rfl, rfl⟩, rest⟩

/-- One turn of `Handle` against the table: a reply is the one `Answers` calls
for, to a request that does not subscribe; otherwise the request subscribed. -/
theorem handle_spec (payload : Bytes) (state : σ) :
    match handle backend decoders payload state with
    | .replied response after =>
        Answers backend decoders payload state response after ∧
          ¬ Subscribes backend decoders payload state
    | .subscribed _ _ => Subscribes backend decoders payload state := by
  unfold handle
  rcases decoded : decoders.request payload with ⟨request, _ | detail⟩
  · dsimp only
    rcases found : Method.ofName? request.method with _ | method
    · exact ⟨by simp [Answers, decoded, found],
        by simp [subscribes_iff backend decoders decoded, found]⟩
    · dsimp only
      by_cases ordinary : method = .subscribeEvents
      · subst method
        simp only [Method.handle, handleSubscribeEvents_eq]
        rcases subscribed : backend.subscribeEvents
          (Method.invoke.optionalName decoders request.params) state with
          ⟨message | cancel, after⟩
        · exact ⟨by simp [Answers, decoded, found, Method.invoke, subscribed, withResult],
            by simp [subscribes_iff backend decoders decoded, subscribed]⟩
        · exact ⟨request, decoded, found, cancel, after, subscribed⟩
      · rw [Method.handle_eq_replyOf backend decoders ordinary]
        exact ⟨replyOf_answers backend decoders decoded found,
          by simp [subscribes_iff backend decoders decoded, found, ordinary]⟩
  · exact ⟨by simp [Answers, decoded], by simp [subscribes_iff backend decoders decoded]⟩

end Refinement

section Connection

variable {σ : Type} (backend : VMBackend σ) (decoders : Decoders)

theorem conversation_serve (quit : Nat → Bool) (iteration : Nat) (stream : Bytes)
    (state : σ) :
    Conversation backend decoders quit iteration state stream
      (serve backend decoders quit iteration stream state).1 := by
  induction iteration, stream, state using serve.induct backend decoders quit with
  | case1 iteration stream state shutdown =>
      rw [serve, if_pos shutdown]
      exact .shutdown shutdown
  | case2 iteration stream state running failure read =>
      rw [serve, if_neg running]
      split
      · exact .rejected (Bool.eq_false_iff.mpr running) read
      · simp_all
  | case3 iteration stream state running payload rest read response after replied later =>
      have spec := handle_spec backend decoders payload state
      rw [replied] at spec
      rw [serve, if_neg running]
      split
      · simp_all
      · rename_i payload' rest' read'
        rw [read] at read'
        cases read'
        simp only [replied]
        exact .answer (Bool.eq_false_iff.mpr running) read spec.2 spec.1 later
  | case4 iteration stream state running payload rest read cancel after subscribed later =>
      have spec := handle_spec backend decoders payload state
      rw [subscribed] at spec
      rw [serve, if_neg running]
      split
      · simp_all
      · rename_i payload' rest' read'
        rw [read] at read'
        cases read'
        simp only [subscribed]
        exact .subscribe (Bool.eq_false_iff.mpr running) read spec

/-- One reply per request, in order, and nothing else: on every byte stream,
with every backend and every shutdown time, `handleConnection` writes exactly
the replies `Conversation` owes the connection. -/
theorem handleConnection_conversation (quit : Nat → Bool) (stream : Bytes) (state : σ) :
    Conversation backend decoders quit 0 state stream
      (handleConnection backend decoders quit stream state).1 :=
  conversation_serve backend decoders quit 0 stream state

end Connection

end CoworkService.Pipe
