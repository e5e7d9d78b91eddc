import CoworkService.Json.Value
import CoworkService.Pipe.Writers

/-!
# What a client reads from the connection

Each reply and event the server writes is `json.Marshal` of a struct or a map;
`toValue` gives the JSON value each one is, and `marshal` is the text
`Value.write` makes of it.  A client at the other end frames the stream as
`ReadMessage` does and decodes each payload as `encoding/json` does.

Whatever the schedule of the goroutines writing to one connection, such a
client gets back every frame's value once, with each byte that starts no UTF-8
sequence read as U+FFFD, provided no payload is over `maxMessageSize`.  So the
bytes of a file `readFile` returns, or of an output line relayed as an event,
reach the client unchanged exactly when they are valid UTF-8.
-/

namespace CoworkService.Pipe

open Process Json

/-- The value `json.Marshal` writes for an event. -/
def Event.toValue : Event → Value
  | .stdout processId data =>
      .object [(ascii "type", .string (ascii "stdout")), (ascii "id", .string processId),
        (ascii "data", .string data)]
  | .exit processId exitCode signal =>
      .object ([(ascii "type", .string (ascii "exit")), (ascii "id", .string processId),
        (ascii "exitCode", .int exitCode)] ++
        if signal = [] then [] else [(ascii "signal", .string signal)])
  | .error processId message fatal =>
      .object [(ascii "type", .string (ascii "error")), (ascii "id", .string processId),
        (ascii "message", .string message), (ascii "fatal", .bool fatal)]
  | .vm kind name => .object [(ascii "name", .string name), (ascii "type", .string kind)]

/-- The value of a result. -/
def Result.toValue : Result → Value
  | .none => .null
  | .running value => .object [(ascii "running", .bool value)]
  | .connected value => .object [(ascii "connected", .bool value)]
  | .id value => .object [(ascii "id", .string value)]
  | .data value => .object [(ascii "data", .string value)]
  | .subscribed => .object [(ascii "subscribed", .bool true)]
  | .status value => .object [(ascii "status", .string value)]

/-- The value of a `Response`, `result` and `error` left out when empty. -/
def Response.toValue : Response → Value
  | .success .none => .object [(ascii "success", .bool true)]
  | .success result =>
      .object [(ascii "success", .bool true), (ascii "result", result.toValue)]
  | .failure message =>
      .object ([(ascii "success", .bool false)] ++
        if message = [] then [] else [(ascii "error", .string message)])

/-- The value a frame carries. -/
def ServerFrame.toValue : ServerFrame → Value
  | .reply response => response.toValue
  | .event pushed => Event.toValue pushed

theorem Value.writeFields_append (fields others : List (Bytes × Value)) :
    Value.writeFields (fields ++ others) =
      Value.writeFields fields ++ Value.writeFields others := by
  induction fields with
  | nil => rfl
  | cons field fields ih => obtain ⟨key, value⟩ := field; simp [Value.writeFields, ih]

theorem Event.marshal_eq_write (event : Event) : event.marshal = (Event.toValue event).write := by
  cases event with
  | exit processId exitCode signal =>
      simp only [Event.marshal, Event.toValue, Value.write, Value.writeFields_append]
      split <;> rfl
  | _ => rfl

theorem Response.marshal_eq_write (response : Response) :
    response.marshal = response.toValue.write := by
  cases response with
  | success result => cases result <;> rfl
  | failure message =>
      simp only [Response.marshal, Response.toValue, Value.write, Value.writeFields_append]
      split <;> rfl

theorem ServerFrame.payload_eq_write (frame : ServerFrame) :
    frame.payload = frame.toValue.write := by
  cases frame with
  | reply response => exact response.marshal_eq_write
  | event pushed => exact Event.marshal_eq_write pushed

theorem ServerFrame.decode_payload (frame : ServerFrame) :
    decode frame.payload = some frame.toValue.sanitize := by
  rw [frame.payload_eq_write, decode_write]

/-- Once every goroutine is done, the wire is one whole frame for each payload. -/
theorem WholeFrames.finished {payloads : List (List Bytes)} {writers : Writers}
    (whole : WholeFrames payloads writers) (done : writers.pending.all (· = [])) :
    ∃ order, writers.wire = frames order ∧ order.Perm payloads.flatten := by
  obtain ⟨remaining, sent, pending, wire, perm⟩ := whole
  have empty : remaining.flatten = [] := by
    simp only [pending, List.all_eq_true, List.mem_map, decide_eq_true_eq,
      forall_exists_index, and_imp, forall_apply_eq_imp_iff₂, flatMap_writeCalls,
      List.map_eq_nil_iff] at done
    simpa [List.flatten_eq_nil_iff] using done
  exact ⟨sent, wire, by simpa [empty] using perm⟩

/-- Whatever the schedule of the goroutines writing replies and events to one
connection, once they are done a client that frames the stream as
`ReadMessage` does and decodes each payload gets back the value of every frame
sent, each exactly once, in some order. -/
theorem client_decodes_every_frame (sent : List (List ServerFrame)) (schedule : List Nat)
    (small : ∀ mine ∈ sent, ∀ frame ∈ mine, frame.payload.length ≤ maxMessageSize)
    (done : ((Writers.start writeCalls (sent.map fun mine => mine.map ServerFrame.payload)).run
      schedule).pending.all (· = [])) :
    ∃ payloads, readMessages payloads.length
        ((Writers.start writeCalls (sent.map fun mine => mine.map ServerFrame.payload)).run
          schedule).wire = .ok (payloads, []) ∧
      (payloads.map decode).Perm (sent.flatten.map fun frame => some frame.toValue.sanitize) := by
  have initial : WholeFrames (sent.map fun mine => mine.map ServerFrame.payload)
      (Writers.start writeCalls (sent.map fun mine => mine.map ServerFrame.payload)) :=
    ⟨_, [], rfl, rfl, by simp⟩
  obtain ⟨order, wire, perm⟩ := (initial.run schedule).finished done
  rw [← List.map_flatten] at perm
  have framable : ∀ payload ∈ order, Framable payload := fun payload member => by
    obtain ⟨frame, sentFrame, rfl⟩ := List.mem_map.mp (perm.subset member)
    obtain ⟨mine, mineSent, frameMine⟩ := List.mem_flatten.mp sentFrame
    exact ⟨frame.one_le_length_payload, small mine mineSent frame frameMine⟩
  have read := readMessages_frames_append framable []
  rw [List.append_nil, ← wire] at read
  refine ⟨order, read, ?_⟩
  have decoded := perm.map decode
  rwa [List.map_map, show decode ∘ ServerFrame.payload = fun frame => some frame.toValue.sanitize
    from funext ServerFrame.decode_payload] at decoded

theorem client_decodes_every_frame_reply_and_event :
    (∀ mine ∈ [[ServerFrame.reply (.success .subscribed)],
        [.event (.stdout (ascii "proc-1") (ascii "ok"))]],
      ∀ frame ∈ mine, frame.payload.length ≤ maxMessageSize) ∧
    ((Writers.start writeCalls ([[ServerFrame.reply (.success .subscribed)],
        [.event (.stdout (ascii "proc-1") (ascii "ok"))]].map fun mine =>
          mine.map ServerFrame.payload)).run [1, 0]).pending.all (· = []) ∧
    ∃ payloads, readMessages payloads.length
        ((Writers.start writeCalls ([[ServerFrame.reply (.success .subscribed)],
          [.event (.stdout (ascii "proc-1") (ascii "ok"))]].map fun mine =>
            mine.map ServerFrame.payload)).run [1, 0]).wire = .ok (payloads, []) ∧
      (payloads.map decode).Perm
        ([[ServerFrame.reply (.success .subscribed)],
          [.event (.stdout (ascii "proc-1") (ascii "ok"))]].flatten.map fun frame =>
            some frame.toValue.sanitize) :=
  ⟨by decide, by decide, client_decodes_every_frame _ [1, 0] (by decide) (by decide)⟩

/-- The data of a `readFile` reply and of a `stdout` event, as the client
decodes it: each byte that starts no UTF-8 sequence comes back as U+FFFD, so
the bytes survive exactly when they are valid UTF-8. -/
theorem frame_data_survives_iff_utf8 (id data : Bytes) :
    decode (ServerFrame.reply (.success (.data data))).payload =
        some (.object [(ascii "success", .bool true),
          (ascii "result", .object [(ascii "data", .string (sanitize data))])]) ∧
      decode (ServerFrame.event (newStdoutEvent id data)).payload =
        some (.object [(ascii "type", .string (ascii "stdout")),
          (ascii "id", .string (sanitize id)), (ascii "data", .string (sanitize data))]) ∧
      (sanitize data = data ↔ utf8Valid data = true) := by
  refine ⟨?_, ?_, sanitize_eq_self_iff data⟩ <;> rw [ServerFrame.decode_payload] <;> rfl

/-- The file of the single byte `0xFF` reaches the client as the three bytes
of U+FFFD. -/
theorem readFile_frame_replaces_invalid_byte :
    decode (ServerFrame.reply (.success (.data [0xFF]))).payload =
      some (.object [(ascii "success", .bool true),
        (ascii "result", .object [(ascii "data", .string [0xEF, 0xBF, 0xBD])])]) := by
  rw [ServerFrame.decode_payload]
  rfl

end CoworkService.Pipe
