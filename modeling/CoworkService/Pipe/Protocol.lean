import CoworkService.Basic

/-!
# Length-prefixed frames

`ReadMessage` and `WriteMessage` of `pipe/protocol.go`.  A connection is read
as the finite byte string the peer sends before closing it; `io.ReadFull`
reports `io.EOF` when the stream is already empty and `io.ErrUnexpectedEOF`
when it ends inside the requested bytes.

The main results say that reading inverts writing over whole streams, and that
`readMessage` fails exactly on a short header, a short payload, or a header
outside `1 ..= maxMessageSize`.
-/

namespace CoworkService.Pipe

/-- The errors `io.ReadFull` can report on a stream that ends. -/
inductive IoError where
  | eof
  | unexpectedEOF
  deriving DecidableEq, Repr

/-- `err.Error()` for the two `io` sentinels. -/
def IoError.text : IoError → String
  | .eof => "EOF"
  | .unexpectedEOF => "unexpected EOF"

/-- `io.ReadFull(conn, make([]byte, count))`: the bytes read and the rest. -/
def readFull (count : Nat) (stream : Bytes) : Except IoError (Bytes × Bytes) :=
  if count ≤ stream.length then .ok (stream.take count, stream.drop count)
  else if stream = [] then .error .eof
  else .error .unexpectedEOF

/-- The four failures of `ReadMessage`, with the data their texts print. -/
inductive ReadMessageError where
  | lengthPrefix (cause : IoError)
  | zeroLength
  | tooLarge (length : Nat)
  | payload (length : Nat) (cause : IoError)
  deriving DecidableEq, Repr

/-- The text of each `fmt.Errorf` in `ReadMessage`. -/
def ReadMessageError.text : ReadMessageError → Bytes
  | .lengthPrefix cause => ascii ("reading length prefix: " ++ cause.text)
  | .zeroLength => ascii "zero-length message"
  | .tooLarge length => ascii "message too large: " ++ formatDecimal length ++ ascii " bytes"
  | .payload length cause =>
      ascii "reading payload (" ++ formatDecimal length ++ ascii " bytes): " ++
        ascii cause.text

/-- The 10 MiB limit of `ReadMessage`. -/
def maxMessageSize : Nat := 10 * 1024 * 1024

/-- `ReadMessage`: one frame off the front of the stream, and what is left. -/
def readMessage (stream : Bytes) : Except ReadMessageError (Bytes × Bytes) :=
  match readFull 4 stream with
  | .error cause => .error (.lengthPrefix cause)
  | .ok (lenBuf, rest) =>
      let length := uint32 lenBuf
      if length = 0 then .error .zeroLength
      else if length > maxMessageSize then .error (.tooLarge length)
      else
        match readFull length rest with
        | .error cause => .error (.payload length cause)
        | .ok (payload, rest) => .ok (payload, rest)

/-- `WriteMessage`: the one buffer handed to `conn.Write`, header and payload
together. -/
def writeMessage (data : Bytes) : Bytes :=
  putUint32 (data.length % 2 ^ 32) ++ data

/-- `count` successive `ReadMessage` calls on one connection. -/
def readMessages : Nat → Bytes → Except ReadMessageError (List Bytes × Bytes)
  | 0, stream => .ok ([], stream)
  | count + 1, stream =>
      match readMessage stream with
      | .error failure => .error failure
      | .ok (payload, rest) =>
          match readMessages count rest with
          | .error failure => .error failure
          | .ok (payloads, rest) => .ok (payload :: payloads, rest)

/-- What a sequence of `WriteMessage` calls puts on the wire. -/
def frames (payloads : List Bytes) : Bytes :=
  (payloads.map writeMessage).flatten

/-- A payload `WriteMessage` and `ReadMessage` agree on. -/
def Framable (payload : Bytes) : Prop :=
  1 ≤ payload.length ∧ payload.length ≤ maxMessageSize

/-- The stream shapes `ReadMessage` rejects: it ends inside the header or the
payload, or the header declares `0` or more than `maxMessageSize`. -/
def Rejected (stream : Bytes) : Prop :=
  stream.length < 4 ∨ uint32 stream = 0 ∨ maxMessageSize < uint32 stream ∨
    stream.length < 4 + uint32 stream

instance : DecidablePred Framable :=
  fun _ => inferInstanceAs (Decidable (_ ∧ _))

instance : DecidablePred Rejected :=
  fun _ => inferInstanceAs (Decidable (_ ∨ _))

@[simp] theorem frames_nil : frames [] = [] := rfl

@[simp] theorem frames_cons (payload : Bytes) (payloads : List Bytes) :
    frames (payload :: payloads) = writeMessage payload ++ frames payloads := rfl

@[simp] theorem length_writeMessage (data : Bytes) :
    (writeMessage data).length = 4 + data.length := by
  simp [writeMessage]

theorem uint32_writeMessage_append (data rest : Bytes) :
    uint32 (writeMessage data ++ rest) = data.length % 2 ^ 32 :=
  uint32_putUint32 (Nat.mod_lt _ (by decide))

theorem readFull_of_le {count : Nat} {stream : Bytes} (enough : count ≤ stream.length) :
    readFull count stream = .ok (stream.take count, stream.drop count) := by
  simp [readFull, enough]

theorem readFull_append {front rest : Bytes} {count : Nat} (exact : front.length = count) :
    readFull count (front ++ rest) = .ok (front, rest) := by
  subst count
  simp [readFull]

theorem readFull_isError {count : Nat} {stream : Bytes} :
    (∃ cause, readFull count stream = .error cause) ↔ stream.length < count := by
  unfold readFull
  split
  · simp only [reduceCtorEq, exists_false, false_iff]
    omega
  · split <;> simp <;> omega

theorem uint32_take (stream : Bytes) : uint32 (stream.take 4) = uint32 stream := by
  match stream with
  | _ :: _ :: _ :: _ :: _ => rfl
  | [] | [_] | [_, _] | [_, _, _] => rfl

/-- Reading a written frame gives back its payload whenever the payload is
framable, and leaves every following byte unread. -/
theorem readMessage_writeMessage {payload : Bytes} (framable : Framable payload)
    (rest : Bytes) : readMessage (writeMessage payload ++ rest) = .ok (payload, rest) := by
  obtain ⟨nonempty, small⟩ := framable
  have fits : payload.length < 2 ^ 32 := by
    simp only [maxMessageSize] at small
    omega
  have header : uint32 (putUint32 (payload.length % 2 ^ 32)) = payload.length := by
    rw [Nat.mod_eq_of_lt fits]
    exact uint32_putUint32 fits
  simp only [readMessage, writeMessage, List.append_assoc, readFull_append (length_putUint32 _),
    header, readFull_append rfl, Nat.pos_iff_ne_zero.mp nonempty, if_false, gt_iff_lt,
    not_lt.mpr small]

theorem readMessages_frames_append {payloads : List Bytes}
    (framable : ∀ payload ∈ payloads, Framable payload) (rest : Bytes) :
    readMessages payloads.length (frames payloads ++ rest) = .ok (payloads, rest) := by
  induction payloads with
  | nil => rfl
  | cons payload payloads induction =>
      have first := readMessage_writeMessage (framable payload (by simp))
        (frames payloads ++ rest)
      have later := induction fun other member => framable other (by simp [member])
      simp only [List.length_cons, readMessages, frames_cons, List.append_assoc, first, later]

/-- What a successful read returns: the declared number of bytes after the
header, and the stream after them. -/
theorem readMessage_ok {stream payload rest : Bytes}
    (read : readMessage stream = .ok (payload, rest)) :
    payload = (stream.drop 4).take (uint32 stream) ∧ rest = stream.drop (4 + uint32 stream) ∧
      4 + uint32 stream ≤ stream.length ∧ payload.length = uint32 stream ∧
      Framable payload := by
  unfold readMessage at read
  by_cases short : stream.length < 4
  · obtain ⟨cause, failed⟩ := readFull_isError.mpr short
    simp [failed] at read
  simp only [readFull_of_le (Nat.le_of_not_lt short), uint32_take] at read
  by_cases zero : uint32 stream = 0
  · simp [zero] at read
  by_cases large : maxMessageSize < uint32 stream
  · simp [zero, large] at read
  by_cases payloadShort : (stream.drop 4).length < uint32 stream
  · obtain ⟨cause, failed⟩ := readFull_isError.mpr payloadShort
    simp [zero, large, failed] at read
  simp only [zero, large, if_false, gt_iff_lt, readFull_of_le (Nat.le_of_not_lt payloadShort),
    Except.ok.injEq, Prod.mk.injEq] at read
  obtain ⟨rfl, rfl⟩ := read
  simp only [List.length_drop] at payloadShort
  have length : ((stream.drop 4).take (uint32 stream)).length = uint32 stream := by
    simp only [List.length_take, List.length_drop]
    omega
  refine ⟨rfl, by simp [List.drop_drop, Nat.add_comm], by omega, length, ?_, ?_⟩ <;>
    rw [length] <;> omega

theorem readMessage_rest_lt {stream payload rest : Bytes}
    (read : readMessage stream = .ok (payload, rest)) : rest.length < stream.length := by
  obtain ⟨-, rfl, enough, -, nonempty, -⟩ := readMessage_ok read
  simp only [List.length_drop]
  omega

theorem readMessage_isError_iff (stream : Bytes) :
    (∃ failure, readMessage stream = .error failure) ↔ Rejected stream := by
  unfold readMessage Rejected
  by_cases short : stream.length < 4
  · obtain ⟨cause, failed⟩ := readFull_isError.mpr short
    simp [failed, short]
  · simp only [readFull_of_le (Nat.le_of_not_lt short), uint32_take]
    by_cases zero : uint32 stream = 0
    · simp [zero]
    by_cases large : maxMessageSize < uint32 stream
    · simp [zero, large]
    simp only [zero, large, short, if_false, gt_iff_lt, false_or]
    have payloadFails := @readFull_isError (uint32 stream) (stream.drop 4)
    simp only [List.length_drop] at payloadFails
    split <;> simp_all <;> omega

/-- The frame codec over whole streams: successive reads return the written
payloads in order and leave exactly the trailing bytes, and a read fails
exactly on a rejected stream. -/
theorem frame_codec_round_trip (payloads : List Bytes) (rest : Bytes)
    (framable : ∀ payload ∈ payloads, Framable payload) :
    readMessages payloads.length (frames payloads ++ rest) = .ok (payloads, rest) ∧
      ∀ stream, (∃ failure, readMessage stream = .error failure) ↔ Rejected stream :=
  ⟨readMessages_frames_append framable rest, readMessage_isError_iff⟩

theorem frame_codec_round_trip_two_frames :
    (∀ payload ∈ [[0x7B], [0x7D]], Framable payload) ∧
      (readMessages 2 (frames [[0x7B], [0x7D]] ++ [0]) = .ok ([[0x7B], [0x7D]], [0]) ∧
        ∀ stream, (∃ failure, readMessage stream = .error failure) ↔ Rejected stream) :=
  ⟨by decide, frame_codec_round_trip [[0x7B], [0x7D]] [0] (by decide)⟩

end CoworkService.Pipe
