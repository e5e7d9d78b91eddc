import CoworkService.Pipe.Server
import CoworkService.Process.Events

/-!
# Concurrent writers on one connection

Replies of the dispatcher and events of subscription callbacks share one
connection.  Each goroutine is a queue of `conn.Write` buffers, and a schedule
picks which goroutine performs its next write; every write is one atomic step.

`WriteMessage` of `pipe/protocol.go` hands header and payload to a single
`conn.Write`, so whatever the schedule the wire is a sequence of whole frames,
one per call.  The older `WriteMessage` kept in the repository writes the
header and the payload separately, and two writers can then split each
other's frames.

The last section is about the size of what is written: nothing on the writing
side holds a payload to the `ReadMessage` limit.
-/

namespace CoworkService.Pipe

open Process Json

/-- Goroutines writing to one connection: the `conn.Write` buffers each still
has to hand over, in order, and the bytes on the wire so far. -/
structure Writers where
  pending : List (List Bytes)
  wire : Bytes

/-- Goroutine `goroutine` performs its next `conn.Write`; a goroutine with
nothing left to write takes no step. -/
def Writers.step (writers : Writers) (goroutine : Nat) : Writers :=
  match writers.pending[goroutine]? with
  | some (buffer :: rest) =>
      { pending := writers.pending.set goroutine rest, wire := writers.wire ++ buffer }
  | _ => writers

/-- The writers after a schedule of steps. -/
def Writers.run (writers : Writers) (schedule : List Nat) : Writers :=
  schedule.foldl Writers.step writers

/-- Goroutines that are each about to make their `WriteMessage` calls, with
`calls` mapping one payload to the buffers of its `conn.Write` calls. -/
def Writers.start (calls : Bytes → List Bytes) (payloads : List (List Bytes)) : Writers :=
  { pending := payloads.map fun mine => mine.flatMap calls, wire := [] }

/-- The `conn.Write` buffers of `WriteMessage` in `pipe/protocol.go`. -/
def writeCalls (data : Bytes) : List Bytes := [writeMessage data]

/-- The `conn.Write` buffers of the two-write `WriteMessage` kept beside it:
the header first, then the payload. -/
def splitWriteCalls (data : Bytes) : List Bytes := [putUint32 (data.length % 2 ^ 32), data]

/-- Reachable writer states of single-write callers: what is still pending is
whole `WriteMessage` buffers, and the wire holds exactly one frame for each
call that is done, so that done and pending calls together are all the calls. -/
def WholeFrames (payloads : List (List Bytes)) (writers : Writers) : Prop :=
  ∃ (remaining : List (List Bytes)) (done : List Bytes),
    writers.pending = remaining.map (fun mine => mine.flatMap writeCalls) ∧
    writers.wire = frames done ∧ (done ++ remaining.flatten).Perm payloads.flatten

theorem flatMap_writeCalls (payloads : List Bytes) :
    payloads.flatMap writeCalls = payloads.map writeMessage := by
  induction payloads with
  | nil => rfl
  | cons payload payloads induction => simp [writeCalls, induction]

theorem perm_flatten_set {remaining : List (List Bytes)} {goroutine : Nat} {payload : Bytes}
    {rest : List Bytes} (mine : remaining[goroutine]? = some (payload :: rest)) :
    (payload :: (remaining.set goroutine rest).flatten).Perm remaining.flatten := by
  induction remaining generalizing goroutine with
  | nil => simp at mine
  | cons first remaining induction =>
      cases goroutine with
      | zero =>
          simp only [List.getElem?_cons_zero, Option.some.injEq] at mine
          subst first
          simp
      | succ goroutine =>
          simp only [List.getElem?_cons_succ] at mine
          simp only [List.set_cons_succ, List.flatten_cons]
          exact List.perm_middle.symm.trans ((induction mine).append_left first)

theorem WholeFrames.step {payloads : List (List Bytes)} {writers : Writers}
    (whole : WholeFrames payloads writers) (goroutine : Nat) :
    WholeFrames payloads (writers.step goroutine) := by
  obtain ⟨remaining, done, pending, wire, perm⟩ := whole
  unfold Writers.step
  split
  · rename_i buffer rest found
    rw [pending, List.getElem?_map] at found
    cases mine : remaining[goroutine]? with
    | none => simp [mine] at found
    | some list =>
        cases list with
        | nil => simp [mine] at found
        | cons payload tail =>
            simp only [mine, Option.map_some', flatMap_writeCalls, List.map_cons,
              Option.some.injEq, List.cons.injEq] at found
            obtain ⟨rfl, rfl⟩ := found
            refine ⟨remaining.set goroutine tail, done ++ [payload], ?_, ?_, ?_⟩
            · simp [pending, List.map_set, flatMap_writeCalls]
            · simp [wire, frames]
            · refine List.Perm.trans ?_ perm
              rw [List.append_assoc, List.singleton_append]
              exact (perm_flatten_set mine).append_left done
  · exact ⟨remaining, done, pending, wire, perm⟩

theorem WholeFrames.run {payloads : List (List Bytes)} {writers : Writers}
    (whole : WholeFrames payloads writers) (schedule : List Nat) :
    WholeFrames payloads (writers.run schedule) := by
  induction schedule generalizing writers with
  | nil => exact whole
  | cons goroutine schedule induction => exact induction (whole.step goroutine)

/-- With the two-write `WriteMessage`, two callers that each write one byte
split each other's frames: both headers reach the wire before either payload,
and the wire is no sequence of whole frames. -/
theorem splitWrite_frames_interleave :
    ((Writers.start splitWriteCalls [[[0x7B]], [[0x7D]]]).run [0, 1, 0, 1]).pending.all
        (· = []) ∧
      ∀ order : List Bytes, order.Perm [[0x7B], [0x7D]] →
        ((Writers.start splitWriteCalls [[[0x7B]], [[0x7D]]]).run [0, 1, 0, 1]).wire ≠
          frames order := by
  refine ⟨by decide, fun order perm => ?_⟩
  obtain ⟨first, second, rfl⟩ : ∃ first second, order = [first, second] := by
    match order, perm.length_eq with
    | [first, second], _ => exact ⟨first, second, rfl⟩
  have firstMember : first ∈ [[(0x7B : UInt8)], [0x7D]] := perm.subset (by simp)
  have secondMember : second ∈ [[(0x7B : UInt8)], [0x7D]] := perm.subset (by simp)
  simp only [List.mem_cons, List.mem_singleton, List.not_mem_nil,
    or_false] at firstMember secondMember
  rcases firstMember with rfl | rfl <;> rcases secondMember with rfl | rfl <;> decide

/-! ### The size of what is written -/

/-- A frame the server writes: a dispatcher reply (`WriteResponse`,
`WriteError`), or an event a subscription callback writes. -/
inductive ServerFrame where
  | reply (response : Response)
  | event (pushed : Event)
  deriving DecidableEq, Repr

/-- `json.Marshal` of what the frame carries. -/
def ServerFrame.payload : ServerFrame → Bytes
  | .reply response => response.marshal
  | .event pushed => pushed.marshal

theorem ServerFrame.one_le_length_payload (frame : ServerFrame) : 1 ≤ frame.payload.length := by
  cases frame with
  | reply response =>
      simp only [ServerFrame.payload]
      unfold Response.marshal
      split <;> exact one_le_length_object _
  | event pushed =>
      cases pushed <;> simp only [ServerFrame.payload, Event.marshal] <;>
        exact one_le_length_object _

theorem readMessage_writeMessage_iff {payload : Bytes} (nonempty : 1 ≤ payload.length)
    (rest : Bytes) :
    readMessage (writeMessage payload ++ rest) = .ok (payload, rest) ↔
      payload.length ≤ maxMessageSize :=
  ⟨fun read => (readMessage_ok read).2.2.2.2.2, fun small =>
    readMessage_writeMessage ⟨nonempty, small⟩ rest⟩

/-- Every frame the server writes carries a non-empty payload, and the reader
at the other end gets it back intact exactly when it is at most
`maxMessageSize` bytes: nothing on the writing side keeps it below. -/
theorem serverFrame_read_iff (frame : ServerFrame) (rest : Bytes) :
    1 ≤ frame.payload.length ∧
      (readMessage (writeMessage frame.payload ++ rest) = .ok (frame.payload, rest) ↔
        frame.payload.length ≤ maxMessageSize) :=
  ⟨frame.one_le_length_payload, readMessage_writeMessage_iff frame.one_le_length_payload rest⟩

/-- An output line of `maxMessageSize - 1` bytes: with its newline it fills the
10 MiB buffer `streamOutput` gives its scanner. -/
def longLine : Bytes := List.replicate (maxMessageSize - 1) 0x61

theorem length_longLine : longLine.length = maxMessageSize - 1 := List.length_replicate _ _

/-- A 10 MiB line of output, relayed as a `stdout` event, is written in a frame
whose payload is over the limit, and the reader does not get it back. -/
theorem stdout_event_frame_over_limit :
    (longLine ++ ascii "\n").length = maxMessageSize ∧
      maxMessageSize <
        (ServerFrame.event
          (newStdoutEvent (ascii "proc-1") (longLine ++ ascii "\n"))).payload.length ∧
      readMessage (writeMessage
        (ServerFrame.event (newStdoutEvent (ascii "proc-1") (longLine ++ ascii "\n"))).payload ++
          []) ≠
        .ok ((ServerFrame.event (newStdoutEvent (ascii "proc-1") (longLine ++ ascii "\n"))).payload,
          []) := by
  have line : (longLine ++ ascii "\n").length = maxMessageSize := by
    rw [List.length_append, length_longLine, length_ascii]
    have : "\n".length = 1 := rfl
    simp only [maxMessageSize] at *
    omega
  have escaped := length_le_length_escapeString (longLine ++ ascii "\n")
  have quoted := length_quote (longLine ++ ascii "\n")
  have inside : (quote (longLine ++ ascii "\n")).length ≤
      (ServerFrame.event
        (newStdoutEvent (ascii "proc-1") (longLine ++ ascii "\n"))).payload.length := by
    simp only [ServerFrame.payload, newStdoutEvent, Event.marshal]
    exact length_le_length_object
      (List.mem_cons_of_mem _ (List.mem_cons_of_mem _ (List.mem_cons_self _ _)))
  have over : maxMessageSize <
      (ServerFrame.event
        (newStdoutEvent (ascii "proc-1") (longLine ++ ascii "\n"))).payload.length := by
    omega
  refine ⟨line, over, fun read => ?_⟩
  have within := (readMessage_writeMessage_iff (ServerFrame.one_le_length_payload _) []).mp read
  omega

end CoworkService.Pipe
