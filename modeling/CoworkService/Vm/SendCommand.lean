import CoworkService.Json

/-!
# Commands to the sdk-daemon over one vsock connection

`VsockListener.SendCommand` writes a 4-byte big-endian length and the JSON
command in two `conn.Write` calls, then reads a 4-byte length and that many
bytes of reply.  The `Manager` operations that call it hold only the read
side of the manager's lock, so calls overlap, and nothing pairs a reply
with the command it answers but the order of reads on the shared stream.

The connection is two byte streams, and each caller is a thread of atomic
steps, as is the daemon, which answers each complete command it has read
with one length-prefixed reply, in order.  Calls made one after another get
the replies to their own commands; when two calls overlap, the one that reads
first takes the reply to the other's command.
-/

namespace CoworkService.Vm

open Json

/-- The errors `SendCommand` returns, one per `fmt.Errorf`. -/
inductive SendError where
  | notConnected
  | writing (cause : Bytes)
  | reading (cause : Bytes)
  | tooLarge (length : Nat)
  | readingResponse (cause : Bytes)
  deriving DecidableEq, Repr

/-- The error's text. -/
def SendError.text : SendError → Bytes
  | .notConnected => ascii "sdk-daemon not connected"
  | .writing cause => ascii "writing to sdk-daemon: " ++ cause
  | .reading cause => ascii "reading from sdk-daemon: " ++ cause
  | .tooLarge length => ascii "response too large: " ++ formatDecimal length ++ ascii " bytes"
  | .readingResponse cause => ascii "reading response: " ++ cause

/-- What a call returns: the reply's bytes, or an error. -/
inductive SendResult where
  | response (reply : Bytes)
  | failure (error : SendError)
  deriving DecidableEq, Repr

/-- Where a `SendCommand` call stands: before its first write, after the
length, after the command, after the reply's length, or returned. -/
inductive SendPc where
  | start
  | headerWritten
  | dataWritten
  | lengthRead (length : Nat)
  | returned (result : SendResult)
  deriving DecidableEq, Repr

/-- One call: `json.Marshal(cmd)`, and where it stands. -/
structure SendCall where
  data : Bytes
  pc : SendPc
  deriving DecidableEq, Repr

/-- The connection (whether `v.conn` is set, the bytes written to the daemon
and not yet read by it, the bytes it has written back and no caller has read
yet), the daemon's log of commands read and replies written, and the calls. -/
structure Vsock where
  connected : Bool
  toDaemon : Bytes
  fromDaemon : Bytes
  answered : List (Bytes × Bytes)
  calls : List SendCall
  deriving DecidableEq, Repr

/-- The atomic steps of the callers and of the daemon. -/
inductive VsockStep where
  /-- The check of `conn`, and `conn.Write(lenBuf)`. -/
  | writeHeader (call : Nat)
  /-- `conn.Write(data)`. -/
  | writeData (call : Nat)
  /-- `io.ReadFull(conn, respLen)` and the size check. -/
  | readLength (call : Nat)
  /-- `io.ReadFull(conn, resp)`. -/
  | readResponse (call : Nat)
  /-- The call's current write or read fails with `cause`; `markDisconnected`. -/
  | fail (call : Nat) (cause : Bytes)
  /-- The daemon reads the next whole command and writes `reply` for it. -/
  | respond (reply : Bytes)
  deriving DecidableEq, Repr

/-- `SendCommand`'s bound on a reply. -/
def maxResponseSize : Nat := 10 * 1024 * 1024

/-- A connected daemon and calls with the given commands, none started. -/
def Vsock.initial (commands : List Bytes) : Vsock :=
  ⟨true, [], [], [], commands.map fun data => ⟨data, .start⟩⟩

/-- Call `index` moves to `pc`. -/
def Vsock.move (state : Vsock) (index : Nat) (data : Bytes) (pc : SendPc) : Vsock :=
  { state with calls := state.calls.set index ⟨data, pc⟩ }

/-- One step, or `none` when the thread is not at that point or would block. -/
def Vsock.step (state : Vsock) : VsockStep → Option Vsock
  | .writeHeader index =>
      match state.calls[index]? with
      | some ⟨data, .start⟩ =>
          if state.connected then
            some { state.move index data .headerWritten with
              toDaemon := state.toDaemon ++ putUint32 (data.length % 2 ^ 32) }
          else some (state.move index data (.returned (.failure .notConnected)))
      | _ => none
  | .writeData index =>
      match state.calls[index]? with
      | some ⟨data, .headerWritten⟩ =>
          some { state.move index data .dataWritten with toDaemon := state.toDaemon ++ data }
      | _ => none
  | .readLength index =>
      match state.calls[index]? with
      | some ⟨data, .dataWritten⟩ =>
          if 4 ≤ state.fromDaemon.length then
            let length := uint32 state.fromDaemon
            let read := { state with fromDaemon := state.fromDaemon.drop 4 }
            if length > maxResponseSize then
              some (read.move index data (.returned (.failure (.tooLarge length))))
            else some (read.move index data (.lengthRead length))
          else none
      | _ => none
  | .readResponse index =>
      match state.calls[index]? with
      | some ⟨data, .lengthRead length⟩ =>
          if length ≤ state.fromDaemon.length then
            some { state.move index data (.returned (.response (state.fromDaemon.take length))) with
              fromDaemon := state.fromDaemon.drop length }
          else none
      | _ => none
  | .fail index cause =>
      match state.calls[index]? with
      | some ⟨data, .start⟩ =>
          some { state.move index data (.returned (.failure (.writing cause))) with
            connected := false }
      | some ⟨data, .headerWritten⟩ =>
          some { state.move index data (.returned (.failure (.writing cause))) with
            connected := false }
      | some ⟨data, .dataWritten⟩ =>
          some { state.move index data (.returned (.failure (.reading cause))) with
            connected := false }
      | some ⟨data, .lengthRead _⟩ =>
          some { state.move index data (.returned (.failure (.readingResponse cause))) with
            connected := false }
      | _ => none
  | .respond reply =>
      let length := uint32 state.toDaemon
      if 4 + length ≤ state.toDaemon.length then
        some { state with
          toDaemon := state.toDaemon.drop (4 + length)
          fromDaemon := state.fromDaemon ++ putUint32 (reply.length % 2 ^ 32) ++ reply
          answered := state.answered ++ [((state.toDaemon.drop 4).take length, reply)] }
      else none

/-- The state after a schedule, if every step can be taken. -/
def Vsock.run (state : Vsock) : List VsockStep → Option Vsock
  | [] => some state
  | step :: steps => (state.step step).bind (·.run steps)

/-- The command `Manager.Kill` sends. -/
def killCommand (processId : Bytes) : Bytes :=
  object [(ascii "method", quote (ascii "kill")), (ascii "processId", quote processId)]

/-- The command `Manager.IsProcessRunning` sends. -/
def isProcessRunningCommand (processId : Bytes) : Bytes :=
  object [(ascii "method", quote (ascii "isProcessRunning")), (ascii "processId", quote processId)]

/-! ### Calls one at a time -/

/-- The steps of call `index` while no other call is in flight, the daemon
answering it with `reply`. -/
def Vsock.alone (index : Nat) (reply : Bytes) : List VsockStep :=
  [.writeHeader index, .writeData index, .respond reply, .readLength index, .readResponse index]

theorem Vsock.run_append (state : Vsock) (first rest : List VsockStep) :
    state.run (first ++ rest) = (state.run first).bind (·.run rest) := by
  induction first generalizing state with
  | nil => rfl
  | cons step first induction =>
      simp only [List.cons_append, Vsock.run, Option.bind_assoc]
      congr 1
      funext middle
      exact induction middle

/-- A call alone on a quiet connection gets the reply to its command. -/
theorem Vsock.run_alone {state : Vsock} {index : Nat} {data reply : Bytes}
    (connected : state.connected = true) (quiet : state.toDaemon = [] ∧ state.fromDaemon = [])
    (found : state.calls[index]? = some ⟨data, .start⟩) (fits : data.length < 2 ^ 32)
    (small : reply.length ≤ maxResponseSize) :
    state.run (Vsock.alone index reply) = some { state with
      calls := state.calls.set index ⟨data, .returned (.response reply)⟩
      answered := state.answered ++ [(data, reply)] } := by
  have inside : index < state.calls.length := (List.getElem?_eq_some_iff.mp found).1
  have replyFits : reply.length < 2 ^ 32 := by
    simp only [maxResponseSize] at small
    omega
  have dataMod : data.length % 4294967296 = data.length := Nat.mod_eq_of_lt fits
  have replyMod : reply.length % 4294967296 = reply.length := Nat.mod_eq_of_lt replyFits
  simp only [Vsock.alone, Vsock.run, Vsock.step, Vsock.move, found, connected, quiet, inside,
    dataMod, replyMod, uint32_putUint32_append fits, uint32_putUint32_append replyFits,
    Nat.not_lt.mpr small, List.set_set, ↓reduceIte, Nat.reducePow, List.nil_append,
    List.append_assoc, gt_iff_lt, Option.bind_some, Option.some_bind, List.length_set,
    List.getElem?_eq_getElem, List.getElem_set_self, List.length_append, length_putUint32,
    le_refl, List.drop_left', List.take_length, le_add_iff_nonneg_right, zero_le,
    List.drop_length, Option.some.injEq, Vsock.mk.injEq, List.drop_eq_nil_iff, and_self]

/-- A call that has returned `pair.2`, the reply to its command `pair.1`. -/
def SendCall.answeredBy (pair : Bytes × Bytes) : SendCall :=
  ⟨pair.1, .returned (.response pair.2)⟩

/-- Calls `start`, `start + 1`, ... made one after another, each answered with
its reply. -/
def Vsock.inTurn (start : Nat) (replies : List Bytes) : List VsockStep :=
  (replies.enumFrom start).flatMap fun call => Vsock.alone call.1 call.2

theorem Vsock.run_inTurn (finished : List (Bytes × Bytes)) {commands replies : List Bytes}
    (same : commands.length = replies.length) (fits : ∀ data ∈ commands, data.length < 2 ^ 32)
    (small : ∀ reply ∈ replies, reply.length ≤ maxResponseSize) :
    (⟨true, [], [], finished,
        finished.map SendCall.answeredBy ++ commands.map fun data => ⟨data, .start⟩⟩ :
      Vsock).run (Vsock.inTurn finished.length replies) =
      some ⟨true, [], [], finished ++ commands.zip replies,
        (finished ++ commands.zip replies).map SendCall.answeredBy⟩ := by
  induction commands generalizing finished replies with
  | nil =>
      cases replies with
      | nil => simp [Vsock.inTurn, Vsock.run]
      | cons => simp at same
  | cons data commands induction =>
      cases replies with
      | nil => simp at same
      | cons reply replies =>
          have found : (finished.map SendCall.answeredBy ++
              (⟨data, .start⟩ :: commands.map fun data => ⟨data, .start⟩))[
                finished.length]? = some ⟨data, .start⟩ := by
            rw [List.getElem?_append_right (by simp)]
            simp
          simp only [Vsock.inTurn, List.enumFrom_cons, List.flatMap_cons, Vsock.run_append,
            List.map_cons]
          rw [Vsock.run_alone rfl ⟨rfl, rfl⟩ found (fits data (List.mem_cons_self _ _))
            (small reply (List.mem_cons_self _ _))]
          have rest := induction (finished ++ [(data, reply)]) (Nat.succ_injective same)
            (fun data member => fits data (List.mem_cons_of_mem _ member))
            (fun reply member => small reply (List.mem_cons_of_mem _ member))
          simp only [List.length_append, List.length_singleton, List.map_append, List.map_cons,
            List.map_nil, List.append_assoc, List.singleton_append, List.zip_cons_cons] at rest ⊢
          rw [List.set_append_right _ _ (by simp)] 
          simpa [Vsock.inTurn] using rest

/-- Calls made one after another, each returning before the next starts, each
get the daemon's reply to their own command, as long as no reply is over the
limit. -/
theorem sequential_calls_get_own_replies {commands replies : List Bytes}
    (same : commands.length = replies.length) (fits : ∀ data ∈ commands, data.length < 2 ^ 32)
    (small : ∀ reply ∈ replies, reply.length ≤ maxResponseSize) :
    (Vsock.initial commands).run (Vsock.inTurn 0 replies) =
      some ⟨true, [], [], commands.zip replies,
        (commands.zip replies).map SendCall.answeredBy⟩ := by
  simpa [Vsock.initial] using Vsock.run_inTurn [] same fits small

theorem sequential_calls_get_own_replies_kill :
    [killCommand (ascii "proc-1")].length = [object []].length ∧
    (∀ data ∈ [killCommand (ascii "proc-1")], data.length < 2 ^ 32) ∧
    (∀ reply ∈ [object []], reply.length ≤ maxResponseSize) ∧
    (Vsock.initial [killCommand (ascii "proc-1")]).run (Vsock.inTurn 0 [object []]) =
      some ⟨true, [], [], [killCommand (ascii "proc-1")].zip [object []],
        ([killCommand (ascii "proc-1")].zip [object []]).map SendCall.answeredBy⟩ :=
  ⟨rfl, by decide, by decide, sequential_calls_get_own_replies rfl (by decide) (by decide)⟩

/-! ### A reply over the limit -/

theorem uint32_append_of_le {bytes : Bytes} (long : 4 ≤ bytes.length) (more : Bytes) :
    uint32 (bytes ++ more) = uint32 bytes := by
  match bytes, long with
  | _ :: _ :: _ :: _ :: _, _ => rfl

/-- A reply over `maxResponseSize` fails its call with `response too large`,
but `SendCommand` neither reads the reply nor marks the connection lost.  The
next call, whatever its command, reads the first four bytes of that reply as
the length of its own, which is over the limit as soon as the first byte is not
zero, as no JSON text's is: it fails too, though the daemon answered it. -/
theorem oversized_reply_fails_next_call {command next big reply : Bytes}
    (commandFits : command.length < 2 ^ 32) (nextFits : next.length < 2 ^ 32)
    (large : maxResponseSize < big.length) (bigFits : big.length < 2 ^ 32)
    (lead : big.head?.any (· ≠ 0) = true) :
    ((Vsock.initial [command, next]).run
        [.writeHeader 0, .writeData 0, .respond big, .readLength 0,
          .writeHeader 1, .writeData 1, .respond reply, .readLength 1]).map
        (fun state => (state.connected, state.answered, state.calls.map SendCall.pc)) =
      some (true, [(command, big), (next, reply)],
        [.returned (.failure (.tooLarge big.length)),
          .returned (.failure (.tooLarge (uint32 big)))]) := by
  have long : 4 ≤ big.length := by simp only [maxResponseSize] at large; omega
  have garbled : maxResponseSize < uint32 big := by
    match big, lead with
    | first :: _ :: _ :: _ :: _, lead =>
        have nonzero : first ≠ 0 := by simpa using lead
        have positive : first.toNat ≠ 0 := fun zero =>
          nonzero (UInt8.toNat.inj (show first.toNat = (0 : UInt8).toNat from zero))
        simp only [uint32, maxResponseSize]
        omega
    | [], _ | [_], _ | [_, _], _ | [_, _, _], _ => simp at long
  have commandMod : command.length % 4294967296 = command.length := Nat.mod_eq_of_lt commandFits
  have nextMod : next.length % 4294967296 = next.length := Nat.mod_eq_of_lt nextFits
  have bigMod : big.length % 4294967296 = big.length := Nat.mod_eq_of_lt bigFits
  have bigRead := uint32_putUint32_append bigFits big
  have sent : ∀ data : Bytes, (putUint32 data.length ++ data).drop (4 + data.length) = [] :=
    fun data => List.drop_eq_nil_of_le (by simp)
  simp [sent, Vsock.initial, Vsock.run, Vsock.step, Vsock.move, commandMod, nextMod, bigMod,
    uint32_putUint32_append commandFits, uint32_putUint32_append nextFits, bigRead, large, long,
    uint32_append_of_le long, garbled]
  omega

theorem oversized_reply_fails_next_call_kill :
    (killCommand (ascii "proc-1")).length < 2 ^ 32 ∧
      (isProcessRunningCommand (ascii "proc-1")).length < 2 ^ 32 ∧
      maxResponseSize < (0x7B :: List.replicate maxResponseSize (0x20 : UInt8)).length ∧
      (0x7B :: List.replicate maxResponseSize (0x20 : UInt8)).length < 2 ^ 32 ∧
      (0x7B :: List.replicate maxResponseSize (0x20 : UInt8)).head?.any (· ≠ 0) = true ∧
      ((Vsock.initial [killCommand (ascii "proc-1"),
          isProcessRunningCommand (ascii "proc-1")]).run
          [.writeHeader 0, .writeData 0, .respond (0x7B :: List.replicate maxResponseSize 0x20),
            .readLength 0, .writeHeader 1, .writeData 1,
            .respond (object [(ascii "running", bool true)]), .readLength 1]).map
          (fun state => (state.connected, state.answered, state.calls.map SendCall.pc)) =
        some (true, [(killCommand (ascii "proc-1"), 0x7B :: List.replicate maxResponseSize 0x20),
            (isProcessRunningCommand (ascii "proc-1"), object [(ascii "running", bool true)])],
          [.returned (.failure
              (.tooLarge (0x7B :: List.replicate maxResponseSize (0x20 : UInt8)).length)),
            .returned (.failure
              (.tooLarge (uint32 (0x7B :: List.replicate maxResponseSize 0x20))))]) :=
  have large :
      maxResponseSize < (0x7B :: List.replicate maxResponseSize (0x20 : UInt8)).length := by
    rw [List.length_cons, List.length_replicate]
    exact Nat.lt_succ_self _
  have fits : (0x7B :: List.replicate maxResponseSize (0x20 : UInt8)).length < 2 ^ 32 := by
    rw [List.length_cons, List.length_replicate, maxResponseSize]
    decide
  ⟨by decide, by decide, large, fits, rfl,
    oversized_reply_fails_next_call (by decide) (by decide) large fits rfl⟩

/-! ### Overlapping calls -/

/-- A `Kill` and an `IsProcessRunning` overlap: both commands reach the daemon
whole and it answers each in order, but the second call reads first and
returns the reply to the `Kill`, and the `Kill` returns the other. -/
theorem overlapping_calls_swap_replies :
    ((Vsock.initial [killCommand (ascii "proc-1"), isProcessRunningCommand (ascii "proc-2")]).run
        [.writeHeader 0, .writeData 0, .writeHeader 1, .writeData 1,
          .respond (object []), .respond (object [(ascii "running", bool true)]),
          .readLength 1, .readResponse 1, .readLength 0, .readResponse 0]).map
        (fun state => (state.answered, state.calls.map SendCall.pc)) =
      some ([(killCommand (ascii "proc-1"), object []),
          (isProcessRunningCommand (ascii "proc-2"), object [(ascii "running", bool true)])],
        [.returned (.response (object [(ascii "running", bool true)])),
          .returned (.response (object []))]) := by
  decide

end CoworkService.Vm
