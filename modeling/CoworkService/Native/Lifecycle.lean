import CoworkService.Native.Scanner
import CoworkService.Native.Signals

/-!
# The goroutines of one spawned child

After registering a child, `processTracker.spawn` starts three goroutines: a
`streamOutput` reader on the stdout pipe, one on the stderr pipe, and the
reaper, which waits on the `WaitGroup` of the two readers, then on the child
(`c.Wait()`), emits the exit event and closes `lp.done`.  The child runs
alongside: it writes its output into the two pipes, each of which holds at
most `capacity` bytes that no `Read` has returned, and exits once all is
written, unless a signal sent by `kill` ends it first.  The child and each
goroutine are sequences of atomic steps, and the steps interleave freely.
Calls of `writeStdin` and `isRunning`, and other children, touch none of this.

A reader turns the loop of `Scan` over what its pipe holds; a `Read` of an
empty pipe waits while the child runs, and returns `io.EOF` once it has ended.
What each reader emits is a prefix of what `streamOutput` emits on the bytes
the child wrote to its pipe, whatever the sizes of the reads; the exit event
comes only once both readers are done and the child has ended, and `done` is
closed at most once, after it.

The exit event is not certain.  A reader that meets a line of `maxTokenSize`
bytes or more stops at `ErrTooLong` and reads no more, and a child with more
than a pipe's worth still to write on that stream blocks on the full pipe:
until a signal ends the child, `c.Wait()` does not return and no exit event
comes.  A run that cannot go on without a signal has `done` closed, or has the
child so blocked.
-/

namespace CoworkService.Native

open Process

/-! ### The child and its goroutines -/

/-- The child's two output streams. -/
inductive OutputStream where
  | stdout
  | stderr
  deriving DecidableEq, Repr

/-- The `stream` argument `spawn` gives `streamOutput`. -/
def OutputStream.name : OutputStream → Bytes
  | .stdout => ascii "stdout"
  | .stderr => ascii "stderr"

/-- A started child: its id, the record `streamOutput` looks up for the
reverse mapping, what it writes to each pipe, how `c.Wait()` reports its exit
once it has written everything, and how many bytes a pipe holds (64 KiB on
Linux). -/
structure Child where
  id : Bytes
  lp : Option Remapping
  stdout : Bytes
  stderr : Bytes
  status : WaitStatus
  capacity : Nat
  capacity_pos : 0 < capacity

/-- What the child writes to a stream. -/
def Child.output (child : Child) : OutputStream → Bytes
  | .stdout => child.stdout
  | .stderr => child.stderr

/-- The reaper's event for what `c.Wait()` returned. -/
def exitEvent (id : Bytes) (status : WaitStatus) : Event :=
  if (waitResult status).2 ≠ [] then
    newExitEventWithSignal id (waitResult status).1 (waitResult status).2
  else newExitEvent id (waitResult status).1

/-- Where a `streamOutput` goroutine stands: in its loop, past the loop and the
check of `Err`, or past the deferred `wg.Done()`. -/
inductive ReaderPc where
  | scanning
  | reported
  | finished
  deriving DecidableEq, Repr

/-- One output pipe and the goroutine reading it: what the child has still to
write to the pipe, the reader's scanner, whose `pipe` is what the child has
written and no `Read` has returned, and where the reader stands. -/
structure Reader where
  unwritten : Bytes
  scanner : Scanner
  pc : ReaderPc
  deriving DecidableEq, Repr

/-- A pipe the child will write `output` to, its reader about to call `Scan`. -/
def Reader.initial (output : Bytes) : Reader := ⟨output, Scanner.initial [], .scanning⟩

/-- Where the child stands: running, exited with everything written, or ended
by a signal. -/
inductive ChildPc where
  | running
  | exited
  | killed (signal : Nat)
  deriving DecidableEq, Repr

def ChildPc.isRunning : ChildPc → Bool
  | .running => true
  | _ => false

def ChildPc.isKilled : ChildPc → Bool
  | .killed _ => true
  | _ => false

/-- How `c.Wait()` reports the child's end. -/
def ChildPc.status (child : Child) : ChildPc → WaitStatus
  | .killed signal => .signaled signal
  | _ => child.status

/-- Where the reaper stands: in `wg.Wait()` or `c.Wait()`, past them, past its
`emit`, or past `close(lp.done)`. -/
inductive ReaperPc where
  | waiting
  | reaped
  | exited
  | closed
  deriving DecidableEq, Repr

/-- Whether the reaper has emitted the exit event. -/
def ReaperPc.hasExited : ReaperPc → Bool
  | .exited | .closed => true
  | .waiting | .reaped => false

/-- The child, its pipes with their readers, the reaper, and what has been
emitted for the child, in order. -/
structure Lifecycle where
  stdout : Reader
  stderr : Reader
  child : ChildPc
  reaper : ReaperPc
  emitted : List Event

def Lifecycle.reader (state : Lifecycle) : OutputStream → Reader
  | .stdout => state.stdout
  | .stderr => state.stderr

def Lifecycle.setReader (state : Lifecycle) : OutputStream → Reader → Lifecycle
  | .stdout, reader => { state with stdout := reader }
  | .stderr, reader => { state with stderr := reader }

/-- The state with `events` emitted after what has been. -/
def Lifecycle.emit (state : Lifecycle) (events : List Event) : Lifecycle :=
  { state with emitted := state.emitted ++ events }

/-- The child as `spawn` leaves it, with its goroutines started. -/
def Lifecycle.initial (child : Child) : Lifecycle :=
  ⟨Reader.initial child.stdout, Reader.initial child.stderr, .running, .waiting, []⟩

/-- The atomic steps of the child and of the three goroutines. -/
inductive LifecycleStep where
  /-- The child writes its next byte for `stream` into the pipe. -/
  | write (stream : OutputStream)
  /-- The child exits, all its output written. -/
  | exit
  /-- A signal from `kill` ends the child. -/
  | kill (signal : Nat)
  /-- A turn of the loop in the reader's `Scan`, its `Read` returning at most
  `chunk` bytes, with the `emit` of the line `Scan` returns or, after the
  loop, of the error `Err` reports. -/
  | turn (stream : OutputStream) (chunk : Nat)
  /-- The reader's `wg.Done()`. -/
  | finish (stream : OutputStream)
  /-- `wg.Wait()` and then `c.Wait()` return. -/
  | reap
  | emitExit
  | close
  deriving DecidableEq, Repr

/-- The child writes its next byte for this pipe, if the pipe has room. -/
def Reader.write (capacity : Nat) (reader : Reader) : Option Reader :=
  match reader.unwritten with
  | byte :: rest =>
      if reader.scanner.pipe.length < capacity then
        some { reader with
          unwritten := rest
          scanner := { reader.scanner with pipe := reader.scanner.pipe ++ [byte] } }
      else none
  | [] => none

/-- One turn of the reader's loop and what it emits; `none` when the reader is
past its loop, or waits in a `Read` of an empty pipe whose writer runs. -/
def Reader.turn (id stream : Bytes) (lp : Option Remapping) (running : Bool) (reader : Reader)
    (chunk : Nat) : Option (Reader × List Event) :=
  if reader.pc = .scanning then
    match reader.scanner.turn chunk with
    | .token line next => some ({ reader with scanner := next }, [lineEvent id (relayOf lp) line])
    | .stop next =>
        some ({ reader with scanner := next, pc := .reported },
          failureEvents id stream (next.failure.map ScanError.text))
    | .more next =>
        if running ∧ reader.scanner.pipe = [] then none
        else some ({ reader with scanner := next }, [])
  else none

/-- One step, or `none` when it cannot be taken now. -/
def Lifecycle.step (child : Child) (state : Lifecycle) : LifecycleStep → Option Lifecycle
  | .write stream =>
      if state.child = .running then
        ((state.reader stream).write child.capacity).map (state.setReader stream)
      else none
  | .exit =>
      if state.child = .running ∧ state.stdout.unwritten = [] ∧ state.stderr.unwritten = [] then
        some { state with child := .exited }
      else none
  | .kill signal =>
      if state.child = .running then
        some { state with
          child := .killed signal
          stdout := { state.stdout with unwritten := [] }
          stderr := { state.stderr with unwritten := [] } }
      else none
  | .turn stream chunk =>
      ((state.reader stream).turn child.id stream.name child.lp state.child.isRunning chunk).map
        fun (reader, events) => (state.setReader stream reader).emit events
  | .finish stream =>
      if (state.reader stream).pc = .reported then
        some (state.setReader stream { state.reader stream with pc := .finished })
      else none
  | .reap =>
      if state.reaper = .waiting ∧ state.stdout.pc = .finished ∧ state.stderr.pc = .finished ∧
          state.child ≠ .running then
        some { state with reaper := .reaped }
      else none
  | .emitExit =>
      if state.reaper = .reaped then
        some ({ state with reaper := .exited }.emit [exitEvent child.id (state.child.status child)])
      else none
  | .close => if state.reaper = .exited then some { state with reaper := .closed } else none

/-- The state after a schedule, if every step can be taken. -/
def Lifecycle.run (child : Child) (state : Lifecycle) : List LifecycleStep → Option Lifecycle
  | [] => some state
  | step :: steps => (state.step child step).bind (·.run child steps)

/-- `isRunning` on the child's record: whether `lp.done` is still open. -/
def Lifecycle.isRunning (state : Lifecycle) : Bool := state.reaper ≠ .closed

/-! ### Interleavings -/

/-- `merged` interleaves `left` and `right`, keeping the order of each. -/
inductive Merge {α : Type} : List α → List α → List α → Prop where
  | nil : Merge [] [] []
  | left {left right merged : List α} (x : α) :
      Merge left right merged → Merge (left ++ [x]) right (merged ++ [x])
  | right {left right merged : List α} (x : α) :
      Merge left right merged → Merge left (right ++ [x]) (merged ++ [x])

theorem Merge.append_left {α : Type} {left right merged : List α}
    (merge : Merge left right merged) (extra : List α) :
    Merge (left ++ extra) right (merged ++ extra) := by
  induction extra generalizing left merged with
  | nil => simpa using merge
  | cons x extra induction => simpa using induction (merge.left x)

theorem Merge.append_right {α : Type} {left right merged : List α}
    (merge : Merge left right merged) (extra : List α) :
    Merge left (right ++ extra) (merged ++ extra) := by
  induction extra generalizing right merged with
  | nil => simpa using merge
  | cons x extra induction => simpa using induction (merge.right x)

/-- The scanner with `more` bytes after what its pipe holds. -/
def Scanner.feed (s : Scanner) (more : Bytes) : Scanner := { s with pipe := s.pipe ++ more }

/-- The turn ending in the scanner with `more` bytes after what its pipe holds. -/
def Turn.feed (more : Bytes) : Turn → Turn
  | .token line next => .token line (next.feed more)
  | .stop next => .stop (next.feed more)
  | .more next => .more (next.feed more)

theorem Scanner.shift_feed (s : Scanner) (more : Bytes) :
    (s.feed more).shift = s.shift.feed more := by
  unfold Scanner.shift Scanner.feed
  split <;> rfl

theorem Scanner.grow_feed (s : Scanner) (more : Bytes) :
    (s.feed more).grow = s.grow.map (·.feed more) := by
  unfold Scanner.grow Scanner.feed
  split
  · split <;> rfl
  · rfl

/-- Growing keeps the bytes and the error. -/
theorem Scanner.grow_fields {s grown : Scanner} (grew : s.grow = some grown) :
    grown.window = s.window ∧ grown.pipe = s.pipe ∧ grown.err = s.err := by
  unfold Scanner.grow at grew
  split at grew
  · split at grew
    · cases grew
    · cases grew
      exact ⟨rfl, rfl, rfl⟩
  · cases grew
    exact ⟨rfl, rfl, rfl⟩

/-- A `Read` that returns at most what the pipe holds returns the same bytes
from the pipe with `more` after them. -/
theorem Scanner.read_feed (s : Scanner) (more : Bytes) (chunk : Nat)
    (ready : s.pipe ≠ [] ∨ more = []) :
    (s.feed more).read (min (max 1 chunk) s.pipe.length) = (s.read chunk).feed more := by
  by_cases empty : s.pipe = []
  · obtain rfl : more = [] := ready.resolve_left (not_not.mpr empty)
    simp [Scanner.read, Scanner.feed, empty]
  · have some : 0 < s.pipe.length := List.length_pos.mpr empty
    have count : min (max 1 (min (max 1 chunk) s.pipe.length))
          (min (s.size - (s.start + s.window.length)) (s.pipe.length + more.length)) =
        min (max 1 chunk) (min (s.size - (s.start + s.window.length)) s.pipe.length) := by
      rw [max_eq_right (le_min (le_max_left 1 chunk) some), min_assoc,
        min_left_comm s.pipe.length, min_eq_left (Nat.le_add_right _ _)]
    simp only [Scanner.read, Scanner.feed, empty, List.append_eq_nil, false_and, if_false,
      List.length_append, count]
    congr 2
    · rw [List.take_append_of_le_length (by omega)]
    · rw [List.drop_append_of_le_length (by omega)]

theorem Scanner.turn_feed (s : Scanner) (more : Bytes) (chunk : Nat)
    (ready : ∀ next, s.turn chunk = .more next → s.pipe ≠ [] ∨ more = []) :
    (s.feed more).turn (min (max 1 chunk) s.pipe.length) = (s.turn chunk).feed more := by
  have attempt : (s.feed more).attempt = s.attempt := rfl
  have err : (s.feed more).err = s.err := rfl
  unfold Scanner.turn
  rw [attempt, err]
  split
  · rfl
  · rename_i attempted
    split
    · rfl
    · rename_i clean
      rw [Scanner.shift_feed, Scanner.grow_feed]
      cases grew : s.shift.grow with
      | none => rfl
      | some grown =>
          have turned : s.turn chunk = .more (grown.read chunk) := by
            simp only [Scanner.turn, attempted, clean, grew, Bool.false_eq_true, if_false]
          have pipe : grown.pipe = s.pipe := by
            rw [(Scanner.grow_fields grew).2.1, Scanner.pipe_shift]
          simp only [Option.map_some', Turn.feed]
          rw [← pipe, Scanner.read_feed grown more chunk (pipe ▸ ready _ turned)]

/-- A turn that returns a token drops the front of the buffer. -/
theorem Scanner.token_bytes {s next : Scanner} {chunk : Nat} {line : Bytes}
    (turned : s.turn chunk = .token line next) :
    ∃ front, s.window = front ++ next.window ∧ next.pipe = s.pipe ∧ next.err = s.err := by
  simp only [Scanner.turn] at turned
  split at turned
  · rename_i advance token _
    cases turned
    exact ⟨s.window.take advance, (List.take_append_drop _ _).symm, rfl, rfl⟩
  · split at turned <;> (try split at turned) <;> cases turned

/-- A turn that goes round again moves bytes from the pipe into the buffer,
and meets `io.EOF` only on an empty pipe. -/
theorem Scanner.more_bytes {s next : Scanner} {chunk : Nat} (turned : s.turn chunk = .more next) :
    s.err = none ∧ next.window ++ next.pipe = s.window ++ s.pipe ∧
      next.pipe.length ≤ s.pipe.length ∧ (next.err = some .eof → s.pipe = []) := by
  simp only [Scanner.turn] at turned
  split at turned
  · cases turned
  split at turned
  · cases turned
  rename_i clean
  split at turned
  · cases turned
  rename_i grown grew
  cases turned
  obtain ⟨window, pipe, err⟩ := Scanner.grow_fields grew
  simp only [Scanner.window_shift, Scanner.pipe_shift, Scanner.err_shift] at window pipe err
  have clean : s.err = none := by simpa using clean
  refine ⟨clean, ?_⟩
  unfold Scanner.read
  split
  · rename_i drained
    exact ⟨by rw [window, pipe], by rw [pipe], fun _ => pipe ▸ drained⟩
  · refine ⟨by simp only [List.append_assoc, List.take_append_drop, window, pipe], ?_, ?_⟩
    · simp only [List.length_drop, pipe]
      omega
    · intro eof
      simp only [err, clean] at eof
      cases eof

/-! ### One reader -/

/-- What the reader will see: its scanner with what the child has still to
write already in the pipe. -/
def Reader.view (reader : Reader) : Scanner := reader.scanner.feed reader.unwritten

/-- The bytes still to reach the reader's lines: its buffer, what the pipe
holds, and what the child has still to write. -/
def Reader.pending (reader : Reader) : Bytes :=
  reader.scanner.window ++ (reader.scanner.pipe ++ reader.unwritten)

theorem Reader.lines_view (reader : Reader) : reader.view.lines = splitLines reader.pending := rfl

/-- The books of a reader, given the bytes it has consumed, `consumed`, and the
lines it has cut from them, `raws`: what the pipe carries, `consumed` and then
the pending bytes, is a prefix of the child's output, all of it unless a
signal ended the child; its lines are `raws` and then those of the pending
bytes; before `io.EOF`, `consumed` ends at a line boundary; the reader has
relayed `raws`, then its error once past its loop; and its view is as the
scanner of `streamOutput` would be on what the pipe carries. -/
structure Reader.Accounts (child : Child) (stream : OutputStream) (pc : ChildPc)
    (reader : Reader) (relayed : List Event) (consumed : Bytes) (raws : List Bytes) : Prop where
  carried : consumed ++ reader.pending <+: child.output stream
  whole : pc.isKilled = false → consumed ++ reader.pending = child.output stream
  lines : splitLines (consumed ++ reader.pending) = raws ++ splitLines reader.pending
  boundary : reader.scanner.err ≠ some .eof →
    ∀ rest, splitLines (consumed ++ rest) = raws ++ splitLines rest
  short : ∀ raw ∈ raws, raw.length < maxTokenSize
  relayed : relayed = raws.map (lineEvent child.id (relayOf child.lp) ∘ dropCR) ++
    if reader.pc = .scanning then []
    else failureEvents child.id stream.name (reader.scanner.failure.map ScanError.text)
  sound : reader.pc = .scanning → reader.view.Sound
  eof : reader.scanner.err = some .eof → pc.isRunning = false
  stopped : reader.pc ≠ .scanning →
    reader.scanner.err = some .eof ∧ reader.pending = [] ∨
      reader.scanner.err = some .tooLong ∧ newline ∉ reader.scanner.window ∧
        maxTokenSize ≤ reader.scanner.window.length
  window : reader.scanner.window.length ≤ maxTokenSize
  pipe : reader.scanner.pipe.length ≤ child.capacity
  ended : pc.isRunning = false → reader.unwritten = []

/-- The reader states a run reaches, having relayed `relayed`. -/
def Reader.Valid (child : Child) (stream : OutputStream) (pc : ChildPc) (reader : Reader)
    (relayed : List Event) : Prop :=
  ∃ consumed raws, reader.Accounts child stream pc relayed consumed raws

section Reader

variable {child : Child} {stream : OutputStream} {pc : ChildPc} {reader after : Reader}
  {relayed : List Event}

/-- The reader's view turns as its scanner does on what the pipe holds. -/
theorem Reader.view_turn {chunk : Nat} {turn : Turn} (scanned : reader.scanner.turn chunk = turn)
    (ready : ∀ next, turn = .more next → reader.scanner.pipe ≠ [] ∨ reader.unwritten = []) :
    reader.view.turn (min (max 1 chunk) reader.scanner.pipe.length) =
      turn.feed reader.unwritten := by
  rw [Reader.view, Scanner.turn_feed _ _ _ fun next more => ready next (scanned ▸ more), scanned]

/-- A turn that leaves the pending bytes keeps what the pipe carries and its lines. -/
theorem Reader.Accounts.of_pending {consumed : Bytes} {raws : List Bytes}
    (acc : reader.Accounts child stream pc relayed consumed raws)
    (same : after.pending = reader.pending) :
    consumed ++ after.pending <+: child.output stream ∧
      (pc.isKilled = false → consumed ++ after.pending = child.output stream) ∧
      splitLines (consumed ++ after.pending) = raws ++ splitLines after.pending := by
  rw [same]
  exact ⟨acc.carried, acc.whole, acc.lines⟩

theorem Reader.Valid.turn {events : List Event} {chunk : Nat}
    (valid : reader.Valid child stream pc relayed)
    (turned : reader.turn child.id stream.name child.lp pc.isRunning chunk = some (after, events)) :
    after.Valid child stream pc (relayed ++ events) := by
  obtain ⟨consumed, raws, acc⟩ := valid
  unfold Reader.turn at turned
  split at turned
  case isFalse => cases turned
  rename_i scanning
  have sound := acc.sound scanning
  split at turned
  case h_1 line next scanned =>
    cases turned
    obtain ⟨raw, rfl, rawShort, lines, nextSound, -, atNewline⟩ :=
      sound.token (Reader.view_turn scanned nofun)
    obtain ⟨front, window, pipe, err⟩ := Scanner.token_bytes scanned
    have pending : reader.pending = front ++ { reader with scanner := next }.pending := by
      simp only [Reader.pending, window, pipe, List.append_assoc]
    have ⟨fits, _, bounded, _⟩ := nextSound
    refine ⟨consumed ++ front, raws ++ [raw], ?_, fun alive => ?_, ?_, fun other rest => ?_,
      ?_, ?_, fun _ => nextSound, ?_, fun _ => absurd scanning ‹_›, ?_, ?_, acc.ended⟩
    · simpa [pending] using acc.carried
    · simpa [pending] using acc.whole alive
    · have nextLines : (next.feed reader.unwritten).lines =
          splitLines { reader with scanner := next }.pending := rfl
      rw [List.append_assoc, ← pending, acc.lines, ← Reader.lines_view, lines, nextLines]
      simp
    · have clean : reader.scanner.err = none :=
        sound.ended.resolve_right fun eof => other (err.trans eof.1)
      obtain ⟨free, split⟩ := atNewline clean
      have front : front = raw ++ [newline] :=
        List.append_cancel_right (window.symm.trans (split.trans (by simp [Scanner.feed])))
      rw [front, List.append_assoc, List.append_assoc, List.singleton_append,
        acc.boundary (by simp [clean]), splitLines_newline free]
      simp
    · intro line member
      rcases List.mem_append.mp member with old | new
      · exact acc.short line old
      · rw [List.mem_singleton.mp new]
        exact rawShort
    · rw [acc.relayed]
      simp [scanning]
    · exact fun eof => acc.eof (err ▸ eof)
    · dsimp only [Scanner.feed] at fits bounded
      show next.window.length ≤ maxTokenSize
      omega
    · simpa [pipe] using acc.pipe
  case h_2 next scanned =>
    cases turned
    obtain ⟨pipe, ended⟩ := sound.stop (Reader.view_turn scanned nofun)
    have pipe : next.pipe = reader.scanner.pipe := List.append_cancel_right pipe
    rcases ended with ⟨empty, drained, eof, eof'⟩ | ⟨clean, window, tooLong, free, long⟩
    · have empty : reader.pending = [] := splitLines_eq_nil empty
      have drained : next.window = [] := drained
      have nextEmpty : { reader with scanner := next, pc := .reported }.pending = [] := by
        simp only [Reader.pending, List.append_eq_nil] at empty ⊢
        exact ⟨drained, pipe ▸ empty.2.1, empty.2.2⟩
      have ⟨carried, whole, lines⟩ := acc.of_pending (nextEmpty.trans empty.symm)
      refine ⟨consumed, raws, carried, whole, lines, fun other => absurd eof' other, acc.short,
        ?_, nofun, fun _ => acc.eof eof, fun _ => .inl ⟨eof', nextEmpty⟩, ?_, ?_, acc.ended⟩
      · rw [acc.relayed]
        simp [scanning]
      · simp [drained]
      · simpa [pipe] using acc.pipe
    · have window : next.window = reader.scanner.window := window
      have clean : reader.scanner.err = none := clean
      have tooLong : next.err = some .tooLong := tooLong
      have ⟨carried, whole, lines⟩ := acc.of_pending
        (show { reader with scanner := next, pc := .reported }.pending = reader.pending by
          simp only [Reader.pending, window, pipe])
      refine ⟨consumed, raws, carried, whole, lines, fun _ => acc.boundary (by simp [clean]),
        acc.short, ?_, nofun, fun eof => ?_, fun _ => .inr ⟨tooLong, window ▸ free, window ▸ long⟩,
        window ▸ acc.window, ?_, acc.ended⟩
      · rw [acc.relayed]
        simp [scanning]
      · rw [tooLong] at eof
        cases eof
      · simpa [pipe] using acc.pipe
  case h_3 next scanned =>
    split at turned
    · cases turned
    rename_i unblocked
    cases turned
    have ready : reader.scanner.pipe ≠ [] ∨ reader.unwritten = [] := by
      by_cases empty : reader.scanner.pipe = []
      · exact .inr (acc.ended (by simpa [empty] using unblocked))
      · exact .inl empty
    obtain ⟨-, nextSound, -⟩ := sound.more (Reader.view_turn scanned fun _ _ => ready)
    obtain ⟨clean, bytes, shorter, drained⟩ := Scanner.more_bytes scanned
    have ⟨carried, whole, lines⟩ := acc.of_pending
      (show { reader with scanner := next }.pending = reader.pending by
        simp only [Reader.pending, ← List.append_assoc, bytes])
    have ⟨fits, _, bounded, _⟩ := nextSound
    refine ⟨consumed, raws, carried, whole, lines, fun _ => acc.boundary (by simp [clean]),
      acc.short, ?_, fun _ => nextSound, fun eof => ?_, fun _ => absurd scanning ‹_›, ?_,
      le_trans shorter acc.pipe, acc.ended⟩
    · rw [acc.relayed]
      simp [scanning]
    · simpa [drained eof] using unblocked
    · dsimp only [Scanner.feed] at fits bounded
      show next.window.length ≤ maxTokenSize
      omega

/-- A write moves the child's next byte into the pipe, below its capacity. -/
theorem Reader.write_fields {capacity : Nat} (wrote : reader.write capacity = some after) :
    after.view = reader.view ∧ after.scanner.window = reader.scanner.window ∧
      after.scanner.err = reader.scanner.err ∧ after.pc = reader.pc ∧
      after.scanner.pipe.length ≤ capacity := by
  unfold Reader.write at wrote
  split at wrote
  · rename_i byte rest unwritten
    split at wrote
    · cases wrote
      exact ⟨by simp [Reader.view, Scanner.feed, unwritten], rfl, rfl, rfl, by simp; omega⟩
    · cases wrote
  · cases wrote

theorem Reader.Valid.write (valid : reader.Valid child stream .running relayed)
    (wrote : reader.write child.capacity = some after) :
    after.Valid child stream .running relayed := by
  obtain ⟨consumed, raws, acc⟩ := valid
  obtain ⟨view, window, err, pc, pipe⟩ := Reader.write_fields wrote
  have pending : after.pending = reader.pending := congrArg (fun s => s.window ++ s.pipe) view
  have failure : after.scanner.failure = reader.scanner.failure := by
    simp only [Scanner.failure, err]
  exact ⟨consumed, raws, pending ▸ acc.carried, pending ▸ acc.whole, pending ▸ acc.lines,
    err ▸ acc.boundary, acc.short, by rw [pc, failure]; exact acc.relayed,
    by rw [pc, view]; exact acc.sound, err ▸ acc.eof,
    by rw [pc, err, window, pending]; exact acc.stopped, window ▸ acc.window, pipe, nofun⟩

theorem Reader.Valid.finish (valid : reader.Valid child stream pc relayed)
    (reported : reader.pc = .reported) :
    { reader with pc := .finished }.Valid child stream pc relayed := by
  obtain ⟨consumed, raws, acc⟩ := valid
  refine ⟨consumed, raws, acc.carried, acc.whole, acc.lines, acc.boundary, acc.short, ?_, nofun,
    acc.eof, fun _ => acc.stopped (by simp [reported]), acc.window, acc.pipe, acc.ended⟩
  rw [acc.relayed]
  simp [reported]

theorem Reader.Valid.exit (valid : reader.Valid child stream .running relayed)
    (written : reader.unwritten = []) : reader.Valid child stream .exited relayed := by
  obtain ⟨consumed, raws, acc⟩ := valid
  exact ⟨consumed, raws, acc.carried, acc.whole, acc.lines, acc.boundary, acc.short, acc.relayed,
    acc.sound, fun _ => rfl, acc.stopped, acc.window, acc.pipe, fun _ => written⟩

/-- A signal leaves unwritten what the child had still to write: the pipe
carries what it wrote, which ends where the reader's lines do. -/
theorem Reader.Valid.kill (valid : reader.Valid child stream .running relayed) (signal : Nat) :
    { reader with unwritten := [] }.Valid child stream (.killed signal) relayed := by
  obtain ⟨consumed, raws, acc⟩ := valid
  have clean : reader.scanner.err ≠ some .eof := fun eof => by cases acc.eof eof
  have pending : reader.pending = { reader with unwritten := [] }.pending ++ reader.unwritten := by
    simp [Reader.pending]
  refine ⟨consumed, raws, ?_, nofun, by rw [acc.boundary clean], acc.boundary, acc.short,
    acc.relayed, fun scanning => ?_, fun _ => rfl, fun stopped => ?_, acc.window, acc.pipe,
    fun _ => rfl⟩
  · have carried := acc.carried
    rw [pending, ← List.append_assoc] at carried
    exact (List.prefix_append _ _).trans carried
  · obtain ⟨fits, positive, bounded, ended⟩ := acc.sound scanning
    exact ⟨fits, positive, bounded,
      .inl (ended.resolve_right fun eof => clean eof.1)⟩
  · rcases acc.stopped stopped with ⟨eof, -⟩ | tooLong
    · exact absurd eof clean
    · exact .inr tooLong

theorem Reader.pc_of_turn {id stream : Bytes} {lp : Option Remapping} {running : Bool}
    {reader after : Reader} {events : List Event} {chunk : Nat}
    (turned : reader.turn id stream lp running chunk = some (after, events)) :
    reader.pc = .scanning := by
  unfold Reader.turn at turned
  split at turned
  · assumption
  · cases turned

end Reader

/-! ### The child and its goroutines together -/

section Lifecycle

variable {child : Child}

@[simp] theorem Lifecycle.reader_emit (state : Lifecycle) (events : List Event)
    (stream : OutputStream) : (state.emit events).reader stream = state.reader stream := by
  cases stream <;> rfl

@[simp] theorem Lifecycle.child_emit (state : Lifecycle) (events : List Event) :
    (state.emit events).child = state.child := rfl

@[simp] theorem Lifecycle.reaper_emit (state : Lifecycle) (events : List Event) :
    (state.emit events).reaper = state.reaper := rfl

@[simp] theorem Lifecycle.emitted_emit (state : Lifecycle) (events : List Event) :
    (state.emit events).emitted = state.emitted ++ events := rfl

@[simp] theorem Lifecycle.reader_setReader (state : Lifecycle) (stream : OutputStream)
    (reader : Reader) : (state.setReader stream reader).reader stream = reader := by
  cases stream <;> rfl

theorem Lifecycle.reader_setReader_of_ne (state : Lifecycle) {stream other : OutputStream}
    (reader : Reader) (different : other ≠ stream) :
    (state.setReader stream reader).reader other = state.reader other := by
  cases stream <;> cases other <;> first | rfl | exact absurd rfl different

@[simp] theorem Lifecycle.child_setReader (state : Lifecycle) (stream : OutputStream)
    (reader : Reader) : (state.setReader stream reader).child = state.child := by
  cases stream <;> rfl

@[simp] theorem Lifecycle.reaper_setReader (state : Lifecycle) (stream : OutputStream)
    (reader : Reader) : (state.setReader stream reader).reaper = state.reaper := by
  cases stream <;> rfl

@[simp] theorem Lifecycle.emitted_setReader (state : Lifecycle) (stream : OutputStream)
    (reader : Reader) : (state.setReader stream reader).emitted = state.emitted := by
  cases stream <;> rfl

/-- What every reachable state satisfies: each reader is valid, having relayed
its share of what has been emitted, which interleaves the two shares and ends
with the exit event once the reaper has emitted it; and the reaper is past
`wg.Wait()` and `c.Wait()` only once both readers have run `wg.Done()` and the
child has ended. -/
structure Lifecycle.Ordered (child : Child) (state : Lifecycle) : Prop where
  relayed : ∃ relayed : OutputStream → List Event, ∃ merged,
    (∀ stream, (state.reader stream).Valid child stream state.child (relayed stream)) ∧
    Merge (relayed .stdout) (relayed .stderr) merged ∧
    state.emitted = merged ++
      if state.reaper.hasExited then [exitEvent child.id (state.child.status child)] else []
  joined : state.reaper ≠ .waiting →
    state.stdout.pc = .finished ∧ state.stderr.pc = .finished ∧ state.child.isRunning = false

/-- The reaper waits while the child runs or a reader is not done. -/
theorem Lifecycle.Ordered.waiting {state : Lifecycle} (ordered : state.Ordered child)
    (busy : state.child.isRunning = true ∨ ∃ stream, (state.reader stream).pc ≠ .finished) :
    state.reaper = .waiting := by
  by_contra past
  obtain ⟨stdout, stderr, ended⟩ := ordered.joined past
  rcases busy with running | ⟨stream, unfinished⟩
  · rw [ended] at running
    cases running
  · cases stream
    · exact unfinished stdout
    · exact unfinished stderr

/-- A step of one reader, emitting `events`, keeps the order. -/
theorem Lifecycle.Ordered.update {state after : Lifecycle} (ordered : state.Ordered child)
    (stream : OutputStream) (events : List Event) (waiting : state.reaper = .waiting)
    (others : ∀ other, other ≠ stream → after.reader other = state.reader other)
    (sameChild : after.child = state.child) (reaper : after.reaper = state.reaper)
    (emitted : after.emitted = state.emitted ++ events)
    (valid : ∀ relayed, (state.reader stream).Valid child stream state.child relayed →
      (after.reader stream).Valid child stream state.child (relayed ++ events)) :
    after.Ordered child := by
  obtain ⟨⟨relayed, merged, readers, merge, shown⟩, -⟩ := ordered
  refine ⟨⟨Function.update relayed stream (relayed stream ++ events), merged ++ events,
    fun other => ?_, ?_, ?_⟩, fun past => absurd (reaper.trans waiting) past⟩
  · rw [sameChild]
    by_cases same : other = stream
    · subst same
      simpa using valid _ (readers other)
    · rw [others other same, Function.update_noteq same]
      exact readers other
  · cases stream
    · simpa using merge.append_left events
    · simpa using merge.append_right events
  · simp [emitted, shown, reaper, waiting, ReaperPc.hasExited]

/-- A step of the child alone, before the reaper moves, keeps the order when it
keeps each reader valid. -/
theorem Lifecycle.Ordered.child_step {state after : Lifecycle} (ordered : state.Ordered child)
    (waiting : state.reaper = .waiting) (reaper : after.reaper = state.reaper)
    (emitted : after.emitted = state.emitted)
    (valid : ∀ stream relayed, (state.reader stream).Valid child stream state.child relayed →
      (after.reader stream).Valid child stream after.child relayed) :
    after.Ordered child := by
  obtain ⟨⟨relayed, merged, readers, merge, shown⟩, -⟩ := ordered
  exact ⟨⟨relayed, merged, fun stream => valid stream _ (readers stream), merge,
    by simp [emitted, shown, reaper, waiting, ReaperPc.hasExited]⟩,
    fun past => absurd (reaper.trans waiting) past⟩

theorem Lifecycle.Ordered.step {state after : Lifecycle} {step : LifecycleStep}
    (ordered : state.Ordered child) (stepped : state.step child step = some after) :
    after.Ordered child := by
  cases step with
  | write stream =>
      simp only [Lifecycle.step] at stepped
      split at stepped
      · rename_i running
        obtain ⟨reader, wrote, rfl⟩ := Option.map_eq_some'.mp stepped
        refine ordered.update stream []
          (ordered.waiting (.inl (by simp [running, ChildPc.isRunning])))
          (fun other => Lifecycle.reader_setReader_of_ne _ _) (by simp) (by simp) (by simp)
          fun relayed valid => ?_
        rw [running] at valid ⊢
        simpa using valid.write wrote
      · cases stepped
  | turn stream chunk =>
      obtain ⟨⟨reader, events⟩, turned, rfl⟩ := Option.map_eq_some'.mp stepped
      have scanning := Reader.pc_of_turn turned
      exact ordered.update stream events (ordered.waiting (.inr ⟨stream, by simp [scanning]⟩))
        (fun other => by simpa using Lifecycle.reader_setReader_of_ne _ _) (by simp) (by simp)
        (by simp) fun relayed valid => by simpa using valid.turn turned
  | finish stream =>
      simp only [Lifecycle.step] at stepped
      split at stepped
      · rename_i reported
        cases stepped
        refine ordered.update stream []
          (ordered.waiting (.inr ⟨stream, by simp [reported]⟩))
          (fun other => Lifecycle.reader_setReader_of_ne _ _) (by simp) (by simp) (by simp)
          fun relayed valid => ?_
        simpa using valid.finish reported
      · cases stepped
  | exit =>
      simp only [Lifecycle.step] at stepped
      split at stepped
      · rename_i ready
        cases stepped
        refine ordered.child_step (ordered.waiting (.inl (by simp [ready.1, ChildPc.isRunning])))
          rfl rfl fun stream relayed valid => ?_
        rw [ready.1] at valid
        cases stream
        · exact valid.exit ready.2.1
        · exact valid.exit ready.2.2
      · cases stepped
  | kill signal =>
      simp only [Lifecycle.step] at stepped
      split at stepped
      · rename_i running
        cases stepped
        refine ordered.child_step (ordered.waiting (.inl (by simp [running, ChildPc.isRunning])))
          rfl rfl fun stream relayed valid => ?_
        rw [running] at valid
        cases stream <;> exact valid.kill signal
      · cases stepped
  | reap =>
      simp only [Lifecycle.step] at stepped
      split at stepped
      · rename_i ready
        cases stepped
        obtain ⟨⟨relayed, merged, readers, merge, emitted⟩, -⟩ := ordered
        exact ⟨⟨relayed, merged, fun stream => by cases stream <;> exact readers _, merge,
          by simp [emitted, ready.1, ReaperPc.hasExited]⟩,
          fun _ => ⟨ready.2.1, ready.2.2.1, by
            cases child : state.child <;> simp_all [ChildPc.isRunning]⟩⟩
      · cases stepped
  | emitExit =>
      simp only [Lifecycle.step] at stepped
      split at stepped
      · rename_i reaped
        cases stepped
        obtain ⟨⟨relayed, merged, readers, merge, emitted⟩, joined⟩ := ordered
        exact ⟨⟨relayed, merged, fun stream => by cases stream <;> exact readers _, merge,
          by simp [emitted, reaped, ReaperPc.hasExited]⟩, fun _ => joined (by simp [reaped])⟩
      · cases stepped
  | close =>
      simp only [Lifecycle.step] at stepped
      split at stepped
      · rename_i exited
        cases stepped
        obtain ⟨⟨relayed, merged, readers, merge, emitted⟩, joined⟩ := ordered
        exact ⟨⟨relayed, merged, fun stream => by cases stream <;> exact readers _, merge,
          by simp [emitted, exited, ReaperPc.hasExited]⟩, fun _ => joined (by simp [exited])⟩
      · cases stepped

/-- What every step it allows keeps holds after every run of such steps. -/
theorem Lifecycle.run_preserves (allowed : LifecycleStep → Prop) (holds : Lifecycle → Prop)
    (kept : ∀ {state after : Lifecycle} {step : LifecycleStep}, holds state → allowed step →
      state.step child step = some after → holds after)
    {state after : Lifecycle} {steps : List LifecycleStep} (initially : holds state)
    (all : ∀ step ∈ steps, allowed step) (ran : state.run child steps = some after) :
    holds after := by
  induction steps generalizing state with
  | nil =>
      cases ran
      exact initially
  | cons step steps induction =>
      simp only [Lifecycle.run, Option.bind_eq_some] at ran
      obtain ⟨middle, stepped, rest⟩ := ran
      exact induction (kept initially (all step (.head _)) stepped)
        (fun step member => all step (.tail _ member)) rest

theorem Lifecycle.Ordered.run {state after : Lifecycle} {steps : List LifecycleStep}
    (ordered : state.Ordered child) (ran : state.run child steps = some after) :
    after.Ordered child :=
  Lifecycle.run_preserves (fun _ => True) (Lifecycle.Ordered child)
    (fun ordered _ stepped => ordered.step stepped) ordered (fun _ _ => trivial) ran

/-- The child is blocked writing to `stream`: it runs with bytes left for that
pipe, which is full, and the pipe's reader has stopped at `ErrTooLong` and
reads no more. -/
def Lifecycle.Blocked (child : Child) (state : Lifecycle) (stream : OutputStream) : Prop :=
  state.child = .running ∧ (state.reader stream).unwritten ≠ [] ∧
    child.capacity ≤ (state.reader stream).scanner.pipe.length ∧
    (state.reader stream).pc = .finished ∧ (state.reader stream).scanner.err = some .tooLong

theorem Lifecycle.Blocked.setReader {state : Lifecycle} {stream other : OutputStream}
    (blocked : state.Blocked child stream) (apart : stream ≠ other) (reader : Reader) :
    (state.setReader other reader).Blocked child stream := by
  simpa [Lifecycle.Blocked, Lifecycle.reader_setReader_of_ne _ _ apart] using blocked

/-- A blocked child stays blocked, whatever happens but a signal. -/
theorem Lifecycle.Blocked.step {state after : Lifecycle} {stream : OutputStream}
    {step : LifecycleStep} (blocked : state.Blocked child stream)
    (unsignaled : ∀ signal, step ≠ .kill signal) (stepped : state.step child step = some after) :
    after.Blocked child stream := by
  have ⟨running, pending, full, finished, tooLong⟩ := blocked
  cases step with
  | write other =>
      simp only [Lifecycle.step, running, if_true] at stepped
      obtain ⟨reader, wrote, rfl⟩ := Option.map_eq_some'.mp stepped
      by_cases same : stream = other
      · subst same
        obtain ⟨byte, rest, unwritten⟩ := List.exists_cons_of_ne_nil pending
        simp only [Reader.write, unwritten] at wrote
        split at wrote
        · omega
        · cases wrote
      · exact blocked.setReader same _
  | exit =>
      simp only [Lifecycle.step] at stepped
      split at stepped
      · rename_i ready
        cases stream
        · exact absurd ready.2.1 pending
        · exact absurd ready.2.2 pending
      · cases stepped
  | kill signal => exact absurd rfl (unsignaled signal)
  | turn other chunk =>
      obtain ⟨⟨reader, events⟩, turned, rfl⟩ := Option.map_eq_some'.mp stepped
      by_cases same : stream = other
      · subst same
        have := Reader.pc_of_turn turned
        rw [finished] at this
        cases this
      · simpa [Lifecycle.Blocked] using blocked.setReader same reader
  | finish other =>
      simp only [Lifecycle.step] at stepped
      split at stepped
      · rename_i reported
        cases stepped
        by_cases same : stream = other
        · subst same
          rw [finished] at reported
          cases reported
        · exact blocked.setReader same _
      · cases stepped
  | reap =>
      simp only [Lifecycle.step] at stepped
      split at stepped
      · rename_i ready
        exact absurd running ready.2.2.2
      · cases stepped
  | emitExit | close =>
      simp only [Lifecycle.step] at stepped
      split at stepped
      · cases stepped
        cases stream <;> exact blocked
      · cases stepped

end Lifecycle

end CoworkService.Native
