import CoworkService.Native.Remap
import CoworkService.Process.Events

/-!
# The line scanner of `streamOutput`

`streamOutput` reads a pipe through a `bufio.Scanner` split by `ScanLines`,
with a 64 KiB buffer that may grow to 10 MiB.  Each call of `Scan` loops: it
asks `ScanLines` for a token in the buffered bytes; failing that it stops at
an error, or makes room (moving the bytes to the front, doubling a full
buffer, and failing with `ErrTooLong` when the buffer is full at its largest)
and reads once more.  How many bytes a `Read` of a pipe returns depends on
timing, so the model takes the size of every read as an argument: each read
returns between one byte and the free space, and `io.EOF` once the child has
closed the pipe and all was read.

Every line of the output is relayed, in order and whatever the sizes of the
reads, when each line is shorter than 10 MiB: `ScanLines` cuts at newlines and
drops one carriage return before each, and a line of 10 MiB or more, which
leaves no room for its newline, ends the relay with `ErrTooLong`.  What
`streamOutput` emits is thus a function of the bytes alone, `scannedOutput`,
which `Native.Lifecycle` uses for a reader that runs alongside the child.
-/

namespace CoworkService.Native

open Process

/-- What `bufio.Scanner` yields on one pipe: the lines `Scan` returns, without
their newline, and the text of the error `Err` reports after them, if any;
with the reverse path mapping `streamOutput` applies to each line. -/
structure Output where
  lines : List Bytes
  failure : Option Bytes
  relay : Bytes → Bytes

/-- The event `streamOutput` emits for one line: always a `stdout` event. -/
def lineEvent (id : Bytes) (relay : Bytes → Bytes) (line : Bytes) : Event :=
  newStdoutEvent id (relay (line ++ ascii "\n"))

/-- What `streamOutput` emits after its loop: the non-fatal scanner error. -/
def failureEvents (id stream : Bytes) : Option Bytes → List Event
  | some failure => [newErrorEvent id (stream ++ ascii " scanner error: " ++ failure) false]
  | none => []

/-- Everything `streamOutput(id, r, stream)` emits, in order. -/
def streamEvents (id stream : Bytes) (output : Output) : List Event :=
  output.lines.map (lineEvent id output.relay) ++ failureEvents id stream output.failure

/-- The newline byte. -/
def newline : UInt8 := 0x0A

/-- The initial buffer `streamOutput` hands to `scanner.Buffer`. -/
def initialBufferSize : Nat := 64 * 1024

/-- The `max` of `scanner.Buffer`: the largest buffer, hence the longest token. -/
def maxTokenSize : Nat := 10 * 1024 * 1024

/-- `startBufSize`, the size a zero-length buffer grows to. -/
def startBufSize : Nat := 4096

/-- `dropCR`: one carriage return at the end is dropped. -/
def dropCR (data : Bytes) : Bytes :=
  if data.getLast? = some 0x0D then data.dropLast else data

/-- `ScanLines(data, atEOF)`: the advance and the token, or `none` where it
asks for more data. -/
def scanLines (data : Bytes) (atEOF : Bool) : Option (Nat × Bytes) :=
  if atEOF ∧ data = [] then none
  else
    let line := data.takeWhile (· != newline)
    if line.length < data.length then some (line.length + 1, dropCR line)
    else if atEOF then some (data.length, dropCR data)
    else none

/-- The lines `ScanLines` cuts `data` into when no buffer limits them, over at
most `fuel` lines: the bytes before each newline, and the bytes after the last
newline unless there are none. -/
def splitLinesLoop : Nat → Bytes → List Bytes
  | 0, data => if data = [] then [] else [data]
  | fuel + 1, data =>
      if data = [] then []
      else
        let line := data.takeWhile (· != newline)
        line :: splitLinesLoop fuel (data.drop (line.length + 1))

/-- The lines of `data`, each without its newline and with any carriage return. -/
def splitLines (data : Bytes) : List Bytes := splitLinesLoop data.length data

/-- The errors the scanner can meet on a pipe: `io.EOF`, which `Err` does not
report, and `ErrTooLong`. -/
inductive ScanError where
  | eof
  | tooLong
  deriving DecidableEq, Repr

/-- The text of the error, as `%v` prints it. -/
def ScanError.text : ScanError → Bytes
  | .eof => ascii "EOF"
  | .tooLong => ascii "bufio.Scanner: token too long"

/-- The scanner and its pipe: `len(s.buf)`, `s.start`, the buffered bytes
`s.buf[s.start:s.end]`, `s.err`, and what the child has written that no `Read`
has returned yet. -/
structure Scanner where
  size : Nat
  start : Nat
  window : Bytes
  err : Option ScanError
  pipe : Bytes
  deriving DecidableEq, Repr

/-- `s.Err()`: the error the scanner met, unless it is `io.EOF`. -/
def Scanner.failure (s : Scanner) : Option ScanError :=
  if s.err = some .eof then none else s.err

/-- The scanner `streamOutput` sets up on a pipe the child writes `output` to. -/
def Scanner.initial (output : Bytes) : Scanner := ⟨initialBufferSize, 0, [], none, output⟩

/-- How a turn of the loop in `Scan` ends: `Scan` returns a token, or returns
false, or the loop goes round again. -/
inductive Turn where
  | token (line : Bytes) (next : Scanner)
  | stop (next : Scanner)
  | more (next : Scanner)

/-- The token `ScanLines` finds in the buffered bytes, if `Scan` asks for one. -/
def Scanner.attempt (s : Scanner) : Option (Nat × Bytes) :=
  if s.window ≠ [] ∨ s.err.isSome then scanLines s.window s.err.isSome else none

/-- The buffered bytes move to the front when the buffer is full or more than
half of it lies before them. -/
def Scanner.shift (s : Scanner) : Scanner :=
  if 0 < s.start ∧ (s.start + s.window.length = s.size ∨ s.size / 2 < s.start) then
    { s with start := 0 }
  else s

/-- A full buffer doubles, up to `maxTokenSize`; at that size `Scan` fails. -/
def Scanner.grow (s : Scanner) : Option Scanner :=
  if s.start + s.window.length = s.size then
    if maxTokenSize ≤ s.size then none
    else
      some { s with
        size := min (if s.size = 0 then startBufSize else s.size * 2) maxTokenSize
        start := 0 }
  else some s

/-- One `Read` into the free end of the buffer: between one and `chunk` bytes
that fit, or `io.EOF` once the pipe is drained. -/
def Scanner.read (s : Scanner) (chunk : Nat) : Scanner :=
  if s.pipe = [] then { s with err := some .eof }
  else
    let count := min (max 1 chunk) (min (s.size - (s.start + s.window.length)) s.pipe.length)
    { s with window := s.window ++ s.pipe.take count, pipe := s.pipe.drop count }

/-- One turn of the loop in `Scan`, whose read returns at most `chunk` bytes. -/
def Scanner.turn (s : Scanner) (chunk : Nat) : Turn :=
  match s.attempt with
  | some (advance, token) =>
      .token token { s with start := s.start + advance, window := s.window.drop advance }
  | none =>
      if s.err.isSome then .stop { s with start := 0, window := [] }
      else
        match s.shift.grow with
        | none => .stop { s.shift with err := some .tooLong }
        | some grown => .more (grown.read chunk)

/-- `Scan` called until it returns false, over at most `fuel` turns, the read
of turn `index` returning at most `chunks index` bytes: the tokens, and the
error `Err` reports. -/
def Scanner.scan (chunks : Nat → Nat) : Nat → Nat → Scanner →
    Option (List Bytes × Option ScanError)
  | 0, _, _ => none
  | fuel + 1, index, s =>
      match s.turn (chunks index) with
      | .token line next =>
          (next.scan chunks fuel (index + 1)).map fun result => (line :: result.1, result.2)
      | .stop next => some ([], next.failure)
      | .more next => next.scan chunks fuel (index + 1)

/-- The rewrite `streamOutput` applies to each line, from the record it found. -/
def relayOf : Option Remapping → Bytes → Bytes
  | some lp => lp.relay
  | none => id

/-- `streamOutput(id, r, stream)` on a pipe the child writes `output` to and
closes, its reads returning at most `chunks index` bytes: what it emits.  Each
turn of the loop consumes a byte or ends it, so `2 * output.length + 2` turns
are enough (`streamOutput_eq`). -/
def streamOutput (lp : Option Remapping) (id stream output : Bytes) (chunks : Nat → Nat) :
    Option (List Event) :=
  ((Scanner.initial output).scan chunks (2 * output.length + 2) 0).map fun result =>
    streamEvents id stream ⟨result.1, result.2.map ScanError.text, relayOf lp⟩

/-- What `Scan` returns and `Err` reports on a pipe that carries `output`: the
lines before the first one of `maxTokenSize` bytes or more, each without one
carriage return, then `ErrTooLong` if there is such a line. -/
def scannedOutput (lp : Option Remapping) (output : Bytes) : Output :=
  let good := (splitLines output).takeWhile fun line => line.length < maxTokenSize
  ⟨good.map dropCR,
    if good.length < (splitLines output).length then some ScanError.tooLong.text else none,
    relayOf lp⟩

section Lines

theorem takeWhile_newline {line : Bytes} (free : newline ∉ line) (rest : Bytes) :
    (line ++ newline :: rest).takeWhile (· != newline) = line := by
  rw [List.takeWhile_append_of_pos (fun byte member => by
    simpa using fun same : byte = newline => free (same ▸ member)),
    List.takeWhile_cons_of_neg (by simp), List.append_nil]

theorem takeWhile_of_newline_free {data : Bytes} (free : newline ∉ data) :
    data.takeWhile (· != newline) = data :=
  List.takeWhile_eq_self_iff.mpr fun byte member => by
    simpa using fun same : byte = newline => free (same ▸ member)

theorem exists_first_newline : ∀ {data : Bytes}, newline ∈ data →
    ∃ line rest, data = line ++ newline :: rest ∧ newline ∉ line
  | [], found => absurd found (List.not_mem_nil _)
  | byte :: rest, found => by
      by_cases here : byte = newline
      · exact ⟨[], rest, by rw [here]; rfl, List.not_mem_nil _⟩
      · obtain ⟨line, tail, rfl, free⟩ :=
          exists_first_newline ((List.mem_cons.mp found).resolve_left (Ne.symm here))
        exact ⟨byte :: line, tail, rfl, by simp [free, Ne.symm here]⟩

theorem splitLinesLoop_congr {fuel other : Nat} {data : Bytes} (enough : data.length ≤ fuel)
    (otherEnough : data.length ≤ other) : splitLinesLoop fuel data = splitLinesLoop other data := by
  induction fuel generalizing other data with
  | zero =>
      rw [List.length_eq_zero.mp (Nat.le_zero.mp enough)]
      cases other <;> rfl
  | succ fuel induction =>
      by_cases empty : data = []
      · subst empty
        cases other <;> rfl
      · obtain ⟨other, rfl⟩ : ∃ smaller, other = smaller + 1 :=
          ⟨other - 1, by have := List.length_pos.mpr empty; omega⟩
        have shorter : (data.drop ((data.takeWhile (· != newline)).length + 1)).length + 1 ≤
            data.length := by
          have := List.length_pos.mpr empty
          simp only [List.length_drop]
          omega
        simp only [splitLinesLoop, if_neg empty]
        congr 1
        exact induction (by omega) (by omega)

theorem splitLines_of_ne_nil {data : Bytes} (nonempty : data ≠ []) :
    splitLines data = data.takeWhile (· != newline) ::
      splitLines (data.drop ((data.takeWhile (· != newline)).length + 1)) := by
  obtain ⟨length, hlength⟩ : ∃ length, data.length = length + 1 :=
    ⟨data.length - 1, by have := List.length_pos.mpr nonempty; omega⟩
  rw [splitLines, hlength, splitLinesLoop, if_neg nonempty]
  dsimp only
  congr 1
  exact splitLinesLoop_congr (by simp only [List.length_drop]; omega) le_rfl

theorem drop_newline (line rest : Bytes) :
    (line ++ newline :: rest).drop (line.length + 1) = rest := by
  rw [List.append_cons]
  exact List.drop_left' (by simp)

@[simp] theorem splitLines_nil : splitLines [] = [] := rfl

theorem splitLines_eq_nil {data : Bytes} (empty : splitLines data = []) : data = [] := by
  by_contra filled
  rw [splitLines_of_ne_nil filled] at empty
  cases empty

/-- A line ended by a newline is the first line. -/
theorem splitLines_newline {line : Bytes} (free : newline ∉ line) (rest : Bytes) :
    splitLines (line ++ newline :: rest) = line :: splitLines rest := by
  rw [splitLines_of_ne_nil (by simp), takeWhile_newline free, drop_newline]

/-- Bytes without a newline are one last line. -/
theorem splitLines_of_newline_free {data : Bytes} (free : newline ∉ data)
    (nonempty : data ≠ []) : splitLines data = [data] := by
  rw [splitLines_of_ne_nil nonempty, takeWhile_of_newline_free free,
    List.drop_eq_nil_of_le (by omega), splitLines_nil]

/-- Buffered bytes without a newline begin the first line of what follows. -/
theorem splitLines_append_of_newline_free {front : Bytes} (free : newline ∉ front)
    (nonempty : front ≠ []) (rest : Bytes) :
    ∃ line more, splitLines (front ++ rest) = line :: more ∧ front <+: line := by
  by_cases found : newline ∈ rest
  · obtain ⟨before, after, rfl, clear⟩ := exists_first_newline found
    refine ⟨front ++ before, splitLines after, ?_, List.prefix_append _ _⟩
    rw [← List.append_assoc, splitLines_newline (by simp [free, clear])]
  · exact ⟨front ++ rest, [], splitLines_of_newline_free (by simp [free, found])
      (by simp [nonempty]), List.prefix_append _ _⟩

theorem scanLines_newline {line : Bytes} (free : newline ∉ line) (rest : Bytes) (atEOF : Bool) :
    scanLines (line ++ newline :: rest) atEOF = some (line.length + 1, dropCR line) := by
  simp [scanLines, takeWhile_newline free]

theorem scanLines_of_newline_free {data : Bytes} (free : newline ∉ data) (atEOF : Bool) :
    scanLines data atEOF =
      if atEOF ∧ data ≠ [] then some (data.length, dropCR data) else none := by
  cases atEOF <;> by_cases empty : data = [] <;>
    simp [scanLines, takeWhile_of_newline_free free, empty]

end Lines

section Turns

/-- What holds at the top of every turn: the buffered bytes fit, the buffer is
between one byte and `maxTokenSize`, and the only error is `io.EOF`, met once
the pipe is drained and with the buffered bytes short of `maxTokenSize`. -/
structure Scanner.Sound (s : Scanner) : Prop where
  fits : s.start + s.window.length ≤ s.size
  positive : 0 < s.size
  bounded : s.size ≤ maxTokenSize
  ended : s.err = none ∨ s.err = some .eof ∧ s.pipe = [] ∧ s.window.length < maxTokenSize

/-- Twice the unread bytes, the buffered bytes, and one more before `io.EOF`:
every turn that does not end the loop lowers it. -/
def Scanner.measure (s : Scanner) : Nat :=
  2 * s.pipe.length + s.window.length + if s.err = none then 2 else 1

theorem Scanner.initial_sound (output : Bytes) : (Scanner.initial output).Sound :=
  ⟨by simp [Scanner.initial], by simp [Scanner.initial, initialBufferSize],
    by simp [Scanner.initial, initialBufferSize, maxTokenSize], .inl rfl⟩

/-- The lines still to come. -/
def Scanner.lines (s : Scanner) : List Bytes := splitLines (s.window ++ s.pipe)

@[simp] theorem Scanner.window_shift (s : Scanner) : s.shift.window = s.window := by
  unfold Scanner.shift; split <;> rfl

@[simp] theorem Scanner.pipe_shift (s : Scanner) : s.shift.pipe = s.pipe := by
  unfold Scanner.shift; split <;> rfl

@[simp] theorem Scanner.err_shift (s : Scanner) : s.shift.err = s.err := by
  unfold Scanner.shift; split <;> rfl

@[simp] theorem Scanner.size_shift (s : Scanner) : s.shift.size = s.size := by
  unfold Scanner.shift; split <;> rfl

theorem Scanner.start_shift_le (s : Scanner) : s.shift.start ≤ s.start := by
  unfold Scanner.shift; split <;> simp

/-- A buffer that is full after the shift holds its bytes from the front. -/
theorem Scanner.start_shift_of_full {s : Scanner}
    (full : s.shift.start + s.window.length = s.size) : s.shift.start = 0 := by
  unfold Scanner.shift at full ⊢
  split
  · rfl
  · rename_i stay
    rw [if_neg stay] at full
    exact Nat.eq_zero_of_not_pos fun positive => stay ⟨positive, .inl full⟩

/-- `attempt` finds nothing only in bytes without a newline, and at `io.EOF`
only in no bytes at all. -/
theorem Scanner.attempt_eq_none {s : Scanner} (attempted : s.attempt = none) :
    newline ∉ s.window ∧ (s.err.isSome → s.window = []) := by
  unfold Scanner.attempt at attempted
  split at attempted
  · by_cases found : newline ∈ s.window
    · obtain ⟨raw, rest, split, free⟩ := exists_first_newline found
      rw [split, scanLines_newline free] at attempted
      cases attempted
    · rw [scanLines_of_newline_free found] at attempted
      refine ⟨found, fun failed => ?_⟩
      by_contra filled
      rw [if_pos ⟨failed, filled⟩] at attempted
      cases attempted
  · rename_i idle
    simp only [not_or, ne_eq, not_not] at idle
    simp [idle.1]

/-- Growing fails only on a full buffer at its largest. -/
theorem Scanner.grow_eq_none {s : Scanner} (overflow : s.grow = none) :
    s.start + s.window.length = s.size ∧ maxTokenSize ≤ s.size := by
  unfold Scanner.grow at overflow
  split at overflow
  · split at overflow
    · exact ⟨‹_›, ‹_›⟩
    · cases overflow
  · cases overflow

/-- Growing a buffer, or keeping one that is not full, leaves room for a byte. -/
theorem Scanner.grow_room {s grown : Scanner} (fits : s.start + s.window.length ≤ s.size)
    (positive : 0 < s.size) (bounded : s.size ≤ maxTokenSize) (grew : s.grow = some grown) :
    grown.window = s.window ∧ grown.pipe = s.pipe ∧ grown.err = s.err ∧
      grown.start + grown.window.length < grown.size ∧ grown.size ≤ maxTokenSize := by
  unfold Scanner.grow at grew
  split at grew
  · split at grew
    · cases grew
    · rename_i full small
      cases grew
      simp only [Nat.pos_iff_ne_zero.mp positive, if_false, true_and, zero_add]
      omega
  · cases grew
    exact ⟨rfl, rfl, rfl, by omega, bounded⟩

/-- A turn that ends `Scan` finds the output exhausted at `io.EOF`, or fails
with `ErrTooLong` on a buffer of `maxTokenSize` bytes or more without a
newline, which it keeps. -/
theorem Scanner.Sound.stop {s next : Scanner} {chunk : Nat} (sound : s.Sound)
    (turned : s.turn chunk = .stop next) :
    next.pipe = s.pipe ∧
      (s.lines = [] ∧ next.window = [] ∧ s.err = some .eof ∧ next.err = some .eof ∨
        s.err = none ∧ next.window = s.window ∧ next.err = some .tooLong ∧
          newline ∉ s.window ∧ maxTokenSize ≤ s.window.length) := by
  simp only [Scanner.turn] at turned
  split at turned
  · cases turned
  rename_i attempted
  obtain ⟨free, drainedWindow⟩ := Scanner.attempt_eq_none attempted
  split at turned
  · rename_i failed
    cases turned
    obtain ⟨eof, drained, -⟩ := sound.ended.resolve_left (Option.ne_none_iff_isSome.mpr failed)
    exact ⟨rfl, .inl ⟨by simp [Scanner.lines, drainedWindow failed, drained], rfl, eof, eof⟩⟩
  · rename_i clean
    split at turned
    · rename_i overflow
      cases turned
      obtain ⟨full, large⟩ := Scanner.grow_eq_none overflow
      simp only [Scanner.window_shift, Scanner.size_shift] at full large
      rw [Scanner.start_shift_of_full (by simpa using full)] at full
      exact ⟨by simp, .inr ⟨by simpa using clean, by simp, rfl, free, by omega⟩⟩
    · cases turned

/-- Buffered bytes of `maxTokenSize` or more without a newline begin a first
line of `maxTokenSize` bytes or more, whatever follows them. -/
theorem splitLines_of_long_window {window : Bytes} (free : newline ∉ window)
    (long : maxTokenSize ≤ window.length) (rest : Bytes) :
    ∃ line more, splitLines (window ++ rest) = line :: more ∧ maxTokenSize ≤ line.length := by
  obtain ⟨line, more, lines, front⟩ := splitLines_append_of_newline_free free
    (List.ne_nil_of_length_pos (by unfold maxTokenSize at long; omega)) rest
  exact ⟨line, more, lines, le_trans long front.length_le⟩

/-- A turn that goes round again has read: the lines to come are the same and
the measure drops. -/
theorem Scanner.Sound.more {s next : Scanner} {chunk : Nat} (sound : s.Sound)
    (turned : s.turn chunk = .more next) :
    next.lines = s.lines ∧ next.Sound ∧ next.measure < s.measure := by
  simp only [Scanner.turn] at turned
  split at turned
  · cases turned
  split at turned
  · cases turned
  rename_i clean
  split at turned
  · cases turned
  rename_i grown grew
  cases turned
  have clean : s.err = none := by simpa using clean
  obtain ⟨window, pipe, err, room, bounded⟩ := Scanner.grow_room
    (by have := s.start_shift_le; simp only [Scanner.window_shift, Scanner.size_shift]
        have := sound.fits; omega)
    (by simpa using sound.positive) (by simpa using sound.bounded) grew
  simp only [Scanner.window_shift, Scanner.pipe_shift, Scanner.err_shift] at window pipe err
  unfold Scanner.read
  split
  · rename_i drained
    refine ⟨by simp [Scanner.lines, window, pipe, drained],
      ⟨?_, ?_, bounded, .inr ⟨rfl, drained, ?_⟩⟩, ?_⟩
    all_goals dsimp only
    · omega
    · omega
    · omega
    · simp [Scanner.measure, window, pipe, drained, clean, err]
  · rename_i filled
    have some : 0 < grown.pipe.length := List.length_pos.mpr filled
    refine ⟨by simp only [Scanner.lines, List.append_assoc, List.take_append_drop, window, pipe],
      ⟨?_, ?_, bounded, .inl (err.trans clean)⟩, ?_⟩
    all_goals dsimp only
    · simp only [List.length_append, List.length_take]
      omega
    · omega
    · simp only [Scanner.measure, List.length_append, List.length_take, List.length_drop, err,
        clean, ← window, ← pipe, if_true]
      omega

/-- A turn that returns a token returns the next line, shorter than
`maxTokenSize`, without one carriage return; before `io.EOF` the line and its
newline are the front of the buffer. -/
theorem Scanner.Sound.token {s next : Scanner} {chunk : Nat} {line : Bytes} (sound : s.Sound)
    (turned : s.turn chunk = .token line next) :
    ∃ raw, line = dropCR raw ∧ raw.length < maxTokenSize ∧ s.lines = raw :: next.lines ∧
      next.Sound ∧ next.measure < s.measure ∧
      (s.err = none → newline ∉ raw ∧ s.window = raw ++ newline :: next.window) := by
  simp only [Scanner.turn] at turned
  split at turned
  case h_2 => split at turned <;> (try split at turned) <;> cases turned
  rename_i advance token attempted
  cases turned
  have ⟨fits, positive, bounded, ended⟩ := sound
  simp only [Scanner.attempt] at attempted
  split at attempted
  case isFalse => cases attempted
  by_cases found : newline ∈ s.window
  · obtain ⟨raw, rest, split, free⟩ := exists_first_newline found
    rw [split, scanLines_newline free] at attempted
    cases attempted
    have after : s.window.drop (raw.length + 1) = rest := by rw [split, drop_newline]
    have sizes : s.window.length = raw.length + 1 + rest.length := by simp [split]; omega
    refine ⟨raw, rfl, by omega, ?_, ⟨?_, positive, bounded, ?_⟩, ?_,
      fun _ => ⟨free, by simp only [after]; exact split⟩⟩
    · simp only [Scanner.lines, after]
      rw [split, List.append_assoc, List.cons_append, splitLines_newline free]
    · simp only [after]
      omega
    · rcases ended with none | ⟨eof, drained, short⟩
      · exact .inl none
      · exact .inr ⟨eof, drained, by simp only [after]; omega⟩
    · simp only [Scanner.measure, after]
      omega
  · rw [scanLines_of_newline_free found] at attempted
    split at attempted
    · rename_i atEnd
      cases attempted
      obtain ⟨eof, drained, short⟩ := ended.resolve_left (Option.ne_none_iff_isSome.mpr atEnd.1)
      refine ⟨s.window, rfl, short, ?_, ⟨by simp; omega, positive, bounded, ?_⟩, ?_,
        fun clean => absurd atEnd.1 (by simp [clean])⟩
      · simp [Scanner.lines, drained, splitLines_of_newline_free found atEnd.2]
      · exact .inr ⟨eof, drained, by simp [maxTokenSize]⟩
      · have := List.length_pos.mpr atEnd.2
        simp [Scanner.measure, eof, drained]
        omega
    · cases attempted

end Turns

section Runs

variable {chunks : Nat → Nat}

theorem Scanner.measure_pos (s : Scanner) : 0 < s.measure := by
  unfold Scanner.measure
  split <;> omega

/-- From a sound scanner whose lines to come are all shorter than
`maxTokenSize`, `Scan` returns each of them without one carriage return, and
`Err` reports nothing. -/
theorem Scanner.scan_of_short : ∀ {fuel index : Nat} {s : Scanner}, s.Sound →
    (∀ line ∈ s.lines, line.length < maxTokenSize) → s.measure ≤ fuel →
    s.scan chunks fuel index = some (s.lines.map dropCR, none)
  | 0, _, s, _, _, enough => absurd enough (by have := s.measure_pos; omega)
  | fuel + 1, index, s, sound, short, enough => by
      simp only [Scanner.scan]
      split
      case h_1 line next turned =>
        obtain ⟨raw, rfl, -, lines, nextSound, smaller, -⟩ := sound.token turned
        rw [lines] at short ⊢
        rw [Scanner.scan_of_short nextSound (fun line member => short line (.tail _ member))
          (by omega)]
        rfl
      case h_2 next turned =>
        rcases sound.stop turned with ⟨-, ⟨empty, -, -, eof⟩ | ⟨-, -, -, free, long⟩⟩
        · simp [empty, eof, Scanner.failure]
        · obtain ⟨line, more, lines, longLine⟩ := splitLines_of_long_window free long s.pipe
          have := short line (by rw [Scanner.lines, lines]; exact .head _)
          omega
      case h_3 next turned =>
        obtain ⟨same, nextSound, smaller⟩ := sound.more turned
        rw [← same]
        exact Scanner.scan_of_short nextSound (same ▸ short) (by omega)

/-- From a sound scanner whose lines to come are short up to one of
`maxTokenSize` bytes or more, `Scan` returns the short ones and then fails
with `ErrTooLong`. -/
theorem Scanner.scan_of_long : ∀ {fuel index : Nat} {s : Scanner} {good more : List Bytes}
    {long : Bytes}, s.Sound → s.lines = good ++ long :: more →
    (∀ line ∈ good, line.length < maxTokenSize) → maxTokenSize ≤ long.length →
    s.measure ≤ fuel → s.scan chunks fuel index = some (good.map dropCR, some .tooLong)
  | 0, _, s, _, _, _, _, _, _, _, enough => absurd enough (by have := s.measure_pos; omega)
  | fuel + 1, index, s, good, more, long, sound, lines, short, longLine, enough => by
      simp only [Scanner.scan]
      split
      case h_1 line next turned =>
        obtain ⟨raw, rfl, fits, next_lines, nextSound, smaller, -⟩ := sound.token turned
        cases good with
        | nil =>
            obtain ⟨rfl, -⟩ := List.cons_eq_cons.mp (next_lines.symm.trans lines)
            omega
        | cons first good =>
            obtain ⟨rfl, rest⟩ := List.cons_eq_cons.mp (next_lines.symm.trans lines)
            rw [Scanner.scan_of_long nextSound (show next.lines = good ++ long :: more from rest)
              (fun line member => short line (.tail _ member)) longLine (by omega)]
            rfl
      case h_2 next turned =>
        rcases sound.stop turned with ⟨-, ⟨empty, -⟩ | ⟨-, -, tooLong, free, long⟩⟩
        · simp [empty] at lines
        · obtain ⟨line, rest, stopped, _⟩ := splitLines_of_long_window free long s.pipe
          cases good with
          | nil => simp [tooLong, Scanner.failure]
          | cons first good =>
              obtain ⟨rfl, -⟩ := List.cons_eq_cons.mp (stopped.symm.trans lines)
              have := short line (.head _)
              omega
      case h_3 next turned =>
        obtain ⟨same, nextSound, smaller⟩ := sound.more turned
        exact Scanner.scan_of_long nextSound (same.trans lines) short longLine (by omega)

end Runs

theorem Scanner.lines_initial (output : Bytes) :
    (Scanner.initial output).lines = splitLines output :=
  rfl

theorem Scanner.measure_initial (output : Bytes) :
    (Scanner.initial output).measure = 2 * output.length + 2 := by
  simp [Scanner.measure, Scanner.initial]

/-- Lines that are not all short split at the first long one. -/
theorem exists_first_long : ∀ {lines : List Bytes},
    ¬(∀ line ∈ lines, line.length < maxTokenSize) →
    ∃ good line more, lines = good ++ line :: more ∧
      (∀ line ∈ good, line.length < maxTokenSize) ∧ maxTokenSize ≤ line.length
  | [], long => absurd (fun _ member => absurd member (List.not_mem_nil _)) long
  | first :: rest, long => by
      by_cases shortFirst : first.length < maxTokenSize
      · obtain ⟨good, line, more, rfl, goodShort, longLine⟩ :=
          exists_first_long fun all => long (List.forall_mem_cons.mpr ⟨shortFirst, all⟩)
        exact ⟨first :: good, line, more, rfl, List.forall_mem_cons.mpr ⟨shortFirst, goodShort⟩,
          longLine⟩
      · exact ⟨[], first, rest, rfl, fun _ member => absurd member (List.not_mem_nil _),
          Nat.le_of_not_lt shortFirst⟩

theorem scannedOutput_of_short (lp : Option Remapping) {output : Bytes}
    (short : ∀ line ∈ splitLines output, line.length < maxTokenSize) :
    scannedOutput lp output = ⟨(splitLines output).map dropCR, none, relayOf lp⟩ := by
  have taken : (splitLines output).takeWhile (fun line => line.length < maxTokenSize) =
      splitLines output :=
    List.takeWhile_eq_self_iff.mpr fun line member => by simpa using short line member
  simp [scannedOutput, taken]

theorem scannedOutput_of_long (lp : Option Remapping) {output long : Bytes}
    {good more : List Bytes} (lines : splitLines output = good ++ long :: more)
    (short : ∀ line ∈ good, line.length < maxTokenSize) (longLine : maxTokenSize ≤ long.length) :
    scannedOutput lp output = ⟨good.map dropCR, some ScanError.tooLong.text, relayOf lp⟩ := by
  have taken : (splitLines output).takeWhile (fun line => line.length < maxTokenSize) = good := by
    rw [lines, List.takeWhile_append_of_pos fun line member => by simpa using short line member,
      List.takeWhile_cons_of_neg (by simpa using longLine), List.append_nil]
  simp only [scannedOutput, taken]
  rw [lines]
  simp

/-- Whatever the sizes of the reads, `streamOutput` emits the events of
`scannedOutput`: the sizes change when `Scan` returns, never what. -/
theorem streamOutput_eq (lp : Option Remapping) (id stream output : Bytes) (chunks : Nat → Nat) :
    streamOutput lp id stream output chunks =
      some (streamEvents id stream (scannedOutput lp output)) := by
  by_cases short : ∀ line ∈ splitLines output, line.length < maxTokenSize
  · rw [streamOutput, Scanner.scan_of_short (Scanner.initial_sound output) short
      (Scanner.measure_initial output).le, scannedOutput_of_short lp short]
    rfl
  · obtain ⟨good, long, more, lines, goodShort, longLine⟩ := exists_first_long short
    rw [streamOutput, Scanner.scan_of_long (Scanner.initial_sound output) lines goodShort longLine
      (Scanner.measure_initial output).le, scannedOutput_of_long lp lines goodShort longLine]
    rfl

/-- Whatever the sizes of the reads: when every line the child writes is
shorter than `maxTokenSize`, `streamOutput` emits one `stdout` event per line,
in order, the line without one trailing carriage return, a newline, and the
reverse mapping, and no error event; when a line of `maxTokenSize` bytes or
more comes, it emits the lines before it so, then the `ErrTooLong` error
event, and nothing for that line or after it. -/
theorem streamOutput_relays_short_lines (lp : Option Remapping) (id stream output : Bytes)
    (chunks : Nat → Nat) :
    ((∀ line ∈ splitLines output, line.length < maxTokenSize) →
      streamOutput lp id stream output chunks = some ((splitLines output).map fun line =>
        newStdoutEvent id (relayOf lp (dropCR line ++ ascii "\n")))) ∧
    (∀ good long more, splitLines output = good ++ long :: more →
      (∀ line ∈ good, line.length < maxTokenSize) → maxTokenSize ≤ long.length →
      streamOutput lp id stream output chunks = some (good.map (fun line =>
        newStdoutEvent id (relayOf lp (dropCR line ++ ascii "\n"))) ++
          [newErrorEvent id (stream ++ ascii " scanner error: " ++
            ascii "bufio.Scanner: token too long") false])) := by
  refine ⟨fun short => ?_, fun good long more lines short longLine => ?_⟩
  · rw [streamOutput_eq, scannedOutput_of_short lp short]
    simp [streamEvents, failureEvents, lineEvent]
  · rw [streamOutput_eq, scannedOutput_of_long lp lines short longLine]
    simp [streamEvents, failureEvents, lineEvent, ScanError.text]

theorem streamOutput_relays_short_lines_two_lines :
    (∀ line ∈ splitLines (ascii "ok\n/data/x\n"), line.length < maxTokenSize) ∧
      streamOutput (some (spawnRemapping (ascii "/v") (ascii "/data") true []))
          (ascii "proc-1") (ascii "stdout") (ascii "ok\n/data/x\n") (fun _ => 1) =
        some ((splitLines (ascii "ok\n/data/x\n")).map fun line =>
          newStdoutEvent (ascii "proc-1") (relayOf (some (spawnRemapping (ascii "/v")
            (ascii "/data") true [])) (dropCR line ++ ascii "\n"))) := by
  have short : ∀ line ∈ splitLines (ascii "ok\n/data/x\n"), line.length < maxTokenSize := by
    decide
  exact ⟨short, (streamOutput_relays_short_lines _ _ _ _ _).1 short⟩

/-- A line ended by CR LF is relayed without its carriage return. -/
theorem crlf_line_relayed_without_carriage_return :
    streamOutput none (ascii "proc-1") (ascii "stdout") (ascii "a\r\n") (fun _ => 4096) =
      some [newStdoutEvent (ascii "proc-1") (ascii "a\n")] := by
  decide

/-- A line of `maxTokenSize` bytes or more ends the relay: the lines before it
are relayed, then `ErrTooLong` is reported, and nothing after it is. -/
theorem streamOutput_stops_at_long_line (lp : Option Remapping) (id stream output : Bytes)
    (chunks : Nat → Nat) {good more : List Bytes} {long : Bytes}
    (lines : splitLines output = good ++ long :: more)
    (short : ∀ line ∈ good, line.length < maxTokenSize) (longLine : maxTokenSize ≤ long.length) :
    streamOutput lp id stream output chunks = some (good.map (fun line =>
      newStdoutEvent id (relayOf lp (dropCR line ++ ascii "\n"))) ++
        [newErrorEvent id (stream ++ ascii " scanner error: " ++
          ascii "bufio.Scanner: token too long") false]) := by
  rw [streamOutput_eq, scannedOutput_of_long lp lines short longLine]
  simp [streamEvents, failureEvents, lineEvent, ScanError.text]

/-- A line of exactly `maxTokenSize` bytes with its newline is not relayed. -/
theorem streamOutput_stops_at_long_line_exact :
    splitLines (List.replicate maxTokenSize 0x61 ++ [newline]) =
        [] ++ List.replicate maxTokenSize 0x61 :: [] ∧
      streamOutput none (ascii "proc-1") (ascii "stdout")
          (List.replicate maxTokenSize 0x61 ++ [newline]) (fun _ => 4096) =
        some [newErrorEvent (ascii "proc-1")
          (ascii "stdout" ++ ascii " scanner error: " ++ ascii "bufio.Scanner: token too long")
          false] := by
  have lines : splitLines (List.replicate maxTokenSize 0x61 ++ [newline]) =
      [] ++ List.replicate maxTokenSize 0x61 :: [] :=
    splitLines_newline (by simp [newline]) []
  exact ⟨lines, streamOutput_stops_at_long_line none _ _ _ _ lines (by simp) (by simp)⟩

end CoworkService.Native
