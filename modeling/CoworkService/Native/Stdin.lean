import CoworkService.Basic

/-!
# `writeStdin` against the reaper, the timer and other writers

After the lookup, the path rewriting and the check of `lp.done`,
`processTracker.writeStdin` starts a goroutine that takes the record's
`lp.mu`, calls `stdin.Write` and sends the result on a buffered channel; the
caller then waits in a `select` for that result, for `lp.done`, or for a
10-second timer, whichever is ready (Go picks among ready cases at random).

Every call is two threads, the caller and its goroutine, and the steps of all
calls interleave with the reaper closing `done`.  A write runs under the
mutex, so it is one atomic step appending one chunk to the pipe.  The caller
returns nil only once its whole payload is in the pipe, and a call rejected
before its goroutine starts never writes; but a call that gives up on `done`
or on the timer leaves its goroutine behind, and that goroutine may still
write, after the call has returned and after later calls have written.
-/

namespace CoworkService.Native

/-- The errors `writeStdin` returns, one per `fmt.Errorf` or `res.err`. -/
inductive StdinError where
  | notFound
  | hasExited
  | exitedDuringWrite
  | timeout
  /-- The error `stdin.Write` returned, with its text. -/
  | failed (text : Bytes)
  deriving DecidableEq, Repr

/-- The error's text for process `id`. -/
def StdinError.text (id : Bytes) : StdinError → Bytes
  | .notFound => ascii "process " ++ id ++ ascii " not found"
  | .hasExited => ascii "process " ++ id ++ ascii " has exited"
  | .exitedDuringWrite => ascii "process " ++ id ++ ascii " exited during write"
  | .timeout => ascii "stdin write timeout for process " ++ id
  | .failed text => text

/-- Where a caller of `writeStdin` stands: before the check of `lp.done`, in
the `select`, or returned (`none` for nil). -/
inductive CallerPc where
  | calling
  | selecting
  | returned (result : Option StdinError)
  deriving DecidableEq, Repr

/-- Where a call's goroutine stands: waiting for `lp.mu`, holding it in
`stdin.Write`, or done, having sent the error `Write` returned (`none` for nil). -/
inductive WriterPc where
  | queued
  | writing
  | sent (error : Option Bytes)
  deriving DecidableEq, Repr

/-- One call: the data after the remapping and the skill-prefix rewrite,
whether the lookup finds the record, and where its two threads stand (no
goroutine before the check of `done`). -/
structure StdinCall where
  payload : Bytes
  tracked : Bool
  caller : CallerPc
  writer : Option WriterPc
  deriving DecidableEq, Repr

/-- The calls on one record, the holder of `lp.mu`, whether `lp.done` is
closed, and the chunks written to the pipe, in order, each with its call. -/
structure Stdin where
  calls : List StdinCall
  holder : Option Nat
  closed : Bool
  pipe : List (Nat × Bytes)
  deriving DecidableEq, Repr

/-- The atomic steps. -/
inductive StdinStep where
  /-- The lookup, and the `select` on `lp.done` with its `default`: the call
  fails, or starts its goroutine. -/
  | check (call : Nat)
  /-- The goroutine takes `lp.mu`. -/
  | lock (call : Nat)
  /-- `stdin.Write` returns having written `count` bytes, with `error`;
  the goroutine sends the result and releases `lp.mu`. -/
  | write (call : Nat) (count : Nat) (error : Option Bytes)
  /-- The `select` takes the goroutine's result. -/
  | receive (call : Nat)
  /-- The `select` takes `<-lp.done`. -/
  | exitedDuringWrite (call : Nat)
  /-- The `select` takes the timer. -/
  | timeout (call : Nat)
  /-- The reaper's `close(lp.done)`. -/
  | exit
  deriving DecidableEq, Repr

/-- Calls with the given rewritten payloads, on a record found or not, none
started yet. -/
def Stdin.initial (requests : List (Bytes × Bool)) : Stdin :=
  ⟨requests.map fun request => ⟨request.1, request.2, .calling, none⟩, none, false, []⟩

/-- What `Write` puts in the pipe: everything, unless it fails part way. -/
def chunk (payload : Bytes) (count : Nat) : Option Bytes → Bytes
  | none => payload
  | some _ => payload.take count

/-- One step, or `none` when the thread is not at that point. -/
def Stdin.step (state : Stdin) : StdinStep → Option Stdin
  | .check index =>
      match state.calls[index]? with
      | some ⟨payload, tracked, .calling, none⟩ =>
          let outcome : CallerPc × Option WriterPc :=
            if !tracked then (.returned (some .notFound), none)
            else if state.closed then (.returned (some .hasExited), none)
            else (.selecting, some .queued)
          some { state with
            calls := state.calls.set index ⟨payload, tracked, outcome.1, outcome.2⟩ }
      | _ => none
  | .lock index =>
      match state.calls[index]?, state.holder with
      | some ⟨payload, tracked, caller, some .queued⟩, none =>
          some { state with
            calls := state.calls.set index ⟨payload, tracked, caller, some .writing⟩
            holder := some index }
      | _, _ => none
  | .write index count error =>
      match state.calls[index]? with
      | some ⟨payload, tracked, caller, some .writing⟩ =>
          some { state with
            calls := state.calls.set index ⟨payload, tracked, caller, some (.sent error)⟩
            holder := none
            pipe := state.pipe ++ [(index, chunk payload count error)] }
      | _ => none
  | .receive index =>
      match state.calls[index]? with
      | some ⟨payload, tracked, .selecting, some (.sent error)⟩ =>
          some { state with
            calls := state.calls.set index
              ⟨payload, tracked, .returned (error.map .failed), some (.sent error)⟩ }
      | _ => none
  | .exitedDuringWrite index =>
      match state.calls[index]? with
      | some ⟨payload, tracked, .selecting, writer⟩ =>
          if state.closed then
            some { state with
              calls := state.calls.set index
                ⟨payload, tracked, .returned (some .exitedDuringWrite), writer⟩ }
          else none
      | _ => none
  | .timeout index =>
      match state.calls[index]? with
      | some ⟨payload, tracked, .selecting, writer⟩ =>
          some { state with
            calls := state.calls.set index
              ⟨payload, tracked, .returned (some .timeout), writer⟩ }
      | _ => none
  | .exit => if state.closed then none else some { state with closed := true }

/-- The state after a schedule, if every step can be taken. -/
def Stdin.run (state : Stdin) : List StdinStep → Option Stdin
  | [] => some state
  | step :: steps => (state.step step).bind (·.run steps)

/-! ### What each call writes -/

/-- The chunks call `index` has put in the pipe, in order. -/
def Stdin.written (state : Stdin) (index : Nat) : List Bytes :=
  (state.pipe.filter fun entry => entry.1 = index).map Prod.snd

/-- What holds of every call in a reachable state, given what it has written:
nothing until its goroutine is done, then one chunk, a prefix of its payload
and the whole of it when `Write` succeeded; a nil return only after a
successful `Write`; and no goroutine for a call rejected by the checks. -/
structure StdinCall.Sound (written : List Bytes) (call : StdinCall) : Prop where
  chunks : match call.writer with
    | some (.sent error) =>
        ∃ bytes, written = [bytes] ∧ bytes <+: call.payload ∧
          (error = none → bytes = call.payload)
    | _ => written = []
  succeeded : call.caller = .returned none → call.writer = some (.sent none)
  rejected : call.caller = .returned (some .notFound) ∨
    call.caller = .returned (some .hasExited) → call.writer = none

/-- Every call of a reachable state is sound. -/
def Stdin.Sound (state : Stdin) : Prop :=
  ∀ (index : Nat) (call : StdinCall), state.calls[index]? = some call →
    call.Sound (state.written index)

theorem Stdin.initial_sound (requests : List (Bytes × Bool)) : (Stdin.initial requests).Sound := by
  intro index call found
  simp only [initial, List.getElem?_map, Option.map_eq_some'] at found
  obtain ⟨_, _, rfl⟩ := found
  exact ⟨by simp [written, initial], nofun, fun _ => rfl⟩

/-- A step that replaces call `index` and appends chunks of that call only
keeps every other call sound. -/
theorem Stdin.Sound.update {state after : Stdin} (sound : state.Sound) {index : Nat}
    {old new : StdinCall} (found : state.calls[index]? = some old) (added : List Bytes)
    (calls : after.calls = state.calls.set index new)
    (pipe : after.pipe = state.pipe ++ added.map fun bytes => (index, bytes))
    (updated : old.Sound (state.written index) → new.Sound (after.written index)) :
    after.Sound := by
  intro other call present
  rw [calls, getElem?_set_of_getElem? found] at present
  split at present
  · rename_i here
    cases present
    subst here
    exact updated (sound _ _ found)
  · rename_i elsewhere
    have unchanged : after.written other = state.written other := by
      have foreign : (added.map fun bytes => (index, bytes)).filter
          (fun entry => entry.1 = other) = [] :=
        List.filter_eq_nil_iff.mpr (by simp [elsewhere])
      simp only [written, pipe, List.filter_append, foreign, List.append_nil]
    rw [unchanged]
    exact sound _ _ present

theorem Stdin.Sound.step {state after : Stdin} {step : StdinStep} (sound : state.Sound)
    (stepped : state.step step = some after) : after.Sound := by
  cases step with
  | check index =>
      simp only [Stdin.step] at stepped
      split at stepped
      · rename_i payload tracked found
        cases stepped
        refine sound.update found [] rfl (by simp) fun old => ?_
        have empty : state.written index = [] := old.chunks
        cases tracked
        · exact ⟨empty, nofun, fun _ => rfl⟩
        · cases closed : state.closed
          · exact ⟨empty, nofun, nofun⟩
          · exact ⟨empty, nofun, fun _ => rfl⟩
      · cases stepped
  | lock index =>
      simp only [Stdin.step] at stepped
      split at stepped
      · rename_i payload tracked caller found _
        cases stepped
        refine sound.update found [] rfl (by simp) fun old => ⟨old.chunks, fun returned => ?_,
          fun rejected => ?_⟩
        · simpa using old.succeeded returned
        · simpa using old.rejected rejected
      · cases stepped
  | write index count error =>
      simp only [Stdin.step] at stepped
      split at stepped
      · rename_i payload tracked caller found
        cases stepped
        refine sound.update found [chunk payload count error] rfl rfl fun old => ⟨?_,
          fun returned => ?_, fun rejected => ?_⟩
        · have empty : state.written index = [] := old.chunks
          refine ⟨chunk payload count error, ?_, ?_,
            fun succeeded => by simp [succeeded, chunk]⟩
          · simp only [written, List.filter_append, List.map_append] at empty ⊢
            simp [empty]
          · cases error
            · exact List.prefix_refl _
            · exact ⟨_, List.take_append_drop _ _⟩
        · simpa using old.succeeded returned
        · simpa using old.rejected rejected
      · cases stepped
  | receive index =>
      simp only [Stdin.step] at stepped
      split at stepped
      · rename_i payload tracked error found
        cases stepped
        refine sound.update found [] rfl (by simp) fun old => ⟨old.chunks, fun returned => ?_,
          fun rejected => ?_⟩
        · cases error <;> simp_all
        · cases error <;> simp_all
      · cases stepped
  | exitedDuringWrite index =>
      simp only [Stdin.step] at stepped
      split at stepped
      · rename_i payload tracked writer found
        split at stepped
        · cases stepped
          exact sound.update found [] rfl (by simp) fun old => ⟨old.chunks, nofun, nofun⟩
        · cases stepped
      · cases stepped
  | timeout index =>
      simp only [Stdin.step] at stepped
      split at stepped
      · rename_i payload tracked writer found
        cases stepped
        exact sound.update found [] rfl (by simp) fun old => ⟨old.chunks, nofun, nofun⟩
      · cases stepped
  | exit =>
      simp only [Stdin.step] at stepped
      split at stepped
      · cases stepped
      · cases stepped
        exact sound

/-- What every step keeps holds after every run. -/
theorem Stdin.run_preserves (holds : Stdin → Prop)
    (kept : ∀ {state after : Stdin} {step : StdinStep}, holds state →
      state.step step = some after → holds after)
    {state after : Stdin} {steps : List StdinStep} (initially : holds state)
    (ran : state.run steps = some after) : holds after := by
  induction steps generalizing state with
  | nil =>
      cases ran
      exact initially
  | cons step steps induction =>
      simp only [Stdin.run, Option.bind_eq_some] at ran
      obtain ⟨middle, stepped, rest⟩ := ran
      exact induction (kept initially stepped) rest

theorem Stdin.Sound.run {state after : Stdin} {steps : List StdinStep} (sound : state.Sound)
    (ran : state.run steps = some after) : after.Sound :=
  Stdin.run_preserves Stdin.Sound (fun sound stepped => sound.step stepped) sound ran

/-- In every interleaving, each `writeStdin` call puts at most one chunk in the
pipe, once its goroutine is done: a prefix of its payload, the whole of it when
`Write` returned no error; a call that has returned nil has its whole
payload there; and a call rejected by the lookup or by the check of `done`
has put nothing there. -/
theorem writeStdin_writes_at_most_once {requests : List (Bytes × Bool)}
    {schedule : List StdinStep} {after : Stdin}
    (ran : (Stdin.initial requests).run schedule = some after) {index : Nat} {call : StdinCall}
    (found : after.calls[index]? = some call) :
    (after.written index = [] ∨
      ∃ bytes error, call.writer = some (.sent error) ∧ after.written index = [bytes] ∧
        bytes <+: call.payload ∧ (error = none → bytes = call.payload)) ∧
    (call.caller = .returned none → after.written index = [call.payload]) ∧
    (call.caller = .returned (some .notFound) ∨ call.caller = .returned (some .hasExited) →
      after.written index = []) := by
  have sound := (Stdin.initial_sound requests).run ran index call found
  have chunks := sound.chunks
  refine ⟨?_, fun returned => ?_, fun rejected => ?_⟩
  · split at chunks
    · rename_i error sent
      obtain ⟨bytes, single, prefixed, whole⟩ := chunks
      exact .inr ⟨bytes, error, sent, single, prefixed, whole⟩
    · exact .inl chunks
  · rw [sound.succeeded returned] at chunks
    obtain ⟨bytes, single, _, whole⟩ := chunks
    rw [single, whole rfl]
  · rw [sound.rejected rejected] at chunks
    exact chunks

theorem writeStdin_writes_at_most_once_one_call :
    ∃ after, (Stdin.initial [(ascii "hi", true)]).run
        [.check 0, .lock 0, .write 0 2 none, .receive 0] = some after ∧
      after.calls[0]? = some ⟨ascii "hi", true, .returned none, some (.sent none)⟩ ∧
      ((after.written 0 = [] ∨ ∃ bytes error, some (WriterPc.sent none) = some (.sent error) ∧
          after.written 0 = [bytes] ∧ bytes <+: ascii "hi" ∧ (error = none → bytes = ascii "hi")) ∧
        (CallerPc.returned none = .returned none → after.written 0 = [ascii "hi"]) ∧
        (CallerPc.returned none = .returned (some .notFound) ∨
            CallerPc.returned none = .returned (some .hasExited) → after.written 0 = [])) := by
  have ran : (Stdin.initial [(ascii "hi", true)]).run
      [.check 0, .lock 0, .write 0 2 none, .receive 0] =
      some ⟨[⟨ascii "hi", true, .returned none, some (.sent none)⟩], none, false,
        [(0, ascii "hi")]⟩ := by decide
  exact ⟨_, ran, rfl, @writeStdin_writes_at_most_once _ _ _ ran 0 _ rfl⟩

/-- The first call gives up on the timer; the second is made after it has
returned and succeeds; then the first call's goroutine writes.  The first call
returned an error, yet its payload reaches the child, after the second's. -/
theorem timed_out_write_lands_after_later_call :
    (Stdin.initial [(ascii "a", true), (ascii "b", true)]).run
        [.check 0, .timeout 0, .check 1, .lock 1, .write 1 1 none, .receive 1,
          .lock 0, .write 0 1 none] =
      some ⟨[⟨ascii "a", true, .returned (some .timeout), some (.sent none)⟩,
          ⟨ascii "b", true, .returned none, some (.sent none)⟩], none, false,
        [(1, ascii "b"), (0, ascii "a")]⟩ := by
  decide

end CoworkService.Native
