import CoworkService.Process.Events

/-!
# Signals by name

`kill` gets the name of a signal from the client, and `mapSignal` turns it
into a signal: in any case, with or without `SIG`, one of six names, and
`SIGTERM` for every other name, the empty one included.  When a child dies of
a signal the reaper reports exit code `-1` (`ExitCode()` of a signalled
process) and `signalName` of the signal in the exit event.

The name of a mapped signal maps back to it, and `signalName` gives distinct
signals distinct names.

`strings.ToUpper` is modelled on what `mapSignal` compares: ASCII letters, and
the two runes outside ASCII whose upper case is an ASCII letter.
-/

namespace CoworkService.Native

/-! ### The signals of `syscall` on Linux -/

def SIGHUP : Nat := 1
def SIGINT : Nat := 2
def SIGQUIT : Nat := 3
def SIGABRT : Nat := 6
def SIGKILL : Nat := 9
def SIGUSR1 : Nat := 10
def SIGSEGV : Nat := 11
def SIGUSR2 : Nat := 12
def SIGPIPE : Nat := 13
def SIGTERM : Nat := 15

/-- The signals `mapSignal` returns. -/
def mappedSignals : List Nat := [SIGKILL, SIGINT, SIGQUIT, SIGHUP, SIGUSR1, SIGUSR2, SIGTERM]

/-- The signals `signalName` has a case for. -/
def namedSignals : List Nat :=
  [SIGTERM, SIGKILL, SIGINT, SIGQUIT, SIGHUP, SIGUSR1, SIGUSR2, SIGPIPE, SIGABRT, SIGSEGV]

/-! ### Names -/

/-- `strings.ToUpper`: ASCII letters, and `ı` (U+0131) and `ſ` (U+017F), the
two runes outside ASCII whose upper case is an ASCII letter, `I` and `S`.
Every other rune outside ASCII is kept: Go gives it an upper case outside
ASCII too (and writes an invalid byte as U+FFFD), so a name equals one of the
ASCII names of `mapSignal` here exactly when it does in Go. -/
def toUpper : Bytes → Bytes
  | 0xC4 :: 0xB1 :: rest => 0x49 :: toUpper rest
  | 0xC5 :: 0xBF :: rest => 0x53 :: toUpper rest
  | byte :: rest => upperByte byte :: toUpper rest
  | [] => []

/-- `strings.TrimPrefix`. -/
def trimStart (text start : Bytes) : Bytes :=
  if text.take start.length = start then text.drop start.length else text

/-- `mapSignal`: the signal `kill` sends for a name. -/
def mapSignal (name : Bytes) : Nat :=
  let key := toUpper (trimStart (toUpper name) (ascii "SIG"))
  if key = ascii "KILL" then SIGKILL
  else if key = ascii "INT" then SIGINT
  else if key = ascii "QUIT" then SIGQUIT
  else if key = ascii "HUP" then SIGHUP
  else if key = ascii "USR1" then SIGUSR1
  else if key = ascii "USR2" then SIGUSR2
  else SIGTERM

/-- `signalName`: the name the exit event gives a signal. -/
def signalName (signal : Nat) : Bytes :=
  if signal = SIGTERM then ascii "SIGTERM"
  else if signal = SIGKILL then ascii "SIGKILL"
  else if signal = SIGINT then ascii "SIGINT"
  else if signal = SIGQUIT then ascii "SIGQUIT"
  else if signal = SIGHUP then ascii "SIGHUP"
  else if signal = SIGUSR1 then ascii "SIGUSR1"
  else if signal = SIGUSR2 then ascii "SIGUSR2"
  else if signal = SIGPIPE then ascii "SIGPIPE"
  else if signal = SIGABRT then ascii "SIGABRT"
  else if signal = SIGSEGV then ascii "SIGSEGV"
  else ascii "SIG" ++ formatDecimal signal

/-! ### The reaper -/

/-- How `c.Wait()` returns. -/
inductive WaitStatus where
  /-- The child exited with this status; `Wait` returns `nil` for `0`. -/
  | exited (code : Nat)
  /-- The child was terminated by this signal. -/
  | signaled (signal : Nat)
  /-- `Wait` failed with an error other than `*exec.ExitError`. -/
  | failed
  deriving DecidableEq, Repr

/-- The exit code and signal name the reaper derives from `c.Wait()`. -/
def waitResult : WaitStatus → Int × Bytes
  | .exited code => (code, [])
  | .signaled signal => (-1, signalName signal)
  | .failed => (-1, [])


/-! ### Properties -/

theorem mapSignal_mem (name : Bytes) : mapSignal name ∈ mappedSignals := by
  unfold mapSignal
  dsimp only
  split_ifs <;> decide

theorem mapSignal_signalName :
    ∀ signal ∈ mappedSignals, mapSignal (signalName signal) = signal := by
  decide

/-- `ſıgkıll` sends `SIGKILL`, as in Go. -/
example : mapSignal [0xC5, 0xBF, 0xC4, 0xB1, 0x67, 0x6B, 0xC4, 0xB1, 0x6C, 0x6C] = SIGKILL := by
  decide

theorem signalName_of_not_mem {signal : Nat} (other : signal ∉ namedSignals) :
    signalName signal = ascii "SIG" ++ formatDecimal signal := by
  simp only [namedSignals, List.mem_cons, List.mem_singleton, List.not_mem_nil, or_false,
    not_or] at other
  simp only [signalName, other, if_false]

theorem signalName_ne_nil (signal : Nat) : signalName signal ≠ [] := by
  by_cases named : signal ∈ namedSignals
  · exact (by decide : ∀ signal ∈ namedSignals, signalName signal ≠ []) signal named
  · rw [signalName_of_not_mem named]
    exact List.append_ne_nil_of_left_ne_nil (by decide) _

/-- The byte after `SIG`: a letter in a name `signalName` has a case for, a
digit in the others. -/
def nameLetter (name : Bytes) : Bool := ((name.drop 3).headD 0).toNat ≥ 0x41

theorem nameLetter_named : ∀ signal ∈ namedSignals, nameLetter (signalName signal) = true := by
  decide

theorem nameLetter_unnamed {signal : Nat} (other : signal ∉ namedSignals) :
    nameLetter (signalName signal) = false := by
  obtain ⟨first, others, digits, -⟩ := decimalDigits_cons signal
  have small := decimalDigits_lt_ten signal first (by rw [digits]; exact List.mem_cons_self _ _)
  rw [signalName_of_not_mem other, formatDecimal, digits]
  simp only [nameLetter, decide_eq_false_iff_not, not_le]
  show (digitByte first).toNat < 0x41
  rw [digitByte_toNat small]
  omega

/-- Two exit events name the same signal only for the same signal. -/
theorem signalName_injective : Function.Injective signalName := by
  intro signal other same
  by_cases named : signal ∈ namedSignals <;> by_cases otherNamed : other ∈ namedSignals
  · exact (by decide : ∀ signal ∈ namedSignals, ∀ other ∈ namedSignals,
      signalName signal = signalName other → signal = other) signal named other otherNamed same
  · have := nameLetter_named signal named
    rw [same, nameLetter_unnamed otherNamed] at this
    contradiction
  · have := nameLetter_named other otherNamed
    rw [← same, nameLetter_unnamed named] at this
    contradiction
  · rw [signalName_of_not_mem named, signalName_of_not_mem otherNamed] at same
    exact formatDecimal_injective (List.append_cancel_left same)

end CoworkService.Native
