import CoworkService.Vm.Calls
import Mathlib.Logic.Function.Basic

/-!
# The tracker of processes in the VM

`Tracker` keeps, for each process id the sdk-daemon returned, a `ProcessInfo`
with the command, its arguments and whether it runs.  `Spawn` asks the daemon
to start a process and records it under the id of the reply, replacing any
record of that id; `Kill` asks the daemon to kill it and marks the record
stopped once `SendCommand` returns, whatever the reply says; `MarkExited` marks
it stopped without asking.  A call that fails changes nothing.

The state after any sequence of calls is described by the calls alone: the
record of an id is that of the last `Spawn` that returned the id, and it runs
exactly when the last call that reported on the id was such a `Spawn`.
-/

namespace CoworkService.Process

open Json Vm

/-- `ProcessInfo`. -/
structure ProcessInfo where
  id : Bytes
  cmd : Bytes
  args : List Bytes
  running : Bool
  deriving DecidableEq, Repr

/-- `Tracker`: its `processes` map.  Whether `vsock` is set and connected is an
argument of each call, and the calls to the daemon are `SendCommand`'s results. -/
structure Tracker where
  processes : Bytes → Option ProcessInfo

/-- `NewTracker`. -/
def Tracker.empty : Tracker := ⟨fun _ => none⟩

/-- `Tracker.IsRunning`. -/
def Tracker.isRunning (t : Tracker) (processId : Bytes) : Bool :=
  match t.processes processId with
  | some p => p.running
  | none => false

/-- `if p, ok := t.processes[processID]; ok { p.Running = false }`, the end of
`Kill` and all of `MarkExited`. -/
def Tracker.markExited (t : Tracker) (processId : Bytes) : Tracker :=
  ⟨Function.update t.processes processId
    ((t.processes processId).map fun p => { p with running := false })⟩

/-- What `Tracker.Spawn` makes of the check and of what `SendCommand` returns. -/
def spawnResult (text : ErrorText) (connected : Bool) (result : SendResult) :
    Except Bytes Bytes :=
  if connected then
    match result with
    | .failure error => .error (ascii "spawn command failed: " ++ error.text)
    | .response reply => spawnReply text reply
  else .error SendError.notConnected.text

/-- `Tracker.Spawn`: the process id, recorded with `cmd` and `args`. -/
def Tracker.spawn (text : ErrorText) (connected : Bool) (result : SendResult)
    (cmd : Bytes) (args : List Bytes) (t : Tracker) : Except Bytes Bytes × Tracker :=
  match spawnResult text connected result with
  | .ok processId =>
      (.ok processId,
        ⟨Function.update t.processes processId (some ⟨processId, cmd, args, true⟩)⟩)
  | .error error => (.error error, t)

/-- `Tracker.Kill`. -/
def Tracker.kill (connected : Bool) (result : SendResult) (processId : Bytes) (t : Tracker) :
    Except Bytes Unit × Tracker :=
  match commandCall connected result with
  | .ok () => (.ok (), t.markExited processId)
  | .error error => (.error error, t)

/-- A call that changes the tracker. -/
inductive TrackerOp where
  | spawn (connected : Bool) (result : SendResult) (cmd : Bytes) (args : List Bytes)
  | kill (connected : Bool) (result : SendResult) (processId : Bytes)
  | markExited (processId : Bytes)
  deriving DecidableEq, Repr

/-- The tracker after one call. -/
def Tracker.step (text : ErrorText) (t : Tracker) : TrackerOp → Tracker
  | .spawn connected result cmd args => (t.spawn text connected result cmd args).2
  | .kill connected result processId => (t.kill connected result processId).2
  | .markExited processId => t.markExited processId

/-- The tracker after the calls `ops`, one after another. -/
def Tracker.run (text : ErrorText) (t : Tracker) (ops : List TrackerOp) : Tracker :=
  ops.foldl (Tracker.step text) t

example : (Tracker.empty.run (fun _ _ _ => [])
      [.spawn true (.response (ascii "\x7b\"processId\":\"p\"\x7d")) (ascii "ls") [],
        .kill true (.failure .notConnected) (ascii "p")]).isRunning (ascii "p") = true ∧
    (Tracker.empty.run (fun _ _ _ => [])
      [.spawn true (.response (ascii "\x7b\"processId\":\"p\"\x7d")) (ascii "ls") [],
        .markExited (ascii "p")]).isRunning (ascii "p") = false := by
  decide

/-! ### What the calls report -/

/-- The `Spawn` that `op` is, when the daemon returned `processId` to it: its
command and arguments. -/
def TrackerOp.spawned (text : ErrorText) (processId : Bytes) :
    TrackerOp → Option (Bytes × List Bytes)
  | .spawn connected result cmd args =>
      match spawnResult text connected result with
      | .ok id => if id = processId then some (cmd, args) else none
      | .error _ => none
  | _ => none

/-- What `op` reports on `processId`: started by a `Spawn` that returned it,
stopped by a `Kill` of it that succeeded or by `MarkExited`, or nothing. -/
def TrackerOp.report (text : ErrorText) (processId : Bytes) : TrackerOp → Option Bool
  | .spawn connected result _ _ =>
      match spawnResult text connected result with
      | .ok id => if id = processId then some true else none
      | .error _ => none
  | .kill connected result id =>
      match commandCall connected result with
      | .ok () => if id = processId then some false else none
      | .error _ => none
  | .markExited id => if id = processId then some false else none

/-- The record of `processId` after the calls `ops` from `t`: that of the last
`Spawn` that returned the id, or else the one `t` has, running as the last
report on the id says. -/
def recordAfter (text : ErrorText) (t : Tracker) (ops : List TrackerOp) (processId : Bytes) :
    Option ProcessInfo :=
  let running := (ops.filterMap (TrackerOp.report text processId)).getLast?.getD
    (t.isRunning processId)
  match (ops.filterMap (TrackerOp.spawned text processId)).getLast? with
  | some (cmd, args) => some ⟨processId, cmd, args, running⟩
  | none => (t.processes processId).map fun p => { p with running := running }

/-! ### Runs -/

section Runs

variable (text : ErrorText)

theorem Tracker.run_append (t : Tracker) (ops : List TrackerOp) (op : TrackerOp) :
    t.run text (ops ++ [op]) = (t.run text ops).step text op :=
  List.foldl_append _ _ _ _

theorem Tracker.processes_markExited (t : Tracker) (id processId : Bytes) :
    (t.markExited id).processes processId =
      if id = processId then (t.processes processId).map fun p => { p with running := false }
      else t.processes processId := by
  by_cases same : id = processId
  · subst same
    simp [Tracker.markExited]
  · simp [Tracker.markExited, Function.update_noteq (Ne.symm same), same]

/-- What one call does to the record of `processId`, by what it reports: a
`Spawn` that returned the id records its process running, a call that stops the
id marks its record stopped, and any other call leaves the record. -/
theorem Tracker.step_cases (t : Tracker) (op : TrackerOp) (processId : Bytes) :
    (∃ cmd args, op.spawned text processId = some (cmd, args) ∧
        op.report text processId = some true ∧
        (t.step text op).processes processId = some ⟨processId, cmd, args, true⟩) ∨
      (op.spawned text processId = none ∧ op.report text processId = some false ∧
        (t.step text op).processes processId =
          (t.processes processId).map fun p => { p with running := false }) ∨
      (op.spawned text processId = none ∧ op.report text processId = none ∧
        (t.step text op).processes processId = t.processes processId) := by
  cases op with
  | spawn connected result cmd args =>
      simp only [Tracker.step, Tracker.spawn, TrackerOp.spawned, TrackerOp.report]
      cases spawnResult text connected result with
      | ok id =>
          by_cases same : id = processId
          · subst same
            exact .inl ⟨cmd, args, by simp⟩
          · simp [same, Function.update_noteq (Ne.symm same)]
      | error _ => simp
  | kill connected result id =>
      simp only [Tracker.step, Tracker.kill, TrackerOp.spawned, TrackerOp.report]
      cases commandCall connected result with
      | ok nothing =>
          cases nothing
          by_cases same : id = processId <;>
            simp [same, Tracker.processes_markExited]
      | error _ => simp
  | markExited id =>
      by_cases same : id = processId <;>
        simp [Tracker.step, TrackerOp.spawned, TrackerOp.report, same,
          Tracker.processes_markExited]

theorem Tracker.isRunning_step (t : Tracker) (op : TrackerOp) (processId : Bytes) :
    (t.step text op).isRunning processId =
      (op.report text processId).getD (t.isRunning processId) := by
  rcases t.step_cases text op processId with
    ⟨cmd, args, -, report, record⟩ | ⟨-, report, record⟩ | ⟨-, report, record⟩ <;>
    simp only [Tracker.isRunning, record, report, Option.getD_some, Option.getD_none]
  cases t.processes processId <;> rfl

/-- Whether a process runs after any calls: as the last call that reported on
it says, or as before when none did. -/
theorem Tracker.isRunning_run (t : Tracker) (ops : List TrackerOp) (processId : Bytes) :
    (t.run text ops).isRunning processId =
      (ops.filterMap (TrackerOp.report text processId)).getLast?.getD
        (t.isRunning processId) := by
  induction ops using List.reverseRecOn with
  | nil => rfl
  | append_singleton ops op induction =>
      rw [Tracker.run_append, Tracker.isRunning_step, induction, List.filterMap_append]
      cases report : op.report text processId <;> simp [report]

/-- The record of a process id after any calls is `recordAfter`. -/
theorem Tracker.processes_run (t : Tracker) (ops : List TrackerOp) (processId : Bytes) :
    (t.run text ops).processes processId = recordAfter text t ops processId := by
  induction ops using List.reverseRecOn with
  | nil =>
      cases record : t.processes processId <;>
        simp [Tracker.run, recordAfter, Tracker.isRunning, record]
  | append_singleton ops op induction =>
      rw [Tracker.run_append]
      rcases (t.run text ops).step_cases text op processId with
        ⟨cmd, args, spawned, report, record⟩ | ⟨spawned, report, record⟩ |
          ⟨spawned, report, record⟩
      · simp [record, recordAfter, spawned, report]
      · rw [record, induction]
        simp only [recordAfter, List.filterMap_append, List.filterMap_cons, List.filterMap_nil,
          spawned, report, List.append_nil, List.getLast?_concat, Option.getD_some]
        cases (ops.filterMap (TrackerOp.spawned text processId)).getLast? with
        | none => simp [Option.map_map, Function.comp_def]
        | some spawn => rfl
      · rw [record, induction]
        simp [recordAfter, spawned, report]

/-- The tracker after any calls is given by what the calls reported: the record
of a process id is that of the last `Spawn` that returned the id, so a `Spawn`
to which the daemon returns an id already recorded replaces that record, and the
process runs exactly when the last call that reported on the id was such a
`Spawn`.  A `Kill` stops the id as soon as `SendCommand` returns a reply,
whatever the reply says, and a call that fails reports nothing. -/
theorem tracker_state_from_reports (t : Tracker) (ops : List TrackerOp) (processId : Bytes) :
    (t.run text ops).processes processId = recordAfter text t ops processId ∧
      (t.run text ops).isRunning processId =
        (ops.filterMap (TrackerOp.report text processId)).getLast?.getD
          (t.isRunning processId) :=
  ⟨t.processes_run text ops processId, t.isRunning_run text ops processId⟩

end Runs

end CoworkService.Process
