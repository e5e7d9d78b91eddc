import CoworkService.Basic
import Mathlib.Logic.Function.Basic

/-!
# Where `kill` sends its signal

`spawn` starts each child with `Setpgid`, so the child leads a process group
whose id is its PID, until it moves itself, or is moved, to another group with
`setpgid`.  `kill` looks the PID up with `Getpgid` and signals the whole group
the PID is in; if the lookup fails it falls back to `Process.Signal`, which
does nothing once `Wait` has returned.  The reaper's `Wait` frees the PID, and
the tracker keeps the record, so a later `kill` (or `killAll`, which calls
`kill` on every record) looks up a PID that another process may hold by then.

The host is the kernel's process table, PID to process group (zombies
included), with the tracker's records.  Its steps are the supervisor's and
everyone else's: a spawn, the reaper's `Wait`, an unrelated process starting
or going away, a `setpgid`, and a `kill`.  While a child is not reaped, `kill`
signals the group the child is in, its own unless a `setpgid` moved it; once
it is reaped, `kill` signals whatever group now holds the PID.
-/

namespace CoworkService.Native

/-- A record the tracker keeps for a started child: the child's PID, and
whether the reaper's `c.Wait()` has returned. -/
structure ChildRecord where
  pid : Nat
  reaped : Bool
  deriving DecidableEq, Repr

/-- Where a signal goes: `syscall.Kill(-pgid, sig)`, or
`lp.cmd.Process.Signal(sig)`. -/
inductive Delivery where
  | group (pgid : Nat)
  | process (pid : Nat)
  deriving DecidableEq, Repr

/-- The kernel's table from PID to process group, the tracker's records, and
the signals sent so far, each with the record it was meant for. -/
structure Host where
  groups : Nat → Option Nat
  records : List ChildRecord
  delivered : List (Nat × Delivery)

/-- The steps of the supervisor and of the rest of the system. -/
inductive HostStep where
  /-- `c.Start()` with `Setpgid`: the kernel hands out the free PID `pid`. -/
  | spawn (pid : Nat)
  /-- The reaper's `c.Wait()` returns and the PID is free again. -/
  | reap (record : Nat)
  /-- An unrelated process starts with the free PID `pid`, in group `pgid`. -/
  | create (pid pgid : Nat)
  /-- An unrelated process is gone and its PID free. -/
  | vanish (pid : Nat)
  /-- `setpgid(pid, pgid)`, by the process itself or its parent: the process
  joins group `pgid`, its own id for a new group. -/
  | setpgid (pid pgid : Nat)
  /-- `kill` on record `record`; `killAll` is one of these per record. -/
  | kill (record : Nat)
  deriving DecidableEq, Repr

/-- A host with no process and no record. -/
def Host.initial : Host := ⟨fun _ => none, [], []⟩

/-- `processTracker.kill` on record `record`, after the map lookup. -/
def Host.kill (host : Host) (record : Nat) : Host :=
  match host.records[record]? with
  | none => host
  | some child =>
      match host.groups child.pid with
      | some pgid => { host with delivered := host.delivered ++ [(record, .group pgid)] }
      | none =>
          if child.reaped then host
          else { host with delivered := host.delivered ++ [(record, .process child.pid)] }

/-- One step, or `none` when it cannot be taken: a new process needs a free
PID, only an unreaped child is reaped, only an unrelated process vanishes on
its own, and only a process that exists changes its group. -/
def Host.step (host : Host) : HostStep → Option Host
  | .spawn pid =>
      if host.groups pid = none then
        some { host with
          groups := Function.update host.groups pid (some pid)
          records := host.records ++ [⟨pid, false⟩] }
      else none
  | .reap record =>
      match host.records[record]? with
      | some ⟨pid, false⟩ =>
          some { host with
            groups := Function.update host.groups pid none
            records := host.records.set record ⟨pid, true⟩ }
      | _ => none
  | .create pid pgid =>
      if host.groups pid = none then
        some { host with groups := Function.update host.groups pid (some pgid) }
      else none
  | .vanish pid =>
      if host.groups pid ≠ none ∧
          ∀ child ∈ host.records, child.pid = pid → child.reaped then
        some { host with groups := Function.update host.groups pid none }
      else none
  | .setpgid pid pgid =>
      if host.groups pid ≠ none then
        some { host with groups := Function.update host.groups pid (some pgid) }
      else none
  | .kill record => some (host.kill record)

/-- The host after a schedule, if every step can be taken. -/
def Host.run (host : Host) : List HostStep → Option Host
  | [] => some host
  | step :: steps => (host.step step).bind (·.run steps)

@[simp] theorem Host.groups_kill (host : Host) (record : Nat) :
    (host.kill record).groups = host.groups := by
  unfold Host.kill
  split
  · rfl
  · split
    · rfl
    · split <;> rfl

@[simp] theorem Host.records_kill (host : Host) (record : Nat) :
    (host.kill record).records = host.records := by
  unfold Host.kill
  split
  · rfl
  · split
    · rfl
    · split <;> rfl

/-- What every reachable host satisfies, given the PIDs that `moved` may have
changed group: each unreaped child still holds its PID, in the group it leads
unless its PID may have moved, and no two unreaped children share a PID. -/
structure Host.Sound (moved : Nat → Prop) (host : Host) : Prop where
  leaders : ∀ {record : Nat} {child : ChildRecord}, host.records[record]? = some child →
    child.reaped = false →
      host.groups child.pid = some child.pid ∨ moved child.pid ∧ host.groups child.pid ≠ none
  distinct : ∀ {record other : Nat} {child child' : ChildRecord}, record ≠ other →
    host.records[record]? = some child → host.records[other]? = some child' →
    child.reaped = false → child'.reaped = false → child.pid ≠ child'.pid

section Sound

variable {moved : Nat → Prop}

theorem Host.Sound.taken {host : Host} (sound : host.Sound moved) {record : Nat}
    {child : ChildRecord} (found : host.records[record]? = some child)
    (unreaped : child.reaped = false) : host.groups child.pid ≠ none := by
  rcases sound.leaders found unreaped with leads | ⟨-, taken⟩
  · simp [leads]
  · exact taken

/-- An unreaped child's PID is taken, so a process given a free PID is another. -/
theorem Host.Sound.pid_ne_of_free {host : Host} (sound : host.Sound moved) {record pid : Nat}
    {child : ChildRecord} (found : host.records[record]? = some child)
    (unreaped : child.reaped = false) (free : host.groups pid = none) : child.pid ≠ pid :=
  fun same => sound.taken found unreaped (same ▸ free)

/-- A step keeps the groups of the PIDs it does not touch. -/
theorem Host.Sound.update {host : Host} (sound : host.Sound moved) {pid : Nat}
    (group : Option Nat) {record : Nat} {child : ChildRecord}
    (found : host.records[record]? = some child) (unreaped : child.reaped = false)
    (other : child.pid ≠ pid) :
    Function.update host.groups pid group child.pid = some child.pid ∨
      moved child.pid ∧ Function.update host.groups pid group child.pid ≠ none := by
  simpa only [Function.update_noteq other] using sound.leaders found unreaped

theorem Host.Sound.step {host after : Host} {step : HostStep} (sound : host.Sound moved)
    (allowed : ∀ pid pgid, step = .setpgid pid pgid → moved pid)
    (stepped : host.step step = some after) : after.Sound moved := by
  cases step with
  | spawn pid =>
      simp only [Host.step] at stepped
      split at stepped
      · rename_i free
        cases stepped
        constructor
        · intro record child found unreaped
          rcases getElem?_append_singleton found with old | ⟨_, rfl⟩
          · exact sound.update _ old unreaped (sound.pid_ne_of_free old unreaped free)
          · simp
        · intro record other child child' different found found' unreaped unreaped'
          rcases getElem?_append_singleton found with old | ⟨here, rfl⟩ <;>
            rcases getElem?_append_singleton found' with old' | ⟨there, rfl⟩
          · exact sound.distinct different old old' unreaped unreaped'
          · exact sound.pid_ne_of_free old unreaped free
          · exact (sound.pid_ne_of_free old' unreaped' free).symm
          · omega
      · cases stepped
  | reap record =>
      simp only [Host.step] at stepped
      split at stepped
      · rename_i pid found
        cases stepped
        have before {index : Nat} {child : ChildRecord}
            (present : (host.records.set record ⟨pid, true⟩)[index]? = some child)
            (unreaped : child.reaped = false) :
            record ≠ index ∧ host.records[index]? = some child := by
          rw [getElem?_set_of_getElem? found] at present
          split at present
          · cases present
            cases unreaped
          · exact ⟨by assumption, present⟩
        constructor
        · intro index child present unreaped
          obtain ⟨different, old⟩ := before present unreaped
          exact sound.update _ old unreaped
            (Ne.symm (sound.distinct different found old rfl unreaped))
        · intro index other child child' different present present' unreaped unreaped'
          exact sound.distinct different (before present unreaped).2 (before present' unreaped').2
            unreaped unreaped'
      · cases stepped
  | create pid pgid =>
      simp only [Host.step] at stepped
      split at stepped
      · rename_i free
        cases stepped
        exact ⟨fun found unreaped =>
          sound.update _ found unreaped (sound.pid_ne_of_free found unreaped free),
          sound.distinct⟩
      · cases stepped
  | vanish pid =>
      simp only [Host.step] at stepped
      split at stepped
      · rename_i gone
        cases stepped
        refine ⟨fun found unreaped => sound.update _ found unreaped fun same =>
          absurd (gone.2 _ (List.getElem?_mem found) same) (by simp [unreaped]), sound.distinct⟩
      · cases stepped
  | setpgid pid pgid =>
      simp only [Host.step] at stepped
      split at stepped
      · cases stepped
        refine ⟨fun {record child} found unreaped => ?_, sound.distinct⟩
        by_cases same : child.pid = pid
        · subst same
          exact .inr ⟨allowed _ pgid rfl, by simp⟩
        · exact sound.update _ found unreaped same
      · cases stepped
  | kill record =>
      cases stepped
      refine ⟨fun found unreaped => ?_, fun different found found' =>
        sound.distinct different (by simpa using found) (by simpa using found')⟩
      simpa using sound.leaders (by simpa using found) unreaped

theorem Host.Sound.run {host after : Host} {steps : List HostStep} (sound : host.Sound moved)
    (allowed : ∀ pid pgid, .setpgid pid pgid ∈ steps → moved pid)
    (ran : host.run steps = some after) : after.Sound moved := by
  induction steps generalizing host with
  | nil =>
      cases ran
      exact sound
  | cons step steps induction =>
      simp only [Host.run, Option.bind_eq_some] at ran
      obtain ⟨middle, stepped, rest⟩ := ran
      exact induction
        (sound.step (fun pid pgid same => allowed pid pgid (same ▸ .head _)) stepped)
        (fun pid pgid member => allowed pid pgid (.tail _ member)) rest

theorem Host.initial_sound : Host.initial.Sound moved :=
  ⟨fun found => by simp [Host.initial] at found, fun _ found => by simp [Host.initial] at found⟩

end Sound

/-- A child is spawned with PID 100 and reaped; an unrelated process then
starts with PID 100 in group 50, and `kill` on the child's record signals
group 50. -/
theorem kill_after_reap_signals_reused_pid_group :
    (Host.initial.run [.spawn 100, .reap 0, .create 100 50, .kill 0]).map
        (fun host => (host.records, host.delivered)) =
      some ([⟨100, true⟩], [(0, .group 50)]) := by
  decide

end CoworkService.Native
