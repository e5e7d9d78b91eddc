import CoworkService.Basic

/-!
# Process ids and the registry of `processTracker`

`processTracker.spawn` takes the id the client supplied, or, for an empty
one, `proc-N` with `N` the counter `nextID` incremented under the tracker's
lock.  After the child has started, it stores the record under that id in the
`processes` map.  Every spawn call is a thread of three atomic steps (taking
its id, starting the child, registering), and the calls interleave freely.

Ids the tracker assigns are pairwise distinct in every interleaving, and the
map always holds, for each id, the record registered last under it.  A
client-supplied id is not checked, so reusing an id replaces the earlier
record, whose child no id reaches any more.
-/

namespace CoworkService.Native

/-- `fmt.Sprintf("proc-%d", n)`. -/
def procId (n : Nat) : Bytes := ascii "proc-" ++ formatDecimal n

theorem procId_injective {left right : Nat} (equal : procId left = procId right) :
    left = right :=
  formatDecimal_injective (List.append_cancel_left equal)

/-- How far a spawn call has got. -/
inductive SpawnPhase where
  | requested
  | assigned
  | started
  | registered
  | failed
  deriving DecidableEq, Repr

/-- One `spawn` call: the id the client passed (empty for none), the id the
call uses once it has taken one, and its phase. -/
structure SpawnCall where
  requested : Bytes
  id : Bytes
  phase : SpawnPhase
  deriving DecidableEq, Repr

/-- The tracker's counter and map, with the spawn calls in flight and the
calls in the order they registered. -/
structure Spawns where
  nextID : Nat
  processes : Bytes → Option Nat
  calls : List SpawnCall
  registrations : List Nat

/-- The atomic steps of spawn call `call`. -/
inductive SpawnStep where
  /-- The `if id == ""` block, under the tracker's lock. -/
  | assign (call : Nat)
  /-- `c.Start()`, which may fail. -/
  | start (call : Nat) (succeeds : Bool)
  /-- `pt.processes[id] = lp`, under the tracker's lock. -/
  | register (call : Nat)
  deriving DecidableEq, Repr

/-- A fresh tracker with the given spawn calls about to run. -/
def Spawns.initial (requested : List Bytes) : Spawns :=
  ⟨0, fun _ => none, requested.map fun id => ⟨id, [], .requested⟩, []⟩

/-- `processes[id] = value`. -/
def mapSet (map : Bytes → Option Nat) (key : Bytes) (value : Nat) : Bytes → Option Nat :=
  fun other => if other = key then some value else map other

/-- One step, or `none` when call `call` is not at that point. -/
def Spawns.step (spawns : Spawns) : SpawnStep → Option Spawns
  | .assign call =>
      match spawns.calls[call]? with
      | some ⟨requested, _, .requested⟩ =>
          if requested = [] then
            some { spawns with
              nextID := spawns.nextID + 1
              calls :=
                spawns.calls.set call ⟨requested, procId (spawns.nextID + 1), .assigned⟩ }
          else
            some { spawns with
              calls := spawns.calls.set call ⟨requested, requested, .assigned⟩ }
      | _ => none
  | .start call succeeds =>
      match spawns.calls[call]? with
      | some ⟨requested, id, .assigned⟩ =>
          some { spawns with
            calls := spawns.calls.set call
              ⟨requested, id, if succeeds then .started else .failed⟩ }
      | _ => none
  | .register call =>
      match spawns.calls[call]? with
      | some ⟨requested, id, .started⟩ =>
          some { spawns with
            processes := mapSet spawns.processes id call
            calls := spawns.calls.set call ⟨requested, id, .registered⟩
            registrations := spawns.registrations ++ [call] }
      | _ => none

/-- The state after a schedule, if every step can be taken. -/
def Spawns.run (spawns : Spawns) : List SpawnStep → Option Spawns
  | [] => some spawns
  | step :: steps => (spawns.step step).bind (·.run steps)

/-- The id a call took from the counter: its id once it has one, if the
client supplied none. -/
def SpawnCall.autoId (c : SpawnCall) : Option Bytes :=
  if c.requested = [] ∧ c.phase ≠ .requested then some c.id else none

/-- The id call `call` took from the counter, if it has taken one. -/
def Spawns.autoId (spawns : Spawns) (call : Nat) : Option Bytes :=
  spawns.calls[call]?.bind SpawnCall.autoId

/-- The id call `call` uses, once it has one. -/
def Spawns.idOf (spawns : Spawns) (call : Nat) : Option Bytes :=
  spawns.calls[call]?.map SpawnCall.id

/-- The record registered last under `id`. -/
def Spawns.lastRegistered (spawns : Spawns) (id : Bytes) : Option Nat :=
  spawns.registrations.reverse.find? fun call => decide (spawns.idOf call = some id)

/-- The counter's part of the invariant: ids taken from the counter are
`procId` of serials up to `nextID`, and pairwise distinct. -/
structure Spawns.Numbered (spawns : Spawns) : Prop where
  numbered : ∀ {call : Nat} {id : Bytes}, spawns.autoId call = some id →
    ∃ serial, serial ≤ spawns.nextID ∧ id = procId serial
  distinct : ∀ {call other : Nat} {id : Bytes}, call ≠ other →
    spawns.autoId call = some id → spawns.autoId other ≠ some id

/-- The map's part of the invariant: registered calls are in phase
`registered`, and the map holds the last registration of each id. -/
structure Spawns.Registry (spawns : Spawns) : Prop where
  registered : ∀ {call : Nat}, call ∈ spawns.registrations →
    ∃ c, spawns.calls[call]? = some c ∧ c.phase = .registered
  latest : ∀ id, spawns.processes id = spawns.lastRegistered id

/-- What every reachable state satisfies. -/
structure Spawns.Consistent (spawns : Spawns) extends spawns.Numbered, spawns.Registry : Prop

/-- Replacing a call by one that looks the same through `view` changes no view. -/
theorem getElem?_set_apply_of_eq {β : Type} {calls : List SpawnCall} {call : Nat}
    {old new : SpawnCall} (found : calls[call]? = some old) (view : Option SpawnCall → β)
    (same : view (some new) = view (some old)) (other : Nat) :
    view (calls.set call new)[other]? = view calls[other]? := by
  rw [getElem?_set_of_getElem? found]
  split
  · rename_i here
    rw [← here, found, same]
  · rfl

theorem find?_congr_of_mem {α : Type} {keep keep' : α → Bool} :
    ∀ {list : List α}, (∀ x ∈ list, keep x = keep' x) → list.find? keep = list.find? keep'
  | [], _ => rfl
  | x :: rest, same => by
      rw [List.find?_cons, List.find?_cons, same x (List.mem_cons_self _ _),
        find?_congr_of_mem fun y member => same y (List.mem_cons_of_mem _ member)]

theorem Spawns.initial_consistent (requested : List Bytes) :
    (Spawns.initial requested).Consistent := by
  refine ⟨⟨fun present => ?_, fun _ present => ?_⟩, fun member => by simp [initial] at member,
    fun id => by simp [initial, lastRegistered]⟩ <;>
  · simp only [autoId, initial, List.getElem?_map, Option.bind_eq_some,
      Option.map_eq_some'] at present
    obtain ⟨_, ⟨_, _, rfl⟩, assigned⟩ := present
    simp [SpawnCall.autoId] at assigned

/-! ### The counter -/

theorem Spawns.Numbered.of_autoId_eq {spawns after : Spawns} (numbered : spawns.Numbered)
    (same : after.autoId = spawns.autoId) (counter : spawns.nextID ≤ after.nextID) :
    after.Numbered := by
  refine ⟨fun assigned => ?_, fun different assigned => ?_⟩
  · obtain ⟨serial, bound, named⟩ := numbered.numbered (same ▸ assigned)
    exact ⟨serial, by omega, named⟩
  · rw [same] at assigned ⊢
    exact numbered.distinct different assigned

/-- No call holds the id the counter hands out next. -/
theorem Spawns.Numbered.fresh {spawns : Spawns} (numbered : spawns.Numbered) (call : Nat) :
    spawns.autoId call ≠ some (procId (spawns.nextID + 1)) := fun assigned => by
  obtain ⟨serial, bound, named⟩ := numbered.numbered assigned
  have := procId_injective named
  omega

theorem Spawns.Numbered.assign {spawns : Spawns} (numbered : spawns.Numbered) {call : Nat}
    {id : Bytes} (found : spawns.calls[call]? = some ⟨[], id, .requested⟩) :
    ({ spawns with
        nextID := spawns.nextID + 1
        calls := spawns.calls.set call ⟨[], procId (spawns.nextID + 1), .assigned⟩ } :
      Spawns).Numbered := by
  have autoIds (other : Nat) : Spawns.autoId { spawns with
      nextID := spawns.nextID + 1
      calls := spawns.calls.set call ⟨[], procId (spawns.nextID + 1), .assigned⟩ } other =
      if call = other then some (procId (spawns.nextID + 1)) else spawns.autoId other := by
    simp only [autoId, getElem?_set_of_getElem? found]
    split <;> simp [SpawnCall.autoId]
  refine ⟨fun assigned => ?_, fun different assigned => ?_⟩ <;>
    simp only [autoIds] at assigned ⊢
  · split at assigned
    · cases assigned
      exact ⟨spawns.nextID + 1, le_refl _, rfl⟩
    · obtain ⟨serial, bound, named⟩ := numbered.numbered assigned
      exact ⟨serial, by omega, named⟩
  · split at assigned <;> split
    · omega
    · cases assigned
      exact numbered.fresh _
    · exact fun taken => numbered.fresh _ (Option.some.inj taken ▸ assigned)
    · exact numbered.distinct different assigned

/-! ### The map -/

/-- A step that only changes a call not yet registered keeps the map's part. -/
theorem Spawns.Registry.set_unregistered {spawns after : Spawns} (registry : spawns.Registry)
    {call : Nat} {old new : SpawnCall} (found : spawns.calls[call]? = some old)
    (unregistered : old.phase ≠ .registered) (calls : after.calls = spawns.calls.set call new)
    (processes : after.processes = spawns.processes)
    (registrations : after.registrations = spawns.registrations) : after.Registry := by
  have fresh : call ∉ spawns.registrations := fun member => by
    obtain ⟨c, present, phase⟩ := registry.registered member
    rw [found] at present
    cases present
    exact unregistered phase
  have kept {other : Nat} (member : other ∈ spawns.registrations) :
      after.calls[other]? = spawns.calls[other]? := by
    have differ : call ≠ other := fun same => fresh (same ▸ member)
    rw [calls, List.getElem?_set_ne differ]
  refine ⟨fun member => ?_, fun id => ?_⟩
  · rw [registrations] at member
    rw [kept member]
    exact registry.registered member
  · rw [processes, registry.latest, lastRegistered, lastRegistered, registrations]
    exact find?_congr_of_mem fun other member => by
      simp only [idOf, kept (List.mem_reverse.mp member)]

theorem Spawns.Registry.register {spawns : Spawns} (registry : spawns.Registry) {call : Nat}
    {requested id : Bytes} (found : spawns.calls[call]? = some ⟨requested, id, .started⟩) :
    ({ spawns with
        processes := mapSet spawns.processes id call
        calls := spawns.calls.set call ⟨requested, id, .registered⟩
        registrations := spawns.registrations ++ [call] } : Spawns).Registry := by
  have ids (other : Nat) :
      (spawns.calls.set call ⟨requested, id, .registered⟩)[other]?.map SpawnCall.id =
        spawns.calls[other]?.map SpawnCall.id := by
    apply getElem?_set_apply_of_eq found
    rfl
  refine ⟨fun member => ?_, fun other => ?_⟩
  · simp only [getElem?_set_of_getElem? found]
    split
    · exact ⟨_, rfl, rfl⟩
    · rcases List.mem_append.mp member with old | new
      · exact registry.registered old
      · simp_all
  · simp only [lastRegistered, idOf, ids, List.reverse_append, List.reverse_singleton,
      List.singleton_append, List.find?_cons, mapSet, registry.latest]
    by_cases same : id = other
    · simp [same, found]
    · simp [same, Ne.symm same, found]

/-! ### Every interleaving -/

theorem Spawns.Consistent.step {spawns after : Spawns} {action : SpawnStep}
    (consistent : spawns.Consistent) (stepped : spawns.step action = some after) :
    after.Consistent := by
  cases action with
  | assign call =>
      simp only [Spawns.step] at stepped
      split at stepped
      · rename_i requested _ found
        split at stepped <;> cases stepped
        · rename_i counted
          subst counted
          exact ⟨consistent.toNumbered.assign found,
            consistent.toRegistry.set_unregistered found nofun rfl rfl rfl⟩
        · rename_i supplied
          refine ⟨consistent.toNumbered.of_autoId_eq (funext ?_) le_rfl,
            consistent.toRegistry.set_unregistered found nofun rfl rfl rfl⟩
          exact getElem?_set_apply_of_eq found (·.bind SpawnCall.autoId)
            (by simp [SpawnCall.autoId, supplied])
      · cases stepped
  | start call succeeds =>
      simp only [Spawns.step] at stepped
      split at stepped
      · rename_i found
        cases stepped
        refine ⟨consistent.toNumbered.of_autoId_eq (funext ?_) le_rfl,
          consistent.toRegistry.set_unregistered found nofun rfl rfl rfl⟩
        exact getElem?_set_apply_of_eq found (·.bind SpawnCall.autoId)
          (by cases succeeds <;> simp [SpawnCall.autoId])
      · cases stepped
  | register call =>
      simp only [Spawns.step] at stepped
      split at stepped
      · rename_i found
        cases stepped
        refine ⟨consistent.toNumbered.of_autoId_eq (funext ?_) le_rfl,
          consistent.toRegistry.register found⟩
        exact getElem?_set_apply_of_eq found (·.bind SpawnCall.autoId)
          (by simp [SpawnCall.autoId])
      · cases stepped

theorem Spawns.Consistent.run {spawns after : Spawns} {steps : List SpawnStep}
    (consistent : spawns.Consistent) (ran : spawns.run steps = some after) :
    after.Consistent := by
  induction steps generalizing spawns with
  | nil =>
      cases ran
      exact consistent
  | cons action steps induction =>
      simp only [Spawns.run, Option.bind_eq_some] at ran
      obtain ⟨middle, stepped, rest⟩ := ran
      exact induction (consistent.step stepped) rest

/-- In every interleaving of spawn calls, the ids the counter hands out are
pairwise distinct, and the map holds, for each id, the call registered last
under it. -/
theorem spawn_assigned_ids_distinct {requested : List Bytes} {schedule : List SpawnStep}
    {after : Spawns} (ran : (Spawns.initial requested).run schedule = some after) :
    (∀ {call other : Nat} {id : Bytes}, call ≠ other → after.autoId call = some id →
      after.autoId other ≠ some id) ∧
    ∀ id, after.processes id = after.lastRegistered id :=
  ⟨((Spawns.initial_consistent requested).run ran).distinct,
    ((Spawns.initial_consistent requested).run ran).latest⟩

theorem spawn_assigned_ids_distinct_two_calls :
    ∃ after, (Spawns.initial [[], []]).run
        [.assign 0, .assign 1, .start 0 true, .start 1 true, .register 1, .register 0] =
      some after ∧
    (∀ {call other : Nat} {id : Bytes}, call ≠ other → after.autoId call = some id →
      after.autoId other ≠ some id) ∧
    ∀ id, after.processes id = after.lastRegistered id := by
  obtain ⟨after, ran⟩ := Option.isSome_iff_exists.mp (by decide : ((Spawns.initial [[], []]).run
    [.assign 0, .assign 1, .start 0 true, .start 1 true, .register 1, .register 0]).isSome)
  exact ⟨after, ran, spawn_assigned_ids_distinct ran⟩

theorem procId_one : procId 1 = ascii "proc-1" := by
  rw [procId, formatDecimal, decimalDigits, if_pos (by decide)]
  decide

/-- A client passes `proc-1` to one spawn while another spawn takes `proc-1`
from the counter: both succeed with that id, and the first record is left in
no entry of the map. -/
theorem supplied_id_replaces_assigned_record :
    procId 1 = ascii "proc-1" ∧
    ∃ after, (Spawns.initial [[], procId 1]).run
        [.assign 0, .start 0 true, .register 0, .assign 1, .start 1 true, .register 1] =
      some after ∧
    after.calls = [⟨[], procId 1, .registered⟩, ⟨procId 1, procId 1, .registered⟩] ∧
    after.processes (procId 1) = some 1 ∧ ∀ id, after.processes id ≠ some 0 := by
  obtain ⟨after, ran⟩ := Option.isSome_iff_exists.mp
    (by decide : ((Spawns.initial [[], procId 1]).run
      [.assign 0, .start 0 true, .register 0, .assign 1, .start 1 true, .register 1]).isSome)
  have calls : after.calls =
      [⟨[], procId 1, .registered⟩, ⟨procId 1, procId 1, .registered⟩] ∧
      after.registrations = [0, 1] := by
    have computed : ((Spawns.initial [[], procId 1]).run
        [.assign 0, .start 0 true, .register 0, .assign 1, .start 1 true, .register 1]).map
          (fun state => (state.calls, state.registrations)) =
        some ([⟨[], procId 1, .registered⟩, ⟨procId 1, procId 1, .registered⟩], [0, 1]) :=
      rfl
    simpa [ran] using computed
  have latest := ((Spawns.initial_consistent _).run ran).latest
  refine ⟨procId_one, after, ran, calls.1, ?_, fun id => ?_⟩ <;>
    simp [latest, Spawns.lastRegistered, Spawns.idOf, calls.1, calls.2]

end CoworkService.Native
