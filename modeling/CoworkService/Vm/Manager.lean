import CoworkService.Vm.Listener

/-!
# The VM `Manager`: event subscriptions and the lifecycle

`SubscribeEvents` appends the callback to `m.subscribers` and hands back a
`cancel` closure that holds the new slot's index; `cancel` sets that slot to
`nil` and never compacts, so every index stays the one it was given, and
`emitEvent` starts one goroutine per non-nil slot.  All three run under `m.mu`.
Against a registry of live subscriptions, where cancelling removes one
subscription and nothing else, the slice behaves the same over every sequence
of calls.

`StartVM` refuses only while the instance's `running` flag is set.  QEMU can
exit on its own, which clears the flag; the next `StartVM` then replaces
`m.vsock` with a new listener without closing the old one, whose socket still
holds the sdk-daemon port, so the new listener's `bind` fails, which `StartVM`
only logs before it returns nil.
-/

namespace CoworkService.Vm

/-! ### Event subscriptions -/

/-- The calls on the registry: `SubscribeEvents` with a callback (named by a
number), the `cancel` closure of the subscription made `subscription`-th, and
`emitEvent`. -/
inductive RegistryOp where
  | subscribe (callback : Nat)
  | cancel (subscription : Nat)
  | emit
  deriving DecidableEq, Repr

/-- `m.subscribers`, the callbacks each `emitEvent` has started so far, and the
index each `cancel` closure handed out so far holds. -/
structure Registry where
  subscribers : List (Option Nat)
  started : List (List Nat)
  closures : List Nat
  deriving DecidableEq, Repr

/-- `SubscribeEvents`: the callback is appended, and `idx` is its slot. -/
def Registry.subscribeEvents (r : Registry) (callback : Nat) : Registry × Nat :=
  ({ r with subscribers := r.subscribers ++ [some callback] }, r.subscribers.length)

/-- The `cancel` closure holding `idx`. -/
def Registry.cancel (r : Registry) (idx : Nat) : Registry :=
  if idx < r.subscribers.length then { r with subscribers := r.subscribers.set idx none }
  else r

/-- `emitEvent`: a goroutine for each non-nil callback, in slot order. -/
def Registry.emitEvent (r : Registry) : Registry :=
  { r with started := r.started ++ [r.subscribers.filterMap id] }

/-- One call; a `cancel` of a subscription not made yet has no closure to call. -/
def Registry.apply (r : Registry) : RegistryOp → Registry
  | .subscribe callback =>
      let (subscribed, idx) := r.subscribeEvents callback
      { subscribed with closures := subscribed.closures ++ [idx] }
  | .cancel subscription =>
      match r.closures[subscription]? with
      | some idx => r.cancel idx
      | none => r
  | .emit => r.emitEvent

def Registry.run (r : Registry) (ops : List RegistryOp) : Registry := ops.foldl Registry.apply r

/-- A `Manager` before any subscription. -/
def Registry.empty : Registry := ⟨[], [], []⟩

/-- What the registry is for: the live subscriptions, numbered in the order they
were made, with their callbacks; cancelling removes that subscription and no
other, and each event starts the callback of every live subscription once, in
order. -/
structure Subscriptions where
  live : List (Nat × Nat)
  made : Nat
  started : List (List Nat)
  deriving DecidableEq, Repr

def Subscriptions.apply (a : Subscriptions) : RegistryOp → Subscriptions
  | .subscribe callback => { a with live := a.live ++ [(a.made, callback)], made := a.made + 1 }
  | .cancel subscription => { a with live := a.live.filter fun entry => entry.1 != subscription }
  | .emit => { a with started := a.started ++ [a.live.map Prod.snd] }

def Subscriptions.run (a : Subscriptions) (ops : List RegistryOp) : Subscriptions :=
  ops.foldl Subscriptions.apply a

def Subscriptions.empty : Subscriptions := ⟨[], 0, []⟩

/-- The live subscriptions of the slots from index `start` on: each non-nil slot
with its index. -/
def liveFrom : Nat → List (Option Nat) → List (Nat × Nat)
  | _, [] => []
  | start, none :: rest => liveFrom (start + 1) rest
  | start, some callback :: rest => (start, callback) :: liveFrom (start + 1) rest

/-- The registry the slice stands for. -/
def Registry.abstract (r : Registry) : Subscriptions :=
  ⟨liveFrom 0 r.subscribers, r.subscribers.length, r.started⟩

theorem bounds_of_mem_liveFrom {start : Nat} {slots : List (Option Nat)} {entry : Nat × Nat}
    (member : entry ∈ liveFrom start slots) : start ≤ entry.1 ∧ entry.1 < start + slots.length := by
  induction slots generalizing start with
  | nil => cases member
  | cons slot rest induction =>
      cases slot with
      | none =>
          have := induction member
          simp only [List.length_cons]
          omega
      | some callback =>
          rcases List.mem_cons.mp member with here | later
          · subst here
            simp
          · have := induction later
            simp only [List.length_cons]
            omega

theorem liveFrom_append_some (start : Nat) (slots : List (Option Nat)) (callback : Nat) :
    liveFrom start (slots ++ [some callback]) =
      liveFrom start slots ++ [(start + slots.length, callback)] := by
  induction slots generalizing start with
  | nil => rfl
  | cons slot rest induction =>
      have index : start + 1 + rest.length = start + (rest.length + 1) := by omega
      cases slot <;> simp [liveFrom, induction, index]

theorem map_snd_liveFrom (start : Nat) (slots : List (Option Nat)) :
    (liveFrom start slots).map Prod.snd = slots.filterMap id := by
  induction slots generalizing start with
  | nil => rfl
  | cons slot rest induction => cases slot <;> simp [liveFrom, induction]

/-- Setting a slot to `nil` removes the subscription at that index and no other. -/
theorem liveFrom_set_none (start : Nat) (slots : List (Option Nat)) (index : Nat) :
    liveFrom start (slots.set index none) =
      (liveFrom start slots).filter fun entry => entry.1 != start + index := by
  induction slots generalizing start index with
  | nil => rfl
  | cons slot rest induction =>
      have later : (liveFrom (start + 1) rest).filter (fun entry => entry.1 != start) =
          liveFrom (start + 1) rest :=
        List.filter_eq_self.mpr fun entry member => by
          have := (bounds_of_mem_liveFrom member).1
          simp only [bne_iff_ne, ne_eq]
          omega
      cases index with
      | zero => cases slot <;> simp [liveFrom, later]
      | succ index =>
          have shifted : start + 1 + index = start + (index + 1) := by omega
          cases slot <;> simp [liveFrom, induction, shifted]

/-- Each `cancel` closure made so far holds the index of its own subscription. -/
def Registry.Sound (r : Registry) : Prop := r.closures = List.range r.subscribers.length

/-- Each call keeps the closures' indices, and acts on the registry the slice
stands for as the same call on the abstract registry. -/
theorem Registry.Sound.apply {r : Registry} (sound : r.Sound) (op : RegistryOp) :
    (r.apply op).Sound ∧ (r.apply op).abstract = r.abstract.apply op := by
  cases op with
  | subscribe callback =>
      refine ⟨?_, ?_⟩
      · simpa [Registry.Sound, Registry.apply, Registry.subscribeEvents, List.range_succ]
          using sound
      · simp [Registry.abstract, Registry.apply, Registry.subscribeEvents, Subscriptions.apply,
          liveFrom_append_some]
  | cancel subscription =>
      have held : r.closures[subscription]? =
          if subscription < r.subscribers.length then some subscription else none := by
        rw [sound]
        split
        · exact List.getElem?_range ‹_›
        · exact List.getElem?_eq_none_iff.mpr (by simpa using Nat.le_of_not_lt ‹_›)
      by_cases made : subscription < r.subscribers.length
      · simp only [Registry.apply, held, if_pos made, Registry.cancel]
        refine ⟨by simpa [Registry.Sound] using sound, ?_⟩
        simp [Registry.abstract, Subscriptions.apply, liveFrom_set_none]
      · simp only [Registry.apply, held, if_neg made]
        refine ⟨sound, ?_⟩
        have untouched : (liveFrom 0 r.subscribers).filter (fun entry => entry.1 != subscription) =
            liveFrom 0 r.subscribers :=
          List.filter_eq_self.mpr fun entry member => by
            have := (bounds_of_mem_liveFrom member).2
            simp only [bne_iff_ne, ne_eq]
            omega
        simp [Registry.abstract, Subscriptions.apply, untouched]
  | emit =>
      exact ⟨sound, by simp [Registry.abstract, Registry.apply, Registry.emitEvent,
        Subscriptions.apply, map_snd_liveFrom]⟩

theorem Registry.Sound.run {r : Registry} (sound : r.Sound) (ops : List RegistryOp) :
    (r.run ops).Sound ∧ (r.run ops).abstract = r.abstract.run ops := by
  induction ops generalizing r with
  | nil => exact ⟨sound, rfl⟩
  | cons op ops induction =>
      obtain ⟨kept, commutes⟩ := sound.apply op
      have rest := induction kept
      rw [commutes] at rest
      exact rest

example : (Registry.empty.run [.subscribe 7, .subscribe 8, .cancel 0, .cancel 0, .emit]).started =
    [[8]] := by decide

/-! ### The lifecycle -/

/-- How the steps of `StartVM` that the code does not decide turn out: whether a
bundle is found and prepared, whether QEMU starts and stays up, and the system
calls of the new listener's `Listen`. -/
structure StartOutcome where
  bundleOk : Bool
  qemuOk : Bool
  listen : ListenOutcome
  deriving DecidableEq, Repr

/-- The `Manager` fields the lifecycle touches: `instance` (`none` for nil,
otherwise its `running` flag), `vsock` (the listener's number, `none` for nil),
the descriptors and listeners of the process, and the subscriptions. -/
structure Manager where
  vmInstance : Option Bool
  vsock : Option Nat
  sockets : Sockets
  registry : Registry
  deriving DecidableEq, Repr

/-- `StartVM`, and whether it returns nil.  A failed `Listen` is only logged. -/
def Manager.startVM (m : Manager) (outcome : StartOutcome) : Manager × Bool :=
  if m.vmInstance = some true then (m, false)
  else if !outcome.bundleOk then (m, false)
  else if !outcome.qemuOk then ({ m with vmInstance := none }, false)
  else
    let id := m.sockets.listeners.length
    let created : Sockets := ⟨m.sockets.table, m.sockets.listeners ++ [newVsockListener]⟩
    ({ m with
        vmInstance := some true
        vsock := some id
        sockets := (created.listen id outcome.listen).1
        registry := m.registry.emitEvent }, true)

/-- `StopVM`, which always returns nil, as `QEMUInstance.Stop` does. -/
def Manager.stopVM (m : Manager) : Manager :=
  let closed := match m.vsock with
    | some id => { m with sockets := m.sockets.close id, vsock := none }
    | none => m
  match closed.vmInstance with
  | none => closed
  | some _ => { closed with vmInstance := none, registry := closed.registry.emitEvent }

/-- `Shutdown`. -/
def Manager.shutdown (m : Manager) : Manager := m.stopVM

/-- The monitor goroutine of a started instance, when QEMU exits. -/
def Manager.qemuExit (m : Manager) : Manager :=
  { m with vmInstance := m.vmInstance.map fun _ => false }

/-- The calls on a `Manager` and QEMU exiting on its own. -/
inductive ManagerOp where
  | startVM (outcome : StartOutcome)
  | stopVM
  | shutdown
  | qemuExit
  | subscribeEvents (callback : Nat)
  | cancel (subscription : Nat)
  deriving DecidableEq, Repr

def Manager.step (m : Manager) : ManagerOp → Manager
  | .startVM outcome => (m.startVM outcome).1
  | .stopVM => m.stopVM
  | .shutdown => m.shutdown
  | .qemuExit => m.qemuExit
  | .subscribeEvents callback => { m with registry := m.registry.apply (.subscribe callback) }
  | .cancel subscription => { m with registry := m.registry.apply (.cancel subscription) }

def Manager.run (m : Manager) (ops : List ManagerOp) : Manager := ops.foldl Manager.step m

/-- `NewManager` in a process with standard input, output and error open. -/
def Manager.initial : Manager :=
  ⟨none, none, ⟨[some .other, some .other, some .other], []⟩, Registry.empty⟩

theorem Registry.run_append (r : Registry) (first rest : List RegistryOp) :
    r.run (first ++ rest) = (r.run first).run rest :=
  List.foldl_append _ _ _ _

/-- `StopVM` emits `vmStopped` exactly when there is an instance. -/
theorem Manager.registry_stopVM (m : Manager) :
    m.stopVM.registry = m.registry.run (m.vmInstance.toList.map fun _ => .emit) := by
  obtain ⟨vmInstance, vsock, sockets, registry⟩ := m
  cases vsock <;> cases vmInstance <;> rfl

/-- The registry calls `op` makes on `m`: `StartVM` emits `vmStarted` when it
returns nil, `StopVM` and `Shutdown` emit `vmStopped` when there is an instance,
and `SubscribeEvents` and `cancel` are registry calls themselves. -/
def Manager.registryCalls (m : Manager) : ManagerOp → List RegistryOp
  | .startVM outcome => if (m.startVM outcome).2 then [.emit] else []
  | .stopVM | .shutdown => m.vmInstance.toList.map fun _ => .emit
  | .qemuExit => []
  | .subscribeEvents callback => [.subscribe callback]
  | .cancel subscription => [.cancel subscription]

/-- The registry calls a run of `ops` from `m` makes, in order. -/
def Manager.callsOf (m : Manager) : List ManagerOp → List RegistryOp
  | [] => []
  | op :: ops => m.registryCalls op ++ (m.step op).callsOf ops

/-- The registry call a call on a `Manager` is, if it is one. -/
def ManagerOp.registryOp? : ManagerOp → Option RegistryOp
  | .subscribeEvents callback => some (.subscribe callback)
  | .cancel subscription => some (.cancel subscription)
  | _ => none

/-- Every call on a `Manager` acts on its subscriptions by its registry calls. -/
theorem Manager.registry_step (m : Manager) (op : ManagerOp) :
    (m.step op).registry = m.registry.run (m.registryCalls op) := by
  cases op with
  | startVM outcome =>
      simp only [step, registryCalls, startVM]
      split_ifs <;> first | contradiction | rfl
  | stopVM | shutdown => exact m.registry_stopVM
  | _ => rfl

theorem Manager.registry_run (m : Manager) (ops : List ManagerOp) :
    (m.run ops).registry = m.registry.run (m.callsOf ops) := by
  induction ops generalizing m with
  | nil => rfl
  | cons op ops induction =>
      rw [callsOf, Registry.run_append, ← m.registry_step op]
      exact induction (m.step op)

/-- Besides events, the registry calls of a call are its own subscription call. -/
theorem Manager.registryCalls_filter (m : Manager) (op : ManagerOp) :
    (m.registryCalls op).filter (fun call => call != .emit) = op.registryOp?.toList := by
  cases op with
  | startVM outcome => simp only [registryCalls]; split <;> rfl
  | stopVM | shutdown => simp only [registryCalls]; cases m.vmInstance <;> rfl
  | _ => rfl

theorem Manager.callsOf_filter (m : Manager) (ops : List ManagerOp) :
    (m.callsOf ops).filter (fun call => call != .emit) = ops.filterMap ManagerOp.registryOp? := by
  induction ops generalizing m with
  | nil => rfl
  | cons op ops induction =>
      rw [callsOf, List.filter_append, registryCalls_filter, induction, List.filterMap_cons]
      cases op.registryOp? <;> rfl

/-- Over every sequence of subscribes, cancels (of any subscription, any number of
times) and events, the slice behaves as the registry of live subscriptions: each
event starts the callback of every subscription made and not cancelled, once, and a
cancel removes its own subscription and no other.  So do the subscriptions of a
`Manager` over every run of its calls: the registry calls the run makes are its
own subscribes and cancels, in order, among the events `StartVM` and `StopVM`
emit. -/
theorem subscribers_refine_live_subscriptions (ops : List RegistryOp) (calls : List ManagerOp) :
    (Registry.empty.run ops).abstract = Subscriptions.empty.run ops ∧
      (Manager.initial.run calls).registry.abstract =
        Subscriptions.empty.run (Manager.initial.callsOf calls) ∧
      (Manager.initial.callsOf calls).filter (fun call => call != .emit) =
        calls.filterMap ManagerOp.registryOp? := by
  refine ⟨((show Registry.empty.Sound from rfl).run ops).2, ?_,
    Manager.initial.callsOf_filter calls⟩
  rw [Manager.registry_run]
  exact ((show Registry.empty.Sound from rfl).run _).2

theorem Manager.sockets_stopVM {m : Manager} {id : Nat} (current : m.vsock = some id) :
    m.stopVM.sockets = m.sockets.close id := by
  simp only [stopVM, current]
  split <;> rfl

/-- From any state in which the instance is not running (QEMU exited on its own,
or its start failed) while the Manager's listener holds the bound socket, a
`StartVM` whose bundle and QEMU start succeed returns nil and replaces `vsock`
without closing the old listener: its fields are as they were, its socket still
holds the port, the new listener does not accept, and a later `StopVM` closes
the new listener and leaves the old socket open. -/
theorem startVM_replaces_listener_without_closing (m : Manager) {old number : Nat}
    (current : m.vsock = some old) (known : old < m.sockets.listeners.length)
    (idle : m.vmInstance ≠ some true)
    (bound : m.sockets.table[number]? = some (some (.socket old true)))
    (listen : ListenOutcome) :
    let started := m.startVM ⟨true, true, listen⟩
    started.2 = true ∧ started.1.vsock ≠ m.vsock ∧
      started.1.sockets.listeners[old]? = m.sockets.listeners[old]? ∧
      started.1.sockets.table[number]? = some (some (.socket old true)) ∧
      (started.1.sockets.listeners[m.sockets.listeners.length]?).map ListenerFd.accepting =
        some false ∧
      started.1.stopVM.sockets.table[number]? = some (some (.socket old true)) := by
  let fresh := m.sockets.listeners.length
  let created : Sockets := ⟨m.sockets.table, m.sockets.listeners ++ [newVsockListener]⟩
  have started : m.startVM ⟨true, true, listen⟩ =
      (⟨some true, some fresh, (created.listen fresh listen).1, m.registry.emitEvent⟩, true) := by
    simp only [Manager.startVM, if_neg idle, Bool.not_true, Bool.false_eq_true, if_false]
  have failed : (created.listen fresh listen).2 ≠ none :=
    Sockets.listen_of_portHeld (Sockets.portHeld_of_getElem? (s := created) bound) _ _
  have found : created.listeners[fresh]? = some newVsockListener :=
    List.getElem?_concat_length _ _
  have newFields := Sockets.listener_listen_of_failed found failed
  have kept : (created.listen fresh listen).1.table[number]? = some (some (.socket old true)) :=
    created.getElem?_listen_of_occupied fresh listen bound
  rw [started]
  refine ⟨rfl, by simp [current, fresh]; omega, ?_, kept, by rw [newFields]; rfl, ?_⟩
  · rw [created.getElem?_listeners_listen_of_ne listen (by omega : fresh ≠ old)]
    exact List.getElem?_append_left known
  · rw [Manager.sockets_stopVM rfl, Sockets.getElem?_close_of_ne newFields ?_, kept]
    dsimp only
    split
    · exact_mod_cast Sockets.lowestFree_ne_of_getElem? (s := created) bound
    · simp [newVsockListener]

/-- QEMU starts with the listener bound, then exits; the next `StartVM` returns
nil with the first listener still holding the port. -/
theorem startVM_replaces_listener_without_closing_after_exit :
    let m := Manager.initial.run [.startVM ⟨true, true, ⟨true, true, true⟩⟩, .qemuExit]
    m.vsock = some 0 ∧ 0 < m.sockets.listeners.length ∧ m.vmInstance ≠ some true ∧
      m.sockets.table[3]? = some (some (.socket 0 true)) ∧
      let started := m.startVM ⟨true, true, ⟨true, true, true⟩⟩
      started.2 = true ∧ started.1.vsock ≠ m.vsock ∧
        started.1.sockets.listeners[0]? = m.sockets.listeners[0]? ∧
        started.1.sockets.table[3]? = some (some (.socket 0 true)) ∧
        (started.1.sockets.listeners[m.sockets.listeners.length]?).map ListenerFd.accepting =
          some false ∧
        started.1.stopVM.sockets.table[3]? = some (some (.socket 0 true)) := by
  intro m
  have current : m.vsock = some 0 := by decide
  have known : 0 < m.sockets.listeners.length := by decide
  have idle : m.vmInstance ≠ some true := by decide
  have bound : m.sockets.table[3]? = some (some (.socket 0 true)) := by decide
  exact ⟨current, known, idle, bound,
    startVM_replaces_listener_without_closing m current known idle bound ⟨true, true, true⟩⟩

end CoworkService.Vm
