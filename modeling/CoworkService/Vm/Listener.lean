import CoworkService.Basic

/-!
# The descriptor and the connection of a `VsockListener`

`Listen` creates a vsock socket and stores its descriptor in `v.fd` before it
binds; when `bind` or `listen` fails it closes the socket and returns, with
`v.fd` still holding the number.  The kernel gives the lowest free number to
the next descriptor the process opens, so after such a failure `v.fd` names
whatever the process opens next, and `Close` closes that.

`acceptLoop` installs each new connection from the sdk-daemon in `v.conn`,
closing the one before.  `SendCommand` copies `v.conn` under the read lock and
works on the copy; when a read or a write fails it calls `markDisconnected`,
which closes whatever `v.conn` holds by then and clears `connected`: a failure
on a connection that has since been replaced tears down its successor.
-/

namespace CoworkService.Vm

/-! ### Descriptors -/

/-- What an open descriptor of the process is: a vsock socket that listener
`owner` created, bound to the sdk-daemon port or not, or anything another part
of the process opened. -/
inductive Descriptor where
  | socket (owner : Nat) (bound : Bool)
  | other
  deriving DecidableEq, Repr

/-- The `fd` (`-1` for none) and `closed` fields of a `VsockListener`, and
whether `Listen` has started its `acceptLoop`. -/
structure ListenerFd where
  fd : Int
  closed : Bool
  accepting : Bool
  deriving DecidableEq, Repr

/-- `NewVsockListener`: no descriptor yet. -/
def newVsockListener : ListenerFd := ⟨-1, false, false⟩

/-- The descriptor table of the process, by number, and its listeners. -/
structure Sockets where
  table : List (Option Descriptor)
  listeners : List ListenerFd
  deriving DecidableEq, Repr

/-- The number the kernel gives the next descriptor: the lowest free one. -/
def Sockets.lowestFree (s : Sockets) : Nat := s.table.findIdx Option.isNone

/-- A descriptor opened at the lowest free number. -/
def Sockets.openDescriptor (s : Sockets) (descriptor : Descriptor) : Sockets :=
  { s with table :=
      if s.lowestFree < s.table.length then s.table.set s.lowestFree (some descriptor)
      else s.table ++ [some descriptor] }

/-- `syscall.Close(number)`: whatever is open at that number is closed. -/
def Sockets.closeFd (s : Sockets) (number : Nat) : Sockets :=
  { s with table := s.table.set number none }

/-- Listener `id`'s fields after `change`. -/
def Sockets.updateListener (s : Sockets) (id : Nat) (change : ListenerFd → ListenerFd) :
    Sockets :=
  { s with listeners := s.listeners.modify change id }

/-- Whether a socket bound to the sdk-daemon port is open. -/
def Sockets.portHeld (s : Sockets) : Bool :=
  s.table.any fun slot => slot matches some (.socket _ true)

/-- How the system calls of `Listen` turn out where the code does not decide:
`socket` may fail, `bind` may fail for a reason other than a held port, and
`listen` may fail. -/
structure ListenOutcome where
  socketOk : Bool
  bindOk : Bool
  listenOk : Bool
  deriving DecidableEq, Repr

/-- The errors `Listen` returns: creating, binding, or listening. -/
inductive ListenError where
  | creating
  | binding
  | listening
  deriving DecidableEq, Repr

/-- `VsockListener.Listen` on listener `id`: `bind` fails whenever the port is
held by an open socket. -/
def Sockets.listen (s : Sockets) (id : Nat) (outcome : ListenOutcome) :
    Sockets × Option ListenError :=
  if !outcome.socketOk then (s, some .creating)
  else
    let number := s.lowestFree
    let created := (s.openDescriptor (.socket id false)).updateListener id
      fun fields => { fields with fd := number }
    if s.portHeld ∨ !outcome.bindOk then (created.closeFd number, some .binding)
    else
      let bound := { created with table := created.table.set number (some (.socket id true)) }
      if !outcome.listenOk then (bound.closeFd number, some .listening)
      else (bound.updateListener id fun fields => { fields with accepting := true }, none)

/-- `VsockListener.Close` on listener `id`, as far as its descriptor goes. -/
def Sockets.close (s : Sockets) (id : Nat) : Sockets :=
  let marked := s.updateListener id fun fields => { fields with closed := true }
  match s.listeners[id]? with
  | some fields =>
      if 0 ≤ fields.fd then
        (marked.closeFd fields.fd.toNat).updateListener id fun fields => { fields with fd := -1 }
      else marked
  | none => marked

/-- A process with standard input, output and error open and one listener. -/
def Sockets.initial : Sockets := ⟨[some .other, some .other, some .other], [newVsockListener]⟩

@[simp] theorem Sockets.table_updateListener (s : Sockets) (id : Nat)
    (change : ListenerFd → ListenerFd) : (s.updateListener id change).table = s.table := rfl

@[simp] theorem Sockets.listeners_openDescriptor (s : Sockets) (descriptor : Descriptor) :
    (s.openDescriptor descriptor).listeners = s.listeners := rfl

@[simp] theorem Sockets.listeners_closeFd (s : Sockets) (number : Nat) :
    (s.closeFd number).listeners = s.listeners := rfl

theorem Sockets.lowestFree_le (s : Sockets) : s.lowestFree ≤ s.table.length :=
  List.findIdx_le_length _

theorem Sockets.getElem?_lowestFree {s : Sockets} (within : s.lowestFree < s.table.length) :
    s.table[s.lowestFree]? = some none :=
  List.getElem?_eq_some_iff.mpr
    ⟨within, Option.isNone_iff_eq_none.mp (@List.findIdx_getElem _ _ s.table within)⟩

/-- The descriptor opened sits at the lowest free number. -/
theorem Sockets.getElem?_openDescriptor (s : Sockets) (descriptor : Descriptor) :
    (s.openDescriptor descriptor).table[s.lowestFree]? = some (some descriptor) := by
  unfold openDescriptor
  split
  · exact List.getElem?_set_self ‹_›
  · rw [show s.lowestFree = s.table.length from le_antisymm s.lowestFree_le (by omega)]
    exact List.getElem?_concat_length _ _

/-- Opening a descriptor and closing its number frees that number again: the table is
as before, grown by one free slot when no slot was free. -/
theorem Sockets.table_closeFd_openDescriptor (s : Sockets) (descriptor : Descriptor) :
    ((s.openDescriptor descriptor).closeFd s.lowestFree).table =
      if s.lowestFree < s.table.length then s.table else s.table ++ [none] := by
  unfold closeFd openDescriptor
  split
  · rename_i within
    rw [List.set_set]
    apply List.ext_getElem?
    intro index
    rw [List.getElem?_set]
    split
    · subst index
      exact (getElem?_lowestFree within).symm
    · rfl
  · rename_i full
    have atEnd : s.lowestFree = s.table.length := le_antisymm s.lowestFree_le (by omega)
    rw [atEnd, List.set_append_right _ _ le_rfl, Nat.sub_self]
    rfl

/-- After that, the lowest free number is the same one. -/
theorem Sockets.lowestFree_closeFd_openDescriptor (s : Sockets) (descriptor : Descriptor) :
    ((s.openDescriptor descriptor).closeFd s.lowestFree).lowestFree = s.lowestFree := by
  have bound := s.lowestFree_le
  show List.findIdx Option.isNone _ = s.lowestFree
  rw [table_closeFd_openDescriptor]
  unfold lowestFree at *
  split
  · rfl
  · rename_i full
    rw [List.findIdx_append, if_neg full]
    show 0 + s.table.length = _
    omega

/-- A `Listen` that creates its socket and fails afterwards leaves the socket's number,
now free, in `fd`, and the table as opening and closing the socket leaves it. -/
theorem Sockets.listen_of_failed {s : Sockets} {id : Nat} {outcome : ListenOutcome}
    (created : outcome.socketOk = true) (failed : (s.listen id outcome).2 ≠ none) :
    (s.listen id outcome).1 =
      ⟨((s.openDescriptor (.socket id false)).closeFd s.lowestFree).table,
        s.listeners.modify (fun fields => { fields with fd := s.lowestFree }) id⟩ := by
  unfold listen at failed ⊢
  simp only [created, Bool.not_true, Bool.false_eq_true, if_false] at failed ⊢
  split_ifs at failed ⊢
  · rfl
  · simp only [closeFd, updateListener, List.set_set]
    rfl
  · exact absurd rfl failed

theorem Sockets.lowestFree_ne_of_getElem? {s : Sockets} {index : Nat} {descriptor : Descriptor}
    (occupied : s.table[index]? = some (some descriptor)) : s.lowestFree ≠ index := by
  rintro rfl
  rw [getElem?_lowestFree (List.getElem?_eq_some_iff.mp occupied).1] at occupied
  cases occupied

theorem Sockets.getElem?_openDescriptor_of_ne (s : Sockets) (descriptor : Descriptor)
    {index : Nat} (other : s.lowestFree ≠ index) :
    (s.openDescriptor descriptor).table[index]? = s.table[index]? := by
  unfold openDescriptor
  split
  · exact List.getElem?_set_ne other
  · have atEnd : s.lowestFree = s.table.length := le_antisymm s.lowestFree_le (by omega)
    rcases Nat.lt_or_ge index s.table.length with inside | outside
    · exact List.getElem?_append_left inside
    · have beyond : s.table.length + 1 ≤ index := by omega
      simp only [List.getElem?_eq_none_iff.mpr outside, List.getElem?_eq_none_iff,
        List.length_append, List.length_singleton, beyond]

/-- `Listen` changes the table only at the number it takes: every other open
descriptor stays as it is. -/
theorem Sockets.getElem?_listen_of_occupied (s : Sockets) (id : Nat) (outcome : ListenOutcome)
    {index : Nat} {descriptor : Descriptor} (occupied : s.table[index]? = some (some descriptor)) :
    (s.listen id outcome).1.table[index]? = some (some descriptor) := by
  have other := lowestFree_ne_of_getElem? occupied
  unfold listen
  split_ifs <;>
    simp only [closeFd, table_updateListener, List.getElem?_set_ne other,
      getElem?_openDescriptor_of_ne _ _ other, occupied]

/-- `Listen` on listener `id` leaves every other listener as it is. -/
theorem Sockets.getElem?_listeners_listen_of_ne (s : Sockets) {id index : Nat}
    (outcome : ListenOutcome) (other : id ≠ index) :
    (s.listen id outcome).1.listeners[index]? = s.listeners[index]? := by
  unfold listen
  split_ifs <;> simp [closeFd, updateListener, openDescriptor, List.getElem?_modify, other]

theorem Sockets.portHeld_of_getElem? {s : Sockets} {index owner : Nat}
    (bound : s.table[index]? = some (some (.socket owner true))) : s.portHeld = true :=
  List.any_eq_true.mpr ⟨_, List.getElem?_mem bound, rfl⟩

/-- While a socket holds the port, every `Listen` fails. -/
theorem Sockets.listen_of_portHeld {s : Sockets} (held : s.portHeld = true) (id : Nat)
    (outcome : ListenOutcome) : (s.listen id outcome).2 ≠ none := by
  unfold listen
  split
  · exact Option.some_ne_none _
  · rw [if_pos (Or.inl held)]
    exact Option.some_ne_none _

/-- After a failed `Listen` the listener's fields are as before but for `fd`,
which holds the number its socket had, if it created one. -/
theorem Sockets.listener_listen_of_failed {s : Sockets} {id : Nat} {outcome : ListenOutcome}
    {fields : ListenerFd} (found : s.listeners[id]? = some fields)
    (failed : (s.listen id outcome).2 ≠ none) :
    (s.listen id outcome).1.listeners[id]? =
      some { fields with fd := if outcome.socketOk then (s.lowestFree : Int) else fields.fd } := by
  cases created : outcome.socketOk
  · simp [listen, created, found]
  · rw [listen_of_failed created failed]
    simp [List.getElem?_modify, found]

/-- `Close` closes only the number in the listener's `fd`. -/
theorem Sockets.getElem?_close_of_ne {s : Sockets} {id index : Nat} {fields : ListenerFd}
    (found : s.listeners[id]? = some fields) (other : fields.fd ≠ index) :
    (s.close id).table[index]? = s.table[index]? := by
  simp only [close, found]
  split
  · simp only [table_updateListener, closeFd]
    exact List.getElem?_set_ne (by omega)
  · rfl

/-- Whatever descriptors the process holds, a `Listen` that creates its socket and then
fails at `bind` or `listen` leaves in `fd` a number that is free, and the lowest free
one: the next descriptor the process opens gets it, and `Close` then closes that
descriptor. -/
theorem failed_listen_fd_names_next_descriptor (s : Sockets) {id : Nat}
    (present : id < s.listeners.length) {outcome : ListenOutcome}
    (created : outcome.socketOk = true) (failed : (s.listen id outcome).2 ≠ none)
    (descriptor : Descriptor) :
    let after := (s.listen id outcome).1
    (after.listeners[id]?.map ListenerFd.fd = some (s.lowestFree : Int) ∧
        after.lowestFree = s.lowestFree) ∧
      (after.openDescriptor descriptor).table[s.lowestFree]? = some (some descriptor) ∧
      ((after.openDescriptor descriptor).close id).table[s.lowestFree]? = some none := by
  obtain ⟨fields, found⟩ : ∃ fields, s.listeners[id]? = some fields :=
    ⟨_, List.getElem?_eq_getElem present⟩
  have lowest : (s.listen id outcome).1.lowestFree = s.lowestFree := by
    rw [Sockets.listen_of_failed created failed]
    exact Sockets.lowestFree_closeFd_openDescriptor s _
  have stored : (s.listen id outcome).1.listeners[id]? =
      some { fields with fd := s.lowestFree } := by
    rw [Sockets.listen_of_failed created failed, List.getElem?_modify, found]
    simp
  have opened := Sockets.getElem?_openDescriptor (s.listen id outcome).1 descriptor
  rw [lowest] at opened
  refine ⟨⟨by rw [stored]; rfl, lowest⟩, opened, ?_⟩
  have within : s.lowestFree < ((s.listen id outcome).1.openDescriptor descriptor).table.length :=
    (List.getElem?_eq_some_iff.mp opened).1
  simp only [Sockets.close, Sockets.listeners_openDescriptor, stored, Int.natCast_nonneg,
    if_true, Int.toNat_natCast, Sockets.table_updateListener, Sockets.closeFd]
  exact List.getElem?_set_self within

/-- `Listen` fails at `bind`, having taken descriptor 3 and closed it: `fd` is
3 all the same.  The process opens a file, which gets 3, and `Close` then
closes that file. -/
theorem failed_listen_fd_names_next_descriptor_bind :
    0 < Sockets.initial.listeners.length ∧
      (⟨true, false, true⟩ : ListenOutcome).socketOk = true ∧
      (Sockets.initial.listen 0 ⟨true, false, true⟩).2 ≠ none ∧
      Sockets.initial.lowestFree = 3 ∧
      let after := (Sockets.initial.listen 0 ⟨true, false, true⟩).1
      (after.listeners[0]?.map ListenerFd.fd = some (Sockets.initial.lowestFree : Int) ∧
          after.lowestFree = Sockets.initial.lowestFree) ∧
        (after.openDescriptor .other).table[Sockets.initial.lowestFree]? = some (some .other) ∧
        ((after.openDescriptor .other).close 0).table[Sockets.initial.lowestFree]? =
          some none := by
  have present : 0 < Sockets.initial.listeners.length := by decide
  have created : (⟨true, false, true⟩ : ListenOutcome).socketOk = true := rfl
  have failed : (Sockets.initial.listen 0 ⟨true, false, true⟩).2 ≠ none := by decide
  exact ⟨present, created, failed, by decide,
    failed_listen_fd_names_next_descriptor Sockets.initial present created failed .other⟩

/-! ### The connection -/

/-- Where a `SendCommand` call stands: not yet at its copy of `v.conn`, working
on connection `conn`, or returned. -/
inductive CallPc where
  | idle
  | working (conn : Nat)
  | returned (ok : Bool)
  deriving DecidableEq, Repr

/-- `v.conn` (connections numbered in the order `acceptLoop` installs them),
`connected`, `closed`, the connections closed so far, how many `acceptLoop`
has installed, and the `SendCommand` calls. -/
structure Connections where
  conn : Option Nat
  connected : Bool
  closed : Bool
  closedConns : List Nat
  accepted : Nat
  calls : List CallPc
  deriving DecidableEq, Repr

/-- The steps of `acceptLoop`, of the calls and of `Close`. -/
inductive ConnStep where
  /-- A new connection from the guest, installed under the lock. -/
  | accept
  /-- The copy of `v.conn` under the read lock. -/
  | capture (call : Nat)
  /-- A read or write of the call fails: `markDisconnected`. -/
  | fail (call : Nat)
  /-- The call's writes and reads succeed; `ok` is false when the announced length is
  over 10 MiB, which returns an error without `markDisconnected`. -/
  | finish (call : Nat) (ok : Bool)
  | close
  deriving DecidableEq, Repr

/-- `markDisconnected`. -/
def Connections.markDisconnected (s : Connections) : Connections :=
  { s with connected := false, conn := none, closedConns := s.closedConns ++ s.conn.toList }

/-- Call `index` moves to `pc`. -/
def Connections.move (s : Connections) (index : Nat) (pc : CallPc) : Connections :=
  { s with calls := s.calls.set index pc }

/-- One step, or `none` when it cannot be taken: `acceptLoop` stops once the
listener is closed, and a call on a closed connection cannot succeed. -/
def Connections.step (s : Connections) : ConnStep → Option Connections
  | .accept =>
      if s.closed then none
      else some { s with
        conn := some s.accepted
        connected := true
        closedConns := s.closedConns ++ s.conn.toList
        accepted := s.accepted + 1 }
  | .capture index =>
      match s.calls[index]? with
      | some .idle =>
          match s.conn with
          | some conn => some (s.move index (.working conn))
          | none => some (s.move index (.returned false))
      | _ => none
  | .fail index =>
      match s.calls[index]? with
      | some (.working _) => some ((s.move index (.returned false)).markDisconnected)
      | _ => none
  | .finish index ok =>
      match s.calls[index]? with
      | some (.working conn) =>
          if conn ∈ s.closedConns then none else some (s.move index (.returned ok))
      | _ => none
  | .close =>
      some { s with
        closed := true
        conn := none
        connected := if s.conn.isSome then false else s.connected
        closedConns := s.closedConns ++ s.conn.toList }

/-- The state after a schedule, if every step can be taken. -/
def Connections.run (s : Connections) : List ConnStep → Option Connections
  | [] => some s
  | step :: steps => (s.step step).bind (·.run steps)

/-- A listener with no connection yet and `calls` calls not started. -/
def Connections.initial (calls : Nat) : Connections :=
  ⟨none, false, false, [], 0, List.replicate calls .idle⟩

/-- What holds of the connection in every run: `connected` says whether one is
installed, the installed one is open, a call works on the installed connection or on a
closed one, and every number named is one `acceptLoop` has handed out. -/
structure Connections.Sound (s : Connections) : Prop where
  connectedIff : s.connected = s.conn.isSome
  installedOpen : ∀ conn ∈ s.conn, conn ∉ s.closedConns
  installedFresh : ∀ conn ∈ s.conn, conn < s.accepted
  closedFresh : ∀ conn ∈ s.closedConns, conn < s.accepted
  working : ∀ (index conn : Nat), s.calls[index]? = some (CallPc.working conn) →
    s.conn = some conn ∨ conn ∈ s.closedConns

theorem Connections.initial_sound (calls : Nat) : (Connections.initial calls).Sound where
  connectedIff := rfl
  installedOpen := nofun
  installedFresh := nofun
  closedFresh := nofun
  working index conn found := by
    simp only [initial, List.getElem?_replicate] at found
    split at found <;> cases found

/-- A step that clears `v.conn` and closes what it held, keeping the calls' connections,
keeps the invariant: `markDisconnected` and `Close`. -/
theorem Connections.Sound.retire {s after : Connections} (sound : s.Sound)
    (conn : after.conn = none) (connected : after.connected = false)
    (closed : after.closedConns = s.closedConns ++ s.conn.toList)
    (accepted : after.accepted = s.accepted)
    (calls : ∀ (index conn : Nat), after.calls[index]? = some (CallPc.working conn) →
      s.calls[index]? = some (CallPc.working conn)) : after.Sound where
  connectedIff := by rw [conn, connected]; rfl
  installedOpen := by simp [conn]
  installedFresh := by simp [conn]
  closedFresh other member := by
    rw [closed, List.mem_append, Option.mem_toList] at member
    rw [accepted]
    exact member.elim (sound.closedFresh other) (sound.installedFresh other)
  working index other found := by
    rw [closed, List.mem_append, Option.mem_toList]
    exact .inr ((sound.working index other (calls index other found)).symm.imp_right id)

/-- Moving a call keeps the invariant if it moves to work on the installed connection
or to anything but work. -/
theorem Connections.Sound.move {s : Connections} (sound : s.Sound) (index : Nat) (pc : CallPc)
    (installed : ∀ conn, pc = .working conn → s.conn = some conn) : (s.move index pc).Sound :=
  { sound with
    working := fun other conn found => by
      simp only [Connections.move, List.getElem?_set] at found
      split at found
      · split at found <;> cases found
        exact .inl (installed conn rfl)
      · exact sound.working other conn found }

theorem Connections.Sound.step {s after : Connections} {step : ConnStep} (sound : s.Sound)
    (stepped : s.step step = some after) : after.Sound := by
  cases step with
  | accept =>
      simp only [Connections.step] at stepped
      split at stepped
      · cases stepped
      · cases stepped
        have accepted : ∀ conn ∈ s.closedConns ++ s.conn.toList, conn < s.accepted := by
          simpa only [List.mem_append, Option.mem_toList] using
            fun conn member => member.elim (sound.closedFresh conn) (sound.installedFresh conn)
        refine ⟨rfl, ?_, ?_, ?_, ?_⟩
        · rintro _ ⟨⟩ member
          exact lt_irrefl _ (accepted _ member)
        · rintro _ ⟨⟩
          exact Nat.lt_succ_self _
        · exact fun conn member => Nat.lt_succ_of_lt (accepted conn member)
        · intro index conn found
          rw [List.mem_append, Option.mem_toList]
          exact .inr ((sound.working index conn found).symm.imp_right id)
  | capture index =>
      simp only [Connections.step] at stepped
      split at stepped
      · split at stepped <;> cases stepped
        · exact sound.move index _ fun _ same => by cases same; assumption
        · exact sound.move index _ nofun
      · cases stepped
  | fail index =>
      simp only [Connections.step] at stepped
      split at stepped
      · cases stepped
        exact (sound.move index (.returned false) nofun).retire rfl rfl rfl rfl fun _ _ => id
      · cases stepped
  | finish index ok =>
      simp only [Connections.step] at stepped
      split at stepped
      · split at stepped <;> cases stepped
        exact sound.move index _ nofun
      · cases stepped
  | close =>
      cases stepped
      refine sound.retire rfl ?_ rfl rfl fun _ _ => id
      dsimp only
      rw [sound.connectedIff]
      cases s.conn <;> rfl

theorem Connections.Sound.run {s after : Connections} {steps : List ConnStep} (sound : s.Sound)
    (ran : s.run steps = some after) : after.Sound := by
  induction steps generalizing s with
  | nil =>
      cases ran
      exact sound
  | cons step steps induction =>
      simp only [Connections.run, Option.bind_eq_some] at ran
      obtain ⟨middle, stepped, rest⟩ := ran
      exact induction (sound.step stepped) rest

/-- In every run, a call that fails on a connection `acceptLoop` has since replaced
(and closed) closes the installed connection, which was open, and clears `connected`. -/
theorem stale_failure_closes_installed_connection {calls : Nat} {schedule : List ConnStep}
    {before after : Connections} (ran : (Connections.initial calls).run schedule = some before)
    {index older newer : Nat} (working : before.calls[index]? = some (CallPc.working older))
    (installed : before.conn = some newer) (stale : older ≠ newer)
    (failed : before.step (.fail index) = some after) :
    older ∈ before.closedConns ∧ newer ∉ before.closedConns ∧
      newer ∈ after.closedConns ∧ after.conn = none ∧ after.connected = false := by
  have sound := (Connections.initial_sound calls).run ran
  have replaced : older ∈ before.closedConns :=
    (sound.working index older working).resolve_left fun current =>
      stale (Option.some_injective _ (current.symm.trans installed))
  simp only [Connections.step, working] at failed
  cases failed
  exact ⟨replaced, sound.installedOpen newer installed,
    by simp [Connections.markDisconnected, Connections.move, installed], rfl, rfl⟩

/-- A call copies connection 0; the guest reconnects, and `acceptLoop` closes
connection 0 and installs connection 1; the call's read on connection 0 fails,
and `markDisconnected` closes connection 1 and clears `connected`. -/
theorem stale_failure_closes_installed_connection_reconnect :
    (Connections.initial 1).run [.accept, .capture 0, .accept] =
        some ⟨some 1, true, false, [0], 2, [.working 0]⟩ ∧
      (⟨some 1, true, false, [0], 2, [.working 0]⟩ : Connections).step (.fail 0) =
        some ⟨none, false, false, [0, 1], 2, [.returned false]⟩ ∧
      (0 ∈ [0] ∧ 1 ∉ [0] ∧ 1 ∈ [0, 1] ∧
        (none : Option Nat) = none ∧ false = false) := by
  have ran : (Connections.initial 1).run [.accept, .capture 0, .accept] =
      some ⟨some 1, true, false, [0], 2, [.working 0]⟩ := by decide
  have failed : (⟨some 1, true, false, [0], 2, [.working 0]⟩ : Connections).step (.fail 0) =
      some ⟨none, false, false, [0, 1], 2, [.returned false]⟩ := by decide
  exact ⟨ran, failed,
    stale_failure_closes_installed_connection ran rfl rfl (by decide) failed⟩

end CoworkService.Vm
