import CoworkService.Pipe.Writers

/-!
# The acknowledgement of `subscribeEvents` against racing events

`handleSubscribeEvents` registers its callback with the backend and only then
writes `{"success":true,"result":{"subscribed":true}}`.  From registration on,
any backend goroutine may run the callback, which writes an event frame under
the connection's `writeMu`; the acknowledgement does not take that lock.

The steps are the handler's two (registering, acknowledging) and one per
callback run, each atomic, since a callback's only effect on the connection is
its single `conn.Write`.  An event can be the first frame on the wire, before
the acknowledgement.
-/

namespace CoworkService.Pipe

open Process

/-- Where `handleSubscribeEvents` stands. -/
inductive SubscriberPc where
  | subscribing
  | registered
  | acknowledged
  deriving DecidableEq, Repr

/-- One connection during `handleSubscribeEvents`: the handler's position,
the callback's `cancelled` flag, and the frames written so far, in wire order. -/
structure Subscriber where
  handler : SubscriberPc
  cancelled : Bool
  written : List ServerFrame
  deriving DecidableEq, Repr

/-- The atomic steps: the handler registers, the handler writes the
acknowledgement, or a backend goroutine runs the callback on an event, whose
`WriteMessage` fails or not. -/
inductive SubscriberStep where
  | register
  | acknowledge
  | deliver (event : Event) (writeFails : Bool)
  deriving DecidableEq, Repr

/-- The connection before `SubscribeEvents` is called. -/
def Subscriber.initial : Subscriber := ⟨.subscribing, false, []⟩

/-- One step, or `none` when it cannot be taken: the callback runs only once
registered, and each handler step happens once, in order. -/
def Subscriber.step (subscriber : Subscriber) : SubscriberStep → Option Subscriber
  | .register =>
      if subscriber.handler = .subscribing then some { subscriber with handler := .registered }
      else none
  | .acknowledge =>
      if subscriber.handler = .registered then
        some { subscriber with
          handler := .acknowledged, written := subscriber.written ++ [.reply subscribeAck] }
      else none
  | .deliver event writeFails =>
      if subscriber.handler = .subscribing then none
      else if subscriber.cancelled then some subscriber
      else if writeFails then some { subscriber with cancelled := true }
      else some { subscriber with written := subscriber.written ++ [.event event] }

/-- The connection after a schedule of steps, if every step can be taken. -/
def Subscriber.run (subscriber : Subscriber) : List SubscriberStep → Option Subscriber
  | [] => some subscriber
  | step :: steps => (subscriber.step step).bind (·.run steps)

/-- The bytes on the wire. -/
def Subscriber.wire (subscriber : Subscriber) : Bytes :=
  frames (subscriber.written.map ServerFrame.payload)

/-- An event delivered between registration and the acknowledgement is the
first frame on the wire: the acknowledgement comes second. -/
theorem event_frame_precedes_subscribe_ack :
    Subscriber.initial.run
        [.register, .deliver (.vm (ascii "vmStarted") (ascii "default")) false, .acknowledge] =
      some ⟨.acknowledged, false,
        [.event (.vm (ascii "vmStarted") (ascii "default")), .reply subscribeAck]⟩ ∧
    readMessage (Subscriber.wire ⟨.acknowledged, false,
        [.event (.vm (ascii "vmStarted") (ascii "default")), .reply subscribeAck]⟩) =
      .ok ((Event.vm (ascii "vmStarted") (ascii "default")).marshal,
        frames [subscribeAck.marshal]) ∧
    (Event.vm (ascii "vmStarted") (ascii "default")).marshal ≠ subscribeAck.marshal :=
  ⟨by decide, readMessage_writeMessage (by decide) _, by decide⟩

end CoworkService.Pipe
