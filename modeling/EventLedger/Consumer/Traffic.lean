import EventLedger.Consumer.Feed

/-!
# Traffic on two queues

What waits in two queues is finitely many messages in each, and a store that treats the same event
in the same way whenever it is asked. A timetable says when the messages arrive, and what goes first
of things that are ready together. The same traffic can go by many timetables.
-/
namespace EventLedger.Consumer

/-- A message that waits in a queue. -/
structure Message where
  /-- Its number in the session. -/
  tag : Nat
  /-- Its content. -/
  body : Json.Bytes
  /-- How its settlement goes. -/
  settlement : Settlement

/-- What waits in two queues, and the store for it. -/
structure Traffic where
  /-- The messages of each queue, in order. -/
  messages : EventKind → List Message
  /-- What the store does when it is asked to store an event. -/
  store : Event → StoreResponse

/-- When messages arrive, and how a loop chooses. The choices depend on what has been taken, which
is given by the queues of the items taken so far. -/
structure Timetable where
  /-- The time from which on a message can be taken, by its queue and its place there. -/
  readyAt : EventKind → Nat → Nat
  /-- The queue that goes first when both have a message ready at the same moment. -/
  favourite : List EventKind → EventKind
  /-- What is noticed if the signal comes at the moment at which a message is ready. -/
  tie : List EventKind → Sim.Tie

namespace Traffic

/-- A message as a queue hands it out. -/
def item (traffic : Traffic) (message : Message) : Item :=
  .message message.tag message.body traffic.store message.settlement

/-- Traffic that goes by a timetable. Each queue hands out its messages in their order and is silent
after them. -/
def feed (traffic : Traffic) (timetable : Timetable) : Feed where
  offer kind place := (traffic.messages kind)[place]?.map fun message =>
    { readyAt := timetable.readyAt kind place, item := traffic.item message }
  favourite := timetable.favourite
  tie := timetable.tie

end Traffic

end EventLedger.Consumer
