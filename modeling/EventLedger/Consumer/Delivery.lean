import EventLedger.Json.Bytes
import EventLedger.Simulation

/-!
# What a consumer meets

While a consumer waits, something wakes it: a delivery, a failure or the end of a queue's
deliveries, or the signal. With each delivery comes how its surroundings treat it: what the store
does when it is asked to store the event, and how the settlement goes.
-/
namespace EventLedger.Consumer

/-- A message on its way through the worker. -/
structure Delivery where
  /-- The kind of its queue. -/
  kind : EventKind
  /-- Its number in the session. -/
  tag : Nat
  /-- Its content. -/
  body : Json.Bytes

/-- Something that a store does on its own. -/
inductive StoreDeed where
  /-- It talks to the database. -/
  | said (utterance : Database.Utterance)
  /-- It logs something. -/
  | logged (record : Log.Record)
  /-- It ends a span of work. -/
  | spanClosed (span : Log.Span)

/-- What happens with a deed. -/
def StoreDeed.occurrence : StoreDeed → Occurrence
  | .said (.sent statement) => .executed statement
  | .said (.replied reply) => .replied reply
  | .logged record => .logged record
  | .spanClosed span => .spanClosed span

/-- A store does things one after another, now. -/
def perform (deeds : List StoreDeed) : Sim Unit := Sim.happenAll (deeds.map StoreDeed.occurrence)

/-- What a store does when it is asked to store an event. -/
structure StoreResponse where
  /-- What it does as soon as it is asked. -/
  opening : List StoreDeed
  /-- Whether a stop is asked for at that moment. -/
  stops : Bool
  /-- The milliseconds until its answer; none if it never answers. -/
  delay : Option Nat
  /-- Its answer. -/
  answer : Except StoreError Unit
  /-- What it does when the call ends, with the answer or without it. -/
  closing : List StoreDeed

/-- How the settlement of a delivery goes. -/
structure Settlement where
  /-- Whether a stop is asked for as it begins. -/
  stops : Bool
  /-- The milliseconds that it takes. -/
  delay : Nat
  /-- Why it fails, if it does. -/
  failure : Option String

/-- What wakes a consumer. -/
inductive Arrival where
  /-- A delivery, and how its surroundings treat it. -/
  | delivery (delivery : Delivery) (store : Event → StoreResponse) (settlement : Settlement)
  /-- The deliveries of a queue fail. -/
  | failure (kind : EventKind) (reason : String)
  /-- The deliveries of a queue end. -/
  | closed (kind : EventKind)
  /-- The operator changes the wish to go on. -/
  | signal (change : SignalChange)

/-- An arrival, the milliseconds of waiting for it, and what is noticed if the signal comes at
the same moment. -/
structure Wake where
  /-- The milliseconds until the arrival. -/
  delay : Nat
  /-- What is noticed first. -/
  tie : Sim.Tie
  /-- What arrives. -/
  arrival : Arrival

/-- An arrival that is there as soon as somebody waits for it, where the signal goes first. -/
def Arrival.atOnce (arrival : Arrival) : Wake := { delay := 0, tie := .signal, arrival }

end EventLedger.Consumer
