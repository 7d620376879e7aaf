import EventLedger.Broker.Request
import EventLedger.Database.Conversation
import EventLedger.Json.Bytes
import EventLedger.Log
import EventLedger.Outcome
import EventLedger.WorkerError

/-!
# Journals

A journal lists what happened in a run, in order and with the time of each occurrence in
milliseconds. What the service logs, counts and sends are views of its journal.
-/
namespace EventLedger

/-- How the wish to go on changes. -/
inductive SignalChange where
  /-- The worker is asked to stop. -/
  | stop
  /-- Nobody is left who could ask. -/
  | abandon
  deriving DecidableEq, Repr

/-- Who changes the wish to go on. -/
inductive SignalSource where
  /-- Whoever runs the worker. -/
  | operator
  /-- Something that the worker talks to. -/
  | surroundings
  deriving DecidableEq, Repr

/-- Something that happens in a run. -/
inductive Occurrence where
  /-- The queue of a kind hands something out: a delivery, a failure or its end. -/
  | took (kind : EventKind)
  /-- A delivery begins to be dealt with. -/
  | received (kind : EventKind) (tag : Nat) (body : Json.Bytes)
  /-- The store is asked to store an event. -/
  | storeCalled (event : Event)
  /-- The store answers. -/
  | storeAnswered
  /-- The queue is told about a delivery. -/
  | settled (tag : Nat) (decision : Decision)
  /-- A message has been dealt with, in so many milliseconds without its settlement. -/
  | measured (queue : String) (decision : Decision) (millis : Nat)
  /-- The wish to go on changes. -/
  | signalled (change : SignalChange) (source : SignalSource)
  /-- A session is attempted. -/
  | attemptStarted
  /-- A session has ended. -/
  | attemptEnded (result : Except WorkerError Unit)
  /-- A session that failed is counted. -/
  | failureCounted
  /-- Something is logged. -/
  | logged (record : Log.Record)
  /-- A span of work ends. -/
  | spanClosed (span : Log.Span)
  /-- A statement is sent to the database. -/
  | executed (statement : Database.Statement)
  /-- The database replies to a statement. -/
  | replied (reply : Database.Reply)
  /-- The pool of database connections is closed. -/
  | poolClosed
  /-- A request is sent to the broker. -/
  | requested (request : Broker.Request)
  /-- The session with the broker is closed. -/
  | sessionClosed

/-- Whether a loop does it with what it takes from a queue. -/
def Occurrence.isDeed : Occurrence → Bool
  | .took _ | .received _ _ _ | .storeCalled _ | .settled _ _ | .measured _ _ _ => true
  | _ => false

/-- An occurrence and its time. -/
structure Entry where
  /-- The time in milliseconds. -/
  time : Nat
  /-- What happened. -/
  what : Occurrence

/-- What happened in a run, in order. -/
abbrev Journal := List Entry

namespace Journal

/-- What was logged. -/
def logs (journal : Journal) : List Log.Record :=
  journal.filterMap fun entry =>
    match entry.what with
    | .logged record => some record
    | _ => none

/-- What was sent to the database. -/
def statements (journal : Journal) : List Database.Statement :=
  journal.filterMap fun entry =>
    match entry.what with
    | .executed statement => some statement
    | _ => none

/-- What was asked of the broker. -/
def requests (journal : Journal) : List Broker.Request :=
  journal.filterMap fun entry =>
    match entry.what with
    | .requested request => some request
    | _ => none

/-- What the queues were told, with the tags of the deliveries. -/
def settlements (journal : Journal) : List (Nat × Decision) :=
  journal.filterMap fun entry =>
    match entry.what with
    | .settled tag decision => some (tag, decision)
    | _ => none

/-- The events that a store was asked to store. -/
def storeCalls (journal : Journal) : List Event :=
  journal.filterMap fun entry =>
    match entry.what with
    | .storeCalled event => some event
    | _ => none

/-- What happened of a sort, in order. -/
def only (keep : Occurrence → Bool) (journal : Journal) : List Occurrence :=
  (journal.map (·.what)).filter keep

/-- What a loop did with what it took. -/
def deeds (journal : Journal) : List Occurrence := journal.only Occurrence.isDeed

end Journal

end EventLedger
