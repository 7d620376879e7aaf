import EventLedger.Broker.Session
import EventLedger.Consumer.Feed

/-!
# Visits to a broker

A visit is a session that takes its time: the broker lets each request of the set-up wait for an
answer, or never answers it, and the queues hand out what they have to a loop that is watched for a
number of turns. Nothing comes of a visit that has not ended as far as it is watched.
-/
namespace EventLedger.Broker

/-- How the broker answers a request. -/
structure Answer where
  /-- The milliseconds until the answer; none if it never comes. -/
  delay : Option Nat
  /-- Why the request is refused, if it is. -/
  refusal : Option String

/-- How a visit leaves. -/
structure Leaving where
  /-- The milliseconds that it takes. -/
  delay : Nat
  /-- What cannot be closed properly. -/
  unclosed : Session.Unclosed

/-- A visit leaves at once, and closes all properly. -/
def Leaving.atOnce : Leaving := { delay := 0, unclosed := .nothing }

/-- What a visit meets. -/
structure Visit where
  /-- The answers to the requests by their places, counted from zero. -/
  answer : Nat → Answer
  /-- What the queues hand out after the set-up. -/
  feed : Consumer.Feed
  /-- How it leaves; none if that never ends. -/
  leaving : Option Leaving

namespace Visit

/-- Close the channel and the connection. -/
def leave (visit : Visit) (result : Except WorkerError Unit) :
    Sim (Option (Except WorkerError Unit)) :=
  match visit.leaving with
  | none => pure none
  | some leaving => do
    Sim.wait leaving.delay
    Session.close leaving.unclosed
    return some result

/-- End a visit at a request that is refused. -/
def endRefused (visit : Visit) (request : Request) (reason : String) :
    Sim (Option (Except WorkerError Unit)) :=
  let result := .error (.broker reason)
  if Session.precedesChannel request then pure (some result) else visit.leave result

/-- Wait for the answer to the request at a place, and go on if it is granted. -/
def answered (visit : Visit) (goOn : Sim (Option (Except WorkerError Unit))) (place : Nat)
    (request : Request) : Sim (Option (Except WorkerError Unit)) :=
  match (visit.answer place).delay with
  | none => pure none
  | some delay => do
    Sim.wait delay
    match (visit.answer place).refusal with
    | some reason => visit.endRefused request reason
    | none =>
      Session.reportGranted request
      goOn

/-- Send requests from the one at a place on, and go on when all are granted. -/
def setUp (visit : Visit) (goOn : Sim (Option (Except WorkerError Unit))) :
    (place : Nat) → List Request → Sim (Option (Except WorkerError Unit))
  | _, [] => goOn
  | place, request :: rest => do
    Sim.happen (.requested request)
    visit.answered (visit.setUp goOn (place + 1) rest) place request

/-- Consume what the queues hand out, for a number of turns. -/
def consume (visit : Visit) (consumer : Consumer) (prefetch : UInt16) (turns : Nat) :
    Sim (Option (Except WorkerError Unit)) := do
  Session.reportStart consumer prefetch
  match (← visit.feed.run consumer turns []).result with
  | none => return none
  | some result => visit.leave result

/-- Run a visit, and watch its loop for a number of turns. -/
def run (consumer : Consumer) (prefetch : UInt16) (turns : Nat) (visit : Visit) :
    Sim (Option (Except WorkerError Unit)) :=
  visit.setUp (visit.consume consumer prefetch turns) 0
    (Broker.setUp prefetch consumer.virtualHost consumer.usageQueue consumer.auditQueue)

end Visit

end EventLedger.Broker
