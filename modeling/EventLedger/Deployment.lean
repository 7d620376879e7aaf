import EventLedger.Broker.Queues
import EventLedger.Broker.Session
import EventLedger.Database.Access
import EventLedger.Database.Server
import EventLedger.Supervision

/-!
# Deployments

The worker together with its broker and its database. What the worker does is what its journal says
when it is run on what it meets; here it does one thing after another while the broker and the
database go on by themselves. What it meets must be there: it receives what the broker has
delivered, and hears what the database has replied. A worker that met something else waits for
ever, which leaves the others as they are.
-/
namespace EventLedger

/-- What wakes a worker whose store is the database. -/
inductive WorkerArrival where
  /-- A delivery, what its store meets, and how its settlement goes. -/
  | delivery (delivery : Consumer.Delivery) (access : Database.Access)
      (settlement : Consumer.Settlement)
  /-- The deliveries of a queue fail. -/
  | failure (kind : EventKind) (reason : String)
  /-- The deliveries of a queue end. -/
  | closed (kind : EventKind)
  /-- The operator changes the wish to go on. -/
  | signal (change : SignalChange)

/-- The arrival at the consumer. -/
def WorkerArrival.arrival : WorkerArrival → Consumer.Arrival
  | .delivery delivered access settlement => .delivery delivered access.response settlement
  | .failure kind reason => .failure kind reason
  | .closed kind => .closed kind
  | .signal change => .signal change

/-- An arrival at a worker, the milliseconds of waiting for it, and what is noticed if the signal
comes at the same moment. -/
structure WorkerWake where
  /-- The milliseconds until the arrival. -/
  delay : Nat
  /-- What is noticed first. -/
  tie : Sim.Tie
  /-- What arrives. -/
  arrival : WorkerArrival

/-- What a session of a worker meets. -/
structure WorkerSession where
  /-- The place of the request that is refused, if one is. -/
  refusedAt : Option Nat
  /-- What wakes the worker after the set-up. -/
  wakes : List WorkerWake

/-- The session with the broker. -/
def WorkerSession.session (session : WorkerSession) : Broker.Session where
  refusedAt := session.refusedAt
  wakes := session.wakes.map fun wake => ⟨wake.delay, wake.tie, wake.arrival.arrival⟩

/-- What a supervised worker does that meets some sessions. -/
def workerJournal (consumer : Consumer) (prefetch : UInt16) (retryDelay : Nat)
    (attempts : List (Supervision.Attempt WorkerSession)) (world : World) : Journal :=
  (Supervision.supervise retryDelay (fun met => Broker.Session.run consumer prefetch met.session)
    attempts world).journal

/-- A worker, its broker and its database. -/
structure Deployment where
  /-- What the broker holds. -/
  queues : Broker.Queues
  /-- The database and the calls of the worker's store. -/
  server : Database.Server
  /-- What the worker will do, in order. -/
  worker : Journal

/-- What happens in a deployment. -/
inductive DeploymentMove where
  /-- A message is published to the queue of a kind. -/
  | publish (kind : EventKind) (body : Json.Bytes)
  /-- The broker delivers the message at a place of those that wait. -/
  | deliver (place : Nat)
  /-- The broker loses its session. -/
  | lose
  /-- The database does something. -/
  | database (move : Database.ServerMove)
  /-- The worker does the next thing; if it sends something to the broker, that may not arrive, and
  if it calls its store, that may get the connection of an earlier call. -/
  | work (arrives : Bool) (reused : Option Nat)

namespace Deployment

/-- Nothing has happened. -/
def start (worker : Journal) : Deployment := { queues := .empty, server := .empty, worker }

/-- The last call of the worker's store, if there is one. -/
def lastCall? (deployment : Deployment) : Option Database.Call :=
  deployment.server.calls[deployment.server.calls.length - 1]?

/-- A change of the last call. -/
def onLastCall (deployment : Deployment) (change : Database.Call → Database.Call) : Deployment :=
  { deployment with
    server := deployment.server.onCall (deployment.server.calls.length - 1) change }

/-- A change of what the broker holds. -/
def onQueues (deployment : Deployment) (change : Broker.Queues → Broker.Queues) : Deployment :=
  { deployment with queues := change deployment.queues }

/-- The worker hears a reply, if the database has given it or the connection is lost. -/
def hear? (deployment : Deployment) (reply : Database.Reply) : Option Deployment :=
  if reply = .lost then some (deployment.onLastCall .lose)
  else if (deployment.lastCall?.bind (·.connection.reply)) = some reply then
    some (deployment.onLastCall (·.hear reply))
  else none

/-- What comes of something that the worker does, if it can be done. -/
def follow? (deployment : Deployment) (arrives : Bool) (reused : Option Nat) :
    Occurrence → Option Deployment
  | .requested (.connect _) =>
    some (deployment.onQueues fun queues =>
      if arrives then queues.beginSession else queues.endSession)
  | .sessionClosed => some (deployment.onQueues (·.endSession))
  | .received kind tag body =>
    if deployment.queues.hasDelivered kind tag body then some deployment else none
  | .storeCalled event =>
    some { deployment with server := deployment.server.begin event reused }
  | .executed statement => some (deployment.onLastCall (·.send statement))
  | .replied reply => deployment.hear? reply
  | .settled tag decision =>
    some (deployment.onQueues fun queues =>
      if arrives then queues.settle tag decision else queues)
  | _ => some deployment

/-- The worker does the next thing, if there is one and it can be done. -/
def work (deployment : Deployment) (arrives : Bool) (reused : Option Nat) : Deployment :=
  match deployment.worker with
  | [] => deployment
  | entry :: rest =>
    match deployment.follow? arrives reused entry.what with
    | some later => { later with worker := rest }
    | none => deployment

/-- Something happens. -/
def step (deployment : Deployment) : DeploymentMove → Deployment
  | .publish kind body => deployment.onQueues (·.publish kind body)
  | .deliver place => deployment.onQueues (·.deliver place)
  | .lose => deployment.onQueues (·.endSession)
  | .database move => { deployment with server := deployment.server.move move }
  | .work arrives reused => deployment.work arrives reused

/-- A deployment after many things have happened. -/
def run (worker : Journal) (moves : List DeploymentMove) : Deployment :=
  moves.foldl step (.start worker)

end Deployment

end EventLedger
