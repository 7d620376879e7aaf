/-!
# Requests to the broker

What a session asks of the broker before it takes deliveries, in this order: a connection, a
channel on it, a bound on unsettled deliveries, both queues, and the deliveries of both queues.
-/
namespace EventLedger.Broker

/-- How a queue is declared. -/
structure QueueOptions where
  /-- Only look whether the queue exists. -/
  passive : Bool
  /-- The queue outlives a restart of the broker. -/
  durable : Bool
  /-- The queue belongs to this connection. -/
  exclusive : Bool
  /-- The queue goes when nobody consumes it. -/
  autoDelete : Bool
  /-- No answer is wanted. -/
  noWait : Bool
  deriving DecidableEq, Repr

/-- How a queue is consumed. -/
structure ConsumeOptions where
  /-- Leave out what this connection published. -/
  noLocal : Bool
  /-- Deliveries need no settlement. -/
  noAck : Bool
  /-- Nobody else may consume the queue. -/
  exclusive : Bool
  /-- No answer is wanted. -/
  noWait : Bool
  deriving DecidableEq, Repr

/-- A request of the set-up. -/
inductive Request where
  /-- Open a connection to a virtual host. -/
  | connect (virtualHost : String)
  /-- Open a channel. -/
  | channel
  /-- Bound the deliveries that are not settled. -/
  | limit (prefetch : UInt16)
  /-- Declare a queue. -/
  | declare (queue : String) (options : QueueOptions)
  /-- Ask for the deliveries of a queue under a name, which the broker chooses if it is empty. -/
  | consume (queue tag : String) (options : ConsumeOptions)
  deriving DecidableEq, Repr

/-- The kinds of request. -/
inductive RequestKind where
  /-- A connection. -/
  | connect
  /-- A channel. -/
  | channel
  /-- A bound on unsettled deliveries. -/
  | limit
  /-- A queue. -/
  | declare
  /-- The deliveries of a queue. -/
  | consume
  deriving DecidableEq, Repr

/-- The kind of a request. -/
def Request.kind : Request → RequestKind
  | .connect _ => .connect
  | .channel => .channel
  | .limit _ => .limit
  | .declare _ _ => .declare
  | .consume _ _ _ => .consume

/-- The queue that a request is about. -/
def Request.queue? : Request → Option String
  | .declare queue _ | .consume queue _ _ => some queue
  | _ => none

/-- The queues last, and are shared. -/
def sharedQueue : QueueOptions :=
  { passive := false, durable := true, exclusive := false, autoDelete := false, noWait := false }

/-- Each delivery is settled. -/
def settledDeliveries : ConsumeOptions :=
  { noLocal := false, noAck := false, exclusive := false, noWait := false }

/-- The requests of a set-up, in order. -/
def setUp (prefetch : UInt16) (virtualHost usageQueue auditQueue : String) : List Request :=
  [.connect virtualHost, .channel, .limit prefetch, .declare usageQueue sharedQueue,
    .declare auditQueue sharedQueue, .consume usageQueue "" settledDeliveries,
    .consume auditQueue "" settledDeliveries]

end EventLedger.Broker
