import EventLedger.Event

/-!
# Consumers

A consumer knows the names of its two queues, where they are, and how long one message may take.
-/
namespace EventLedger

/-- What a consumer knows. -/
structure Consumer where
  /-- The name of the queue of usage events. -/
  usageQueue : String
  /-- The name of the queue of audit events. -/
  auditQueue : String
  /-- The milliseconds that reading and storing may take. -/
  timeLimit : Nat
  /-- The virtual host of the queues. -/
  virtualHost : String := "/"
  deriving DecidableEq, Repr

/-- The name of the queue of a kind. -/
def Consumer.queueName (consumer : Consumer) : EventKind → String
  | .usage => consumer.usageQueue
  | .audit => consumer.auditQueue

end EventLedger
