import EventLedger.Event.ValidationError
import EventLedger.StoreError

/-!
# Outcomes and decisions

What became of a delivery, and what its queue is told: a stored event is acknowledged, a body
that is no event and an event that can never be stored are dropped, and every other event is put
back into its queue.
-/
namespace EventLedger

/-- What a queue is told about a delivery. -/
inductive Decision where
  /-- The delivery is done with. -/
  | acknowledge
  /-- The delivery goes back into its queue. -/
  | requeue
  /-- The delivery is thrown away. -/
  | drop
  deriving DecidableEq, Repr

/-- The word for a decision. -/
def Decision.text : Decision → String
  | .acknowledge => "ack"
  | .requeue => "requeue"
  | .drop => "drop"

/-- What became of a delivery. -/
inductive Outcome where
  /-- Its event is stored. -/
  | committed
  /-- Its body is no event. -/
  | invalid (error : ValidationError)
  /-- Its event was not stored. -/
  | failed (error : StoreError)
  deriving DecidableEq, Repr

namespace Outcome

/-- What the queue is told. -/
def decision : Outcome → Decision
  | .committed => .acknowledge
  | .invalid _ => .drop
  | .failed error => if error.isTerminal then .drop else .requeue

/-- The error for which the worker cannot go on, if it is one. -/
def fatalError? : Outcome → Option StoreError
  | .failed error => if error.isFatal then some error else none
  | _ => none

end Outcome

end EventLedger
