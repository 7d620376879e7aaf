import EventLedger.Event
import EventLedger.Json.Bytes
import EventLedger.Outcome

/-!
# Queues of a broker

A broker holds each published message: it is queued, or it has been delivered and is not settled.
A message goes away only when its delivery is acknowledged or thrown away. When a session ends,
what is not settled goes back into its queue; the deliveries may still be on their way to the
worker then.
-/
namespace EventLedger.Broker

/-- A published message. -/
structure Message where
  /-- Its place among all published messages. -/
  number : Nat
  /-- The kind of its queue. -/
  kind : EventKind
  /-- Its content. -/
  body : Json.Bytes
  deriving DecidableEq

/-- A message that has been delivered, under its tag in the session. -/
structure Shipment where
  /-- The tag. -/
  tag : Nat
  /-- The message. -/
  message : Message
  deriving DecidableEq

/-- What a broker holds. -/
structure Queues where
  /-- All messages that were ever published. -/
  published : List Message
  /-- The messages that wait to be delivered. -/
  queued : List Message
  /-- The deliveries of the last session. -/
  delivered : List Shipment
  /-- The deliveries that are not settled. -/
  unsettled : List Shipment
  /-- Whether the session still is. -/
  isOpen : Bool

namespace Queues

/-- A broker that holds nothing. -/
def empty : Queues :=
  { published := [], queued := [], delivered := [], unsettled := [], isOpen := false }

/-- A message is published to the queue of a kind. -/
def publish (queues : Queues) (kind : EventKind) (body : Json.Bytes) : Queues :=
  let message : Message := { number := queues.published.length, kind, body }
  { queues with
    published := queues.published ++ [message], queued := queues.queued ++ [message] }

/-- The message at a place of those that wait is delivered, if there is a session. -/
def deliver (queues : Queues) (place : Nat) : Queues :=
  match queues.queued[place]? with
  | some message =>
    if queues.isOpen then
      let shipment : Shipment := { tag := queues.delivered.length + 1, message }
      { queues with
        queued := queues.queued.eraseIdx place
        delivered := queues.delivered ++ [shipment]
        unsettled := queues.unsettled ++ [shipment] }
    else queues
  | none => queues

/-- The session ends, and what is not settled goes back. -/
def endSession (queues : Queues) : Queues :=
  { queues with
    queued := queues.unsettled.map (·.message) ++ queues.queued, unsettled := [],
    isOpen := false }

/-- A new session begins. -/
def beginSession (queues : Queues) : Queues :=
  { queues.endSession with delivered := [], isOpen := true }

/-- Whether a message has been delivered in the last session. -/
def hasDelivered (queues : Queues) (kind : EventKind) (tag : Nat) (body : Json.Bytes) : Bool :=
  queues.delivered.any fun shipment =>
    shipment.tag = tag ∧ shipment.message.kind = kind ∧ shipment.message.body = body

/-- A delivery is settled, if it is not settled yet. -/
def settle (queues : Queues) (tag : Nat) (decision : Decision) : Queues :=
  let rest := queues.unsettled.filter fun shipment => shipment.tag ≠ tag
  match decision with
  | .acknowledge | .drop => { queues with unsettled := rest }
  | .requeue =>
    let back := queues.unsettled.filter fun shipment => shipment.tag = tag
    { queues with unsettled := rest, queued := back.map (·.message) ++ queues.queued }

/-- Whether the broker holds a message. -/
def Holds (queues : Queues) (message : Message) : Prop :=
  message ∈ queues.queued ∨ ∃ shipment ∈ queues.unsettled, shipment.message = message

end Queues

end EventLedger.Broker
