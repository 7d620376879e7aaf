import EventLedger.Consumer.Loop

/-!
# Feeds of a loop

A feed is what two queues hand out, each item from some time on, and how the loop chooses between
things that are ready together. A queue may end, fail, fall silent or go on for ever. The loop is
run for a number of turns, so that a run of any length can be spoken of.
-/
namespace EventLedger.Consumer

/-- A delivery, and how its surroundings treat it. -/
structure Handling where
  /-- The delivery. -/
  delivery : Delivery
  /-- What the store does when it is asked to store an event. -/
  store : Event → StoreResponse
  /-- How the settlement goes. -/
  settlement : Settlement

/-- Something that a queue hands out. -/
inductive Item where
  /-- A message, and how its surroundings treat it. -/
  | message (tag : Nat) (body : Json.Bytes) (store : Event → StoreResponse)
      (settlement : Settlement)
  /-- The deliveries fail. -/
  | failure (reason : String)
  /-- The deliveries end. -/
  | closed

/-- The handling of an item of a queue, if the item is a message. -/
def Item.handling? (kind : EventKind) : Item → Option Handling
  | .message tag body store settlement =>
    some { delivery := { kind, tag, body }, store, settlement }
  | .failure _ | .closed => none

/-- The arrival of an item of a queue. -/
def Item.arrival (kind : EventKind) : Item → Arrival
  | .message tag body store settlement => .delivery { kind, tag, body } store settlement
  | .failure reason => .failure kind reason
  | .closed => .closed kind

/-- An item and the time from which on it can be taken. -/
structure Offer where
  /-- The time in milliseconds. -/
  readyAt : Nat
  /-- The item. -/
  item : Item

/-- What two queues hand out, and how the loop chooses. The choices depend on what has been taken,
which is given by the queues of the items taken so far. -/
structure Feed where
  /-- The items of each queue by their numbers; a queue is silent from the first missing one on. -/
  offer : EventKind → Nat → Option Offer
  /-- The queue that goes first when both have an item ready at the same moment. -/
  favourite : List EventKind → EventKind
  /-- What is noticed if the signal comes at the moment at which an item is ready. -/
  tie : List EventKind → Sim.Tie

namespace Feed

/-- What a queue offers after some items have been taken. -/
def head? (feed : Feed) (taken : List EventKind) (kind : EventKind) : Option Offer :=
  feed.offer kind (taken.count kind)

/-- The queue whose item comes next, and the item, for a loop that waits from `now` on. -/
def next? (feed : Feed) (taken : List EventKind) (now : Nat) : Option (EventKind × Offer) :=
  match feed.head? taken .usage, feed.head? taken .audit with
  | none, none => none
  | some usage, none => some (.usage, usage)
  | none, some audit => some (.audit, audit)
  | some usage, some audit =>
    let usageTime := max now usage.readyAt
    let auditTime := max now audit.readyAt
    if usageTime < auditTime then some (.usage, usage)
    else if auditTime < usageTime then some (.audit, audit)
    else
      match feed.favourite taken with
      | .usage => some (.usage, usage)
      | .audit => some (.audit, audit)

/-- How an offer of a queue wakes a loop that waits from `now` on. -/
def wake (feed : Feed) (taken : List EventKind) (now : Nat) (kind : EventKind) (offer : Offer) :
    Wake :=
  { delay := offer.readyAt - now, tie := feed.tie taken, arrival := offer.item.arrival kind }

/-- How far a loop has come. -/
structure Progress where
  /-- The queues of the items taken so far, in order. -/
  taken : List EventKind
  /-- The result, if the loop has ended. -/
  result : Option (Except WorkerError Unit)

/-- Run a loop on a feed for a number of turns, after some items have been taken. -/
def run (feed : Feed) (consumer : Consumer) : (turns : Nat) → (taken : List EventKind) →
    Sim Progress
  | 0, taken => return { taken, result := none }
  | turns + 1, taken => do
    let now := (← Sim.world).now
    match feed.next? taken now with
    | none =>
      match ← turn consumer none with
      | .declined => return { taken, result := some (.ok ()) }
      | _ => return { taken, result := none }
    | some (kind, offer) =>
      match ← turn consumer (some (feed.wake taken now kind offer)) with
      | .goesOn => feed.run consumer turns (taken ++ [kind])
      | .ended result => return { taken := taken ++ [kind], result := some result }
      | .declined => return { taken, result := some (.ok ()) }
      | .stuck => return { taken, result := none }

end Feed

end EventLedger.Consumer
