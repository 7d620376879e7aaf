import EventLedger.Broker.Session

/-!
# Rehearsals with a broker

A rehearsal runs the service against a broker that follows a script. The script is a list of moves
that may go on over several sessions: a move that ends a session leaves the following ones to the
next session. When the script is over, the broker asks for a stop.
-/
namespace EventLedger.Broker

/-- How a session is lost. -/
inductive Loss where
  /-- The connection breaks off. -/
  | brokenOff
  /-- The broker closes the channel. -/
  | channelClosed
  /-- The broker closes the connection. -/
  | connectionClosed
  deriving DecidableEq, Repr

/-- What the broker does. -/
inductive Move where
  /-- It delivers a message, for which the store does what is said; the session may be lost once
  the store has been asked. -/
  | deliver (kind : EventKind) (body : Json.Bytes) (store : Event → Consumer.StoreResponse)
      (loss : Option Loss)
  /-- It delivers nothing more from a queue. -/
  | cancel (kind : EventKind)
  /-- The session is lost. -/
  | lose (loss : Loss)
  /-- It asks for a stop. -/
  | stop

/-- A request that the broker refuses in its first session. -/
structure Refusal where
  /-- The kind of the request. -/
  kind : RequestKind
  /-- The queue that the request is about; any if it is not given. -/
  queue : Option String
  deriving DecidableEq, Repr

/-- Whether a request is the one to refuse. -/
def Refusal.isOf (refusal : Refusal) (request : Request) : Bool :=
  request.kind = refusal.kind && (refusal.queue.isNone || refusal.queue = request.queue?)

/-- A script. -/
structure Script where
  /-- What the broker does, in order. -/
  moves : List Move
  /-- The place of the request that it refuses in its first session. -/
  refusedAt : Option Nat

namespace Script

/-- The script of moves with a refusal among the requests of a set-up. -/
def ofMoves (moves : List Move) (refusal : Option Refusal) (requests : List Request) : Script where
  moves := moves
  refusedAt := refusal.bind fun refusal => requests.findIdx? refusal.isOf

/-- Whether a body is an event, for which the store is asked. -/
def reachesStore (kind : EventKind) (body : Json.Bytes) : Bool :=
  match Event.ofBody kind body with
  | .ok _ => true
  | .error _ => false

/-- Whether a move ends the session. -/
def endsSession : Move → Bool
  | .deliver kind body _ loss => loss.isSome && reachesStore kind body
  | .cancel _ | .lose _ => true
  | .stop => false

/-- The moves of each session; the last session begins when there are no more moves. -/
def perSession : List Move → List (List Move)
  | [] => [[]]
  | move :: rest =>
    let later := perSession rest
    if endsSession move then [move] :: later
    else
      match later with
      | [] => [[move]]
      | first :: others => (move :: first) :: others

/-- What the consumer is told about a session that is lost. -/
def lossReason : String := "connection lost"

/-- What a delivery is to the consumer. -/
def deliveryArrival (tag : Nat) (kind : EventKind) (body : Json.Bytes)
    (store : Event → Consumer.StoreResponse) (isLost : Bool) : Consumer.Arrival :=
  .delivery { kind, tag, body } store
    { stops := false, delay := 0, failure := if isLost then some lossReason else none }

/-- What arrives at the consumer, from the delivery with a tag on. -/
def arrivals (tag : Nat) : List Move → List Consumer.Arrival
  | [] => []
  | .deliver kind body store loss :: rest =>
    let isLost := loss.isSome && reachesStore kind body
    let later := arrivals (tag + 1) rest
    deliveryArrival tag kind body store isLost ::
      if isLost then .failure kind lossReason :: later else later
  | .cancel kind :: rest => .closed kind :: arrivals tag rest
  | .lose _ :: rest => .failure .usage lossReason :: arrivals tag rest
  | .stop :: rest => .signal .stop :: arrivals tag rest

/-- The place of the last request of a set-up. -/
def lastPlace : Nat := 6

/-- The session of moves. If it begins with a connection that breaks off, the last request of the
set-up has no answer. -/
def sessionOf : List Move → Session
  | .lose .brokenOff :: _ => { refusedAt := some lastPlace, wakes := [] }
  | moves => { refusedAt := none, wakes := (arrivals 1 moves).map (·.atOnce) }

/-- The sessions of a script. -/
def sessions (script : Script) : List Session :=
  let own := (perSession script.moves).map sessionOf
  match script.refusedAt with
  | none => own
  | some place => { refusedAt := some place, wakes := [] } :: own

end Script

end EventLedger.Broker
