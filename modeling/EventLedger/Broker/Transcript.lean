import EventLedger.Broker.Rehearsal

/-!
# Transcripts of a broker

What the broker of a rehearsal notes, read off the worker's journal: the requests and settlements
that reach it, and its own moves. It makes its first move of a session when both queues are
consumed, and the next one whenever the last delivery has been settled, until a stop is asked for.
-/
namespace EventLedger.Broker

/-- What the broker notes. -/
inductive Note where
  /-- A request. -/
  | requested (request : Request)
  /-- A request that it refuses. -/
  | refused
  /-- A delivery. -/
  | delivered (kind : EventKind) (tag : Nat)
  /-- The store is asked to store an event. -/
  | storeCalled (event : Event)
  /-- The store answers. -/
  | storeAnswered
  /-- A settlement. -/
  | settled (tag : Nat) (decision : Decision)
  /-- It delivers nothing more from a queue. -/
  | cancelled (kind : EventKind)
  /-- The session is lost. -/
  | lost (loss : Loss)
  /-- It asks for a stop. -/
  | stopped

/-- Whether the note is about the store, which is not the broker's. -/
def Note.isOfStore : Note → Bool
  | .storeCalled _ | .storeAnswered => true
  | _ => false

/-- Where the broker is in its script. -/
structure Progress where
  /-- The moves to make. -/
  moves : List Move
  /-- The place of the request that it will refuse. -/
  refusedAt : Option Nat
  /-- The requests of this session so far. -/
  place : Nat
  /-- The tag of the next delivery. -/
  tag : Nat
  /-- How the session is lost once the store is asked for the last delivery. -/
  loss : Option Loss
  /-- Whether the session is lost. -/
  isLost : Bool
  /-- Whether a stop has been asked for. -/
  isStopped : Bool

namespace Progress

/-- The beginning of a script. -/
def start (script : Script) : Progress where
  moves := script.moves
  refusedAt := script.refusedAt
  place := 0
  tag := 1
  loss := none
  isLost := false
  isStopped := false

/-- Make the next move, unless a stop has been asked for. -/
def move (progress : Progress) : Progress × List Note :=
  if progress.isStopped then (progress, [])
  else
    match progress.moves with
    | [] => (progress, [])
    | .deliver kind _ _ loss :: rest =>
      ({ progress with moves := rest, tag := progress.tag + 1, loss },
        [.delivered kind progress.tag])
    | .cancel kind :: rest => ({ progress with moves := rest }, [.cancelled kind])
    | .lose loss :: rest => ({ progress with moves := rest, isLost := true }, [.lost loss])
    | .stop :: rest => ({ progress with moves := rest, isStopped := true }, [.stopped])

/-- Begin a session if a connection is asked for. -/
def begin (progress : Progress) (request : Request) : Progress :=
  if request.kind = .connect then
    { progress with place := 0, tag := 1, loss := none, isLost := false }
  else progress

/-- Take a request. -/
def request (progress : Progress) (request : Request) : Progress × List Note :=
  let progress := progress.begin request
  let later := { progress with place := progress.place + 1 }
  if progress.refusedAt = some progress.place then ({ later with refusedAt := none }, [.refused])
  else if progress.place = Script.lastPlace then
    let (moved, notes) := later.move
    (moved, .requested request :: notes)
  else (later, [.requested request])

/-- See that the store is asked. -/
def storeCalled (progress : Progress) (event : Event) : Progress × List Note :=
  match progress.loss with
  | none => (progress, [.storeCalled event])
  | some loss => ({ progress with isLost := true, loss := none }, [.storeCalled event, .lost loss])

/-- Take a settlement, if it still arrives. -/
def settle (progress : Progress) (tag : Nat) (decision : Decision) : Progress × List Note :=
  if progress.isLost then (progress, [])
  else
    let (moved, notes) := progress.move
    (moved, .settled tag decision :: notes)

/-- See an occurrence. -/
def see (progress : Progress) : Occurrence → Progress × List Note
  | .requested wanted => progress.request wanted
  | .storeCalled event => progress.storeCalled event
  | .storeAnswered => (progress, [.storeAnswered])
  | .settled tag decision => progress.settle tag decision
  | .signalled .stop _ => ({ progress with isStopped := true }, [])
  | _ => (progress, [])

/-- See a journal. -/
def watch (progress : Progress) : Journal → Progress × List Note
  | [] => (progress, [])
  | entry :: rest =>
    let (later, notes) := progress.see entry.what
    let (last, others) := later.watch rest
    (last, notes ++ others)

end Progress

/-- What the broker of a script notes during a journal, and the moves that it does not make. -/
def transcript (script : Script) (journal : Journal) : List Note × List Move :=
  let (last, notes) := (Progress.start script).watch journal
  (notes, last.moves)

end EventLedger.Broker
