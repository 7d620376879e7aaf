import EventLedger.Consumer.Processing
import EventLedger.Database.Pool

/-!
# Rehearsals with a database

A rehearsal runs the service against a database that holds nothing and does every statement, but
for mishaps that are planned: each of them is the reply to the first statement of its kind, once.
-/
namespace EventLedger.Database

/-- A planned reply to a statement of a kind. -/
structure Mishap where
  /-- The kind of statement. -/
  on : StatementKind
  /-- The reply. -/
  reply : Reply
  deriving DecidableEq, Repr

/-- The database of a rehearsal. -/
structure Rehearsal where
  /-- What is still planned, in the order in which it is looked for. -/
  mishaps : List Mishap
  /-- Whether a connection was lost. -/
  lostConnection : Bool
  deriving DecidableEq, Repr

namespace Rehearsal

/-- A database with planned mishaps. -/
def ofMishaps (mishaps : List Mishap) : Rehearsal := { mishaps, lostConnection := false }

/-- How the database of a rehearsal replies. -/
def answer : Peer Rehearsal := fun rehearsal statement =>
  match rehearsal.mishaps.find? fun mishap => mishap.on = statement.kind with
  | none => (.done, rehearsal)
  | some mishap =>
    (mishap.reply,
      { mishaps := rehearsal.mishaps.eraseP fun other => other.on = statement.kind
        lostConnection := rehearsal.lostConnection || mishap.reply = .lost })

/-- The host of the database. -/
def hostName : String := "rehearsal"

/-- The address of the database. -/
def url : String := "postgres://" ++ hostName ++ "/"

/-- Whether a host is the one on which the service runs. -/
def isOwnHost (name : String) : Bool :=
  [Address.ownHost, "[::1]", "::1", "0.0.0.0"].contains name || name.startsWith "127."

/-- The seconds that the clock of a rehearsal goes on. -/
def horizon : Nat := 0x4000000000000000

/-- What is found at an address: the database at its own, nobody on this host, and nothing else. -/
def network : Address → Reach
  | .host name _ =>
    if name = hostName then .database 0 0
    else if isOwnHost name then .nobody
    else .unreachable 0 (.io "no such host")
  | .socket _ => .unreachable 0 (.io "no such socket")

/-- Something that is done with the pool. -/
inductive Step where
  /-- Make a new pool. -/
  | connect (settings : DatabaseSettings)
  /-- Ask for an answer within a limit of time. -/
  | checkHealth (limit : Duration)
  /-- Close the pool. -/
  | close
  /-- Read a body and store its event, without a limit of time. -/
  | commit (kind : EventKind) (body : Json.Bytes)
  /-- Process a delivery. -/
  | process (kind : EventKind) (body : Json.Bytes)

/-- What comes of a step. -/
inductive StepResult where
  /-- The pool was made, asked or closed. -/
  | service (result : Except Pool.Failure Unit)
  /-- A body is no event. -/
  | invalid (error : ValidationError)
  /-- An event was handed to the store. -/
  | stored (result : Except StoreError Unit)
  /-- A delivery was processed. -/
  | processed (outcome : Outcome)

/-- What a step leaves behind. -/
structure StepEnd where
  /-- What came of it. -/
  result : StepResult
  /-- The pool. -/
  pool : Pool
  /-- The database. -/
  database : Rehearsal

/-- Make a new pool, which takes the place of the old one if the database answers. -/
def replacePool (pool : Pool) (database : Rehearsal) (settings : DatabaseSettings) :
    Sim StepEnd := do
  match ← Pool.connect answer database network horizon settings with
  | (.ok made, later) => return { result := .service (.ok ()), pool := made, database := later }
  | (.error failure, later) =>
    return { result := .service (.error failure), pool, database := later }

/-- Read a body and store its event. -/
def commitBody (pool : Pool) (database : Rehearsal) (kind : EventKind) (body : Json.Bytes) :
    Sim StepEnd := do
  match Event.ofBody kind body with
  | .error error => return { result := .invalid error, pool, database }
  | .ok event =>
    let (response, later) := pool.store answer database event
    let result ← Pool.carryOut response
    return { result := .stored result, pool, database := later }

/-- Process a delivery. -/
def processBody (consumer : Consumer) (pool : Pool) (database : Rehearsal) (kind : EventKind)
    (body : Json.Bytes) : Sim StepEnd := do
  let store := pool.storeWithin answer database consumer.timeLimit
  let outcome ← consumer.process kind body fun event => (store event).1
  let later := match Event.ofBody kind body with
    | .error _ => database
    | .ok event => (store event).2
  return { result := .processed outcome, pool, database := later }

/-- Do a step. -/
def Step.run (consumer : Consumer) (pool : Pool) (database : Rehearsal) : Step → Sim StepEnd
  | .connect settings => replacePool pool database settings
  | .checkHealth limit => do
    let (result, later) ← pool.checkHealth answer database (.database 0 0) limit
    return { result := .service (result.mapError .error), pool, database := later }
  | .close => do
    Pool.closeAfter 0
    return { result := .service (.ok ()), pool := pool.closed, database }
  | .commit kind body => commitBody pool database kind body
  | .process kind body => processBody consumer pool database kind body

end Rehearsal

end EventLedger.Database
