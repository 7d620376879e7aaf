import EventLedger.Consumer.Delivery
import EventLedger.Database.Address
import EventLedger.Database.Conversation
import EventLedger.ServiceError
import EventLedger.Settings

/-!
# Pools of connections

The service talks to its database through a pool of connections. The pool is there once the database
has answered within a limit of time, and refuses everything after it has been closed. A connection
that is lost is replaced by the next statement that needs one. Whoever needs a connection waits for
it no longer than the pool has patience, whatever limit of time there is besides. How many
connections the pool keeps in reserve, and for how long, is not told: it sends no statement for
that.
-/
namespace EventLedger.Database

/-- What is found at an address, with the milliseconds of the way there. -/
inductive Reach where
  /-- The database, which takes some milliseconds to reply. -/
  | database (way pace : Nat)
  /-- Nobody, which may change: reaching it is tried until the time is over. -/
  | nobody
  /-- No way there, which shows after some time. -/
  | unreachable (way : Nat) (error : DatabaseError)
  deriving DecidableEq, Repr

/-- A pool of connections. -/
structure Pool where
  /-- Whether it has been closed. -/
  isClosed : Bool
  /-- The time in which a connection must be found. -/
  patience : Duration := .ofSeconds 30
  deriving DecidableEq, Repr

namespace Pool

variable {σ : Type}

/-- The component that looks after the pool. -/
def logTarget : String := "minichat_shared::database"

/-- The component that stores events. -/
def storeTarget : String := "minichat_worker::store"

/-- The work of reaching the database. -/
def connecting : Log.Span := { name := "connect", target := logTarget, fields := [] }

/-- The work of storing an event. -/
def storing : Event → Log.Span
  | .usage event =>
    { name := "commit_usage", target := storeTarget,
      fields := [("user_id", event.userId.text), ("generation_id", event.generationId.text)] }
  | .audit event =>
    { name := "commit_audit", target := storeTarget, fields := [("action", event.action)] }

/-- What is said of a user who may be missing. -/
def userText : Option Uuid → String
  | none => "None"
  | some id => "Some(" ++ id.text ++ ")"

/-- What is logged when an event is stored. -/
def stored (event : Event) : Log.Record :=
  let (message, fields) : String × Log.Fields := match event with
    | .usage usage =>
      ("用量事件已持久化", [("input_tokens", toString usage.inputTokens.value),
        ("output_tokens", toString usage.outputTokens.value), ("model", usage.model)])
    | .audit audit => ("审计事件已持久化", [("user_id", userText audit.userId)])
  { level := .info, target := storeTarget, message, fields, span := some (storing event) }

/-- How a store answers after an exchange, and what it does when the call ends. -/
def answerTo (event : Event) (said : List Utterance) (ending : Ending) :
    Consumer.StoreResponse :=
  let respond (delay : Option Nat) (answer : Except StoreError Unit)
      (reports : List Consumer.StoreDeed) : Consumer.StoreResponse :=
    { opening := said.map .said, stops := false, delay, answer,
      closing := reports ++ [.spanClosed (storing event)] }
  match ending with
  | .done => respond (some 0) (.ok ()) [.logged (stored event)]
  | .failed error => respond (some 0) (.error (.ofFailure event.kind error)) []
  | .unanswered => respond none (.error (.ofFailure event.kind .poolTimedOut)) []

/-- What the pool does when it is asked to store an event, and the database afterwards. A closed
pool says so at once. -/
def store (pool : Pool) (peer : Peer σ) (database : σ) (event : Event) :
    Consumer.StoreResponse × σ :=
  if pool.isClosed then (answerTo event [] (.failed .poolClosed), database)
  else
    let exchange := storeEvent peer database event
    (answerTo event exchange.said exchange.last.ending, exchange.database)

/-- What the pool does within a limit of time. An open pool needs time to find a connection, and
sends nothing without any. -/
def storeWithin (pool : Pool) (peer : Peer σ) (database : σ) (timeLimit : Nat) (event : Event) :
    Consumer.StoreResponse × σ :=
  if timeLimit = 0 && !pool.isClosed then (answerTo event [] .unanswered, database)
  else pool.store peer database event

/-- Do what a store does, with all the time that it needs. -/
def carryOut (response : Consumer.StoreResponse) : Sim (Except StoreError Unit) := do
  Consumer.perform response.opening
  Consumer.perform response.closing
  return response.answer

/-! ## Health -/

/-- Say that the database did not answer in time, when the time is over of which some has passed. -/
def giveUp (limit : Duration) (passed : Nat) : Sim (Except ServiceError Unit) := do
  Sim.wait (limit.millis - passed)
  return .error (.healthCheckTimeout limit)

/-- Wait for something that is due at a time and go on then, unless the time is over before. Both
are counted from the beginning, since which some time has passed. What comes with the limit is in
time. -/
def await (limit : Duration) (passed due : Nat) (goOn : Sim (Except ServiceError Unit)) :
    Sim (Except ServiceError Unit) :=
  if limit.millis < due then giveUp limit passed
  else do
    Sim.wait (due - passed)
    goOn

/-- Send what begins an exchange, now that there is a connection, and hear what comes back. -/
def hear {σ : Type} (exchange : Exchange σ) (limit : Duration) (way pace : Nat) :
    Sim (Except ServiceError Unit) := do
  let say (said : List Utterance) := Consumer.perform (said.map .said)
  say (exchange.said.take 1)
  match exchange.last.ending with
  | .unanswered => giveUp limit way
  | .done =>
    await limit way (way + pace) do
      say (exchange.said.drop 1)
      return .ok ()
  | .failed error =>
    await limit way (way + pace) do
      say (exchange.said.drop 1)
      return .error (.database error)

/-- Whether a connection that is some way off is found by a pool that has so much time for it. What
comes with a limit is in time, but without any time nothing is found. -/
def finds (pool : Pool) (limit : Duration) (way : Nat) : Bool :=
  pool.patience.nanos ≠ 0 && limit.nanos ≠ 0 && way ≤ pool.patience.millis && way ≤ limit.millis

/-- Say that no connection was found: the pool runs out of patience, or the time is over before. -/
def findNone (pool : Pool) (limit : Duration) : Sim (Except ServiceError Unit) :=
  if pool.patience.millis ≤ limit.millis then do
    Sim.wait pool.patience.millis
    return .error (.database .poolTimedOut)
  else giveUp limit 0

/-- Find a connection that is some way off, and go on with it. -/
def find (pool : Pool) (limit : Duration) (way : Nat) (goOn : Sim (Except ServiceError Unit)) :
    Sim (Except ServiceError Unit) :=
  if pool.finds limit way then do
    Sim.wait way
    goOn
  else pool.findNone limit

/-- Ask the database for an answer within a limit of time. -/
def checkHealth (pool : Pool) (peer : Peer σ) (database : σ) (reach : Reach) (limit : Duration) :
    Sim (Except ServiceError Unit × σ) := do
  if pool.isClosed then return (.error (.database .poolClosed), database)
  else
    match reach with
    | .nobody => return (← pool.findNone limit, database)
    | .unreachable way error =>
      return (← pool.find limit way (return .error (.database error)), database)
    | .database way pace =>
      let exchange := ping peer database
      let result ← pool.find limit way (hear exchange limit way pace)
      return (result, if pool.finds limit way then exchange.database else database)

/-! ## Making a pool -/

/-- Why there is no pool. -/
inductive Failure where
  /-- An error. -/
  | error (cause : ServiceError)
  /-- The process breaks off with a message. -/
  | brokenOff (message : String)
  deriving DecidableEq, Repr

/-- Why the process breaks off when it makes the pool of some settings, if it does: a pool must have
room for a connection, and the clock, which can go on for so many seconds, must reach the end of
the search for one. -/
def breakOff? (horizon : Nat) (settings : DatabaseSettings) : Option String :=
  if settings.maxConnections = 0 then some "capacity must be non-zero"
  else if horizon < settings.connectTimeoutSeconds.toNat then
    some "overflow when adding duration to instant"
  else none

/-- The pool of some settings, which has no connection yet. -/
def ofSettings (settings : DatabaseSettings) : Pool :=
  { isClosed := false, patience := settings.connectTimeout }

/-- Say something about reaching the database. -/
def report (message : String) : Sim Unit :=
  Sim.happen (.logged
    { level := .info, target := logTarget, message, fields := [], span := some connecting })

/-- The pool, if its health has been checked with success. -/
def made (pool : Pool) : Except ServiceError Unit × σ → Sim (Except Failure Pool × σ)
  | (.ok (), later) => do
    report "数据库连接池已创建"
    return (.ok pool, later)
  | (.error error, later) => return (.error (.error error), later)

/-- Reach the database for the first time. -/
def firstContact (peer : Peer σ) (database : σ) (network : Address → Reach) (horizon : Nat)
    (settings : DatabaseSettings) : Sim (Except Failure Pool × σ) := do
  match Address.ofText? settings.url, breakOff? horizon settings with
  | none, _ => return (.error (.error (.database (.configuration "no address"))), database)
  | some _, some message => return (.error (.brokenOff message), database)
  | some address, none =>
    let pool := ofSettings settings
    pool.made (← pool.checkHealth peer database (network address) settings.pingTimeout)

/-- Make the pool of the settings, which is there once the database has answered. -/
def connect (peer : Peer σ) (database : σ) (network : Address → Reach) (horizon : Nat)
    (settings : DatabaseSettings) : Sim (Except Failure Pool × σ) := do
  report "正在连接数据库..."
  let result ← firstContact peer database network horizon settings
  Sim.happen (.spanClosed connecting)
  return result

/-! ## Closing a pool -/

/-- The pool after it has been closed. -/
def closed (pool : Pool) : Pool := { pool with isClosed := true }

/-- Close a pool whose connections have all been given back and closed after some milliseconds. -/
def closeAfter (millis : Nat) : Sim Unit := do
  Sim.happen .poolClosed
  Sim.wait millis
  Sim.log .info logTarget "数据库连接池已关闭" []

/-- Close a pool, which takes some milliseconds, or for ever if a connection is never given back. -/
def close : (closing : Option Nat) → Sim (Option Unit)
  | none => do
    Sim.happen .poolClosed
    return none
  | some millis => do
    closeAfter millis
    return some ()

end Pool

end EventLedger.Database
