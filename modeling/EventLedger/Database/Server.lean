import EventLedger.Database.Pool
import EventLedger.Database.Tables

/-!
# Servers

The database as a server that holds the tables and has a connection for each call of a store. The
pool hands out a new one, or one that an earlier call has given back, in which nothing is left of
that call: what had not been committed has been undone. A statement that reaches the server waits
until the server takes it up; it is done or refused, and the reply is on its way until the caller
hears it. The changes of a transaction are made together when it is committed and not at all
otherwise, and its day is the day on which it began. Either side may lose the connection at any
time, and a caller may give up at any time.
-/
namespace EventLedger.Database

/-- A transaction that has begun. -/
structure Transaction where
  /-- The day on which it began. -/
  day : Day
  /-- The changes that it will make, in order. -/
  changes : List Change
  /-- Whether a statement was refused, so that nothing will be changed. -/
  isBroken : Bool

/-- The changes that a statement of a call makes on a day. -/
def Statement.changes (call : Nat) (day : Day) : Statement → List Change
  | .insertUsage event => [.usageRow { call, event, day }]
  | .addToDay event => [.addition day event]
  | .insertAudit event => [.auditRow { call, event }]
  | .begin | .commit | .rollback | .ping => []

/-- Do a statement of a call, if it can be done: the tables and the transaction afterwards. A
statement on its own changes the tables at once; in a transaction it must be possible to change
them, which is then done by the commit. -/
def Tables.execute? (tables : Tables) (today : Day) (call : Nat)
    (transaction : Option Transaction) (statement : Statement) :
    Option (Tables × Option Transaction) :=
  match statement, transaction with
  | .begin, none => some (tables, some { day := today, changes := [], isBroken := false })
  | .commit, none | .rollback, _ => some (tables, none)
  | .commit, some begun =>
    if begun.isBroken then some (tables, none)
    else
      match tables.changeAll? begun.changes with
      | some changed => some (changed, none)
      | none => none
  | single, none =>
    match tables.changeAll? (single.changes call today) with
    | some changed => some (changed, none)
    | none => none
  | further, some begun =>
    if begun.isBroken then none
    else
      let changes := begun.changes ++ further.changes call begun.day
      match tables.changeAll? changes with
      | some _ => some (tables, some { begun with changes })
      | none => none

/-- The server's end of a connection. -/
structure Connection where
  /-- The statement that has arrived and is not taken up. -/
  asked : Option Statement
  /-- The reply on its way to the caller. -/
  reply : Option Reply
  /-- The transaction that has begun. -/
  transaction : Option Transaction
  /-- Whether the server still has the connection. -/
  isOpen : Bool

namespace Connection

/-- A new connection. -/
def fresh : Connection := { asked := none, reply := none, transaction := none, isOpen := true }

/-- A statement arrives. -/
def ask (connection : Connection) (statement : Statement) : Connection :=
  { connection with asked := some statement }

/-- The statement is done. -/
def done (connection : Connection) (transaction : Option Transaction) : Connection :=
  { connection with asked := none, reply := some .done, transaction }

/-- The statement is refused. A transaction that cannot be committed is over; any other one is
broken. -/
def refuse (connection : Connection) (statement : Statement) (violation : Violation)
    (detail : String) : Connection :=
  { connection with
    asked := none
    reply := some (.refused violation detail)
    transaction := match statement with
      | .commit => none
      | _ => connection.transaction.map fun begun => { begun with isBroken := true } }

/-- The server loses the connection, and what has not been committed is gone. -/
def abort (connection : Connection) : Connection :=
  { connection with transaction := none, isOpen := false }

/-- Whether the pool can have the connection back: the server has it, and has taken up what it was
asked. -/
def isReady (connection : Connection) : Bool := connection.isOpen && connection.asked.isNone

/-- The connection as the pool hands it out again. A reply that nobody has heard is thrown away, and
a transaction that has been left open is rolled back. -/
def release (connection : Connection) : Connection :=
  { connection with reply := none, transaction := none }

end Connection

/-- A call of a store for an event. -/
structure Call where
  /-- The event. -/
  event : Event
  /-- What the caller has said and heard, in order. -/
  said : List Utterance
  /-- Whether the caller has given up. -/
  hasGivenUp : Bool
  /-- The server's end of the call's connection. -/
  connection : Connection

namespace Call

/-- A call that has just begun, with a connection. -/
def fresh (event : Event) (connection : Connection) : Call :=
  { event, said := [], hasGivenUp := false, connection }

/-- The conversation of a call that hears no more than some replies after those it has heard. -/
def exchange (call : Call) (more : List Reply) : Exchange (List Reply) :=
  storeEvent scripted (call.said.filterMap Utterance.reply? ++ more) call.event

/-- What the caller says or hears next, if some more replies come. -/
def next? (call : Call) (more : List Reply) : Option Utterance :=
  if call.hasGivenUp then none else (call.exchange more).said[call.said.length]?

/-- The store's answer, if all has been said. -/
def answer? (call : Call) : Option (Except StoreError Unit) :=
  let exchange := call.exchange []
  match exchange.last with
  | .silent => none
  | last =>
    if call.said.length = exchange.said.length then
      some (Pool.answerTo call.event exchange.said last.ending).answer
    else none

/-- Whether the caller has its answer or has given up. -/
def isOver (call : Call) : Bool := call.hasGivenUp || call.answer?.isSome

/-- The caller says or hears something. -/
def say (call : Call) (utterance : Utterance) : Call :=
  { call with said := call.said ++ [utterance] }

/-- The caller sends a statement. -/
def send (call : Call) (statement : Statement) : Call :=
  { call.say (.sent statement) with connection := call.connection.ask statement }

/-- The caller hears the reply that was on its way. -/
def hear (call : Call) (reply : Reply) : Call :=
  { call.say (.replied reply) with connection := { call.connection with reply := none } }

/-- The caller loses the connection. -/
def lose (call : Call) : Call := call.say (.replied .lost)

end Call

/-- A server and the calls of its stores. -/
structure Server where
  /-- What the database holds. -/
  tables : Tables
  /-- The current day. -/
  today : Day
  /-- The calls, in the order in which they began. -/
  calls : List Call

/-- What a server does. -/
inductive ServerMove where
  /-- The current day is another one. -/
  | date (day : Day)
  /-- It takes up the statement of a call. -/
  | serve (call : Nat)
  /-- It refuses the statement of a call. -/
  | refuse (call : Nat) (violation : Violation) (detail : String)
  /-- It loses the connection of a call. -/
  | abort (call : Nat)

namespace Server

/-- A server that holds nothing. -/
def empty : Server := { tables := .empty, today := 0, calls := [] }

/-- A change of one call. -/
def onCall (server : Server) (place : Nat) (change : Call → Call) : Server :=
  { server with calls := server.calls.modify place change }

/-- A change of the server's end of a call's connection. -/
def onConnection (server : Server) (place : Nat) (change : Connection → Connection) : Server :=
  server.onCall place fun call => { call with connection := change call.connection }

/-- The connection that a call has given back and that is ready to be handed out again. -/
def released? (server : Server) (place : Nat) : Option Connection :=
  match server.calls[place]? with
  | some call =>
    if call.isOver && call.connection.isReady then some call.connection.release else none
  | none => none

/-- A call begins with a connection. -/
def beginWith (server : Server) (event : Event) (connection : Connection) : Server :=
  { server with calls := server.calls ++ [.fresh event connection] }

/-- A call begins. The pool hands out the connection of an earlier call, which has it no longer, or
a new one. -/
def begin (server : Server) (event : Event) (reused : Option Nat) : Server :=
  match reused with
  | none => server.beginWith event .fresh
  | some place =>
    match server.released? place with
    | none => server.beginWith event .fresh
    | some connection => (server.onConnection place (·.abort)).beginWith event connection

/-- What is wrong with a statement that cannot be done. -/
def impossible : String := "bigint out of range"

/-- The statement of a call that the server may take up. -/
def pending? (server : Server) (place : Nat) : Option (Connection × Statement) :=
  match server.calls[place]? with
  | some call =>
    if call.connection.isOpen then call.connection.asked.map (call.connection, ·) else none
  | none => none

/-- The server does something. -/
def move (server : Server) : ServerMove → Server
  | .date day => { server with today := day }
  | .serve place =>
    match server.pending? place with
    | some (connection, statement) =>
      match server.tables.execute? server.today place connection.transaction statement with
      | some (tables, transaction) =>
        { server with tables }.onConnection place (·.done transaction)
      | none => server.onConnection place (·.refuse statement .other impossible)
    | none => server
  | .refuse place violation detail =>
    match server.pending? place with
    | some (_, statement) => server.onConnection place (·.refuse statement violation detail)
    | none => server
  | .abort place => server.onConnection place (·.abort)

end Server

/-- What happens between stores and a server. -/
inductive StoreMove where
  /-- The server does something. -/
  | server (move : ServerMove)
  /-- A store is called for an event, and may get the connection of an earlier call. -/
  | call (event : Event) (reused : Option Nat)
  /-- A caller sends its next statement. -/
  | proceed (call : Nat)
  /-- A caller hears a reply. -/
  | hear (call : Nat)
  /-- A caller loses its connection while it waits for a reply. -/
  | lose (call : Nat)
  /-- A caller gives up, as its time is over. -/
  | giveUp (call : Nat)

namespace Call

/-- The caller sends its next statement, if there is one. -/
def proceed (call : Call) : Call :=
  match call.next? [] with
  | some (.sent statement) => call.send statement
  | _ => call

/-- The caller hears a reply, if one is on its way and it waits for one. -/
def tryHear (call : Call) : Call :=
  match call.connection.reply with
  | some reply =>
    match call.next? [reply] with
    | some (.replied _) => call.hear reply
    | _ => call
  | none => call

/-- The caller loses the connection, if it waits for a reply. -/
def tryLose (call : Call) : Call :=
  match call.next? [.lost] with
  | some (.replied _) => call.lose
  | _ => call

end Call

namespace Server

/-- Something happens between stores and the server. -/
def step (server : Server) : StoreMove → Server
  | .server move => server.move move
  | .call event reused => server.begin event reused
  | .proceed place => server.onCall place Call.proceed
  | .hear place => server.onCall place Call.tryHear
  | .lose place => server.onCall place Call.tryLose
  | .giveUp place => server.onCall place fun call => { call with hasGivenUp := true }

/-- The server after many things have happened. -/
def run (moves : List StoreMove) : Server := moves.foldl step .empty

end Server

end EventLedger.Database
