import EventLedger.Database.Statement
import EventLedger.DatabaseError

/-!
# Conversations with the database

What a connection sends depends on what comes back: statements follow each other as long as each
one is answered with success. The changes of a usage event form a transaction, which is undone if
the database refuses a part of it; an audit event is one statement on its own.
-/
namespace EventLedger.Database

/-- What comes back for a statement. -/
inductive Reply where
  /-- The statement is done. -/
  | done
  /-- The database refuses the statement; the connection stays. -/
  | refused (violation : Violation) (detail : String)
  /-- The connection is lost. -/
  | lost
  /-- Nothing ever comes back. -/
  | silent
  deriving DecidableEq, Repr

/-- A database with states `σ`: what it replies to a statement, and its state afterwards. -/
abbrev Peer (σ : Type) := σ → Statement → Reply × σ

/-- How a conversation ends. -/
inductive Ending where
  /-- Every statement was done. -/
  | done
  /-- A statement failed. -/
  | failed (error : DatabaseError)
  /-- A statement got no reply. -/
  | unanswered
  deriving DecidableEq, Repr

/-- How a conversation ends whose last reply is given. -/
def Reply.ending : Reply → Ending
  | .done => .done
  | .refused violation detail => .failed (.refused violation detail)
  | .lost => .failed (.io "connection lost")
  | .silent => .unanswered

/-- Whether the connection can be used after a reply. -/
def Reply.keepsConnection : Reply → Bool
  | .done | .refused _ _ => true
  | .lost | .silent => false

/-- Something that is said in a conversation. -/
inductive Utterance where
  /-- A statement is sent. -/
  | sent (statement : Statement)
  /-- The reply to the last statement comes back. -/
  | replied (reply : Reply)
  deriving Repr

/-- The statement that is sent, if it is one. -/
def Utterance.statement? : Utterance → Option Statement
  | .sent statement => some statement
  | .replied _ => none

/-- The reply that comes back, if it is one. -/
def Utterance.reply? : Utterance → Option Reply
  | .sent _ => none
  | .replied reply => some reply

/-- What is heard of a reply; silence is not heard. -/
def Reply.heard : Reply → List Utterance
  | .silent => []
  | reply => [.replied reply]

/-- What was said in a conversation. -/
structure Exchange (σ : Type) where
  /-- What was said, in order. -/
  said : List Utterance
  /-- The last reply. -/
  last : Reply
  /-- The database afterwards. -/
  database : σ

variable {σ : Type}

/-- The statements that were sent, in order. -/
def Exchange.sent (exchange : Exchange σ) : List Statement :=
  exchange.said.filterMap Utterance.statement?

/-- Send statements one after another as long as they are done. What was begun, here or before, is
undone if the database refuses a statement; it cannot be undone on a connection that is of no use
any more. Nobody waits for the reply to that. -/
def converse (peer : Peer σ) : (begun : Bool) → (database : σ) → List Statement → Exchange σ
  | _, database, [] => { said := [], last := .done, database }
  | begun, database, statement :: rest =>
    match peer database statement with
    | (.done, later) =>
      let exchange := converse peer (begun || statement.kind = .begin) later rest
      { exchange with said := .sent statement :: .replied .done :: exchange.said }
    | (reply, later) =>
      let exchange : Exchange σ :=
        { said := .sent statement :: reply.heard, last := reply, database := later }
      if begun && reply.keepsConnection then
        { exchange with
          said := exchange.said ++ [.sent .rollback], database := (peer later .rollback).2 }
      else exchange

/-- The statements that store an event. A usage event is stored by a transaction. -/
def statementsFor : Event → List Statement
  | .usage event => [.begin, .insertUsage event, .addToDay event, .commit]
  | .audit event => [.insertAudit event]

/-- Store an event. -/
def storeEvent (peer : Peer σ) (database : σ) (event : Event) : Exchange σ :=
  converse peer false database (statementsFor event)

/-- A database that gives the replies of a list, and none afterwards. -/
def scripted : Peer (List Reply) := fun replies _ =>
  match replies with
  | [] => (.silent, [])
  | reply :: rest => (reply, rest)

/-- Ask the database for an answer. -/
def ping (peer : Peer σ) (database : σ) : Exchange σ := converse peer false database [.ping]

end EventLedger.Database
