import EventLedger.Database.Pool

/-!
# Attempts within a limit of time

An attempt to store an event is dropped when its time is over, wherever it stands: while it looks
for a connection, while a statement is on its way, or while it waits for the reply. A reply that
comes at the limit is in time. What a dropped attempt had begun is undone if its connection can
still be used for that.
-/
namespace EventLedger.Database

/-- What looking for a connection comes to. -/
inductive Search where
  /-- One is found after some milliseconds. -/
  | found (delay : Nat)
  /-- After some milliseconds it turns out that none can be had. -/
  | failed (delay : Nat) (error : DatabaseError)
  /-- It never ends. -/
  | endless

/-- A connection to a database with states `σ`. -/
structure Line (σ : Type) where
  /-- What the database replies. -/
  peer : Peer σ
  /-- The milliseconds until a statement reaches the database. -/
  way : σ → Statement → Nat
  /-- The milliseconds from then on until the reply is heard. -/
  pace : σ → Statement → Nat
  /-- Whether what a dropped attempt had begun can be undone. -/
  undoes : σ → Bool

/-- What became of an attempt. -/
structure Attempt (σ : Type) where
  /-- What was said, in order. -/
  said : List Utterance
  /-- How it ended; one that was dropped got no reply. -/
  ending : Ending
  /-- The database afterwards. -/
  database : σ

variable {σ : Type}

/-- What was said, and maybe that what was begun shall be undone. -/
def Line.leave (line : Line σ) (undoes : Bool) (said : List Utterance) (ending : Ending)
    (database : σ) : Attempt σ :=
  if undoes then
    { said := said ++ [.sent .rollback], ending, database := (line.peer database .rollback).2 }
  else { said, ending, database }

/-- Send statements one after another as long as they are done and some milliseconds are left. -/
def converseWithin (line : Line σ) :
    (begun : Bool) → (left : Nat) → (database : σ) → List Statement → Attempt σ
  | _, _, database, [] => { said := [], ending := .done, database }
  | begun, left, database, statement :: rest =>
    let begins := begun || statement.kind = .begin
    let way := line.way database statement
    let elapsed := way + line.pace database statement
    if left < way then line.leave (begun && line.undoes database) [] .unanswered database
    else
      let (reply, later) := line.peer database statement
      if reply = .silent || left < elapsed then
        line.leave (begins && line.undoes later) [.sent statement] .unanswered later
      else if reply = .done then
        let attempt := converseWithin line begins (left - elapsed) later rest
        { attempt with said := .sent statement :: .replied .done :: attempt.said }
      else
        line.leave (begun && reply.keepsConnection) [.sent statement, .replied reply] reply.ending
          later

/-- Try to store an event within a limit of milliseconds. -/
def Pool.attempt (pool : Pool) (search : Search) (line : Line σ) (database : σ) (limit : Nat)
    (event : Event) : Attempt σ :=
  let without (ending : Ending) : Attempt σ := { said := [], ending, database }
  if pool.isClosed then without (.failed .poolClosed)
  else
    match search with
    | .found delay =>
      if limit < delay then without .unanswered
      else converseWithin line false (limit - delay) database (statementsFor event)
    | .failed delay error => without (if limit < delay then .unanswered else .failed error)
    | .endless => without .unanswered

namespace Attempt

/-- The statements that were sent, in order. -/
def sent (attempt : Attempt σ) : List Statement := attempt.said.filterMap Utterance.statement?

/-- What the store answers, if it answers in time. -/
def answer? (attempt : Attempt σ) (event : Event) : Option (Except StoreError Unit) :=
  match attempt.ending with
  | .unanswered => none
  | ending => some (Pool.answerTo event attempt.said ending).answer

end Attempt

/-- A connection on which everything takes no time. -/
def Line.instant (peer : Peer σ) : Line σ where
  peer
  way _ _ := 0
  pace _ _ := 0
  undoes _ := false

end EventLedger.Database
