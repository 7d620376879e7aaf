import EventLedger.Database.Pool

/-!
# Access of a store

What a store meets when it is asked to store an event: the pool may be closed, no connection may
come or reaching the database may fail, and otherwise the database replies as it does. The store's
answer takes some time.
-/
namespace EventLedger.Database

/-- What a store meets when it needs the database. -/
inductive Meeting where
  /-- A pool, and what the database replies on one of its connections. -/
  | pool (isClosed : Bool) (replies : List Reply)
  /-- No connection can be had; no statement is sent, and so none is refused for its user. -/
  | failed (error : DatabaseError) (early : ∀ detail, error ≠ .refused .foreignKey detail)
  /-- No connection comes. -/
  | waiting

/-- What a store meets, and when it answers. -/
structure Access where
  /-- What it meets. -/
  meeting : Meeting
  /-- The milliseconds until its answer, if it answers. -/
  delay : Nat
  /-- Whether a stop is asked for as soon as it is asked. -/
  stops : Bool

/-- How a store that meets something responds, apart from time. -/
def Meeting.response (meeting : Meeting) (event : Event) : Consumer.StoreResponse :=
  match meeting with
  | .pool isClosed replies => (Pool.store { isClosed } scripted replies event).1
  | .failed error _ => Pool.answerTo event [] (.failed error)
  | .waiting => Pool.answerTo event [] .unanswered

/-- How a store responds. -/
def Access.response (access : Access) (event : Event) : Consumer.StoreResponse :=
  let response := access.meeting.response event
  { response with
    stops := access.stops
    delay := response.delay.map fun _ => access.delay }

end EventLedger.Database
