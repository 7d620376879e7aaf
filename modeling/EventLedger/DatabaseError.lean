/-!
# Failures of the database

What can go wrong between a statement and its answer, with the text that is shown for it. A
refusal by the database names the constraint that was violated, if it was one.
-/
namespace EventLedger

/-- The kind of a refusal by the database. -/
inductive Violation where
  /-- A value occurs twice that may occur once. -/
  | unique
  /-- A row refers to one that does not exist. -/
  | foreignKey
  /-- A value is missing. -/
  | notNull
  /-- A condition on a row does not hold. -/
  | check
  /-- No constraint is violated, or none of these. -/
  | other
  deriving DecidableEq, Repr

/-- The kind that a code of five characters stands for. -/
def Violation.ofCode (code : String) : Violation :=
  if code = "23505" then .unique
  else if code = "23503" then .foreignKey
  else if code = "23502" then .notNull
  else if code = "23514" then .check
  else .other

/-- A failure between a statement and its answer. -/
inductive DatabaseError where
  /-- The pool of connections has been closed. -/
  | poolClosed
  /-- No connection became free in time. -/
  | poolTimedOut
  /-- The task behind a connection has died. -/
  | workerCrashed
  /-- A row was expected and none came. -/
  | rowNotFound
  /-- A transaction did not begin. -/
  | beginFailed
  /-- The connection failed. -/
  | io (detail : String)
  /-- An encrypted connection failed. -/
  | tls (detail : String)
  /-- The database sent something that makes no sense. -/
  | protocol (detail : String)
  /-- The address of the database makes no sense. -/
  | configuration (detail : String)
  /-- The database refused the statement. -/
  | refused (violation : Violation) (detail : String)
  deriving DecidableEq, Repr

/-- What is shown of the failure. -/
def DatabaseError.message : DatabaseError → String
  | .poolClosed => "attempted to acquire a connection on a closed pool"
  | .poolTimedOut => "pool timed out while waiting for an open connection"
  | .workerCrashed => "attempted to communicate with a crashed background worker"
  | .rowNotFound => "no rows returned by a query that expected to return at least one row"
  | .beginFailed => "got unexpected connection status after attempting to begin transaction"
  | .io detail => "error communicating with database: " ++ detail
  | .tls detail => "error occurred while attempting to establish a TLS connection: " ++ detail
  | .protocol detail => "encountered unexpected or invalid data: " ++ detail
  | .configuration detail => "error with configuration: " ++ detail
  | .refused _ detail => "error returned from database: " ++ detail

end EventLedger
