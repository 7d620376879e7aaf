/-!
# Log records

What the service says about its work: a message with named fields under a level, from one of its
components, and the span of work in which it was said.
-/
namespace EventLedger.Log

/-- How much a record matters. -/
inductive Level where
  /-- Something failed. -/
  | error
  /-- Something went wrong that does not stop the work. -/
  | warn
  /-- A step of the work. -/
  | info
  /-- A detail. -/
  | debug
  /-- A smaller detail. -/
  | trace
  deriving DecidableEq, Repr

/-- The levels from the one that matters most. -/
def Level.rank : Level → Nat
  | .error => 1
  | .warn => 2
  | .info => 3
  | .debug => 4
  | .trace => 5

/-- The word for a level. -/
def Level.text : Level → String
  | .error => "ERROR"
  | .warn => "WARN"
  | .info => "INFO"
  | .debug => "DEBUG"
  | .trace => "TRACE"

/-- Names with texts. -/
abbrev Fields := List (String × String)

/-- A span of work. -/
structure Span where
  /-- Its name. -/
  name : String
  /-- The component that does the work. -/
  target : String
  /-- What is known of it from its beginning. -/
  fields : Fields
  deriving DecidableEq, Repr

/-- Something that is said. -/
structure Record where
  /-- How much it matters. -/
  level : Level
  /-- The component that says it. -/
  target : String
  /-- What is said. -/
  message : String
  /-- Details. -/
  fields : Fields
  /-- The work during which it is said. -/
  span : Option Span
  deriving DecidableEq, Repr

/-- The text of a field of a record. -/
def Record.field? (record : Record) (name : String) : Option String := record.fields.lookup name

/-- The text of a truth value in a field. -/
def boolText (value : Bool) : String := if value then "true" else "false"

end EventLedger.Log
