import EventLedger.Journal
import EventLedger.Log.Filter

/-!
# Lines of a log

What is written of a journal: a line for each record that is kept, and one for the end of each
span that is kept. A span that is not kept is not named in the lines of its records.
-/
namespace EventLedger.Log

/-- A line of a log. -/
structure Line where
  /-- How much it matters. -/
  level : Level
  /-- The component that says it. -/
  target : String
  /-- What is said. -/
  message : String
  /-- Details. -/
  fields : Fields
  /-- The work during which it is said. -/
  span : Option Span
  deriving DecidableEq, Repr

namespace Line

/-- The line of a record. -/
def ofRecord (filter : Filter) (record : Record) : Line where
  level := record.level
  target := record.target
  message := record.message
  fields := record.fields
  span := record.span.filter filter.keepsSpan

/-- The line of the end of a span. -/
def ofSpanEnd (span : Span) : Line where
  level := .info
  target := span.target
  message := "close"
  fields := []
  span := some span

/-- The line of an occurrence, if it has one. -/
def ofOccurrence? (filter : Filter) : Occurrence → Option Line
  | .logged record => if filter.keeps record then some (ofRecord filter record) else none
  | .spanClosed span => if filter.keepsSpan span then some (ofSpanEnd span) else none
  | _ => none

/-- The text of a field. -/
def field? (line : Line) (name : String) : Option String := line.fields.lookup name

end Line

/-- The lines of a journal. -/
def lines (filter : Filter) (journal : Journal) : List Line :=
  journal.filterMap fun entry => Line.ofOccurrence? filter entry.what

end EventLedger.Log
