import EventLedger.Event

/-!
# Tables

What the database holds of the events: a row for each stored event, and the totals of the days of
its users. Every row carries the number of the call that wrote it, which nobody reads but who wants
to know where a row comes from. A sum of tokens that leaves the signed words of 64 bits cannot be
written.
-/
namespace EventLedger

/-- The sum of two counts, if it is a count. -/
def TokenCount.plus? (first second : TokenCount) : Option TokenCount :=
  if fits : first.value + second.value < Word.signWeight then some ⟨_, fits⟩ else none

namespace Database

/-- A day of the calendar, by its number. -/
abbrev Day := Nat

/-- The tokens of a user's day. -/
structure DayTotals where
  /-- The tokens read. -/
  inputTokens : TokenCount
  /-- The tokens written. -/
  outputTokens : TokenCount
  deriving DecidableEq, Repr

/-- The totals of a day with one more event, if they are counts; the first event of a day gives
its own. -/
def DayTotals.plus? (totals? : Option DayTotals) (event : UsageEvent) : Option DayTotals :=
  match totals? with
  | none => some { inputTokens := event.inputTokens, outputTokens := event.outputTokens }
  | some totals =>
    match totals.inputTokens.plus? event.inputTokens,
      totals.outputTokens.plus? event.outputTokens with
    | some inputTokens, some outputTokens => some { inputTokens, outputTokens }
    | _, _ => none

/-- The row of a usage event. -/
structure UsageRow where
  /-- The call that wrote it. -/
  call : Nat
  /-- The event. -/
  event : UsageEvent
  /-- The day on which it was written. -/
  day : Day

/-- The row of an audit event. -/
structure AuditRow where
  /-- The call that wrote it. -/
  call : Nat
  /-- The event. -/
  event : AuditEvent

/-- What the database holds. -/
structure Tables where
  /-- The rows of usage events, in the order in which they came. -/
  usage : List UsageRow
  /-- The totals of each user's days. -/
  daily : Uuid → Day → Option DayTotals
  /-- The rows of audit events, in the order in which they came. -/
  audit : List AuditRow

/-- A change of the tables. -/
inductive Change where
  /-- A row of a usage event. -/
  | usageRow (row : UsageRow)
  /-- The tokens of an event are added to the totals of its user's day. -/
  | addition (day : Day) (event : UsageEvent)
  /-- A row of an audit event. -/
  | auditRow (row : AuditRow)

namespace Tables

/-- Tables that hold nothing. -/
def empty : Tables := { usage := [], daily := fun _ _ => none, audit := [] }

/-- The tables with other totals of a user's day. -/
def withTotals (tables : Tables) (user : Uuid) (day : Day) (totals : DayTotals) : Tables :=
  { tables with
    daily := fun otherUser otherDay =>
      if otherUser = user ∧ otherDay = day then some totals
      else tables.daily otherUser otherDay }

/-- The tables after a change, if it can be made. -/
def change? (tables : Tables) : Change → Option Tables
  | .usageRow row => some { tables with usage := tables.usage ++ [row] }
  | .addition day event =>
    match DayTotals.plus? (tables.daily event.userId day) event with
    | some totals => some (tables.withTotals event.userId day totals)
    | none => none
  | .auditRow row => some { tables with audit := tables.audit ++ [row] }

/-- The tables after changes, if all of them can be made one after another. -/
def changeAll? (tables : Tables) : List Change → Option Tables
  | [] => some tables
  | change :: rest =>
    match tables.change? change with
    | some changed => changed.changeAll? rest
    | none => none

end Tables

end Database

end EventLedger
