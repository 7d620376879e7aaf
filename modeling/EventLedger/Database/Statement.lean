import EventLedger.Event

/-!
# Statements

What is sent to the database. A usage event is one row of its own and an addition to the totals of
its user's day, inside one transaction; an audit event is one row.
-/
namespace EventLedger.Database

/-- A statement. -/
inductive Statement where
  /-- Begin a transaction. -/
  | begin
  /-- Make the transaction's changes last. -/
  | commit
  /-- Undo the transaction's changes. -/
  | rollback
  /-- Ask for an answer. -/
  | ping
  /-- Add the row of a usage event. -/
  | insertUsage (event : UsageEvent)
  /-- Add the tokens of a usage event to the totals of its user's day. -/
  | addToDay (event : UsageEvent)
  /-- Add the row of an audit event. -/
  | insertAudit (event : AuditEvent)
  deriving Repr

/-- The kinds of statement. -/
inductive StatementKind where
  /-- The begin of a transaction. -/
  | begin
  /-- The end of a transaction whose changes last. -/
  | commit
  /-- The end of a transaction whose changes are undone. -/
  | rollback
  /-- A question for an answer. -/
  | ping
  /-- The row of a usage event. -/
  | insertUsage
  /-- The totals of a day. -/
  | addToDay
  /-- The row of an audit event. -/
  | insertAudit
  deriving DecidableEq, Repr

/-- A value bound to a statement. -/
inductive Parameter where
  /-- No value. -/
  | null
  /-- A UUID. -/
  | uuid (value : Uuid)
  /-- A whole number. -/
  | count (value : TokenCount)
  /-- A text. -/
  | text (value : String)
  /-- A document. -/
  | document (value : Json.Value)
  deriving Repr

namespace Statement

/-- The kind of a statement. -/
def kind : Statement → StatementKind
  | .begin => .begin
  | .commit => .commit
  | .rollback => .rollback
  | .ping => .ping
  | .insertUsage _ => .insertUsage
  | .addToDay _ => .addToDay
  | .insertAudit _ => .insertAudit

/-- The statement in SQL, with single blanks. -/
def sql : Statement → String
  | .begin => "BEGIN"
  | .commit => "COMMIT"
  | .rollback => "ROLLBACK"
  | .ping => "SELECT 1"
  | .insertUsage _ =>
    "INSERT INTO usage_events (user_id, generation_id, input_tokens, output_tokens, model) " ++
      "VALUES ($1, $2, $3, $4, $5)"
  | .addToDay _ =>
    "INSERT INTO daily_usage (user_id, day, input_tokens, output_tokens) " ++
      "VALUES ($1, CURRENT_DATE, $2, $3) ON CONFLICT (user_id, day) DO UPDATE SET " ++
      "input_tokens = daily_usage.input_tokens + EXCLUDED.input_tokens, " ++
      "output_tokens = daily_usage.output_tokens + EXCLUDED.output_tokens"
  | .insertAudit _ => "INSERT INTO audit_logs (user_id, action, metadata_json) VALUES ($1, $2, $3)"

/-- The values bound to the statement, in order. -/
def parameters : Statement → List Parameter
  | .insertUsage event =>
    [.uuid event.userId, .uuid event.generationId, .count event.inputTokens,
      .count event.outputTokens, .text event.model]
  | .addToDay event => [.uuid event.userId, .count event.inputTokens, .count event.outputTokens]
  | .insertAudit event =>
    [match event.userId with
      | none => .null
      | some id => .uuid id,
      .text event.action, .document event.metadata]
  | _ => []

end Statement

end EventLedger.Database
