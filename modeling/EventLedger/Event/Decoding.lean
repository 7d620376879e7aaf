import EventLedger.Event
import EventLedger.Event.ValidationError
import EventLedger.Json.Record

/-!
# Reading events

A body is read as a record of its kind, whose checks come in a fixed order: the document, its
type, the ids, the numbers of tokens, and the field that must not be empty. The first check that
fails gives the error.
-/
namespace EventLedger

open Json (Bytes Record Schema)

/-- The record of a body, or the error of a document that cannot be read. -/
def readBody (schema : Schema) (body : Bytes) : Except ValidationError Record :=
  match Record.ofDocument schema body with
  | some record => .ok record
  | none => .error (.malformed "")

/-- Check the type that a record names; one without a type names the empty text. -/
def checkType (expected : String) (record : Record) : Except ValidationError Unit :=
  let actual := (record.text? "type").getD ""
  if actual = expected then .ok () else .error (.wrongType expected actual)

/-- The UUID that the text of a field spells. -/
def readId (field value : String) : Except ValidationError Uuid :=
  match Uuid.ofText? value with
  | some id => .ok id
  | none => .error (.badId field value)

/-- The text of a field that must not be empty. -/
def requiredText (field : String) (record : Record) : Except ValidationError String :=
  let text := (record.text? field).getD ""
  if text = "" then .error (.missingField field) else .ok text

namespace UsageEvent

/-- What a document of the kind says in its type. -/
def typeName : String := "usage_event"

/-- The fields of a document of the kind. -/
def schema : Schema :=
  [("type", .text), ("userId", .text), ("generationId", .text), ("inputTokens", .count),
    ("outputTokens", .count), ("model", .text)]

/-- The two counts, each zero if it is missing. -/
def readTokens (record : Record) : Except ValidationError (TokenCount × TokenCount) :=
  let input := (record.count? "inputTokens").getD 0
  let output := (record.count? "outputTokens").getD 0
  match TokenCount.ofInt? input, TokenCount.ofInt? output with
  | some input, some output => .ok (input, output)
  | _, _ => .error (.negativeTokens input output)

/-- The event of a record. -/
def ofRecord (record : Record) : Except ValidationError UsageEvent := do
  checkType typeName record
  let userId ← readId "userId" ((record.text? "userId").getD "")
  let generationId ← readId "generationId" ((record.text? "generationId").getD "")
  let (inputTokens, outputTokens) ← readTokens record
  let model ← requiredText "model" record
  return { userId, generationId, inputTokens, outputTokens, model }

/-- The event of a body. -/
def ofBody (body : Bytes) : Except ValidationError UsageEvent :=
  readBody schema body >>= ofRecord

end UsageEvent

namespace AuditEvent

/-- What a document of the kind says in its type. -/
def typeName : String := "audit_event"

/-- The fields of a document of the kind. -/
def schema : Schema :=
  [("type", .text), ("userId", .text), ("action", .text), ("metadata", .tree)]

/-- The user of a record, nobody if the field is missing. -/
def readUser (record : Record) : Except ValidationError (Option Uuid) :=
  match record.text? "userId" with
  | none => .ok none
  | some value => (readId "userId" value).map some

/-- Metadata that say nothing are the empty object. -/
def normalizeMetadata : Option Json.Value → Json.Value
  | none | some .null => .emptyObject
  | some (.text value) => if value = "" then .emptyObject else .text value
  | some value => value

/-- The event of a record. -/
def ofRecord (record : Record) : Except ValidationError AuditEvent := do
  checkType typeName record
  let userId ← readUser record
  let action ← requiredText "action" record
  return { userId, action, metadata := normalizeMetadata (record.tree? "metadata") }

/-- The event of a body. -/
def ofBody (body : Bytes) : Except ValidationError AuditEvent :=
  readBody schema body >>= ofRecord

end AuditEvent

/-- The event of a body from the queue of a kind. -/
def Event.ofBody (kind : EventKind) (body : Bytes) : Except ValidationError Event :=
  match kind with
  | .usage => (UsageEvent.ofBody body).map .usage
  | .audit => (AuditEvent.ofBody body).map .audit

end EventLedger
