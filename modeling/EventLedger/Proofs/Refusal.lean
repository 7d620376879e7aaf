import EventLedger.Proofs.AuditFormat
import EventLedger.Proofs.UsageFormat

/-!
# Why bodies are refused

A body of either kind is refused as malformed exactly if no record is read from it,
`isMalformed_iff`, and what becomes of it is decided by the record alone, `ofBody_congr`. So
statements about bodies come down to statements about the documents of the two kinds.
-/
namespace EventLedger

open Json (Bytes Record Schema)
open Json.Grammar (Document)

/-- The fields of the documents of a kind, in their order. -/
def EventKind.layout : EventKind → Schema
  | .usage => UsageEvent.layout
  | .audit => AuditEvent.layout

/-- No two fields of an event of any kind have the same name. -/
theorem EventKind.layout_distinct (kind : EventKind) : kind.layout.Distinct := by
  cases kind with
  | usage => exact UsageEvent.layout_distinct
  | audit => exact AuditEvent.layout_distinct

/-- What a document that says something is refused for is no fault of its form. -/
theorem not_states_of_decode {Content Event : Type} {Acceptable : Content → Prop}
    {CarriedBy : Content → Event → Prop} {FirstFault : Content → ValidationError → Prop}
    {States : Content → Prop} {result : Except ValidationError Event} {error : ValidationError}
    (named : ∀ {content error}, FirstFault content error → error.reason ≠ "decode")
    (judged : (∃ content, (∀ other, States other ↔ other = content) ∧
        Judges Acceptable CarriedBy FirstFault result content) ∨
      result = .error (.malformed "") ∧ ∀ content, ¬States content)
    (refused : result = .error error) (reason : error.reason = "decode") (content : Content) :
    ¬States content := by
  obtain ⟨_, _, ⟨event, accepted, _⟩ | ⟨fault, found, first⟩⟩ | ⟨_, nothing⟩ := judged
  · rw [refused] at accepted
    cases accepted
  · rw [refused] at found
    have same : error = fault := Except.error.inj found
    exact absurd reason (same ▸ named first)
  · exact nothing content

/-- The first fault of a usage event is not that it is no document. -/
theorem UsageEvent.Content.FirstFault.reason_ne {content : UsageEvent.Content}
    {error : ValidationError} (fault : content.FirstFault error) : error.reason ≠ "decode" := by
  cases fault <;> simp [ValidationError.reason]

/-- Neither is that of an audit event. -/
theorem AuditEvent.Content.FirstFault.reason_ne {content : AuditEvent.Content}
    {error : ValidationError} (fault : content.FirstFault error) : error.reason ≠ "decode" := by
  cases fault <;> simp [ValidationError.reason]

namespace Event

/-- A body from the queue of a kind is refused for a reason. -/
def RefusedFor (kind : EventKind) (body : Bytes) (reason : String) : Prop :=
  ∃ error, Event.ofBody kind body = .error error ∧ error.reason = reason

/-- A body from the queue of a kind is refused because it cannot be decoded. -/
abbrev IsMalformed (kind : EventKind) (body : Bytes) : Prop := RefusedFor kind body "decode"

/-- What the checks of a kind make of a record. -/
def ofRecord (kind : EventKind) (record : Record) : Except ValidationError Event :=
  match kind with
  | .usage => (UsageEvent.ofRecord record).map .usage
  | .audit => (AuditEvent.ofRecord record).map .audit

variable {kind : EventKind} {body other : Bytes} {record : Record}

/-- A body of either kind is read as a record, which is checked. -/
theorem ofBody_eq (kind : EventKind) (body : Bytes) :
    Event.ofBody kind body = readBody kind.layout body >>= ofRecord kind := by
  cases kind with
  | usage =>
    show (readBody UsageEvent.schema body >>= UsageEvent.ofRecord).map Event.usage = _
    rw [show EventKind.usage.layout = UsageEvent.schema from rfl]
    cases readBody UsageEvent.schema body <;> rfl
  | audit =>
    show (readBody AuditEvent.schema body >>= AuditEvent.ofRecord).map Event.audit = _
    rw [show EventKind.audit.layout = AuditEvent.schema from rfl]
    cases readBody AuditEvent.schema body <;> rfl

/-- A body that is a document is judged by its record. -/
theorem ofBody_of_some (read : Record.ofDocument kind.layout body = some record) :
    Event.ofBody kind body = ofRecord kind record := by
  rw [ofBody_eq, readBody, read]
  rfl

/-- A body that is none is malformed. -/
theorem ofBody_of_none (read : Record.ofDocument kind.layout body = none) :
    Event.ofBody kind body = .error (.malformed "") := by
  rw [ofBody_eq, readBody, read]
  rfl

/-- The record that is read from a body decides what becomes of it. -/
theorem ofBody_congr
    (same : Record.ofDocument kind.layout body = Record.ofDocument kind.layout other) :
    Event.ofBody kind body = Event.ofBody kind other := by
  rw [ofBody_eq, ofBody_eq, readBody, readBody, same]

/-- A refusal is the same whatever the result is wrapped in. -/
theorem map_eq_error {α β : Type} {result : Except ValidationError α} {wrap : α → β}
    {error : ValidationError} (refused : result.map wrap = .error error) :
    result = .error error := by
  cases result with
  | error =>
    cases refused
    rfl
  | ok => cases refused

/-- A body is malformed exactly if no record is read from it. -/
theorem isMalformed_iff : IsMalformed kind body ↔ Record.ofDocument kind.layout body = none := by
  constructor
  · rintro ⟨error, refused, reason⟩
    rw [Option.eq_none_iff_forall_ne_some]
    intro record read
    cases kind with
    | usage =>
      have states := UsageEvent.states_iff.mpr ⟨record, read, rfl⟩
      exact not_states_of_decode UsageEvent.Content.FirstFault.reason_ne
        (UsageEvent.ofBody_cases body) (map_eq_error refused) reason _ states
    | audit =>
      have states := AuditEvent.states_iff.mpr ⟨record, read, rfl⟩
      exact not_states_of_decode AuditEvent.Content.FirstFault.reason_ne
        (AuditEvent.ofBody_cases body) (map_eq_error refused) reason _ states
  · exact fun read => ⟨_, ofBody_of_none read, rfl⟩

/-- A body that is not malformed is a document. -/
theorem exists_document (decodes : ¬IsMalformed kind body) :
    ∃ record, Document kind.layout body record := by
  rw [isMalformed_iff, ← Ne, Option.ne_none_iff_exists'] at decodes
  obtain ⟨record, read⟩ := decodes
  exact ⟨record.reverse, (Json.ofDocument_iff kind.layout_distinct).mp read⟩

/-- A body that is a document is read as its record. -/
theorem ofDocument_of_document (document : Document kind.layout body record) :
    Record.ofDocument kind.layout body = some record.reverse := by
  rw [Json.ofDocument_iff kind.layout_distinct, List.reverse_reverse]
  exact document

end Event

end EventLedger
