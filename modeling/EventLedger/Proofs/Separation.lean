import EventLedger.Consumer.Processing
import EventLedger.Proofs.Json.Extent
import EventLedger.Proofs.Refusal

/-!
# Bodies in the wrong queue

The layouts of both kinds begin with the type, and whatever else they have, they read it alike,
`text?_type_eq`: in an object the fields that only one of them knows are skipped by the other one,
and in an array the type stands first. So a body that is an event of one kind names a type that the
other kind refuses, if it gets that far: `ofBody_separates`.
-/
namespace EventLedger

open Json (Bytes Record Schema)

namespace Json

open Grammar

variable {name : String} {kind : FieldKind} {schema : Schema} {bytes : Bytes} {record : Record}

/-- Values by position are entries of an array. -/
theorem loose_of_positions (positions : Positions schema bytes record) :
    Loose (.entries .array) bytes := by
  induction positions with
  | last value spaced => exact .last (.item (loose_of_fieldValue value) spaced)
  | more value spaced _ ih => exact .more (.item (loose_of_fieldValue value) spaced) ih

/-- A value with blanks around it is read whatever comes after it. -/
theorem readField_spaced {core after : Bytes} {field : Field} (value : FieldValue kind core field)
    (spaced : Spaced core bytes) (ends : Ends after) :
    ∃ rest, readField kind (bytes ++ after) = some (field, rest) := by
  obtain ⟨before, between, left, right, rfl⟩ := spaced
  have read := readField_append value left (ends.blanks_append right)
  have whole : before ++ core ++ between ++ after = before ++ (core ++ (between ++ after)) := by
    simp
  exact ⟨between ++ after, by rw [whole, read]⟩

/-- The first value by position is read from the front of an array. -/
theorem exists_first (positions : Positions ((name, kind) :: schema) bytes record) :
    ∃ field others rest, record = (name, field) :: others ∧
      readField kind (bytes ++ [byte ']']) = some (field, rest) := by
  cases positions with
  | @last _ _ _ _ _ field value spaced =>
    obtain ⟨rest, read⟩ := readField_spaced value spaced (ends_closer .array [])
    exact ⟨field, [], rest, rfl, read⟩
  | @more _ _ _ _ bytes others field record value spaced _ =>
    obtain ⟨rest, read⟩ := readField_spaced value spaced (ends_comma (others ++ [byte ']']))
    have whole : bytes ++ byte ',' :: others ++ [byte ']'] =
        bytes ++ byte ',' :: (others ++ [byte ']']) := by simp
    exact ⟨field, record, rest, rfl, by rw [whole, read]⟩

/-- What values by position give for the first field is read from the front of the array. -/
theorem mem_positions_iff (unique : Schema.Distinct ((name, kind) :: schema))
    (positions : Positions ((name, kind) :: schema) bytes record) {field : Field} :
    (name, field) ∈ record ↔
      (readField kind (bytes ++ [byte ']'])).map Prod.fst = some field := by
  obtain ⟨first, others, rest, rfl, read⟩ := exists_first positions
  have distinct : Distinct ((name, first) :: others) :=
    unique.sublist (names_of_positions positions).sublist
  rw [← lookup_eq_some_iff distinct, List.lookup_cons_self, read]
  rfl

/-- Two layouts that begin with one field read it alike, whatever other fields they have. -/
theorem mem_iff_of_documents {other : Schema} {body : Bytes} {record' : Record}
    (unique : Schema.Distinct ((name, kind) :: schema))
    (unique' : Schema.Distinct ((name, kind) :: other))
    (document : Document ((name, kind) :: schema) body record)
    (document' : Document ((name, kind) :: other) body record') (field : Field) :
    (name, field) ∈ record ↔ (name, field) ∈ record' := by
  obtain ⟨container, content, given, enclosed⟩ := document
  obtain ⟨_, _, given', enclosed'⟩ := document'
  obtain ⟨rfl, rfl⟩ := container_unique enclosed enclosed'
  cases container with
  | object =>
    -- Both records have the one field that a layout of nothing else reads.
    have alone : Schema.Distinct [(name, kind)] := List.nodup_singleton name
    have among (schema : Schema) : ∀ entry ∈ [(name, kind)], entry ∈ (name, kind) :: schema :=
      List.forall_mem_singleton.mpr List.mem_cons_self
    have restricted : Document [(name, kind)] body (restrict [(name, kind)] record) :=
      ⟨.object, content, object_restrict unique (among schema) given, enclosed⟩
    have restricted' : Document [(name, kind)] body (restrict [(name, kind)] record') :=
      ⟨.object, content, object_restrict unique' (among other) given', enclosed⟩
    have same := document_unique alone restricted restricted'
    have kept (record : Record) :
        (name, field) ∈ record ↔ (name, field) ∈ restrict [(name, kind)] record := by
      simp [mem_restrict]
    rw [kept record, same, ← kept record']
  | array =>
    have filled {schema : Schema} {record : Record} (positions : Positions schema content record) :
        ¬Blanks content := not_blanks_of_entries (loose_of_positions positions)
    cases given with
    | empty blank =>
      cases given' with
      | empty => rfl
      | array positions => exact absurd blank (filled positions)
    | array positions =>
      cases given' with
      | empty blank => exact absurd blank (filled positions)
      | array positions' =>
        rw [mem_positions_iff unique positions, mem_positions_iff unique' positions']

end Json

/-! ## The type of a body -/

/-- The type that the documents of a kind name. -/
def EventKind.typeName : EventKind → String
  | .usage => UsageEvent.typeName
  | .audit => AuditEvent.typeName

/-- No two kinds of event have the same type. -/
theorem EventKind.typeName_ne {kind other : EventKind} (differ : other ≠ kind) :
    kind.typeName ≠ other.typeName := by
  cases kind <;> cases other <;> first | exact absurd rfl differ | decide

/-- The layout of a kind begins with the type. -/
theorem EventKind.exists_layout (kind : EventKind) :
    ∃ schema, kind.layout = ("type", .text) :: schema := by
  cases kind <;> exact ⟨_, rfl⟩

namespace Event

variable {kind other : EventKind} {body : Bytes} {record record' : Record}

/-- Either kind finds the same type in a body. -/
theorem text?_type_eq (read : Record.ofDocument kind.layout body = some record)
    (read' : Record.ofDocument other.layout body = some record') :
    record.text? "type" = record'.text? "type" := by
  have unique := kind.layout_distinct
  have unique' := other.layout_distinct
  have document := (Json.ofDocument_iff unique).mp read
  have document' := (Json.ofDocument_iff unique').mp read'
  have distinct := Json.distinct_reverse.mp (Json.distinct_of_document unique document)
  have distinct' := Json.distinct_reverse.mp (Json.distinct_of_document unique' document')
  obtain ⟨schema, layout⟩ := kind.exists_layout
  obtain ⟨schema', layout'⟩ := other.exists_layout
  rw [layout] at unique document
  rw [layout'] at unique' document'
  apply Option.ext
  intro type
  have same := Json.mem_iff_of_documents unique unique' document document' (.text (some type))
  rw [List.mem_reverse, List.mem_reverse] at same
  rw [Json.text?_eq_some_iff distinct, Json.text?_eq_some_iff distinct', same]

/-- A record of another type is refused for it before anything else is looked at. -/
theorem ofRecord_of_type (differ : (record.text? "type").getD "" ≠ kind.typeName) :
    ofRecord kind record = .error (.wrongType kind.typeName ((record.text? "type").getD "")) := by
  cases kind with
  | usage =>
    have refused : checkType UsageEvent.typeName record = .error _ := if_neg differ
    rw [ofRecord, UsageEvent.ofRecord, refused]
    rfl
  | audit =>
    have refused : checkType AuditEvent.typeName record = .error _ := if_neg differ
    rw [ofRecord, AuditEvent.ofRecord, refused]
    rfl

/-- A body that is an event names the type of its kind. -/
theorem exists_record {event : Event} (decoded : Event.ofBody kind body = .ok event) :
    ∃ record, Record.ofDocument kind.layout body = some record ∧
      (record.text? "type").getD "" = kind.typeName := by
  cases read : Record.ofDocument kind.layout body with
  | none =>
    rw [ofBody_of_none read] at decoded
    cases decoded
  | some record =>
    refine ⟨record, rfl, ?_⟩
    by_contra differ
    rw [ofBody_of_some read, ofRecord_of_type differ] at decoded
    cases decoded

/-- An event of one kind is refused in the queue of another one for its type, or earlier. -/
theorem ofBody_of_otherKind {event : Event} (differ : other ≠ kind)
    (decoded : Event.ofBody kind body = .ok event) :
    Event.ofBody other body = .error (.wrongType other.typeName kind.typeName) ∨
      Event.ofBody other body = .error (.malformed "") := by
  obtain ⟨record, read, typed⟩ := exists_record decoded
  cases read' : Record.ofDocument other.layout body with
  | none => exact .inr (ofBody_of_none read')
  | some record' =>
    left
    rw [text?_type_eq read read'] at typed
    have wrong : (record'.text? "type").getD "" ≠ other.typeName := by
      rw [typed]
      exact EventKind.typeName_ne differ
    rw [ofBody_of_some read', ofRecord_of_type wrong, typed]

/-- A message in the wrong queue is never stored: no body is an event of both kinds, and one that is
an event of one kind is refused in the queue of the other because its type is wrong or because it
cannot be decoded, and with that its processing ends. -/
theorem ofBody_separates (body : Bytes) :
    ¬((∃ event, UsageEvent.ofBody body = .ok event) ∧
        ∃ event, AuditEvent.ofBody body = .ok event) ∧
    ∀ kind other event, other ≠ kind → Event.ofBody kind body = .ok event →
      ∃ error, Event.ofBody other body = .error error ∧
        error.reason ∈ ["wrong_type", "decode"] ∧
        ∀ consumer store, Consumer.process consumer other body store = pure (.invalid error) := by
  have refused (kind other : EventKind) (event : Event) (differ : other ≠ kind)
      (decoded : Event.ofBody kind body = .ok event) :
      ∃ error, Event.ofBody other body = .error error ∧
        error.reason ∈ ["wrong_type", "decode"] := by
    obtain found | found := ofBody_of_otherKind differ decoded
    · exact ⟨_, found, by simp [ValidationError.reason]⟩
    · exact ⟨_, found, by simp [ValidationError.reason]⟩
  constructor
  · rintro ⟨⟨usage, decoded⟩, audit, decoded'⟩
    have isUsage : Event.ofBody .usage body = .ok (.usage usage) := congrArg (Except.map _) decoded
    have isAudit : Event.ofBody .audit body = .ok (.audit audit) := congrArg (Except.map _) decoded'
    obtain ⟨error, found, _⟩ := refused .usage .audit _ (by decide) isUsage
    rw [isAudit] at found
    cases found
  · intro kind other event differ decoded
    obtain ⟨error, found, reason⟩ := refused kind other event differ decoded
    refine ⟨error, found, reason, fun consumer store => ?_⟩
    rw [Consumer.process, found]

end Event

end EventLedger
