import EventLedger.Proofs.AuditFormat
import EventLedger.Proofs.Json.Spelling
import EventLedger.Proofs.UsageFormat

/-!
# Texts of events

An event has many texts: its fields stand in any order or by position, its ids in any of their
forms, its strings with or without escapes, and what it leaves open is null or missing. It has one
at least, `exists_text`, and each of them is read as that event, `ofBody_undoes_writing`.
-/
namespace EventLedger

open Json (Bytes Value embeddingKey)
open Json.Grammar

/-! ## Usage events -/

namespace UsageEvent

/-- The texts of an event. -/
def Text (event : UsageEvent) (body : Bytes) : Prop :=
  ∃ user generation, Uuid.IsText user event.userId ∧ Uuid.IsText generation event.generationId ∧
    RecordText [("type", some (.text "usage_event")), ("userId", some (.text user)),
      ("generationId", some (.text generation)),
      ("inputTokens", some (.number (.integer event.inputTokens.value))),
      ("outputTokens", some (.number (.integer event.outputTokens.value))),
      ("model", some (.text event.model))] body

/-- A count of tokens is one of a document. -/
theorem gives_count (count : TokenCount) :
    Json.Gives .count (.number (.integer count.value)) (.count (some (count.value : Int))) := by
  have fits := count.fits
  exact .count (by omega) (by omega)

/-- A text of an event says what the event carries. -/
theorem Text.content {event : UsageEvent} {body : Bytes} (text : event.Text body)
    (model : event.model ≠ "") :
    ∃ content, States body content ∧ content.Acceptable ∧ content.CarriedBy event := by
  obtain ⟨user, generation, isUser, isGeneration, written⟩ := text
  have fills : Json.Fills layout _ [("type", some (.text (some "usage_event"))),
      ("userId", some (.text (some user))), ("generationId", some (.text (some generation))),
      ("inputTokens", some (.count (some event.inputTokens.value))),
      ("outputTokens", some (.count (some event.outputTokens.value))),
      ("model", some (.text (some event.model)))] :=
    .cons (.some .text) <| .cons (.some .text) <| .cons (.some .text) <|
    .cons (.some (gives_count event.inputTokens)) <|
    .cons (.some (gives_count event.outputTokens)) <| .cons (.some .text) .nil
  obtain ⟨record, reads, perm⟩ := Json.document_of_written layout_distinct fills written
  have stated (name : String) (field : Json.Field) :=
    (perm.mem_iff (a := (name, field))).trans Json.mem_given
  refine ⟨⟨"usage_event", user, generation, event.inputTokens.value, event.outputTokens.value,
    event.model⟩, ⟨record, reads, ?_, ?_, ?_, ?_, ?_, ?_⟩, ?_, ?_⟩
  · exact .inl ((stated _ _).mpr (by simp))
  · exact .inl ((stated _ _).mpr (by simp))
  · exact .inl ((stated _ _).mpr (by simp))
  · exact .inl ((stated _ _).mpr (by simp))
  · exact .inl ((stated _ _).mpr (by simp))
  · exact .inl ((stated _ _).mpr (by simp))
  · exact ⟨rfl, ⟨_, isUser⟩, ⟨_, isGeneration⟩, by simp, by simp, model⟩
  · exact ⟨isUser, isGeneration, rfl, rfl, rfl⟩

/-- A text of an event with a model is read to the event. -/
theorem ofBody_of_text {event : UsageEvent} {body : Bytes} (text : event.Text body)
    (model : event.model ≠ "") : ofBody body = .ok event := by
  obtain ⟨content, states, acceptable, carried⟩ := text.content model
  obtain ⟨other, run, again⟩ :=
    ok_of_judged (ofBody_cases body) Content.FirstFault.not_acceptable states acceptable
  rw [run, carried.unique again]

/-- Every event has a text. -/
theorem exists_text (event : UsageEvent) : ∃ body, event.Text body := by
  obtain ⟨user, isUser⟩ := Uuid.exists_isText event.userId
  obtain ⟨generation, isGeneration⟩ := Uuid.exists_isText event.generationId
  have count (tokens : TokenCount) : Plain 0 (.number (.integer tokens.value)) := by
    have fits := tokens.fits
    have small : Word.signWeight ≤ Word.greatest := by decide
    exact .integer (by omega) (by omega)
  obtain ⟨body, text⟩ : ∃ body, RecordText [("type", some (.text "usage_event")),
      ("userId", some (.text user)), ("generationId", some (.text generation)),
      ("inputTokens", some (.number (.integer event.inputTokens.value))),
      ("outputTokens", some (.number (.integer event.outputTokens.value))),
      ("model", some (.text event.model))] body := by
    refine exists_recordText 0 (by simp [Ordinary, given, embeddingKey]) ?_
    simp only [Json.given_cons_some, List.forall_mem_cons]
    exact ⟨.text, .text, .text, count _, count _, .text, List.forall_mem_nil _⟩
  exact ⟨body, user, generation, isUser, isGeneration, text⟩

end UsageEvent

/-! ## Audit events -/

namespace AuditEvent

/-- How a text gives the user of an event. -/
inductive UserGiven : Option Uuid → Option Value → Prop where
  /-- An id in any of its forms. -/
  | known {id : Uuid} {text : String} (isText : Uuid.IsText text id) :
      UserGiven (some id) (some (.text text))
  /-- Nobody is null. -/
  | null : UserGiven none (some .null)
  /-- Nobody is left out. -/
  | leftOut : UserGiven none none

/-- How a text gives the details of an event. -/
inductive MetadataGiven : Value → Option Value → Prop where
  /-- As they are. -/
  | value {metadata : Value} : MetadataGiven metadata (some metadata)
  /-- No details are null. -/
  | null : MetadataGiven .emptyObject (some .null)
  /-- No details are the empty text. -/
  | emptyText : MetadataGiven .emptyObject (some (.text ""))
  /-- No details are left out. -/
  | leftOut : MetadataGiven .emptyObject none

/-- The texts of an event. -/
def Text (event : AuditEvent) (body : Bytes) : Prop :=
  ∃ user metadata, UserGiven event.userId user ∧ MetadataGiven event.metadata metadata ∧
    RecordText [("type", some (.text "audit_event")), ("userId", user),
      ("action", some (.text event.action)), ("metadata", metadata)] body

/-- What texts can say of an event: its action, and details with integers of 64 bits that are nested
no deeper than a document may be, neither null nor the empty text, and without an object that has
nothing but the key that announces a document in a text. -/
structure Writable (event : AuditEvent) : Prop where
  /-- There is an action. -/
  action : event.action ≠ ""
  /-- The details are integers and no deeper than that. -/
  plain : Plain 126 event.metadata
  /-- They are not null. -/
  present : event.metadata ≠ .null
  /-- They are not the empty text. -/
  nonempty : event.metadata ≠ .text ""

/-- The user that is given is read to that user. -/
theorem UserGiven.field {user : Option Uuid} {value? : Option Value}
    (given : UserGiven user value?) :
    ∃ text? field?, Option.Rel Uuid.IsText text? user ∧
      Option.Rel (Json.Gives .text) value? field? ∧
      ∀ text, text? = some text ↔ field? = some (.text (some text)) := by
  cases given with
  | @known id text isText =>
    exact ⟨some text, some (.text (some text)), .some isText, .some .text, by simp⟩
  | null => exact ⟨none, some (.text none), .none, .some .null, by simp⟩
  | leftOut => exact ⟨none, none, .none, .none, by simp⟩

/-- The details that are given are read to those of the event. -/
theorem MetadataGiven.field {event : AuditEvent} {value? : Option Value}
    (given : MetadataGiven event.metadata value?) (writable : event.Writable) :
    ∃ details? field?, Option.Rel (Json.Gives .tree) value? field? ∧
      (∀ value, details? = some value ↔ field? = some (.tree (some value))) ∧
      (event.metadata = .emptyObject ↔
        details? ∈ [none, some .null, some (.text ""), some .emptyObject]) ∧
      ∀ value, details? = some value → value ∉ [.null, .text ""] → event.metadata = value := by
  have plain := writable.plain
  have present := writable.present
  have nonempty := writable.nonempty
  generalize event.metadata = metadata at given plain present nonempty
  cases given with
  | value =>
    refine ⟨some metadata, some (.tree (some metadata)), .some (.tree plain present), by simp,
      by simp [nonempty, present], ?_⟩
    rintro _ ⟨⟩ _
    rfl
  | null => exact ⟨none, some (.tree none), .some .null, by simp, by simp, by simp⟩
  | emptyText =>
    refine ⟨some (.text ""), some (.tree (some (.text ""))), .some (.tree .text (by simp)), by simp,
      by simp, ?_⟩
    rintro _ ⟨⟩ other
    exact absurd (List.mem_cons_of_mem _ List.mem_cons_self) other
  | leftOut => exact ⟨none, none, .none, by simp, by simp, by simp⟩

/-- A text of an event says what the event carries. -/
theorem Text.content {event : AuditEvent} {body : Bytes} (text : event.Text body)
    (writable : event.Writable) :
    ∃ content, States body content ∧ content.Acceptable ∧ content.CarriedBy event := by
  obtain ⟨user, metadata, userGiven, metadataGiven, written⟩ := text
  obtain ⟨text?, userField, isUser, givesUser, userStated⟩ := userGiven.field
  obtain ⟨details?, metadataField, givesMetadata, metadataStated, nothing, given⟩ :=
    metadataGiven.field writable
  have fills : Json.Fills layout _ [("type", some (.text (some "audit_event"))),
      ("userId", userField), ("action", some (.text (some event.action))),
      ("metadata", metadataField)] :=
    .cons (.some .text) <| .cons givesUser <| .cons (.some .text) <| .cons givesMetadata .nil
  obtain ⟨record, reads, perm⟩ := Json.document_of_written layout_distinct fills written
  have stated (name : String) (field : Json.Field) :=
    (perm.mem_iff (a := (name, field))).trans Json.mem_given
  refine ⟨⟨"audit_event", text?, event.action, details?⟩, ⟨record, reads, ?_, ?_, ?_, ?_⟩, ?_, ?_⟩
  · exact .inl ((stated _ _).mpr (by simp))
  · intro text
    rw [userStated, stated]
    simp [eq_comm]
  · exact .inl ((stated _ _).mpr (by simp))
  · intro value
    rw [metadataStated, stated]
    simp [eq_comm]
  · exact ⟨rfl, exists_id_of_user isUser, writable.action⟩
  · exact ⟨isUser, rfl, nothing, given⟩

/-- A text of an event that can be written is read to the event. -/
theorem ofBody_of_text {event : AuditEvent} {body : Bytes} (text : event.Text body)
    (writable : event.Writable) : ofBody body = .ok event := by
  obtain ⟨content, states, acceptable, carried⟩ := text.content writable
  obtain ⟨other, run, again⟩ :=
    ok_of_judged (ofBody_cases body) Content.FirstFault.not_acceptable states acceptable
  rw [run, carried.unique again]

/-- Somebody or nobody can be given. -/
theorem exists_userGiven (user : Option Uuid) :
    ∃ text? : Option String, UserGiven user (text?.map .text) := by
  cases user with
  | none => exact ⟨none, .leftOut⟩
  | some id =>
    obtain ⟨text, isText⟩ := Uuid.exists_isText id
    exact ⟨some text, .known isText⟩

/-- An event that texts can say has one. -/
theorem exists_text {event : AuditEvent} (writable : event.Writable) :
    ∃ body, event.Text body := by
  obtain ⟨text?, givenUser⟩ := exists_userGiven event.userId
  obtain ⟨body, text⟩ : ∃ body, RecordText [("type", some (.text "audit_event")),
      ("userId", text?.map .text), ("action", some (.text event.action)),
      ("metadata", some event.metadata)] body := by
    refine exists_recordText 126 (by simp [Ordinary, given, embeddingKey]) ?_
    cases text? <;> simp [given, writable.plain, Plain.text]
  exact ⟨body, _, _, givenUser, .value, text⟩

end AuditEvent

/-! ## Events of either kind -/

/-- Characters that need no escape are written as they are. -/
theorem pieces_of_plain {chars : List Char} (plain : ∀ c ∈ chars, ' ' ≤ c ∧ c ≠ '"' ∧ c ≠ '\\') :
    List.Forall₂ Piece (chars.map String.utf8EncodeChar) chars := by
  induction chars with
  | nil => exact .nil
  | cons c chars ih =>
    obtain ⟨⟨printable, noQuote, noEscape⟩, others⟩ := List.forall_mem_cons.mp plain
    exact .cons (.raw printable noQuote noEscape) (ih others)

/-- A text without escapes is its own literal between quotes. -/
theorem textLiteral_of_plain (text : String)
    (plain : ∀ c ∈ text.toList, ' ' ≤ c ∧ c ≠ '"' ∧ c ≠ '\\') :
    TextLiteral (Json.byte '"' ::
      ((text.toList.map String.utf8EncodeChar).flatten ++ [Json.byte '"'])) text :=
  ⟨_, pieces_of_plain plain, rfl⟩

namespace Event

/-- The texts of an event. -/
def Text : Event → Bytes → Prop
  | .usage event, body => event.Text body
  | .audit event, body => event.Text body

/-- Texts can say what an event is. -/
def Writable : Event → Prop
  | .usage event => event.model ≠ ""
  | .audit event => event.Writable

/-- An event that texts can say has one. -/
theorem exists_text {event : Event} (writable : event.Writable) : ∃ body, event.Text body := by
  cases event with
  | usage event => exact event.exists_text
  | audit event => exact AuditEvent.exists_text writable

/-- Reading a body undoes writing one: whichever text of an event it is, it is read as that event.
In a text no object begins with the key that announces a document in a text; such an object would be
read as the document. -/
theorem ofBody_undoes_writing {event : Event} (writable : event.Writable) {body : Bytes}
    (text : event.Text body) : Event.ofBody event.kind body = .ok event := by
  cases event with
  | usage event => exact congrArg (Except.map usage) (UsageEvent.ofBody_of_text text writable)
  | audit event => exact congrArg (Except.map audit) (AuditEvent.ofBody_of_text text writable)

/-- Members in another order, blanks between tokens, escapes in a key and in a text, and a user that
is left out. -/
theorem undoes_writing_shuffled :
    let event : AuditEvent :=
      { userId := none, action := "login",
        metadata := .object [("n", .number (.integer (-7))), ("s", .text "😀")] }
    let body := word ("\x7b\"metadata\":\x7b\"s\":\"\\uD83d\\ude00\",\"n\":-7\x7d ," ++
      "\"\\u0061ction\":\"login\",\"type\":\"audit_event\"\x7d")
    (audit event).Writable ∧ (audit event).Text body ∧
      Event.ofBody .audit body = .ok (audit event) := by
  intro event body
  have writable : (audit event).Writable := by
    refine ⟨by decide, .object (by decide) (by decide) ?_, by simp, by simp⟩
    rw [List.forall_mem_cons, List.forall_mem_singleton]
    exact ⟨.integer (by decide) (by decide), .text⟩
  have text : (audit event).Text body := by
    have plain (text : String) (plain : ∀ c ∈ text.toList, ' ' ≤ c ∧ c ≠ '"' ∧ c ≠ '\\') :=
      textLiteral_of_plain text plain
    have smiley : TextLiteral (word "\"\\uD83d\\ude00\"") "😀" := by
      have high : UnitEscape (word "\\uD83d") 0xD83D :=
        ⟨word "D83d", [13, 8, 3, 13], by simp [Digits, IsDigit, Json.byte], rfl, by decide, rfl⟩
      have low : UnitEscape (word "\\ude00") 0xDE00 :=
        ⟨word "de00", [13, 14, 0, 0], by simp [Digits, IsDigit, Json.byte], rfl, by decide, rfl⟩
      exact ⟨[word "\\uD83d\\ude00"],
        .cons (.pair high low (by decide) (by decide) (by decide)) .nil, rfl⟩
    have action : TextLiteral (word "\"\\u0061ction\"") "action" := by
      have first : UnitEscape (word "\\u0061") 'a'.toNat :=
        ⟨word "0061", [0, 0, 6, 1], by simp [Digits, IsDigit, Json.byte], rfl, by decide, rfl⟩
      have others : ∀ c ∈ "ction".toList, ' ' ≤ c ∧ c ≠ '"' ∧ c ≠ '\\' := by simp
      exact ⟨word "\\u0061" :: _, .cons (.unit first) (pieces_of_plain others), by decide⟩
    have seven : IntegerLiteral [Json.byte '-', Json.byte '7'] (-7) := by
      have digits : Whole [Json.byte '7'] [7] :=
        ⟨⟨.cons (by simp [IsDigit, Json.byte]) .nil, by simp⟩, by simp⟩
      exact .negative digits (by decide)
    have details : Written 1
        (.members [("s", .text "😀"), ("n", .number (.integer (-7)))]) _ :=
      .moreMembers (plain "s" (by simp)) (spaced_self _) (.text smiley) (spaced_self _) <|
      .lastMember (plain "n" (by simp)) (spaced_self _) (.number ⟨-7, rfl, seven⟩) (spaced_self _)
    have members : Written 2 (.members [("metadata", event.metadata), ("action", .text "login"),
        ("type", .text "audit_event")]) _ :=
      .moreMembers (plain "metadata" (by simp)) (spaced_self _)
        (.object details (by simp [Ordinary, embeddingKey]) (.swap _ _ []))
        ⟨[], word " ", by simp [Blanks], by simp [Blanks], rfl⟩ <|
      .moreMembers action (spaced_self _) (.text (plain "login" (by simp))) (spaced_self _) <|
      .lastMember (plain "type" (by simp)) (spaced_self _)
        (.text (plain "audit_event" (by simp))) (spaced_self _)
    refine ⟨none, some event.metadata, .leftOut, .value,
      .object ⟨3, _, .object members (by simp [Ordinary, embeddingKey]) ?_, ?_⟩⟩
    · exact ((List.Perm.swap _ _ _).trans (.cons _ (.swap _ _ _))).trans (.swap _ _ _)
    · exact ⟨[], [], by simp [Blanks], by simp [Blanks], by decide⟩
  exact ⟨writable, text, ofBody_undoes_writing writable text⟩

end Event

end EventLedger
