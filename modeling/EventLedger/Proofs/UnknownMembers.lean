import EventLedger.Proofs.EventText
import EventLedger.Proofs.Json.Extent
import EventLedger.Proofs.Refusal

/-!
# Members that nobody knows

A publisher may add members to an object: whatever well-formed keys they have that are no names of
fields, whatever their values are and wherever they stand, the body is the same event or is refused
for the same reason, `ofBody_of_inserts`. Every object that is a document has its members one by
one, `exists_isObject`; they are told apart by their bytes alone, so those that were there before
are read as before, and the new ones add nothing.
-/
namespace EventLedger

open Json (Bytes Record Schema Container)
open Json.Grammar

/-- The members of an object one by one, each with the blanks around it. -/
inductive IsObject : List Bytes → Bytes → Prop where
  /-- There are none. -/
  | empty {blanks body : Bytes} (blank : Blanks blanks)
      (spaced : Spaced (opener .object :: (blanks ++ [Container.object.closer])) body) :
      IsObject [] body
  /-- There are some: a text, a colon and any complete value each. -/
  | members {members : List Bytes} {body : Bytes} (some : members ≠ [])
      (each : ∀ member ∈ members, Loose (.entry .object) member)
      (spaced : Spaced (opener .object :: (separated members ++ [Container.object.closer])) body) :
      IsObject members body

/-- A member whose key is a well-formed text but none of some names, and whose value is complete. -/
inductive UnknownMember (names : List String) : Bytes → Prop where
  /-- A key, a colon and a value. -/
  | mk {key : String} {text core before after : Bytes} (named : TextLiteral text key)
      (unknown : key ∉ names) (spaced : Spaced text before) (value : Loose .value core)
      (spaced' : Spaced core after) : UnknownMember names (before ++ Json.byte ':' :: after)

/-- Members among which unknown ones were inserted, anywhere and any number of them. -/
inductive Inserts (names : List String) : List Bytes → List Bytes → Prop where
  /-- Nothing is left. -/
  | nil : Inserts names [] []
  /-- The next member was there before. -/
  | keep {member : Bytes} {members longer : List Bytes} (inserts : Inserts names members longer) :
      Inserts names (member :: members) (member :: longer)
  /-- The next member is a new one. -/
  | insert {member : Bytes} {members longer : List Bytes} (unknown : UnknownMember names member)
      (inserts : Inserts names members longer) : Inserts names members (member :: longer)

/-- The names of the fields of a kind. -/
def EventKind.names (kind : EventKind) : List String := kind.layout.map Prod.fst

variable {schema : Schema} {record : Record} {members longer : List Bytes} {body : Bytes}

/-- Every document that is an object has members one by one. -/
theorem exists_isObject {content : Bytes} (given : Body schema .object content record)
    (spaced : Spaced (opener .object :: (content ++ [Container.object.closer])) body) :
    ∃ members, IsObject members body := by
  cases given with
  | empty blank => exact ⟨[], .empty blank spaced⟩
  | object members _ =>
    obtain ⟨entries, some, each, rfl⟩ := Json.exists_separated members
    exact ⟨entries, .members some each spaced⟩

/-- The record of an object is put together from its members. -/
theorem IsObject.exists_records (object : IsObject members body)
    (document : Document schema body record) :
    ∃ records, List.Forall₂ (Member schema) members records ∧ record = records.flatten := by
  obtain ⟨container, content, given, enclosed⟩ := document
  cases object with
  | empty blank spaced =>
    obtain ⟨rfl, rfl⟩ := Json.container_unique enclosed spaced
    cases given with
    | empty => exact ⟨[], .nil, rfl⟩
    | object members _ =>
      obtain ⟨entries, some, each, rfl⟩ := Json.exists_separated members
      exact absurd blank (Json.not_blanks_of_entries (Json.loose_separated some each))
  | members some each spaced =>
    obtain ⟨rfl, rfl⟩ := Json.container_unique enclosed spaced
    cases given with
    | empty blank =>
      exact absurd blank (Json.not_blanks_of_entries (Json.loose_separated some each))
    | object members _ => exact Json.exists_records some each members

/-- An object with members of a record is a document of it. -/
theorem IsObject.document {records : List Record} (object : IsObject members body)
    (each : List.Forall₂ (Member schema) members records)
    (distinct : Json.Distinct records.flatten) : Document schema body records.flatten := by
  cases object with
  | empty blank spaced =>
    cases each with
    | nil => exact ⟨.object, _, .empty blank, spaced⟩
  | members some _ spaced =>
    exact ⟨.object, _, .object (Json.members_of_forall some each) distinct, spaced⟩

/-- An unknown member gives no field. -/
theorem UnknownMember.member {member : Bytes}
    (unknown : UnknownMember (schema.map Prod.fst) member) : Member schema member [] := by
  obtain ⟨named, unknown, spaced, value, spaced'⟩ := unknown
  refine .mk named spaced (.unknown (fun kind inside => unknown ?_) value) spaced'
  exact List.mem_map.mpr ⟨_, inside, rfl⟩

/-- Unknown members among others add nothing to what these give. -/
theorem Inserts.exists_records {records : List Record}
    (inserts : Inserts (schema.map Prod.fst) members longer)
    (each : List.Forall₂ (Member schema) members records) :
    ∃ more, List.Forall₂ (Member schema) longer more ∧ more.flatten = records.flatten := by
  induction inserts generalizing records with
  | nil => exact ⟨records, each, rfl⟩
  | keep _ ih =>
    cases each with
    | @cons _ fields _ _ member others =>
      obtain ⟨more, given, same⟩ := ih others
      exact ⟨fields :: more, .cons member given, by rw [List.flatten_cons, same, List.flatten_cons]⟩
  | insert unknown _ ih =>
    obtain ⟨more, given, same⟩ := ih each
    exact ⟨[] :: more, .cons unknown.member given, by rw [List.flatten_cons, same, List.nil_append]⟩

/-- Unknown members leave the record of a document as it is. -/
theorem Inserts.document {longerBody : Bytes} (unique : schema.Distinct)
    (inserts : Inserts (schema.map Prod.fst) members longer) (object : IsObject members body)
    (document : Document schema body record) (object' : IsObject longer longerBody) :
    Document schema longerBody record := by
  have distinct := Json.distinct_of_document unique document
  obtain ⟨records, each, rfl⟩ := object.exists_records document
  obtain ⟨more, given, same⟩ := inserts.exists_records each
  rw [← same] at distinct ⊢
  exact object'.document given distinct

namespace Event

/-- Unknown members are inert: an object that can be decoded stays the same event, or is refused for
the same reason, wherever in it they are inserted. -/
theorem ofBody_of_inserts {kind : EventKind} {longerBody : Bytes}
    (object : IsObject members body) (decodes : ¬IsMalformed kind body)
    (inserts : Inserts kind.names members longer) (object' : IsObject longer longerBody) :
    Event.ofBody kind longerBody = Event.ofBody kind body := by
  obtain ⟨record, document⟩ := exists_document decodes
  have longerDocument := inserts.document kind.layout_distinct object document object'
  apply ofBody_congr
  rw [ofDocument_of_document longerDocument, ofDocument_of_document document]

/-- One member twice, before and between those of a login; its value has a number that is too large
for binary64, half of a pair of surrogates and a byte that is not UTF-8. -/
theorem login_ignores_members :
    let type := word "\"type\":\"audit_event\""
    let action := word " \"action\":\"login\""
    let odd := word "\"x\":[1e999,\"\\ud800" ++ [0xFF] ++ word "\"]"
    let body := word "\x7b\"type\":\"audit_event\", \"action\":\"login\"\x7d"
    let longerBody := word "\x7b" ++ odd ++ word ",\"type\":\"audit_event\"," ++ odd ++
      word ", \"action\":\"login\"\x7d"
    IsObject [type, action] body ∧ ¬IsMalformed .audit body ∧
      Inserts EventKind.audit.names [type, action] [odd, type, odd, action] ∧
      IsObject [odd, type, odd, action] longerBody ∧
      Event.ofBody .audit longerBody = Event.ofBody .audit body := by
  intro type action odd body longerBody
  have plain (text : String) (plain : ∀ c ∈ text.toList, ' ' ≤ c ∧ c ≠ '"' ∧ c ≠ '\\') :=
    textLiteral_of_plain text plain
  have loose (text : String) (plain : ∀ c ∈ text.toList, ' ' ≤ c ∧ c ≠ '"' ∧ c ≠ '\\') :=
    Json.looseText_of_textLiteral (textLiteral_of_plain text plain)
  have large : NumberLiteral (word "1e999") ⟨false, [1], none, some 999⟩ := by
    have one : Whole [Json.byte '1'] [1] :=
      ⟨⟨.cons (by simp [IsDigit, Json.byte]) .nil, by simp⟩, by simp⟩
    have nines : Decimal (word "999") [9, 9, 9] :=
      ⟨by simp [Digits, IsDigit, Json.byte], by simp⟩
    have exponent : Exponent (Json.byte 'e' :: ([] ++ word "999")) (some 999) :=
      .present (by decide) .absent nines
    exact ⟨_, [], _, one, .absent, exponent, by decide⟩
  have half : LooseText (word "\"\\ud800" ++ [0xFF] ++ word "\"") := by
    have high : UnitEscape (word "\\ud800") 0xD800 :=
      ⟨word "d800", [13, 8, 0, 0], by simp [Digits, IsDigit, Json.byte], rfl, by decide, rfl⟩
    refine ⟨[word "\\ud800", [0xFF]], ?_, by decide⟩
    rw [List.forall_mem_cons, List.forall_mem_singleton]
    exact ⟨.unit high, .raw (by decide) (by decide) (by decide)⟩
  have value : Loose .value (word "[1e999,\"\\ud800" ++ [0xFF] ++ word "\"]") :=
    @Loose.container .array _ <|
      .more (.item (.number large) (spaced_self _)) (.last (.item (.text half) (spaced_self _)))
  have unknown : UnknownMember EventKind.audit.names odd :=
    .mk (plain "x" (by simp)) (by decide) (spaced_self _) value (spaced_self _)
  have typeLoose : Loose (.entry .object) type :=
    .member (loose "type" (by simp)) (spaced_self _)
      (.text (loose "audit_event" (by simp))) (spaced_self _)
  have actionLoose : Loose (.entry .object) action :=
    .member (loose "action" (by simp)) ⟨word " ", [], by simp [Blanks], by simp [Blanks], rfl⟩
      (.text (loose "login" (by simp))) (spaced_self _)
  have oddLoose : Loose (.entry .object) odd :=
    .member (loose "x" (by simp)) (spaced_self _) value (spaced_self _)
  have object : IsObject [type, action] body := by
    refine .members (by simp) ?_ ⟨[], [], by simp [Blanks], by simp [Blanks], by decide⟩
    simpa using ⟨typeLoose, actionLoose⟩
  have longerObject : IsObject [odd, type, odd, action] longerBody := by
    refine .members (by simp) ?_ ⟨[], [], by simp [Blanks], by simp [Blanks], by decide⟩
    simpa using ⟨oddLoose, typeLoose, oddLoose, actionLoose⟩
  have decodes : ¬IsMalformed .audit body := by
    rw [isMalformed_iff, ← Ne, Option.ne_none_iff_isSome]
    decide +kernel
  have inserts : Inserts EventKind.audit.names [type, action] [odd, type, odd, action] :=
    .insert unknown <| .keep <| .insert unknown <| .keep .nil
  exact ⟨object, decodes, inserts, longerObject,
    ofBody_of_inserts object decodes inserts longerObject⟩

end Event

end EventLedger
