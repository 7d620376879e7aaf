import EventLedger.Proofs.Checks

/-!
# The format of audit events

A body is an audit event exactly if it is a document of the grammar whose fields say what they must,
and otherwise it is refused for the first thing that is wrong with it, in a fixed order:
`ofBody_exact_metadata`. The details of an event are the value that was given for them, whatever it
is; only what says nothing becomes the object without members. The value that was given is the one
of the grammar: where an object announces a document in a text it is the value of that document, and
not the object as it was written.
-/
namespace EventLedger.AuditEvent

open Json (Bytes Record Schema Value)
open Json.Grammar

/-- The fields of a document in their order. -/
def layout : Schema :=
  [("type", .text), ("userId", .text), ("action", .text), ("metadata", .tree)]

/-- What a document says. -/
structure Content where
  /-- Its type. -/
  type : String
  /-- Who acted, if it says so. -/
  userId : Option String
  /-- What was done. -/
  action : String
  /-- Details, if there are any. -/
  metadata : Option Value

/-- A body is a document that says something; a type or an action that it leaves out or gives as
null is empty, and a user or details are none. -/
def States (body : Bytes) (content : Content) : Prop :=
  ∃ record, Document layout body record ∧
    StatesText record "type" content.type ∧
    StatesText? record "userId" content.userId ∧
    StatesText record "action" content.action ∧
    StatesTree? record "metadata" content.metadata

namespace Content

/-- What the document of an event must say. -/
structure Acceptable (content : Content) : Prop where
  /-- That it is of the kind. -/
  type : content.type = "audit_event"
  /-- A user, if it names one; the empty text names none that there is. -/
  userId : ∀ text, content.userId = some text → ∃ id, Uuid.IsText text id
  /-- An action. -/
  action : content.action ≠ ""

/-- An event carries what a document says. -/
structure CarriedBy (content : Content) (event : AuditEvent) : Prop where
  /-- The user, if there is one. -/
  userId : Option.Rel Uuid.IsText content.userId event.userId
  /-- The action. -/
  action : content.action = event.action
  /-- Details that say nothing are the object without members, and no others are. -/
  nothing : event.metadata = .emptyObject ↔
    content.metadata ∈ [none, some .null, some (.text ""), some .emptyObject]
  /-- Any other details are kept as they are. -/
  given : ∀ value, content.metadata = some value → value ∉ [.null, .text ""] →
    event.metadata = value

/-- The first thing that is wrong with what a document says. -/
inductive FirstFault (content : Content) : ValidationError → Prop where
  /-- Its type is another one. -/
  | type (other : content.type ≠ "audit_event") :
      FirstFault content (.wrongType "audit_event" content.type)
  /-- Its user is no UUID. -/
  | userId {text : String} (type : content.type = "audit_event")
      (given : content.userId = some text) (noId : ¬∃ id, Uuid.IsText text id) :
      FirstFault content (.badId "userId" text)
  /-- It names no action. -/
  | action (type : content.type = "audit_event")
      (user : ∀ text, content.userId = some text → ∃ id, Uuid.IsText text id)
      (empty : content.action = "") : FirstFault content (.missingField "action")

end Content

/-! ## What is read is what a document says -/

/-- No two fields of an audit event have the same name. -/
theorem layout_distinct : Schema.Distinct layout := by decide

/-- What a record says. -/
def Content.ofRecord (record : Record) : Content where
  type := (record.text? "type").getD ""
  userId := record.text? "userId"
  action := (record.text? "action").getD ""
  metadata := record.tree? "metadata"

/-- A body says what its record does. -/
theorem states_iff {body : Bytes} {content : Content} :
    States body content ↔
      ∃ record, Record.ofDocument schema body = some record ∧ content = .ofRecord record := by
  have distinct {record : Record} (read : Record.ofDocument layout body = some record) :
      Json.Distinct record := by
    have given :=
      Json.distinct_of_document layout_distinct ((Json.ofDocument_iff layout_distinct).mp read)
    exact Json.distinct_reverse.mp given
  constructor
  · rintro ⟨record, reads, stated⟩
    rw [← List.reverse_reverse record] at reads stated
    have read := (Json.ofDocument_iff layout_distinct).mpr reads
    simp only [Json.statesText_iff (distinct read), Json.statesText?_iff (distinct read),
      Json.statesTree?_iff (distinct read)] at stated
    obtain ⟨type, user, action, metadata⟩ := stated
    refine ⟨record.reverse, read, ?_⟩
    rw [Content.ofRecord, type, user, action, metadata]
  · rintro ⟨record, read, rfl⟩
    have reads := (Json.ofDocument_iff layout_distinct).mp read
    refine ⟨record.reverse, reads, ?_⟩
    simp only [Json.statesText_iff (distinct read), Json.statesText?_iff (distinct read),
      Json.statesTree?_iff (distinct read)]
    exact ⟨rfl, rfl, rfl, rfl⟩

/-! ## Checks -/

/-- A text that names a user is a UUID. -/
theorem exists_id_of_user {text? : Option String} {user : Option Uuid}
    (isUser : Option.Rel Uuid.IsText text? user) (text : String) (names : text? = some text) :
    ∃ id, Uuid.IsText text id := by
  subst names
  obtain isText | _ := isUser
  exact ⟨_, isText⟩

/-- The user is read, left out, or refused as no identifier. -/
theorem readUser_cases (record : Record) :
    (∃ user, readUser record = .ok user ∧ Option.Rel Uuid.IsText (record.text? "userId") user) ∨
      ∃ text, record.text? "userId" = some text ∧
        readUser record = .error (.badId "userId" text) ∧ ¬∃ id, Uuid.IsText text id := by
  rw [readUser]
  cases record.text? "userId" with
  | none => exact .inl ⟨none, rfl, .none⟩
  | some text =>
    dsimp only
    obtain ⟨id, isId, isText⟩ | ⟨refused, noId⟩ := readId_cases "userId" text
    · exact .inl ⟨some id, congrArg (Except.map some) isId, .some isText⟩
    · exact .inr ⟨text, rfl, congrArg (Except.map some) refused, noId⟩

/-- Details are kept but for those that say nothing. -/
theorem normalizeMetadata_cases (metadata : Option Value) :
    (normalizeMetadata metadata = .emptyObject ↔
      metadata ∈ [none, some .null, some (.text ""), some .emptyObject]) ∧
    ∀ value, metadata = some value → value ∉ [.null, .text ""] →
      normalizeMetadata metadata = value := by
  cases metadata with
  | none => exact ⟨iff_of_true rfl (by simp), fun _ given => nomatch given⟩
  | some value =>
    cases value with
    | null =>
      refine ⟨iff_of_true rfl (by simp), ?_⟩
      rintro _ ⟨⟩ other
      exact absurd List.mem_cons_self other
    | text text =>
      by_cases empty : text = ""
      · subst empty
        refine ⟨iff_of_true rfl (by simp), ?_⟩
        rintro _ ⟨⟩ other
        exact absurd (List.mem_cons_of_mem _ List.mem_cons_self) other
      · have kept : normalizeMetadata (some (.text text)) = .text text := if_neg empty
        rw [kept]
        refine ⟨iff_of_false (by simp [Value.emptyObject]) (by simp [empty, Value.emptyObject]), ?_⟩
        rintro _ ⟨⟩ _
        rfl
    | bool | number | array | object =>
      refine ⟨by simp [normalizeMetadata], ?_⟩
      rintro _ ⟨⟩ _
      rfl

/-- The checks of a record, one after the other. -/
theorem ofRecord_cases {record : Record} {content : Content}
    (stated : content = .ofRecord record) :
    Judges Content.Acceptable Content.CarriedBy Content.FirstFault (ofRecord record) content := by
  have run : ofRecord record = (do
      checkType typeName record
      let userId ← readUser record
      let action ← requiredText "action" record
      return { userId, action, metadata := normalizeMetadata content.metadata }) := by
    subst stated
    rfl
  have typed := checkType_cases typeName record
  have named := requiredText_cases "action" record
  have user := readUser_cases record
  rw [show (record.text? "type").getD "" = content.type by rw [stated]; rfl] at typed
  rw [show (record.text? "action").getD "" = content.action by rw [stated]; rfl] at named
  rw [show record.text? "userId" = content.userId by rw [stated]; rfl] at user
  obtain ⟨checked, type⟩ | ⟨refused, type⟩ := typed
  case inr =>
    rw [refused] at run
    exact .inr ⟨_, run, .type type⟩
  rw [checked] at run
  obtain ⟨user, isUser, userText⟩ | ⟨text, given, refused, noUser⟩ := user
  case inr =>
    rw [refused] at run
    exact .inr ⟨_, run, .userId type given noUser⟩
  rw [isUser] at run
  have userGiven := exists_id_of_user userText
  obtain ⟨named, nonempty⟩ | ⟨refused, empty⟩ := named
  case inr =>
    rw [refused] at run
    exact .inr ⟨_, run, .action type userGiven empty⟩
  rw [named] at run
  obtain ⟨nothing, given⟩ := normalizeMetadata_cases content.metadata
  exact .inl ⟨_, run, ⟨type, userGiven, nonempty⟩, ⟨userText, rfl, nothing, given⟩⟩

/-- What has a fault is not acceptable. -/
theorem Content.FirstFault.not_acceptable {content : Content} {error : ValidationError}
    (fault : content.FirstFault error) : ¬content.Acceptable := by
  rintro ⟨type, user, action⟩
  cases fault with
  | type other => exact other type
  | userId _ given noId => exact noId (user _ given)
  | action _ _ empty => exact action empty

/-- There is one first fault: each one but the last rules out what the later ones require. -/
theorem Content.FirstFault.unique {content : Content} {error other : ValidationError}
    (fault : content.FirstFault error) (again : content.FirstFault other) : error = other := by
  cases fault with
  | type other =>
    cases again with
    | type => rfl
    | userId type | action type => exact absurd type other
  | userId type given noId =>
    cases again with
    | type other => exact absurd type other
    | userId _ given' =>
      rw [given] at given'
      cases given'
      rfl
    | action _ user => exact absurd (user _ given) noId
  | action type user empty =>
    cases again with
    | type other => exact absurd type other
    | userId _ given noId => exact absurd (user _ given) noId
    | action => rfl

/-- A text is no two users. -/
theorem user_unique {text? : Option String} {user other : Option Uuid}
    (isText : Option.Rel Uuid.IsText text? user) (again : Option.Rel Uuid.IsText text? other) :
    user = other := by
  cases isText with
  | none =>
    cases again
    rfl
  | some isText =>
    cases again with
    | some isText' => rw [isText.unique isText']

/-- What a document says is no two events. -/
theorem Content.CarriedBy.unique {content : Content} {event other : AuditEvent}
    (carried : content.CarriedBy event) (again : content.CarriedBy other) : event = other := by
  have user : event.userId = other.userId := user_unique carried.userId again.userId
  have metadata : event.metadata = other.metadata := by
    by_cases nothing : content.metadata ∈ [none, some .null, some (.text ""), some .emptyObject]
    · rw [carried.nothing.mpr nothing, again.nothing.mpr nothing]
    · cases given : content.metadata with
      | none => exact absurd (by simp [given]) nothing
      | some value =>
        have other : value ∉ [.null, .text ""] := by
          rw [given] at nothing
          simp only [List.mem_cons, Option.some.injEq, List.not_mem_nil] at nothing ⊢
          exact fun empty => nothing (by tauto)
        rw [carried.given value given other, again.given value given other]
  obtain ⟨userId, action, details⟩ := event
  obtain ⟨userId', action', details'⟩ := other
  obtain rfl : userId = userId' := user
  obtain rfl : action = action' := carried.action.symm.trans again.action
  obtain rfl : details = details' := metadata
  rfl

/-- A body is judged by what it says if it is a document. -/
theorem ofBody_cases (body : Bytes) :
    (∃ content, (∀ other, States body other ↔ other = content) ∧
      Judges Content.Acceptable Content.CarriedBy Content.FirstFault (ofBody body) content) ∨
    ofBody body = .error (.malformed "") ∧ ∀ content, ¬States body content :=
  judges_cases (fun _ => states_iff) fun _ _ => ofRecord_cases rfl

/-- The format of audit events is kept exactly: an event is read from the bodies that are documents
of it and say what they must, and carries what they say, its details unchanged but for those that
say nothing and for the documents in texts that they announce; any other body is refused as no
document if it is none, and for the first thing that is wrong with what it says if it is one. -/
theorem ofBody_exact_metadata (body : Bytes) :
    ((∃ event, ofBody body = .ok event) ↔ ∃ content, States body content ∧ content.Acceptable) ∧
    (∀ event, ofBody body = .ok event → ∀ content, States body content → content.CarriedBy event) ∧
    ∀ error, ofBody body = .error error ↔
      (error = .malformed "" ∧ ∀ content, ¬States body content) ∨
      ∃ content, States body content ∧ content.FirstFault error :=
  exact_of_judged Content.FirstFault.not_acceptable Content.FirstFault.unique (ofBody_cases body)

/-- Details that announce a document in a text are not kept: the document takes their place. -/
example :
    let body := word ("\x7b\"type\":\"audit_event\",\"action\":\"login\",\"metadata\":" ++
      "\x7b\"$serde_json::private::RawValue\":\"[1,2]\"\x7d\x7d")
    (ofBody body).toOption.map
      (·.metadata matches .array [.number (.integer 1), .number (.integer 2)]) = some true := by
  decide +kernel

end EventLedger.AuditEvent
