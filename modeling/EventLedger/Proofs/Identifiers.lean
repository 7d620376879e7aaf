import EventLedger.Proofs.EventText
import EventLedger.Proofs.Refusal

/-!
# How the ids of events are spelled

An id stands in one of three places, the user or the generation of a usage event or the user of an
audit event. If everything else that a body says is acceptable, the text in that place decides: if
it is a UUID in one of its forms, the event carries it, `exists_event`, and if not, the error shows
it, `ofBody_of_noId`. So the spellings of one UUID give one event, and what is printed of it is one
of them: `readsIds`.
-/
namespace EventLedger

open Json (Bytes)
open Json.Grammar (word)

/-- A place for an id, with everything else that a document says; the id that this may have there
has no meaning. -/
inductive IdPlace where
  /-- The user of a usage event. -/
  | usageUser (content : UsageEvent.Content)
  /-- The generation of a usage event. -/
  | generation (content : UsageEvent.Content)
  /-- The user of an audit event. -/
  | auditUser (content : AuditEvent.Content)

namespace IdPlace

/-- The kind of the event. -/
def kind : IdPlace → EventKind
  | .usageUser _ | .generation _ => .usage
  | .auditUser _ => .audit

/-- The name of the field. -/
def field : IdPlace → String
  | .usageUser _ | .auditUser _ => "userId"
  | .generation _ => "generationId"

/-- A body says a text in the place, and everything else as it is. -/
def States (place : IdPlace) (text : String) (body : Bytes) : Prop :=
  match place with
  | .usageUser content => UsageEvent.States body { content with userId := text }
  | .generation content => UsageEvent.States body { content with generationId := text }
  | .auditUser content => AuditEvent.States body { content with userId := some text }

/-- What a document says with a text in the place is acceptable. -/
def AcceptableWith (place : IdPlace) (text : String) : Prop :=
  match place with
  | .usageUser content => UsageEvent.Content.Acceptable { content with userId := text }
  | .generation content => UsageEvent.Content.Acceptable { content with generationId := text }
  | .auditUser content => AuditEvent.Content.Acceptable { content with userId := some text }

/-- Everything else is acceptable: with some text in the place, the whole is. -/
def Acceptable (place : IdPlace) : Prop := ∃ text, place.AcceptableWith text

/-- The id that an event has in the place. -/
def id? : IdPlace → Event → Option Uuid
  | .usageUser _, .usage event => some event.userId
  | .generation _, .usage event => some event.generationId
  | .auditUser _, .audit event => event.userId
  | _, _ => none

/-- An event carries what a document says with a text in the place. -/
def CarriedBy (place : IdPlace) (text : String) (event : Event) : Prop :=
  match place with
  | .usageUser content => ∃ usage : UsageEvent, event = .usage usage ∧
      UsageEvent.Content.CarriedBy { content with userId := text } usage
  | .generation content => ∃ usage : UsageEvent, event = .usage usage ∧
      UsageEvent.Content.CarriedBy { content with generationId := text } usage
  | .auditUser content => ∃ audit : AuditEvent, event = .audit audit ∧
      AuditEvent.Content.CarriedBy { content with userId := some text } audit

variable {place : IdPlace} {text other : String} {body again : Bytes} {event event' : Event}

/-- Everything else is acceptable with any UUID in the place. -/
theorem Acceptable.acceptableWith (acceptable : place.Acceptable)
    (isText : ∃ id, Uuid.IsText text id) : place.AcceptableWith text := by
  obtain ⟨_, given⟩ := acceptable
  cases place with
  | usageUser content =>
    obtain ⟨type, _, generation, input, output, model⟩ := given
    exact ⟨type, isText, generation, input, output, model⟩
  | generation content =>
    obtain ⟨type, user, _, input, output, model⟩ := given
    exact ⟨type, user, isText, input, output, model⟩
  | auditUser content =>
    obtain ⟨type, _, action⟩ := given
    refine ⟨type, ?_, action⟩
    rintro _ ⟨⟩
    exact isText

/-- What is acceptable becomes an event that carries it. -/
theorem exists_event (acceptable : place.AcceptableWith text) (states : place.States text body) :
    ∃ event, Event.ofBody place.kind body = .ok event ∧ place.CarriedBy text event := by
  cases place with
  | usageUser content | generation content =>
    obtain ⟨usage, run, carried⟩ := ok_of_judged (UsageEvent.ofBody_cases body)
      UsageEvent.Content.FirstFault.not_acceptable states acceptable
    exact ⟨.usage usage, congrArg (Except.map Event.usage) run, usage, rfl, carried⟩
  | auditUser content =>
    obtain ⟨audit, run, carried⟩ := ok_of_judged (AuditEvent.ofBody_cases body)
      AuditEvent.Content.FirstFault.not_acceptable states acceptable
    exact ⟨.audit audit, congrArg (Except.map Event.audit) run, audit, rfl, carried⟩

/-- A text in the place that is no UUID is the first fault. -/
theorem ofBody_of_noId (acceptable : place.Acceptable) (states : place.States text body)
    (noId : ¬∃ id, Uuid.IsText text id) :
    Event.ofBody place.kind body = .error (.badId place.field text) := by
  obtain ⟨_, given⟩ := acceptable
  cases place with
  | usageUser content =>
    have fault : UsageEvent.Content.FirstFault { content with userId := text }
        (.badId "userId" text) := .userId given.type noId
    have refused := error_of_judged (UsageEvent.ofBody_cases body)
      UsageEvent.Content.FirstFault.not_acceptable UsageEvent.Content.FirstFault.unique states fault
    exact congrArg (Except.map Event.usage) refused
  | generation content =>
    have fault : UsageEvent.Content.FirstFault { content with generationId := text }
        (.badId "generationId" text) := .generationId given.type given.userId noId
    have refused := error_of_judged (UsageEvent.ofBody_cases body)
      UsageEvent.Content.FirstFault.not_acceptable UsageEvent.Content.FirstFault.unique states fault
    exact congrArg (Except.map Event.usage) refused
  | auditUser content =>
    have fault : AuditEvent.Content.FirstFault { content with userId := some text }
        (.badId "userId" text) := .userId given.type rfl noId
    have refused := error_of_judged (AuditEvent.ofBody_cases body)
      AuditEvent.Content.FirstFault.not_acceptable AuditEvent.Content.FirstFault.unique states fault
    exact congrArg (Except.map Event.audit) refused

/-- The id of an event is the UUID of the text in the place. -/
theorem CarriedBy.exists_id (carried : place.CarriedBy text event) :
    ∃ id, place.id? event = some id ∧ Uuid.IsText text id := by
  cases place with
  | usageUser content =>
    obtain ⟨usage, rfl, carried⟩ := carried
    exact ⟨usage.userId, rfl, carried.userId⟩
  | generation content =>
    obtain ⟨usage, rfl, carried⟩ := carried
    exact ⟨usage.generationId, rfl, carried.generationId⟩
  | auditUser content =>
    obtain ⟨audit, rfl, carried⟩ := carried
    have user : Option.Rel Uuid.IsText (some text) audit.userId := carried.userId
    generalize given : audit.userId = user? at user
    cases user with
    | some isText => exact ⟨_, given, isText⟩

/-- An event that carries a text carries any other one of the same UUID. -/
theorem CarriedBy.congr {id : Uuid} (carried : place.CarriedBy text event)
    (given : place.id? event = some id) (isText : Uuid.IsText other id) :
    place.CarriedBy other event := by
  cases place with
  | usageUser content =>
    obtain ⟨usage, rfl, carried⟩ := carried
    cases given
    exact ⟨usage, rfl, { carried with userId := isText }⟩
  | generation content =>
    obtain ⟨usage, rfl, carried⟩ := carried
    cases given
    exact ⟨usage, rfl, { carried with generationId := isText }⟩
  | auditUser content =>
    obtain ⟨audit, rfl, carried⟩ := carried
    have same : audit.userId = some id := given
    have user : Option.Rel Uuid.IsText (some other) audit.userId := by
      rw [same]
      exact .some isText
    exact ⟨audit, rfl, { carried with userId := user }⟩

/-- A text in the place is carried by one event. -/
theorem CarriedBy.unique (carried : place.CarriedBy text event)
    (again : place.CarriedBy text event') : event = event' := by
  cases place with
  | usageUser content | generation content =>
    obtain ⟨usage, rfl, carried⟩ := carried
    obtain ⟨usage', rfl, again⟩ := again
    exact congrArg Event.usage (UsageEvent.Content.CarriedBy.unique carried again)
  | auditUser content =>
    obtain ⟨audit, rfl, carried⟩ := carried
    obtain ⟨audit', rfl, again⟩ := again
    exact congrArg Event.audit (AuditEvent.Content.CarriedBy.unique carried again)

/-- The id of an event is that of any text that it carries. -/
theorem CarriedBy.id?_eq {id : Uuid} (carried : place.CarriedBy text event)
    (isText : Uuid.IsText text id) : place.id? event = some id := by
  obtain ⟨other, given, again⟩ := carried.exists_id
  rw [given, again.unique isText]

/-- A body with a text that an event carries is read as that event. -/
theorem CarriedBy.ofBody (carried : place.CarriedBy text event) (acceptable : place.Acceptable)
    (states : place.States text body) : Event.ofBody place.kind body = .ok event := by
  obtain ⟨id, _, isText⟩ := carried.exists_id
  obtain ⟨event', run, again⟩ := exists_event (acceptable.acceptableWith ⟨id, isText⟩) states
  rw [run, carried.unique again]

/-- What is read carries the text in the place. -/
theorem carriedBy_of_ofBody (acceptable : place.Acceptable) (states : place.States text body)
    (run : Event.ofBody place.kind body = .ok event) : place.CarriedBy text event := by
  by_cases isText : ∃ id, Uuid.IsText text id
  · obtain ⟨event', run', carried⟩ := exists_event (acceptable.acceptableWith isText) states
    rw [run] at run'
    rwa [Except.ok.inj run']
  · rw [ofBody_of_noId acceptable states isText] at run
    cases run

/-! ## The spellings -/

/-- How a place is read, if everything else is acceptable. -/
structure ReadsIds (place : IdPlace) : Prop where
  /-- The texts of the forms are accepted, and no others. -/
  accepts {text : String} {body : Bytes} : place.States text body →
    ((∃ event, Event.ofBody place.kind body = .ok event) ↔
      ∃ digits, Uuid.Form text.toList digits)
  /-- The id has the value of the digits in order. -/
  value {text : String} {body : Bytes} {event : Event} {digits : List Nat} :
    place.States text body → Event.ofBody place.kind body = .ok event →
    Uuid.Form text.toList digits →
    ∃ id, place.id? event = some id ∧ id.bits.toNat = placeValue 16 digits
  /-- Two spellings give the same event exactly if their digits have the same value. -/
  alike {text other : String} {body again : Bytes} {digits digits' : List Nat} :
    place.States text body → place.States other again →
    Uuid.Form text.toList digits → Uuid.Form other.toList digits' →
    (Event.ofBody place.kind body = Event.ofBody place.kind again ↔
      placeValue 16 digits = placeValue 16 digits')
  /-- The id is printed in the canonical form, which is read as the id and gives the event. -/
  printed {text : String} {body : Bytes} {event : Event} {id : Uuid} :
    place.States text body → Event.ofBody place.kind body = .ok event →
    place.id? event = some id →
    Uuid.IsCanonical id.text ∧ Uuid.ofText? id.text = some id ∧
      ∀ again, place.States id.text again → Event.ofBody place.kind again = .ok event
  /-- Any other text is refused and shown as it is, with the name of the field. -/
  refuses {text : String} {body : Bytes} : place.States text body →
    (¬∃ digits, Uuid.Form text.toList digits) →
    Event.ofBody place.kind body = .error (.badId place.field text)

/-- Ids are spelled in the documented forms and in no other way, and whichever form the digits stand
in, the id is their value. -/
theorem readsIds (acceptable : place.Acceptable) : place.ReadsIds := by
  constructor
  case accepts =>
    intro text body states
    constructor
    · rintro ⟨event, run⟩
      have carried := carriedBy_of_ofBody acceptable states run
      obtain ⟨_, _, digits, form, _⟩ := carried.exists_id
      exact ⟨digits, form⟩
    · rintro ⟨digits, form⟩
      obtain ⟨id, isText, _⟩ := Uuid.exists_isText_of_form form
      obtain ⟨event, run, _⟩ := exists_event (acceptable.acceptableWith ⟨id, isText⟩) states
      exact ⟨event, run⟩
  case value =>
    intro text body event digits states run form
    have carried := carriedBy_of_ofBody acceptable states run
    obtain ⟨id, isText, value⟩ := Uuid.exists_isText_of_form form
    exact ⟨id, carried.id?_eq isText, value⟩
  case alike =>
    intro text other body again digits digits' states states' form form'
    obtain ⟨id, isText, value⟩ := Uuid.exists_isText_of_form form
    obtain ⟨id', isText', value'⟩ := Uuid.exists_isText_of_form form'
    obtain ⟨event, run, carried⟩ := exists_event (acceptable.acceptableWith ⟨id, isText⟩) states
    obtain ⟨event', run', carried'⟩ :=
      exists_event (acceptable.acceptableWith ⟨id', isText'⟩) states'
    have given : place.id? event = some id := carried.id?_eq isText
    have given' : place.id? event' = some id' := carried'.id?_eq isText'
    rw [← value, ← value']
    constructor
    · intro same
      rw [run, run'] at same
      rw [Except.ok.inj same, given'] at given
      rw [Option.some.inj given]
    · intro same
      have sameId : id' = id := congrArg Uuid.mk (BitVec.eq_of_toNat_eq same.symm)
      -- The one event carries both texts, since they are of one UUID.
      have both : place.CarriedBy other event := carried.congr given (sameId ▸ isText')
      rw [run, both.ofBody acceptable states']
  case printed =>
    intro text body event id states run given
    have carried := carriedBy_of_ofBody acceptable states run
    have isText := Uuid.isText_text id
    refine ⟨Uuid.isCanonical_text id, Uuid.ofText?_eq_some_iff.mpr isText, fun again states' => ?_⟩
    exact (carried.congr given isText).ofBody acceptable states'
  case refuses =>
    intro text body states noForm
    apply ofBody_of_noId acceptable states
    rintro ⟨_, digits, form, _⟩
    exact noForm ⟨digits, form⟩

/-! ## One user -/

deriving instance DecidableEq for UsageEvent.Content

/-- A document of a usage event with a text as its user. -/
def userBody (user : String) : Bytes :=
  word "\x7b\"type\":\"usage_event\"," ++
    word "\"userId\":\"" ++ word user ++ word "\"," ++
    word "\"generationId\":" ++ word "\"0b9e8d7c-6a5f-4e3d-9c2b-1a0f9e8d7c6b\"," ++
    word "\"inputTokens\":10,\"outputTokens\":5," ++ word "\"model\":\"gpt-x\"\x7d"

/-- What such a document says, but for its user. -/
def userPlace : IdPlace :=
  .usageUser ⟨"usage_event", "", "0b9e8d7c-6a5f-4e3d-9c2b-1a0f9e8d7c6b", 10, 5, "gpt-x"⟩

/-- The document is acceptable but for its user. -/
theorem acceptable_userPlace : userPlace.Acceptable := by
  have isText : ∃ id, Uuid.IsText "0b9e8d7c-6a5f-4e3d-9c2b-1a0f9e8d7c6b" id :=
    ⟨⟨0x0b9e8d7c6a5f4e3d9c2b1a0f9e8d7c6b⟩, Uuid.ofText?_eq_some_iff.mp (by decide +kernel)⟩
  exact ⟨_, rfl, isText, isText, by decide, by decide, by decide⟩

/-- What a document says is what is read from it. -/
theorem states_userBody {text : String}
    (read : (Json.Record.ofDocument UsageEvent.schema (userBody text)).map .ofRecord =
      some (⟨"usage_event", text, "0b9e8d7c-6a5f-4e3d-9c2b-1a0f9e8d7c6b", 10, 5, "gpt-x"⟩ :
        UsageEvent.Content)) :
    userPlace.States text (userBody text) := by
  obtain ⟨record, found, said⟩ := Option.map_eq_some_iff.mp read
  exact UsageEvent.states_iff.mpr ⟨record, found, said.symm⟩

/-- Digits in upper case between braces and digits alone are one user; with a hyphen one digit late
the text is none. -/
theorem userPlace_readsIds :
    userPlace.Acceptable ∧
      Event.ofBody .usage (userBody "\x7b6F1C2D3E-4B5A-4C6D-8E7F-901A2B3C4D5E\x7d") =
        Event.ofBody .usage (userBody "6f1c2d3e4b5a4c6d8e7f901a2b3c4d5e") ∧
      Event.ofBody .usage (userBody "6f1c2d3e4-b5a-4c6d-8e7f-901a2b3c4d5e") =
        .error (.badId "userId" "6f1c2d3e4-b5a-4c6d-8e7f-901a2b3c4d5e") := by
  let id : Uuid := ⟨0x6f1c2d3e4b5a4c6d8e7f901a2b3c4d5e⟩
  have reads := readsIds acceptable_userPlace
  obtain ⟨digits, braced, value⟩ : Uuid.IsText "\x7b6F1C2D3E-4B5A-4C6D-8E7F-901A2B3C4D5E\x7d" id :=
    Uuid.ofText?_eq_some_iff.mp (by decide +kernel)
  obtain ⟨digits', simple, value'⟩ : Uuid.IsText "6f1c2d3e4b5a4c6d8e7f901a2b3c4d5e" id :=
    Uuid.ofText?_eq_some_iff.mp (by decide +kernel)
  have noForm : ¬∃ digits, Uuid.Form "6f1c2d3e4-b5a-4c6d-8e7f-901a2b3c4d5e".toList digits := by
    rintro ⟨_, form⟩
    obtain ⟨id, isText, _⟩ := Uuid.exists_isText_of_form form
    have read : Uuid.ofText? "6f1c2d3e4-b5a-4c6d-8e7f-901a2b3c4d5e" = none := by decide +kernel
    rw [Uuid.ofText?_eq_some_iff.mpr isText] at read
    cases read
  refine ⟨acceptable_userPlace, ?_, ?_⟩
  · have same := value.symm.trans value'
    exact (reads.alike (states_userBody (by decide +kernel)) (states_userBody (by decide +kernel))
      braced simple).mpr same
  · exact reads.refuses (states_userBody (by decide +kernel)) noForm

/-- The name of the scheme may be in upper case too: such a text is accepted, though with the name
in lower case alone it would have none of the forms. -/
theorem userPlace_accepts_upperCase :
    let text := "URN:UUID:6f1c2d3e-4b5a-4c6d-8e7f-901a2b3c4d5e"
    userPlace.Acceptable ∧ userPlace.States text (userBody text) ∧
      (∃ event, Event.ofBody .usage (userBody text) = .ok event) ∧
      (¬∃ digits, Uuid.Hexadecimal text.toList digits ∧ digits.length = 32) ∧
      ¬∃ chars digits, Uuid.Hyphenated chars digits ∧
        (text.toList = chars ∨ text.toList = '\x7b' :: (chars ++ ['\x7d']) ∨
          text.toList = "urn:uuid:".toList ++ chars) := by
  intro text
  have states : userPlace.States text (userBody text) := states_userBody (by decide +kernel)
  have isText : Uuid.IsText text ⟨0x6f1c2d3e4b5a4c6d8e7f901a2b3c4d5e⟩ :=
    Uuid.ofText?_eq_some_iff.mp (by decide +kernel)
  obtain ⟨event, run, _⟩ := exists_event (acceptable_userPlace.acceptableWith ⟨_, isText⟩) states
  have long : text.toList.length = 45 := by decide
  refine ⟨acceptable_userPlace, states, ⟨event, run⟩, ?_, ?_⟩
  · rintro ⟨digits, hexadecimal, count⟩
    rw [List.Forall₂.length_eq hexadecimal, count] at long
    cases long
  · rintro ⟨chars, digits, hyphenated, plain | braced | urn⟩
    · rw [plain, hyphenated.head.1] at long
      cases long
    · rw [braced, List.length_cons, List.length_append, hyphenated.head.1] at long
      cases long
    · have first : text.toList.head? = some 'u' := by
        rw [urn]
        rfl
      exact absurd first (by decide)

end IdPlace

end EventLedger
