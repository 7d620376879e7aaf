import EventLedger.Proofs.Checks

/-!
# The format of usage events

A body is a usage event exactly if it is a document of the grammar whose fields say what they must,
and otherwise it is refused for the first thing that is wrong with it, in a fixed order:
`ofBody_exact`. A body that is no document is refused for that, whatever else may be wrong with it.
-/
namespace EventLedger.UsageEvent

open Json (Bytes Record Schema)
open Json.Grammar

/-- The fields of a document in their order. -/
def layout : Schema :=
  [("type", .text), ("userId", .text), ("generationId", .text), ("inputTokens", .count),
    ("outputTokens", .count), ("model", .text)]

/-- What a document says. -/
structure Content where
  /-- Its type. -/
  type : String
  /-- Who asked for the generation. -/
  userId : String
  /-- The generation. -/
  generationId : String
  /-- The tokens read. -/
  inputTokens : Int
  /-- The tokens written. -/
  outputTokens : Int
  /-- The model that was used. -/
  model : String

/-- A body is a document that says something; what it leaves out or gives as null is empty or
zero. -/
def States (body : Bytes) (content : Content) : Prop :=
  ∃ record, Document layout body record ∧
    StatesText record "type" content.type ∧
    StatesText record "userId" content.userId ∧
    StatesText record "generationId" content.generationId ∧
    StatesCount record "inputTokens" content.inputTokens ∧
    StatesCount record "outputTokens" content.outputTokens ∧
    StatesText record "model" content.model

namespace Content

/-- What the document of an event must say. -/
structure Acceptable (content : Content) : Prop where
  /-- That it is of the kind. -/
  type : content.type = "usage_event"
  /-- A user. -/
  userId : ∃ id, Uuid.IsText content.userId id
  /-- A generation. -/
  generationId : ∃ id, Uuid.IsText content.generationId id
  /-- No negative number of tokens read. -/
  inputTokens : 0 ≤ content.inputTokens
  /-- No negative number of tokens written. -/
  outputTokens : 0 ≤ content.outputTokens
  /-- A model. -/
  model : content.model ≠ ""

/-- An event carries what a document says. -/
structure CarriedBy (content : Content) (event : UsageEvent) : Prop where
  /-- The user. -/
  userId : Uuid.IsText content.userId event.userId
  /-- The generation. -/
  generationId : Uuid.IsText content.generationId event.generationId
  /-- The tokens read. -/
  inputTokens : content.inputTokens = event.inputTokens.value
  /-- The tokens written. -/
  outputTokens : content.outputTokens = event.outputTokens.value
  /-- The model. -/
  model : content.model = event.model

/-- The first thing that is wrong with what a document says. -/
inductive FirstFault (content : Content) : ValidationError → Prop where
  /-- Its type is another one. -/
  | type (other : content.type ≠ "usage_event") :
      FirstFault content (.wrongType "usage_event" content.type)
  /-- Its user is no UUID. -/
  | userId (type : content.type = "usage_event")
      (noId : ¬∃ id, Uuid.IsText content.userId id) :
      FirstFault content (.badId "userId" content.userId)
  /-- Its generation is no UUID. -/
  | generationId (type : content.type = "usage_event")
      (user : ∃ id, Uuid.IsText content.userId id)
      (noId : ¬∃ id, Uuid.IsText content.generationId id) :
      FirstFault content (.badId "generationId" content.generationId)
  /-- One of its numbers of tokens is negative. -/
  | tokens (type : content.type = "usage_event") (user : ∃ id, Uuid.IsText content.userId id)
      (generation : ∃ id, Uuid.IsText content.generationId id)
      (negative : content.inputTokens < 0 ∨ content.outputTokens < 0) :
      FirstFault content (.negativeTokens content.inputTokens content.outputTokens)
  /-- It names no model. -/
  | model (type : content.type = "usage_event") (user : ∃ id, Uuid.IsText content.userId id)
      (generation : ∃ id, Uuid.IsText content.generationId id)
      (input : 0 ≤ content.inputTokens) (output : 0 ≤ content.outputTokens)
      (empty : content.model = "") : FirstFault content (.missingField "model")

end Content

/-! ## What is read is what a document says -/

/-- No two fields of a usage event have the same name. -/
theorem layout_distinct : Schema.Distinct layout := by decide

/-- What a record says. -/
def Content.ofRecord (record : Record) : Content where
  type := (record.text? "type").getD ""
  userId := (record.text? "userId").getD ""
  generationId := (record.text? "generationId").getD ""
  inputTokens := (record.count? "inputTokens").getD 0
  outputTokens := (record.count? "outputTokens").getD 0
  model := (record.text? "model").getD ""

/-- A body says what its record does. -/
theorem states_iff {body : Bytes} {content : Content} :
    States body content ↔
      ∃ record, Record.ofDocument schema body = some record ∧ content = .ofRecord record := by
  have distinct {record : Record} (read : Record.ofDocument layout body = some record) :
      Json.Distinct record := by
    have given := Json.distinct_of_document layout_distinct
      ((Json.ofDocument_iff layout_distinct).mp read)
    exact Json.distinct_reverse.mp given
  constructor
  · rintro ⟨record, reads, stated⟩
    rw [← List.reverse_reverse record] at reads stated
    have read := (Json.ofDocument_iff layout_distinct).mpr reads
    simp only [Json.statesText_iff (distinct read), Json.statesCount_iff (distinct read)] at stated
    obtain ⟨type, user, generation, input, output, model⟩ := stated
    refine ⟨record.reverse, read, ?_⟩
    rw [Content.ofRecord, type, user, generation, input, output, model]
  · rintro ⟨record, read, rfl⟩
    have reads := (Json.ofDocument_iff layout_distinct).mp read
    refine ⟨record.reverse, reads, ?_⟩
    simp only [Json.statesText_iff (distinct read), Json.statesCount_iff (distinct read)]
    exact ⟨rfl, rfl, rfl, rfl, rfl, rfl⟩

/-- The counts that a document states fit a signed word. -/
theorem fits_of_states {body : Bytes} {content : Content} (states : States body content) :
    content.inputTokens < Word.signWeight ∧ content.outputTokens < Word.signWeight := by
  obtain ⟨record, reads, _, _, _, input, output, _⟩ := states
  exact ⟨Json.statesCount_lt reads input, Json.statesCount_lt reads output⟩

/-! ## Checks -/

/-- A number within a word is a count unless it is negative. -/
theorem ofInt?_cases {value : Int} (fits : value < Word.signWeight) :
    (∃ count : TokenCount, TokenCount.ofInt? value = some count ∧ value = count.value ∧ 0 ≤ value) ∨
      TokenCount.ofInt? value = none ∧ value < 0 := by
  rw [TokenCount.ofInt?]
  by_cases negative : value < 0
  · right
    refine ⟨?_, negative⟩
    split
    · exact if_neg (by omega)
    · rfl
  · left
    have bound : value.toNat < Word.signWeight := by omega
    rw [dif_pos bound, if_pos (by omega)]
    exact ⟨_, rfl, by simp; omega, by omega⟩

/-- The counts of a record are both read, or refused together if one is negative. -/
theorem readTokens_cases {record : Record} {content : Content} (stated : content = .ofRecord record)
    (fits : content.inputTokens < Word.signWeight ∧ content.outputTokens < Word.signWeight) :
    (∃ input output : TokenCount, readTokens record = .ok (input, output) ∧
        content.inputTokens = input.value ∧ content.outputTokens = output.value) ∨
      readTokens record = .error (.negativeTokens content.inputTokens content.outputTokens) ∧
        (content.inputTokens < 0 ∨ content.outputTokens < 0) := by
  subst stated
  obtain ⟨input, counted, isInput, _⟩ | ⟨refused, negative⟩ := ofInt?_cases fits.1
  · obtain ⟨output, counted', isOutput, _⟩ | ⟨refused, negative⟩ := ofInt?_cases fits.2
    · refine .inl ⟨input, output, ?_, isInput, isOutput⟩
      simp only [Content.ofRecord] at counted counted'
      simp only [readTokens, counted, counted']
    · refine .inr ⟨?_, .inr negative⟩
      simp only [Content.ofRecord] at counted refused
      simp only [readTokens, counted, refused, Content.ofRecord]
  · refine .inr ⟨?_, .inl negative⟩
    simp only [Content.ofRecord] at refused
    simp only [readTokens, refused, Content.ofRecord]

/-- The checks of a record, one after the other. -/
theorem ofRecord_cases {record : Record} {content : Content} (stated : content = .ofRecord record)
    (fits : content.inputTokens < Word.signWeight ∧ content.outputTokens < Word.signWeight) :
    Judges Content.Acceptable Content.CarriedBy Content.FirstFault (ofRecord record) content := by
  have run : ofRecord record = (do
      checkType typeName record
      let userId ← readId "userId" content.userId
      let generationId ← readId "generationId" content.generationId
      let tokens ← readTokens record
      let model ← requiredText "model" record
      return {
        userId, generationId, inputTokens := tokens.1, outputTokens := tokens.2, model }) := by
    subst stated
    rfl
  have typed := checkType_cases typeName record
  have named := requiredText_cases "model" record
  rw [show (record.text? "type").getD "" = content.type by rw [stated]; rfl] at typed
  rw [show (record.text? "model").getD "" = content.model by rw [stated]; rfl] at named
  obtain ⟨checked, type⟩ | ⟨refused, type⟩ := typed
  case inr =>
    rw [refused] at run
    exact .inr ⟨_, run, .type type⟩
  rw [checked] at run
  obtain ⟨user, isUser, userText⟩ | ⟨refused, noUser⟩ := readId_cases "userId" content.userId
  case inr =>
    rw [refused] at run
    exact .inr ⟨_, run, .userId type noUser⟩
  rw [isUser] at run
  obtain ⟨generation, isGeneration, generationText⟩ | ⟨refused, noGeneration⟩ :=
    readId_cases "generationId" content.generationId
  case inr =>
    rw [refused] at run
    exact .inr ⟨_, run, .generationId type ⟨user, userText⟩ noGeneration⟩
  rw [isGeneration] at run
  obtain ⟨input, output, tokens, isInput, isOutput⟩ | ⟨refused, negative⟩ :=
    readTokens_cases stated fits
  case inr =>
    rw [refused] at run
    exact .inr ⟨_, run, .tokens type ⟨user, userText⟩ ⟨generation, generationText⟩ negative⟩
  rw [tokens] at run
  obtain ⟨named, nonempty⟩ | ⟨refused, empty⟩ := named
  case inr =>
    rw [refused] at run
    exact .inr ⟨_, run, .model type ⟨user, userText⟩ ⟨generation, generationText⟩ (by omega)
      (by omega) empty⟩
  rw [named] at run
  exact .inl ⟨_, run,
    ⟨type, ⟨user, userText⟩, ⟨generation, generationText⟩, by omega, by omega, nonempty⟩,
    ⟨userText, generationText, isInput, isOutput, rfl⟩⟩

/-- What has a fault is not acceptable. -/
theorem Content.FirstFault.not_acceptable {content : Content} {error : ValidationError}
    (fault : content.FirstFault error) : ¬content.Acceptable := by
  rintro ⟨type, user, generation, input, output, model⟩
  cases fault with
  | type other => exact other type
  | userId _ noId => exact noId user
  | generationId _ _ noId => exact noId generation
  | tokens _ _ _ negative => omega
  | model _ _ _ _ _ empty => exact model empty

/-- There is one first fault: each one but the last rules out what the later ones require. -/
theorem Content.FirstFault.unique {content : Content} {error other : ValidationError}
    (fault : content.FirstFault error) (again : content.FirstFault other) : error = other := by
  cases fault
  all_goals cases again
  all_goals first | rfl | contradiction | omega

/-- What a document says is no two events. -/
theorem Content.CarriedBy.unique {content : Content} {event other : UsageEvent}
    (carried : content.CarriedBy event) (again : content.CarriedBy other) : event = other := by
  obtain ⟨user, generation, ⟨input, _⟩, ⟨output, _⟩, model⟩ := event
  obtain ⟨user', generation', ⟨input', _⟩, ⟨output', _⟩, model'⟩ := other
  obtain rfl : user = user' := carried.userId.unique again.userId
  obtain rfl : generation = generation' := carried.generationId.unique again.generationId
  obtain rfl : input = input' :=
    Int.ofNat.inj (carried.inputTokens.symm.trans again.inputTokens)
  obtain rfl : output = output' :=
    Int.ofNat.inj (carried.outputTokens.symm.trans again.outputTokens)
  obtain rfl : model = model' := carried.model.symm.trans again.model
  rfl

/-- A body is judged by what it says if it is a document. -/
theorem ofBody_cases (body : Bytes) :
    (∃ content, (∀ other, States body other ↔ other = content) ∧
      Judges Content.Acceptable Content.CarriedBy Content.FirstFault (ofBody body) content) ∨
    ofBody body = .error (.malformed "") ∧ ∀ content, ¬States body content :=
  judges_cases (fun _ => states_iff) fun record read =>
    ofRecord_cases rfl (fits_of_states (states_iff.mpr ⟨record, read, rfl⟩))

/-- The format of usage events is kept exactly: an event is read from the bodies that are documents
of it and say what they must, and carries what they say; any other body is refused as no document
if it is none, and for the first thing that is wrong with what it says if it is one. -/
theorem ofBody_exact (body : Bytes) :
    ((∃ event, ofBody body = .ok event) ↔ ∃ content, States body content ∧ content.Acceptable) ∧
    (∀ event, ofBody body = .ok event → ∀ content, States body content → content.CarriedBy event) ∧
    ∀ error, ofBody body = .error error ↔
      (error = .malformed "" ∧ ∀ content, ¬States body content) ∨
      ∃ content, States body content ∧ content.FirstFault error :=
  exact_of_judged Content.FirstFault.not_acceptable Content.FirstFault.unique (ofBody_cases body)

end EventLedger.UsageEvent
