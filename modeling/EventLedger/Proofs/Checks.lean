import EventLedger.Event.Decoding
import EventLedger.Proofs.Json.Document
import EventLedger.Proofs.Uuid

/-!
# The checks of a body

Each check of a record either passes or gives the error of what it found, and what a record is
checked for is what its document says. So a kind of event is read exactly if its checks find what
they should in what the document says, `exact_of_judged`; the kinds differ only in their checks.
-/
namespace EventLedger

open Json (Bytes Record Schema)

/-! ## One check -/

/-- The type of a body is the expected one, or it is refused with its own type. -/
theorem checkType_cases (expected : String) (record : Record) :
    (checkType expected record = .ok () ∧ (record.text? "type").getD "" = expected) ∨
      checkType expected record = .error (.wrongType expected ((record.text? "type").getD "")) ∧
        (record.text? "type").getD "" ≠ expected := by
  by_cases same : (record.text? "type").getD "" = expected
  · exact .inl ⟨if_pos same, same⟩
  · exact .inr ⟨if_neg same, same⟩

/-- No text of a field is read as a UUID that is none. -/
theorem readId_cases (field value : String) :
    (∃ id, readId field value = .ok id ∧ Uuid.IsText value id) ∨
      readId field value = .error (.badId field value) ∧ ¬∃ id, Uuid.IsText value id := by
  rw [readId]
  cases spelled : Uuid.ofText? value with
  | some id => exact .inl ⟨id, rfl, Uuid.ofText?_eq_some_iff.mp spelled⟩
  | none =>
    refine .inr ⟨rfl, ?_⟩
    rintro ⟨id, isText⟩
    rw [Uuid.ofText?_eq_some_iff.mpr isText] at spelled
    cases spelled

/-- A required text is there, or its field is reported as missing. -/
theorem requiredText_cases (field : String) (record : Record) :
    (requiredText field record = .ok ((record.text? field).getD "") ∧
        (record.text? field).getD "" ≠ "") ∨
      requiredText field record = .error (.missingField field) ∧
        (record.text? field).getD "" = "" := by
  by_cases empty : (record.text? field).getD "" = ""
  · exact .inr ⟨if_pos empty, empty⟩
  · exact .inl ⟨if_neg empty, empty⟩

/-! ## A body -/

section

variable {Content Event : Type} {Acceptable : Content → Prop}
variable {CarriedBy : Content → Event → Prop} {FirstFault : Content → ValidationError → Prop}

/-- A result is the judgement of what a document says. -/
def Judges (Acceptable : Content → Prop) (CarriedBy : Content → Event → Prop)
    (FirstFault : Content → ValidationError → Prop) (result : Except ValidationError Event)
    (content : Content) : Prop :=
  (∃ event, result = .ok event ∧ Acceptable content ∧ CarriedBy content event) ∨
    ∃ error, result = .error error ∧ FirstFault content error

/-- A body is judged by what it says if it is a document. -/
theorem judges_cases {schema : Schema} {judge : Record → Except ValidationError Event}
    {contents : Record → Content} {body : Bytes} {States : Content → Prop}
    (states : ∀ content, States content ↔
      ∃ record, Record.ofDocument schema body = some record ∧ content = contents record)
    (judged : ∀ record, Record.ofDocument schema body = some record →
      Judges Acceptable CarriedBy FirstFault (judge record) (contents record)) :
    (∃ content, (∀ other, States other ↔ other = content) ∧
      Judges Acceptable CarriedBy FirstFault (readBody schema body >>= judge) content) ∨
    (readBody schema body >>= judge) = .error (.malformed "") ∧ ∀ content, ¬States content := by
  simp only [states]
  cases read : Record.ofDocument schema body with
  | none =>
    right
    have run : (readBody schema body >>= judge) = .error (.malformed "") := by
      rw [readBody, read]
      rfl
    exact ⟨run, by simp⟩
  | some record =>
    left
    have run : (readBody schema body >>= judge) = judge record := by
      rw [readBody, read]
      rfl
    rw [run]
    exact ⟨contents record, by simp, judged record read⟩

/-- A result that judges what a document says is exact, if no fault is acceptable and there is one
first fault. -/
theorem exact_of_judged {result : Except ValidationError Event} {States : Content → Prop}
    (refused : ∀ {content error}, FirstFault content error → ¬Acceptable content)
    (first : ∀ {content error other}, FirstFault content error → FirstFault content other →
      error = other)
    (judged : (∃ content, (∀ other, States other ↔ other = content) ∧
        Judges Acceptable CarriedBy FirstFault result content) ∨
      result = .error (.malformed "") ∧ ∀ content, ¬States content) :
    ((∃ event, result = .ok event) ↔ ∃ content, States content ∧ Acceptable content) ∧
    (∀ event, result = .ok event → ∀ content, States content → CarriedBy content event) ∧
    ∀ error, result = .error error ↔
      (error = .malformed "" ∧ ∀ content, ¬States content) ∨
      ∃ content, States content ∧ FirstFault content error := by
  obtain ⟨content, states, judged⟩ | ⟨rfl, noDocument⟩ := judged
  case inr => simp [noDocument, eq_comm]
  simp only [states, exists_eq_left, forall_eq, and_false, false_or]
  obtain ⟨event, rfl, acceptable, carried⟩ | ⟨error, rfl, fault⟩ := judged
  · refine ⟨iff_of_true ⟨event, rfl⟩ acceptable, ?_, fun error => iff_of_false ?_ ?_⟩
    · rintro _ ⟨⟩
      exact carried
    · rintro ⟨⟩
    · exact fun fault => refused fault acceptable
  · refine ⟨iff_of_false ?_ (refused fault), ?_, fun other => ⟨?_, ?_⟩⟩
    · rintro ⟨_, ⟨⟩⟩
    · rintro _ ⟨⟩
    · rintro ⟨⟩
      exact fault
    · exact fun again => congrArg _ (first fault again)

/-- What a document says is carried by the result if it is acceptable. -/
theorem ok_of_judged {result : Except ValidationError Event} {States : Content → Prop}
    {content : Content}
    (judged : (∃ content, (∀ other, States other ↔ other = content) ∧
        Judges Acceptable CarriedBy FirstFault result content) ∨
      result = .error (.malformed "") ∧ ∀ content, ¬States content)
    (refused : ∀ {content error}, FirstFault content error → ¬Acceptable content)
    (states : States content) (acceptable : Acceptable content) :
    ∃ event, result = .ok event ∧ CarriedBy content event := by
  obtain ⟨_, only, judged⟩ | ⟨_, noDocument⟩ := judged
  · obtain rfl := (only content).mp states
    obtain ⟨event, run, _, carried⟩ | ⟨error, _, fault⟩ := judged
    · exact ⟨event, run, carried⟩
    · exact absurd acceptable (refused fault)
  · exact absurd states (noDocument content)

/-- An event carries what a document says that is acceptable. -/
theorem content_of_judged {result : Except ValidationError Event} {States : Content → Prop}
    {event : Event}
    (judged : (∃ content, (∀ other, States other ↔ other = content) ∧
        Judges Acceptable CarriedBy FirstFault result content) ∨
      result = .error (.malformed "") ∧ ∀ content, ¬States content)
    (accepted : result = .ok event) :
    ∃ content, States content ∧ Acceptable content ∧ CarriedBy content event := by
  obtain ⟨content, only, ⟨other, run, acceptable, carried⟩ | ⟨_, run, _⟩⟩ | ⟨run, _⟩ := judged
  · obtain rfl : event = other := Except.ok.inj (accepted.symm.trans run)
    exact ⟨content, (only content).mpr rfl, acceptable, carried⟩
  · rw [accepted] at run
    cases run
  · rw [accepted] at run
    cases run

/-- What a document says is refused for its first fault. -/
theorem error_of_judged {result : Except ValidationError Event} {States : Content → Prop}
    {content : Content} {error : ValidationError}
    (judged : (∃ content, (∀ other, States other ↔ other = content) ∧
        Judges Acceptable CarriedBy FirstFault result content) ∨
      result = .error (.malformed "") ∧ ∀ content, ¬States content)
    (refused : ∀ {content error}, FirstFault content error → ¬Acceptable content)
    (first : ∀ {content error other}, FirstFault content error → FirstFault content other →
      error = other)
    (states : States content) (fault : FirstFault content error) : result = .error error := by
  obtain ⟨_, only, judged⟩ | ⟨_, noDocument⟩ := judged
  · obtain rfl := (only content).mp states
    obtain ⟨_, _, acceptable, _⟩ | ⟨other, run, again⟩ := judged
    · exact absurd acceptable (refused fault)
    · rw [run, first fault again]
  · exact absurd states (noDocument content)

/-- What is judged is refused as no document, or for its first fault. -/
theorem fault_of_judged {result : Except ValidationError Event} {States : Content → Prop}
    {error : ValidationError}
    (judged : (∃ content, (∀ other, States other ↔ other = content) ∧
        Judges Acceptable CarriedBy FirstFault result content) ∨
      result = .error (.malformed "") ∧ ∀ content, ¬States content)
    (refused : result = .error error) :
    error = .malformed "" ∨ ∃ content, FirstFault content error := by
  obtain ⟨content, _, ⟨event, accepted, _⟩ | ⟨fault, found, first⟩⟩ | ⟨found, _⟩ := judged
  · rw [refused] at accepted
    cases accepted
  · obtain rfl : error = fault := Except.error.inj (refused.symm.trans found)
    exact .inr ⟨content, first⟩
  · exact .inl (Except.error.inj (refused.symm.trans found))

end

end EventLedger
