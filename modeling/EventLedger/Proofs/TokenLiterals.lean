import EventLedger.Proofs.EventText
import EventLedger.Proofs.Json.Gap

/-!
# Literals of token counts

A number literal that stands for a count of tokens is read exactly or refused: digits that a signed
word holds are the count, a minus sign before digits of a signed word is an error that shows the
number, and with any other literal, however long, the body is malformed, `TokenField.readsLiterals`.
Everything else that the body says stays as it is.
-/
namespace EventLedger

open Json (Bytes Gap byte)
open Json.Grammar

/-- A field of usage events that counts tokens. -/
inductive TokenField where
  /-- The tokens read. -/
  | input
  /-- The tokens written. -/
  | output
  deriving DecidableEq

namespace TokenField

/-- The name of the field. -/
def name : TokenField → String
  | .input => "inputTokens"
  | .output => "outputTokens"

/-- An event with another count in the field. -/
def withCount (field : TokenField) (count : TokenCount) (event : UsageEvent) : UsageEvent :=
  match field with
  | .input => { event with inputTokens := count }
  | .output => { event with outputTokens := count }

/-- The error of a negative number in the field, which shows the other count of an event as it
is. -/
def negative (field : TokenField) (value : Int) (event : UsageEvent) : ValidationError :=
  match field with
  | .input => .negativeTokens value event.outputTokens.value
  | .output => .negativeTokens event.inputTokens.value value

/-- What a document says with another number in the field. -/
def said (field : TokenField) (value : Int) (content : UsageEvent.Content) : UsageEvent.Content :=
  match field with
  | .input => { content with inputTokens := value }
  | .output => { content with outputTokens := value }

variable {field : TokenField} {gap : Gap} {event : UsageEvent} {filler bytes : Bytes}

/-- A usage event has both of the counts. -/
theorem mem_layout (field : TokenField) : (field.name, .count) ∈ UsageEvent.layout := by
  cases field <;> decide

/-! ## Another number -/

section

variable {early late : Json.Record} {name other : String} {found found' : Json.Field}

/-- What is said in another field does not depend on a field. -/
theorem statesText_replace {text : String} (differ : other ≠ name)
    (stated : StatesText (early ++ (name, found) :: late) other text) :
    StatesText (early ++ (name, found') :: late) other text := by
  simpa [StatesText, differ] using stated

/-- What a document states of one name does not depend on what it says of another. -/
theorem statesCount_replace {value : Int} (differ : other ≠ name)
    (stated : StatesCount (early ++ (name, found) :: late) other value) :
    StatesCount (early ++ (name, found') :: late) other value := by
  simpa [StatesCount, differ] using stated

end

/-- A document with another number in the field says that number there and all else as before. -/
theorem states_fill {content : UsageEvent.Content} (isOf : gap.IsOf UsageEvent.layout field.name)
    (complete : Loose .value filler) (states : UsageEvent.States (gap.fill filler) content)
    {value : Int} (counted : FieldValue .count bytes (.count (some value))) :
    UsageEvent.States (gap.fill bytes) (field.said value content) := by
  obtain ⟨record, document, type, user, generation, input, output, model⟩ := states
  obtain ⟨early, late, found, _, rfl, replaced⟩ :=
    isOf.exists_field UsageEvent.layout_distinct field.mem_layout complete document
  have given : StatesCount (early ++ (field.name, .count (some value)) :: late) field.name value :=
    .inl (by simp)
  cases field with
  | input =>
    exact ⟨_, replaced counted, statesText_replace (by decide) type,
      statesText_replace (by decide) user, statesText_replace (by decide) generation, given,
      statesCount_replace (by decide) output, statesText_replace (by decide) model⟩
  | output =>
    exact ⟨_, replaced counted, statesText_replace (by decide) type,
      statesText_replace (by decide) user, statesText_replace (by decide) generation,
      statesCount_replace (by decide) input, given, statesText_replace (by decide) model⟩

/-- A number that is a count makes an event with that count. -/
theorem ofBody_of_count (isOf : gap.IsOf UsageEvent.layout field.name)
    (complete : Loose .value filler) (accepted : UsageEvent.ofBody (gap.fill filler) = .ok event)
    (count : TokenCount) (counted : FieldValue .count bytes (.count (some (count.value : Int)))) :
    UsageEvent.ofBody (gap.fill bytes) = .ok (field.withCount count event) := by
  obtain ⟨content, states, acceptable, carried⟩ :=
    content_of_judged (UsageEvent.ofBody_cases _) accepted
  have states' := states_fill isOf complete states counted
  have acceptable' : (field.said count.value content).Acceptable := by
    obtain ⟨type, user, generation, input, output, model⟩ := acceptable
    cases field with
    | input => exact ⟨type, user, generation, Int.natCast_nonneg _, output, model⟩
    | output => exact ⟨type, user, generation, input, Int.natCast_nonneg _, model⟩
  have carried' : (field.said count.value content).CarriedBy (field.withCount count event) := by
    obtain ⟨user, generation, input, output, model⟩ := carried
    cases field with
    | input => exact ⟨user, generation, rfl, output, model⟩
    | output => exact ⟨user, generation, input, rfl, model⟩
  obtain ⟨other, run, again⟩ := ok_of_judged (UsageEvent.ofBody_cases _)
    UsageEvent.Content.FirstFault.not_acceptable states' acceptable'
  rw [run, again.unique carried']

/-- A negative number is the fault. -/
theorem ofBody_of_negative (isOf : gap.IsOf UsageEvent.layout field.name)
    (complete : Loose .value filler) (accepted : UsageEvent.ofBody (gap.fill filler) = .ok event)
    {value : Int} (below : value < 0)
    (counted : FieldValue .count bytes (.count (some value))) :
    UsageEvent.ofBody (gap.fill bytes) = .error (field.negative value event) := by
  obtain ⟨content, states, acceptable, carried⟩ :=
    content_of_judged (UsageEvent.ofBody_cases _) accepted
  have states' := states_fill isOf complete states counted
  have fault : (field.said value content).FirstFault (field.negative value event) := by
    obtain ⟨type, user, generation, _, _, _⟩ := acceptable
    cases field with
    | input =>
      rw [negative, ← carried.outputTokens]
      exact .tokens type user generation (.inl below)
    | output =>
      rw [negative, ← carried.inputTokens]
      exact .tokens type user generation (.inr below)
  exact error_of_judged (UsageEvent.ofBody_cases _) UsageEvent.Content.FirstFault.not_acceptable
    UsageEvent.Content.FirstFault.unique states' fault

/-- A complete value that is none of the field makes the body malformed. -/
theorem ofBody_of_noCount (isOf : gap.IsOf UsageEvent.layout field.name)
    (complete : Loose .value bytes) (noCount : ∀ found, ¬FieldValue .count bytes found) :
    UsageEvent.ofBody (gap.fill bytes) = .error (.malformed "") := by
  obtain ⟨content, only, _⟩ | ⟨run, _⟩ := UsageEvent.ofBody_cases (gap.fill bytes)
  · obtain ⟨record, document, _⟩ := (only content).mpr rfl
    obtain ⟨_, _, found, given, _⟩ :=
      isOf.exists_field UsageEvent.layout_distinct field.mem_layout complete document
    exact absurd given (noCount found)
  · exact run

/-! ## Literals -/

/-- How the literals of a field are read, if everything else is an event. -/
structure ReadsLiterals (field : TokenField) (gap : Gap) (event : UsageEvent) : Prop where
  /-- Digits of a number that a signed word holds are the count. -/
  count : ∀ {bytes digits}, Whole bytes digits →
    ∀ fits : placeValue 10 digits < Word.signWeight,
      UsageEvent.ofBody (gap.fill bytes) =
        .ok (field.withCount ⟨placeValue 10 digits, fits⟩ event)
  /-- A minus sign before digits of a number that a signed word holds is an error that shows the
  number. -/
  negative : ∀ {bytes digits}, Whole bytes digits → 0 < placeValue 10 digits →
    placeValue 10 digits ≤ Word.signWeight →
      UsageEvent.ofBody (gap.fill (byte '-' :: bytes)) =
        .error (field.negative (-(placeValue 10 digits : Int)) event)
  /-- With any other literal the body is malformed. -/
  refused : ∀ {bytes literal}, NumberLiteral bytes literal →
    (∀ digits, Whole bytes digits → Word.signWeight ≤ placeValue 10 digits) →
    (∀ unsigned digits, bytes = byte '-' :: unsigned → Whole unsigned digits →
      placeValue 10 digits = 0 ∨ Word.signWeight < placeValue 10 digits) →
      UsageEvent.ofBody (gap.fill bytes) = .error (.malformed "")

/-- Literals of token counts are read exactly or refused, whatever event they stand in. -/
theorem readsLiterals (isOf : gap.IsOf UsageEvent.layout field.name)
    (complete : Loose .value filler) (accepted : UsageEvent.ofBody (gap.fill filler) = .ok event) :
    field.ReadsLiterals gap event := by
  constructor
  case count =>
    intro bytes digits whole fits
    have greatest : (placeValue 10 digits : Int) < Word.signWeight := by omega
    exact ofBody_of_count isOf complete accepted ⟨_, fits⟩
      (.count (.natural whole) (by omega) greatest)
  case negative =>
    intro bytes digits whole above least
    exact ofBody_of_negative isOf complete accepted (by omega)
      (.count (.negative whole (by omega)) (by omega) (by omega))
  case refused =>
    intro bytes literal number large largeNegative
    apply ofBody_of_noCount isOf (.number number)
    intro found given
    cases given with
    | null =>
      obtain ⟨b, _, whole, head⟩ := Json.exists_number_head number
      have letter : b = byte 'n' := (List.cons.inj whole).1.symm
      exact Json.ne_of_number_head head (by decide) letter
    | count spelled least greatest =>
      cases spelled with
      | natural whole =>
        have above := large _ whole
        omega
      | negative whole nonzero =>
        have outside := largeNegative _ _ rfl whole
        omega

/-! ## One body -/

/-- A usage event without the number of tokens read. -/
def inputGap : Gap where
  container := .object
  before := []
  earlier := [word "\"type\":" ++ word "\"usage_event\"",
    word "\"userId\":" ++ word "\"6f1c2d3e-4b5a-4c6d-8e7f-901a2b3c4d5e\"",
    word "\"generationId\":" ++ word "\"0b9e8d7c-6a5f-4e3d-9c2b-1a0f9e8d7c6b\""]
  key := word "\"inputTokens\":" ++ word " "
  trail := []
  later := [word "\"outputTokens\":" ++ word "null", word "\"model\":" ++ word "\"gpt-x\""]
  after := word "\n"

/-- The event with no tokens read or written. -/
def unreadEvent : UsageEvent where
  userId := ⟨0x6f1c2d3e4b5a4c6d8e7f901a2b3c4d5e⟩
  generationId := ⟨0x0b9e8d7c6a5f4e3d9c2b1a0f9e8d7c6b⟩
  inputTokens := ⟨0, by decide⟩
  outputTokens := ⟨0, by decide⟩
  model := "gpt-x"

/-- Minus zero, a number with an exponent and one that no word holds are no counts. -/
example : ["-0", "1e2", "18446744073709551616"].map (fun literal =>
    UsageEvent.ofBody (inputGap.fill (word literal))) =
      List.replicate 3 (.error (.malformed "")) := by decide +kernel

/-- The gap is where the count of the input stands. -/
theorem inputGap_isOf : inputGap.IsOf UsageEvent.layout input.name := by
  have loose (text : String) (plain : ∀ c ∈ text.toList, ' ' ≤ c ∧ c ≠ '"' ∧ c ≠ '\\') :=
    Json.looseText_of_textLiteral (textLiteral_of_plain text plain)
  have type : Loose (.entry .object) (word "\"type\":" ++ word "\"usage_event\"") :=
    .member (loose "type" (by simp)) (spaced_self _) (.text (loose "usage_event" (by simp)))
      (spaced_self _)
  have user : Loose (.entry .object)
      (word "\"userId\":" ++ word "\"6f1c2d3e-4b5a-4c6d-8e7f-901a2b3c4d5e\"") :=
    .member (loose "userId" (by simp)) (spaced_self _)
      (.text (loose "6f1c2d3e-4b5a-4c6d-8e7f-901a2b3c4d5e" (by simp))) (spaced_self _)
  have generation : Loose (.entry .object)
      (word "\"generationId\":" ++ word "\"0b9e8d7c-6a5f-4e3d-9c2b-1a0f9e8d7c6b\"") :=
    .member (loose "generationId" (by simp)) (spaced_self _)
      (.text (loose "0b9e8d7c-6a5f-4e3d-9c2b-1a0f9e8d7c6b" (by simp))) (spaced_self _)
  have output : Loose (.entry .object) (word "\"outputTokens\":" ++ word "null") :=
    .member (loose "outputTokens" (by simp)) (spaced_self _) (.word (by decide)) (spaced_self _)
  have model : Loose (.entry .object) (word "\"model\":" ++ word "\"gpt-x\"") :=
    .member (loose "model" (by simp)) (spaced_self _) (.text (loose "gpt-x" (by simp)))
      (spaced_self _)
  constructor
  case before => exact List.forall_mem_nil _
  case earlier => simpa [inputGap] using ⟨type, user, generation⟩
  case introduces =>
    exact .name (textLiteral_of_plain "inputTokens" (by simp)) (spaced_self _)
      (List.forall_mem_singleton.mpr (by decide))
  case trail => exact List.forall_mem_nil _
  case later => simpa [inputGap] using ⟨output, model⟩
  case after => exact List.forall_mem_singleton.mpr (by decide)

/-- The greatest count, the number after it, the least number, and one with a point. -/
theorem inputGap_readsLiterals :
    inputGap.IsOf UsageEvent.layout input.name ∧ Loose .value (word "null") ∧
      UsageEvent.ofBody (inputGap.fill (word "null")) = .ok unreadEvent ∧
      UsageEvent.ofBody (inputGap.fill (word "9223372036854775807")) =
        .ok { unreadEvent with inputTokens := ⟨9223372036854775807, by decide⟩ } ∧
      UsageEvent.ofBody (inputGap.fill (word "9223372036854775808")) = .error (.malformed "") ∧
      UsageEvent.ofBody (inputGap.fill (word "-9223372036854775808")) =
        .error (.negativeTokens (-9223372036854775808) 0) ∧
      UsageEvent.ofBody (inputGap.fill (word "1.0")) = .error (.malformed "") := by
  have complete : Loose .value (word "null") := .word (by decide)
  have accepted : UsageEvent.ofBody (inputGap.fill (word "null")) = .ok unreadEvent := by
    decide +kernel
  have reads := readsLiterals inputGap_isOf complete accepted
  have greatest : Whole (word "9223372036854775807")
      [9, 2, 2, 3, 3, 7, 2, 0, 3, 6, 8, 5, 4, 7, 7, 5, 8, 0, 7] :=
    Json.whole_iff.mpr (by decide +kernel)
  have weight : Json.readWhole (word "9223372036854775808") =
      some ([9, 2, 2, 3, 3, 7, 2, 0, 3, 6, 8, 5, 4, 7, 7, 5, 8, 0, 8], []) := by
    decide +kernel
  have one : Json.readWhole (word "1.0") = some ([1], word ".0") := by decide +kernel
  have large : NumberLiteral (word "9223372036854775808")
      ⟨false, [9, 2, 2, 3, 3, 7, 2, 0, 3, 6, 8, 5, 4, 7, 7, 5, 8, 0, 8], none, none⟩ :=
    ⟨_, [], [], Json.whole_iff.mpr weight, .absent, .absent, by simp⟩
  have point : NumberLiteral (word "1.0") ⟨false, [1], some [0], none⟩ :=
    ⟨word "1", byte '.' :: word "0", [], Json.whole_iff.mpr (by decide +kernel),
      .present ⟨by simp [Digits, IsDigit, byte], by simp⟩, .absent, by decide⟩
  refine ⟨inputGap_isOf, complete, accepted, reads.count greatest (by decide), ?_,
    reads.negative (Json.whole_iff.mpr weight) (by decide) (by decide), ?_⟩
  · apply reads.refused large
    · intro digits whole
      rw [Json.whole_iff, weight] at whole
      cases whole
      decide
    · intro _ _ same
      exact absurd (List.cons.inj same).1 (by decide)
  · apply reads.refused point
    · intro digits whole
      rw [Json.whole_iff, one] at whole
      cases whole
    · intro _ _ same
      exact absurd (List.cons.inj same).1 (by decide)

end TokenField

end EventLedger
