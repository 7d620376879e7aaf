import EventLedger.Proofs.Json.Number
import EventLedger.Proofs.Json.Text

/-!
# Values that nobody reads are skipped as the grammar has them

Skipping keeps no tree, only which containers are open, so what it passes is a value of the grammar
because of what the open containers still demand of the bytes after it, `Closes`. The other way
round, a value takes a number of steps that its length bounds, `Skipped`, so a bound on the steps
that grows with the input never cuts a value short.
-/
namespace EventLedger.Json

open Grammar

/-! ## Parts of entries -/

/-- Blanks after blanks are blanks. -/
theorem blanks_append {left right : Bytes} (first : Blanks left) (second : Blanks right) :
    Blanks (left ++ right) :=
  List.forall_mem_append.mpr ⟨first, second⟩

/-- Blanks are skipped up to the first other byte. -/
theorem skipSpace_append {blanks rest : Bytes} {b : UInt8} (blank : Blanks blanks)
    (other : isSpace b = false) : skipSpace (blanks ++ b :: rest) = b :: rest := by
  rw [skipSpace_blanks blank, skipSpace_cons other]

/-- A text is read after the blanks before it. -/
theorem readText_blanks {blanks text rest : Bytes} {key : String} (named : TextLiteral text key)
    (blank : Blanks blanks) :
    readText (skipSpace (blanks ++ (text ++ rest))) = some (key, rest) := by
  have read := readText_append named rest
  obtain ⟨pieces, each, rfl⟩ := named
  rw [List.cons_append] at read ⊢
  rw [skipSpace_append blank (by decide), read]

/-- What stands before the value of an entry and the blanks around it. -/
inductive EntryBegins : Container → Bytes → Prop where
  /-- Nothing in an array. -/
  | array : EntryBegins .array []
  /-- A key and a colon in an object. -/
  | object {text bytes : Bytes} (loose : LooseText text) (spaced : Spaced text bytes) :
      EntryBegins .object (bytes ++ [byte ':'])

/-- An entry is its beginning and a value. -/
theorem EntryBegins.entry {container : Container} {key core bytes : Bytes}
    (begins : EntryBegins container key) (value : Loose .value core) (spaced : Spaced core bytes) :
    Loose (.entry container) (key ++ bytes) := by
  cases begins with
  | array => exact .item value spaced
  | object loose spaced' =>
    rw [List.append_assoc]
    exact .member loose spaced' value spaced

/-- Blanks may come before an entry. -/
theorem entry_blanks_append {container : Container} {blanks bytes : Bytes} (blank : Blanks blanks)
    (entry : Loose (.entry container) bytes) : Loose (.entry container) (blanks ++ bytes) := by
  cases entry with
  | item value spaced =>
    obtain ⟨before, after, left, right, rfl⟩ := spaced
    exact .item value ⟨blanks ++ before, after, blanks_append blank left, right, by simp⟩
  | member loose spaced value spaced' =>
    obtain ⟨before, after, left, right, rfl⟩ := spaced
    rw [← List.append_assoc]
    exact .member loose ⟨blanks ++ before, after, blanks_append blank left, right, by simp⟩ value
      spaced'

/-- What begins an entry of a container is skipped. -/
theorem skipKey_append {container : Container} {key : Bytes} (begins : EntryBegins container key)
    (rest : Bytes) : skipKey container (key ++ rest) = some rest := by
  cases begins with
  | array => rfl
  | object loose spaced =>
    obtain ⟨tail, rfl, skips⟩ := skipTextTail_append loose
    obtain ⟨before, after, left, right, rfl⟩ := spaced
    simp only [List.append_assoc, List.cons_append, List.nil_append, skipKey]
    rw [skipSpace_append left (by decide)]
    dsimp only
    rw [if_pos rfl, skips]
    dsimp only
    rw [skipSpace_append right (by decide)]
    exact if_pos rfl

/-- What is skipped there begins an entry. -/
theorem skipKey_eq_some {container : Container} {input rest : Bytes}
    (skipped : skipKey container input = some rest) :
    ∃ key, input = key ++ rest ∧ EntryBegins container key := by
  cases container with
  | array =>
    cases skipped
    exact ⟨[], rfl, .array⟩
  | object =>
    rw [skipKey] at skipped
    generalize skip : skipSpace input = input' at skipped
    obtain ⟨before, left, rfl⟩ := exists_blanks skip
    obtain _ | ⟨quote, tail⟩ := input'
    · cases skipped
    dsimp only at skipped
    split at skipped
    next isQuote =>
      subst isQuote
      split at skipped
      · cases skipped
      next afterText text =>
        obtain ⟨text, same, loose⟩ := skipTextTail_eq_some text
        generalize skip' : skipSpace afterText = afterText' at skipped
        obtain ⟨after, right, rfl⟩ := exists_blanks skip'
        obtain _ | ⟨colon, last⟩ := afterText'
        · cases skipped
        dsimp only at skipped
        split at skipped
        next isColon =>
          cases skipped
          subst isColon
          refine ⟨_, ?_, .object loose ⟨before, after, left, right, rfl⟩⟩
          rw [same]
          simp
        · cases skipped
    · cases skipped

/-! ## Values without parts -/

/-- What is skipped as a scalar is a loose value. -/
theorem skipScalar_eq_some {input rest : Bytes} (skipped : skipScalar input = some rest) :
    ∃ value, input = value ++ rest ∧ Loose .value value := by
  obtain _ | ⟨b, input⟩ := input
  · cases skipped
  rw [skipScalar] at skipped
  split at skipped
  next quote =>
    obtain ⟨text, same, loose⟩ := skipTextTail_eq_some skipped
    exact ⟨text, by rw [quote, same], .text loose⟩
  split at skipped
  next first =>
    rw [skipWord?_eq_some_iff] at skipped
    subst first skipped
    exact ⟨word "null", rfl, .word (by decide)⟩
  split at skipped
  next first =>
    rw [skipWord?_eq_some_iff] at skipped
    subst first skipped
    exact ⟨word "true", rfl, .word (by decide)⟩
  split at skipped
  next first =>
    rw [skipWord?_eq_some_iff] at skipped
    subst first skipped
    exact ⟨word "false", rfl, .word (by decide)⟩
  · rw [Option.map_eq_some_iff] at skipped
    obtain ⟨⟨literal, after⟩, found, rfl⟩ := skipped
    obtain ⟨spelled, whole, number⟩ := readLiteral_eq_some found
    exact ⟨spelled, whole, .number number⟩

/-- A number begins with a minus sign or a digit. -/
theorem exists_number_head {bytes : Bytes} {literal : Literal}
    (number : NumberLiteral bytes literal) :
    ∃ b rest, bytes = b :: rest ∧ (b = byte '-' ∨ ∃ d, IsDigit 10 b.toNat d) := by
  obtain ⟨negative, wholeDigits, _, _⟩ := literal
  obtain ⟨whole, fraction, exponent, ⟨⟨digits, nonempty⟩, _⟩, _, _, rfl⟩ := number
  cases negative with
  | true => exact ⟨_, _, rfl, .inl rfl⟩
  | false =>
    cases digits with
    | nil => exact absurd rfl nonempty
    | cons digit _ => exact ⟨_, _, rfl, .inr ⟨_, digit⟩⟩

/-- A character that no number begins with. -/
theorem ne_of_number_head {b : UInt8} {c : Char} (head : b = byte '-' ∨ ∃ d, IsDigit 10 b.toNat d)
    (other : byte '-' ≠ byte c ∧ digit? (byte c) = none) : b ≠ byte c := by
  obtain rfl | ⟨d, digit⟩ := head
  · exact other.1
  · exact ne_of_isDigit digit other.2

/-- A number does not begin with a blank. -/
theorem isSpace_of_number_head {b : UInt8} (head : b = byte '-' ∨ ∃ d, IsDigit 10 b.toNat d) :
    isSpace b = false := by
  have space : b ≠ byte ' ' := ne_of_number_head head (by decide)
  have line : b ≠ byte '\n' := ne_of_number_head head (by decide)
  have carriage : b ≠ byte '\r' := ne_of_number_head head (by decide)
  have tab : b ≠ byte '\t' := ne_of_number_head head (by decide)
  rw [← Bool.not_eq_true, isSpace_iff]
  simp [space.symm, line.symm, carriage.symm, tab.symm]

/-- What begins a value is no blank and ends no array. -/
theorem exists_value_head {bytes : Bytes} (value : Loose .value bytes) :
    ∃ b rest, bytes = b :: rest ∧ isSpace b = false ∧ b ≠ byte ']' := by
  cases value with
  | word fixed =>
    simp only [List.mem_cons, List.not_mem_nil, or_false] at fixed
    obtain rfl | rfl | rfl := fixed
    all_goals exact ⟨_, _, rfl, by decide, by decide⟩
  | number number =>
    obtain ⟨b, rest, rfl, head⟩ := exists_number_head number
    exact ⟨b, rest, rfl, isSpace_of_number_head head, ne_of_number_head head (by decide)⟩
  | text loose =>
    obtain ⟨tail, rfl, _⟩ := skipTextTail_append loose
    exact ⟨_, _, rfl, by decide, by decide⟩
  | @empty container => cases container <;> exact ⟨_, _, rfl, by decide, by decide⟩
  | @container container => cases container <;> exact ⟨_, _, rfl, by decide, by decide⟩

/-- A value without parts is skipped. -/
theorem skipScalar_word {text : String} (fixed : text ∈ ["null", "true", "false"]) (rest : Bytes) :
    skipScalar (word text ++ rest) = some rest := by
  simp only [List.mem_cons, List.not_mem_nil, or_false] at fixed
  obtain rfl | rfl | rfl := fixed
  all_goals exact skipWord?_eq_some_iff.mpr rfl

/-- A number is skipped as a scalar. -/
theorem skipScalar_number {spelled rest : Bytes} {literal : Literal}
    (number : NumberLiteral spelled literal) (ends : Ends rest) :
    skipScalar (spelled ++ rest) = some rest := by
  have read := readLiteral_append number ends
  obtain ⟨b, tail, rfl, head⟩ := exists_number_head number
  rw [List.cons_append] at read ⊢
  rw [skipScalar, if_neg (ne_of_number_head head (by decide)),
    if_neg (ne_of_number_head head (by decide)), if_neg (ne_of_number_head head (by decide)),
    if_neg (ne_of_number_head head (by decide)), read]
  rfl

/-! ## What is skipped is a value -/

/-- What the open containers demand of the bytes after an entry: each one ends after more entries or
none. -/
def Closes : List Container → Bytes → Bytes → Prop
  | [], input, rest => input = rest
  | container :: stack, input, rest => ∃ blanks more after, Blanks blanks ∧
      (more = [] ∨ ∃ entries, more = byte ',' :: entries ∧ Loose (.entries container) entries) ∧
      input = blanks ++ more ++ container.closer :: after ∧ Closes stack after rest

/-- What comes next and what the open containers demand. -/
def Passes : Awaited → List Container → Bytes → Bytes → Prop
  | .value, stack, input, rest => ∃ blanks value after, Blanks blanks ∧ Loose .value value ∧
      input = blanks ++ value ++ after ∧ Closes stack after rest
  | .rest, stack, input, rest => Closes stack input rest
  | .entry, [], _, _ => False
  | .entry, container :: stack, input, rest => ∃ content after,
      (Blanks content ∨ Loose (.entries container) content) ∧
      input = content ++ container.closer :: after ∧ Closes stack after rest

/-- An entry whose value comes next goes before what the containers demand. -/
theorem Passes.entries {container : Container} {stack : List Container}
    {blanks key input rest : Bytes} (blank : Blanks blanks) (begins : EntryBegins container key)
    (passes : Passes .value (container :: stack) input rest) :
    ∃ entries after, Loose (.entries container) entries ∧
      blanks ++ (key ++ input) = entries ++ container.closer :: after ∧
        Closes stack after rest := by
  obtain ⟨before, value, _, left, loose, rfl, between, more, after, right, others, rfl, closes⟩ :=
    passes
  have entry : Loose (.entry container) (blanks ++ (key ++ (before ++ value ++ between))) :=
    entry_blanks_append blank (begins.entry loose ⟨before, between, left, right, rfl⟩)
  obtain rfl | ⟨entries, rfl, later⟩ := others
  · exact ⟨_, after, .last entry, by simp, closes⟩
  · exact ⟨_, after, .more entry later, by simp, closes⟩

/-- A container goes before what the others demand. -/
theorem Passes.opened {container : Container} {stack : List Container} {blanks input rest : Bytes}
    (blank : Blanks blanks) (passes : Passes .entry (container :: stack) input rest) :
    Passes .value stack (blanks ++ opener container :: input) rest := by
  obtain ⟨content, after, kind, rfl, closes⟩ := passes
  have value : Loose .value (opener container :: (content ++ [container.closer])) := by
    obtain blank | entries := kind
    · exact .empty blank
    · exact .container entries
  exact ⟨blanks, _, after, blank, value, by simp, closes⟩

/-- What is skipped is what comes next and what the open containers demand. -/
theorem skipAwaited_eq_some {fuel : Nat} {awaited : Awaited} {stack : List Container}
    {input rest : Bytes} (skipped : skipAwaited fuel awaited stack input = some rest) :
    Passes awaited stack input rest := by
  fun_induction skipAwaited fuel awaited stack input with
  | case2 =>
    cases skipped
    rfl
  | case5 fuel stack input tail split ih =>
    obtain ⟨blanks, blank, rfl⟩ := exists_blanks split
    exact Passes.opened blank (ih skipped)
  | case6 fuel stack input tail split _ ih =>
    obtain ⟨blanks, blank, rfl⟩ := exists_blanks split
    exact Passes.opened blank (ih skipped)
  | case8 fuel stack input b tail split _ _ after scalar ih =>
    obtain ⟨blanks, blank, rfl⟩ := exists_blanks split
    obtain ⟨value, whole, loose⟩ := skipScalar_eq_some scalar
    exact ⟨blanks, value, after, blank, loose, by rw [whole, List.append_assoc], ih skipped⟩
  | case10 fuel container stack input tail split ih =>
    obtain ⟨blanks, blank, rfl⟩ := exists_blanks split
    exact ⟨blanks, tail, .inl blank, rfl, ih skipped⟩
  | case12 fuel container stack input b tail split _ after key ih =>
    obtain ⟨blanks, blank, rfl⟩ := exists_blanks split
    obtain ⟨key, whole, begins⟩ := skipKey_eq_some key
    obtain ⟨entries, last, loose, same, closes⟩ := (ih skipped).entries blank begins
    exact ⟨entries, last, .inr loose, by rw [whole, same], closes⟩
  | case14 fuel container stack input tail split ih =>
    obtain ⟨blanks, blank, rfl⟩ := exists_blanks split
    exact ⟨blanks, [], tail, blank, .inl rfl, by simp, ih skipped⟩
  | case16 fuel container stack input tail after key split _ ih =>
    obtain ⟨blanks, blank, rfl⟩ := exists_blanks split
    obtain ⟨key, rfl, begins⟩ := skipKey_eq_some key
    have nothing : Blanks [] := List.forall_mem_nil _
    obtain ⟨entries, last, loose, same, closes⟩ := (ih skipped).entries nothing begins
    rw [List.nil_append] at same
    exact ⟨blanks, byte ',' :: entries, last, blank, .inr ⟨entries, rfl, loose⟩, by simp [same],
      closes⟩
  | _ => cases skipped

/-- What is skipped is a value after blanks. -/
theorem skipValue_eq_some {input rest : Bytes} (skipped : skipValue input = some rest) :
    ∃ blanks value, Blanks blanks ∧ Loose .value value ∧ input = blanks ++ value ++ rest := by
  obtain ⟨blanks, value, _, blank, loose, rfl, rfl⟩ := skipAwaited_eq_some skipped
  exact ⟨blanks, value, blank, loose, rfl⟩

/-! ## A value is skipped -/

variable {fuel : Nat} {container : Container} {stack : List Container} {blanks key input : Bytes}

/-- Where a value is awaited, a scalar is skipped, and the rest is awaited. -/
theorem skipAwaited_scalar {value after : Bytes} {b : UInt8} (blank : Blanks blanks)
    (whole : value ++ after = b :: input) (noSpace : isSpace b = false) (noArray : b ≠ byte '[')
    (noObject : b ≠ byte '\x7b') (skips : skipScalar (value ++ after) = some after) :
    skipAwaited (fuel + 1) .value stack (blanks ++ (value ++ after)) =
      skipAwaited fuel .rest stack after := by
  rw [whole] at skips ⊢
  rw [skipAwaited, skipSpace_append blank noSpace]
  dsimp only
  rw [if_neg noArray, if_neg noObject, skips]

/-- Where a value is awaited, an opening bracket makes its container the innermost one. -/
theorem skipAwaited_open (blank : Blanks blanks) :
    skipAwaited (fuel + 1) .value stack (blanks ++ opener container :: input) =
      skipAwaited fuel .entry (container :: stack) input := by
  have noSpace : isSpace (opener container) = false := by cases container <;> decide
  rw [skipAwaited, skipSpace_append blank noSpace]
  cases container <;> rfl

/-- Where the rest is awaited, a closing bracket ends the innermost container. -/
theorem skipAwaited_close (blank : Blanks blanks) :
    skipAwaited (fuel + 1) .rest (container :: stack) (blanks ++ container.closer :: input) =
      skipAwaited fuel .rest stack input := by
  have noSpace : isSpace container.closer = false := by cases container <;> decide
  rw [skipAwaited, skipSpace_append blank noSpace]
  exact if_pos rfl

/-- Where an entry is awaited, a closing bracket ends a container that is empty. -/
theorem skipAwaited_empty (blank : Blanks blanks) :
    skipAwaited (fuel + 1) .entry (container :: stack) (blanks ++ container.closer :: input) =
      skipAwaited fuel .rest stack input := by
  have noSpace : isSpace container.closer = false := by cases container <;> decide
  rw [skipAwaited, skipSpace_append blank noSpace]
  exact if_pos rfl

/-- Where the rest is awaited, a comma and what begins an entry lead to the next value. -/
theorem skipAwaited_comma (blank : Blanks blanks) (begins : EntryBegins container key) :
    skipAwaited (fuel + 1) .rest (container :: stack) (blanks ++ byte ',' :: (key ++ input)) =
      skipAwaited fuel .value (container :: stack) input := by
  have noCloser : byte ',' ≠ container.closer := by cases container <;> decide
  rw [skipAwaited, skipSpace_append blank (by decide)]
  dsimp only
  rw [if_neg noCloser, if_pos rfl, skipKey_append begins]

/-- Where an entry is awaited, what begins one leads to its value. -/
theorem skipAwaited_key {b : UInt8} {rest : Bytes} (begins : EntryBegins container key)
    (head : skipSpace (key ++ input) = b :: rest) (noCloser : b ≠ container.closer) :
    skipAwaited (fuel + 1) .entry (container :: stack) (key ++ input) =
      skipAwaited fuel .value (container :: stack) input := by
  have keyless := skipKey_append begins input
  rw [skipAwaited, head]
  dsimp only
  rw [if_neg noCloser, ← head]
  cases begins with
  | array =>
    rw [skipKey, List.nil_append]
    cases fuel with
    | zero => rfl
    | succ fuel => simp only [skipAwaited, skipSpace_skipSpace]
  | object =>
    rw [skipKey] at keyless ⊢
    rw [skipSpace_skipSpace, keyless]

/-- Whether a number cannot go on with a byte. -/
theorem ends_cons {b : UInt8} (other : digit? b = none ∧ b ∉ word ".eE") (rest : Bytes) :
    Ends (b :: rest) := by
  constructor
  · rintro _ ⟨⟩
    exact other.1
  · rintro _ ⟨⟩
    exact other.2

/-- Nothing goes on after blanks if nothing goes on after what follows them. -/
theorem Ends.blanks_append {rest : Bytes} (blank : Blanks blanks) (ends : Ends rest) :
    Ends (blanks ++ rest) := by
  cases blanks with
  | nil => exact ends
  | cons b blanks =>
    have space := blank b List.mem_cons_self
    rw [mem_word_blanks] at space
    obtain rfl | rfl | rfl | rfl := space
    all_goals exact ends_cons (by decide) _

/-- A closing bracket ends a scalar. -/
theorem ends_closer (container : Container) (rest : Bytes) : Ends (container.closer :: rest) := by
  cases container <;> exact ends_cons (by decide) rest

/-- So does a comma. -/
theorem ends_comma (rest : Bytes) : Ends (byte ',' :: rest) := ends_cons (by decide) rest

/-- What begins an entry does not end the container. -/
theorem exists_entries_head {bytes : Bytes} (entries : Loose (.entries container) bytes) :
    ∃ blanks b rest, Blanks blanks ∧ bytes = blanks ++ b :: rest ∧ isSpace b = false ∧
      b ≠ container.closer := by
  have entryHead {bytes : Bytes} (entry : Loose (.entry container) bytes) :
      ∃ blanks b rest, Blanks blanks ∧ bytes = blanks ++ b :: rest ∧ isSpace b = false ∧
        b ≠ container.closer := by
    cases entry with
    | item value spaced =>
      obtain ⟨before, after, left, _, rfl⟩ := spaced
      obtain ⟨b, rest, rfl, noSpace, noCloser⟩ := exists_value_head value
      exact ⟨before, b, rest ++ after, left, by simp, noSpace, noCloser⟩
    | member loose spaced =>
      obtain ⟨before, after, left, _, rfl⟩ := spaced
      obtain ⟨tail, rfl, _⟩ := skipTextTail_append loose
      exact ⟨before, byte '"', _, left, by simp; rfl, by decide, by decide⟩
  cases entries with
  | last entry => exact entryHead entry
  | @more _ bytes others entry =>
    obtain ⟨blanks, b, rest, blank, rfl, noSpace, noCloser⟩ := entryHead entry
    exact ⟨blanks, b, rest ++ byte ',' :: others, blank, by simp, noSpace, noCloser⟩

/-- What is skipped of a part, in a number of steps that its length bounds. -/
def Skipped : Part → Bytes → Prop
  | .value, bytes => ∃ steps, steps + 1 ≤ 2 * bytes.length ∧ ∀ fuel stack blanks after,
      Blanks blanks → Ends after →
        skipAwaited (fuel + steps) .value stack (blanks ++ (bytes ++ after)) =
          skipAwaited fuel .rest stack after
  | .entry container, bytes => ∃ key rest steps, EntryBegins container key ∧ bytes = key ++ rest ∧
      steps + 1 ≤ 2 * bytes.length ∧ ∀ fuel stack after, Ends after → ∃ blanks, Blanks blanks ∧
        skipAwaited (fuel + steps) .value (container :: stack) (rest ++ after) =
          skipAwaited fuel .rest (container :: stack) (blanks ++ after)
  | .entries container, bytes => ∃ key rest steps, EntryBegins container key ∧
      bytes = key ++ rest ∧ steps ≤ 2 * bytes.length ∧ ∀ fuel stack after,
        skipAwaited (fuel + steps) .value (container :: stack) (rest ++ container.closer :: after) =
          skipAwaited fuel .rest stack after

/-- A value without parts takes one step. -/
theorem Skipped.scalar {bytes : Bytes} (value : Loose .value bytes)
    (noArray : bytes.head? ≠ some (byte '[')) (noObject : bytes.head? ≠ some (byte '\x7b'))
    (skips : ∀ after, Ends after → skipScalar (bytes ++ after) = some after) :
    Skipped .value bytes := by
  obtain ⟨b, rest, rfl, noSpace, _⟩ := exists_value_head value
  refine ⟨1, by simp, fun fuel stack blanks after blank ends => ?_⟩
  rw [List.head?_cons, ne_eq, Option.some.injEq] at noArray noObject
  exact skipAwaited_scalar blank rfl noSpace noArray noObject (skips after ends)

/-- An entry is skipped if its value is. -/
theorem Skipped.entry {core bytes : Bytes} (begins : EntryBegins container key)
    (value : Skipped .value core) (spaced : Spaced core bytes) :
    Skipped (.entry container) (key ++ bytes) := by
  obtain ⟨steps, few, skips⟩ := value
  obtain ⟨before, after, left, right, rfl⟩ := spaced
  refine ⟨key, _, steps, begins, rfl, ?_, fun fuel stack input ends => ⟨after, right, ?_⟩⟩
  · simp only [List.length_append]
    omega
  · have passed := skips fuel (container :: stack) before (after ++ input) left
      (Ends.blanks_append right ends)
    simpa using passed

/-- A container with entries takes two more steps than they do. -/
theorem Skipped.enclosed {bytes : Bytes} (entries : Loose (.entries container) bytes)
    (skipped : Skipped (.entries container) bytes) :
    Skipped .value (opener container :: (bytes ++ [container.closer])) := by
  obtain ⟨before, b, others, left, whole, noSpace, noCloser⟩ := exists_entries_head entries
  obtain ⟨key, rest, steps, begins, rfl, few, skips⟩ := skipped
  refine ⟨steps + 2, ?_, fun fuel stack blanks after blank ends => ?_⟩
  · simp only [List.length_cons, List.length_append, List.length_nil] at few ⊢
    omega
  · have head : skipSpace (key ++ (rest ++ container.closer :: after)) =
        b :: (others ++ container.closer :: after) := by
      rw [← List.append_assoc, whole, List.append_assoc]
      exact skipSpace_append left noSpace
    have opened : skipAwaited (fuel + (steps + 2)) .value stack
        (blanks ++ opener container :: (key ++ (rest ++ container.closer :: after))) =
        skipAwaited (fuel + steps + 1) .entry (container :: stack)
          (key ++ (rest ++ container.closer :: after)) := skipAwaited_open blank
    rw [skipAwaited_key begins head noCloser, skips] at opened
    simpa using opened

/-- The entries of a container may be one entry. -/
theorem Skipped.last {bytes : Bytes} (entry : Skipped (.entry container) bytes) :
    Skipped (.entries container) bytes := by
  obtain ⟨key, rest, steps, begins, rfl, few, skips⟩ := entry
  refine ⟨key, rest, steps + 1, begins, rfl, few, fun fuel stack after => ?_⟩
  obtain ⟨blanks, blank, passed⟩ :=
    skips (fuel + 1) stack (container.closer :: after) (ends_closer container after)
  rw [← Nat.add_assoc, Nat.add_right_comm, passed, skipAwaited_close blank]

/-- They may be one entry, a comma and others. -/
theorem Skipped.more {bytes others : Bytes} (entry : Skipped (.entry container) bytes)
    (entries : Skipped (.entries container) others) :
    Skipped (.entries container) (bytes ++ byte ',' :: others) := by
  obtain ⟨key, rest, steps, begins, rfl, few, skips⟩ := entry
  obtain ⟨key', rest', steps', begins', rfl, few', skips'⟩ := entries
  refine ⟨key, rest ++ byte ',' :: (key' ++ rest'), steps + 1 + steps', begins, by simp, ?_,
    fun fuel stack after => ?_⟩
  · simp only [List.length_cons, List.length_append] at few few' ⊢
    omega
  · obtain ⟨blanks, blank, passed⟩ := skips (fuel + steps' + 1) stack
      (byte ',' :: (key' ++ (rest' ++ container.closer :: after))) (ends_comma _)
    have regroup : fuel + (steps + 1 + steps') = fuel + steps' + 1 + steps := by omega
    rw [skipAwaited_comma blank begins', skips'] at passed
    rw [regroup]
    simpa using passed

/-- A value of the grammar is skipped. -/
theorem skipped_of_loose {part : Part} {bytes : Bytes} (loose : Loose part bytes) :
    Skipped part bytes := by
  induction loose with
  | @word text fixed =>
    have heads : ∀ text ∈ ["null", "true", "false"], (word text).head? ≠ some (byte '[') ∧
        (word text).head? ≠ some (byte '\x7b') := by decide
    exact .scalar (.word fixed) (heads text fixed).1 (heads text fixed).2
      fun after _ => skipScalar_word fixed after
  | number number =>
    obtain ⟨b, rest, rfl, head⟩ := exists_number_head number
    refine .scalar (.number number) ?_ ?_ fun after ends => skipScalar_number number ends
    · simpa using ne_of_number_head head (by decide)
    · simpa using ne_of_number_head head (by decide)
  | text loose =>
    obtain ⟨tail, rfl, skips⟩ := skipTextTail_append loose
    refine .scalar (.text loose) (by simp; decide) (by simp; decide) fun after _ => ?_
    exact skips after
  | @empty container bytes blank =>
    refine ⟨2, ?_, fun fuel stack blanks after blank' ends => ?_⟩
    · simp only [List.length_cons, List.length_append, List.length_nil]
      omega
    · have opened : skipAwaited (fuel + 2) .value stack
          (blanks ++ opener container :: (bytes ++ container.closer :: after)) =
          skipAwaited (fuel + 1) .entry (container :: stack)
            (bytes ++ container.closer :: after) := skipAwaited_open blank'
      rw [skipAwaited_empty blank] at opened
      simpa using opened
  | container entries ih => exact .enclosed entries ih
  | item value spaced ih => exact .entry .array ih spaced
  | @member key core before after loose spaced value spaced' ih =>
    have entry := Skipped.entry (.object loose spaced) ih spaced'
    rwa [List.append_assoc] at entry
  | last entry ih => exact .last ih
  | more entry entries ihEntry ihEntries => exact .more ihEntry ihEntries

/-- A value after blanks is skipped. -/
theorem skipValue_append {value rest : Bytes} (blank : Blanks blanks) (loose : Loose .value value)
    (ends : Ends rest) : skipValue (blanks ++ (value ++ rest)) = some rest := by
  obtain ⟨steps, few, skips⟩ := skipped_of_loose loose
  obtain ⟨fuel, enough⟩ : ∃ fuel,
      2 * (blanks ++ (value ++ rest)).length + 2 = fuel + 1 + steps := by
    refine ⟨2 * (blanks ++ (value ++ rest)).length + 1 - steps, ?_⟩
    simp only [List.length_append]
    omega
  rw [skipValue, enough, skips _ _ _ _ blank ends]
  rfl

end EventLedger.Json
