import EventLedger.Proofs.Json.Grammar

/-!
# Numbers are read as the grammar has them

A reader takes as many digits as there are, so it reads a number of the grammar if what follows
could not go on with it, `Ends`: `readLiteral_append` and `readLiteral_eq_some` for number literals,
`readInt64_append` and `readInt64_eq_some` for the integers of a signed word, `readNumber_append`
and `readNumber_eq_some` for the numbers of a value.
-/
namespace EventLedger.Json

open Grammar

/-- Bytes do not begin with a decimal digit. -/
def NoDigit (bytes : Bytes) : Prop := ∀ b ∈ bytes.head?, digit? b = none

/-- Bytes cannot go on with a number. -/
def Ends (bytes : Bytes) : Prop := NoDigit bytes ∧ ∀ b ∈ bytes.head?, b ∉ word ".eE"

/-- Nothing goes on at the end. -/
theorem ends_nil : Ends [] := by simp [Ends, NoDigit]

/-- A byte has a value as a decimal digit if it is one. -/
theorem digit?_eq_some_iff {b : UInt8} {d : Nat} : digit? b = some d ↔ IsDigit 10 b.toNat d := by
  rw [digit?, IsDigit.decimal_iff]
  simp only [UInt8.le_iff_toNat_le, UInt8.reduceToNat, Char.reduceToNat, Bool.and_eq_true,
    decide_eq_true_eq]
  by_cases inside : 48 ≤ b.toNat ∧ b.toNat ≤ 57
  · rw [if_pos inside, Option.some.injEq]
    omega
  · rw [if_neg inside]
    refine iff_of_false nofun fun digit => inside ?_
    omega

/-! ## Digits -/

/-- Digits that nothing goes on with are taken as a whole. -/
theorem takeDigits_append {spelled rest : Bytes} {digits : List Nat}
    (spells : Digits 10 spelled digits) (ends : NoDigit rest) :
    takeDigits (spelled ++ rest) = (digits, rest) := by
  induction spells with
  | nil =>
    cases rest with
    | nil => rfl
    | cons b rest =>
      have none := ends b rfl
      simp [takeDigits, none]
  | cons digit _ ih =>
    have some := digit?_eq_some_iff.mpr digit
    simp [takeDigits, some, ih]

/-- What is taken as digits spells them. -/
theorem takeDigits_eq {input rest : Bytes} {digits : List Nat}
    (taken : takeDigits input = (digits, rest)) :
    ∃ spelled, input = spelled ++ rest ∧ Digits 10 spelled digits := by
  induction input generalizing digits with
  | nil =>
    cases taken
    exact ⟨[], rfl, .nil⟩
  | cons b input ih =>
    rw [takeDigits] at taken
    cases digit : digit? b with
    | none =>
      simp only [digit] at taken
      cases taken
      exact ⟨[], rfl, .nil⟩
    | some d =>
      simp only [digit] at taken
      cases taken
      obtain ⟨spelled, whole, spells⟩ := ih rfl
      exact ⟨b :: spelled, congrArg (b :: ·) whole, .cons (digit?_eq_some_iff.mp digit) spells⟩

/-- The value of digits is their value by places. -/
theorem digitsValue_eq (digits : List Nat) : digitsValue digits = placeValue 10 digits :=
  foldl_digits 10 digits

/-- A zero alone is the byte of its digit. -/
theorem isDigit_zero_iff {b : UInt8} : IsDigit 10 b.toNat 0 ↔ b = byte '0' := by
  rw [IsDigit.decimal_iff, ← UInt8.toNat_inj]
  simp [byte]

/-- A whole part that nothing goes on with is read as it is spelled. -/
theorem readWhole_append {spelled rest : Bytes} {digits : List Nat} (spells : Whole spelled digits)
    (ends : NoDigit rest) : readWhole (spelled ++ rest) = some (digits, rest) := by
  obtain ⟨⟨written, nonempty⟩, alone⟩ := spells
  cases written with
  | nil => exact absurd rfl nonempty
  | @cons b d bytes digits digit others =>
    by_cases zero : b = byte '0'
    · -- The zero in front is the whole number.
      have isZero : d = 0 := digit.unique (isDigit_zero_iff.mpr zero) (by decide)
      subst isZero
      cases alone rfl
      cases others
      simp [readWhole, zero]
    · have taken := takeDigits_append (.cons digit others) ends
      rw [List.cons_append] at taken ⊢
      simp only [readWhole, if_neg zero, taken]

/-- What is read as a whole part spells one. -/
theorem readWhole_eq_some {input rest : Bytes} {digits : List Nat}
    (read : readWhole input = some (digits, rest)) :
    ∃ spelled, input = spelled ++ rest ∧ Whole spelled digits := by
  cases input with
  | nil => cases read
  | cons b input =>
    simp only [readWhole] at read
    split at read
    next zero =>
      cases read
      exact ⟨[b], rfl, ⟨.cons (isDigit_zero_iff.mpr zero) .nil, by simp⟩, fun _ => rfl⟩
    next nonzero =>
      generalize taken : takeDigits (b :: input) = found at read
      obtain ⟨_ | ⟨d, digits⟩, after⟩ := found
      · cases read
      · cases read
        obtain ⟨spelled, whole, spells⟩ := takeDigits_eq taken
        refine ⟨spelled, whole, ⟨spells, List.cons_ne_nil _ _⟩, fun zero => ?_⟩
        cases spells with
        | cons digit others =>
          cases whole
          cases zero
          exact absurd (isDigit_zero_iff.mp digit) nonzero

/-- Digits before the point are those that are read. -/
theorem whole_iff {bytes : Bytes} {digits : List Nat} :
    Whole bytes digits ↔ readWhole bytes = some (digits, []) := by
  constructor
  · intro spells
    have read := readWhole_append spells ends_nil.1
    rwa [List.append_nil] at read
  · intro read
    obtain ⟨spelled, rfl, spells⟩ := readWhole_eq_some read
    rwa [List.append_nil]

/-- A fraction, or none, is read as it is spelled. -/
theorem readFraction_append {spelled rest : Bytes} {fraction : Option (List Nat)}
    (spells : Fraction spelled fraction) (ends : NoDigit rest)
    (noPoint : ∀ b ∈ rest.head?, b ≠ byte '.') :
    readFraction (spelled ++ rest) = some (fraction, rest) := by
  cases spells with
  | absent =>
    cases rest with
    | nil => rfl
    | cons b rest =>
      have other := noPoint b rfl
      simp [readFraction, other]
  | present decimal =>
    have taken := takeDigits_append decimal.1 ends
    rename_i bytes digits
    obtain _ | ⟨d, digits⟩ := digits
    · exact absurd rfl decimal.2
    · simp only [List.cons_append, readFraction, ↓reduceIte, taken]

/-- What is read as a fraction spells one, or nothing. -/
theorem readFraction_eq_some {input rest : Bytes} {fraction : Option (List Nat)}
    (read : readFraction input = some (fraction, rest)) :
    ∃ spelled, input = spelled ++ rest ∧ Fraction spelled fraction := by
  cases input with
  | nil =>
    cases read
    exact ⟨[], rfl, .absent⟩
  | cons b input =>
    simp only [readFraction] at read
    split at read
    next point =>
      generalize taken : takeDigits input = found at read
      obtain ⟨_ | ⟨d, digits⟩, after⟩ := found
      · cases read
      · cases read
        obtain ⟨spelled, rfl, spells⟩ := takeDigits_eq taken
        subst point
        exact ⟨byte '.' :: spelled, rfl, .present ⟨spells, List.cons_ne_nil _ _⟩⟩
    · cases read
      exact ⟨[], rfl, .absent⟩

/-- A digit is no other character. -/
theorem ne_of_isDigit {b : UInt8} {d : Nat} {c : Char} (digit : IsDigit 10 b.toNat d)
    (other : digit? (byte c) = none) : b ≠ byte c := by
  rintro rfl
  rw [digit?_eq_some_iff.mpr digit] at other
  cases other

/-- Signed digits are read as the integer that they spell. -/
theorem readSignedDigits_append {sign spelled rest : Bytes} {negative : Bool} {digits : List Nat}
    (signed : Sign sign negative) (decimal : Decimal spelled digits) (ends : NoDigit rest) :
    readSignedDigits (sign ++ spelled ++ rest) =
      some (if negative then -(placeValue 10 digits : Int) else placeValue 10 digits, rest) := by
  obtain ⟨spells, nonempty⟩ := decimal
  have taken := takeDigits_append spells ends
  cases spells with
  | nil => exact absurd rfl nonempty
  | cons digit others =>
    have noMinus := ne_of_isDigit digit (c := '-') (by decide)
    have noPlus := ne_of_isDigit digit (c := '+') (by decide)
    rw [List.cons_append] at taken
    cases signed
    · simp [readSignedDigits, noMinus, noPlus, taken, digitsValue_eq]
    · simp [readSignedDigits, show byte '+' ≠ byte '-' by decide, taken, digitsValue_eq]
    · simp [readSignedDigits, taken, digitsValue_eq]

/-- A sign is split off. -/
theorem exists_sign (b : UInt8) (input : Bytes) : ∃ sign unsigned negative,
    b :: input = sign ++ unsigned ∧ Sign sign negative ∧
      (if b = byte '-' then (true, input)
        else if b = byte '+' then (false, input) else (false, b :: input)) =
        (negative, unsigned) := by
  by_cases minus : b = byte '-'
  · exact ⟨[byte '-'], input, true, by rw [minus]; rfl, .minus, if_pos minus⟩
  · by_cases plus : b = byte '+'
    · refine ⟨[byte '+'], input, false, by rw [plus]; rfl, .plus, ?_⟩
      rw [if_neg minus, if_pos plus]
    · refine ⟨[], b :: input, false, rfl, .absent, ?_⟩
      rw [if_neg minus, if_neg plus]

/-- What is read as signed digits spells a sign and digits of that integer. -/
theorem readSignedDigits_eq_some {input rest : Bytes} {exponent : Int}
    (read : readSignedDigits input = some (exponent, rest)) :
    ∃ sign spelled negative digits, input = sign ++ spelled ++ rest ∧ Sign sign negative ∧
      Decimal spelled digits ∧
      exponent = if negative then -(placeValue 10 digits : Int) else placeValue 10 digits := by
  cases input with
  | nil => cases read
  | cons b input =>
    obtain ⟨sign, unsigned, negative, whole, signed, same⟩ := exists_sign b input
    simp only [readSignedDigits, same] at read
    generalize taken : takeDigits unsigned = found at read
    obtain ⟨_ | ⟨d, digits⟩, after⟩ := found
    · cases read
    · cases read
      obtain ⟨spelled, rfl, spells⟩ := takeDigits_eq taken
      refine ⟨sign, spelled, negative, d :: digits, ?_, signed,
        ⟨spells, List.cons_ne_nil _ _⟩, ?_⟩
      · rw [whole, List.append_assoc]
      · rw [digitsValue_eq]

/-- An exponent begins with one of two letters. -/
theorem mem_exponentMarks {b : UInt8} : b ∈ word "eE" ↔ b = byte 'e' ∨ b = byte 'E' := by
  simp [eq_comm]

/-- An exponent, or none, is read as it is spelled. -/
theorem readExponent_append {spelled rest : Bytes} {exponent : Option Int}
    (spells : Exponent spelled exponent) (ends : Ends rest) :
    readExponent (spelled ++ rest) = some (exponent, rest) := by
  cases spells with
  | absent =>
    cases rest with
    | nil => rfl
    | cons b rest =>
      have other : b ∉ word "eE" := fun letter => ends.2 b rfl (List.mem_cons_of_mem _ letter)
      rw [mem_exponentMarks] at other
      simp [readExponent, other]
  | present letter signed decimal =>
    have read := readSignedDigits_append signed decimal ends.1
    rw [mem_exponentMarks] at letter
    rw [List.append_assoc] at read
    simp [readExponent, letter, read]

/-- What is read as an exponent spells one, or nothing. -/
theorem readExponent_eq_some {input rest : Bytes} {exponent : Option Int}
    (read : readExponent input = some (exponent, rest)) :
    ∃ spelled, input = spelled ++ rest ∧ Exponent spelled exponent := by
  cases input with
  | nil =>
    cases read
    exact ⟨[], rfl, .absent⟩
  | cons b input =>
    simp only [readExponent, Bool.or_eq_true, decide_eq_true_eq] at read
    split at read
    next letter =>
      rw [Option.map_eq_some_iff] at read
      obtain ⟨⟨value, after⟩, digits, same⟩ := read
      cases same
      obtain ⟨sign, spelled, negative, digits, rfl, signed, decimal, rfl⟩ :=
        readSignedDigits_eq_some digits
      exact ⟨b :: (sign ++ spelled), rfl, .present (mem_exponentMarks.mpr letter) signed decimal⟩
    · cases read
      exact ⟨[], rfl, .absent⟩

/-! ## Literals -/

/-- What follows a number still does after digits, a point or an exponent. -/
theorem noDigit_append {spelled rest : Bytes} {exponent : Option Int}
    (spells : Exponent spelled exponent) (ends : Ends rest) :
    NoDigit (spelled ++ rest) ∧ ∀ b ∈ (spelled ++ rest).head?, b ≠ byte '.' := by
  cases spells with
  | absent => exact ⟨ends.1, fun b first same => ends.2 b first (by simp [same])⟩
  | present letter =>
    rw [mem_exponentMarks] at letter
    constructor
    · intro b first
      cases first
      obtain rfl | rfl := letter <;> decide
    · intro b first
      cases first
      obtain rfl | rfl := letter <;> decide

/-- A fraction begins with a point, so no digit goes on before it. -/
theorem noDigit_fraction {spelled rest : Bytes} {fraction : Option (List Nat)}
    (spells : Fraction spelled fraction) (ends : NoDigit rest) : NoDigit (spelled ++ rest) := by
  cases spells with
  | absent => exact ends
  | present =>
    intro b first
    cases first
    decide

/-- A literal is read part by part as it is spelled. -/
theorem readLiteral_append {spelled rest : Bytes} {literal : Literal}
    (spells : NumberLiteral spelled literal) (ends : Ends rest) :
    readLiteral (spelled ++ rest) = some (literal, rest) := by
  obtain ⟨whole, fraction, exponent, wholly, fractional, exponential, rfl⟩ := spells
  have after := noDigit_append exponential ends
  have third := readExponent_append exponential ends
  have second := readFraction_append fractional after.1 after.2
  have first := readWhole_append wholly (noDigit_fraction fractional after.1)
  obtain ⟨negative, wholeDigits, fractionDigits, exponentValue⟩ := literal
  cases negative with
  | true => simp [readLiteral, first, second, third]
  | false =>
    obtain ⟨⟨written, nonempty⟩, _⟩ := wholly
    cases written with
    | nil => exact absurd rfl nonempty
    | cons digit others =>
      have noMinus := ne_of_isDigit digit (c := '-') (by decide)
      rw [List.cons_append] at first
      simp [readLiteral, noMinus, first, second, third]

/-- What is read as a literal spells it. -/
theorem readLiteral_eq_some {input rest : Bytes} {literal : Literal}
    (read : readLiteral input = some (literal, rest)) :
    ∃ spelled, input = spelled ++ rest ∧ NumberLiteral spelled literal := by
  suffices split : ∃ unsigned, input = (if literal.negative then [byte '-'] else []) ++ unsigned ∧
      ∃ whole fraction exponent, Whole whole literal.whole ∧ Fraction fraction literal.fraction ∧
        Exponent exponent literal.exponent ∧ unsigned = whole ++ fraction ++ exponent ++ rest by
    obtain ⟨_, rfl, whole, fraction, exponent, wholly, fractional, exponential, rfl⟩ := split
    refine ⟨_, ?_, whole, fraction, exponent, wholly, fractional, exponential, rfl⟩
    simp only [List.append_assoc]
  cases input with
  | nil => cases read
  | cons b input =>
    simp only [readLiteral, Option.bind_eq_bind, Option.bind_eq_some_iff, Prod.exists] at read
    obtain ⟨whole, afterWhole, wholly, fraction, afterFraction, fractional, exponent, _,
      exponential, same⟩ := read
    cases same
    obtain ⟨_, unsigned, wholeSpelled⟩ := readWhole_eq_some wholly
    obtain ⟨_, rfl, fractionSpelled⟩ := readFraction_eq_some fractional
    obtain ⟨_, rfl, exponentSpelled⟩ := readExponent_eq_some exponential
    refine ⟨_, ?_, _, _, _, wholeSpelled, fractionSpelled, exponentSpelled, rfl⟩
    simp only [List.append_assoc] at unsigned ⊢
    rw [← unsigned]
    by_cases minus : b = byte '-'
    · simp [minus]
    · simp [minus]

/-! ## Integers -/

/-- A literal has an integer if it has neither point nor exponent, is not minus zero, and fits a
word of 64 bits by its sign. -/
theorem Literal.integer?_eq_some_iff {literal : Literal} {value : Int} :
    literal.integer? = some value ↔ literal.fraction = none ∧ literal.exponent = none ∧
      (literal.negative = false ∧ placeValue 10 literal.whole ≤ Word.greatest ∧
          value = placeValue 10 literal.whole ∨
        literal.negative = true ∧ placeValue 10 literal.whole ≠ 0 ∧
          placeValue 10 literal.whole ≤ Word.signWeight ∧
          value = -(placeValue 10 literal.whole : Int)) := by
  obtain ⟨negative, digits, _ | fraction, _ | exponent⟩ := literal
  case none.none =>
    cases negative with
    | false => simp [integer?, digitsValue_eq, eq_comm (b := value)]
    | true =>
      simp [integer?, digitsValue_eq, Nat.pos_iff_ne_zero, and_assoc, eq_comm (b := value)]
  -- With a point or an exponent it is no integer.
  case none.some => simp [integer?]
  case some.none => simp [integer?]
  case some.some => simp [integer?]

/-- What a literal has as its integer fits 64 bits. -/
theorem Literal.integer?_bounds {literal : Literal} {value : Int}
    (converted : literal.integer? = some value) :
    -(Word.signWeight : Int) ≤ value ∧ value ≤ Word.greatest := by
  obtain ⟨_, _, ⟨_, _, rfl⟩ | ⟨_, _, _, rfl⟩⟩ := Literal.integer?_eq_some_iff.mp converted
  · omega
  · omega

/-- An integer of a signed word is one of 64 bits. -/
theorem le_greatest_of_lt {value : Int} (bound : value < Word.signWeight) :
    value ≤ Word.greatest := by
  have wide : Word.signWeight ≤ Word.greatest := by decide
  omega

/-- An integer literal is a number literal without point and exponent, minus zero apart. -/
theorem integerLiteral_iff {bytes : Bytes} {value : Int} (least : -(Word.signWeight : Int) ≤ value)
    (greatest : value ≤ Word.greatest) :
    IntegerLiteral bytes value ↔ ∃ literal, NumberLiteral bytes literal ∧
      literal.integer? = some value := by
  simp only [Literal.integer?_eq_some_iff]
  constructor
  · intro spelled
    cases spelled with
    | @natural _ digits whole =>
      have fits : placeValue 10 digits ≤ Word.greatest := by omega
      exact ⟨⟨false, digits, none, none⟩, ⟨bytes, [], [], whole, .absent, .absent, by simp⟩,
        rfl, rfl, .inl ⟨rfl, fits, rfl⟩⟩
    | @negative bytes digits whole nonzero =>
      have fits : placeValue 10 digits ≤ Word.signWeight := by omega
      exact ⟨⟨true, digits, none, none⟩, ⟨bytes, [], [], whole, .absent, .absent, by simp⟩,
        rfl, rfl, .inr ⟨rfl, nonzero, fits, rfl⟩⟩
  · rintro ⟨⟨negative, digits, _, _⟩, ⟨_, _, _, whole, fraction, exponent, rfl⟩, rfl, rfl, value⟩
    cases fraction
    cases exponent
    obtain ⟨rfl, _, rfl⟩ | ⟨rfl, nonzero, _, rfl⟩ := value
    · simpa using IntegerLiteral.natural whole
    · simpa using IntegerLiteral.negative whole nonzero

/-- An integer literal of a signed word is read as that word. -/
theorem readInt64_append {spelled rest : Bytes} {value : Int}
    (spells : IntegerLiteral spelled value) (least : -(Word.signWeight : Int) ≤ value)
    (greatest : value < Word.signWeight) (ends : Ends rest) :
    readInt64 (spelled ++ rest) = some (value, rest) := by
  obtain ⟨literal, number, integer⟩ :=
    (integerLiteral_iff least (le_greatest_of_lt greatest)).mp spells
  simp only [readInt64, Option.bind_eq_bind, readLiteral_append number ends, Option.bind_some,
    integer, if_pos greatest]

/-- What is read as a signed word is an integer literal of it. -/
theorem readInt64_eq_some {input rest : Bytes} {value : Int}
    (read : readInt64 input = some (value, rest)) :
    ∃ spelled, input = spelled ++ rest ∧ IntegerLiteral spelled value ∧
      -(Word.signWeight : Int) ≤ value ∧ value < Word.signWeight := by
  simp only [readInt64, Option.bind_eq_bind, Option.bind_eq_some_iff, Prod.exists] at read
  obtain ⟨literal, after, found, integer, converted, bounded⟩ := read
  split at bounded
  next greatest =>
    cases bounded
    obtain ⟨spelled, rfl, number⟩ := readLiteral_eq_some found
    have bounds := Literal.integer?_bounds converted
    exact ⟨spelled, rfl, (integerLiteral_iff bounds.1 bounds.2).mpr ⟨literal, number, converted⟩,
      bounds.1, greatest⟩
  · cases bounded

/-- Minus zero is no count. -/
example : [word "-0", word "-7]"].map readInt64 = [none, some (-7, word "]")] := by decide

/-! ## Numbers of a value -/

/-- Bytes are a number literal in one way. -/
theorem numberLiteral_unique {bytes : Bytes} {literal other : Literal}
    (number : NumberLiteral bytes literal) (again : NumberLiteral bytes other) :
    literal = other := by
  have read := readLiteral_append number ends_nil
  rw [readLiteral_append again ends_nil] at read
  cases read
  rfl

/-- A number of the grammar is what its literal stands for. -/
theorem numberValue_iff {bytes : Bytes} {value : Number} :
    NumberValue bytes value ↔ ∃ literal, NumberLiteral bytes literal ∧
      literal.number? = some value := by
  constructor
  · intro spelled
    cases spelled with
    | integer spelled least greatest =>
      obtain ⟨literal, number, integer⟩ := (integerLiteral_iff least greatest).mp spelled
      exact ⟨literal, number, by rw [Literal.number?, integer]⟩
    | @double literal value spelled noWord finite =>
      refine ⟨literal, spelled, ?_⟩
      cases converted : literal.integer? with
      | none => simp [Literal.number?, converted, finite]
      | some integer =>
        have bounds := Literal.integer?_bounds converted
        have isWord := (integerLiteral_iff bounds.1 bounds.2).mpr ⟨literal, spelled, converted⟩
        have other := noWord integer isWord
        omega
  · rintro ⟨literal, number, stands⟩
    rw [Literal.number?] at stands
    split at stands
    next integer converted =>
      cases stands
      have bounds := Literal.integer?_bounds converted
      exact .integer ((integerLiteral_iff bounds.1 bounds.2).mpr ⟨literal, number, converted⟩)
        bounds.1 bounds.2
    next noInteger =>
      rw [Option.map_eq_some_iff] at stands
      obtain ⟨double, finite, rfl⟩ := stands
      refine .double number (fun integer isWord => ?_) finite
      by_contra within
      have least : -(Word.signWeight : Int) ≤ integer := by omega
      have greatest : integer ≤ Word.greatest := by omega
      obtain ⟨other, again, converted⟩ := (integerLiteral_iff least greatest).mp isWord
      rw [numberLiteral_unique again number, noInteger] at converted
      cases converted

/-- A number is read as it is spelled. -/
theorem readNumber_append {spelled rest : Bytes} {value : Number}
    (spells : NumberValue spelled value) (ends : Ends rest) :
    readNumber (spelled ++ rest) = some (value, rest) := by
  obtain ⟨literal, number, stands⟩ := numberValue_iff.mp spells
  simp only [readNumber, Option.bind_eq_bind, readLiteral_append number ends, Option.bind_some,
    stands]

/-- What is read as a number spells it. -/
theorem readNumber_eq_some {input rest : Bytes} {value : Number}
    (read : readNumber input = some (value, rest)) :
    ∃ spelled, input = spelled ++ rest ∧ NumberValue spelled value := by
  simp only [readNumber, Option.bind_eq_bind, Option.bind_eq_some_iff, Prod.exists] at read
  obtain ⟨literal, after, found, number, stands, same⟩ := read
  cases same
  obtain ⟨spelled, rfl, written⟩ := readLiteral_eq_some found
  exact ⟨spelled, rfl, numberValue_iff.mpr ⟨literal, written, stands⟩⟩

end EventLedger.Json
