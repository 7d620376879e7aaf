import EventLedger.Proofs.Integers
import EventLedger.Proofs.LegacyVariables
import EventLedger.Proofs.Numeral

/-!
# Numbers in legacy variables

Three of the legacy variables give numbers. A text spells a number if it is decimal digits, after a
plus sign or not, with any blanks around them. If the words of the setting hold this number it is
the value of the setting, and any other text is an error: `applyLegacy_takes_number`.
-/
namespace EventLedger

/-! ## Texts that spell numbers -/

namespace Text

/-- Nothing but blanks. -/
def Blanks (chars : List Char) : Prop := ∀ c ∈ chars, isBlank c = true

/-- One or more decimal digits and the number that they spell; zeros may stand in front. -/
def Decimal (chars : List Char) (number : Nat) : Prop :=
  ∃ digits, List.Forall₂ (fun c d => IsDigit 10 c.toNat d) chars digits ∧ digits ≠ [] ∧
    number = placeValue 10 digits

/-- A text spells a number: digits after a plus sign, or after none. -/
def SpellsBare (chars : List Char) (number : Nat) : Prop :=
  ∃ sign digits, (sign = [] ∨ sign = ['+']) ∧ Decimal digits number ∧ chars = sign ++ digits

/-- A text spells a number between blanks. -/
def SpellsNumber (text : String) (number : Nat) : Prop :=
  ∃ before core after, Blanks before ∧ SpellsBare core number ∧ Blanks after ∧
    text.toList = before ++ core ++ after

/-! ### Digits -/

/-- The digits that are read are the decimal ones. -/
theorem digit?_eq_some_iff {c : Char} {d : Nat} : digit? c = some d ↔ IsDigit 10 c.toNat d := by
  have within : ('0' ≤ c && c ≤ '9') = true ↔ 48 ≤ c.toNat ∧ c.toNat ≤ 57 := by
    rw [Bool.and_eq_true, decide_eq_true_iff, decide_eq_true_iff, Char.le_def, Char.le_def,
      UInt32.le_iff_toNat_le, UInt32.le_iff_toNat_le]
    exact Iff.rfl
  simp only [digit?, within, IsDigit.decimal_iff, Char.reduceToNat]
  split
  · rw [Option.some.injEq]
    omega
  · refine iff_of_false (Option.some_ne_none d).symm ?_
    omega

/-- Digits after a number are read by Horner's rule. -/
theorem digitsFrom?_eq_some_iff {chars : List Char} {start value : Nat} :
    digitsFrom? start chars = some value ↔
      ∃ digits, List.Forall₂ (fun c d => IsDigit 10 c.toNat d) chars digits ∧
        value = digits.foldl (fun value d => value * 10 + d) start := by
  induction chars generalizing start with
  | nil => simp [digitsFrom?, eq_comm]
  | cons c rest ih =>
    rw [digitsFrom?]
    cases digit : digit? c with
    | none =>
      refine iff_of_false (Option.some_ne_none value).symm ?_
      rintro ⟨_, spelled, _⟩
      cases spelled with
      | cons first _ =>
        rw [digit?_eq_some_iff.mpr first] at digit
        cases digit
    | some d =>
      have first := digit?_eq_some_iff.mp digit
      simp only [ih]
      constructor
      · rintro ⟨digits, others, rfl⟩
        exact ⟨d :: digits, .cons first others, rfl⟩
      · rintro ⟨_, spelled, rfl⟩
        cases spelled with
        | cons again others =>
          obtain rfl := first.unique again (by decide)
          exact ⟨_, others, rfl⟩

/-- What is read as digits is a decimal, and the other way round. -/
theorem digits?_eq_some_iff {chars : List Char} {number : Nat} :
    digits? chars = some number ↔ Decimal chars number := by
  cases chars with
  | nil =>
    refine iff_of_false (Option.some_ne_none number).symm ?_
    rintro ⟨_, spelled, nonempty, _⟩
    cases spelled
    exact nonempty rfl
  | cons c rest =>
    rw [digits?, digitsFrom?_eq_some_iff]
    constructor
    · rintro ⟨digits, spelled, rfl⟩
      refine ⟨digits, spelled, ?_, foldl_digits 10 digits⟩
      rintro rfl
      cases spelled
    · rintro ⟨digits, spelled, _, rfl⟩
      exact ⟨digits, spelled, (foldl_digits 10 digits).symm⟩

/-- A digit is no blank. -/
theorem isBlank_of_isDigit {c : Char} {d : Nat} (digit : IsDigit 10 c.toNat d) :
    isBlank c = false := by
  obtain ⟨small, code⟩ := IsDigit.decimal_iff.mp digit
  simp only [Char.reduceToNat] at code
  have bounds : 48 ≤ c.toNat ∧ c.toNat ≤ 57 := by omega
  simp only [isBlank, Bool.or_eq_false_iff, Bool.and_eq_false_iff, decide_eq_false_iff_not,
    beq_eq_false_iff_ne]
  omega

/-- No digit and no sign is a blank. -/
theorem isBlank_of_spellsBare {chars : List Char} {number : Nat}
    (spells : SpellsBare chars number) : ∀ c ∈ chars, isBlank c = false := by
  obtain ⟨sign, digits, signed, ⟨values, spelled, _, _⟩, rfl⟩ := spells
  rw [List.forall_mem_append]
  constructor
  · obtain rfl | rfl := signed
    · exact List.forall_mem_nil _
    · exact List.forall_mem_singleton.mpr (by decide)
  · intro c among
    obtain ⟨d, digit⟩ := IsDigit.exists_of_mem spelled among
    exact isBlank_of_isDigit digit

/-- A decimal has a digit. -/
theorem Decimal.ne_nil {chars : List Char} {number : Nat} (decimal : Decimal chars number) :
    chars ≠ [] := by
  obtain ⟨_, spelled, nonempty, _⟩ := decimal
  rintro rfl
  cases spelled
  exact nonempty rfl

/-- So has a decimal with or without its sign. -/
theorem SpellsBare.ne_nil {chars : List Char} {number : Nat} (spells : SpellsBare chars number) :
    chars ≠ [] := by
  obtain ⟨sign, digits, _, decimal, rfl⟩ := spells
  exact List.append_ne_nil_of_right_ne_nil sign decimal.ne_nil

/-- A plus sign is no digit. -/
theorem not_decimal_of_plus {rest : List Char} {number : Nat} : ¬Decimal ('+' :: rest) number := by
  rintro ⟨_, spelled, _⟩
  cases spelled with
  | cons digit _ =>
    have read := digit?_eq_some_iff.mpr digit
    cases read

/-- What is read as digits is what comes after a plus sign, or the whole text. -/
theorem exists_unsigned? (limit : Nat) (text : String) :
    ∃ digits, (text.toList = '+' :: digits ∨
      text.toList = digits ∧ ∀ rest, digits ≠ '+' :: rest) ∧
      unsigned? limit text = (digits? digits).filter (· ≤ limit) := by
  unfold unsigned?
  extract_lets digits
  have is : text.toList = '+' :: digits ∨ text.toList = digits ∧ ∀ rest, digits ≠ '+' :: rest := by
    dsimp only [digits]
    split
    next plus => exact .inl plus
    next noPlus => exact .inr ⟨rfl, noPlus⟩
  clear_value digits
  refine ⟨digits, is, ?_⟩
  cases digits? digits with
  | none => rfl
  | some value => simp only [Option.filter_some, decide_eq_true_eq]

/-- What is read as a number spells it, and the number is within the limit. -/
theorem unsigned?_eq_some_iff {limit number : Nat} {text : String} :
    unsigned? limit text = some number ↔ SpellsBare text.toList number ∧ number ≤ limit := by
  obtain ⟨digits, is, read⟩ := exists_unsigned? limit text
  have bare : SpellsBare text.toList number ↔ Decimal digits number := by
    obtain plus | ⟨plain, noPlus⟩ := is
    · rw [plus]
      constructor
      · rintro ⟨_, other, rfl | rfl, decimal, whole⟩
        · rw [← (show '+' :: digits = other from whole)] at decimal
          exact absurd decimal not_decimal_of_plus
        · rwa [(List.cons.inj whole).2]
      · exact fun decimal => ⟨['+'], digits, .inr rfl, decimal, rfl⟩
    · rw [plain]
      constructor
      · rintro ⟨_, other, rfl | rfl, decimal, rfl⟩
        · exact decimal
        · exact absurd rfl (noPlus other)
      · exact fun decimal => ⟨[], digits, .inl rfl, decimal, rfl⟩
  rw [read, bare, Option.filter_eq_some_iff, digits?_eq_some_iff, decide_eq_true_iff]

/-! ### Blanks around -/

/-- The text is what is left of it between blanks. -/
theorem exists_trim (text : String) : ∃ before after, Blanks before ∧ Blanks after ∧
    text.toList = before ++ (trim text).toList ++ after := by
  let core := trimLeft text.toList
  have front : text.toList = text.toList.takeWhile isBlank ++ core :=
    List.takeWhile_append_dropWhile.symm
  have back : core = trimRight core ++ (core.reverse.takeWhile isBlank).reverse := by
    rw [trimRight, ← List.reverse_append, List.takeWhile_append_dropWhile, List.reverse_reverse]
  refine ⟨text.toList.takeWhile isBlank, (core.reverse.takeWhile isBlank).reverse, ?_, ?_, ?_⟩
  · exact fun c among => List.mem_takeWhile_imp among
  · exact fun c among => List.mem_takeWhile_imp (List.mem_reverse.mp among)
  · rw [trim, String.toList_ofList, List.append_assoc, ← back]
    exact front

/-- Blanks are dropped up to the first character that is none. -/
theorem dropWhile_blanks_append {blanks rest : List Char} (blank : Blanks blanks)
    (bare : ∀ c ∈ rest.head?, isBlank c = false) : (blanks ++ rest).dropWhile isBlank = rest := by
  rw [List.dropWhile_append_of_pos blank]
  cases rest with
  | nil => rfl
  | cons c rest => exact List.dropWhile_cons_of_neg (Bool.eq_false_iff.mp (bare c rfl))

/-- Characters that are no blanks are left of a text that has them between blanks. -/
theorem trim_eq {text : String} {before core after : List Char} (blank : Blanks before)
    (blank' : Blanks after) (bare : ∀ c ∈ core, isBlank c = false) (nonempty : core ≠ [])
    (whole : text.toList = before ++ core ++ after) : (trim text).toList = core := by
  have front : trimLeft text.toList = core ++ after := by
    rw [trimLeft, whole, List.append_assoc]
    refine dropWhile_blanks_append blank fun c first => bare c ?_
    rw [List.head?_append_of_ne_nil _ nonempty] at first
    exact List.mem_of_mem_head? first
  have back : trimRight (core ++ after) = core := by
    rw [trimRight, List.reverse_append, dropWhile_blanks_append, List.reverse_reverse]
    · exact fun c among => blank' c (List.mem_reverse.mp among)
    · exact fun c last => bare c (List.mem_reverse.mp (List.mem_of_mem_head? last))
  rw [trim, String.toList_ofList, front, back]

/-- A text is read as the number that it spells between blanks, if that is within the limit, and any
other text is not read. -/
theorem unsigned?_trim_eq_some_iff {limit number : Nat} {text : String} :
    unsigned? limit (trim text) = some number ↔ SpellsNumber text number ∧ number ≤ limit := by
  rw [unsigned?_eq_some_iff]
  refine and_congr_left fun _ => ⟨fun spells => ?_, ?_⟩
  · obtain ⟨before, after, blank, blank', whole⟩ := exists_trim text
    exact ⟨before, _, after, blank, spells, blank', whole⟩
  · rintro ⟨before, core, after, blank, spells, blank', whole⟩
    rwa [trim_eq blank blank' (isBlank_of_spellsBare spells) spells.ne_nil whole]

/-- A text spells one number. -/
theorem SpellsNumber.unique {text : String} {number other : Nat}
    (spells : SpellsNumber text number) (again : SpellsNumber text other) : number = other := by
  have read := unsigned?_trim_eq_some_iff.mpr ⟨spells, Nat.le_max_left number other⟩
  rw [unsigned?_trim_eq_some_iff.mpr ⟨again, Nat.le_max_right number other⟩] at read
  exact (Option.some.inj read).symm

end Text

namespace Settings

/-! ## Words -/

namespace Kind

variable {kind : Kind} {bits number : Nat} {raw : String}

/-- A text is read as the word that it spells between blanks, if the words of the kind hold that. -/
theorem ofText?_of_spells (width : kind.bits? = some bits) (spells : Text.SpellsNumber raw number)
    (fits : number < 2 ^ bits) :
    ∃ value, kind.ofText? raw = some value ∧ kind.number? value = some (number : Int) := by
  have read (limit : Nat) (inside : number ≤ limit) :
      Text.unsigned? limit (Text.trim raw) = some number :=
    Text.unsigned?_trim_eq_some_iff.mpr ⟨spells, inside⟩
  cases kind with
  | text | truth => cases width
  | word16 | word32 | word64 =>
    cases width
    refine ⟨_, congrArg (Option.map _) (read _ ?_), ?_⟩
    · exact Nat.le_of_lt_succ fits
    · exact congrArg (some ∘ Int.ofNat) (Nat.mod_eq_of_lt fits)

/-- What a text is read as is what it spells. -/
theorem spells_of_ofText? (width : kind.bits? = some bits) {value : kind.Value}
    (read : kind.ofText? raw = some value) : ∃ number : Nat,
      Text.SpellsNumber raw number ∧ number < 2 ^ bits ∧
        kind.number? value = some (number : Int) := by
  have within {limit : Nat} {word : Nat}
      (spelled : Text.unsigned? limit (Text.trim raw) = some word) :
      Text.SpellsNumber raw word ∧ word ≤ limit := Text.unsigned?_trim_eq_some_iff.mp spelled
  cases kind with
  | text | truth => cases width
  | word16 | word32 | word64 =>
    cases width
    obtain ⟨word, spelled, rfl⟩ := Option.map_eq_some_iff.mp read
    obtain ⟨spells, small⟩ := within spelled
    have fits := Nat.lt_succ_of_le small
    exact ⟨word, spells, fits, congrArg (some ∘ Int.ofNat) (Nat.mod_eq_of_lt fits)⟩

/-- Blanks alone, a lone sign, a minus, blanks inside and digits of another script spell nothing. -/
example : [" \t", "+", "++5", "-0", "1 2", "٣", "65536"].all fun raw =>
    (Kind.word16.ofText? raw).isNone := by
  decide +kernel

end Kind

end Settings

/-! ## The variables that give numbers -/

namespace LegacyVariable

/-- The greatest number that can be given for a variable, if it gives a number. -/
def greatest? : LegacyVariable → Option Nat
  | .prefetch => some 65535
  | .retryDelay | .handleTimeout => some 18446744073709551615
  | _ => none

/-- The variables that are applied before one. -/
def earlier (origin : LegacyVariable) : List LegacyVariable := all.takeWhile (· ≠ origin)

/-- A variable that is applied before another is earlier than it. -/
theorem mem_earlier {origin other : LegacyVariable} {first later : List LegacyVariable}
    (split : all = first ++ other :: later) (late : origin ∈ later) : other ∈ origin.earlier := by
  have once : all.Nodup := by decide
  have whole : all = (first ++ [other]) ++ later := by simp [split]
  have different : ∀ before ∈ first ++ [other], decide (before ≠ origin) = true := by
    rw [whole] at once
    intro before among
    refine decide_eq_true ?_
    rintro rfl
    exact (List.disjoint_of_nodup_append once) among late
  rw [earlier, whole, List.takeWhile_append_of_pos different]
  simp

/-- No two of the older variables set the same setting. -/
theorem field_injective {origin other : LegacyVariable} (same : origin.field = other.field) :
    origin = other := by
  cases origin <;> cases other <;> first | rfl | cases same

/-- The words of its setting are those up to the greatest number. -/
theorem exists_bits {origin : LegacyVariable} {greatest : Nat}
    (limited : origin.greatest? = some greatest) :
    ∃ bits, origin.field.kind.bits? = some bits ∧ greatest + 1 = 2 ^ bits := by
  cases origin with
  | prefetch => exact ⟨16, rfl, by cases limited; rfl⟩
  | retryDelay | handleTimeout => exact ⟨64, rfl, by cases limited; rfl⟩
  | _ => cases limited

end LegacyVariable

namespace Settings

variable {lookup : String → Option String} {origin : LegacyVariable} {greatest : Nat}
variable {raw : String}

/-- A text spells a number that can be given for a variable. -/
def IsTakeable (greatest : Nat) (raw : String) (number : Nat) : Prop :=
  Text.SpellsNumber raw number ∧ number ≤ greatest

/-- What comes of a variable that gives a text for a number. -/
structure TakesNumber (lookup : String → Option String) (origin : LegacyVariable)
    (greatest : Nat) (raw : String) (before : Settings)
    (done : Settings × Except ServiceError Unit) : Prop where
  /-- The number that the text spells is the value of the field if the variables before this one can
  be read, -/
  taken : ∀ number, IsTakeable greatest raw number →
    (∀ other ∈ origin.earlier, other.IsReadable lookup) →
      origin.field.kind.number? (origin.field.value done.1) = some (number : Int)
  /-- and it is no error: if the other variables can be read, there is none. -/
  accepted : ∀ number, IsTakeable greatest raw number →
    (∀ other : LegacyVariable, other ≠ origin → other.IsReadable lookup) → done.2 = .ok ()
  /-- Without an error the text spells a number, and the field has it. -/
  sound : done.2 = .ok () → ∃ number, IsTakeable greatest raw number ∧
    origin.field.kind.number? (origin.field.value done.1) = some (number : Int)
  /-- Any other text is the error if the variables before this one can be read. -/
  refused : (¬∃ number, IsTakeable greatest raw number) →
    (∀ other ∈ origin.earlier, other.IsReadable lookup) →
      done.2 = .error (.invalidSetting origin.name ("无法解析的值: " ++ raw))
  /-- In any case it is an error of that sort, and the field stays as it is. -/
  invalid : (¬∃ number, IsTakeable greatest raw number) →
    (∃ name reason, done.2 = .error (.invalidSetting name reason)) ∧
      origin.field.value done.1 = origin.field.value before

/-- A variable can be read exactly if its text spells a number that can be given for it. -/
theorem isReadable_iff (limited : origin.greatest? = some greatest)
    (given : origin.given? lookup = some raw) :
    origin.IsReadable lookup ↔ ∃ number, IsTakeable greatest raw number := by
  obtain ⟨bits, width, limit⟩ := LegacyVariable.exists_bits limited
  constructor
  · intro readable
    obtain ⟨value, read⟩ := Option.isSome_iff_exists.mp (readable raw given)
    obtain ⟨number, spells, fits, _⟩ := Kind.spells_of_ofText? width read
    exact ⟨number, spells, by omega⟩
  · rintro ⟨number, spells, small⟩ text also
    obtain rfl : raw = text := Option.some.inj (given.symm.trans also)
    obtain ⟨value, read, _⟩ := Kind.ofText?_of_spells width spells (by omega)
    exact Option.isSome_of_eq_some read

/-- A field that has what is given for it has the number that the text spells. -/
theorem number?_of_isHeld {after : Settings} {number : Nat}
    (limited : origin.greatest? = some greatest) (given : origin.given? lookup = some raw)
    (held : origin.IsHeld lookup after) (takeable : IsTakeable greatest raw number) :
    origin.field.kind.number? (origin.field.value after) = some (number : Int) := by
  obtain ⟨bits, width, _⟩ := LegacyVariable.exists_bits limited
  obtain ⟨other, spells, _, is⟩ := Kind.spells_of_ofText? width (held raw given)
  rw [is, takeable.1.unique spells]

/-- A variable that gives a number gives exactly the one that its text spells, and any text that
spells none that the words of the setting hold is an error. -/
theorem applyLegacy_takes_number (limited : origin.greatest? = some greatest)
    (given : lookup origin.name = some raw) (filled : raw ≠ "") (settings : Settings) :
    TakesNumber lookup origin greatest raw settings (settings.applyLegacy lookup) := by
  have said : origin.given? lookup = some raw := by
    rw [LegacyVariable.given?, given, Option.filter_some, if_pos (decide_eq_true filled)]
  have legible := isReadable_iff limited said
  have among := origin.mem_all
  have applied : Applied lookup LegacyVariable.all settings (settings.applyLegacy lookup) :=
    applyVariables_applied nodup_fields settings
  generalize settings.applyLegacy lookup = done at applied
  cases applied with
  | @wholly after readable replaced =>
    obtain ⟨number, takeable⟩ := legible.mp (readable origin among)
    have held := replaced.held origin among
    constructor
    · exact fun number takeable _ => number?_of_isHeld limited said held takeable
    · exact fun _ _ _ => rfl
    · exact fun _ => ⟨number, takeable, number?_of_isHeld limited said held takeable⟩
    · exact fun none => absurd ⟨number, takeable⟩ none
    · exact fun none => absurd ⟨number, takeable⟩ none
  | @partly earlier later stop text after split readable stopped unreadable replaced =>
    have illegible : ¬stop.IsReadable lookup := by
      intro legible
      have read := legible text stopped
      rw [unreadable] at read
      cases read
    -- The variable comes before the one that cannot be read, or is it, or comes after it.
    rw [split, List.mem_append, List.mem_cons] at among
    constructor
    · intro number takeable before
      obtain early | rfl | late := among
      · exact number?_of_isHeld limited said (replaced.held origin early) takeable
      · exact absurd (legible.mpr ⟨number, takeable⟩) illegible
      · exact absurd (before stop (LegacyVariable.mem_earlier split late)) illegible
    · intro number takeable others
      refine absurd ?_ illegible
      by_cases same : stop = origin
      · rw [same]
        exact legible.mpr ⟨number, takeable⟩
      · exact others stop same
    · intro accepted
      cases accepted
    · intro none before
      obtain early | rfl | late := among
      · exact absurd (legible.mp (readable origin early)) none
      · obtain rfl : raw = text := Option.some.inj (said.symm.trans stopped)
        rfl
      · exact absurd (before stop (LegacyVariable.mem_earlier split late)) illegible
    · intro none
      refine ⟨⟨_, _, rfl⟩, replaced.kept origin.field fun other early same => ?_⟩
      obtain rfl := LegacyVariable.field_injective same
      exact absurd (legible.mp (readable other early)) none

/-- Two numbers, of which the second one is one too large. -/
def fewNumbers : String → Option String
  | "WORKER_PREFETCH" => some "\u3000+007\n"
  | "WORKER_RETRY_DELAY_MS" => some "18446744073709551616"
  | _ => none

/-- Zeros, a plus sign and blanks of any kind are no matter; the number after the greatest word is
not taken for zero. -/
theorem fewNumbers_are_taken :
    let done := (initial "minichat-worker" "development").applyLegacy fewNumbers
    fewNumbers "WORKER_PREFETCH" = some "\u3000+007\n" ∧
      Kind.word16.number? done.1.broker.prefetch = some 7 ∧
      fewNumbers "WORKER_RETRY_DELAY_MS" = some "18446744073709551616" ∧
      done.2 =
        .error (.invalidSetting "WORKER_RETRY_DELAY_MS" "无法解析的值: 18446744073709551616") := by
  intro done
  have seven : IsTakeable 65535 "\u3000+007\n" 7 :=
    Text.unsigned?_trim_eq_some_iff.mp (by decide +kernel)
  have large : ¬∃ number, IsTakeable 18446744073709551615 "18446744073709551616" number := by
    rintro ⟨number, takeable⟩
    have read := Text.unsigned?_trim_eq_some_iff.mpr takeable
    have none : Text.unsigned? 18446744073709551615 (Text.trim "18446744073709551616") = none := by
      decide +kernel
    rw [none] at read
    cases read
  have readable : ∀ other ∈ LegacyVariable.retryDelay.earlier, other.IsReadable fewNumbers := by
    intro other before
    cases other with
    | prefetch => exact (isReadable_iff rfl rfl).mpr ⟨7, seven⟩
    | retryDelay | handleTimeout => exact absurd before (by decide)
    | _ =>
      intro raw given
      cases given
  have first := @applyLegacy_takes_number fewNumbers .prefetch _ _ rfl rfl (by decide)
    (initial "minichat-worker" "development")
  have second := @applyLegacy_takes_number fewNumbers .retryDelay _ _ rfl rfl (by decide)
    (initial "minichat-worker" "development")
  have sooner : LegacyVariable.prefetch.earlier ⊆ LegacyVariable.retryDelay.earlier := by decide
  refine ⟨rfl, first.taken 7 seven fun other before => readable other (sooner before), rfl, ?_⟩
  exact second.refused large readable

end Settings

end EventLedger
