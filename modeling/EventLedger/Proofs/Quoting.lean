import EventLedger.Proofs.Uuid
import EventLedger.Text.Quoted

/-!
# Quoted texts are read back

A reader goes through a quoted text from its opening quote and gives back the text and what follows
the closing quote, `readQuoted_quoted`. So a text can be told from its quotation, whatever it holds:
quotes, backslashes, and what looks like an escape or like the end of the quotation. No control
character comes out of a text when it is quoted, `isPlain_quoted`.
-/
namespace EventLedger.Text

/-! ## Reading -/

/-- Where a reader stands in a quoted text. -/
inductive QuotePlace where
  /-- Between two characters. -/
  | plain
  /-- After a backslash. -/
  | escape
  /-- After the letter of a code point. -/
  | opening
  /-- After digits of a code point, with their value. -/
  | code (value : Nat)

/-- The character for which a letter stands after a backslash. -/
def escaped? (letter : Char) : Option Char :=
  [('0', '\x00'), ('t', '\t'), ('r', '\r'), ('n', '\n'), ('\\', '\\'), ('"', '"')].lookup letter

/-- The characters up to the closing quote, and what follows it. -/
def unquoteFrom : QuotePlace → List Char → Option (List Char × List Char)
  | _, [] => none
  | .plain, c :: rest =>
    if c = '"' then some ([], rest)
    else if c = '\\' then unquoteFrom .escape rest
    else (unquoteFrom .plain rest).map fun (text, rest) => (c :: text, rest)
  | .escape, c :: rest =>
    if c = 'u' then unquoteFrom .opening rest
    else
      match escaped? c with
      | some meant => (unquoteFrom .plain rest).map fun (text, rest) => (meant :: text, rest)
      | none => none
  | .opening, c :: rest => if c = '\x7b' then unquoteFrom (.code 0) rest else none
  | .code value, c :: rest =>
    if c = '\x7d' then
      (unquoteFrom .plain rest).map fun (text, rest) => (Char.ofNat value :: text, rest)
    else
      match Uuid.hexDigit? c with
      | some d => unquoteFrom (.code (value * 16 + d)) rest
      | none => none

/-- The text that is quoted at the front, and what follows its quotation. -/
def readQuoted : List Char → Option (String × List Char)
  | [] => none
  | c :: rest =>
    if c = '"' then (unquoteFrom .plain rest).map fun (text, rest) => (String.ofList text, rest)
    else none

/-! ## Hexadecimal numerals -/

/-- The numeral of a number has its digits. -/
theorem exists_digits_toDigits (number : Nat) : ∃ digits,
    Uuid.Hexadecimal (Nat.toDigits 16 number) digits ∧ placeValue 16 digits = number := by
  induction number using Nat.strongRecOn with
  | ind number ih =>
    by_cases small : number < 16
    · rw [Nat.toDigits_of_lt_base small]
      exact ⟨[number], .cons (Uuid.isDigit_digitChar small) .nil, by simp [placeValue]⟩
    · obtain ⟨digits, spelled, value⟩ := ih (number / 16) (by omega)
      have last : IsDigit 16 (number % 16).digitChar.toNat (number % 16) :=
        Uuid.isDigit_digitChar (Nat.mod_lt _ (by decide))
      rw [Nat.toDigits_of_base_le (by decide) (by omega)]
      refine ⟨digits ++ [number % 16], List.rel_append spelled (.cons last .nil), ?_⟩
      rw [placeValue_concat, value]
      omega

/-! ## Reading back -/

/-- Digits of a code point are read one after the other. -/
theorem unquoteFrom_code {chars : List Char} {digits : List Nat}
    (spelled : Uuid.Hexadecimal chars digits) (value : Nat) (rest : List Char) :
    unquoteFrom (.code value) (chars ++ rest) =
      unquoteFrom (.code (digits.foldl (fun value d => value * 16 + d) value)) rest := by
  induction spelled generalizing value with
  | nil => rfl
  | @cons c d _ _ digit _ ih =>
    have read : Uuid.hexDigit? c = some d := Uuid.hexDigit?_eq_some_iff.mpr digit
    have noBrace : c ≠ '\x7d' := by
      rintro rfl
      cases read
    rw [List.cons_append, unquoteFrom, if_neg noBrace, read]
    exact ih _

/-- An escaped code point is read back as its character. -/
theorem unquoteFrom_codePointEscape (c : Char) (rest : List Char) :
    unquoteFrom .plain (codePointEscape c ++ rest) =
      (unquoteFrom .plain rest).map fun (text, rest) => (c :: text, rest) := by
  obtain ⟨digits, spelled, value⟩ := exists_digits_toDigits c.toNat
  have read := unquoteFrom_code spelled 0 ('\x7d' :: rest)
  rw [foldl_digits, value, unquoteFrom, if_pos rfl, Char.ofNat_toNat] at read
  rw [← read]
  simp [codePointEscape, unquoteFrom]

/-- One character is read back. -/
theorem unquoteFrom_escapeChar (c : Char) (rest : List Char) :
    unquoteFrom .plain (escapeChar c ++ rest) =
      (unquoteFrom .plain rest).map fun (text, rest) => (c :: text, rest) := by
  have short {letter meant : Char} (stands : escaped? letter = some meant)
      (other : letter ≠ 'u') : unquoteFrom .plain ([('\\' : Char), letter] ++ rest) =
        (unquoteFrom .plain rest).map fun (text, rest) => (meant :: text, rest) := by
    simp [unquoteFrom, other, stands]
  unfold escapeChar
  iterate 6
    split
    · rename_i is
      rw [is]
      exact short rfl (by decide)
  rename_i noEscape noQuote
  have raw : unquoteFrom .plain ([c] ++ rest) =
      (unquoteFrom .plain rest).map fun (text, rest) => (c :: text, rest) := by
    simp [unquoteFrom, noEscape, noQuote]
  have coded := unquoteFrom_codePointEscape c rest
  repeat' split
  all_goals assumption

/-- An escaped text is read back up to the closing quote. -/
theorem unquoteFrom_flatMap (text rest : List Char) :
    unquoteFrom .plain (text.flatMap escapeChar ++ '"' :: rest) = some (text, rest) := by
  induction text with
  | nil => rfl
  | cons c text ih =>
    rw [List.flatMap_cons, List.append_assoc, unquoteFrom_escapeChar, ih]
    rfl

/-- A quoted text is its escaped characters between quotes. -/
theorem toList_quoted (text : String) :
    (quoted text).toList = '"' :: (text.toList.flatMap escapeChar ++ ['"']) :=
  String.toList_ofList

/-- What is quoted is read back, and the reader stops at the closing quote. -/
theorem readQuoted_quoted (text : String) (rest : List Char) :
    readQuoted ((quoted text).toList ++ rest) = some (text, rest) := by
  have read := unquoteFrom_flatMap text.toList rest
  rw [toList_quoted, List.cons_append, List.append_assoc, readQuoted, if_pos rfl]
  rw [List.singleton_append, read, Option.map_some]
  exact congrArg (fun text => some (text, rest)) String.ofList_toList

/-- Two texts are quoted alike only if they are equal. -/
theorem quoted_injective {text other : String} (same : quoted text = quoted other) :
    text = other := by
  have read := readQuoted_quoted text []
  rw [same, readQuoted_quoted other []] at read
  cases read
  rfl

/-- A text that looks like an escape, and like the end of a quotation, is no other text. -/
example : readQuoted (quoted "\\n\", \n").toList = some ("\\n\", \n", []) := by decide +kernel

/-! ## Control characters -/

/-- A character is a control character, or separates lines or paragraphs. -/
def IsControl (c : Char) : Prop :=
  c.toNat < 0x20 ∨ 0x7F ≤ c.toNat ∧ c.toNat ≤ 0x9F ∨ c.toNat = 0x2028 ∨ c.toNat = 0x2029

/-- Whether a character is a control is decided by its code. -/
instance (c : Char) : Decidable (IsControl c) :=
  inferInstanceAs (Decidable (c.toNat < 0x20 ∨ 0x7F ≤ c.toNat ∧ c.toNat ≤ 0x9F ∨
    c.toNat = 0x2028 ∨ c.toNat = 0x2029))

/-- A text has no control character. -/
def IsPlain (text : String) : Prop :=
  ∀ c ∈ text.toList, ¬IsControl c

/-- Whether a text is plain is decided character by character. -/
instance (text : String) : Decidable (IsPlain text) :=
  List.decidableBAll (fun c => ¬IsControl c) text.toList

/-- A code within one of the ranges is in them. -/
theorem inRanges_of_mem {ranges : List (Nat × Nat)} {low high code : Nat}
    (listed : (low, high) ∈ ranges) (above : low ≤ code) (below : code ≤ high) :
    inRanges ranges code = true :=
  List.any_eq_true.mpr ⟨(low, high), listed, by simp [above, below]⟩

/-- Control characters beyond ASCII are hidden. -/
theorem isHidden_of_isControl {c : Char} (control : IsControl c) (late : ¬c.toNat < 0x20) :
    isHidden c = true := by
  have first : (0x7F, 0xA0) ∈ unprintableRanges := by decide +kernel
  have second : (0x2028, 0x202F) ∈ unprintableRanges := by decide +kernel
  rw [isHidden, Bool.or_eq_true]
  right
  obtain early | between | line := control
  · exact absurd early late
  · exact inRanges_of_mem first between.1 (by omega)
  · exact inRanges_of_mem second (by omega) (by omega)

/-- The printable characters of ASCII are no controls. -/
theorem not_isControl_of_between {c : Char} (above : 0x20 ≤ c.toNat) (below : c.toNat < 0x7F) :
    ¬IsControl c := by
  rintro (early | between | line) <;> omega

/-- Neither is a hexadecimal digit. -/
theorem not_isControl_of_isDigit {c : Char} {d : Nat} (digit : IsDigit 16 c.toNat d) :
    ¬IsControl c := by
  simp only [IsDigit, Char.reduceToNat] at digit
  exact not_isControl_of_between (by omega) (by omega)

/-- Nor is anything in the escape of a code point. -/
theorem not_isControl_of_mem_codePointEscape {c d : Char} (among : d ∈ codePointEscape c) :
    ¬IsControl d := by
  obtain ⟨digits, spelled, _⟩ := exists_digits_toDigits c.toNat
  have plain : ∀ d ∈ (['\\', 'u', '\x7b', '\x7d'] : List Char), ¬IsControl d := by
    simp [IsControl]
  simp only [codePointEscape, List.mem_append] at among
  obtain (opening | digit) | closing := among
  · exact plain d (List.mem_append_left ['\x7d'] opening)
  · obtain ⟨_, isDigit⟩ := IsDigit.exists_of_mem spelled digit
    exact not_isControl_of_isDigit isDigit
  · exact plain d (List.mem_append_right ['\\', 'u', '\x7b'] closing)

/-- Nor is anything that a character is escaped by. -/
theorem not_isControl_of_mem_escapeChar {c d : Char} (among : d ∈ escapeChar c) :
    ¬IsControl d := by
  have letters : ∀ d ∈ (['\\', '0', 't', 'r', 'n', '"'] : List Char), ¬IsControl d := by
    simp [IsControl]
  have short {letter : Char} (listed : letter ∈ (['\\', '0', 't', 'r', 'n', '"'] : List Char))
      (among : d ∈ (['\\', letter] : List Char)) : ¬IsControl d := by
    obtain rfl | rfl := List.mem_pair.mp among
    · exact letters _ List.mem_cons_self
    · exact letters _ listed
  have coded : d ∈ codePointEscape c → ¬IsControl d := not_isControl_of_mem_codePointEscape
  unfold escapeChar at among
  iterate 6
    split at among
    · exact short (by simp) among
  split at among
  next below =>
    split at among
    · exact coded among
    · next above =>
      obtain rfl := List.mem_singleton.mp among
      exact not_isControl_of_between (by omega) below
  next above =>
    split at among
    · exact coded among
    · next shown =>
      obtain rfl := List.mem_singleton.mp among
      exact fun control => shown (isHidden_of_isControl control (by omega))

/-- No control character of a text is left in its quotation. -/
theorem isPlain_quoted (text : String) : IsPlain (quoted text) := by
  intro c among
  have quote : ¬IsControl '"' := by decide
  rw [toList_quoted, List.mem_cons, List.mem_append, List.mem_flatMap, List.mem_singleton] at among
  obtain rfl | ⟨_, _, among⟩ | rfl := among
  · exact quote
  · exact not_isControl_of_mem_escapeChar among
  · exact quote

/-- Plain texts make a plain text. -/
theorem IsPlain.append {text other : String} (plain : IsPlain text) (plain' : IsPlain other) :
    IsPlain (text ++ other) := by
  intro c among
  rw [String.toList_append, List.mem_append] at among
  exact among.elim (plain c) (plain' c)

end EventLedger.Text
