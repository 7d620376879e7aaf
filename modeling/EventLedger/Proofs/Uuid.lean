import EventLedger.Proofs.Numeral
import EventLedger.Proofs.Utf8
import EventLedger.Uuid

/-!
# The spellings of a UUID

Which texts are UUIDs and which one each of them is, as forms of 32 hexadecimal digits: alone, in
groups with hyphens, and that form between braces or after the name of its URN scheme.
`ofText?_eq_some_iff` says that a text is read as a UUID exactly if it is one of the forms. The
forms differ in length, but for the one between braces, which begins like no other one. What is
printed of a UUID is one of them, `isText_text`.
-/
namespace EventLedger.Uuid

/-- Hexadecimal digits of either case with their values. -/
def Hexadecimal (chars : List Char) (digits : List Nat) : Prop :=
  List.Forall₂ (fun c d => IsDigit 16 c.toNat d) chars digits

/-- Groups of 8, 4, 4, 4 and 12 digits with hyphens between them. -/
def Hyphenated (chars : List Char) (digits : List Nat) : Prop :=
  ∃ parts : List (List Char), parts.map List.length = [8, 4, 4, 4, 12] ∧
    Hexadecimal parts.flatten digits ∧ chars = ['-'].intercalate parts

/-- The forms of a UUID. -/
inductive Form : List Char → List Nat → Prop where
  /-- Digits alone. -/
  | simple {chars : List Char} {digits : List Nat} (hexadecimal : Hexadecimal chars digits)
      (length : digits.length = 32) : Form chars digits
  /-- Digits with hyphens. -/
  | hyphenated {chars : List Char} {digits : List Nat} (hyphenated : Hyphenated chars digits) :
      Form chars digits
  /-- Digits with hyphens, between braces. -/
  | braced {chars : List Char} {digits : List Nat} (hyphenated : Hyphenated chars digits) :
      Form ('\x7b' :: (chars ++ ['\x7d'])) digits
  /-- Digits with hyphens after the name of the scheme, in any case. -/
  | urn {scheme chars : List Char} {digits : List Nat}
      (name : scheme.map Char.toLower = "urn:uuid:".toList)
      (hyphenated : Hyphenated chars digits) : Form (scheme ++ chars) digits

/-- The number of 32 digits fits 128 bits. -/
theorem Hexadecimal.fits {chars : List Char} {digits : List Nat}
    (hexadecimal : Hexadecimal chars digits) (length : digits.length = 32) :
    placeValue 16 digits < 2 ^ 128 := by
  have small : ∀ d ∈ digits, d < 16 := by
    clear length
    induction hexadecimal with
    | nil => exact List.forall_mem_nil _
    | cons digit _ ih => exact List.forall_mem_cons.mpr ⟨digit.1, ih⟩
  have bound := placeValue_lt (by decide) small
  rwa [length] at bound

/-- There are 32 digits in the groups. -/
theorem Hyphenated.length_digits {chars : List Char} {digits : List Nat}
    (hyphenated : Hyphenated chars digits) : digits.length = 32 := by
  obtain ⟨parts, lengths, hexadecimal, _⟩ := hyphenated
  rw [← List.Forall₂.length_eq hexadecimal, List.length_flatten, lengths]
  rfl

/-- The number of the digits of a UUID fits 128 bits. -/
theorem Form.fits {chars : List Char} {digits : List Nat} (form : Form chars digits) :
    placeValue 16 digits < 2 ^ 128 := by
  have grouped {chars : List Char} (hyphenated : Hyphenated chars digits) :
      placeValue 16 digits < 2 ^ 128 := by
    have count := hyphenated.length_digits
    obtain ⟨_, _, hexadecimal, _⟩ := hyphenated
    exact hexadecimal.fits count
  cases form with
  | simple hexadecimal length => exact hexadecimal.fits length
  | hyphenated hyphenated => exact grouped hyphenated
  | braced hyphenated => exact grouped hyphenated
  | urn _ hyphenated => exact grouped hyphenated

/-- A text is a UUID in one of the forms, whose digits are its bits in order. -/
def IsText (text : String) (id : Uuid) : Prop :=
  ∃ digits, Form text.toList digits ∧ id.bits.toNat = placeValue 16 digits

/-! ## Digits -/

/-- A character has a value as a hexadecimal digit if it is one. -/
theorem hexDigit?_eq_some_iff {c : Char} {d : Nat} :
    hexDigit? c = some d ↔ IsDigit 16 c.toNat d := by
  simp only [hexDigit?, IsDigit, Char.le_def, UInt32.le_iff_toNat_le, Char.toNat_val,
    Char.reduceToNat, Bool.and_eq_true, decide_eq_true_eq]
  repeat' split
  all_goals simp
  all_goals omega

/-- Characters are read as digits one after another, each with its place. -/
theorem hexFrom?_eq_some_iff {chars : List Char} {value result : Nat} :
    hexFrom? value chars = some result ↔ ∃ digits, Hexadecimal chars digits ∧
      result = digits.foldl (fun value d => value * 16 + d) value := by
  induction chars generalizing value with
  | nil =>
    constructor
    · intro read
      cases read
      exact ⟨[], .nil, rfl⟩
    · rintro ⟨digits, hexadecimal, rfl⟩
      cases hexadecimal
      rfl
  | cons c chars ih =>
    rw [hexFrom?]
    constructor
    · intro read
      split at read
      · cases read
      next d digit =>
        obtain ⟨digits, hexadecimal, rfl⟩ := ih.mp read
        exact ⟨d :: digits, .cons (hexDigit?_eq_some_iff.mp digit) hexadecimal, rfl⟩
    · rintro ⟨_, hexadecimal, rfl⟩
      cases hexadecimal with
      | cons digit others =>
        rw [hexDigit?_eq_some_iff.mpr digit]
        exact ih.mpr ⟨_, others, rfl⟩

/-- Characters are the digits of a UUID if they are 32 hexadecimal digits of its bits. -/
theorem ofDigits?_eq_some_iff {chars : List Char} {id : Uuid} :
    ofDigits? chars = some id ↔ ∃ digits, Hexadecimal chars digits ∧ digits.length = 32 ∧
      id.bits.toNat = placeValue 16 digits := by
  rw [ofDigits?]
  constructor
  · intro read
    split at read
    next length =>
      obtain ⟨value, found, rfl⟩ := Option.map_eq_some_iff.mp read
      obtain ⟨digits, hexadecimal, rfl⟩ := hexFrom?_eq_some_iff.mp found
      have count : digits.length = 32 := (List.Forall₂.length_eq hexadecimal).symm.trans length
      refine ⟨digits, hexadecimal, count, ?_⟩
      rw [foldl_digits, BitVec.toNat_ofNat, Nat.mod_eq_of_lt (hexadecimal.fits count)]
    · cases read
  · rintro ⟨digits, hexadecimal, count, value⟩
    have read : hexFrom? 0 chars = some (placeValue 16 digits) :=
      hexFrom?_eq_some_iff.mpr ⟨digits, hexadecimal, (foldl_digits 16 digits).symm⟩
    rw [if_pos ((List.Forall₂.length_eq hexadecimal).trans count), read, ← value]
    simp

/-! ## Groups -/

/-- A text is ungrouped if hyphens part it into groups of these lengths. -/
theorem ungroup?_eq_some_iff {lengths : List Nat} {text joined : List Char} :
    ungroup? lengths text = some joined ↔ ∃ parts : List (List Char),
      parts.map List.length = lengths ∧ text = ['-'].intercalate parts ∧
        joined = parts.flatten := by
  constructor
  · intro read
    fun_induction ungroup? lengths text generalizing joined with
    | case1 text empty =>
      cases read
      exact ⟨[], rfl, by simpa using empty, rfl⟩
    | case3 text =>
      cases read
      exact ⟨[text], rfl, by simp, by simp⟩
    | case5 length lengths text more rest split ih =>
      obtain ⟨others, found, rfl⟩ := Option.map_eq_some_iff.mp read
      obtain ⟨parts, rfl, rfl, rfl⟩ := ih found
      obtain _ | ⟨next, parts⟩ := parts
      · exact absurd rfl more
      have whole := List.take_append_drop length text
      rw [split] at whole
      have long : length < text.length := by
        have dropped := congrArg List.length split
        rw [List.length_drop, List.length_cons] at dropped
        omega
      refine ⟨text.take length :: next :: parts, ?_, ?_, rfl⟩
      · rw [List.map_cons, List.length_take, Nat.min_eq_left (Nat.le_of_lt long)]
      · rw [List.intercalate_cons_cons]
        simpa using whole.symm
    | _ => cases read
  · rintro ⟨parts, rfl, rfl, rfl⟩
    induction parts with
    | nil => rfl
    | cons part parts ih =>
      cases parts with
      | nil => simp [ungroup?]
      | cons next parts =>
        have dropped : (part ++ '-' :: ['-'].intercalate (next :: parts)).drop part.length =
            '-' :: ['-'].intercalate (next :: parts) := List.drop_left
        rw [List.map_cons] at ih
        rw [List.intercalate_cons_cons, List.append_assoc, List.map_cons, List.map_cons, ungroup?]
        · simp only [List.cons_append, List.nil_append, dropped, ih, Option.map_some,
            List.take_left, List.flatten_cons]
        · exact List.cons_ne_nil _ _

/-- A text is a hyphenated UUID if its groups spell its bits. -/
theorem ofHyphenated?_eq_some_iff {text : List Char} {id : Uuid} :
    ofHyphenated? text = some id ↔ ∃ digits, Hyphenated text digits ∧
      id.bits.toNat = placeValue 16 digits := by
  simp only [ofHyphenated?, Option.bind_eq_some_iff, ungroup?_eq_some_iff, ofDigits?_eq_some_iff,
    groups]
  constructor
  · rintro ⟨_, ⟨parts, lengths, rfl, rfl⟩, digits, hexadecimal, _, value⟩
    exact ⟨digits, ⟨parts, lengths, hexadecimal, rfl⟩, value⟩
  · rintro ⟨digits, ⟨parts, lengths, hexadecimal, rfl⟩, value⟩
    have count := Hyphenated.length_digits ⟨parts, lengths, hexadecimal, rfl⟩
    exact ⟨_, ⟨parts, lengths, rfl, rfl⟩, digits, hexadecimal, count, value⟩

/-! ## Forms -/

/-- The hyphenated form has 36 characters, the first of which is a digit. -/
theorem Hyphenated.head {chars : List Char} {digits : List Nat} (form : Hyphenated chars digits) :
    chars.length = 36 ∧ ∃ c rest d, chars = c :: rest ∧ IsDigit 16 c.toNat d := by
  obtain ⟨parts, lengths, hexadecimal, rfl⟩ := form
  obtain _ | ⟨p, _ | ⟨q, _ | ⟨r, _ | ⟨s, _ | ⟨t, _ | _⟩⟩⟩⟩⟩ := parts
  case cons.cons.cons.cons.cons.nil =>
    simp only [List.map_cons, List.map_nil, List.cons.injEq] at lengths
    constructor
    · simp only [List.intercalate_cons_cons, List.intercalate_singleton, List.length_append,
        List.length_cons, List.length_nil]
      omega
    · obtain _ | ⟨c, p⟩ := p
      · cases lengths.1
      · cases hexadecimal with
        | cons digit _ => exact ⟨c, _, _, rfl, digit⟩
  all_goals simp at lengths

/-- A digit is no brace, and no digit begins the name of the scheme. -/
theorem ne_of_digit {c : Char} {d : Nat} (digit : IsDigit 16 c.toNat d) :
    c ≠ '\x7b' ∧ c.toLower ≠ 'u' := by
  simp only [IsDigit, Char.reduceToNat] at digit
  constructor
  · rintro rfl
    simp only [Char.reduceToNat] at digit
    omega
  · intro lower
    unfold Char.toLower at lower
    split at lower
    next upper =>
      have code := congrArg Char.toNat lower
      simp only [Char.toNat, Char.reduceVal, UInt32.toNat_add, ge_iff_le, UInt32.le_iff_toNat_le,
        UInt32.reduceSub, UInt32.reduceToNat] at code upper digit
      omega
    · subst lower
      simp only [Char.reduceToNat] at digit
      omega

/-- What is read in the other forms than the one between braces. -/
theorem ofText?_plain {text : String} {c : Char} {rest : List Char}
    (spelled : text.toList = c :: rest)
    (noBrace : c ≠ '\x7b') : ofText? text =
      if (c :: rest).length = 32 then ofDigits? (c :: rest)
      else if ((c :: rest).take 9).map Char.toLower = urnPrefix then
        ofHyphenated? ((c :: rest).drop 9)
      else ofHyphenated? (c :: rest) := by
  rw [ofText?, spelled]
  split
  next same =>
    cases same
    exact absurd rfl noBrace
  · rfl

/-- What is read is one of the forms. -/
theorem isText_of_ofText? {text : String} {id : Uuid} (read : ofText? text = some id) :
    IsText text id := by
  rw [ofText?] at read
  rw [IsText]
  generalize text.toList = chars at read
  split at read
  next rest =>
    split at read
    next last =>
      obtain ⟨digits, hyphenated, value⟩ := ofHyphenated?_eq_some_iff.mp read
      obtain ⟨inner, rfl⟩ := List.getLast?_eq_some_iff.mp last
      rw [List.dropLast_concat] at hyphenated
      exact ⟨digits, .braced hyphenated, value⟩
    · cases read
  · split at read
    · obtain ⟨digits, hexadecimal, count, value⟩ := ofDigits?_eq_some_iff.mp read
      exact ⟨digits, .simple hexadecimal count, value⟩
    split at read
    next name =>
      obtain ⟨digits, hyphenated, value⟩ := ofHyphenated?_eq_some_iff.mp read
      have whole := Form.urn name hyphenated
      rw [List.take_append_drop] at whole
      exact ⟨digits, whole, value⟩
    · obtain ⟨digits, hyphenated, value⟩ := ofHyphenated?_eq_some_iff.mp read
      exact ⟨digits, .hyphenated hyphenated, value⟩

section

variable {text : String} {id : Uuid} {digits : List Nat}

/-- A text of 32 digits is read as the UUID that they spell. -/
theorem ofText?_of_simple (hexadecimal : Hexadecimal text.toList digits)
    (count : digits.length = 32) (value : id.bits.toNat = placeValue 16 digits) :
    ofText? text = some id := by
  have whole := ofDigits?_eq_some_iff.mpr ⟨_, hexadecimal, count, value⟩
  have length := (List.Forall₂.length_eq hexadecimal).trans count
  generalize spelled : text.toList = chars at hexadecimal whole length
  cases hexadecimal with
  | nil => cases count
  | cons digit _ => rw [ofText?_plain spelled (ne_of_digit digit).1, if_pos length, whole]

/-- So is a hyphenated text. -/
theorem ofText?_of_hyphenated (hyphenated : Hyphenated text.toList digits)
    (value : id.bits.toNat = placeValue 16 digits) : ofText? text = some id := by
  have whole := ofHyphenated?_eq_some_iff.mpr ⟨_, hyphenated, value⟩
  obtain ⟨length, c, rest, d, spelled, digit⟩ := hyphenated.head
  rw [spelled] at whole length
  have other : ((c :: rest).take 9).map Char.toLower ≠ urnPrefix := by
    intro same
    exact (ne_of_digit digit).2 (List.cons.inj same).1
  rw [ofText?_plain spelled (ne_of_digit digit).1, if_neg (by omega), if_neg other, whole]

/-- So is a hyphenated text in braces. -/
theorem ofText?_of_braced {chars : List Char}
    (spelled : text.toList = '\x7b' :: (chars ++ ['\x7d']))
    (hyphenated : Hyphenated chars digits) (value : id.bits.toNat = placeValue 16 digits) :
    ofText? text = some id := by
  have last : (chars ++ ['\x7d']).getLast? = some '\x7d' := by simp
  have read : ofText? text = if (chars ++ ['\x7d']).getLast? = some '\x7d' then
      ofHyphenated? (chars ++ ['\x7d']).dropLast else none := by
    rw [ofText?, spelled]
    rfl
  rw [read, if_pos last, List.dropLast_concat]
  exact ofHyphenated?_eq_some_iff.mpr ⟨digits, hyphenated, value⟩

/-- So is a hyphenated text after the name of its scheme, in any case. -/
theorem ofText?_of_urn {scheme chars : List Char} (spelled : text.toList = scheme ++ chars)
    (name : scheme.map Char.toLower = "urn:uuid:".toList) (hyphenated : Hyphenated chars digits)
    (value : id.bits.toNat = placeValue 16 digits) : ofText? text = some id := by
  have nine : scheme.length = 9 := by simpa using congrArg List.length name
  have length := hyphenated.head.1
  obtain _ | ⟨c, scheme⟩ := scheme
  · cases name
  have noBrace : c ≠ '\x7b' := by
    rintro rfl
    have begins : '\x7b'.toLower = 'u' := (List.cons.inj name).1
    revert begins
    decide
  have front : ((c :: scheme) ++ chars).take 9 = c :: scheme := by rw [← nine, List.take_left]
  have back : ((c :: scheme) ++ chars).drop 9 = chars := by rw [← nine, List.drop_left]
  have long : ((c :: scheme) ++ chars).length ≠ 32 := by
    rw [List.length_append]
    omega
  rw [List.cons_append] at front back long spelled
  have isName : (c :: scheme).map Char.toLower = urnPrefix := name
  rw [ofText?_plain spelled noBrace, if_neg long, front, back, if_pos isName]
  exact ofHyphenated?_eq_some_iff.mpr ⟨digits, hyphenated, value⟩

end

/-- A text is read as a UUID exactly if it is one of the forms. -/
theorem ofText?_eq_some_iff {text : String} {id : Uuid} :
    ofText? text = some id ↔ IsText text id := by
  refine ⟨isText_of_ofText?, ?_⟩
  rintro ⟨digits, form, value⟩
  generalize spelled : text.toList = chars at form
  cases form with
  | simple hexadecimal count => exact ofText?_of_simple (spelled ▸ hexadecimal) count value
  | hyphenated hyphenated => exact ofText?_of_hyphenated (spelled ▸ hyphenated) value
  | braced hyphenated => exact ofText?_of_braced spelled hyphenated value
  | urn name hyphenated => exact ofText?_of_urn spelled name hyphenated value

/-- A text is no two UUIDs. -/
theorem IsText.unique {text : String} {id other : Uuid} (isText : IsText text id)
    (again : IsText text other) : id = other := by
  rw [← ofText?_eq_some_iff] at isText again
  rw [isText] at again
  exact Option.some.inj again

/-- A text of the forms is the UUID of its digits. -/
theorem exists_isText_of_form {text : String} {digits : List Nat}
    (form : Form text.toList digits) :
    ∃ id, IsText text id ∧ id.bits.toNat = placeValue 16 digits := by
  have value : (BitVec.ofNat 128 (placeValue 16 digits)).toNat = placeValue 16 digits := by
    rw [BitVec.toNat_ofNat, Nat.mod_eq_of_lt form.fits]
  exact ⟨⟨_⟩, ⟨digits, form, value⟩, value⟩

/-- Whatever digits a text of a UUID is said to have, they have its value. -/
theorem IsText.value {text : String} {id : Uuid} {digits : List Nat} (isText : IsText text id)
    (form : Form text.toList digits) : id.bits.toNat = placeValue 16 digits := by
  obtain ⟨other, again, value⟩ := exists_isText_of_form form
  rw [isText.unique again, value]

/-! ## The canonical text -/

/-- The text of a UUID whose digits are in lower case: groups of them with hyphens, and nothing
else. -/
structure IsCanonical (text : String) : Prop where
  /-- Groups of digits with hyphens between them. -/
  hyphenated : ∃ digits, Hyphenated text.toList digits
  /-- No digit is an upper-case letter. -/
  lowerCase : ∀ c ∈ text.toList, c ∈ "0123456789abcdef-".toList

/-- What is written for a small number spells it as a hexadecimal digit. -/
theorem isDigit_digitChar {d : Nat} (small : d < 16) : IsDigit 16 (Nat.digitChar d).toNat d := by
  rw [IsDigit]
  revert d
  decide

/-- It is one of the sixteen characters. -/
theorem digitChar_mem {d : Nat} (small : d < 16) :
    Nat.digitChar d ∈ "0123456789abcdef".toList := by
  revert d
  decide

/-- As many digits are written as asked for. -/
theorem length_hexDigits (count value : Nat) : (hexDigits count value).length = count := by
  induction count generalizing value with
  | zero => rfl
  | succ count ih => rw [hexDigits, List.length_append, ih, List.length_singleton]

/-- Each of them is one of the sixteen characters. -/
theorem mem_hexDigits {count value : Nat} {c : Char} (inside : c ∈ hexDigits count value) :
    c ∈ "0123456789abcdef".toList := by
  induction count generalizing value with
  | zero => cases inside
  | succ count ih =>
    rw [hexDigits, List.mem_append, List.mem_singleton] at inside
    obtain earlier | rfl := inside
    · exact ih earlier
    · exact digitChar_mem (Nat.mod_lt value (by decide))

/-- Enough hexadecimal digits of a number have its value. -/
theorem exists_digits_hexDigits {count value : Nat} (fits : value < 16 ^ count) :
    ∃ digits, Hexadecimal (hexDigits count value) digits ∧ placeValue 16 digits = value := by
  induction count generalizing value with
  | zero =>
    have zero : value = 0 := by simpa using fits
    exact ⟨[], .nil, zero.symm⟩
  | succ count ih =>
    have fewer : value / 16 < 16 ^ count := by omega
    obtain ⟨digits, hexadecimal, front⟩ := ih fewer
    have last : Hexadecimal [Nat.digitChar (value % 16)] [value % 16] :=
      .cons (isDigit_digitChar (Nat.mod_lt value (by decide))) .nil
    refine ⟨digits ++ [value % 16], List.rel_append hexadecimal last, ?_⟩
    rw [placeValue_concat, front]
    exact Nat.div_add_mod' value 16

/-- Grouping splits a text of the right length into parts of the given lengths. -/
theorem exists_parts_group {lengths : List Nat} {text : List Char}
    (whole : text.length = lengths.sum) :
    ∃ parts : List (List Char), parts.map List.length = lengths ∧ parts.flatten = text ∧
      group lengths text = ['-'].intercalate parts := by
  fun_induction group lengths text with
  | case1 text =>
    have empty : text = [] := List.eq_nil_of_length_eq_zero whole
    exact ⟨[], rfl, empty.symm, rfl⟩
  | case2 length text =>
    rw [List.sum_singleton] at whole
    have all : text.take length = text := List.take_of_length_le (Nat.le_of_eq whole)
    refine ⟨[text], ?_, ?_, ?_⟩
    · rw [List.map_singleton, whole]
    · rw [List.flatten_singleton]
    · rw [List.intercalate_singleton, all]
  | case3 length lengths text more ih =>
    rw [List.sum_cons] at whole
    have rest : (text.drop length).length = lengths.sum := by
      rw [List.length_drop]
      omega
    obtain ⟨parts, others, joined, grouped⟩ := ih rest
    have first : (text.take length).length = length := by
      rw [List.length_take]
      omega
    have some : parts ≠ [] := by
      rintro rfl
      exact more others.symm
    obtain ⟨next, parts, rfl⟩ := List.exists_cons_of_ne_nil some
    refine ⟨text.take length :: next :: parts, ?_, ?_, ?_⟩
    · rw [List.map_cons, others, first]
    · rw [List.flatten_cons, joined, List.take_append_drop]
    · rw [grouped, List.intercalate_cons_cons, List.append_assoc]
      rfl

/-- The canonical text of a UUID has hyphens between groups of the digits of its value. -/
theorem exists_hyphenated_text (id : Uuid) :
    ∃ digits, Hyphenated id.text.toList digits ∧ id.bits.toNat = placeValue 16 digits := by
  have fits : id.bits.toNat < 16 ^ 32 := id.bits.isLt
  obtain ⟨digits, hexadecimal, value⟩ := exists_digits_hexDigits fits
  have whole : id.digits.length = groups.sum := length_hexDigits 32 _
  obtain ⟨parts, lengths, joined, grouped⟩ := exists_parts_group whole
  refine ⟨digits, ⟨parts, lengths, ?_, ?_⟩, value.symm⟩
  · rw [joined]
    exact hexadecimal
  · rw [text, String.toList_ofList, grouped]

/-- Grouping adds nothing but hyphens. -/
theorem mem_group {lengths : List Nat} {text : List Char} {c : Char}
    (inside : c ∈ group lengths text) : c ∈ text ∨ c = '-' := by
  fun_induction group lengths text with
  | case1 => cases inside
  | case2 => exact .inl (List.mem_of_mem_take inside)
  | case3 length lengths text more ih =>
    rw [List.mem_append, List.mem_cons] at inside
    obtain first | hyphen | others := inside
    · exact .inl (List.mem_of_mem_take first)
    · exact .inr hyphen
    · exact (ih others).imp_left List.mem_of_mem_drop

/-- A UUID is printed in its canonical form. -/
theorem isCanonical_text (id : Uuid) : IsCanonical id.text := by
  obtain ⟨digits, hyphenated, _⟩ := exists_hyphenated_text id
  refine ⟨⟨digits, hyphenated⟩, fun c inside => ?_⟩
  have among : "0123456789abcdef-".toList = "0123456789abcdef".toList ++ ['-'] := by decide
  rw [text, String.toList_ofList] at inside
  rw [among, List.mem_append, List.mem_singleton]
  exact (mem_group inside).imp_left mem_hexDigits

/-- What is printed of a UUID is a text of it. -/
theorem isText_text (id : Uuid) : IsText id.text id := by
  obtain ⟨digits, hyphenated, value⟩ := exists_hyphenated_text id
  exact ⟨digits, .hyphenated hyphenated, value⟩

/-- Every UUID has a text. -/
theorem exists_isText (id : Uuid) : ∃ text, IsText text id := ⟨id.text, isText_text id⟩

end EventLedger.Uuid
