import EventLedger.Proofs.Json.Grammar
import EventLedger.Proofs.Utf8

/-!
# Texts are read as the grammar has them

A text is read to its closing quote, so what follows does not matter: `readText_append` and
`readText_eq_some` for texts that somebody reads, `skipTextTail_append` and
`skipTextTail_eq_some` for the others. The reader collects the bytes of all characters and decodes
them at the end, while the grammar has one character after the other; `textBytes_eq_some` cuts the
bytes where the characters begin.
-/
namespace EventLedger.Json

open Grammar
open EventLedger.Text.Utf8 (encodeChar encodeChars)

/-! ## Blanks and words -/

/-- The four blanks by their codes. -/
theorem mem_word_blanks {b : UInt8} :
    b ∈ word " \n\r\t" ↔ b = 0x20 ∨ b = 0x0A ∨ b = 0x0D ∨ b = 0x09 := by
  have bytes : word " \n\r\t" = [0x20, 0x0A, 0x0D, 0x09] := by decide
  simp [bytes]

/-- A byte is a blank if it is one of these. -/
theorem isSpace_iff {b : UInt8} : isSpace b = true ↔ b ∈ word " \n\r\t" := by
  rw [mem_word_blanks]
  simp [isSpace, or_assoc]

/-- Blanks are skipped. -/
theorem skipSpace_blanks {blanks : Bytes} (blank : Blanks blanks) (rest : Bytes) :
    skipSpace (blanks ++ rest) = skipSpace rest :=
  List.dropWhile_append_of_pos fun b inside => isSpace_iff.mpr (blank b inside)

/-- Nothing else is. -/
theorem skipSpace_cons {b : UInt8} (other : isSpace b = false) (rest : Bytes) :
    skipSpace (b :: rest) = b :: rest := by
  simp [skipSpace, other]

/-- After blanks have been skipped there are none to skip. -/
theorem skipSpace_skipSpace (input : Bytes) : skipSpace (skipSpace input) = skipSpace input := by
  induction input with
  | nil => rfl
  | cons b input ih =>
    cases space : isSpace b with
    | true => simpa [skipSpace, space] using ih
    | false => simp [skipSpace, space]

/-- What is skipped are blanks. -/
theorem exists_blanks {input rest : Bytes} (skipped : skipSpace input = rest) :
    ∃ blanks, Blanks blanks ∧ input = blanks ++ rest := by
  subst skipped
  refine ⟨input.takeWhile isSpace, fun b inside => ?_, List.takeWhile_append_dropWhile.symm⟩
  exact isSpace_iff.mp (List.all_eq_true.mp List.all_takeWhile b inside)

/-- A word is skipped where its letters stand, and nowhere else. -/
theorem skipWord?_eq_some_iff {letters : List Char} {input rest : Bytes} :
    skipWord? letters input = some rest ↔ input = letters.map byte ++ rest := by
  induction letters generalizing input with
  | nil => simp [skipWord?]
  | cons c letters ih =>
    cases input with
    | nil => simp [skipWord?]
    | cons b input =>
      by_cases same : b = byte c
      · simp [skipWord?, same, ih]
      · simp [skipWord?, same]

/-! ## Escapes -/

/-- A byte has a value as a hexadecimal digit if it is one. -/
theorem hexDigit?_eq_some_iff {b : UInt8} {d : Nat} :
    hexDigit? b = some d ↔ IsDigit 16 b.toNat d := by
  simp only [hexDigit?, IsDigit, UInt8.le_iff_toNat_le, UInt8.reduceToNat, Char.reduceToNat,
    Bool.and_eq_true, decide_eq_true_eq]
  repeat' split
  all_goals simp
  all_goals omega

/-- The value of four hexadecimal digits by their places. -/
theorem placeValue_four (p q r s : Nat) :
    placeValue 16 [p, q, r, s] = p * 0x1000 + q * 0x100 + r * 0x10 + s := by
  simp only [placeValue, List.reverse_cons, List.reverse_nil, List.nil_append, List.cons_append,
    Nat.ofDigits_cons, Nat.ofDigits_nil]
  omega

/-- Four bytes spell a unit if they are hexadecimal digits of its value. -/
theorem unit?_eq_some_iff {p q r s : UInt8} {unit : Nat} :
    unit? p q r s = some unit ↔ UnitEscape [byte '\\', byte 'u', p, q, r, s] unit := by
  simp only [unit?, Option.bind_eq_bind, Option.bind_eq_some_iff, hexDigit?_eq_some_iff]
  constructor
  · rintro ⟨a, first, b, second, c, third, d, fourth, same⟩
    cases same
    exact ⟨[p, q, r, s], [a, b, c, d], .cons first (.cons second (.cons third (.cons fourth .nil))),
      rfl, (placeValue_four a b c d).symm, rfl⟩
  · rintro ⟨hex, digits, spells, length, rfl, same⟩
    have joined : word "\\u" ++ [p, q, r, s] = word "\\u" ++ hex := same
    obtain rfl := List.append_cancel_left joined
    obtain _ | ⟨first, _ | ⟨second, _ | ⟨third, _ | ⟨fourth, _ | _⟩⟩⟩⟩ := spells
    exact ⟨_, first, _, second, _, third, _, fourth, congrArg some (placeValue_four _ _ _ _).symm⟩

/-- A unit has sixteen bits. -/
theorem unit?_lt {p q r s : UInt8} {unit : Nat} (spelled : unit? p q r s = some unit) :
    unit < 0x10000 := by
  simp only [unit?, Option.bind_eq_bind, Option.bind_eq_some_iff, hexDigit?_eq_some_iff] at spelled
  obtain ⟨a, ⟨first, _⟩, b, ⟨second, _⟩, c, ⟨third, _⟩, d, ⟨fourth, _⟩, same⟩ := spelled
  cases same
  omega

/-- An escape of a unit is the two bytes that begin it and four digits. -/
theorem exists_unit? {bytes : Bytes} {unit : Nat} (escape : UnitEscape bytes unit) :
    ∃ p q r s, bytes = [byte '\\', byte 'u', p, q, r, s] ∧ unit? p q r s = some unit := by
  have whole := escape
  obtain ⟨hex, digits, spells, length, _, rfl⟩ := escape
  have four : hex.length = 4 := (List.Forall₂.length_eq spells).trans length
  obtain ⟨p, q, r, s, rfl⟩ := List.length_eq_four.mp four
  exact ⟨p, q, r, s, rfl, unit?_eq_some_iff.mpr whole⟩

/-- A byte is the letter of a short escape, with what that stands for, if it is in the list. -/
theorem simpleEscape?_eq_some_iff {b plain : UInt8} :
    simpleEscape? b = some plain ↔
      ∃ letter c, (letter, c) ∈ shortEscapes ∧ b = byte letter ∧ plain = byte c := by
  constructor
  · intro escape
    simp only [simpleEscape?, Bool.or_eq_true, decide_eq_true_eq] at escape
    repeat' split at escape
    all_goals cases escape
    next same =>
      obtain (rfl | rfl) | rfl := same
      · exact ⟨'"', '"', by decide, rfl, rfl⟩
      · exact ⟨'\\', '\\', by decide, rfl, rfl⟩
      · exact ⟨'/', '/', by decide, rfl, rfl⟩
    · exact ⟨'b', '\x08', by decide, ‹_›, rfl⟩
    · exact ⟨'f', '\x0c', by decide, ‹_›, rfl⟩
    · exact ⟨'n', '\n', by decide, ‹_›, rfl⟩
    · exact ⟨'r', '\r', by decide, ‹_›, rfl⟩
    · exact ⟨'t', '\t', by decide, ‹_›, rfl⟩
  · rintro ⟨letter, c, listed, rfl, rfl⟩
    simp only [shortEscapes, List.mem_cons, Prod.mk.injEq, List.not_mem_nil, or_false] at listed
    obtain ⟨rfl, rfl⟩ | ⟨rfl, rfl⟩ | ⟨rfl, rfl⟩ | ⟨rfl, rfl⟩ | ⟨rfl, rfl⟩ | ⟨rfl, rfl⟩ |
      ⟨rfl, rfl⟩ | ⟨rfl, rfl⟩ := listed
    all_goals decide

/-- What a short escape stands for is one byte, and no escape begins like one of a unit. -/
theorem encodeChar_of_mem_shortEscapes {letter c : Char} (listed : (letter, c) ∈ shortEscapes) :
    encodeChar c = [byte c] ∧ byte letter ≠ byte 'u' := by
  have all : ∀ pair ∈ shortEscapes,
      encodeChar pair.2 = [byte pair.2] ∧ byte pair.1 ≠ byte 'u' := by decide
  exact all _ listed

/-! ## Texts that somebody reads -/

/-- A byte that stands for itself. -/
def IsRaw (b : UInt8) : Prop := ¬b < 0x20 ∧ b ≠ byte '"' ∧ b ≠ byte '\\'

/-- A byte stands for itself if it is no control character, no quote and no backslash. -/
theorem isRaw_iff {b : UInt8} :
    IsRaw b ↔ 0x20 ≤ b.toNat ∧ b.toNat ≠ 0x22 ∧ b.toNat ≠ 0x5C := by
  simp only [IsRaw, UInt8.lt_iff_toNat_lt, ← UInt8.toNat_inj, ne_eq, Nat.not_lt]
  exact Iff.rfl

/-- The same holds of a character. -/
theorem isRaw_char_iff {c : Char} :
    (' ' ≤ c ∧ c ≠ '"' ∧ c ≠ '\\') ↔ 0x20 ≤ c.toNat ∧ c.toNat ≠ 0x22 ∧ c.toNat ≠ 0x5C := by
  simp only [Char.le_def, UInt32.le_iff_toNat_le, ← Char.toNat_inj, ne_eq]
  exact Iff.rfl

/-- A pair of surrogates is a character. -/
theorem surrogatePair?_eq_some_iff {high low : Nat} {c : Char} :
    surrogatePair? high low = some c ↔ (0xD800 ≤ high ∧ high < 0xDC00) ∧
      (0xDC00 ≤ low ∧ low < 0xE000) ∧
      c.toNat = 0x10000 + (high - 0xD800) * 0x400 + (low - 0xDC00) := by
  simp only [surrogatePair?, Bool.and_eq_true, decide_eq_true_eq]
  split
  next bounds =>
    generalize code : 0x10000 + (high - 0xD800) * 0x400 + (low - 0xDC00) = value
    have valid : (Char.ofNat value).toNat = value := Text.Utf8.toNat_ofNat (.inr (by omega))
    rw [Option.some.injEq]
    constructor
    · rintro rfl
      exact ⟨by omega, by omega, valid⟩
    · rintro ⟨_, _, rfl⟩
      exact Char.ofNat_toNat c
  next outside =>
    constructor
    · exact fun same => absurd same (Option.some_ne_none _).symm
    · rintro ⟨isHigh, isLow, _⟩
      omega

/-- All that an escape of UTF-16 units may be. -/
theorem textBytes_unitEscape {input spelled rest : Bytes}
    (read : textBytes (byte '\\' :: byte 'u' :: input) = some (spelled, rest)) :
    ∃ piece after c tail, byte '\\' :: byte 'u' :: input = piece ++ after ∧ Piece piece c ∧
      spelled = encodeChar c ++ tail ∧ textBytes after = some (tail, rest) := by
  rw [textBytes.eq_def] at read
  dsimp only at read
  rw [if_neg (by decide), if_pos rfl, if_pos rfl] at read
  obtain _ | ⟨p, _ | ⟨q, _ | ⟨r, _ | ⟨s, input⟩⟩⟩⟩ := input
  iterate 4 cases read
  dsimp only at read
  cases first : unit? p q r s with
  | none => simp [first] at read
  | some unit =>
    have high := unit?_eq_some_iff.mp first
    simp only [first] at read
    split at read
    next plain =>
      rw [Option.map_eq_some_iff] at read
      obtain ⟨⟨tail, after⟩, later, same⟩ := read
      cases same
      have bound := unit?_lt first
      have value : (Char.ofNat unit).toNat = unit := Text.Utf8.toNat_ofNat (by
        simp only [Bool.or_eq_true, decide_eq_true_eq] at plain
        omega)
      exact ⟨[byte '\\', byte 'u', p, q, r, s], input, Char.ofNat unit, tail, rfl,
        .unit (by rwa [value]), rfl, later⟩
    next surrogate =>
      obtain _ | ⟨mark, _ | ⟨letter, _ | ⟨p', _ | ⟨q', _ | ⟨r', _ | ⟨s', input⟩⟩⟩⟩⟩⟩ := input
      iterate 6 cases read
      dsimp only at read
      split at read
      next marks =>
        simp only [Bool.and_eq_true, decide_eq_true_eq] at marks
        obtain ⟨rfl, rfl⟩ := marks
        cases second : (unit? p' q' r' s').bind (surrogatePair? unit) with
        | none => simp [second] at read
        | some c =>
          simp only [second, Option.map_eq_some_iff] at read
          obtain ⟨⟨tail, after⟩, later, same⟩ := read
          cases same
          obtain ⟨other, low, paired⟩ := Option.bind_eq_some_iff.mp second
          obtain ⟨isHigh, isLow, value⟩ := surrogatePair?_eq_some_iff.mp paired
          exact ⟨[byte '\\', byte 'u', p, q, r, s] ++ [byte '\\', byte 'u', p', q', r', s'],
            input, c, tail, rfl, .pair high (unit?_eq_some_iff.mp low) isHigh isLow value, rfl,
            later⟩
      · cases read

/-- All that an escape may be. -/
theorem textBytes_escape {input spelled rest : Bytes}
    (read : textBytes (byte '\\' :: input) = some (spelled, rest)) :
    ∃ piece after c tail, byte '\\' :: input = piece ++ after ∧ Piece piece c ∧
      spelled = encodeChar c ++ tail ∧ textBytes after = some (tail, rest) := by
  obtain _ | ⟨letter, input⟩ := input
  · rw [textBytes.eq_def] at read
    cases read
  by_cases unitMark : letter = byte 'u'
  · subst unitMark
    exact textBytes_unitEscape read
  rw [textBytes.eq_def] at read
  dsimp only at read
  rw [if_neg (by decide), if_pos rfl, if_neg unitMark] at read
  cases short : simpleEscape? letter with
  | none => simp [short] at read
  | some plain =>
    simp only [short, Option.map_eq_some_iff] at read
    obtain ⟨⟨tail, after⟩, later, same⟩ := read
    cases same
    obtain ⟨letter, c, listed, rfl, rfl⟩ := simpleEscape?_eq_some_iff.mp short
    refine ⟨[byte '\\', byte letter], input, c, tail, rfl, .short listed, ?_, later⟩
    rw [(encodeChar_of_mem_shortEscapes listed).1]
    rfl

/-- All that may come first in a text. -/
theorem textBytes_cases {input spelled rest : Bytes}
    (read : textBytes input = some (spelled, rest)) :
    (input = byte '"' :: rest ∧ spelled = []) ∨
    (∃ piece after c tail, input = piece ++ after ∧ Piece piece c ∧
      spelled = encodeChar c ++ tail ∧ textBytes after = some (tail, rest)) ∨
    ∃ b after tail, input = b :: after ∧ IsRaw b ∧ spelled = b :: tail ∧
      textBytes after = some (tail, rest) := by
  obtain _ | ⟨b, input⟩ := input
  · cases read
  by_cases backslash : b = byte '\\'
  · subst backslash
    exact .inr (.inl (textBytes_escape read))
  rw [textBytes.eq_def] at read
  dsimp only at read
  by_cases quote : b = byte '"'
  · rw [if_pos quote] at read
    cases read
    exact .inl ⟨by rw [quote], rfl⟩
  rw [if_neg quote, if_neg backslash] at read
  by_cases control : b < 0x20
  · rw [if_pos control] at read
    cases read
  · rw [if_neg control, Option.map_eq_some_iff] at read
    obtain ⟨⟨tail, after⟩, later, same⟩ := read
    cases same
    exact .inr (.inr ⟨b, input, tail, rfl, ⟨control, quote, backslash⟩, rfl, later⟩)

/-- The raw bytes of a character come in one piece. -/
theorem textBytes_tails {tails input spelled rest : Bytes}
    (continued : ∀ b ∈ tails, Text.Utf8.isTail b)
    (read : textBytes input = some (tails ++ spelled, rest)) :
    ∃ after, input = tails ++ after ∧ textBytes after = some (spelled, rest) := by
  induction tails generalizing input with
  | nil => exact ⟨input, rfl, read⟩
  | cons b tails ih =>
    rw [List.forall_mem_cons] at continued
    obtain ⟨_, none⟩ | ⟨_, after, c, tail, _, _, begins, _⟩ |
      ⟨_, after, tail, rfl, _, same, later⟩ :=
      textBytes_cases read
    · cases none
    · -- No character begins with a byte that continues one.
      obtain ⟨lead, _, written, _, other, _⟩ := Text.Utf8.exists_encodeChar c
      rw [written] at begins
      obtain ⟨rfl, _⟩ := List.cons.inj begins
      rw [other] at continued
      cases continued.1
    · cases same
      obtain ⟨last, rfl, found⟩ := ih continued.2 later
      exact ⟨last, rfl, found⟩

/-- The first character of a text is its first piece. -/
theorem textBytes_eq_cons {c : Char} {input spelled rest : Bytes}
    (read : textBytes input = some (encodeChar c ++ spelled, rest)) :
    ∃ piece after, input = piece ++ after ∧ Piece piece c ∧
      textBytes after = some (spelled, rest) := by
  obtain ⟨lead, tails, written, continued, _, value⟩ := Text.Utf8.exists_encodeChar c
  obtain ⟨_, none⟩ | ⟨piece, after, d, tail, whole, isPiece, same, later⟩ |
    ⟨b, after, tail, rfl, raw, same, later⟩ := textBytes_cases read
  · rw [written] at none
    cases none
  · obtain ⟨rfl, rfl⟩ := Text.Utf8.encodeChar_append_inj same
    exact ⟨piece, after, whole, isPiece, later⟩
  · rw [written] at same
    cases same
    obtain ⟨last, rfl, found⟩ := textBytes_tails continued later
    have plain : ' ' ≤ c ∧ c ≠ '"' ∧ c ≠ '\\' := by
      rw [isRaw_iff] at raw
      rw [isRaw_char_iff]
      omega
    have isPiece := Piece.raw plain.1 plain.2.1 plain.2.2
    rw [← Text.Utf8.encodeChar_eq, written] at isPiece
    exact ⟨_, last, rfl, isPiece, found⟩

/-- Bytes that stand for themselves are read as they are. -/
theorem textBytes_raw {bytes : Bytes} (raw : ∀ b ∈ bytes, IsRaw b) (rest : Bytes) :
    textBytes (bytes ++ rest) =
      (textBytes rest).map fun (tail, after) => (bytes ++ tail, after) := by
  induction bytes with
  | nil => simp
  | cons b bytes ih =>
    rw [List.forall_mem_cons] at raw
    obtain ⟨⟨printable, noQuote, noEscape⟩, others⟩ := raw
    rw [List.cons_append, textBytes.eq_def]
    dsimp only
    rw [if_neg noQuote, if_neg noEscape, if_neg printable, ih others, Option.map_map]
    rfl

/-- A character that stands for itself is written in such bytes. -/
theorem isRaw_encodeChar {c : Char} (plain : ' ' ≤ c ∧ c ≠ '"' ∧ c ≠ '\\') :
    ∀ b ∈ encodeChar c, IsRaw b := by
  obtain ⟨lead, tails, written, continued, _, value⟩ := Text.Utf8.exists_encodeChar c
  have code := isRaw_char_iff.mp plain
  rw [written, List.forall_mem_cons]
  constructor
  · rw [isRaw_iff]
    omega
  · intro b inside
    have tail := Text.Utf8.isTail_iff.mp (continued b inside)
    rw [isRaw_iff]
    omega

/-- A piece is read as the character that it stands for. -/
theorem textBytes_append {piece : Bytes} {c : Char} (isPiece : Piece piece c) (rest : Bytes) :
    textBytes (piece ++ rest) =
      (textBytes rest).map fun (tail, after) => (encodeChar c ++ tail, after) := by
  cases isPiece with
  | raw printable noQuote noEscape =>
    rw [← Text.Utf8.encodeChar_eq]
    apply textBytes_raw
    exact isRaw_encodeChar ⟨printable, noQuote, noEscape⟩
  | @short letter c listed =>
    obtain ⟨written, noUnit⟩ := encodeChar_of_mem_shortEscapes listed
    have short := simpleEscape?_eq_some_iff.mpr ⟨letter, c, listed, rfl, rfl⟩
    rw [written, textBytes.eq_def]
    dsimp only [List.cons_append, List.nil_append]
    rw [if_neg (by decide), if_pos rfl, if_neg noUnit, short]
  | unit escape =>
    obtain ⟨p, q, r, s, rfl, spelled⟩ := exists_unit? escape
    have plain : c.toNat < 0xD800 ∨ 0xE000 ≤ c.toNat := by
      have valid := c.valid
      simp only [UInt32.isValidChar, Nat.isValidChar] at valid
      simp only [Char.toNat]
      omega
    rw [textBytes.eq_def]
    dsimp only [List.cons_append, List.nil_append]
    rw [if_neg (by decide), if_pos rfl, if_pos rfl, spelled]
    dsimp only
    rw [if_pos (by simpa using plain), Char.ofNat_toNat]
  | @pair first second high low c escape escape' isHigh isLow value =>
    obtain ⟨p, q, r, s, rfl, spelled⟩ := exists_unit? escape
    obtain ⟨p', q', r', s', rfl, spelled'⟩ := exists_unit? escape'
    have paired := surrogatePair?_eq_some_iff.mpr ⟨isHigh, isLow, value⟩
    rw [textBytes.eq_def]
    dsimp only [List.cons_append, List.nil_append]
    rw [if_neg (by decide), if_pos rfl, if_pos rfl, spelled]
    dsimp only
    rw [if_neg (by simp; omega), if_pos (by decide), spelled', Option.bind_some, paired]

/-- A quote ends a text. -/
theorem textBytes_quote (rest : Bytes) : textBytes (byte '"' :: rest) = some ([], rest) := by
  rw [textBytes.eq_def]
  exact if_pos rfl

/-- The pieces of a text are read as the characters that they spell. -/
theorem textBytes_flatten {pieces : List Bytes} {chars : List Char}
    (spells : List.Forall₂ Piece pieces chars) (rest : Bytes) :
    textBytes (pieces.flatten ++ byte '"' :: rest) = some (encodeChars chars, rest) := by
  induction spells with
  | nil => exact textBytes_quote rest
  | cons isPiece _ ih =>
    rw [List.flatten_cons, List.append_assoc, textBytes_append isPiece, ih]
    rfl

/-- What the bytes of characters are read from are pieces, one for each character. -/
theorem textBytes_eq_some {chars : List Char} {input rest : Bytes}
    (read : textBytes input = some (encodeChars chars, rest)) :
    ∃ pieces, List.Forall₂ Piece pieces chars ∧ input = pieces.flatten ++ byte '"' :: rest := by
  induction chars generalizing input with
  | nil =>
    obtain ⟨rfl, _⟩ | ⟨_, _, c, _, _, _, same, _⟩ | ⟨_, _, _, _, _, same, _⟩ := textBytes_cases read
    · exact ⟨[], .nil, rfl⟩
    · have empty := (List.append_eq_nil_iff.mp same.symm).1
      exact absurd empty (Text.Utf8.encodeChar_ne_nil c)
    · cases same
  | cons c chars ih =>
    obtain ⟨piece, after, rfl, isPiece, later⟩ := textBytes_eq_cons read
    obtain ⟨pieces, spells, rfl⟩ := ih later
    exact ⟨piece :: pieces, .cons isPiece spells, by simp⟩

/-- A text is read as the characters that it spells. -/
theorem readText_append {spelled : Bytes} {text : String} (spells : TextLiteral spelled text)
    (rest : Bytes) : readText (spelled ++ rest) = some (text, rest) := by
  obtain ⟨pieces, each, rfl⟩ := spells
  have read := textBytes_flatten each rest
  have decoded := Text.Utf8.decode?_eq_some_iff.mpr (Eq.refl (Text.Utf8.encode text))
  simp only [List.cons_append, List.append_assoc, List.nil_append, readText, ↓reduceIte,
    readTextTail, read, Option.bind_eq_bind, Option.bind_some]
  exact congrArg (Option.bind · _) decoded

/-- A character is no longer than its piece of a text. -/
theorem length_encodeChar_le {piece : Bytes} {c : Char} (isPiece : Piece piece c) :
    (encodeChar c).length ≤ piece.length := by
  have four := Text.Utf8.length_encodeChar_le_four c
  cases isPiece with
  | raw => rw [Text.Utf8.encodeChar_eq]
  | short listed =>
    rw [(encodeChar_of_mem_shortEscapes listed).1]
    exact Nat.le_succ 1
  | unit escape =>
    obtain ⟨p, q, r, s, rfl, _⟩ := exists_unit? escape
    exact four.trans (by decide : 4 ≤ 6)
  | pair escape escape' =>
    obtain ⟨p, q, r, s, rfl, _⟩ := exists_unit? escape
    rw [List.length_append]
    exact four.trans (Nat.le_add_right_of_le (by decide : 4 ≤ 6))

/-- A text is shorter than what is written of it between quotes. -/
theorem length_encode_lt {spelled : Bytes} {text : String} (spells : TextLiteral spelled text) :
    (Text.Utf8.encode text).length < spelled.length := by
  obtain ⟨pieces, each, rfl⟩ := spells
  have inner : (encodeChars text.toList).length ≤ pieces.flatten.length := by
    generalize text.toList = chars at each
    induction each with
    | nil => exact Nat.le_refl _
    | cons isPiece _ ih =>
      rw [encodeChars, List.flatMap_cons, List.flatten_cons, List.length_append, List.length_append]
      exact Nat.add_le_add (length_encodeChar_le isPiece) ih
  rw [List.length_cons, List.length_append]
  exact Nat.lt_succ_of_le (Nat.le_add_right_of_le inner)

/-- What is read as a text spells it. -/
theorem readText_eq_some {input rest : Bytes} {text : String}
    (read : readText input = some (text, rest)) :
    ∃ spelled, input = spelled ++ rest ∧ TextLiteral spelled text := by
  obtain _ | ⟨b, input⟩ := input
  · cases read
  rw [readText] at read
  split at read
  next quote =>
    subst quote
    simp only [readTextTail, Option.bind_eq_bind, Option.bind_eq_some_iff, Prod.exists] at read
    obtain ⟨bytes, after, collected, decoded, wellFormed, same⟩ := read
    cases same
    rw [Text.Utf8.decode?_eq_some_iff] at wellFormed
    rw [wellFormed] at collected
    obtain ⟨pieces, each, rfl⟩ := textBytes_eq_some collected
    exact ⟨_, by simp, pieces, each, rfl⟩
  · cases read

/-! ## Texts that nobody reads -/

/-- Loose pieces are skipped up to the quote. -/
theorem skipTextTail_flatten {pieces : List Bytes} (loose : ∀ piece ∈ pieces, LoosePiece piece)
    (rest : Bytes) : skipTextTail (pieces.flatten ++ byte '"' :: rest) = some rest := by
  induction pieces with
  | nil =>
    rw [List.flatten_nil, List.nil_append, skipTextTail.eq_def]
    exact if_pos rfl
  | cons piece pieces ih =>
    rw [List.forall_mem_cons] at loose
    obtain ⟨isPiece, others⟩ := loose
    have later := ih others
    rw [List.flatten_cons, List.append_assoc]
    generalize pieces.flatten ++ byte '"' :: rest = after at later
    cases isPiece with
    | raw printable noQuote noEscape =>
      have plain : ¬_ < (0x20 : UInt8) := UInt8.not_lt.mpr printable
      rw [skipTextTail.eq_def]
      dsimp only [List.cons_append, List.nil_append]
      rwa [if_neg noQuote, if_neg noEscape, if_neg plain]
    | @short letter c listed =>
      have short := simpleEscape?_eq_some_iff.mpr ⟨letter, c, listed, rfl, rfl⟩
      rw [skipTextTail.eq_def]
      dsimp only [List.cons_append, List.nil_append]
      rw [if_neg (by decide), if_pos rfl, if_neg (encodeChar_of_mem_shortEscapes listed).2, short]
      exact later
    | unit escape =>
      obtain ⟨p, q, r, s, rfl, spelled⟩ := exists_unit? escape
      rw [skipTextTail.eq_def]
      dsimp only [List.cons_append, List.nil_append]
      rw [if_neg (by decide), if_pos rfl, if_pos rfl, spelled]
      exact later

/-- What is skipped of a text consists of loose pieces and a quote. -/
theorem exists_loosePieces {input rest : Bytes} (skipped : skipTextTail input = some rest) :
    ∃ pieces : List Bytes, (∀ piece ∈ pieces, LoosePiece piece) ∧
      input = pieces.flatten ++ byte '"' :: rest := by
  have extend {piece after : Bytes} (isPiece : LoosePiece piece)
      (found : ∃ pieces : List Bytes, (∀ piece ∈ pieces, LoosePiece piece) ∧
        after = pieces.flatten ++ byte '"' :: rest) :
      ∃ pieces : List Bytes, (∀ piece ∈ pieces, LoosePiece piece) ∧
        piece ++ after = pieces.flatten ++ byte '"' :: rest := by
    obtain ⟨pieces, loose, rfl⟩ := found
    exact ⟨piece :: pieces, List.forall_mem_cons.mpr ⟨isPiece, loose⟩, by simp⟩
  fun_induction skipTextTail input with
  | case2 after =>
    cases skipped
    exact ⟨[], by simp, rfl⟩
  | case4 p q r s after unit _ ih =>
    obtain ⟨unit, spelled⟩ := Option.isSome_iff_exists.mp unit
    exact extend (.unit (unit?_eq_some_iff.mp spelled)) (ih skipped)
  | case7 letter after _ short _ ih =>
    obtain ⟨plain, known⟩ := Option.isSome_iff_exists.mp short
    obtain ⟨letter, c, listed, rfl, _⟩ := simpleEscape?_eq_some_iff.mp known
    exact extend (.short listed) (ih skipped)
  | case10 b after noQuote noEscape printable ih =>
    exact extend (.raw (UInt8.not_lt.mp printable) noQuote noEscape) (ih skipped)
  | _ => cases skipped

/-- A loose text is skipped after its first quote. -/
theorem skipTextTail_append {text : Bytes} (loose : LooseText text) :
    ∃ tail, text = byte '"' :: tail ∧ ∀ rest, skipTextTail (tail ++ rest) = some rest := by
  obtain ⟨pieces, each, rfl⟩ := loose
  refine ⟨_, rfl, fun rest => ?_⟩
  rw [List.append_assoc]
  exact skipTextTail_flatten each rest

/-- What is skipped after a quote is a loose text. -/
theorem skipTextTail_eq_some {input rest : Bytes} (skipped : skipTextTail input = some rest) :
    ∃ text, byte '"' :: input = text ++ rest ∧ LooseText text := by
  obtain ⟨pieces, each, rfl⟩ := exists_loosePieces skipped
  exact ⟨_, by simp, pieces, each, rfl⟩

end EventLedger.Json
