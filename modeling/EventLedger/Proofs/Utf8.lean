import EventLedger.Text.Utf8

/-!
# UTF-8 is read as it is written

A character has one form in bytes, and reading admits that form and no other: `next?_encodeChar`
and `next?_eq_some`. A byte sequence is therefore read as a text exactly if it is what writing the
text gives, `decode?_eq_some_iff`. The forms are those of the library's own encoding,
`encodeChar_eq`.
-/
namespace EventLedger.Text.Utf8

/-- No code point is above the last one. -/
theorem toNat_lt (c : Char) : c.toNat < 0x110000 := by
  have valid := c.valid
  simp only [UInt32.isValidChar, Nat.isValidChar] at valid
  simp only [Char.toNat]
  omega

/-- A code point that is no surrogate is that of its character. -/
theorem toNat_ofNat {n : Nat} (valid : n < 0xD800 ∨ 0xE000 ≤ n ∧ n < 0x110000) :
    (Char.ofNat n).toNat = n := by
  have isValid : n.isValidChar := by
    simp only [Nat.isValidChar]
    omega
  rw [Char.ofNat, dif_pos isValid]
  rfl

/-- A byte is the one of a number if that is its value. -/
theorem eq_toUInt8 {b : UInt8} {n : Nat} (value : b.toNat = n) : b = n.toUInt8 := by
  rw [← value]
  exact UInt8.ofNat_toNat.symm

/-- A number below 256 is kept by its byte. -/
theorem toNat_toUInt8 {n : Nat} (fits : n < 0x100) : n.toUInt8.toNat = n :=
  UInt8.toNat_ofNat_of_lt' fits

/-- The bytes of a character are those that the library writes. -/
theorem encodeChar_eq (c : Char) : encodeChar c = String.utf8EncodeChar c := by
  have bound := toNat_lt c
  simp only [encodeChar, String.utf8EncodeChar, ← Char.toNat.eq_1, Nat.toUInt8]
  generalize c.toNat = code at bound
  repeat' split
  all_goals try omega
  · rfl
  · rw [Nat.mod_eq_of_lt (by omega : code / 64 < 32), Nat.add_comm 0xC0, Nat.add_comm 0x80]
  · rw [Nat.mod_eq_of_lt (by omega : code / 4096 < 16), Nat.add_comm 0xE0, Nat.add_comm 0x80,
      Nat.add_comm 0x80]
  · rw [Nat.mod_eq_of_lt (by omega : code / 262144 < 8), Nat.add_comm 0xF0, Nat.add_comm 0x80,
      Nat.add_comm 0x80, Nat.add_comm 0x80]

/-- The bytes of a text are those that the library writes. -/
theorem encode_eq (text : String) : encode text = text.toList.flatMap String.utf8EncodeChar := by
  rw [encode, funext encodeChar_eq]

/-- A character has four bytes at most. -/
theorem length_encodeChar_le_four (c : Char) : (encodeChar c).length ≤ 4 := by
  rw [encodeChar_eq, String.length_utf8EncodeChar]
  exact Char.utf8Size_le_four c

/-- The tail bytes are those between 0x80 and 0xBF. -/
theorem isTail_iff {b : UInt8} : isTail b = true ↔ 0x80 ≤ b.toNat ∧ b.toNat < 0xC0 := by
  simp [isTail, UInt8.le_iff_toNat_le, UInt8.lt_iff_toNat_lt]

/-- A tail byte carries six bits. -/
theorem tailBits_lt (b : UInt8) : tailBits b < 0x40 := Nat.mod_lt _ (by decide)

/-- The four forms of a code point in bytes. -/
inductive Form : List UInt8 → Nat → Prop where
  /-- One byte. -/
  | one {first : UInt8} (low : first.toNat < 0x80) : Form [first] first.toNat
  /-- Two bytes. -/
  | two {first second : UInt8} {code : Nat} (least : 0xC2 ≤ first.toNat)
      (greatest : first.toNat < 0xE0) (tail : isTail second)
      (value : code = first.toNat % 0x20 * 0x40 + tailBits second) : Form [first, second] code
  /-- Three bytes. -/
  | three {first second third : UInt8} {code : Nat} (least : 0xE0 ≤ first.toNat)
      (greatest : first.toNat < 0xF0) (tail : isTail second) (tail' : isTail third)
      (value : code = first.toNat % 0x10 * 0x1000 + tailBits second * 0x40 + tailBits third)
      (long : 0x800 ≤ code) (plain : code < 0xD800 ∨ 0xE000 ≤ code) :
      Form [first, second, third] code
  /-- Four bytes. -/
  | four {first second third fourth : UInt8} {code : Nat} (least : 0xF0 ≤ first.toNat)
      (greatest : first.toNat < 0xF5) (tail : isTail second) (tail' : isTail third)
      (tail'' : isTail fourth)
      (value : code = first.toNat % 0x08 * 0x40000 + tailBits second * 0x1000 +
        tailBits third * 0x40 + tailBits fourth)
      (long : 0x10000 ≤ code) (bounded : code < 0x110000) :
      Form [first, second, third, fourth] code

namespace Form

variable {bytes : List UInt8} {code : Nat}

/-- What has a form is a character. -/
theorem valid (form : Form bytes code) : code < 0xD800 ∨ 0xE000 ≤ code ∧ code < 0x110000 := by
  cases form with
  | one low => omega
  | two least greatest tail value =>
    have := tailBits_lt ‹_›
    omega
  | @three first second third _ least greatest _ _ value long plain =>
    have := tailBits_lt second
    have := tailBits_lt third
    omega
  | four _ _ _ _ _ _ long bounded => omega

/-- A character has no other form than the one in which it is written. -/
theorem eq_encodeChar (form : Form bytes code) : bytes = encodeChar (Char.ofNat code) := by
  have same := toNat_ofNat form.valid
  simp only [encodeChar, same]
  cases form with
  | @one first low =>
    rw [if_pos low, ← eq_toUInt8 rfl]
  | @two first second _ least greatest tail value =>
    rw [isTail_iff] at tail
    simp only [tailBits] at value
    rw [if_neg (by omega), if_pos (by omega), ← eq_toUInt8 (b := first) (by omega),
      ← eq_toUInt8 (b := second) (by omega)]
  | @three first second third _ least greatest tail tail' value long plain =>
    rw [isTail_iff] at tail tail'
    simp only [tailBits] at value
    rw [if_neg (by omega), if_neg (by omega), if_pos (by omega),
      ← eq_toUInt8 (b := first) (by omega), ← eq_toUInt8 (b := second) (by omega),
      ← eq_toUInt8 (b := third) (by omega)]
  | @four first second third fourth _ least greatest tail tail' tail'' value long bounded =>
    rw [isTail_iff] at tail tail' tail''
    simp only [tailBits] at value
    rw [if_neg (by omega), if_neg (by omega), if_neg (by omega),
      ← eq_toUInt8 (b := first) (by omega), ← eq_toUInt8 (b := second) (by omega),
      ← eq_toUInt8 (b := third) (by omega), ← eq_toUInt8 (b := fourth) (by omega)]

/-- What has a form is read. -/
theorem next?_append (form : Form bytes code) (rest : List UInt8) :
    next? (bytes ++ rest) = some (Char.ofNat code, rest) := by
  cases form with
  | one low => simp [next?, UInt8.lt_iff_toNat_lt, low]
  | two least greatest tail value =>
    simp only [List.cons_append, List.nil_append, next?, UInt8.lt_iff_toNat_lt, UInt8.reduceToNat]
    rw [if_neg (by omega), if_neg (by omega), if_neg (by simp [tail]), if_pos greatest, value]
  | three least greatest tail tail' value long plain =>
    simp only [List.cons_append, List.nil_append, next?, UInt8.lt_iff_toNat_lt, UInt8.reduceToNat,
      ← value]
    rw [if_neg (by omega), if_neg (by omega), if_neg (by simp [tail]), if_neg (by omega),
      if_neg (by simp [tail']), if_pos greatest, if_neg (by simp; omega)]
  | four least greatest tail tail' tail'' value long bounded =>
    simp only [List.cons_append, List.nil_append, next?, UInt8.lt_iff_toNat_lt, UInt8.reduceToNat,
      ← value]
    rw [if_neg (by omega), if_neg (by omega), if_neg (by simp [tail]), if_neg (by omega),
      if_neg (by simp [tail']), if_neg (by omega), if_neg (by simp [tail'']; omega),
      if_neg (by simp; omega)]

end Form

/-- A character is written in one of the forms. -/
theorem form_encodeChar (c : Char) : Form (encodeChar c) c.toNat := by
  have bound := toNat_lt c
  have plain : c.toNat < 0xD800 ∨ 0xE000 ≤ c.toNat := by
    have valid := c.valid
    simp only [UInt32.isValidChar, Nat.isValidChar] at valid
    simp only [Char.toNat]
    omega
  simp only [encodeChar]
  generalize c.toNat = code at bound plain
  repeat' split
  · have value : code.toUInt8.toNat = code := toNat_toUInt8 (by omega)
    have form : Form [code.toUInt8] code.toUInt8.toNat := .one (by omega)
    rwa [value] at form
  · refine .two ?_ ?_ (isTail_iff.mpr ?_) ?_
    all_goals try simp only [tailBits]
    all_goals repeat rw [toNat_toUInt8 (by omega)]
    all_goals omega
  · refine .three ?_ ?_ (isTail_iff.mpr ?_) (isTail_iff.mpr ?_) ?_ (by omega) plain
    all_goals try simp only [tailBits]
    all_goals repeat rw [toNat_toUInt8 (by omega)]
    all_goals omega
  · refine .four ?_ ?_ (isTail_iff.mpr ?_) (isTail_iff.mpr ?_) (isTail_iff.mpr ?_) ?_ (by omega)
      bound
    all_goals try simp only [tailBits]
    all_goals repeat rw [toNat_toUInt8 (by omega)]
    all_goals omega

/-- A character is read as it is written. -/
theorem next?_encodeChar (c : Char) (rest : List UInt8) :
    next? (encodeChar c ++ rest) = some (c, rest) := by
  rw [(form_encodeChar c).next?_append, Char.ofNat_toNat]

/-- What is read is a character as it is written. -/
theorem next?_eq_some {bytes rest : List UInt8} {c : Char} (read : next? bytes = some (c, rest)) :
    bytes = encodeChar c ++ rest := by
  suffices found : ∃ spelled code, bytes = spelled ++ rest ∧ Form spelled code ∧
      c = Char.ofNat code by
    obtain ⟨spelled, code, rfl, form, rfl⟩ := found
    rw [form.eq_encodeChar]
  simp only [next?, UInt8.lt_iff_toNat_lt, UInt8.reduceToNat] at read
  -- Each byte decides whether there is another one, so the bytes are taken one at a time.
  obtain _ | ⟨first, bytes⟩ := bytes
  · cases read
  dsimp only at read
  split at read
  next low =>
    cases read
    exact ⟨[first], first.toNat, rfl, .one low, rfl⟩
  split at read
  · cases read
  obtain _ | ⟨second, bytes⟩ := bytes
  · cases read
  dsimp only at read
  split at read
  · cases read
  have tail : isTail second := by simpa using ‹¬(!isTail second) = true›
  split at read
  next two =>
    cases read
    exact ⟨[first, second], _, rfl, .two (by omega) two tail rfl, rfl⟩
  obtain _ | ⟨third, bytes⟩ := bytes
  · cases read
  dsimp only at read
  split at read
  · cases read
  have tail' : isTail third := by simpa using ‹¬(!isTail third) = true›
  split at read
  next three =>
    split at read
    · cases read
    next valid =>
      cases read
      simp only [Bool.or_eq_true, Bool.and_eq_true, decide_eq_true_eq] at valid
      exact ⟨[first, second, third], _, rfl,
        .three (by omega) three tail tail' rfl (by omega) (by omega), rfl⟩
  obtain _ | ⟨fourth, bytes⟩ := bytes
  · cases read
  dsimp only at read
  split at read
  · cases read
  next bounds =>
    simp only [Bool.or_eq_true, Bool.not_eq_true', decide_eq_true_eq, not_or,
      Bool.not_eq_false] at bounds
    split at read
    · cases read
    next valid =>
      cases read
      simp only [Bool.or_eq_true, decide_eq_true_eq] at valid
      exact ⟨[first, second, third, fourth], _, rfl,
        .four (by omega) (by omega) tail tail' bounds.1 rfl (by omega) (by omega), rfl⟩

/-- A character is one byte of its own value or begins with a byte that nothing else begins or goes
on with; only continuation bytes follow. -/
theorem exists_encodeChar (c : Char) : ∃ first tails, encodeChar c = first :: tails ∧
    (∀ b ∈ tails, isTail b) ∧ isTail first = false ∧
    (first.toNat = c.toNat ∧ tails = [] ∨ 0x80 ≤ first.toNat ∧ 0x80 ≤ c.toNat) := by
  have form := form_encodeChar c
  have lead {first : UInt8} (outside : first.toNat < 0x80 ∨ 0xC0 ≤ first.toNat) :
      isTail first = false := by
    rw [← Bool.not_eq_true, isTail_iff]
    omega
  generalize encodeChar c = bytes, c.toNat = code at form
  cases form with
  | @one first low => exact ⟨first, [], rfl, by simp, lead (.inl low), .inl ⟨rfl, rfl⟩⟩
  | @two first second _ least _ tail value =>
    exact ⟨first, [second], rfl, by simp [tail], lead (by omega), .inr (by omega)⟩
  | @three first second third _ least _ tail tail' _ long =>
    exact ⟨first, [second, third], rfl, by simp [tail, tail'], lead (by omega), .inr (by omega)⟩
  | @four first second third fourth _ least _ tail tail' tail'' _ long =>
    exact ⟨first, [second, third, fourth], rfl, by simp [tail, tail', tail''], lead (by omega),
      .inr (by omega)⟩

/-- Every character is written with a byte. -/
theorem encodeChar_ne_nil (c : Char) : encodeChar c ≠ [] := by
  obtain ⟨first, tails, written, _⟩ := exists_encodeChar c
  rw [written]
  exact List.cons_ne_nil _ _

/-- No character's bytes begin those of another one. -/
theorem encodeChar_append_inj {c d : Char} {left right : List UInt8}
    (same : encodeChar c ++ left = encodeChar d ++ right) : c = d ∧ left = right := by
  have read := next?_encodeChar c left
  rw [same, next?_encodeChar] at read
  cases read
  exact ⟨rfl, rfl⟩

/-- The bytes of characters. -/
abbrev encodeChars (chars : List Char) : List UInt8 := chars.flatMap encodeChar

/-- What is written is read back. -/
theorem chars?_encodeChars (chars : List Char) (fuel : Nat)
    (enough : (encodeChars chars).length ≤ fuel) :
    chars? fuel (encodeChars chars) = some chars := by
  induction chars generalizing fuel with
  | nil =>
    cases fuel <;> rfl
  | cons c chars ih =>
    have positive := List.length_pos_iff.mpr (encodeChar_ne_nil c)
    have split : encodeChars (c :: chars) = encodeChar c ++ encodeChars chars := List.flatMap_cons
    rw [split] at enough ⊢
    rw [List.length_append] at enough
    obtain ⟨b, bytes, written⟩ := List.exists_cons_of_ne_nil (encodeChar_ne_nil c)
    have read := next?_encodeChar c (encodeChars chars)
    rw [written] at read ⊢
    obtain _ | fuel := fuel
    · omega
    · simp only [List.cons_append, chars?] at read ⊢
      rw [read]
      dsimp only
      rw [ih fuel (by omega)]
      rfl

/-- What is read is what was written. -/
theorem eq_encodeChars {fuel : Nat} {bytes : List UInt8} {chars : List Char}
    (read : chars? fuel bytes = some chars) : bytes = encodeChars chars := by
  induction fuel generalizing bytes chars with
  | zero =>
    cases bytes with
    | nil =>
      cases read
      rfl
    | cons => cases read
  | succ fuel ih =>
    cases bytes with
    | nil =>
      cases read
      rfl
    | cons b bytes =>
      simp only [chars?] at read
      cases first : next? (b :: bytes) with
      | none => simp [first] at read
      | some found =>
        obtain ⟨c, rest⟩ := found
        simp only [first, Option.map_eq_some_iff] at read
        obtain ⟨chars, later, rfl⟩ := read
        rw [next?_eq_some first, ih later, encodeChars, encodeChars, List.flatMap_cons]

/-- A byte sequence is read as a text exactly if it is what writing the text gives. -/
theorem decode?_eq_some_iff {bytes : List UInt8} {text : String} :
    decode? bytes = some text ↔ bytes = encode text := by
  rw [decode?, Option.map_eq_some_iff]
  constructor
  · rintro ⟨chars, read, rfl⟩
    rw [encode, String.toList_ofList]
    exact eq_encodeChars read
  · rintro rfl
    exact ⟨text.toList, chars?_encodeChars _ _ (Nat.le_refl _), String.ofList_toList⟩

end EventLedger.Text.Utf8
