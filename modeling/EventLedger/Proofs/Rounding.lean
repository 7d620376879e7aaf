import EventLedger.Settings.Environment
import Mathlib.Algebra.Ring.Nat
import Mathlib.Data.List.TakeDrop
import Mathlib.Data.List.TakeWhile

/-!
# Whole numbers in binary64

A text that spells a whole number spells the number of binary64 that is nearest to it, and that
comes to a word again: to nought below the words, to a word above all words with sign if the number
lies above them, and there to the number itself only if binary64 holds it or it is the greatest
word.
-/
namespace EventLedger

/-! ## Texts -/

namespace Text

/-- No digit is above the nine. -/
theorem le_nine_of_digit {c : Char} {d : Nat} (digit : digit? c = some d) : c ≤ '9' := by
  unfold digit? at digit
  split at digit
  · rename_i within
    exact of_decide_eq_true (Bool.and_eq_true_iff.mp within).2
  · cases digit

/-- What is read as digits has only digits. -/
theorem isSome_digit_of_digitsFrom {chars : List Char} {before value : Nat}
    (spells : digitsFrom? before chars = some value) : ∀ c ∈ chars, (digit? c).isSome := by
  induction chars generalizing before with
  | nil => simp
  | cons c rest ih =>
    rw [digitsFrom?] at spells
    cases digit : digit? c with
    | none =>
      rw [digit] at spells
      cases spells
    | some d =>
      rw [digit] at spells
      exact List.forall_mem_cons.mpr ⟨by rw [digit]; rfl, ih spells⟩

/-- Characters that spell a number are digits, and there is one. -/
theorem digits_of_digits? {chars : List Char} {value : Nat} (spells : digits? chars = some value) :
    chars ≠ [] ∧ (∀ c ∈ chars, (digit? c).isSome) ∧ digitsFrom? 0 chars = some value := by
  cases chars with
  | nil => cases spells
  | cons c rest => exact ⟨by simp, isSome_digit_of_digitsFrom spells, spells⟩

/-- A text that spells a whole number is digits after a sign, if there is one. -/
inductive SpellsInteger : List Char → Int → Prop where
  /-- Digits after a minus. -/
  | minus {digits : List Char} {value : Nat} (spells : digits? digits = some value) :
    SpellsInteger ('-' :: digits) (-(value : Int))
  /-- Digits after a plus. -/
  | plus {digits : List Char} {value : Nat} (spells : digits? digits = some value) :
    SpellsInteger ('+' :: digits) value
  /-- Digits alone. -/
  | plain {digits : List Char} {value : Nat} (spells : digits? digits = some value)
    (unsigned : ∀ c ∈ digits.head?, c ≠ '-' ∧ c ≠ '+') : SpellsInteger digits value

/-- What is read as an integer spells it. -/
theorem spellsInteger_of_integer? {text : String} {n : Int} (spells : integer? text = some n) :
    SpellsInteger text.toList n := by
  unfold integer? at spells
  split at spells
  · obtain ⟨value, digits, rfl⟩ := Option.map_eq_some_iff.mp spells
    rename_i is
    rw [is]
    exact .minus digits
  · obtain ⟨value, digits, rfl⟩ := Option.map_eq_some_iff.mp spells
    rename_i is
    rw [is]
    exact .plus digits
  · rename_i noMinus noPlus
    obtain ⟨value, digits, rfl⟩ := Option.map_eq_some_iff.mp spells
    refine .plain digits fun c head => ?_
    obtain ⟨rest, is⟩ := List.head?_eq_some_iff.mp head
    exact ⟨fun same => noMinus rest (same ▸ is), fun same => noPlus rest (same ▸ is)⟩

/-- It begins with a character that stands before all letters. -/
theorem SpellsInteger.head {chars : List Char} {n : Int} (spells : SpellsInteger chars n) :
    ∃ c rest, chars = c :: rest ∧ c ≤ '9' := by
  cases spells with
  | minus digits => exact ⟨_, _, rfl, by decide⟩
  | plus digits => exact ⟨_, _, rfl, by decide⟩
  | plain digits unsigned =>
    obtain ⟨filled, each, _⟩ := digits_of_digits? digits
    obtain ⟨c, rest, rfl⟩ := List.exists_cons_of_ne_nil filled
    obtain ⟨d, digit⟩ := Option.isSome_iff_exists.mp (each c List.mem_cons_self)
    exact ⟨c, rest, rfl, le_nine_of_digit digit⟩

/-- A character up to the nine is its own lower case. -/
theorem toLower_of_le_nine {c : Char} (small : c ≤ '9') : c.toLower = c := by
  have bound : c.val ≤ 57 := small
  unfold Char.toLower
  rw [dif_neg]
  intro upper
  exact absurd (UInt32.le_trans upper.1 bound) (by decide)

/-- No word of letters begins so in lower case. -/
theorem map_toLower_ne {c first : Char} {rest others : List Char} (small : c ≤ '9')
    (letter : '9' < first) : (c :: rest).map Char.toLower ≠ first :: others := by
  intro same
  have head : c.toLower = first := (List.cons.inj same).1
  rw [toLower_of_le_nine small] at head
  rw [head] at small
  exact absurd small (Char.not_le.mpr letter)

end Text

/-! ## Numbers of binary64 -/

namespace Binary64

/-- Where there are only digits, all of them are taken. -/
theorem takeDigits_of_digits {chars : List Char} (each : ∀ c ∈ chars, (Text.digit? c).isSome) :
    takeDigits chars = (chars, []) := by
  rw [takeDigits, List.span_eq_takeWhile_dropWhile, List.takeWhile_eq_self_iff.mpr each,
    List.dropWhile_eq_nil_iff.mpr each]

/-- Digits spell the number nearest to their value. -/
theorem decimalMagnitude?_of_digits {chars : List Char} {value : Nat}
    (spells : Text.digits? chars = some value) :
    decimalMagnitude? chars = some (roundRatio value 1) := by
  obtain ⟨filled, each, digits⟩ := Text.digits_of_digits? spells
  have some_digit : chars.isEmpty = false := by
    cases chars with
    | nil => exact absurd rfl filled
    | cons _ _ => rfl
  have least : ¬((0 : Int) - (0 : Nat) + chars.length < -400) := by omega
  unfold decimalMagnitude?
  rw [takeDigits_of_digits each]
  simp only [List.append_nil, some_digit, Bool.false_eq_true, ↓reduceIte, List.length_nil,
    scaledMagnitude, digitsValue, digits, Option.getD_some, if_neg least]
  by_cases zero : value = 0
  · rw [if_pos zero, zero]
    rfl
  · rw [if_neg zero]
    simp [roundDecimal]

/-- Digits are read as the fraction of their value and one. -/
theorem unsigned?_of_digits {chars : List Char} {value : Nat}
    (spells : Text.digits? chars = some value) (negative : Bool) :
    unsigned? negative chars = some (ofRatio negative value 1) := by
  obtain ⟨filled, each, _⟩ := Text.digits_of_digits? spells
  obtain ⟨c, rest, rfl⟩ := List.exists_cons_of_ne_nil filled
  obtain ⟨d, digit⟩ := Option.isSome_iff_exists.mp (each c List.mem_cons_self)
  have small := Text.le_nine_of_digit digit
  have noInf : (c :: rest).map Char.toLower ≠ "inf".toList :=
    Text.map_toLower_ne small (by decide)
  have noInfinity : (c :: rest).map Char.toLower ≠ "infinity".toList :=
    Text.map_toLower_ne small (by decide)
  have noNan : (c :: rest).map Char.toLower ≠ "nan".toList :=
    Text.map_toLower_ne small (by decide)
  unfold unsigned?
  simp only [noInf, noInfinity, noNan, decide_false, Bool.or_false, Bool.false_eq_true, ↓reduceIte,
    decimalMagnitude?_of_digits spells]
  rfl

/-- A text that spells a whole number spells the number of binary64 that is nearest to it. -/
theorem ofText?_of_spellsInteger {text : String} {n : Int}
    (spells : Text.SpellsInteger text.toList n) :
    ∃ negative, ofText? text = some (ofRatio negative n.natAbs 1) ∧
      (n ≠ 0 → negative = decide (n < 0)) := by
  unfold ofText?
  generalize text.toList = chars at spells
  cases spells with
  | minus digits =>
    refine ⟨true, ?_, fun nonzero => ?_⟩
    · rw [Int.natAbs_neg, Int.natAbs_natCast]
      exact unsigned?_of_digits digits true
    · exact (decide_eq_true (by omega)).symm
  | plus digits =>
    refine ⟨false, ?_, fun _ => ?_⟩
    · exact unsigned?_of_digits digits false
    · exact (decide_eq_false (by omega)).symm
  | plain digits unsigned =>
    refine ⟨false, ?_, fun _ => (decide_eq_false (by omega)).symm⟩
    split
    · exact absurd rfl (unsigned _ rfl).1
    · exact absurd rfl (unsigned _ rfl).2
    · exact unsigned?_of_digits digits false

/-- No fraction is rounded above infinity. -/
theorem roundRatio_le (numerator denominator : Nat) :
    roundRatio numerator denominator ≤ infinityWord := by
  unfold roundRatio
  split
  · exact Nat.zero_le _
  · exact Nat.min_le_right _ _

/-- The word of a number is its magnitude, with the weight of the sign before it. -/
theorem toNat_bits_ofParts (negative : Bool) {magnitude : Nat} (small : magnitude ≤ infinityWord) :
    (ofParts negative magnitude).bits.toNat =
      if negative then Word.signWeight + magnitude else magnitude := by
  have bound : infinityWord < Word.signWeight := by decide
  have fits : (if negative then Word.signWeight + magnitude else magnitude) < UInt64.size := by
    have size : UInt64.size = 2 * Word.signWeight := by decide
    cases negative <;> simp only [Bool.false_eq_true, ↓reduceIte] <;> omega
  exact Nat.mod_eq_of_lt fits

/-- The magnitude of a number is the one it was made of. -/
theorem magnitude_ofParts (negative : Bool) {magnitude : Nat} (small : magnitude ≤ infinityWord) :
    (ofParts negative magnitude).magnitude = magnitude := by
  have bound : infinityWord < Word.signWeight := by decide
  have smaller : magnitude < Word.signWeight := by omega
  rw [Binary64.magnitude, toNat_bits_ofParts negative small]
  cases negative with
  | false => exact Nat.mod_eq_of_lt smaller
  | true =>
    change (Word.signWeight + magnitude) % Word.signWeight = magnitude
    rw [Nat.add_mod_left, Nat.mod_eq_of_lt smaller]

/-- A number with the sign is below all words. -/
theorem toWord_ofRatio_negative (numerator denominator : Nat) :
    (ofRatio true numerator denominator).toWord = 0 := by
  have small := roundRatio_le numerator denominator
  have negative : (ofRatio true numerator denominator).isNegative = true := by
    rw [isNegative, ofRatio, toNat_bits_ofParts true small]
    exact decide_eq_true (Nat.le_add_right _ _)
  rw [toWord, negative, Bool.or_true, if_pos rfl]

/-- The binary logarithm of a fraction over one is that of its numerator. -/
theorem floorLog2_one {n : Nat} (positive : n ≠ 0) : floorLog2 n 1 = n.log2 := by
  have power : 1 <<< n.log2 ≤ n := by
    rw [Nat.one_shiftLeft]
    exact Nat.log2_self_le positive
  have one : Nat.log2 1 = 0 := by decide
  have guess : (n.log2 : Int) - (Nat.log2 1 : Nat) = n.log2 := by omega
  unfold floorLog2
  simp only [guess, Int.natCast_nonneg, ↓reduceIte, Int.toNat_natCast, power]

/-- Rounding a quotient does not go below its floor. -/
theorem div_le_divNearestEven (numerator denominator : Nat) :
    numerator / denominator ≤ divNearestEven numerator denominator := by
  unfold divNearestEven
  simp only
  split
  · exact Nat.le_refl _
  · split
    · exact Nat.le_succ _
    · split
      · exact Nat.le_refl _
      · exact Nat.le_succ _

/-- It goes at most one above it. -/
theorem divNearestEven_le (numerator denominator : Nat) :
    divNearestEven numerator denominator ≤ numerator / denominator + 1 := by
  unfold divNearestEven
  simp only
  split
  · exact Nat.le_succ _
  · split
    · exact Nat.le_refl _
    · split
      · exact Nat.le_succ _
      · exact Nat.le_refl _

/-- A quotient without remainder is not rounded. -/
theorem divNearestEven_mul {denominator : Nat} (quotient : Nat) (positive : 0 < denominator) :
    divNearestEven (denominator * quotient) denominator = quotient := by
  unfold divNearestEven
  simp only [Nat.mul_mod_right, Nat.mul_zero, if_pos positive]
  exact Nat.mul_div_cancel_left quotient positive

/-- The significand of a number above the words with sign is what 53 bits of it are nearest to. -/
theorem roundRatio_of_log2 {n more : Nat} (positive : n ≠ 0) (log : n.log2 = 63 + more) :
    roundRatio n 1 =
      min ((more + 1085) * hiddenBit + divNearestEven n (1 <<< (more + 11))) infinityWord := by
  have exponent : max leastExponent (floorLog2 n 1 - 52) = ((more + 11 : Nat) : Int) := by
    rw [floorLog2_one positive, leastExponent]
    omega
  have place : (((more + 11 : Nat) : Int) - leastExponent).toNat = more + 1085 := by
    rw [leastExponent]
    omega
  unfold roundRatio
  simp only [if_neg positive, exponent, Int.natCast_nonneg, ↓reduceIte, Int.toNat_natCast, place]

/-- A number that no word with sign holds is rounded to one that does not lie below it by a power of
two. -/
theorem le_roundRatio {n : Nat} (large : Word.signWeight ≤ n) :
    1086 * hiddenBit ≤ roundRatio n 1 := by
  have positive : n ≠ 0 := Nat.ne_of_gt (Nat.lt_of_lt_of_le (by decide) large)
  have bits : 63 ≤ n.log2 := (Nat.le_log2 positive).mpr large
  obtain ⟨more, log⟩ := Nat.exists_eq_add_of_le bits
  have significand : hiddenBit ≤ divNearestEven n (1 <<< (more + 11)) := by
    refine Nat.le_trans ?_ (div_le_divNearestEven n _)
    have hidden : hiddenBit = 2 ^ 52 := by decide
    have sum : 52 + (more + 11) = n.log2 := by omega
    rw [Nat.one_shiftLeft, Nat.le_div_iff_mul_le (Nat.two_pow_pos _), hidden, ← Nat.pow_add, sum]
    exact Nat.log2_self_le positive
  have infinite : infinityWord = 2047 * hiddenBit := by decide
  have scaled : 1085 * hiddenBit ≤ (more + 1085) * hiddenBit :=
    Nat.mul_le_mul_right _ (Nat.le_add_left _ _)
  rw [roundRatio_of_log2 positive log, infinite]
  refine Nat.le_min.mpr ⟨?_, Nat.mul_le_mul_right _ (by decide)⟩
  calc
    1086 * hiddenBit = 1085 * hiddenBit + hiddenBit := Nat.succ_mul 1085 hiddenBit
    _ ≤ (more + 1085) * hiddenBit + divNearestEven n (1 <<< (more + 11)) :=
      Nat.add_le_add scaled significand

/-- A magnitude with a large exponent stands for a whole number. -/
theorem roundHalfUp_of_exponent {magnitude more : Nat}
    (exponent : magnitude / hiddenBit = 1086 + more) :
    roundHalfUp magnitude = (hiddenBit + magnitude % hiddenBit) * 2 ^ (more + 11) := by
  have nonzero : ¬magnitude / hiddenBit = 0 := by omega
  have shift : ((magnitude / hiddenBit : Nat) : Int) - 1075 = ((more + 11 : Nat) : Int) := by omega
  have ratio_eq : ratio magnitude = ((hiddenBit + magnitude % hiddenBit) <<< (more + 11), 1) := by
    unfold ratio unpack
    simp only [if_neg nonzero, shift, Int.natCast_nonneg, ↓reduceIte, Int.toNat_natCast]
  rw [roundHalfUp, ratio_eq, ← Nat.shiftLeft_eq]
  simp only
  omega

/-- A magnitude of this size comes to a number that no word with sign holds. -/
theorem le_roundHalfUp {magnitude : Nat} (large : 1086 * hiddenBit ≤ magnitude) :
    Word.signWeight ≤ roundHalfUp magnitude := by
  have positive : 0 < hiddenBit := by decide
  have exponent : 1086 ≤ magnitude / hiddenBit := (Nat.le_div_iff_mul_le positive).mpr large
  obtain ⟨more, split⟩ := Nat.exists_eq_add_of_le exponent
  rw [roundHalfUp_of_exponent split, Nat.pow_add]
  calc
    Word.signWeight = hiddenBit * (1 * 2 ^ 11) := by decide
    _ ≤ (hiddenBit + magnitude % hiddenBit) * (2 ^ more * 2 ^ 11) :=
      Nat.mul_le_mul (Nat.le_add_right _ _) (Nat.mul_le_mul_right _ Nat.one_le_two_pow)

/-- A finite magnitude is brought into the words. -/
theorem toNat_toWord_ofParts {magnitude : Nat} (finite : magnitude < infinityWord) :
    (ofParts false magnitude).toWord.toNat = min (roundHalfUp magnitude) Word.greatest := by
  have whole := magnitude_ofParts false (Nat.le_of_lt finite)
  have number : (ofParts false magnitude).isNaN = false := by
    rw [isNaN, whole]
    exact decide_eq_false (Nat.not_lt_of_lt finite)
  have positive : (ofParts false magnitude).isNegative = false := by
    have bound : infinityWord < Word.signWeight := by decide
    rw [isNegative, toNat_bits_ofParts false (Nat.le_of_lt finite)]
    exact decide_eq_false (by simp only [Bool.false_eq_true, ↓reduceIte]; omega)
  have bounded : (ofParts false magnitude).isInfinite = false := by
    rw [isInfinite, whole]
    exact beq_false_of_ne (Nat.ne_of_lt finite)
  have word : min (roundHalfUp magnitude) Word.greatest < UInt64.size :=
    Nat.lt_of_le_of_lt (Nat.min_le_right _ _) (by decide)
  rw [toWord, number, positive, bounded, Bool.or_false, if_neg Bool.false_ne_true,
    if_neg Bool.false_ne_true, whole]
  exact Nat.mod_eq_of_lt word

/-- What lies above the words with sign does not come to one of them. -/
theorem le_toWord_ofRatio {n : Nat} (large : Word.signWeight ≤ n) :
    Word.signWeight ≤ (ofRatio false n 1).toWord.toNat := by
  have least := le_roundRatio large
  rw [ofRatio]
  rcases Nat.lt_or_eq_of_le (roundRatio_le n 1) with finite | infinite
  · have rounded := le_roundHalfUp least
    have greatest : Word.signWeight ≤ Word.greatest := by decide
    rw [toNat_toWord_ofParts finite]
    exact Nat.le_min.mpr ⟨rounded, greatest⟩
  · rw [infinite]
    decide

/-! ## Words above those with sign -/

/-- The distance of neighbours among the numbers of binary64 above the words with sign. -/
def spacing : Nat := 2048

/-- A significand of 53 bits with the exponent of such words, be it that there is a carry, stands
for its multiple of the distance. -/
theorem roundHalfUp_of_significand {significand : Nat} (least : hiddenBit ≤ significand)
    (most : significand ≤ 2 * hiddenBit) :
    roundHalfUp (1085 * hiddenBit + significand) = significand * spacing := by
  have hidden : hiddenBit = 4503599627370496 := rfl
  have width : spacing = 2048 := rfl
  rw [hidden] at least most
  by_cases carried : significand = 2 * hiddenBit
  · rw [carried]
    decide
  · have exponent : (1085 * hiddenBit + significand) / hiddenBit = 1086 + 0 := by
      rw [hidden] at carried ⊢
      omega
    have fraction : (1085 * hiddenBit + significand) % hiddenBit = significand - hiddenBit := by
      rw [hidden] at carried ⊢
      omega
    rw [roundHalfUp_of_exponent exponent, fraction, hidden, width]
    omega

/-- Such a word comes to the multiple of the distance that it is nearest to, or to the greatest
word. -/
theorem toNat_toWord_ofRatio {n : Nat} (large : Word.signWeight ≤ n) (word : n ≤ Word.greatest) :
    (ofRatio false n 1).toWord.toNat = min (divNearestEven n spacing * spacing) Word.greatest := by
  have positive : n ≠ 0 := Nat.ne_of_gt (Nat.lt_of_lt_of_le (by decide) large)
  have log : n.log2 = 63 + 0 :=
    (Nat.log2_eq_iff positive).mpr ⟨large, Nat.lt_succ_of_le word⟩
  have below : hiddenBit ≤ n / spacing := (Nat.le_div_iff_mul_le (by decide)).mpr large
  have above : n / spacing < 2 * hiddenBit :=
    (Nat.div_lt_iff_lt_mul (by decide)).mpr (Nat.lt_succ_of_le word)
  have least : hiddenBit ≤ divNearestEven n spacing :=
    Nat.le_trans below (div_le_divNearestEven n spacing)
  have most : divNearestEven n spacing ≤ 2 * hiddenBit :=
    Nat.le_trans (divNearestEven_le n spacing) above
  have finite : 1085 * hiddenBit + divNearestEven n spacing < infinityWord :=
    Nat.lt_of_le_of_lt (Nat.add_le_add_left most _) (by decide)
  have rounded : roundRatio n 1 = 1085 * hiddenBit + divNearestEven n spacing :=
    (roundRatio_of_log2 positive log).trans (Nat.min_eq_left (Nat.le_of_lt finite))
  rw [ofRatio, rounded, toNat_toWord_ofParts finite, roundHalfUp_of_significand least most]

/-- A number above the words with sign comes to itself if it is a word, and a multiple of the
distance or the greatest word. -/
theorem toWord_ofRatio_eq_iff {n : Nat} (large : Word.signWeight ≤ n) :
    (ofRatio false n 1).toWord.toNat = n ↔
      n ≤ Word.greatest ∧ (spacing ∣ n ∨ n = Word.greatest) := by
  have positive : 0 < spacing := by decide
  constructor
  · intro same
    have word : n ≤ Word.greatest := by
      have size := (ofRatio false n 1).toWord.toNat_lt
      rw [same] at size
      exact Nat.le_of_lt_succ size
    rw [toNat_toWord_ofRatio large word] at same
    rcases Nat.le_total (divNearestEven n spacing * spacing) Word.greatest with within | beyond
    · rw [Nat.min_eq_left within] at same
      exact ⟨word, .inl ⟨_, same.symm.trans (Nat.mul_comm _ _)⟩⟩
    · rw [Nat.min_eq_right beyond] at same
      exact ⟨word, .inr same.symm⟩
  · rintro ⟨word, ⟨multiple, rfl⟩ | rfl⟩
    · rw [toNat_toWord_ofRatio large word, divNearestEven_mul multiple positive, Nat.mul_comm,
        Nat.min_eq_left word]
    · rw [toNat_toWord_ofRatio large word]
      decide

end Binary64

end EventLedger
