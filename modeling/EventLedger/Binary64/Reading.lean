import EventLedger.Binary64
import EventLedger.Text.Digits

/-!
# Reading numbers

A text spells a number as an optional sign followed by `inf`, `infinity` or `nan` in any case,
or by decimal digits with an optional point and an optional exponent; there is at least one digit
before or after the point. The number is the one nearest to the decimal.
-/
namespace EventLedger.Binary64

/-- The digits at the front of a text and the rest. -/
def takeDigits (text : List Char) : List Char × List Char :=
  text.span fun c => (Text.digit? c).isSome

/-- The value of digits, zero for none. -/
def digitsValue (digits : List Char) : Nat := (Text.digitsFrom? 0 digits).getD 0

/-- An exponent that is a whole text: an optional sign and digits. -/
def exponent? (text : List Char) : Option Int :=
  match text with
  | '-' :: digits => (Text.digits? digits).map fun n => -(n : Int)
  | '+' :: digits => (Text.digits? digits).map fun n => (n : Int)
  | digits => (Text.digits? digits).map fun n => (n : Int)

/-- The magnitude of digits scaled by a power of ten. Far outside the range of binary64 no power
is computed: with `count` digits the value lies between `10 ^ exponent` and
`10 ^ (exponent + count)`. -/
def scaledMagnitude (digits count : Nat) (exponent : Int) : Nat :=
  if digits = 0 then 0
  else if 400 < exponent then infinityWord
  else if exponent + count < -400 then 0
  else roundDecimal digits exponent

/-- The magnitude that an unsigned decimal spells. -/
def decimalMagnitude? (text : List Char) : Option Nat :=
  let (whole, rest) := takeDigits text
  let (fraction, rest) := match rest with
    | '.' :: rest => takeDigits rest
    | _ => ([], rest)
  let digits := whole ++ fraction
  if digits.isEmpty then none
  else
    let scale := (fraction.length : Int)
    let magnitude := fun exponent : Int =>
      scaledMagnitude (digitsValue digits) digits.length (exponent - scale)
    match rest with
    | [] => some (magnitude 0)
    | mark :: rest =>
      if mark = 'e' || mark = 'E' then (exponent? rest).map magnitude else none

/-- The number that an unsigned text spells, under a sign. -/
def unsigned? (negative : Bool) (text : List Char) : Option Binary64 :=
  let lower := text.map Char.toLower
  if lower = "inf".toList || lower = "infinity".toList then some (infinity negative)
  else if lower = "nan".toList then some nan
  else (decimalMagnitude? text).map (ofParts negative)

/-- The number that a whole text spells. -/
def ofText? (text : String) : Option Binary64 :=
  match text.toList with
  | '-' :: rest => unsigned? true rest
  | '+' :: rest => unsigned? false rest
  | chars => unsigned? false chars

end EventLedger.Binary64
