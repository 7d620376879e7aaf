import EventLedger.Binary64.Reading
import EventLedger.Toml.Text

/-!
# Numbers of a TOML document

A whole number is decimal with an optional sign and no superfluous leading zero, or hexadecimal,
octal or binary after `0x`, `0o` or `0b`; it may be of any size. Any other number has a point with
digits on both sides, an exponent, or both, or is `inf` or `nan`; one too large for binary64 is
refused. A single underscore may stand between two digits.
-/
namespace EventLedger.Toml

/-- Digits of a base without the underscores between them; none unless each underscore stands
between two digits and there is a digit. -/
def groupedDigits? (isDigit : Char → Bool) : List Char → Option (List Char)
  | [] => none
  | [c] => if isDigit c then some [c] else none
  | c :: '_' :: rest =>
    if isDigit c then (groupedDigits? isDigit rest).map (c :: ·) else none
  | c :: rest => if isDigit c then (groupedDigits? isDigit rest).map (c :: ·) else none

/-- The value of digits in a base. -/
def valueIn (base : Nat) (digits : List Char) : Nat :=
  digits.foldl (fun value c => value * base + (hexDigit? c).getD 0) 0

/-- The whole number of unsigned digits in a base. -/
def basedInteger? (base : Nat) (chars : List Char) : Option Int :=
  let isDigit (c : Char) := match hexDigit? c with
    | some value => value < base
    | none => false
  (groupedDigits? isDigit chars).map fun digits => valueIn base digits

/-- The digits of an unsigned decimal number without a superfluous leading zero. -/
def wholeDigits? (chars : List Char) : Option (List Char) :=
  match groupedDigits? Char.isDigit chars with
  | some ['0'] => some ['0']
  | some ('0' :: _) => none
  | found => found

/-- The sign of a number and what follows it. -/
def takeSign : List Char → Bool × List Char
  | '-' :: rest => (true, rest)
  | '+' :: rest => (false, rest)
  | rest => (false, rest)

/-- The decimal whole number that characters spell. -/
def decimalInteger? (chars : List Char) : Option Int :=
  let (negative, rest) := takeSign chars
  (wholeDigits? rest).map fun digits =>
    if negative then -(valueIn 10 digits : Int) else valueIn 10 digits

/-- The whole number that characters spell. -/
def integer? : List Char → Option Int
  | '0' :: 'x' :: rest => basedInteger? 16 rest
  | '0' :: 'o' :: rest => basedInteger? 8 rest
  | '0' :: 'b' :: rest => basedInteger? 2 rest
  | chars => decimalInteger? chars

/-- Whether a character begins an exponent. -/
def isExponentMark (c : Char) : Bool := c = 'e' || c = 'E'

/-- The characters of an exponent without underscores, after its mark. -/
def exponentText? (chars : List Char) : Option (List Char) :=
  let (negative, rest) := takeSign chars
  (groupedDigits? Char.isDigit rest).map fun digits =>
    'e' :: (if negative then '-' :: digits else digits)

/-- The characters of an unsigned number that is not whole, without underscores. -/
def doubleText? (chars : List Char) : Option (List Char) :=
  let mantissa := chars.takeWhile fun c => !isExponentMark c
  let exponent := match chars.dropWhile fun c => !isExponentMark c with
    | [] => some []
    | _ :: rest => exponentText? rest
  let whole := mantissa.takeWhile (· != '.')
  let fraction := match mantissa.dropWhile (· != '.') with
    | [] => if mantissa.length = chars.length then none else some []
    | _ :: rest => (groupedDigits? Char.isDigit rest).map ('.' :: ·)
  match wholeDigits? whole, fraction, exponent with
  | some whole, some fraction, some exponent => some (whole ++ fraction ++ exponent)
  | _, _, _ => none

/-- The number that is not whole and that characters spell. -/
def double? (chars : List Char) : Option Binary64 :=
  let (negative, rest) := takeSign chars
  if rest = "inf".toList then some (.infinity negative)
  else if rest = "nan".toList then some .nan
  else
    match (doubleText? rest).bind (Binary64.unsigned? negative) with
    | some value => if value.isInfinite then none else some value
    | none => none

end EventLedger.Toml
