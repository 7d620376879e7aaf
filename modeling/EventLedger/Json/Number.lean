import EventLedger.Json.Bytes
import EventLedger.Json.Value

/-!
# Numbers of a document

A number literal is an optional minus sign, digits without a superfluous leading zero, and
optionally a point with digits and an exponent. A literal without point and exponent whose value
64 bits hold is that whole number, minus zero apart; any other literal is a binary64 number, read
from as many leading digits as an unsigned word holds and one power of ten, with one rounding for
the scaling. A literal too large for binary64 is refused.
-/
namespace EventLedger.Json

/-- The parts of a number literal. -/
structure Literal where
  /-- Whether it has a minus sign. -/
  negative : Bool
  /-- The digits before the point. -/
  whole : List Nat
  /-- The digits after the point, of which there is at least one, if there is a point. -/
  fraction : Option (List Nat)
  /-- The exponent, if there is one. -/
  exponent : Option Int
  deriving Repr

/-- The value of decimal digits. -/
def digitsValue (digits : List Nat) : Nat := digits.foldl (fun value d => value * 10 + d) 0

/-- Read the digits before the point: a lone zero, or digits that begin with another one. -/
def readWhole (input : Bytes) : Option (List Nat × Bytes) :=
  match input with
  | [] => none
  | b :: rest =>
    if b = byte '0' then some ([0], rest)
    else
      match takeDigits input with
      | ([], _) => none
      | found => some found

/-- Read a point and the digits after it, if there is a point. -/
def readFraction : Bytes → Option (Option (List Nat) × Bytes)
  | [] => some (none, [])
  | b :: rest =>
    if b = byte '.' then
      match takeDigits rest with
      | ([], _) => none
      | (digits, rest) => some (some digits, rest)
    else some (none, b :: rest)

/-- Read an exponent's sign and digits. -/
def readSignedDigits (input : Bytes) : Option (Int × Bytes) :=
  let (negative, rest) : Bool × Bytes := match input with
    | [] => (false, [])
    | b :: rest =>
      if b = byte '-' then (true, rest)
      else if b = byte '+' then (false, rest)
      else (false, b :: rest)
  match takeDigits rest with
  | ([], _) => none
  | (digits, rest) =>
    let value : Int := digitsValue digits
    some (if negative then -value else value, rest)

/-- Read an exponent, if there is one. -/
def readExponent : Bytes → Option (Option Int × Bytes)
  | [] => some (none, [])
  | b :: rest =>
    if b = byte 'e' || b = byte 'E' then
      (readSignedDigits rest).map fun (exponent, rest) => (some exponent, rest)
    else some (none, b :: rest)

/-- Read a number literal. -/
def readLiteral (input : Bytes) : Option (Literal × Bytes) := do
  let (negative, rest) : Bool × Bytes := match input with
    | [] => (false, [])
    | b :: rest => if b = byte '-' then (true, rest) else (false, b :: rest)
  let (whole, rest) ← readWhole rest
  let (fraction, rest) ← readFraction rest
  let (exponent, rest) ← readExponent rest
  some (⟨negative, whole, fraction, exponent⟩, rest)

/-- The value of the longest run of leading digits that a word holds, after digits of value
`value`, and the number of digits left over. -/
def leadingWord (value : Nat) : List Nat → Nat × Nat
  | [] => (value, 0)
  | d :: rest =>
    if value * 10 + d ≤ Word.greatest then leadingWord (value * 10 + d) rest
    else (value, rest.length + 1)

/-- A word scaled by a power of ten: beyond 308 places in steps of which each is rounded. -/
def scaleWord (word : Nat) (exponent : Int) : Nat :=
  let start := Binary64.roundRatio word 1
  let power (n : Nat) := Binary64.roundRatio (Nat.pow 10 n) 1
  if word = 0 then 0
  else if 308 < exponent then Binary64.infinityWord
  else if 0 ≤ exponent then Binary64.mulMagnitude start (power exponent.toNat)
  else
    let places := (-exponent).toNat
    if places ≤ 308 then Binary64.divMagnitude start (power places)
    else if places ≤ 616 then
      Binary64.divMagnitude (Binary64.divMagnitude start (power 308)) (power (places - 308))
    else 0

/-- The number of binary64 that a literal stands for; none if it is too large. -/
def Literal.double? (literal : Literal) : Option Binary64 :=
  let (word, left) := leadingWord 0 literal.whole
  let fraction := literal.fraction.getD []
  let (word, leftFraction) := leadingWord word fraction
  let read := fraction.length - leftFraction
  let exponent := literal.exponent.getD 0 + left - read
  let magnitude := scaleWord word exponent
  if Binary64.infinityWord ≤ magnitude then none
  else some (Binary64.ofParts literal.negative magnitude)

/-- The whole number of a literal without point and exponent that 64 bits hold. -/
def Literal.integer? (literal : Literal) : Option Int :=
  if literal.fraction.isSome || literal.exponent.isSome then none
  else
    let value := digitsValue literal.whole
    if literal.negative then
      if 0 < value && value ≤ Word.signWeight then some (-(value : Int)) else none
    else if value ≤ Word.greatest then some value else none

/-- The number that a literal stands for. -/
def Literal.number? (literal : Literal) : Option Number :=
  match literal.integer? with
  | some value => some (.integer value)
  | none => literal.double?.map .double

/-- Read a number. -/
def readNumber (input : Bytes) : Option (Number × Bytes) := do
  let (literal, rest) ← readLiteral input
  let number ← literal.number?
  some (number, rest)

/-- Read a whole number of 64 bits with sign. -/
def readInt64 (input : Bytes) : Option (Int × Bytes) := do
  let (literal, rest) ← readLiteral input
  let value ← literal.integer?
  if value < Word.signWeight then some (value, rest) else none

end EventLedger.Json
