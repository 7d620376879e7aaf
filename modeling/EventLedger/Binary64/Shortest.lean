import EventLedger.Binary64

/-!
# The shortest decimal of a number

The text of a finite number has the fewest significant digits that read back as the number, and
of those the digits nearest to its exact value. It is written positionally, without an exponent
and without a fraction that is zero.
-/
namespace EventLedger.Binary64

/-- A decimal: the value of its digits and the power of ten of the last one. -/
structure Decimal where
  /-- The digits as a whole number. -/
  digits : Nat
  /-- The power of ten of the last digit. -/
  exponent : Int
  deriving DecidableEq, Repr

/-- The whole numbers below and above a magnitude divided by a power of ten, and whether the
upper one is at least as near. -/
def neighbours (magnitude : Nat) (exponent : Int) : Nat × Nat × Bool :=
  let (n, d) := ratio magnitude
  let (n, d) :=
    if 0 ≤ exponent then (n, d * Nat.pow 10 exponent.toNat)
    else (n * Nat.pow 10 (-exponent).toNat, d)
  let low := n / d
  (low, low + 1, d ≤ 2 * (n % d))

/-- The decimal of one grid that reads back as the magnitude, if there is one. -/
def onGrid? (magnitude : Nat) (exponent : Int) : Option Decimal :=
  let (low, high, upper) := neighbours magnitude exponent
  let lowReads := roundDecimal low exponent == magnitude
  let highReads := roundDecimal high exponent == magnitude
  match lowReads, highReads with
  | true, true => some ⟨if upper then high else low, exponent⟩
  | true, false => some ⟨low, exponent⟩
  | false, true => some ⟨high, exponent⟩
  | false, false => none

/-- The power of ten of the first digit of a positive magnitude, at most one too great. -/
def leadingExponent (magnitude : Nat) : Int :=
  let (n, d) := ratio magnitude
  let guess := floorLog2 n d * 30103 / 100000
  if 0 ≤ guess + 1 then
    if d * Nat.pow 10 (guess + 1).toNat ≤ n then guess + 1 else guess
  else
    if d ≤ n * Nat.pow 10 (-(guess + 1)).toNat then guess + 1 else guess

/-- Search the grids from a power of ten downwards; `grids` bounds their number. -/
def searchGrids (magnitude : Nat) : (grids : Nat) → (exponent : Int) → Decimal
  | 0, exponent => ⟨(neighbours magnitude exponent).1, exponent⟩
  | grids + 1, exponent =>
    match onGrid? magnitude exponent with
    | some decimal => decimal
    | none => searchGrids magnitude grids (exponent - 1)

/-- The shortest decimal that reads back as a positive finite magnitude. -/
def shortest (magnitude : Nat) : Decimal :=
  searchGrids magnitude 19 (leadingExponent magnitude + 1)

/-- The characters of a decimal written positionally. -/
def Decimal.positional (decimal : Decimal) : List Char :=
  let digits := Nat.toDigits 10 decimal.digits
  if 0 ≤ decimal.exponent then digits ++ List.replicate decimal.exponent.toNat '0'
  else
    let places := (-decimal.exponent).toNat
    let padded := List.replicate (places + 1 - digits.length) '0' ++ digits
    let whole := padded.take (padded.length - places)
    let fraction := (padded.drop (padded.length - places)).reverse.dropWhile (· == '0')
    if fraction.isEmpty then whole else whole ++ '.' :: fraction.reverse

/-- The text of a number. -/
def text (x : Binary64) : String :=
  if x.isNaN then "NaN"
  else
    let body := if x.isInfinite then "inf"
      else if x.magnitude = 0 then "0"
      else String.ofList (shortest x.magnitude).positional
    if x.isNegative then "-" ++ body else body

end EventLedger.Binary64
