import EventLedger.Word

/-!
# Numbers of binary64

A double-precision number is its 64 bits: a sign, eleven bits of exponent and 52 of fraction.
Rounding takes an exact ratio of natural numbers to the nearest such number, a tie to the even
neighbour; products and quotients are rounded once from their exact values.
-/
namespace EventLedger

/-- A number of the IEEE 754 format binary64. -/
structure Binary64 where
  /-- The bits of the number. -/
  bits : UInt64
  deriving DecidableEq, Repr

namespace Binary64

/-- Positive infinity, as a word: all larger words without sign are no numbers. -/
def infinityWord : Nat := 0x7FF0000000000000

/-- The weight of the first bit of a significand, which the word itself leaves out. -/
def hiddenBit : Nat := 0x0010000000000000

/-- The number with a sign and the other 63 bits. -/
def ofParts (negative : Bool) (magnitude : Nat) : Binary64 :=
  ⟨(if negative then Word.signWeight + magnitude else magnitude).toUInt64⟩

/-- Whether the sign bit is set. -/
def isNegative (x : Binary64) : Bool := Word.signWeight ≤ x.bits.toNat

/-- The bits without the sign. -/
def magnitude (x : Binary64) : Nat := x.bits.toNat % Word.signWeight

/-- Whether the word stands for no number. -/
def isNaN (x : Binary64) : Bool := infinityWord < x.magnitude

/-- Whether the number is infinite. -/
def isInfinite (x : Binary64) : Bool := x.magnitude == infinityWord

/-- Zero of a sign. -/
def zero (negative : Bool) : Binary64 := ofParts negative 0

/-- Infinity of a sign. -/
def infinity (negative : Bool) : Binary64 := ofParts negative infinityWord

/-- The word that stands for no number. -/
def nan : Binary64 := ofParts false (infinityWord + hiddenBit / 2)

/-- The exponents of two of finite numbers begin here. -/
def leastExponent : Int := -1074

/-- The integer significand and the exponent of two of a finite magnitude. -/
def unpack (magnitude : Nat) : Nat × Int :=
  let exponent : Nat := magnitude / hiddenBit
  let fraction : Nat := magnitude % hiddenBit
  if exponent = 0 then (fraction, leastExponent)
  else (hiddenBit + fraction, (exponent : Int) - 1075)

/-- The exact value of a finite magnitude as a ratio. -/
def ratio (magnitude : Nat) : Nat × Nat :=
  let (significand, exponent) := unpack magnitude
  if 0 ≤ exponent then (significand <<< exponent.toNat, 1)
  else (significand, 1 <<< (-exponent).toNat)

/-- The exponent of the greatest power of two that is at most a positive ratio. -/
def floorLog2 (numerator denominator : Nat) : Int :=
  let guess : Int := (numerator.log2 : Int) - denominator.log2
  let reached :=
    if 0 ≤ guess then denominator <<< guess.toNat ≤ numerator
    else denominator ≤ numerator <<< (-guess).toNat
  if reached then guess else guess - 1

/-- The quotient rounded to the nearest whole number, a tie to the even one. -/
def divNearestEven (numerator denominator : Nat) : Nat :=
  let quotient := numerator / denominator
  let twice := 2 * (numerator % denominator)
  if twice < denominator then quotient
  else if denominator < twice then quotient + 1
  else if quotient % 2 = 0 then quotient else quotient + 1

/-- The magnitude nearest to a ratio with a positive denominator; infinity beyond the range. -/
def roundRatio (numerator denominator : Nat) : Nat :=
  if numerator = 0 then 0
  else
    let exponent := max leastExponent (floorLog2 numerator denominator - 52)
    let significand :=
      if 0 ≤ exponent then divNearestEven numerator (denominator <<< exponent.toNat)
      else divNearestEven (numerator <<< (-exponent).toNat) denominator
    let word := (exponent - leastExponent).toNat * hiddenBit + significand
    min word infinityWord

/-- The number nearest to a ratio with a positive denominator. -/
def ofRatio (negative : Bool) (numerator denominator : Nat) : Binary64 :=
  ofParts negative (roundRatio numerator denominator)

/-- The magnitude of a whole number divided or multiplied by a power of ten. -/
def roundDecimal (digits : Nat) (exponent : Int) : Nat :=
  if 0 ≤ exponent then roundRatio (digits * Nat.pow 10 exponent.toNat) 1
  else roundRatio digits (Nat.pow 10 (-exponent).toNat)

/-- The product of two finite magnitudes, rounded once. -/
def mulMagnitude (a b : Nat) : Nat :=
  let (n, d) := ratio a
  let (p, q) := ratio b
  roundRatio (n * p) (d * q)

/-- The quotient of two finite magnitudes, the second not zero, rounded once. -/
def divMagnitude (a b : Nat) : Nat :=
  let (n, d) := ratio a
  let (p, q) := ratio b
  roundRatio (n * q) (d * p)

/-- The whole number nearest to a finite magnitude, a half going up. -/
def roundHalfUp (magnitude : Nat) : Nat :=
  let (n, d) := ratio magnitude
  (2 * n + d) / (2 * d)

/-- The word of 64 bits nearest to a number, a half going away from zero: what lies below the
words is zero, what lies above them the greatest word, and no number is zero. -/
def toWord (x : Binary64) : UInt64 :=
  if x.isNaN || x.isNegative then 0
  else if x.isInfinite then Word.greatest.toUInt64
  else (min (roundHalfUp x.magnitude) Word.greatest).toUInt64

/-- The place of a number that is one on a line of whole numbers; both zeros have the same. -/
def position (x : Binary64) : Int := if x.isNegative then -(x.magnitude : Int) else x.magnitude

/-- Whether a number differs from zero; the word that is no number does. -/
def isNonzero (x : Binary64) : Bool := x.magnitude != 0

end Binary64

end EventLedger
