import EventLedger.Word

/-!
# Decimal digits

Reading of whole numbers from texts that hold nothing else: an unsigned number may begin with a
plus sign, a signed one with either sign, leading zeros are allowed, and a value beyond the
limit is refused, never wrapped.
-/
namespace EventLedger.Text

/-- The value of an ASCII digit. -/
def digit? (c : Char) : Option Nat :=
  if '0' ≤ c && c ≤ '9' then some (c.toNat - '0'.toNat) else none

/-- The value of digits read from the left, after those whose value is `value`. -/
def digitsFrom? (value : Nat) : List Char → Option Nat
  | [] => some value
  | c :: rest =>
    match digit? c with
    | none => none
    | some d => digitsFrom? (value * 10 + d) rest

/-- The value of one or more ASCII digits. -/
def digits? : List Char → Option Nat
  | [] => none
  | c :: rest => digitsFrom? 0 (c :: rest)

/-- The whole number up to `limit` that a text spells: an optional plus sign and digits. -/
def unsigned? (limit : Nat) (text : String) : Option Nat :=
  let digits := match text.toList with
    | '+' :: rest => rest
    | chars => chars
  match digits? digits with
  | some value => if value ≤ limit then some value else none
  | none => none

/-- The whole number that a text spells: an optional sign and digits. -/
def integer? (text : String) : Option Int :=
  match text.toList with
  | '-' :: rest => (digits? rest).map fun value : Nat => -(value : Int)
  | '+' :: rest => (digits? rest).map fun value : Nat => (value : Int)
  | chars => (digits? chars).map fun value : Nat => (value : Int)

/-- The whole number that a text spells, if a word of 64 bits with sign holds it. -/
def signed64? (text : String) : Option Int := (integer? text).filter Word.holds

/-- A number below one hundred in two digits. -/
def twoDigits (n : Nat) : String := if n < 10 then "0" ++ toString n else toString n

end EventLedger.Text
