import EventLedger.Text.Digits
import EventLedger.Text.Percent

/-!
# Numeric hosts

A host may be given by a number: four numbers of a byte each between points, or eight groups of
hexadecimal digits between colons, where two colons stand for one or more groups of zeros and four
numbers of a byte may stand for the last two groups.
-/
namespace EventLedger.Database.NumericHost

/-- Whether characters are a number of a byte without superfluous zeros. -/
def isByte (chars : List Char) : Bool :=
  chars.length ≤ 3 && ((Text.digits? chars).any (· < 256)) &&
    (chars.length = 1 || chars.head? != some '0')

/-- Whether a text is four numbers of a byte. -/
def isShort (text : String) : Bool :=
  let parts := text.splitOn "."
  parts.length = 4 && parts.all fun part => isByte part.toList

/-- Whether a text is a group of hexadecimal digits. -/
def isGroup (text : String) : Bool :=
  let digits := text.toList
  !digits.isEmpty && digits.length ≤ 4 && digits.all fun c => (Text.Percent.hexDigit? c).isSome

/-- The number of groups that parts between colons stand for, if they make sense. -/
def groups? : (parts : List String) → Option Nat
  | [] => some 0
  | [last] => if isGroup last then some 1 else if isShort last then some 2 else none
  | part :: rest => if isGroup part then (groups? rest).map (· + 1) else none

/-- The number of groups in a text, if it makes sense; an empty one has none. -/
def groupsIn? (text : String) : Option Nat :=
  if text = "" then some 0 else groups? (text.splitOn ":")

/-- Whether a text is eight groups. -/
def isLong (text : String) : Bool :=
  match text.splitOn "::" with
  | [whole] => groupsIn? whole = some 8
  | [before, after] =>
    match groupsIn? before, groupsIn? after with
    | some first, some second => !before.contains '.' && first + second < 8
    | _, _ => false
  | _ => false

/-- Whether a text is the number of a host. -/
def isNumeric (text : String) : Bool := isShort text || isLong text

end EventLedger.Database.NumericHost
