/-!
# UUIDs

A UUID is a word of 128 bits. Its canonical text is 32 lower-case hexadecimal digits in groups of
8, 4, 4, 4 and 12 joined by hyphens. A text spells a UUID if it is that form with digits of either
case, the same form between braces or after `urn:uuid:` (in any case), or 32 digits alone.
-/
namespace EventLedger

/-- A universally unique identifier. -/
structure Uuid where
  /-- Its 128 bits. -/
  bits : BitVec 128
  deriving DecidableEq, Repr

namespace Uuid

/-- The value of a hexadecimal digit of either case. -/
def hexDigit? (c : Char) : Option Nat :=
  if '0' ≤ c && c ≤ '9' then some (c.toNat - 48)
  else if 'a' ≤ c && c ≤ 'f' then some (c.toNat - 87)
  else if 'A' ≤ c && c ≤ 'F' then some (c.toNat - 55)
  else none

/-- The value of hexadecimal digits read from the left, after digits of value `value`. -/
def hexFrom? (value : Nat) : List Char → Option Nat
  | [] => some value
  | c :: rest =>
    match hexDigit? c with
    | none => none
    | some d => hexFrom? (value * 16 + d) rest

/-- The lengths of the groups of digits. -/
def groups : List Nat := [8, 4, 4, 4, 12]

/-- The digits of groups of given lengths that are joined by hyphens. -/
def ungroup? : (lengths : List Nat) → List Char → Option (List Char)
  | [], text => if text.isEmpty then some [] else none
  | [length], text => if text.length = length then some text else none
  | length :: lengths, text =>
    match text.drop length with
    | '-' :: rest => (ungroup? lengths rest).map (text.take length ++ ·)
    | _ => none

/-- The UUID of 32 hexadecimal digits. -/
def ofDigits? (digits : List Char) : Option Uuid :=
  if digits.length = 32 then (hexFrom? 0 digits).map fun value => ⟨BitVec.ofNat 128 value⟩
  else none

/-- The UUID of the canonical form with digits of either case. -/
def ofHyphenated? (text : List Char) : Option Uuid := (ungroup? groups text).bind ofDigits?

/-- The word before the canonical form in a name of the URN scheme. -/
def urnPrefix : List Char := "urn:uuid:".toList

/-- The UUID that a text spells. -/
def ofText? (text : String) : Option Uuid :=
  let chars := text.toList
  match chars with
  | '\x7b' :: rest =>
    if rest.getLast? = some '\x7d' then ofHyphenated? rest.dropLast else none
  | _ =>
    if chars.length = 32 then ofDigits? chars
    else if (chars.take 9).map Char.toLower = urnPrefix then ofHyphenated? (chars.drop 9)
    else ofHyphenated? chars

/-- The lower-case hexadecimal digits of the lowest `count` half-bytes of a number. -/
def hexDigits : (count value : Nat) → List Char
  | 0, _ => []
  | count + 1, value => hexDigits count (value / 16) ++ [Nat.digitChar (value % 16)]

/-- The 32 digits of a UUID. -/
def digits (id : Uuid) : List Char := hexDigits 32 id.bits.toNat

/-- Characters in groups of given lengths, joined by hyphens. -/
def group : (lengths : List Nat) → List Char → List Char
  | [], _ => []
  | [length], text => text.take length
  | length :: lengths, text => text.take length ++ '-' :: group lengths (text.drop length)

/-- The canonical text of a UUID. -/
def text (id : Uuid) : String := String.ofList (group groups id.digits)

end Uuid

end EventLedger
