import EventLedger.Text.Utf8

/-!
# Percent signs in texts

In a URL a percent sign and two hexadecimal digits stand for a byte. A percent sign without them
stands for itself.
-/
namespace EventLedger.Text.Percent

/-- The value of a hexadecimal digit of either case. -/
def hexDigit? (c : Char) : Option Nat :=
  if '0' ≤ c && c ≤ '9' then some (c.toNat - '0'.toNat)
  else if 'a' ≤ c && c ≤ 'f' then some (c.toNat - 'a'.toNat + 10)
  else if 'A' ≤ c && c ≤ 'F' then some (c.toNat - 'A'.toNat + 10)
  else none

/-- The byte of two hexadecimal digits. -/
def byte? (high low : Char) : Option UInt8 := do
  let high ← hexDigit? high
  let low ← hexDigit? low
  some (high * 0x10 + low).toUInt8

/-- The bytes that characters stand for; `fuel` bounds the characters. -/
def bytesFrom : (fuel : Nat) → List Char → List UInt8
  | fuel + 1, '%' :: high :: low :: rest =>
    match byte? high low with
    | some byte => byte :: bytesFrom fuel rest
    | none => Utf8.encodeChar '%' ++ bytesFrom fuel (high :: low :: rest)
  | fuel + 1, c :: rest => Utf8.encodeChar c ++ bytesFrom fuel rest
  | _, _ => []

/-- The text that characters stand for, if their bytes are one. -/
def decode? (chars : List Char) : Option String := Utf8.decode? (bytesFrom chars.length chars)

end EventLedger.Text.Percent
