import EventLedger.Text.GraphemeExtend
import EventLedger.Text.Unprintable

/-!
# Quoted texts

A text inside a message is shown between double quotes with every character that could be
mistaken escaped: quote and backslash by a backslash, tab, line feed, carriage return and NUL by
a letter or digit, and each other character that is unprintable or extends the one before it by
its code point in hexadecimal.
-/
namespace EventLedger.Text

/-- Whether a character is shown by its code point. -/
def isHidden (c : Char) : Bool :=
  inRanges graphemeExtendRanges c.toNat || inRanges unprintableRanges c.toNat

/-- The code point of a character in lower-case hexadecimal, between braces. -/
def codePointEscape (c : Char) : List Char :=
  ['\\', 'u', '\x7b'] ++ Nat.toDigits 16 c.toNat ++ ['\x7d']

/-- One character as it is shown between the quotes. -/
def escapeChar (c : Char) : List Char :=
  if c = '\x00' then ['\\', '0']
  else if c = '\t' then ['\\', 't']
  else if c = '\r' then ['\\', 'r']
  else if c = '\n' then ['\\', 'n']
  else if c = '\\' then ['\\', '\\']
  else if c = '"' then ['\\', '"']
  else if c.toNat < 0x7F then if c.toNat < 0x20 then codePointEscape c else [c]
  else if isHidden c then codePointEscape c
  else [c]

/-- A text between double quotes, escaped. -/
def quoted (text : String) : String :=
  String.ofList ('"' :: text.toList.flatMap escapeChar ++ ['"'])

end EventLedger.Text
