/-!
# Bytes of a document

The characters that JSON gives a meaning, as bytes, and readers of blanks and fixed words. A
reader takes the bytes from where it begins and returns those after what it read.
-/
namespace EventLedger.Json

/-- The bytes of a document, or of what is left of one. -/
abbrev Bytes := List UInt8

/-- The byte of an ASCII character. -/
def byte (c : Char) : UInt8 := c.toNat.toUInt8

/-- Whether a byte is one of the four blanks of JSON: space, line feed, carriage return, tab. -/
def isSpace (b : UInt8) : Bool := b == 0x20 || b == 0x0A || b == 0x0D || b == 0x09

/-- The bytes after leading blanks. -/
def skipSpace (input : Bytes) : Bytes := input.dropWhile isSpace

/-- The bytes after a fixed word at the front. -/
def skipWord? : (word : List Char) → Bytes → Option Bytes
  | [], input => some input
  | _ :: _, [] => none
  | c :: word, b :: input => if b = byte c then skipWord? word input else none

/-- The value of a hexadecimal digit of either case. -/
def hexDigit? (b : UInt8) : Option Nat :=
  if 0x30 ≤ b && b ≤ 0x39 then some (b.toNat - 0x30)
  else if 0x61 ≤ b && b ≤ 0x66 then some (b.toNat - 0x57)
  else if 0x41 ≤ b && b ≤ 0x46 then some (b.toNat - 0x37)
  else none

/-- The value of a decimal digit. -/
def digit? (b : UInt8) : Option Nat :=
  if 0x30 ≤ b && b ≤ 0x39 then some (b.toNat - 0x30) else none

/-- The decimal digits at the front, as values, and the bytes after them. -/
def takeDigits : Bytes → List Nat × Bytes
  | [] => ([], [])
  | b :: rest =>
    match digit? b with
    | none => ([], b :: rest)
    | some d =>
      let (digits, rest) := takeDigits rest
      (d :: digits, rest)

end EventLedger.Json
