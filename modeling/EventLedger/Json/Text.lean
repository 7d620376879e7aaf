import EventLedger.Json.Bytes
import EventLedger.Text.Utf8

/-!
# Texts of a document

A text stands between double quotes. A control character below U+0020 may not appear raw; an
escape names a quote, backslash, solidus, one of five control characters, or a code point by
UTF-16 units of four hexadecimal digits each, where a high surrogate is followed by a low one
and neither stands alone. What the raw bytes and the escapes spell is well-formed UTF-8.
-/
namespace EventLedger.Json

/-- The number that four hexadecimal digits spell. -/
def unit? (a b c d : UInt8) : Option Nat := do
  let a ← hexDigit? a
  let b ← hexDigit? b
  let c ← hexDigit? c
  let d ← hexDigit? d
  some (a * 0x1000 + b * 0x100 + c * 0x10 + d)

/-- The byte that a one-letter escape stands for. -/
def simpleEscape? (b : UInt8) : Option UInt8 :=
  if b = byte '"' || b = byte '\\' || b = byte '/' then some b
  else if b = byte 'b' then some 0x08
  else if b = byte 'f' then some 0x0C
  else if b = byte 'n' then some 0x0A
  else if b = byte 'r' then some 0x0D
  else if b = byte 't' then some 0x09
  else none

/-- The character of two UTF-16 units, a high and a low surrogate. -/
def surrogatePair? (high low : Nat) : Option Char :=
  if 0xD800 ≤ high && high < 0xDC00 && 0xDC00 ≤ low && low < 0xE000 then
    some (Char.ofNat (0x10000 + (high - 0xD800) * 0x400 + (low - 0xDC00)))
  else none

/-- The UTF-8 bytes spelled from after the opening quote to the closing one, and the bytes after
it. -/
def textBytes : Bytes → Option (Bytes × Bytes)
  | [] => none
  | b :: rest =>
    if b = byte '"' then some ([], rest)
    else if b = byte '\\' then
      match rest with
      | [] => none
      | escape :: rest =>
        if escape = byte 'u' then
          match rest with
          | p :: q :: r :: s :: rest =>
            match unit? p q r s with
            | none => none
            | some unit =>
              if unit < 0xD800 || 0xE000 ≤ unit then
                (textBytes rest).map fun (tail, after) =>
                  (Text.Utf8.encodeChar (Char.ofNat unit) ++ tail, after)
              else
                match rest with
                | mark :: letter :: p :: q :: r :: s :: rest =>
                  if mark = byte '\\' && letter = byte 'u' then
                    match (unit? p q r s).bind (surrogatePair? unit) with
                    | none => none
                    | some c =>
                      (textBytes rest).map fun (tail, after) =>
                        (Text.Utf8.encodeChar c ++ tail, after)
                  else none
                | _ => none
          | _ => none
        else
          match simpleEscape? escape with
          | none => none
          | some plain => (textBytes rest).map fun (tail, after) => (plain :: tail, after)
    else if b < 0x20 then none
    else (textBytes rest).map fun (tail, after) => (b :: tail, after)

/-- Read a text from after its opening quote. -/
def readTextTail (input : Bytes) : Option (String × Bytes) := do
  let (spelled, rest) ← textBytes input
  let text ← Text.Utf8.decode? spelled
  some (text, rest)

/-- Read a text with its quotes. -/
def readText : Bytes → Option (String × Bytes)
  | [] => none
  | b :: rest => if b = byte '"' then readTextTail rest else none

/-- The bytes after the closing quote of a text that nobody reads, from after its opening quote:
escapes have their form, and neither their pairing nor the encoding is looked at. -/
def skipTextTail : Bytes → Option Bytes
  | [] => none
  | b :: rest =>
    if b = byte '"' then some rest
    else if b = byte '\\' then
      match rest with
      | [] => none
      | escape :: rest =>
        if escape = byte 'u' then
          match rest with
          | p :: q :: r :: s :: rest => if (unit? p q r s).isSome then skipTextTail rest else none
          | _ => none
        else if (simpleEscape? escape).isSome then skipTextTail rest
        else none
    else if b < 0x20 then none
    else skipTextTail rest

end EventLedger.Json
