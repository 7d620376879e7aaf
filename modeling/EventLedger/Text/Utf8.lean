/-!
# UTF-8

Writing a text as bytes and reading bytes as a text. Reading admits exactly the well-formed
sequences: no overlong form, no surrogate, nothing above U+10FFFF.
-/
namespace EventLedger.Text.Utf8

/-- The bytes of one character. -/
def encodeChar (c : Char) : List UInt8 :=
  let code := c.toNat
  if code < 0x80 then [code.toUInt8]
  else if code < 0x800 then
    [(0xC0 + code / 0x40).toUInt8, (0x80 + code % 0x40).toUInt8]
  else if code < 0x10000 then
    [(0xE0 + code / 0x1000).toUInt8, (0x80 + code / 0x40 % 0x40).toUInt8,
      (0x80 + code % 0x40).toUInt8]
  else
    [(0xF0 + code / 0x40000).toUInt8, (0x80 + code / 0x1000 % 0x40).toUInt8,
      (0x80 + code / 0x40 % 0x40).toUInt8, (0x80 + code % 0x40).toUInt8]

/-- The bytes of a text. -/
def encode (text : String) : List UInt8 := text.toList.flatMap encodeChar

/-- Whether a byte continues a character. -/
def isTail (b : UInt8) : Bool := 0x80 ≤ b && b < 0xC0

/-- The payload of a continuation byte. -/
def tailBits (b : UInt8) : Nat := b.toNat % 0x40

/-- Read one character from the front, returning the bytes after it. -/
def next? : List UInt8 → Option (Char × List UInt8)
  | [] => none
  | first :: rest =>
    if first < 0x80 then some (Char.ofNat first.toNat, rest)
    else if first < 0xC2 then none
    else match rest with
      | [] => none
      | second :: rest =>
        if !isTail second then none
        else if first < 0xE0 then
          some (Char.ofNat (first.toNat % 0x20 * 0x40 + tailBits second), rest)
        else match rest with
          | [] => none
          | third :: rest =>
            if !isTail third then none
            else if first < 0xF0 then
              let code := first.toNat % 0x10 * 0x1000 + tailBits second * 0x40 + tailBits third
              if code < 0x800 || (0xD800 ≤ code && code < 0xE000) then none
              else some (Char.ofNat code, rest)
            else match rest with
              | [] => none
              | fourth :: rest =>
                if !isTail fourth || 0xF4 < first then none
                else
                  let code := first.toNat % 0x08 * 0x40000 + tailBits second * 0x1000 +
                    tailBits third * 0x40 + tailBits fourth
                  if code < 0x10000 || 0x10FFFF < code then none
                  else some (Char.ofNat code, rest)

/-- Read characters until the bytes end; `fuel` bounds their number. -/
def chars? : (fuel : Nat) → List UInt8 → Option (List Char)
  | _, [] => some []
  | 0, _ :: _ => none
  | fuel + 1, bytes =>
    match next? bytes with
    | none => none
    | some (c, rest) => (chars? fuel rest).map (c :: ·)

/-- The text that a byte sequence spells, if it is well formed. -/
def decode? (bytes : List UInt8) : Option String :=
  (chars? bytes.length bytes).map String.ofList

end EventLedger.Text.Utf8
