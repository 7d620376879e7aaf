/-!
# Blanks

The blanks of a text are the characters with the Unicode property White_Space. Trimming takes
them from both ends.
-/
namespace EventLedger.Text

/-- Whether a character has the Unicode property White_Space. -/
def isBlank (c : Char) : Bool :=
  let code := c.toNat
  (9 ≤ code && code ≤ 13) || code == 0x20 || code == 0x85 || code == 0xA0 || code == 0x1680 ||
    (0x2000 ≤ code && code ≤ 0x200A) || code == 0x2028 || code == 0x2029 || code == 0x202F ||
    code == 0x205F || code == 0x3000

/-- The text without its leading blanks. -/
def trimLeft (text : List Char) : List Char := text.dropWhile isBlank

/-- The text without its trailing blanks. -/
def trimRight (text : List Char) : List Char := (text.reverse.dropWhile isBlank).reverse

/-- The text without leading and trailing blanks. -/
def trim (text : String) : String := String.ofList (trimRight (trimLeft text.toList))

end EventLedger.Text
