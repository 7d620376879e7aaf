import EventLedger.Toml.Blank

/-!
# Texts of a TOML document

A text stands between double quotes, where a backslash begins an escape, or between single quotes,
where every character stands for itself. Three quotes instead of one allow line ends in a text,
which stay as they are written; a line end right after the opening quotes does not count, up to
two quotes may precede the closing ones, and between double quotes a backslash at the end of a
line takes away what is blank up to the next character.
-/
namespace EventLedger.Toml

/-- The value of a hexadecimal digit of either case. -/
def hexDigit? (c : Char) : Option Nat :=
  if '0' ≤ c && c ≤ '9' then some (c.toNat - 48)
  else if 'a' ≤ c && c ≤ 'f' then some (c.toNat - 87)
  else if 'A' ≤ c && c ≤ 'F' then some (c.toNat - 55)
  else none

/-- The number that hexadecimal digits spell. -/
def hexNumber? (digits : List Char) : Option Nat :=
  digits.foldl (fun value c => value.bind fun value =>
    (hexDigit? c).map fun digit => value * 16 + digit) (some 0)

/-- The character of a code point. -/
def codePoint? (code : Nat) : Option Char :=
  if code < 0xD800 || (0xE000 ≤ code && code < 0x110000) then some (Char.ofNat code) else none

/-- The character that hexadecimal digits name. -/
def namedChar? (digits : List Char) : Option Char := (hexNumber? digits).bind codePoint?

/-- The character that a one-letter escape stands for. -/
def letterEscape? : Char → Option Char
  | 'b' => some '\x08'
  | 'e' => some '\x1b'
  | 't' => some '\t'
  | 'n' => some '\n'
  | 'f' => some '\x0c'
  | 'r' => some '\r'
  | '"' => some '"'
  | '\\' => some '\\'
  | _ => none

/-- Put a character in front of what was read. -/
def prepend (c : Char) (read : List Char × Input) : List Char × Input := (c :: read.1, read.2)

/-- Read a text between double quotes, from after the opening one. -/
def basicTail : Input → Option (List Char × Input)
  | [] => none
  | '"' :: rest => some ([], rest)
  | '\\' :: 'x' :: a :: b :: rest =>
    match namedChar? [a, b] with
    | none => none
    | some named => (basicTail rest).map (prepend named)
  | '\\' :: 'u' :: a :: b :: c :: d :: rest =>
    match namedChar? [a, b, c, d] with
    | none => none
    | some named => (basicTail rest).map (prepend named)
  | '\\' :: 'U' :: a :: b :: c :: d :: e :: f :: g :: h :: rest =>
    match namedChar? [a, b, c, d, e, f, g, h] with
    | none => none
    | some named => (basicTail rest).map (prepend named)
  | '\\' :: letter :: rest =>
    match letterEscape? letter with
    | none => none
    | some escaped => (basicTail rest).map (prepend escaped)
  | c :: rest => if isForbidden c || c = '\\' then none else (basicTail rest).map (prepend c)

/-- Read a text between single quotes, from after the opening one. -/
def literalTail : Input → Option (List Char × Input)
  | [] => none
  | '\'' :: rest => some ([], rest)
  | c :: rest => if isForbidden c then none else (literalTail rest).map (prepend c)

/-- The closing quotes of a text of several lines and the quotes of the text before them. -/
def closing? (quote : Char) : Input → Option (List Char × Input)
  | a :: b :: c :: rest =>
    if a = quote && b = quote && c = quote then
      match rest with
      | d :: e :: after =>
        if d = quote && e = quote then some ([quote, quote], after)
        else if d = quote then some ([quote], e :: after)
        else some ([], rest)
      | [d] => if d = quote then some ([quote], []) else some ([], rest)
      | [] => some ([], [])
    else none
  | _ => none

/-- Whether only blanks come before the end of the line. -/
def endsLine (input : Input) : Bool := (newline? (skipBlanks input)).isSome

/-- Read a text of several lines between double quotes, from after the opening ones; `skipping`
tells whether blanks and line ends are being taken away. -/
def basicLines (skipping : Bool) : Input → Option (List Char × Input)
  | [] => none
  | '\r' :: '\n' :: rest =>
    if skipping then basicLines true rest
    else (basicLines false rest).map (prepend '\r' ∘ prepend '\n')
  | '\n' :: rest =>
    if skipping then basicLines true rest else (basicLines false rest).map (prepend '\n')
  | '\\' :: 'x' :: a :: b :: rest =>
    match namedChar? [a, b] with
    | none => none
    | some named => (basicLines false rest).map (prepend named)
  | '\\' :: 'u' :: a :: b :: c :: d :: rest =>
    match namedChar? [a, b, c, d] with
    | none => none
    | some named => (basicLines false rest).map (prepend named)
  | '\\' :: 'U' :: a :: b :: c :: d :: e :: f :: g :: h :: rest =>
    match namedChar? [a, b, c, d, e, f, g, h] with
    | none => none
    | some named => (basicLines false rest).map (prepend named)
  | '\\' :: letter :: rest =>
    if endsLine (letter :: rest) then basicLines true (letter :: rest)
    else
      match letterEscape? letter with
      | none => none
      | some escaped => (basicLines false rest).map (prepend escaped)
  | c :: rest =>
    if skipping && isBlank c then basicLines true rest
    else
      match closing? '"' (c :: rest) with
      | some closed => some closed
      | none =>
        if isForbidden c || c = '\\' then none else (basicLines false rest).map (prepend c)

/-- Read a text of several lines between single quotes, from after the opening ones. -/
def literalLines : Input → Option (List Char × Input)
  | [] => none
  | '\r' :: '\n' :: rest => (literalLines rest).map (prepend '\r' ∘ prepend '\n')
  | '\n' :: rest => (literalLines rest).map (prepend '\n')
  | c :: rest =>
    match closing? '\'' (c :: rest) with
    | some closed => some closed
    | none => if isForbidden c then none else (literalLines rest).map (prepend c)

/-- The input after a line end right after opening quotes. -/
def skipFirstNewline (input : Input) : Input := (newline? input).getD input

/-- Read a text of one line. -/
def readLineText : Input → Option (List Char × Input)
  | '"' :: rest => basicTail rest
  | '\'' :: rest => literalTail rest
  | _ => none

/-- Read a text. -/
def readText : Input → Option (List Char × Input)
  | '"' :: '"' :: '"' :: rest => basicLines false (skipFirstNewline rest)
  | '\'' :: '\'' :: '\'' :: rest => literalLines (skipFirstNewline rest)
  | input => readLineText input

/-- Whether a character may stand in a key without quotes. -/
def isBareKeyChar (c : Char) : Bool :=
  c.isAlphanum || c = '_' || c = '-'

/-- Read one part of a key. -/
def readKeyPart (input : Input) : Option (String × Input) :=
  match input with
  | '"' :: _ | '\'' :: _ => (readLineText input).map fun (text, rest) => (String.ofList text, rest)
  | _ =>
    let bare := input.takeWhile isBareKeyChar
    if bare.isEmpty then none else some (String.ofList bare, input.dropWhile isBareKeyChar)

/-- Read a key: parts joined by points, with blanks around each; `fuel` bounds the parts. -/
def readKeyFrom : (fuel : Nat) → Input → Option (List String × Input)
  | 0, _ => none
  | fuel + 1, input =>
    match readKeyPart (skipBlanks input) with
    | none => none
    | some (part, rest) =>
      match skipBlanks rest with
      | '.' :: rest => (readKeyFrom fuel rest).map fun (parts, rest) => (part :: parts, rest)
      | rest => some ([part], rest)

/-- The parts that a key may have. -/
def keyLimit : Nat := 80

/-- Read a key. -/
def readKey (input : Input) : Option (List String × Input) :=
  (readKeyFrom (input.length + 1) input).filter fun (parts, _) => parts.length ≤ keyLimit

end EventLedger.Toml
