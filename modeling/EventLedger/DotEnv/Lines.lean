import EventLedger.Text.Blank

/-!
# Lines of a file of variables

An entry of the file is a line, or several if a quote is open at the end of one. A hash sign after
a blank outside of quotes begins a comment, and a line that begins with one is skipped. The file is
cut into entries by following what is open at each character.
-/
namespace EventLedger.DotEnv

open Text (isBlank trimLeft)

/-- What is open at a place of an entry. -/
inductive Mode where
  /-- Nothing. -/
  | plain
  /-- Nothing, after a blank. -/
  | blank
  /-- An escape outside of quotes. -/
  | escape
  /-- Single quotes. -/
  | single
  /-- An escape between single quotes. -/
  | singleEscape
  /-- Double quotes. -/
  | double
  /-- An escape between double quotes. -/
  | doubleEscape
  /-- A comment. -/
  | comment
  deriving DecidableEq, Repr

/-- What is open after a character outside of quotes. -/
def Mode.ofPlain (c : Char) : Mode :=
  if c = '\\' then .escape
  else if c = '"' then .double
  else if c = '\'' then .single
  else .plain

/-- What is open after one more character. -/
def Mode.next (mode : Mode) (c : Char) : Mode :=
  match mode with
  | .plain => if isBlank c && c != '\n' && c != '\r' then .blank else .ofPlain c
  | .blank => if c = '#' then .comment else .ofPlain c
  | .escape => .plain
  | .single => if c = '\\' then .singleEscape else if c = '\'' then .plain else .single
  | .singleEscape => .single
  | .double => if c = '\\' then .doubleEscape else if c = '"' then .plain else .double
  | .doubleEscape => .double
  | .comment => .comment

/-- What is open after a line, and the bytes of the line before a comment. -/
def scanLine (mode : Mode) (bytes : Nat) : List Char → Mode × Nat
  | [] => (mode, bytes)
  | c :: rest =>
    match mode.next c with
    | .comment => (.comment, bytes)
    | next => scanLine next (bytes + c.utf8Size) rest

/-- The characters that lie within so many bytes. -/
def takeBytes : (bytes : Nat) → List Char → List Char
  | _, [] => []
  | bytes, c :: rest =>
    if c.utf8Size ≤ bytes then c :: takeBytes (bytes - c.utf8Size) rest else []

/-- The lines of a text, each with its line feed. -/
def splitLines : List Char → List (List Char)
  | [] => []
  | '\n' :: rest => ['\n'] :: splitLines rest
  | c :: rest =>
    match splitLines rest with
    | [] => [[c]]
    | line :: lines => (c :: line) :: lines

/-- A text without the line end at its end. -/
def withoutLineEnd (text : List Char) : List Char :=
  match text.reverse with
  | '\n' :: '\r' :: rest => rest.reverse
  | '\n' :: rest => rest.reverse
  | _ => text

/-- Whether the first character that is no blank is a hash sign. -/
def isCommentLine (text : List Char) : Bool :=
  match trimLeft text with
  | '#' :: _ => true
  | _ => false

/-- An entry, or none where the file ends within one. -/
abbrev Entry := Option (List Char)

/-- The entries of lines, after the lines of an entry that is not complete. The bytes before a
comment are counted from the beginning of its line, and the whole entry is cut there. -/
def entriesFrom (mode : Mode) (begun : List Char) : List (List Char) → List Entry
  | [] => if mode = .plain then [] else [none]
  | line :: lines =>
    let text := begun ++ line
    if isCommentLine text then some [] :: entriesFrom .plain [] lines
    else
      match scanLine mode 0 line with
      | (.plain, _) => some (withoutLineEnd text) :: entriesFrom .plain [] lines
      | (.comment, bytes) => some (takeBytes bytes text) :: entriesFrom .plain [] lines
      | (open', _) => entriesFrom open' text lines

/-- The entries of a file. -/
def entries (text : String) : List Entry := entriesFrom .plain [] (splitLines text.toList)

end EventLedger.DotEnv
