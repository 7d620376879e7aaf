/-!
# Blanks and comments of a TOML document

Within a line, spaces and tabs are blanks; a line ends with a line feed, which one carriage return
may precede; a comment runs to the end of its line and holds no control character but tabs.
-/
namespace EventLedger.Toml

/-- What is left of a document. -/
abbrev Input := List Char

/-- Whether a character is a blank within a line. -/
def isBlank (c : Char) : Bool := c = ' ' || c = '\t'

/-- Whether a control character may not appear raw. -/
def isForbidden (c : Char) : Bool := (c.toNat < 0x20 && c != '\t') || c.toNat = 0x7F

/-- The input after blanks. -/
def skipBlanks (input : Input) : Input := input.dropWhile isBlank

/-- The input after the end of a line, if it is there. -/
def newline? : Input → Option Input
  | '\n' :: rest => some rest
  | '\r' :: '\n' :: rest => some rest
  | _ => none

/-- The input after the characters of a comment. -/
def skipCommentText (input : Input) : Input := input.dropWhile fun c => !isForbidden c

/-- The input after a comment, if there is one. -/
def skipComment : Input → Input
  | '#' :: rest => skipCommentText rest
  | input => input

/-- The input after blanks, a comment and the end of the line, or at the end of the document. -/
def endLine? (input : Input) : Option Input :=
  match skipComment (skipBlanks input) with
  | [] => some []
  | rest => newline? rest

/-- The input after blanks, comments and ends of lines; `fuel` bounds the lines. -/
def skipLinesFrom : (fuel : Nat) → Input → Input
  | 0, input => input
  | fuel + 1, input =>
    let rest := skipComment (skipBlanks input)
    match newline? rest with
    | some rest => skipLinesFrom fuel rest
    | none => rest

/-- The input after blanks, comments and ends of lines. -/
def skipLines (input : Input) : Input := skipLinesFrom (input.length + 1) input

end EventLedger.Toml
