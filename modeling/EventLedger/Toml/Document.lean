import EventLedger.Text.ByteOrderMark
import EventLedger.Toml.Moment
import EventLedger.Toml.Number
import EventLedger.Toml.Table
import EventLedger.Toml.Text

/-!
# TOML documents

A document is read line by line: a header in single or double brackets, or a key with a value.
Values may nest up to a limit. Arrays and tables between braces may run over several lines, and a
comma may follow their last item; only a key stays on its line.
-/
namespace EventLedger.Toml

/-- The containers that may be open at once within a value. -/
def nestingLimit : Nat := 80

/-- Whether a character may stand in a value that is no text and no container. -/
def isScalarChar (c : Char) : Bool :=
  c.isAlphanum || c = '_' || c = '+' || c = '-' || c = '.' || c = ':'

/-- Read the characters of a value that is no text and no container. A blank may join a date and a
time. -/
def takeScalar (input : Input) : List Char × Input :=
  let chars := input.takeWhile isScalarChar
  let rest := input.dropWhile isScalarChar
  match rest with
  | ' ' :: after =>
    if (takeDate? chars).map (·.2) = some [] && (after.head?.map Char.isDigit).getD false then
      (chars ++ ' ' :: after.takeWhile isScalarChar, after.dropWhile isScalarChar)
    else (chars, rest)
  | _ => (chars, rest)

/-- The value that such characters spell. -/
def scalar? (chars : List Char) : Option Value :=
  if chars = "true".toList then some (.bool true)
  else if chars = "false".toList then some (.bool false)
  else
    match integer? chars with
    | some value => some (.integer value)
    | none =>
      match moment? chars with
      | some text => some (.moment text)
      | none => (double? chars).map .double

mutual

/-- Read a value with at most `depth` levels of containers; `fuel` bounds the values in it. -/
def readValue : (fuel depth : Nat) → Input → Option (Value × Input)
  | 0, _, _ => none
  | fuel + 1, depth, input =>
    match input with
    | '"' :: _ | '\'' :: _ =>
      (readText input).map fun (text, rest) => (.text (String.ofList text), rest)
    | '[' :: rest =>
      match depth with
      | 0 => none
      | depth + 1 => (readItems fuel depth rest).map fun (items, rest) => (.array items, rest)
    | '\x7b' :: rest =>
      match depth with
      | 0 => none
      | depth + 1 =>
        (readMembers fuel depth [] rest).map fun (members, rest) =>
          (.table (toValues members), rest)
    | _ =>
      let (chars, rest) := takeScalar input
      (scalar? chars).map fun value => (value, rest)

/-- Read values up to the end of an array. -/
def readItems : (fuel depth : Nat) → Input → Option (List Value × Input)
  | 0, _, _ => none
  | fuel + 1, depth, input =>
    match skipLines input with
    | ']' :: rest => some ([], rest)
    | rest =>
      match readValue fuel depth rest with
      | none => none
      | some (item, rest) =>
        match skipLines rest with
        | ',' :: rest =>
          (readItems fuel depth rest).map fun (items, rest) => (item :: items, rest)
        | ']' :: rest => some ([item], rest)
        | _ => none

/-- Read members up to the end of a table between braces. -/
def readMembers : (fuel depth : Nat) → Members → Input → Option (Members × Input)
  | 0, _, _, _ => none
  | fuel + 1, depth, members, input =>
    match skipLines input with
    | '\x7d' :: rest => some (members, rest)
    | rest =>
      match readKey rest with
      | none => none
      | some (keys, rest) =>
        match skipLines rest with
        | '=' :: rest =>
          match readValue fuel depth (skipLines rest) with
          | none => none
          | some (value, rest) =>
            match assign keys value members, skipLines rest with
            | some members, ',' :: rest => readMembers fuel depth members rest
            | some members, '\x7d' :: rest => some (members, rest)
            | _, _ => none
        | _ => none

end

/-- A line that says something. -/
inductive Line where
  /-- A header in single brackets. -/
  | table (keys : List String)
  /-- A header in double brackets. -/
  | tables (keys : List String)
  /-- A key and its value. -/
  | assignment (keys : List String) (value : Value)

/-- Read a line from its first character that is not blank. -/
def readLine (input : Input) : Option (Line × Input) :=
  match input with
  | '[' :: '[' :: rest =>
    match readKey rest with
    | some (keys, ']' :: ']' :: rest) => some (.tables keys, rest)
    | _ => none
  | '[' :: rest =>
    match readKey rest with
    | some (keys, ']' :: rest) => some (.table keys, rest)
    | _ => none
  | _ =>
    match readKey input with
    | some (keys, '=' :: rest) =>
      let rest := skipBlanks rest
      (readValue (2 * rest.length + 1) nestingLimit rest).map fun (value, rest) =>
        (.assignment keys value, rest)
    | _ => none

/-- Read lines up to the end of the document; `fuel` bounds them. -/
def readLines : (fuel : Nat) → Input → Option (List Line)
  | 0, _ => none
  | fuel + 1, input =>
    match skipLines input with
    | [] => some []
    | rest =>
      match readLine rest with
      | none => none
      | some (line, rest) =>
        match endLine? rest with
        | none => none
        | some rest => (readLines fuel rest).map (line :: ·)

/-- Fill the tables of a document line by line; `header` is the last one. -/
def fill (header : List String) : List Line → Members → Option Members
  | [], members => some members
  | .table keys :: rest, members => (openTable keys members).bind (fill keys rest)
  | .tables keys :: rest, members => (addTable keys members).bind (fill keys rest)
  | .assignment keys value :: rest, members =>
    (assignIn header keys value members).bind (fill header rest)

/-- The members of the table that a document spells, with whole numbers of any size, after a byte
order mark if there is one. -/
def spelled? (text : String) : Option (List (String × Value)) := do
  let chars := (Text.withoutByteOrderMark text).toList
  let lines ← readLines (chars.length + 1) chars
  let members ← fill [] lines []
  some (toValues members)

/-- The members of a document. One in which a whole number does not fit is refused. -/
def ofText? (text : String) : Option (List (String × Value)) := (spelled? text).filter membersFit

end EventLedger.Toml
