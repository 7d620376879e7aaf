import EventLedger.DotEnv.Lines
import EventLedger.Text.Alphanumeric

/-!
# Entries of a file of variables

An entry is a name, an equals sign and a value, which the word `export` may precede. In a value, a
dollar sign begins the name of a variable whose value stands there, unless it is escaped or between
single quotes: letters and digits up to another character, or everything between braces. A value
ends at a blank outside of quotes, after which only blanks and a comment may come.
-/
namespace EventLedger.DotEnv

open Text (isBlank trimLeft trimRight)

/-- Whether a name may begin with a character. -/
def beginsName (c : Char) : Bool := c.isAlpha || c = '_'

/-- Whether a character may stand in a name. -/
def isNameChar (c : Char) : Bool := c.isAlphanum || c = '_' || c = '.'

/-- The name at the front. -/
def takeName? : List Char → Option (List Char × List Char)
  | [] => none
  | c :: rest =>
    if beginsName c then some (c :: rest.takeWhile isNameChar, rest.dropWhile isNameChar)
    else none

/-- What is known of a variable that is being read in a value. -/
inductive Reference where
  /-- None is being read. -/
  | none
  /-- Its name so far, up to a character that belongs to no name. -/
  | bare (name : List Char)
  /-- Its name so far, up to a closing brace. -/
  | braced (name : List Char)
  deriving DecidableEq, Repr

/-- How far a value has been read. -/
structure ValueState where
  /-- Whether single quotes are open. -/
  single : Bool
  /-- Whether double quotes are open. -/
  double : Bool
  /-- Whether a backslash came before. -/
  escaped : Bool
  /-- Whether the value has ended. -/
  ended : Bool
  /-- The variable being read. -/
  reference : Reference
  /-- The value so far. -/
  output : List Char

/-- The beginning of a value. -/
def ValueState.start : ValueState :=
  { single := false, double := false, escaped := false, ended := false, reference := .none,
    output := [] }

/-- The state with more of the value. -/
def ValueState.push (state : ValueState) (chars : List Char) : ValueState :=
  { state with output := state.output ++ chars }

/-- What an escaped character stands for. -/
def escapedChar? (c : Char) : Option Char :=
  if c = '\\' || c = '\'' || c = '"' || c = '$' || c = ' ' then some c
  else if c = 'n' then some '\n'
  else none

/-- The state after a character that follows no backslash and belongs to no variable. -/
def ValueState.plain (state : ValueState) (c : Char) : ValueState :=
  if c = '$' then { state with reference := .bare [] }
  else if state.double then
    if c = '"' then { state with double := false }
    else if c = '\\' then { state with escaped := true }
    else state.push [c]
  else if c = '\'' then { state with single := true }
  else if c = '"' then { state with double := true }
  else if c = '\\' then { state with escaped := true }
  else if c = ' ' || c = '\t' then { state with ended := true }
  else state.push [c]

/-- The state after a character while a variable is read. -/
def ValueState.refer (lookup : List Char → List Char) (state : ValueState) (c : Char) :
    ValueState :=
  match state.reference with
  | .none => state.plain c
  | .bare name =>
    if Text.isAlphanumeric c then { state with reference := .bare (name ++ [c]) }
    else if c = '\x7b' && name.isEmpty then { state with reference := .braced [] }
    else
      let done := state.push (lookup name)
      if c = '$' then { done with reference := .bare [] }
      else { done with reference := .none, output := done.output ++ [c] }
  | .braced name =>
    if c = '\x7d' then { state.push (lookup name) with reference := .none }
    else { state with reference := .braced (name ++ [c]) }

/-- The value, if nothing more comes; none if something in it is left open. -/
def ValueState.finish (lookup : List Char → List Char) (state : ValueState) : Option (List Char) :=
  if state.single || state.double then none
  else
    match state.reference with
    | .none => some state.output
    | .bare name => some (state.output ++ lookup name)
    | .braced _ => none

/-- Read a value to its end; none if something in it makes no sense or is left open. -/
def readValue (lookup : List Char → List Char) (state : ValueState) :
    List Char → Option (List Char)
  | [] => state.finish lookup
  | c :: rest =>
    if state.ended then
      if c = ' ' || c = '\t' then readValue lookup state rest
      else if c = '#' then state.finish lookup
      else none
    else if state.escaped then
      match escapedChar? c with
      | none => none
      | some plain => readValue lookup { state.push [plain] with escaped := false } rest
    else if state.single then
      readValue lookup (if c = '\'' then { state with single := false } else state.push [c]) rest
    else readValue lookup (state.refer lookup c) rest

/-- A variable of an entry, without a value if there is none after the equals sign. -/
structure Variable where
  /-- Its name. -/
  name : String
  /-- Its value. -/
  value : Option String
  deriving DecidableEq, Repr

/-- The value after an equals sign. -/
def readAssigned (lookup : List Char → List Char) (name : List Char) (rest : List Char) :
    Option Variable :=
  match trimLeft rest with
  | [] | '#' :: _ => some { name := String.ofList name, value := none }
  | text =>
    (readValue lookup .start text).map fun value =>
      { name := String.ofList name, value := some (String.ofList value) }

/-- What follows a name that must have an equals sign after it. -/
def readNamed (lookup : List Char → List Char) (text : List Char) : Option Variable :=
  match takeName? text with
  | none => none
  | some (name, rest) =>
    match trimLeft rest with
    | '=' :: rest => readAssigned lookup name rest
    | _ => none

/-- What an entry says: nothing, or a variable. None if it makes no sense. -/
def readEntry (lookup : List Char → List Char) (entry : List Char) : Option (Option Variable) :=
  match trimLeft (trimRight entry) with
  | [] | '#' :: _ => some none
  | text =>
    match takeName? text with
    | none => none
    | some (name, rest) =>
      match trimLeft rest with
      | '=' :: rest => (readAssigned lookup name rest).map some
      | rest =>
        if name = "export".toList then (readNamed lookup rest).map some else none

end EventLedger.DotEnv
