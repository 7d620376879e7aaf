import EventLedger.Json.Reader
import EventLedger.Json.Skip

/-!
# Records

A record is a document with known fields, each of a kind. It is written as an object, in which
members with other keys are skipped and no known key occurs twice, or as an array of the fields in
their order, of which the last ones may be missing. A field that is missing or null has no value.
-/
namespace EventLedger.Json

/-- What a field holds. -/
inductive FieldKind where
  /-- A text. -/
  | text
  /-- A whole number of 64 bits with sign. -/
  | count
  /-- Any value. -/
  | tree
  deriving DecidableEq, Repr

/-- The value of a field, none for null. -/
inductive Field where
  /-- A text. -/
  | text (value : Option String)
  /-- A whole number of 64 bits with sign. -/
  | count (value : Option Int)
  /-- Any value. -/
  | tree (value : Option Value)
  deriving Repr

/-- The names and kinds of the fields, in order. -/
abbrev Schema := List (String × FieldKind)

/-- The fields that a document has. -/
abbrev Record := List (String × Field)

/-- The nesting allowed in a value of a record, whose own container is one level more. -/
def nestingLimit : Nat := 126

/-- A field of a kind without value. -/
def FieldKind.null : FieldKind → Field
  | .text => .text none
  | .count => .count none
  | .tree => .tree none

/-- Read the value of a field. -/
def readField (kind : FieldKind) (input : Bytes) : Option (Field × Bytes) :=
  match skipSpace input with
  | [] => none
  | b :: rest =>
    if b = byte 'n' then (skipWord? "ull".toList rest).map fun rest => (kind.null, rest)
    else
      match kind with
      | .text => (readText (b :: rest)).map fun (text, rest) => (.text (some text), rest)
      | .count => (readInt64 (b :: rest)).map fun (value, rest) => (.count (some value), rest)
      | .tree =>
        (readValue (rest.length + 1) nestingLimit (b :: rest)).map fun (value, rest) =>
          (.tree (some value), rest)

/-- Read the value of a member: of a known one that has not been read yet, or of an unknown one,
which adds nothing. -/
def readMemberValue (schema : Schema) (key : String) (found : Record) (input : Bytes) :
    Option (Record × Bytes) :=
  match schema.lookup key with
  | none => (skipValue input).map fun rest => (found, rest)
  | some kind =>
    if (found.lookup key).isSome then none
    else (readField kind input).map fun (field, rest) => ((key, field) :: found, rest)

/-- Read one or more members up to the end of the object; `fuel` bounds their number. -/
def readRecordMembers (schema : Schema) : (fuel : Nat) → Record → Bytes → Option (Record × Bytes)
  | 0, _, _ => none
  | fuel + 1, found, input =>
    match readText (skipSpace input) with
    | none => none
    | some (key, rest) =>
      match skipSpace rest with
      | [] => none
      | colon :: rest =>
        if colon = byte ':' then
          match readMemberValue schema key found rest with
          | none => none
          | some (found, rest) =>
            match skipSpace rest with
            | [] => none
            | b :: rest =>
              if b = byte '}' then some (found, rest)
              else if b = byte ',' then readRecordMembers schema fuel found rest
              else none
        else none

/-- Read fields by position up to the end of the array; from the second field on a comma comes
first. -/
def readPositions : Schema → (first : Bool) → Record → Bytes → Option (Record × Bytes)
  | [], _, found, input =>
    match skipSpace input with
    | [] => none
    | b :: rest => if b = byte ']' then some (found, rest) else none
  | (name, kind) :: schema, first, found, input =>
    match skipSpace input with
    | [] => none
    | b :: rest =>
      if b = byte ']' then some (found, rest)
      else
        let value? := if first then some (b :: rest) else if b = byte ',' then some rest else none
        match value?.bind (readField kind) with
        | none => none
        | some (field, rest) => readPositions schema false ((name, field) :: found) rest

/-- Read the object or array of a record. -/
def readRecord (schema : Schema) (input : Bytes) : Option (Record × Bytes) :=
  match skipSpace input with
  | [] => none
  | b :: rest =>
    if b = byte '{' then
      match skipSpace rest with
      | [] => none
      | b :: rest =>
        if b = byte '}' then some ([], rest)
        else readRecordMembers schema (rest.length + 1) [] (b :: rest)
    else if b = byte '[' then readPositions schema true [] rest
    else none

/-- The record of a whole document, which only blanks may surround. -/
def Record.ofDocument (schema : Schema) (document : Bytes) : Option Record :=
  match readRecord schema document with
  | none => none
  | some (record, rest) => if (skipSpace rest).isEmpty then some record else none

namespace Record

/-- The text of a field, if it has one. -/
def text? (record : Record) (name : String) : Option String :=
  match record.lookup name with
  | some (.text value) => value
  | _ => none

/-- The whole number of a field, if it has one. -/
def count? (record : Record) (name : String) : Option Int :=
  match record.lookup name with
  | some (.count value) => value
  | _ => none

/-- The value of a field, if it has one. -/
def tree? (record : Record) (name : String) : Option Value :=
  match record.lookup name with
  | some (.tree value) => value
  | _ => none

end Record

end EventLedger.Json
