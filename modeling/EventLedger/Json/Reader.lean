import EventLedger.Json.Number
import EventLedger.Json.Text

/-!
# Values that are read

A value is read with a bound on the nesting of arrays and objects in it. A document is one value
with nothing but blanks around it. An object whose first key is the embedding one stands for a
document of its own, which it holds as a text: what is read is the value of that document, not the
object.
-/
namespace EventLedger.Json

/-- The nesting allowed in a document. -/
def documentNesting : Nat := 127

/-- The value of a document, after which only blanks may come. -/
def whole? : Option (Value × Bytes) → Option Value
  | none => none
  | some (value, rest) => if (skipSpace rest).isEmpty then some value else none

/-- The key of an object that stands for a document in a text. -/
def embeddingKey : String := "$serde_json::private::RawValue"

/-- Whether the members of an object begin with the embedding key, escapes being resolved. -/
def beginsEmbedding (input : Bytes) : Bool :=
  match readText input with
  | none => false
  | some (key, _) => key = embeddingKey

/-- Read the text of an object whose only member it is, from the key to the end of the object. -/
def readEmbedded (input : Bytes) : Option (String × Bytes) :=
  match readText input with
  | none => none
  | some (_, rest) =>
    match skipSpace rest with
    | [] => none
    | colon :: rest =>
      if colon = byte ':' then
        match readText (skipSpace rest) with
        | none => none
        | some (content, rest) =>
          match skipSpace rest with
          | [] => none
          | b :: rest => if b = byte '}' then some (content, rest) else none
      else none

mutual

/-- Read a value with at most `depth` levels of containers; `fuel` bounds the values in it. -/
def readValue : (fuel depth : Nat) → Bytes → Option (Value × Bytes)
  | 0, _, _ => none
  | fuel + 1, depth, input =>
    match skipSpace input with
    | [] => none
    | b :: rest =>
      if b = byte '"' then (readTextTail rest).map fun (text, rest) => (.text text, rest)
      else if b = byte 'n' then (skipWord? "ull".toList rest).map fun rest => (.null, rest)
      else if b = byte 't' then (skipWord? "rue".toList rest).map fun rest => (.bool true, rest)
      else if b = byte 'f' then (skipWord? "alse".toList rest).map fun rest => (.bool false, rest)
      else if b = byte '[' then
        match depth with
        | 0 => none
        | depth + 1 =>
          match skipSpace rest with
          | [] => none
          | b :: rest =>
            if b = byte ']' then some (.array [], rest)
            else (readItems fuel depth (b :: rest)).map fun (items, rest) => (.array items, rest)
      else if b = byte '{' then
        match depth with
        | 0 => none
        | depth + 1 =>
          match skipSpace rest with
          | [] => none
          | b :: rest =>
            if b = byte '}' then some (.object [], rest)
            else if beginsEmbedding (b :: rest) then
              -- The nesting is counted anew in the document.
              match readEmbedded (b :: rest) with
              | none => none
              | some (content, rest) =>
                (whole? (readValue fuel documentNesting (Text.Utf8.encode content))).map
                  fun value => (value, rest)
            else
              (readMembers fuel depth (b :: rest)).map fun (members, rest) =>
                (.ofMembers members, rest)
      else (readNumber (b :: rest)).map fun (number, rest) => (.number number, rest)

/-- Read one or more values between commas up to the end of an array. -/
def readItems : (fuel depth : Nat) → Bytes → Option (List Value × Bytes)
  | 0, _, _ => none
  | fuel + 1, depth, input =>
    match readValue fuel depth input with
    | none => none
    | some (item, rest) =>
      match skipSpace rest with
      | [] => none
      | b :: rest =>
        if b = byte ']' then some ([item], rest)
        else if b = byte ',' then
          (readItems fuel depth rest).map fun (items, rest) => (item :: items, rest)
        else none

/-- Read one or more members between commas up to the end of an object. -/
def readMembers : (fuel depth : Nat) → Bytes → Option (List (String × Value) × Bytes)
  | 0, _, _ => none
  | fuel + 1, depth, input =>
    match readText (skipSpace input) with
    | none => none
    | some (key, rest) =>
      match skipSpace rest with
      | [] => none
      | colon :: rest =>
        if colon = byte ':' then
          match readValue fuel depth rest with
          | none => none
          | some (value, rest) =>
            match skipSpace rest with
            | [] => none
            | b :: rest =>
              if b = byte '}' then some ([(key, value)], rest)
              else if b = byte ',' then
                (readMembers fuel depth rest).map fun (members, rest) =>
                  ((key, value) :: members, rest)
              else none
        else none

end

/-- The value that a document spells. -/
def Value.ofBytes? (document : Bytes) : Option Value :=
  whole? (readValue (document.length + 1) documentNesting document)

end EventLedger.Json
