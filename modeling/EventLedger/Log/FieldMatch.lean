import EventLedger.Binary64.Reading
import EventLedger.Binary64.Shortest
import EventLedger.Text.Digits

/-!
# Fields in a log filter

A directive may name a field, and a value that the field must have. The value is a truth value or a
number if it is written as one, and the text of the field otherwise. Fields are ordered: one with a
value after one without, then by name, then by the kind of value, then by the value.
-/
namespace EventLedger.Log

/-- A value that a field must have. -/
inductive FieldValue where
  /-- A truth value. -/
  | truth (value : Bool)
  /-- A number that is not whole, or too large for a word. -/
  | double (value : Binary64)
  /-- No number. -/
  | nan
  /-- A whole number without sign. -/
  | word (value : Nat)
  /-- A whole number with a minus sign. -/
  | integer (value : Int)
  /-- A text. -/
  | text (value : String)
  deriving DecidableEq, Repr

namespace FieldValue

/-- The value of a number that is not whole. -/
def ofDouble (value : Binary64) : FieldValue := if value.isNaN then .nan else .double value

/-- The number that is written, if one is. -/
def number? (written : String) : Option FieldValue :=
  let word := (Text.unsigned? Word.greatest written).map FieldValue.word
  let integer := (Text.signed64? written).map FieldValue.integer
  let double := (Binary64.ofText? written).map FieldValue.ofDouble
  (word.or integer).or double

/-- The value that is written. -/
def ofText (written : String) : FieldValue :=
  if written = "true" then .truth true
  else if written = "false" then .truth false
  else (number? written).getD (.text written)

/-- The text of a value: truth values and numbers are written in their own way. -/
def shown : FieldValue → String
  | .truth value => if value then "true" else "false"
  | .double value => value.text
  | .nan => "NaN"
  | .word value => toString value
  | .integer value => toString value
  | .text value => value

/-- The place of the kind of a value among the kinds. -/
def kindRank : FieldValue → Nat
  | .truth _ => 0
  | .double _ => 1
  | .nan => 2
  | .word _ => 3
  | .integer _ => 4
  | .text _ => 5

/-- How a value is ordered with another one. -/
def order : FieldValue → FieldValue → Ordering
  | .truth first, .truth second => compareOfLessAndEq first.toNat second.toNat
  | .double first, .double second => compareOfLessAndEq first.position second.position
  | .word first, .word second => compareOfLessAndEq first second
  | .integer first, .integer second => compareOfLessAndEq first second
  | .text first, .text second => compareOfLessAndEq first second
  | first, second => compareOfLessAndEq first.kindRank second.kindRank

/-- Whether a field with a text has the value. The fields of spans are texts, so only a text is the
value of one. -/
def isOf (value : FieldValue) (text : String) : Bool := value = .text text

end FieldValue

/-- A field that a span must have, and the value that it must have. -/
structure FieldMatch where
  /-- The name of the field. -/
  name : String
  /-- The value that it must have, if that matters. -/
  value : Option FieldValue
  deriving DecidableEq, Repr

namespace FieldMatch

/-- The field of a text with an optional value after an equals sign. -/
def ofText (text : String) : FieldMatch :=
  match text.splitOn "=" with
  | name :: value :: _ => { name, value := some (.ofText value) }
  | _ => { name := text, value := none }

/-- The text of a field. -/
def text (field : FieldMatch) : String :=
  match field.value with
  | none => field.name
  | some value => field.name ++ "=" ++ value.shown

/-- How two values are ordered of which both or none are there. -/
def orderValues : Option FieldValue → Option FieldValue → Ordering
  | some first, some second => first.order second
  | _, _ => .eq

/-- How a field is ordered with another one. -/
def order (first second : FieldMatch) : Ordering :=
  (compareOfLessAndEq first.value.isSome.toNat second.value.isSome.toNat).then <|
    (compareOfLessAndEq first.name second.name).then <| orderValues first.value second.value

end FieldMatch

end EventLedger.Log
