import EventLedger.Log.Line
import EventLedger.Uuid

/-!
# Writing a log

A line of a log is written as a JSON object, or as plain text with the level, the component, the
message and the details.
-/
namespace EventLedger.Log

/-- A control character in a JSON text. -/
def controlText (c : Char) : List Char :=
  if c = '\n' then ['\\', 'n']
  else if c = '\r' then ['\\', 'r']
  else if c = '\t' then ['\\', 't']
  else ['\\', 'u'] ++ Uuid.hexDigits 4 c.toNat

/-- A text as JSON writes it. -/
def jsonText (text : String) : String :=
  let inner := text.toList.flatMap fun c =>
    if c = '"' || c = '\\' then ['\\', c] else if c < ' ' then controlText c else [c]
  "\"" ++ String.ofList inner ++ "\""

/-- An object of members that are written already. -/
def jsonObject (members : List (String × String)) : String :=
  let parts := members.map fun (name, value) => jsonText name ++ ":" ++ value
  "\x7b" ++ ",".intercalate parts ++ "\x7d"

/-- Texts as an object. -/
def jsonFields (fields : Fields) : String :=
  jsonObject (fields.map fun (name, value) => (name, jsonText value))

namespace Line

/-- The line as a JSON object. -/
def json (line : Line) : String :=
  let span := match line.span with
    | none => []
    | some span => [("span", jsonFields (span.fields ++ [("name", span.name)]))]
  jsonObject ([("level", jsonText line.level.text),
    ("fields", jsonFields (("message", line.message) :: line.fields)),
    ("target", jsonText line.target)] ++ span)

/-- The line as plain text. -/
def plain (line : Line) : String :=
  let details := line.fields.map fun (name, value) => " " ++ name ++ "=" ++ value
  line.level.text ++ " " ++ line.target ++ ": " ++ line.message ++ String.join details

end Line

/-- The lines of a journal as they are written; plain text says nothing of the ends of spans. -/
def written (asJson : Bool) (filter : Filter) (journal : Journal) : List String :=
  if asJson then (lines filter journal).map Line.json
  else (journal.logs.filter filter.keeps).map fun record => (Line.ofRecord filter record).plain

end EventLedger.Log
