import EventLedger.Log
import EventLedger.Log.FieldMatch
import EventLedger.Text.Alphanumeric
import EventLedger.Text.Blank

/-!
# Directives of a log filter

A directive says down to which level records are kept: of every component, of those whose name
begins with a target, and of those within spans of a name or with a field. A target without a level
keeps everything, and a text that is no level is a target. The parts of a directive are found in
its text without surrounding blanks, and cut out of the text at the same positions with them.
-/
namespace EventLedger.Log

/-- How many levels are kept, from none to all five. -/
structure Threshold where
  /-- The rank of the last level that is kept. -/
  rank : Nat
  deriving DecidableEq, Repr

namespace Threshold

/-- Everything is kept. -/
def all : Threshold := ⟨5⟩

/-- Whether a level is kept. -/
def keeps (threshold : Threshold) (level : Level) : Bool := level.rank ≤ threshold.rank

/-- The words for the thresholds, by rank. -/
def words : List String := ["off", "error", "warn", "info", "debug", "trace"]

/-- The word for a threshold. -/
def text (threshold : Threshold) : String := (words[threshold.rank]?).getD "trace"

/-- The threshold that a word in any case or a number stands for; the empty word is `error`. -/
def ofText? (word : String) : Option Threshold :=
  let numbered := (Text.unsigned? Word.greatest word).filter (· ≤ 5)
  let lower := String.ofList (word.toList.map Char.toLower)
  let named := if word = "" then some 1 else words.findIdx? (· == lower)
  (numbered.or named).map Threshold.mk

end Threshold

/-- What is kept of some records. -/
structure Directive where
  /-- The last level that is kept. -/
  threshold : Threshold
  /-- How the names of the components begin. -/
  target : Option String
  /-- The name of the spans. -/
  span : Option String
  /-- A field of the spans. -/
  field : Option FieldMatch
  deriving DecidableEq, Repr

namespace Directive

/-- The part of a directive that is being read, and where it begins. -/
inductive Part where
  /-- Nothing yet. -/
  | start
  /-- A level or a target. -/
  | levelOrTarget (start : Nat)
  /-- The name of a span. -/
  | span (start : Nat)
  /-- A field. -/
  | field (start : Nat)
  /-- The end of the fields. -/
  | fields
  /-- The end of the target. -/
  | target
  /-- A level. -/
  | level (start : Nat)
  deriving DecidableEq, Repr

/-- A directive about everything. -/
def everything : Directive := { threshold := .all, target := none, span := none, field := none }

/-- The characters of a text between two positions. -/
def slice (text : List Char) (start stop : Nat) : String :=
  String.ofList ((text.take stop).drop start)

/-- Whether a directive may begin with a character. -/
def begins (c : Char) : Bool := c = '-' || c = ':' || c = '_' || Text.isAlphanumeric c

/-- The part and the directive after the character at a position. -/
def next (text : List Char) (position : Nat) (c : Char) :
    Part → Directive → Option (Part × Directive)
  | .start, found =>
    if c = '[' then some (.span (position + 1), found)
    else if begins c then some (.levelOrTarget position, found)
    else none
  | .levelOrTarget start, found =>
    if c = '=' then
      some (.level (position + 1), { found with target := some (slice text start position) })
    else if c = '[' then
      some (.span (position + 1), { found with target := some (slice text start position) })
    else some (.levelOrTarget start, found)
  | .span start, found =>
    if c = ']' then some (.target, { found with span := some (slice text start position) })
    else if c = '\x7b' then
      let name := slice text start position
      some (.field (position + 1), { found with span := if name = "" then none else some name })
    else some (.span start, found)
  | .field start, found =>
    if c = '\x7d' then
      let name := slice text start position
      if name = "" then none
      else some (.fields, { found with field := some (.ofText name) })
    else some (.field start, found)
  | .fields, found => if c = ']' then some (.target, found) else none
  | .target, found => if c = '=' then some (.level (position + 1), found) else none
  | .level start, found => some (.level start, found)

/-- The directive at the end of a text. -/
def finish (text : List Char) : Part → Directive → Option Directive
  | .levelOrTarget start, found =>
    let word := slice text start text.length
    if word = "" then some { found with threshold := .all, target := none }
    else
      match Threshold.ofText? word with
      | some threshold => some { found with threshold, target := none }
      | none => some { found with threshold := .all, target := some word }
  | .level start, found =>
    let word := slice text start text.length
    if word = "" then some { found with threshold := .all }
    else (Threshold.ofText? word).map fun threshold => { found with threshold }
  | .target, found => some found
  | _, _ => none

/-- Read a directive from a position on. -/
def readFrom (text : List Char) (position : Nat) (part : Part) (found : Directive) :
    List Char → Option Directive
  | [] => finish text part found
  | c :: rest =>
    match next text position c part found with
    | none => none
    | some (part, found) => readFrom text (position + 1) part found rest

/-- The directive that a text spells. -/
def ofText? (text : String) : Option Directive :=
  readFrom text.toList 0 .start everything (Text.trim text).toList

/-- Whether the directive looks at spans. -/
def looksAtSpans (directive : Directive) : Bool :=
  directive.span.isSome || directive.field.isSome

/-- The directive about records that it is without its look at spans: none if a span's name or a
field's value matters. -/
def onRecords? (directive : Directive) : Option Directive :=
  if directive.span.isSome then none
  else
    match directive.field with
    | some { value := some _, .. } => none
    | _ => some directive

/-- The text of a directive. -/
def text (directive : Directive) : String :=
  let field := match directive.field with
    | none => ""
    | some field => "\x7b" ++ field.text ++ "\x7d"
  let spans := if directive.looksAtSpans then "[" ++ directive.span.getD "" ++ field ++ "]" else ""
  let about := directive.target.getD "" ++ spans
  let isAbout := directive.target.isSome || directive.looksAtSpans
  (if isAbout then about ++ "=" else "") ++ directive.threshold.text

/-- The length of the target, and zero if there is none. -/
def targetSize (directive : Directive) : Nat :=
  match directive.target with
  | none => 0
  | some target => target.utf8ByteSize + 1

/-- How two fields are ordered of which both or none are there. -/
def orderFields : Option FieldMatch → Option FieldMatch → Ordering
  | some first, some second => first.order second
  | _, _ => .eq

/-- How a directive is ordered with another one by how particular the records are that it is
about. -/
def orderParticular (first second : Directive) : Ordering :=
  (compareOfLessAndEq first.targetSize second.targetSize).then <|
    (compareOfLessAndEq first.span.isSome.toNat second.span.isSome.toNat).then <|
      compareOfLessAndEq first.field.isSome.toNat second.field.isSome.toNat

/-- How a directive is ordered with an equally particular one. -/
def orderTexts (first second : Directive) : Ordering :=
  (compareOfLessAndEq (first.target.getD "") (second.target.getD "")).then <|
    (compareOfLessAndEq (first.span.getD "") (second.span.getD "")).then <|
      orderFields first.field second.field

/-- How a directive is ordered with another one. Two that are equal are about the same records. -/
def order (first second : Directive) : Ordering :=
  (first.orderParticular second).then (first.orderTexts second)

/-- Put a directive among ordered ones, the greatest of which goes first, in place of an equal
one. -/
def insert (directive : Directive) : List Directive → List Directive
  | [] => [directive]
  | other :: rest =>
    match directive.order other with
    | .eq => directive :: rest
    | .gt => directive :: other :: rest
    | .lt => other :: insert directive rest

end Directive

end EventLedger.Log
