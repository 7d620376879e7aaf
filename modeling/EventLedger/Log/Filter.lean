import EventLedger.Log.Directive
import EventLedger.Log.Threshold

/-!
# Log filters

A filter is a list of directives. A record is kept if the most particular directive about its
component keeps its level, or if it is said in a span about which a directive keeps its level; a
span is kept likewise.
-/
namespace EventLedger.Log

/-- Directives, the most particular ones first. -/
structure Filter where
  /-- The directives about records. -/
  records : List Directive
  /-- The directives about spans. -/
  spans : List Directive
  deriving DecidableEq, Repr

namespace Filter

/-- The filter of directives. -/
def ofDirectives (directives : List Directive) : Filter :=
  let (spans, others) := directives.partition Directive.looksAtSpans
  let records := others ++ spans.filterMap Directive.onRecords?
  { records := records.foldl (fun found directive => directive.insert found) []
    spans := spans.foldl (fun found directive => directive.insert found) [] }

/-- The filter that directives with commas between them spell. -/
def ofText? (text : String) : Option Filter :=
  let parts := (text.splitOn ",").filter (· != "")
  (parts.mapM Directive.ofText?).map ofDirectives

/-- The text of a filter. -/
def text (filter : Filter) : String :=
  ",".intercalate ((filter.records ++ filter.spans).map Directive.text)

/-- The filter of the environment, else of the setting. -/
def choose (variableText : Option String) (setting : String) : Filter :=
  match variableText.bind ofText? with
  | some filter => filter
  | none => (ofText? (normalizeThreshold setting)).getD { records := [], spans := [] }

/-- Whether a component's name begins as a directive says. -/
def isAbout (directive : Directive) (target : String) : Bool :=
  match directive.target with
  | none => true
  | some start => target.startsWith start

/-- Whether the fields of a record or a span have the field of a directive. -/
def hasField (directive : Directive) (fields : Fields) : Bool :=
  match directive.field with
  | none => true
  | some { name, value := none } => (fields.lookup name).isSome
  | some { name, value := some value } => (fields.lookup name).any value.isOf

/-- Whether a directive is about a span. -/
def isAboutSpan (directive : Directive) (span : Span) : Bool :=
  isAbout directive span.target && (directive.span.getD span.name == span.name) &&
    hasField directive span.fields

/-- Whether a directive about spans keeps a level in a span. -/
def keepsInSpan (filter : Filter) (level : Level) (span : Span) : Bool :=
  filter.spans.any fun directive => isAboutSpan directive span && directive.threshold.keeps level

/-- Whether the most particular directive about a component keeps a level. -/
def keepsOf (filter : Filter) (level : Level) (target : String) (isWanted : Directive → Bool) :
    Bool :=
  match filter.records.find? fun directive => isAbout directive target && isWanted directive with
  | none => false
  | some directive => directive.threshold.keeps level

/-- Whether a span is kept, which is work at level `info`. -/
def keepsSpan (filter : Filter) (span : Span) : Bool :=
  filter.keepsInSpan .info span || filter.keepsOf .info span.target fun _ => true

/-- Whether a record is kept. -/
def keeps (filter : Filter) (record : Record) : Bool :=
  (record.span.map (filter.keepsInSpan record.level)).getD false ||
    filter.keepsOf record.level record.target fun directive => hasField directive record.fields

end Filter

end EventLedger.Log
