import EventLedger.Settings.Field

/-!
# Settings of a tree

Each field takes its value from the tree, converted to its kind. A section is a table with the
names of its fields, or an array with their values in order; what it does not say keeps its value,
and what has no field is ignored.
-/
namespace EventLedger.Settings

/-- How the settings take what stands behind a name. -/
structure Entry where
  /-- The name. -/
  name : String
  /-- The settings with it, if it can be converted. -/
  assign : Tree → Settings → Option Settings

/-- The entry of a field. -/
def fieldEntry (field : Field) : Entry :=
  { name := field.name
    assign := fun tree settings => (field.kind.ofTree? tree).map (field.set settings) }

/-- What stands behind the names of entries. -/
def assignNamed (members : List (String × Tree)) : List Entry → Settings → Option Settings
  | [], found => some found
  | entry :: rest, found =>
    match members.lookup entry.name with
    | none => assignNamed members rest found
    | some tree => (entry.assign tree found).bind (assignNamed members rest)

/-- What stands in the order of entries. -/
def assignInOrder : List Entry → List Tree → Settings → Option Settings
  | entry :: entries, tree :: trees, found =>
    (entry.assign tree found).bind (assignInOrder entries trees)
  | _, _, found => some found

/-- What a tree says about entries, over what holds before. -/
def readEntries (entries : List Entry) (tree : Tree) (before : Settings) : Option Settings :=
  match tree with
  | .table members => assignNamed members entries before
  | .array trees => assignInOrder entries trees before
  | _ => none

/-- The entry of a section with its fields. -/
def sectionEntry (name : String) (fields : List Field) : Entry :=
  { name, assign := readEntries (fields.map fieldEntry) }

/-- The sections with their fields. -/
def sections : List (String × List Field) :=
  [("database", [.databaseUrl, .maxConnections, .minConnections, .connectTimeout, .idleTimeout,
      .pingTimeout]),
    ("rabbitmq", [.brokerUrl, .usageQueue, .auditQueue, .prefetch]),
    ("worker", [.retryDelay, .handleTimeout]),
    ("observability", [.logLevel, .logFormat, .metricsEnabled, .metricsPort])]

/-- All entries. -/
def entries : List Entry :=
  [fieldEntry .serviceName, fieldEntry .environment] ++
    sections.map fun (name, fields) => sectionEntry name fields

/-- The settings of a tree. -/
def ofTree? (tree : Tree) : Option Settings := readEntries entries tree (.initial "" "")

end EventLedger.Settings
