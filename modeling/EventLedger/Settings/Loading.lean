import EventLedger.DotEnv.Loading
import EventLedger.FileTree
import EventLedger.Json.Reader
import EventLedger.ServiceError
import EventLedger.Settings.Decoding
import EventLedger.Settings.Environment
import EventLedger.Settings.Legacy
import EventLedger.Settings.Path
import EventLedger.Settings.Validation
import EventLedger.Text.ByteOrderMark
import EventLedger.Toml.Document

/-!
# Loading settings

Settings come in layers, of which a later one is laid over those before it: the names of the
service and its environment, three files of one directory (for all, for the environment, for the
service), the variables of settings, and the legacy variables. Variables that the environment does
not have may come from a file in the working directory or above it. The files of settings are
written in TOML, or under a name that says so in another format: JSON, or one that is left open here
with its reader. A file that is missing says nothing; one that cannot be read is an error.
-/
namespace EventLedger.Settings

/-- The path of a file in a directory; an absolute path stays as it is. -/
def joinPath (directory name : String) : String :=
  if directory = "" || name.startsWith "/" then name else directory ++ "/" ++ name

/-- A format of files of settings that a library reads of which nothing is said here. -/
inductive ForeignFormat where
  /-- YAML. -/
  | yaml
  /-- INI. -/
  | ini
  /-- RON. -/
  | ron
  /-- JSON5. -/
  | json5
  deriving DecidableEq, Repr

/-- The formats of files of settings. -/
inductive FileFormat where
  /-- TOML. -/
  | toml
  /-- JSON. -/
  | json
  /-- Another one. -/
  | foreign (format : ForeignFormat)
  deriving DecidableEq, Repr

/-- All formats. -/
def FileFormat.all : List FileFormat :=
  [.toml, .json, .foreign .yaml, .foreign .ini, .foreign .ron, .foreign .json5]

/-- What the names of files in a format end with, in the order in which they are looked for. -/
def FileFormat.endings : FileFormat → List String
  | .toml => [".toml"]
  | .json => [".json"]
  | .foreign .yaml => [".yaml", ".yml"]
  | .foreign .ini => [".ini"]
  | .foreign .ron => [".ron"]
  | .foreign .json5 => [".json5"]

/-- The ending of the names by which files of settings are asked for. -/
def nameEnding : String := ".toml"

/-- How formats are looked for and read. Their table has no order of its own, so they come in any,
and a foreign format has any reader. -/
structure Formats where
  /-- The formats in the order in which they are looked for. -/
  order : List FileFormat
  /-- Each format is looked for once. -/
  complete : order.Perm FileFormat.all
  /-- The settings by name that a file in a foreign format spells. -/
  foreign? : ForeignFormat → String → Option (List (String × Tree))

namespace Formats

/-- The formats in the order of their list, of which no file in a foreign one can be read. -/
def native : Formats where
  order := FileFormat.all
  complete := .refl _
  foreign? _ _ := none

/-- The settings by name that a file in a format spells. -/
def read? (formats : Formats) : FileFormat → String → Option (List (String × Tree))
  | .toml, content => (Toml.ofText? content).map Tree.ofTomlMembers
  | .json, content =>
    match Json.Value.ofBytes? content.toUTF8.toList with
    | some (.object members) => some (Tree.ofJsonMembers members)
    | _ => none
  | .foreign format, content => formats.foreign? format content

end Formats

/-- A file whose name goes on after a path with the ending of a format. -/
def FileFormat.find? (files : FileTree) (path : String) (format : FileFormat) :
    Option (FileFormat × String) :=
  format.endings.findSome? fun ending =>
    (files.read? (path ++ ending)).map fun content => (format, content)

/-- A file of settings and its format. It is named with the ending of TOML. A file of just that
name has no format and says nothing; instead of a file that is missing there may be one with
the ending of any format after the first. -/
def findFile? (formats : Formats) (files : FileTree) (path : String) :
    Option (FileFormat × String) :=
  match files.read? path with
  | some content =>
    if (FileTree.parts path).getLast? = some nameEnding then none else some (.toml, content)
  | none => formats.order.findSome? (FileFormat.find? files path)

/-- The error of settings that cannot be read. -/
def unreadable : ServiceError := .unreadableSettings ""

/-- The settings of a file by name; none are in a file that is missing. -/
def fileLayer (formats : Formats) (files : FileTree) (path : String) :
    Except ServiceError (List (String × Tree)) :=
  match findFile? formats files path with
  | none => .ok []
  | some (format, content) =>
    match formats.read? format (Text.withoutByteOrderMark content) with
    | some settings => .ok settings
    | none => .error unreadable

/-- A tree with the settings of a layer laid over it. -/
def addLayer (tree : Tree) (layer : List (String × Tree)) : Tree :=
  layer.foldl (fun tree setting => tree.set setting.1 setting.2) tree

/-- The environment with the variables of the file for it. -/
def completeEnvironment (environment : Environment) (files : FileTree) : Environment :=
  match files.findUpwards? ".env" with
  | none => environment
  | some file => DotEnv.load environment file

/-- The name of the environment. -/
def environmentName (environment : Environment) : String :=
  (environment.find? "MINICHAT_ENV").getD "development"

/-- The path of a file of settings. -/
def filePath (environment : Environment) (name : String) : String :=
  joinPath ((environment.find? "CONFIG_DIR").getD "config") (name ++ nameEnding)

/-- The paths of the files of settings: for all, for the environment, for the service. -/
def filePaths (service : String) (environment : Environment) : List String :=
  ["default", environmentName environment, service].map (filePath environment)

/-- The tree of all layers but the legacy variables. -/
def layeredTree (formats : Formats) (service : String) (environment : Environment)
    (files : FileTree) : Except ServiceError Tree := do
  let names := addLayer .empty
    [("service_name", .text service), ("environment", .text (environmentName environment))]
  let layers ← (filePaths service environment).mapM (fileLayer formats files)
  return (layers ++ [environment.settings]).foldl addLayer names

/-- The settings of a tree, or the error of settings that cannot be read. -/
def readTree (tree : Tree) : Except ServiceError Settings :=
  match ofTree? tree with
  | some settings => .ok settings
  | none => .error unreadable

/-- Load the settings of a service. -/
def load (formats : Formats) (service : String) (environment : Environment) (files : FileTree) :
    Except ServiceError Settings := do
  let environment := completeEnvironment environment files
  let settings ← layeredTree formats service environment files >>= readTree
  let (settings, applied) := settings.applyLegacy environment.find?
  applied
  settings.validate
  return settings

end EventLedger.Settings
