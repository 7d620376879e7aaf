import EventLedger.Settings.Loading

/-!
# What layers say

What each layer says about a field, whatever the other layers say and whatever else it says itself.
The value of a field is given by the highest layer that mentions it.
-/
namespace EventLedger.Settings

/-- What a tree says at the end of a way of names; of several members of one name, the last one that
says something counts. -/
def Tree.said? : (keys : List String) → Tree → Option Tree
  | [], tree => some tree
  | key :: keys, tree =>
    tree.members.foldr
      (fun member later => later.or (if member.1 = key then said? keys member.2 else none)) none

/-- What the files say: that for all environments, that for one, and that of the service. -/
structure FileLayers where
  /-- The settings for all. -/
  forAll : List (String × Tree)
  /-- The settings for the environment. -/
  forEnvironment : List (String × Tree)
  /-- The settings of the service. -/
  forService : List (String × Tree)

/-- What the file at a path says. There is a file of this name, or there is none and one whose name
goes on with the ending once more. A file that is named by the ending alone says nothing. -/
inductive IsFileLayer (files : FileTree) (path : String) : List (String × Tree) → Prop
  /-- There is the file. -/
  | written {content : String} {members : List (String × Toml.Value)}
    (there : files.read? path = some content)
    (named : (FileTree.parts path).getLast? ≠ some nameEnding)
    (spells : Toml.ofText? (Text.withoutByteOrderMark content) = some members) :
    IsFileLayer files path (Tree.ofTomlMembers members)
  /-- There is the file, but its name is the ending alone. -/
  | unnamed {content : String} (there : files.read? path = some content)
    (named : (FileTree.parts path).getLast? = some nameEnding) :
    IsFileLayer files path []
  /-- There is none, but one with the ending once more. -/
  | doubled {content : String} {members : List (String × Toml.Value)}
    (missing : files.read? path = none)
    (there : files.read? (path ++ nameEnding) = some content)
    (spells : Toml.ofText? (Text.withoutByteOrderMark content) = some members) :
    IsFileLayer files path (Tree.ofTomlMembers members)
  /-- There is neither. -/
  | missing (first : files.read? path = none)
    (second : files.read? (path ++ nameEnding) = none) :
    IsFileLayer files path []

/-- There is no file in another format than TOML instead of the one at a path. -/
def IsAlone (files : FileTree) (path : String) : Prop :=
  ∀ format ∈ FileFormat.all, format ≠ .toml → format.find? files path = none

/-- The layers are what the files say. -/
structure FileLayers.AreOf (layers : FileLayers) (service : String) (environment : Environment)
    (files : FileTree) : Prop where
  /-- The file for all. -/
  forAll : IsFileLayer files (filePath environment "default") layers.forAll
  /-- The file for the environment. -/
  forEnvironment :
    IsFileLayer files (filePath environment (environmentName environment)) layers.forEnvironment
  /-- The file of the service. -/
  forService : IsFileLayer files (filePath environment service) layers.forService

namespace Field

/-- The legacy variable of a field, if it has one. -/
def legacy? (field : Field) : Option LegacyVariable :=
  LegacyVariable.all.find? fun origin => origin.field = field

/-- The text of the legacy variable of a field, unless it is empty. -/
def legacyText? (field : Field) (environment : Environment) : Option String :=
  (field.legacy?.bind fun origin => environment.find? origin.name).filter (· ≠ "")

/-- What the highest says about a field of its variable, the file of the service, the file for the
environment and the file for all. -/
def mention? (field : Field) (environment : Environment) (layers : FileLayers) : Option Tree :=
  ((environment.find? field.variableName).map Environment.leaf)
    |>.or ((Tree.table layers.forService).said? field.keys)
    |>.or ((Tree.table layers.forEnvironment).said? field.keys)
    |>.or ((Tree.table layers.forAll).said? field.keys)

/-- What the highest layer that mentions a field gives for it, if that can be converted. -/
def given? (field : Field) (service : String) (environment : Environment) (layers : FileLayers) :
    Option field.kind.Value :=
  match field.legacyText? environment with
  | some raw => field.kind.ofText? raw
  | none =>
    match field.mention? environment layers with
    | some tree => field.kind.ofTree? tree
    | none => some (field.value (.initial service (environmentName environment)))

end Field

/-! ## The documented spelling -/

/-- A way and a way of names part at a name. -/
def Apart : Path → (keys : List String) → Prop
  | .key name :: path, key :: keys => name ≠ key ∨ Apart path keys
  | _, _ => False

/-- What a file says behind a name is spelled as it is documented: for each field it is what stands
behind its name, or a section with it, which is a table, or has nothing to do with it. -/
def IsDocumented (name : String) (tree : Tree) : Prop :=
  ∀ field : Field, (field.section? = none ∧ name = field.name) ∨
    (field.section? = some name ∧ tree = .table tree.members) ∨
    Apart (Path.ofName name) field.keys

/-- The name of a variable is spelled as it is documented: for each field it is the name of its
variable, or has nothing to do with it. -/
def IsDocumentedName (name : String) : Prop :=
  ∀ path, Environment.settingName? name = some path → ∀ field : Field,
    name = field.variableName ∨ Apart (Path.ofName path) field.keys

/-- The sources of settings are what they are documented to be. -/
structure AreDocumented (service : String) (environment : Environment) (files : FileTree) :
    Prop where
  /-- Each variable is there once. -/
  once : (environment.map Prod.fst).Nodup
  /-- Their names are spelled as documented. -/
  names : ∀ name ∈ (completeEnvironment environment files).map Prod.fst, IsDocumentedName name
  /-- The files of settings are in TOML. -/
  formats : ∀ path ∈ filePaths service (completeEnvironment environment files),
    IsAlone files path
  /-- What they say is spelled as documented. -/
  members : ∀ path ∈ filePaths service (completeEnvironment environment files),
    ∀ layer, IsFileLayer files path layer →
      ∀ member ∈ layer, IsDocumented member.1 member.2

end EventLedger.Settings
