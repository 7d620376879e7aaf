import EventLedger.Proofs.Precedence

/-!
# The layer that decides about a field

Of all members of all layers that say something about a field the last one decides, whatever those
before it say, be it that they can be read or not. The members after it lead elsewhere, or are the
section of the field without the field.
-/
namespace EventLedger.Settings

open EventLedger.Settings.Path (ofName)

namespace Field

/-! ## Members -/

/-- A member of a layer gives a field a leaf. -/
inductive IsGiven (field : Field) : String × Tree → Tree → Prop where
  /-- It leads to the field. -/
  | own {name : String} {leaf : Tree} (leads : ofName name = field.keys.map .key) :
    field.IsGiven (name, leaf) leaf
  /-- It leads to the section of the field, and the field is in it. -/
  | inSection {name key : String} {tree leaf : Tree} (belongs : field.section? = some key)
    (leads : ofName name = [.key key]) (held : tree.said? [field.name] = some leaf) :
    field.IsGiven (name, tree) leaf

/-- A member of a layer has nothing to do with a field. -/
inductive IsPassed (field : Field) : String × Tree → Prop where
  /-- It leads elsewhere. -/
  | elsewhere {name : String} {tree : Tree} (apart : Apart (ofName name) field.keys) :
    field.IsPassed (name, tree)
  /-- It leads to the section of the field, and the field is not in it. -/
  | inSection {name key : String} {members : List (String × Tree)}
    (belongs : field.section? = some key) (leads : ofName name = [.key key])
    (held : (Tree.table members).said? [field.name] = none) :
    field.IsPassed (name, .table members)

/-- The last member of a layer that has to do with a field gives it a leaf. -/
def IsLastGiven (field : Field) (layer : List (String × Tree)) (leaf : Tree) : Prop :=
  ∃ before member after, layer = before ++ member :: after ∧ field.IsGiven member leaf ∧
    ∀ later ∈ after, field.IsPassed later

variable {field : Field}

/-- What follows changes nothing if it has nothing to do with the field. -/
theorem IsLastGiven.append {layer : List (String × Tree)} {leaf : Tree}
    (last : field.IsLastGiven layer leaf) (earlier : List (String × Tree))
    {more : List (String × Tree)} (passed : ∀ later ∈ more, field.IsPassed later) :
    field.IsLastGiven (earlier ++ layer ++ more) leaf := by
  obtain ⟨before, member, after, rfl, given, rest⟩ := last
  refine ⟨earlier ++ before, member, after ++ more, by simp, given, ?_⟩
  exact List.forall_mem_append.mpr ⟨rest, passed⟩

/-! ## Trees -/

/-- What stands at the place of a field is converted as a leaf is, and its section is a table. -/
structure Holds (field : Field) (leaf : Tree) (tree : Tree) : Prop where
  /-- What stands there. -/
  place : (tree.at? field.keys).map field.kind.ofTree? = some (field.kind.ofTree? leaf)
  /-- The section. -/
  isTable : field.HasTable tree

/-- A section that says something about a name is a table. -/
theorem eq_table_of_said? {tree leaf : Tree} {key : String} (held : tree.said? [key] = some leaf) :
    tree = .table tree.members := by
  cases tree with
  | table members => rfl
  | _ => cases held

/-- After a member that gives a leaf, the leaf is there. -/
theorem IsGiven.holds {member : String × Tree} {leaf : Tree} (given : field.IsGiven member leaf)
    (tree : Tree) : field.Holds leaf (tree.set member.1 member.2) := by
  have replaces := field.kind.replaces
  cases given with
  | own leads =>
    refine ⟨Tree.at?_set_end leads replaces tree leaf, ?_⟩
    rw [Tree.set, leads]
    exact hasTable_change _ tree
  | @inSection name key above leaf belongs leads held =>
    have isTable := eq_table_of_said? held
    constructor
    · have plain := field.ofName_section belongs
      have place := Tree.at?_set_section plain replaces tree field.name above.members
      rw [← isTable, held, Option.map_some, Option.some_or] at place
      rw [field.keys_of_section belongs, Tree.set, leads, ← plain]
      exact place
    · intro other same inner found
      obtain rfl : key = other := Option.some.inj (belongs.symm.trans same)
      rw [Tree.set, leads, Tree.lookup_change_self] at found
      obtain rfl := Option.some.inj found
      rw [isTable]
      rfl

/-- A leaf stays where it is when a member follows that has nothing to do with it. -/
theorem Holds.set {leaf tree : Tree} (holds : field.Holds leaf tree) {member : String × Tree}
    (passed : field.IsPassed member) : field.Holds leaf (tree.set member.1 member.2) := by
  cases passed with
  | @elsewhere name above apart =>
    refine ⟨?_, holds.isTable.change fun key belongs => .inl ?_⟩
    · rw [Tree.set, Tree.at?_change_of_apart apart]
      exact holds.place
    · rwa [field.keys_of_section belongs] at apart
  | @inSection name key members belongs leads held =>
    constructor
    · have plain := field.ofName_section belongs
      have place := Tree.at?_set_section plain field.kind.replaces tree field.name members
      rw [held, Option.map_none, Option.none_or] at place
      rw [field.keys_of_section belongs, Tree.set, leads, ← plain]
      refine place.trans ?_
      rw [← field.keys_of_section belongs]
      exact holds.place
    · refine holds.isTable.change fun other same => .inr (.inr ⟨?_, fun here => rfl⟩)
      obtain rfl : key = other := Option.some.inj (belongs.symm.trans same)
      exact leads

/-- What is not said again in a layer holds after it. -/
theorem Holds.addLayer {leaf tree : Tree} (holds : field.Holds leaf tree)
    {layer : List (String × Tree)} (passed : ∀ member ∈ layer, field.IsPassed member) :
    field.Holds leaf (addLayer tree layer) := by
  induction layer generalizing tree with
  | nil => exact holds
  | cons member rest ih =>
    rw [List.forall_mem_cons] at passed
    exact ih (holds.set passed.1) passed.2

/-- After a layer whose last word about a field is a leaf, the leaf is there. -/
theorem IsLastGiven.holds {layer : List (String × Tree)} {leaf : Tree}
    (last : field.IsLastGiven layer leaf) (tree : Tree) :
    field.Holds leaf (Settings.addLayer tree layer) := by
  obtain ⟨before, member, after, rfl, given, rest⟩ := last
  rw [addLayer_append]
  exact Holds.addLayer (given.holds (Settings.addLayer tree before)) rest

/-- A field takes the leaf that stands at its place. -/
theorem Holds.takes {leaf tree : Tree} (holds : field.Holds leaf tree)
    (isTable : tree = .table tree.members) {settings : Settings}
    (read : ofTree? tree = some settings) :
    field.kind.ofTree? leaf = some (field.value settings) := by
  rw [isTable] at read
  have takes := ofTree?_takes holds.isTable read
  rw [← isTable] at takes
  obtain ⟨there, is, same⟩ := Option.map_eq_some_iff.mp holds.place
  rw [is] at takes
  exact same.symm.trans takes

end Field

/-! ## Layers -/

variable {formats : Formats}

/-- Files are read one after another. -/
theorem mapM_cons_ok {files : FileTree} {path : String} {rest : List String}
    {layers : List (List (String × Tree))}
    (read : (path :: rest).mapM (fileLayer formats files) = .ok layers) :
    ∃ layer later, layers = layer :: later ∧ fileLayer formats files path = .ok layer ∧
      rest.mapM (fileLayer formats files) = .ok later := by
  rw [List.mapM_cons] at read
  cases first : fileLayer formats files path with
  | error error =>
    rw [first] at read
    cases read
  | ok layer =>
    cases others : rest.mapM (fileLayer formats files) with
    | error error =>
      rw [first, others] at read
      cases read
    | ok later =>
      rw [first, others] at read
      cases read
      exact ⟨layer, later, rfl, rfl, rfl⟩

/-- Each layer is that of a file. -/
theorem exists_of_mem_mapM {files : FileTree} {paths : List String}
    {layers : List (List (String × Tree))}
    (read : paths.mapM (fileLayer formats files) = .ok layers) :
    ∀ layer ∈ layers, ∃ path ∈ paths, fileLayer formats files path = .ok layer := by
  induction paths generalizing layers with
  | nil =>
    cases read
    simp
  | cons path rest ih =>
    obtain ⟨first, later, rfl, is, others⟩ := mapM_cons_ok read
    refine List.forall_mem_cons.mpr ⟨⟨path, List.mem_cons_self, is⟩, fun layer among => ?_⟩
    obtain ⟨other, listed, same⟩ := ih others layer among
    exact ⟨other, List.mem_cons_of_mem _ listed, same⟩

/-- The layer of a file stands between those of the files before it and after it. -/
theorem mapM_append_cons_ok {files : FileTree} {earlier later : List String} {path : String}
    {layers : List (List (String × Tree))}
    (read : (earlier ++ path :: later).mapM (fileLayer formats files) = .ok layers) :
    ∃ before layer after, layers = before ++ layer :: after ∧
      fileLayer formats files path = .ok layer ∧
      later.mapM (fileLayer formats files) = .ok after := by
  induction earlier generalizing layers with
  | nil =>
    obtain ⟨layer, after, rfl, is, others⟩ := mapM_cons_ok read
    exact ⟨[], layer, after, rfl, is, others⟩
  | cons first rest ih =>
    obtain ⟨own, others, rfl, _, more⟩ := mapM_cons_ok read
    obtain ⟨before, layer, after, rfl, is, last⟩ := ih more
    exact ⟨own :: before, layer, after, rfl, is, last⟩

/-! ## Deciding -/

/-- The last that all layers but the legacy variables say about a field is a leaf: a member of a
file or a variable gives it, and nothing after it has to do with the field. -/
inductive Field.IsDecided (field : Field) (formats : Formats) (service : String)
    (environment : Environment) (files : FileTree) : Tree → Prop where
  /-- The file at a path gives it, of which `layer` is what is written there. -/
  | ofFile {earlier later : List String} {path content : String}
    {members : List (String × Toml.Value)} {leaf : Tree}
    (paths : filePaths service environment = earlier ++ path :: later)
    (found : findFile? formats files path = some (.toml, content))
    (written : Toml.spelled? (Text.withoutByteOrderMark content) = some members)
    (last : field.IsLastGiven (Tree.ofTomlMembers members) leaf)
    (higher : ∀ other ∈ later, ∀ layer, fileLayer formats files other = .ok layer →
      ∀ member ∈ layer, field.IsPassed member)
    (unset : ∀ member ∈ environment.settings, field.IsPassed member) :
    field.IsDecided formats service environment files leaf
  /-- A variable gives it. -/
  | ofVariable {before after : Environment} {name path text : String}
    (split : environment = before ++ (name, text) :: after)
    (leads : Environment.settingName? name = some path)
    (place : ofName path = field.keys.map .key)
    (unset : ∀ member ∈ Environment.settings after, field.IsPassed member) :
    field.IsDecided formats service environment files (Environment.leaf text)

/-- The layer of a file is what is written in it, if it can be read. -/
theorem eq_of_spelled? {files : FileTree} {path content : String}
    {members : List (String × Toml.Value)} {layer : List (String × Tree)}
    (found : findFile? formats files path = some (.toml, content))
    (written : Toml.spelled? (Text.withoutByteOrderMark content) = some members)
    (read : fileLayer formats files path = .ok layer) : layer = Tree.ofTomlMembers members := by
  obtain ⟨others, spells, rfl⟩ := fileLayer_of_find found read
  rw [Toml.ofText?, written] at spells
  have same := (Option.filter_eq_some_iff.mp spells).1
  rw [Option.some.inj same]

/-- A decided leaf is the last that is said. -/
theorem Field.IsDecided.isLastGiven {field : Field} {service : String} {environment : Environment}
    {files : FileTree} {leaf : Tree}
    (decided : field.IsDecided formats service environment files leaf)
    {layers : List (List (String × Tree))}
    (read : (filePaths service environment).mapM (fileLayer formats files) = .ok layers) :
    field.IsLastGiven (names service (environmentName environment) ++
      (layers.flatten ++ environment.settings)) leaf := by
  cases decided with
  | ofFile paths found written last higher unset =>
    rw [paths] at read
    obtain ⟨before, layer, after, rfl, is, others⟩ := mapM_append_cons_ok read
    rw [← eq_of_spelled? found written is] at last
    have passed : ∀ member ∈ after.flatten ++ environment.settings, field.IsPassed member := by
      refine List.forall_mem_append.mpr ⟨fun member among => ?_, unset⟩
      obtain ⟨held, listed, within⟩ := List.mem_flatten.mp among
      obtain ⟨other, later, same⟩ := exists_of_mem_mapM others held listed
      exact higher other later held same member within
    have all := last.append (names service (environmentName environment) ++ before.flatten) passed
    simpa using all
  | @ofVariable before after name path text split leads place unset =>
    refine ⟨names service (environmentName environment) ++ layers.flatten ++ before.settings,
      (path, Environment.leaf text), Environment.settings after, ?_, .own place, unset⟩
    have own : Environment.settings ((name, text) :: after) =
        (path, Environment.leaf text) :: Environment.settings after := by
      simp [Environment.settings, leads]
    rw [split, settings_append, own]
    simp

/-- When settings are loaded, a field has the value of the leaf that is decided, unless its legacy
variable is given. -/
theorem load_takes_decided {field : Field} {service : String} {environment : Environment}
    {files : FileTree} {leaf : Tree}
    (decided : field.IsDecided formats service (completeEnvironment environment files) files leaf)
    (unset : field.legacyText? (completeEnvironment environment files) = none) {settings : Settings}
    (loaded : load formats service environment files = .ok settings) :
    field.kind.ofTree? leaf = some (field.value settings) := by
  obtain ⟨tree, found, layered, read, applied⟩ := load_ok loaded
  rw [layeredTree_eq] at layered
  cases all : (filePaths service _).mapM (fileLayer formats files) with
  | error error =>
    rw [all] at layered
    cases layered
  | ok layers =>
    rw [all] at layered
    cases layered
    have holds := (decided.isLastGiven all).holds .empty
    have takes := holds.takes (addLayer_isTable _ rfl) read
    have last := applyVariables_takes field nodup_fields applied
    unfold Field.legacyText? Field.legacy? at unset
    rw [unset] at last
    rw [takes, last]

end EventLedger.Settings
