import EventLedger.Proofs.Layering
import EventLedger.Proofs.LegacyVariables
import Mathlib.Data.List.Nodup

/-!
# Precedence of layers

When settings are loaded, each field has the value that the highest layer gives that mentions it,
whatever the layers say about other fields. Four steps lead there: variables from a file are added
to those that there are, the layers are laid over one another, the fields take what stands in the
tree, and the legacy variables are applied.
-/
namespace EventLedger

/-! ## Legacy variables -/

namespace Settings

variable {lookup : String → Option String} {origins : List LegacyVariable}
variable {settings after : Settings}

/-- When all variables have been applied, a field has taken the text of its variable, if there is
one that is not empty. -/
theorem applyVariables_takes (field : Field) (once : (origins.map LegacyVariable.field).Nodup)
    (applied : applyVariables lookup origins settings = (after, .ok ())) :
    match ((origins.find? (·.field = field)).bind fun origin => lookup origin.name).filter (· ≠ "")
    with
    | none => field.value after = field.value settings
    | some raw => field.kind.ofText? raw = some (field.value after) := by
  have comes : Applied lookup origins settings (after, .ok ()) :=
    applied ▸ applyVariables_applied once settings
  obtain ⟨_, replaced⟩ := comes
  cases found : origins.find? (·.field = field) with
  | none =>
    have without : ∀ origin ∈ origins, origin.field ≠ field := fun origin among => by
      simpa using List.find?_eq_none.mp found origin among
    exact replaced.kept field fun origin among same => absurd same (without origin among)
  | some origin =>
    have own : origin.field = field := by simpa using List.find?_some found
    have among : origin ∈ origins := List.mem_of_find?_eq_some found
    subst own
    change match origin.given? lookup with
      | none => origin.field.value after = origin.field.value settings
      | some raw => origin.field.kind.ofText? raw = some (origin.field.value after)
    cases given : origin.given? lookup with
    | some raw => exact replaced.held origin among raw given
    | none =>
      refine replaced.kept origin.field fun other listed same => ?_
      obtain rfl : other = origin := List.inj_on_of_nodup_map once listed among same
      exact given

end Settings

/-! ## Variables from a file -/

namespace DotEnv

open Settings (Environment)

/-- A variable that is added has a name of its own. -/
theorem nodup_addVariable {environment : Environment} (once : (environment.map Prod.fst).Nodup)
    (found : Variable) : ((addVariable environment found).map Prod.fst).Nodup := by
  unfold addVariable
  split
  · exact once
  · rename_i absent
    have unlisted : found.name ∉ environment.map Prod.fst := by
      intro listed
      obtain ⟨⟨_, value⟩, among, rfl⟩ := List.mem_map.mp listed
      have nothing : environment.lookup found.name = none :=
        Option.not_isSome_iff_eq_none.mp absent
      exact absurd (List.lookup_eq_none_iff.mp nothing _ among) (by simp)
    rw [List.map_append, List.map_singleton, List.nodup_append]
    refine ⟨once, by simp, fun name listed other single same => unlisted ?_⟩
    rwa [same, List.mem_singleton.mp single] at listed

/-- So have all variables that are added from entries of a file. -/
theorem nodup_addEntries {environment earlier : Environment} (entries : List Entry)
    (once : (environment.map Prod.fst).Nodup) :
    ((addEntries environment earlier entries).map Prod.fst).Nodup := by
  induction entries generalizing environment earlier with
  | nil => exact once
  | cons entry rest ih =>
    cases entry with
    | none => exact once
    | some entry =>
      rw [addEntries]
      split
      · exact once
      · exact ih once
      · exact ih (nodup_addVariable once _)

end DotEnv

namespace Settings

/-- So the complete environment has each name once, if the given one has. -/
theorem nodup_completeEnvironment {environment : Environment}
    (once : (environment.map Prod.fst).Nodup) (files : FileTree) :
    ((completeEnvironment environment files).map Prod.fst).Nodup := by
  unfold completeEnvironment
  split
  · exact once
  · exact DotEnv.nodup_addEntries _ once

/-! ## Files -/

variable {formats : Formats} {files : FileTree} {path content : String}
variable {layer : List (String × Tree)}

/-- A file that is found in TOML gives the members that its text spells. -/
theorem fileLayer_of_find (found : findFile? formats files path = some (.toml, content))
    (read : fileLayer formats files path = .ok layer) :
    ∃ members, Toml.ofText? (Text.withoutByteOrderMark content) = some members ∧
      layer = Tree.ofTomlMembers members := by
  unfold fileLayer at read
  rw [found] at read
  simp only [Formats.read?] at read
  cases spells : Toml.ofText? (Text.withoutByteOrderMark content) with
  | none =>
    rw [spells] at read
    cases read
  | some members =>
    rw [spells] at read
    cases read
    exact ⟨members, rfl, rfl⟩

/-- A file that is not found says nothing. -/
theorem fileLayer_of_absent (absent : findFile? formats files path = none)
    (read : fileLayer formats files path = .ok layer) : layer = [] := by
  unfold fileLayer at read
  rw [absent] at read
  cases read
  rfl

/-- What is looked for in place of a missing file is one in TOML, if there is none in another
format: the order of the formats does not matter then. -/
theorem findFile?_of_missing (formats : Formats) (alone : IsAlone files path)
    (missing : files.read? path = none) :
    findFile? formats files path =
      (files.read? (path ++ nameEnding)).map fun content => (.toml, content) := by
  have own : FileFormat.find? files path .toml =
      (files.read? (path ++ nameEnding)).map fun content => (.toml, content) := by
    simp [FileFormat.find?, FileFormat.endings, nameEnding]
  have listed (format : FileFormat) : format ∈ formats.order ↔ format ∈ FileFormat.all :=
    formats.complete.mem_iff
  rw [findFile?, missing, ← own]
  cases first : formats.order.findSome? (FileFormat.find? files path) with
  | none =>
    have toml : FileFormat.toml ∈ formats.order := (listed _).mpr (by decide)
    exact (List.findSome?_eq_none_iff.mp first .toml toml).symm
  | some found =>
    obtain ⟨format, among, is⟩ := List.exists_of_findSome?_eq_some first
    by_cases same : format = .toml
    · rw [← is, same]
    · rw [alone format ((listed _).mp among) same] at is
      cases is

/-- What is read of a file is what the file says, if there is none in another format. -/
theorem isFileLayer_of_fileLayer (alone : IsAlone files path)
    (read : fileLayer formats files path = .ok layer) : IsFileLayer files path layer := by
  cases there : files.read? path with
  | some content =>
    by_cases named : (FileTree.parts path).getLast? = some nameEnding
    · have absent : findFile? formats files path = none := by
        simp only [findFile?, there, if_pos named]
      rw [fileLayer_of_absent absent read]
      exact .unnamed there named
    · have found : findFile? formats files path = some (.toml, content) := by
        simp only [findFile?, there, if_neg named]
      obtain ⟨members, spells, rfl⟩ := fileLayer_of_find found read
      exact .written there named spells
  | none =>
    have found := findFile?_of_missing formats alone there
    cases second : files.read? (path ++ nameEnding) with
    | some content =>
      rw [second] at found
      obtain ⟨members, spells, rfl⟩ := fileLayer_of_find found read
      exact .doubled there second spells
    | none =>
      rw [second] at found
      rw [fileLayer_of_absent found read]
      exact .missing there second

/-! ## The tree of all layers -/

/-- The settings that are there before any layer. -/
def names (service environment : String) : List (String × Tree) :=
  [("service_name", .text service), ("environment", .text environment)]

/-- The tree of layers. -/
def FileLayers.tree (layers : FileLayers) (service : String) (environment : Environment) : Tree :=
  [names service (environmentName environment), layers.forAll, layers.forEnvironment,
    layers.forService, environment.settings].foldl addLayer .empty

/-- The tree of all layers is that of what the files say and the variables. -/
theorem layeredTree_ok {service : String} {environment : Environment} {tree : Tree}
    (alone : ∀ path ∈ filePaths service environment, IsAlone files path)
    (layered : layeredTree formats service environment files = .ok tree) :
    ∃ layers : FileLayers, layers.AreOf service environment files ∧
      tree = layers.tree service environment := by
  simp only [filePaths, List.map_cons, List.map_nil, List.forall_mem_cons] at alone
  obtain ⟨first, second, third, _⟩ := alone
  simp only [layeredTree, filePaths, List.map_cons, List.map_nil, List.mapM_cons,
    List.mapM_nil] at layered
  cases forAll : fileLayer formats files (filePath environment "default") with
  | error error =>
    rw [forAll] at layered
    cases layered
  | ok all =>
    cases forEnvironment :
      fileLayer formats files (filePath environment (environmentName environment)) with
    | error error =>
      rw [forAll, forEnvironment] at layered
      cases layered
    | ok some =>
      cases forService : fileLayer formats files (filePath environment service) with
      | error error =>
        rw [forAll, forEnvironment, forService] at layered
        cases layered
      | ok own =>
        rw [forAll, forEnvironment, forService] at layered
        cases layered
        exact ⟨⟨all, some, own⟩, ⟨isFileLayer_of_fileLayer first forAll,
          isFileLayer_of_fileLayer second forEnvironment,
          isFileLayer_of_fileLayer third forService⟩, rfl⟩

/-- A setting outside of the sections may have any value. -/
theorem isDocumented_of_alone (other : Field) (alone : other.section? = none) (tree : Tree) :
    IsDocumented other.name tree := by
  intro field
  by_cases same : other = field
  · exact .inl (same ▸ ⟨alone, rfl⟩)
  · refine .inr (.inr ?_)
    rw [other.ofName_name]
    cases other <;> cases alone <;> cases field <;> first
      | exact absurd rfl same
      | exact .inl (by decide)

/-- The names that the service sets itself are documented. -/
theorem documented_names (service environment : String) :
    ∀ member ∈ names service environment, IsDocumented member.1 member.2 := by
  simp only [names, List.forall_mem_cons]
  exact ⟨isDocumented_of_alone .serviceName rfl _,
    isDocumented_of_alone .environment rfl _, by simp⟩

/-- The members of all layers of files are spelled as documented. -/
structure FileLayers.AreDocumented (layers : FileLayers) : Prop where
  /-- Those for all. -/
  forAll : ∀ member ∈ layers.forAll, IsDocumented member.1 member.2
  /-- Those for the environment. -/
  forEnvironment : ∀ member ∈ layers.forEnvironment, IsDocumented member.1 member.2
  /-- Those of the service. -/
  forService : ∀ member ∈ layers.forService, IsDocumented member.1 member.2

section Tree

variable {layers : FileLayers} (service : String) {environment : Environment}
variable (documented : layers.AreDocumented) (once : (environment.map Prod.fst).Nodup)
variable (spelled : ∀ name ∈ environment.map Prod.fst, IsDocumentedName name)
include documented once spelled

/-- What stands in the tree of all layers at the place of a field is converted as what is mentioned
of it. -/
theorem FileLayers.tree_at? (field : Field) :
    ((layers.tree service environment).at? field.keys).map field.kind.ofTree? =
      ((field.mention? environment layers).or
        ((Tree.table (names service (environmentName environment))).said? field.keys)).map
          field.kind.ofTree? := by
  have empty : Tree.empty.at? field.keys = none := by cases field <;> rfl
  simp only [tree, List.foldl_cons, List.foldl_nil]
  rw [field.at?_addLayer_variables once spelled, field.at?_addLayer_file documented.forService,
    field.at?_addLayer_file documented.forEnvironment, field.at?_addLayer_file documented.forAll,
    field.at?_addLayer_file (documented_names service _), empty]
  simp only [Field.mention?, Option.map_or, Option.or_assoc, Option.map_none, Option.or_none]

omit once in
/-- In the tree of all files there is a table for every section. -/
theorem FileLayers.tree_hasTable (field : Field) :
    field.HasTable (layers.tree service environment) := by
  have empty : field.HasTable .empty := nofun
  exact ((((empty.addLayer_file (documented_names service _)).addLayer_file
    documented.forAll).addLayer_file documented.forEnvironment).addLayer_file
    documented.forService).addLayer_variables spelled

end Tree

/-- The path of a name begins with a key. -/
theorem ofName_eq_cons (name : String) :
    ∃ first path, Path.ofName name = .key first :: path := by
  unfold Path.ofName
  cases is : Path.ofText? name with
  | none => exact ⟨_, _, rfl⟩
  | some path =>
    obtain ⟨⟨first, rest⟩, _, steps⟩ := Option.bind_eq_some_iff.mp is
    obtain ⟨more, _, rfl⟩ := Option.map_eq_some_iff.mp steps
    exact ⟨_, _, rfl⟩

/-- A layer leaves a table a table. -/
theorem addLayer_isTable (layer : List (String × Tree)) {tree : Tree}
    (isTable : tree = .table tree.members) :
    addLayer tree layer = .table (addLayer tree layer).members := by
  induction layer generalizing tree with
  | nil => exact isTable
  | cons member rest ih =>
    refine ih ?_
    obtain ⟨first, path, is⟩ := ofName_eq_cons member.1
    change Tree.change _ (Path.ofName member.1) tree = .table (Tree.change _ _ tree).members
    rw [is]
    rfl

/-- Layers are laid over one another as one. -/
theorem foldl_addLayer (layers : List (List (String × Tree))) (tree : Tree) :
    layers.foldl addLayer tree = addLayer tree layers.flatten := by
  induction layers generalizing tree with
  | nil => rfl
  | cons layer rest ih => rw [List.foldl_cons, ih, List.flatten_cons, Field.addLayer_append]

/-- The tree of all layers is that of the names with the files and the variables laid over them. -/
theorem layeredTree_eq (formats : Formats) (service : String) (environment : Environment)
    (files : FileTree) :
    layeredTree formats service environment files =
      ((filePaths service environment).mapM (fileLayer formats files)).map fun layers =>
        addLayer .empty (names service (environmentName environment) ++
          (layers.flatten ++ environment.settings)) := by
  unfold layeredTree
  cases (filePaths service environment).mapM (fileLayer formats files) with
  | error error => rfl
  | ok layers =>
    have all : (layers ++ [environment.settings]).flatten =
        layers.flatten ++ environment.settings := by simp
    change Except.ok (List.foldl addLayer _ _) = _
    rw [foldl_addLayer, all, ← Field.addLayer_append]
    rfl

/-- The tree of all files is a table. -/
theorem FileLayers.tree_isTable (layers : FileLayers) (service : String)
    (environment : Environment) :
    layers.tree service environment = .table (layers.tree service environment).members :=
  addLayer_isTable _ <| addLayer_isTable _ <| addLayer_isTable _ <| addLayer_isTable _ <|
    addLayer_isTable _ rfl

/-! ## Documented sources can be told -/

/-- There are no other settings than the listed ones. -/
theorem Field.mem_all (field : Field) : field ∈ Field.all := by
  cases field <;> decide

/-- What holds of all settings is tried on the listed ones. -/
instance {holds : Field → Prop} [DecidablePred holds] : Decidable (∀ field, holds field) :=
  decidable_of_iff (∀ field ∈ Field.all, holds field)
    ⟨fun each field => each field field.mem_all, fun each field _ => each field⟩

/-- Two paths are compared key by key. -/
instance decidableApart : (path : Path) → (keys : List String) → Decidable (Apart path keys)
  | .key name :: path, key :: keys =>
    have := decidableApart path keys
    inferInstanceAs (Decidable (name ≠ key ∨ Apart path keys))
  | [], _ => .isFalse id
  | .position _ :: _, _ => .isFalse id
  | .key _ :: _, [] => .isFalse id

/-- Only a table is the table of its members. -/
instance : (tree : Tree) → Decidable (tree = .table tree.members)
  | .table _ => .isTrue rfl
  | .nothing | .bool _ | .integer _ | .double _ | .text _ | .array _ => .isFalse nofun

/-- A member is documented if it is a table, where it names a section. -/
instance (name : String) (tree : Tree) : Decidable (IsDocumented name tree) :=
  inferInstanceAs (Decidable (∀ _ : Field, _ ∨ _ ∨ _))

/-- A name is documented if it is apart from the sections. -/
instance (name : String) : Decidable (IsDocumentedName name) :=
  decidable_of_iff (∀ path ∈ Environment.settingName? name, ∀ field : Field,
    name = field.variableName ∨ Apart (Path.ofName path) field.keys) Iff.rfl

/-- What a file says is what is read of it. -/
theorem fileLayer_of_isFileLayer (formats : Formats) (alone : IsAlone files path)
    (is : IsFileLayer files path layer) : fileLayer formats files path = .ok layer := by
  cases is with
  | written there named spells =>
    simp [fileLayer, findFile?, there, named, Formats.read?, spells]
  | unnamed there named => simp [fileLayer, findFile?, there, named]
  | doubled missing there spells =>
    simp [fileLayer, findFile?_of_missing formats alone missing, there, Formats.read?, spells]
  | missing first second =>
    simp [fileLayer, findFile?_of_missing formats alone first, second]

/-- A result that is a value is no error. -/
theorem eq_ok_of_toOption {ε α : Type} {result : Except ε α} {value : α}
    (is : result.toOption = some value) : result = .ok value := by
  cases result with
  | error error => cases is
  | ok found => rw [Option.some.inj is]

/-- Whether a path is alone is looked up in the files. -/
instance (files : FileTree) (path : String) : Decidable (IsAlone files path) :=
  inferInstanceAs (Decidable (∀ format ∈ FileFormat.all, format ≠ .toml → _))

/-- Sources are documented exactly if what is read of the files is, in whatever order the formats
are looked for. -/
theorem areDocumented_iff {service : String} {environment : Environment} :
    AreDocumented service environment files ↔
      (environment.map Prod.fst).Nodup ∧
        (∀ name ∈ (completeEnvironment environment files).map Prod.fst, IsDocumentedName name) ∧
          ∀ path ∈ filePaths service (completeEnvironment environment files),
            IsAlone files path ∧
              ∀ layer ∈ (fileLayer .native files path).toOption, ∀ member ∈ layer,
                IsDocumented member.1 member.2 := by
  constructor
  · intro documented
    refine ⟨documented.once, documented.names, fun path listed =>
      ⟨documented.formats path listed, fun layer read => documented.members path listed layer ?_⟩⟩
    exact isFileLayer_of_fileLayer (documented.formats path listed) (eq_ok_of_toOption read)
  · intro ⟨once, names, each⟩
    refine ⟨once, names, fun path listed => (each path listed).1, fun path listed layer is => ?_⟩
    refine (each path listed).2 layer ?_
    rw [fileLayer_of_isFileLayer .native (each path listed).1 is]
    rfl

/-- Whether files and variables are documented is looked up in each of them. -/
instance (service : String) (environment : Environment) (files : FileTree) :
    Decidable (AreDocumented service environment files) :=
  decidable_of_iff _ areDocumented_iff.symm

/-! ## All steps -/

/-- What has been there before any layer gives a field that is never mentioned its initial value. -/
theorem value_of_names {field : Field} {service name : String} {said : Option Tree}
    {settings : Settings} (takes : field.Takes said (.initial "" "") settings)
    (only : said.map field.kind.ofTree? =
      ((Tree.table (names service name)).said? field.keys).map field.kind.ofTree?) :
    field.value settings = field.value (.initial service name) := by
  cases field
  case serviceName =>
    obtain ⟨tree, rfl, same⟩ := Option.map_eq_some_iff.mp only
    exact (Option.some.inj (same.symm.trans takes)).symm
  case environment =>
    obtain ⟨tree, rfl, same⟩ := Option.map_eq_some_iff.mp only
    exact (Option.some.inj (same.symm.trans takes)).symm
  all_goals
    obtain rfl := Option.map_eq_none_iff.mp only
    exact takes

/-- A field of the tree of all layers takes what is mentioned of it, or its initial value. -/
theorem FileLayers.tree_takes {layers : FileLayers} {service : String} {environment : Environment}
    (documented : layers.AreDocumented) (once : (environment.map Prod.fst).Nodup)
    (spelled : ∀ name ∈ environment.map Prod.fst, IsDocumentedName name) {settings : Settings}
    (read : ofTree? (layers.tree service environment) = some settings) (field : Field) :
    field.Takes (field.mention? environment layers)
      (.initial service (environmentName environment)) settings := by
  have place := tree_at? service documented once spelled field
  have isTable := layers.tree_isTable service environment
  have tables := tree_hasTable service documented spelled field
  generalize layers.tree service environment = tree at place isTable tables read
  rw [isTable] at read
  have takes := ofTree?_takes tables read
  rw [← isTable] at takes
  cases mention : field.mention? environment layers with
  | some said =>
    rw [mention] at place
    obtain ⟨there, is, same⟩ := Option.map_eq_some_iff.mp place
    rw [is] at takes
    exact same.symm.trans takes
  | none =>
    rw [mention, Option.none_or] at place
    exact value_of_names takes place

/-- What loading does, step by step. -/
theorem load_ok {service : String} {environment : Environment} {files : FileTree}
    {settings : Settings} (loaded : load formats service environment files = .ok settings) :
    let complete := completeEnvironment environment files
    ∃ tree found, layeredTree formats service complete files = .ok tree ∧
      ofTree? tree = some found ∧
      applyVariables complete.find? LegacyVariable.all found = (settings, .ok ()) := by
  intro complete
  rw [load_eq] at loaded
  cases layered : layeredTree formats service complete files with
  | error error =>
    rw [layered] at loaded
    cases loaded
  | ok tree =>
    rw [layered] at loaded
    change (readTree tree >>= fun found => _) = _ at loaded
    unfold readTree at loaded
    cases read : ofTree? tree with
    | none =>
      rw [read] at loaded
      cases loaded
    | some found =>
      rw [read] at loaded
      exact ⟨tree, found, rfl, read, checked_eq_ok loaded⟩

/-- When settings are loaded from documented sources, each field has the value that the highest
layer gives that mentions it. -/
theorem load_takes_highest {service : String} {environment : Environment} {files : FileTree}
    (documented : AreDocumented service environment files) {settings : Settings}
    (loaded : load formats service environment files = .ok settings) :
    ∃ layers : FileLayers,
      layers.AreOf service (completeEnvironment environment files) files ∧
        ∀ field : Field,
          field.given? service (completeEnvironment environment files) layers =
            some (field.value settings) := by
  obtain ⟨tree, found, layered, read, applied⟩ := load_ok loaded
  have once := nodup_completeEnvironment documented.once files
  obtain ⟨layers, are, rfl⟩ := layeredTree_ok documented.formats layered
  have spelled : layers.AreDocumented :=
    ⟨documented.members _ (by simp [filePaths]) _ are.forAll,
      documented.members _ (by simp [filePaths]) _ are.forEnvironment,
      documented.members _ (by simp [filePaths]) _ are.forService⟩
  refine ⟨layers, are, fun field => ?_⟩
  have takes := FileLayers.tree_takes spelled once documented.names read field
  have last := applyVariables_takes field nodup_fields applied
  -- A legacy variable is looked at first, since it is applied after the tree has been read.
  unfold Field.given? Field.legacyText? Field.legacy?
  split at last
  · rename_i nothing
    rw [nothing]
    simp only
    rw [last]
    unfold Field.Takes at takes
    split at takes
    · rename_i unmentioned
      rw [unmentioned, takes]
    · rename_i tree mentioned
      rw [mentioned]
      exact takes
  · rename_i raw something
    rw [something]
    exact last

/-- A few variables: one of the environment, a legacy one, and one of a field. -/
def fewVariables : Environment :=
  [("HOME", "/"), ("WORKER_PREFETCH", "7"), ("MINICHAT__RABBITMQ__USAGE_QUEUE", "spent")]

/-- A few files: one with a variable, one for all environments, and one for the service. -/
def fewFiles : FileTree :=
  .ofPaths [(".env", "MINICHAT_ENV=test\n"),
    ("config/default.toml", "[rabbitmq]\nusage_queue=\"t\"\nprefetch_count=3\n"),
    ("config/minichat-worker.toml", "[worker]\nretry_delay_ms=12\n")] ""

/-- The settings that a few variables and files give. -/
def fewSettings : Settings :=
  { Settings.initial "minichat-worker" "test" with
    broker := { BrokerSettings.initial with usageQueue := "spent", prefetch := 7 }
    worker := { WorkerSettings.initial with retryDelayMillis := 12 } }

/-- Four files and some variables give the settings that the order of the layers makes of them. -/
theorem few_layers_give_settings :
    AreDocumented "minichat-worker" fewVariables fewFiles ∧
      load .native "minichat-worker" fewVariables fewFiles = .ok fewSettings ∧
        ∃ layers : FileLayers,
          layers.AreOf "minichat-worker" (completeEnvironment fewVariables fewFiles) fewFiles ∧
            ∀ field : Field,
              field.given? "minichat-worker" (completeEnvironment fewVariables fewFiles) layers =
                some (field.value fewSettings) := by
  have documented : AreDocumented "minichat-worker" fewVariables fewFiles := by decide +kernel
  have loaded : load .native "minichat-worker" fewVariables fewFiles = .ok fewSettings :=
    eq_ok_of_toOption (by decide +kernel)
  exact ⟨documented, loaded, load_takes_highest documented loaded⟩

/-- A file whose name ends twice, and no other. -/
def doubledFile : FileTree :=
  .ofPaths [("config/default.toml.toml", "[rabbitmq]\nusage_queue=\"t\"\n")] ""

/-- Where no layer has a file of its name and no variable is set, a field need not have its initial
value: the file whose name ends twice counts. -/
theorem doubled_ending_counts :
    AreDocumented "minichat-worker" [] doubledFile ∧
      (∀ path ∈ filePaths "minichat-worker" (completeEnvironment [] doubledFile),
        doubledFile.read? path = none) ∧
      (load .native "minichat-worker" [] doubledFile).toOption.map (·.broker.usageQueue) =
        some "t" ∧
      (Settings.initial "minichat-worker" "development").broker.usageQueue = "usage_event" := by
  refine ⟨by decide +kernel, by decide +kernel, by decide +kernel, by decide +kernel⟩

end Settings

end EventLedger
