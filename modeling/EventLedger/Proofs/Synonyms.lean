import EventLedger.Proofs.Overriding
import EventLedger.Proofs.Precedence

/-!
# Variables with two names

Some settings can be given by two variables, their own and one with an older name. The own variable
is laid into the tree, where its text is guessed to be a number or a truth value and written as a
text again; the older one is copied into the settings that have been read. For a text that this
leaves as it is both give the same settings, or fail with the same error, if nothing else leads to
the setting and what lies under it can be read.
-/
namespace EventLedger

namespace Settings

open EventLedger.Settings.Path (ofName)

/-! ## Environments -/

/-- The environment without the two variables of a setting. -/
def Environment.without (environment : Environment) (origin : LegacyVariable) : Environment :=
  environment.filter fun entry => entry.1 ≠ origin.field.variableName ∧ entry.1 ≠ origin.name

/-- A setting is given by its own variable in one environment, and by that with the older name in
the other one. Otherwise the environments are the same. -/
structure Renamed (origin : LegacyVariable) (text : String) (first second : Environment) :
    Prop where
  /-- The own variable is given, and no variable after it leads to the setting. -/
  own : ∃ before after, first = before ++ (origin.field.variableName, text) :: after ∧
    ∀ entry ∈ after, ∀ path, Environment.settingName? entry.1 = some path →
      Apart (ofName path) origin.field.keys
  /-- The variable with the older name is not given there. -/
  unset : origin.given? first.find? = none
  /-- It is given in the other environment. -/
  legacy : second.find? origin.name = some text
  /-- All other variables are the same, in the same order. -/
  others : first.without origin = second.without origin

namespace Environment

/-- Without a variable and its older name, every other is found as before. -/
theorem find?_without {origin : LegacyVariable} {name : String}
    (notOwn : name ≠ origin.field.variableName) (notLegacy : name ≠ origin.name)
    (environment : Environment) :
    (environment.without origin).find? name = environment.find? name := by
  induction environment with
  | nil => rfl
  | cons entry rest ih =>
    obtain ⟨other, text⟩ := entry
    change List.lookup name (List.filter _ _) = _
    rw [List.filter_cons, find?, List.lookup_cons]
    by_cases same : name = other
    · subst same
      rw [if_pos (by simp [notOwn, notLegacy])]
      simp
    · rw [beq_false_of_ne same]
      split
      · rw [List.lookup_cons, beq_false_of_ne same]
        exact ih
      · exact ih

/-- The leaf of a variable replaces whatever it is laid over. -/
theorem overlay_leaf (text : String) (here there : Tree) :
    Tree.overlay here (leaf text) = Tree.overlay there (leaf text) := by
  unfold leaf
  simp only
  split
  · rfl
  · split
    · rfl
    · split
      · rfl
      · split <;> rfl

/-- Variables with older names are not those of settings. -/
theorem settingName?_legacy (origin : LegacyVariable) : settingName? origin.name = none := by
  cases origin <;> decide +kernel

end Environment

/-- The two variables of a setting are seen at its place only. -/
theorem agreeOff_without (origin : LegacyVariable) (environment : Environment) {first second : Tree}
    (agree : Tree.AgreeOff origin.field.keys first second) :
    Tree.AgreeOff origin.field.keys (addLayer first environment.settings)
      (addLayer second (environment.without origin).settings) := by
  induction environment generalizing first second with
  | nil => exact agree
  | cons entry rest ih =>
    obtain ⟨name, text⟩ := entry
    by_cases kept : name ≠ origin.field.variableName ∧ name ≠ origin.name
    · have shown : Environment.without ((name, text) :: rest) origin =
          (name, text) :: Environment.without rest origin := by
        rw [Environment.without, List.filter_cons, if_pos (by simpa using kept)]
        rfl
      rw [shown, Field.addLayer_settings_cons, Field.addLayer_settings_cons]
      refine ih ?_
      cases Environment.settingName? name with
      | none => exact agree
      | some path => exact agree.change (Environment.overlay_leaf text) (ofName path)
    · have hidden : Environment.without ((name, text) :: rest) origin =
          Environment.without rest origin := by
        rw [Environment.without, List.filter_cons, if_neg (by simpa using kept)]
        rfl
      rw [hidden, Field.addLayer_settings_cons]
      refine ih ?_
      cases is : Environment.settingName? name with
      | none => exact agree
      | some path =>
        have own : name = origin.field.variableName := by
          by_contra other
          have legacy : name = origin.name := by
            by_contra foreign
            exact kept ⟨other, foreign⟩
          rw [legacy, Environment.settingName?_legacy] at is
          cases is
        rw [own, origin.field.settingName?_variableName] at is
        obtain rfl := Option.some.inj is
        simp only [Tree.set, origin.field.ofName_keys]
        exact (Tree.AgreeOff.change_self _ _ first).trans agree

/-! ## Trees -/

namespace Field

variable {field : Field}

/-- Variables that do not lead to a field leave its place as it is. -/
theorem stays_addLayer {environment : Environment}
    (apart : ∀ entry ∈ environment, ∀ path, Environment.settingName? entry.1 = some path →
      Apart (ofName path) field.keys) {tree : Tree} (isTable : field.HasTable tree) :
    field.HasTable (addLayer tree environment.settings) ∧
      (addLayer tree environment.settings).at? field.keys = tree.at? field.keys := by
  induction environment generalizing tree with
  | nil => exact ⟨isTable, rfl⟩
  | cons entry rest ih =>
    obtain ⟨name, text⟩ := entry
    rw [List.forall_mem_cons] at apart
    rw [addLayer_settings_cons]
    cases is : Environment.settingName? name with
    | none => exact ih apart.2 isTable
    | some path =>
      have parts : Apart (ofName path) field.keys := apart.1 path is
      have still : field.HasTable (tree.set path (Environment.leaf text)) := by
        refine isTable.change fun other belongs => .inl ?_
        rwa [field.keys_of_section belongs] at parts
      obtain ⟨tables, place⟩ := ih apart.2 still
      exact ⟨tables, place.trans (Tree.at?_change_of_apart parts tree)⟩

/-- What a tree says about a field can be read: the section of the field is a table, if it is there,
and so is what stands behind its name, if something does. -/
structure IsReadable (field : Field) (tree : Tree) : Prop where
  /-- The section is a table. -/
  isTable : field.HasTable tree
  /-- What is there can be converted. -/
  converts : ∀ leaf ∈ tree.at? field.keys, (field.kind.ofTree? leaf).isSome

/-- Whether a tree can be read as a setting is decided by reading it. -/
instance (field : Field) (tree : Tree) : Decidable (field.IsReadable tree) :=
  decidable_of_iff
    ((∀ name ∈ field.section?, ∀ inner ∈ tree.members.lookup name, inner = .table inner.members) ∧
      ∀ leaf ∈ tree.at? field.keys, (field.kind.ofTree? leaf).isSome)
    ⟨fun ⟨isTable, converts⟩ => ⟨isTable, converts⟩, fun ⟨isTable, converts⟩ =>
      ⟨isTable, converts⟩⟩

end Field

namespace Renamed

variable {origin : LegacyVariable} {text : String} {first second : Environment}

/-- A renaming leaves all but its two names as they are. -/
theorem find?_eq (renamed : Renamed origin text first second) {name : String}
    (notOwn : name ≠ origin.field.variableName) (notLegacy : name ≠ origin.name) :
    first.find? name = second.find? name := by
  rw [← Environment.find?_without notOwn notLegacy first, renamed.others,
    Environment.find?_without notOwn notLegacy second]

/-- The settings of the first environment are those of the second one with the field set. -/
theorem ofTree?_eq (renamed : Renamed origin text first second) {name : String}
    (belongs : origin.field.section? = some name) {value : origin.field.kind.Value}
    (converted : origin.field.kind.ofTree? (Environment.leaf text) = some value) {base : Tree}
    (isTable : base = .table base.members)
    (readable : origin.field.IsReadable (addLayer base second.settings)) :
    ofTree? (addLayer base first.settings) =
      (ofTree? (addLayer base second.settings)).map (origin.field.set · value) := by
  have agree : Tree.AgreeOff origin.field.keys (addLayer base first.settings)
      (addLayer base second.settings) := by
    refine (agreeOff_without origin first (.refl _ base)).trans ?_
    rw [renamed.others]
    exact (agreeOff_without origin second (.refl _ base)).symm
  obtain ⟨before, after, rfl, apart⟩ := renamed.own
  let here := addLayer base before.settings
  have laid : addLayer base
      (Environment.settings (before ++ (origin.field.variableName, text) :: after)) =
      addLayer (here.set (".".intercalate origin.field.keys) (Environment.leaf text))
        (Environment.settings after) := by
    rw [Field.settings_append, Field.addLayer_append, Field.addLayer_settings_cons,
      origin.field.settingName?_variableName]
  have own := Tree.at?_set_end origin.field.ofName_keys origin.field.kind.replaces here
    (Environment.leaf text)
  have section' : origin.field.HasTable
      (here.set (".".intercalate origin.field.keys) (Environment.leaf text)) := by
    rw [Tree.set, origin.field.ofName_keys]
    exact Field.hasTable_change _ here
  obtain ⟨tables, place⟩ := Field.stays_addLayer apart section'
  rw [laid] at agree ⊢
  refine ofTree?_of_agreeOff belongs agree (addLayer_isTable _ (addLayer_isTable
    [(".".intercalate origin.field.keys, Environment.leaf text)] (addLayer_isTable _ isTable)))
    (addLayer_isTable _ isTable) tables readable.isTable ?_ readable.converts
  rw [place]
  obtain ⟨leaf, there, same⟩ := Option.map_eq_some_iff.mp own
  rw [there, Option.bind_some, same, converted]

end Renamed

/-! ## Legacy variables -/

section Legacy

variable {lookup other : String → Option String} {origins : List LegacyVariable}
variable {origin : LegacyVariable} {text : String}

/-- Variables for which the same is given do the same. -/
theorem applyVariables_congr
    (same : ∀ listed ∈ origins, lookup listed.name = other listed.name) (settings : Settings) :
    applyVariables lookup origins settings = applyVariables other origins settings := by
  induction origins generalizing settings with
  | nil => rfl
  | cons first rest ih =>
    rw [List.forall_mem_cons] at same
    have later := ih same.2
    have given : first.given? lookup = first.given? other := by
      rw [LegacyVariable.given?, same.1]
      rfl
    cases said : first.given? other with
    | none =>
      rw [applyVariables_of_absent (given.trans said), applyVariables_of_absent said]
      exact later settings
    | some raw =>
      rw [applyVariables_of_given (given.trans said), applyVariables_of_given said]
      cases first.field.kind.ofText? raw with
      | none => rfl
      | some value => exact later _

/-- A field that has been set beforehand is as good as its variable. -/
theorem checked_applyVariables_set {value : origin.field.kind.Value} (among : origin ∈ origins)
    (once : (origins.map LegacyVariable.field).Nodup)
    (same : ∀ listed ∈ origins, listed ≠ origin → lookup listed.name = other listed.name)
    (unset : origin.given? lookup = none) (given : origin.given? other = some text)
    (read : origin.field.kind.ofText? text = some value) (settings : Settings) :
    checked (applyVariables lookup origins (origin.field.set settings value)) =
      checked (applyVariables other origins settings) := by
  induction origins generalizing settings with
  | nil => cases among
  | cons first rest ih =>
    rw [List.map_cons, List.nodup_cons] at once
    rw [List.forall_mem_cons] at same
    have alone : ∀ listed ∈ rest, listed.field ≠ first.field := fun listed among equal =>
      once.1 (equal ▸ List.mem_map_of_mem among)
    obtain rfl | later := List.mem_cons.mp among
    · have unlike : ∀ listed ∈ rest, listed ≠ origin := by
        rintro listed listedLater rfl
        exact alone listed listedLater rfl
      rw [applyVariables_of_absent unset, applyVariables_of_given given, read]
      exact congrArg checked
        (applyVariables_congr (fun listed among => same.2 listed among (unlike listed among)) _)
    · have different : origin.field ≠ first.field := alone origin later
      have unlike : first ≠ origin := fun equal => different (equal ▸ rfl)
      have first_same : first.given? lookup = first.given? other := by
        rw [LegacyVariable.given?, same.1 unlike]
        rfl
      cases said : first.given? other with
      | none =>
        rw [applyVariables_of_absent (first_same.trans said), applyVariables_of_absent said]
        exact ih later once.2 same.2 settings
      | some raw =>
        rw [applyVariables_of_given (first_same.trans said), applyVariables_of_given said]
        cases first.field.kind.ofText? raw with
        | none => rfl
        | some second =>
          simp only
          rw [← Field.set_comm different]
          exact ih later once.2 same.2 _

end Legacy

/-! ## Loading -/

/-- The tree of the names and the files, without variables. -/
def filesTree (formats : Formats) (service : String) (environment : Environment)
    (files : FileTree) : Except ServiceError Tree :=
  ((filePaths service environment).mapM (fileLayer formats files)).map fun layers =>
    addLayer .empty (names service (environmentName environment) ++ layers.flatten)

/-- The variables are laid over the files. -/
theorem layeredTree_eq_filesTree (formats : Formats) (service : String)
    (environment : Environment) (files : FileTree) :
    layeredTree formats service environment files =
      (filesTree formats service environment files).map (addLayer · environment.settings) := by
  rw [layeredTree_eq, filesTree]
  cases (filePaths service environment).mapM (fileLayer formats files) with
  | error error => rfl
  | ok layers =>
    have laid := Field.addLayer_append .empty
      (names service (environmentName environment) ++ layers.flatten) environment.settings
    rw [List.append_assoc] at laid
    exact congrArg Except.ok laid

/-- What the files say together is a table. -/
theorem filesTree_isTable {formats : Formats} {service : String} {environment : Environment}
    {files : FileTree} {tree : Tree}
    (found : filesTree formats service environment files = .ok tree) :
    tree = .table tree.members := by
  unfold filesTree at found
  cases read : (filePaths service environment).mapM (fileLayer formats files) with
  | error error =>
    rw [read] at found
    cases found
  | ok layers =>
    rw [read] at found
    cases found
    exact addLayer_isTable _ rfl

/-- A name that leads to no setting is not that of the variable of a field. -/
theorem ne_variableName {name : String} (leads : Environment.settingName? name = none)
    (field : Field) : name ≠ field.variableName := by
  rintro rfl
  rw [field.settingName?_variableName] at leads
  cases leads

/-- The text of a value, if it is one. -/
def Kind.text? : (kind : Kind) → kind.Value → Option String
  | .text, value => some value
  | .word16, _ | .word32, _ | .word64, _ | .truth, _ => none

/-- The variable of a setting that is a text stands for its text. -/
theorem Kind.ofText?_text {kind : Kind} (isText : kind = .text) (text : String) :
    ∃ value, kind.ofText? text = some value ∧ kind.text? value = some text := by
  subst isText
  exact ⟨text, rfl, rfl⟩

/-- A text is read as the same value from a file as from a variable. -/
theorem Kind.ofTree?_text {kind : Kind} (isText : kind = .text) {text : String} {tree : Tree}
    (spells : tree.toText? = some text) : kind.ofTree? tree = kind.ofText? text := by
  subst isText
  exact spells

end Settings

namespace LegacyVariable

/-- No two of the older variables have the same name. -/
theorem name_injective : Function.Injective LegacyVariable.name := by
  intro origin other
  cases origin <;> cases other <;> decide

/-- Every older variable sets a setting of some section. -/
theorem exists_section (origin : LegacyVariable) :
    ∃ name, origin.field.section? = some name := by
  cases origin <;> exact ⟨_, rfl⟩

end LegacyVariable

namespace Settings

section Loading

variable {origin : LegacyVariable} {text : String} {first second : Environment}
variable {formats : Formats} {service : String} {files : FileTree}

/-- The same files are read. -/
theorem Renamed.filesTree_eq (renamed : Renamed origin text first second) (formats : Formats)
    (service : String) (files : FileTree) :
    filesTree formats service first files = filesTree formats service second files := by
  have named : first.find? "MINICHAT_ENV" = second.find? "MINICHAT_ENV" :=
    renamed.find?_eq (ne_variableName (by decide +kernel) _) (by cases origin <;> decide)
  have placed : first.find? "CONFIG_DIR" = second.find? "CONFIG_DIR" :=
    renamed.find?_eq (ne_variableName (by decide +kernel) _) (by cases origin <;> decide)
  have paths : filePath first = filePath second := by
    funext name
    rw [filePath, filePath, placed]
  simp only [filesTree, filePaths, environmentName, named, paths]

/-- All other older variables are given the same. -/
theorem Renamed.legacy_eq (renamed : Renamed origin text first second) {other : LegacyVariable}
    (unlike : other ≠ origin) : first.find? other.name = second.find? other.name := by
  have notOwn := ne_variableName (Environment.settingName?_legacy other) origin.field
  exact renamed.find?_eq notOwn fun same => unlike (LegacyVariable.name_injective same)

/-- A field that has been given the value of an older variable has it when loading is over. -/
theorem ofText?_of_applied {lookup : String → Option String} {found settings : Settings}
    (given : origin.given? lookup = some text)
    (applied : applyVariables lookup LegacyVariable.all found = (settings, .ok ())) :
    origin.field.kind.ofText? text = some (origin.field.value settings) := by
  have comes : Applied lookup LegacyVariable.all found (settings, .ok ()) :=
    applied ▸ applyVariables_applied nodup_fields found
  cases comes with
  | wholly readable replaced => exact replaced.held origin origin.mem_all text given

/-- Reading the layers and applying the older variables gives the same. -/
theorem Renamed.read_eq (renamed : Renamed origin text first second)
    {value : origin.field.kind.Value}
    (converted : origin.field.kind.ofTree? (Environment.leaf text) = some value)
    (read : origin.field.kind.ofText? text = some value)
    (given : origin.given? second.find? = some text)
    (readable : ∀ tree, layeredTree formats service second files = .ok tree →
      origin.field.IsReadable tree) :
    (layeredTree formats service first files >>= readTree >>= fun found =>
        checked (found.applyLegacy first.find?)) =
      (layeredTree formats service second files >>= readTree >>= fun found =>
        checked (found.applyLegacy second.find?)) := by
  obtain ⟨name, belongs⟩ := origin.exists_section
  have layered := layeredTree_eq_filesTree formats service second files
  rw [layeredTree_eq_filesTree formats service first files,
    renamed.filesTree_eq formats service files, layered]
  cases is : filesTree formats service second files with
  | error error => rfl
  | ok base =>
    rw [is] at layered
    have same := renamed.ofTree?_eq belongs converted (filesTree_isTable is) (readable _ layered)
    change (readTree (addLayer base first.settings) >>= fun found => _) =
      (readTree (addLayer base second.settings) >>= fun found => _)
    rw [readTree, readTree, same]
    cases ofTree? (addLayer base second.settings) with
    | none => rfl
    | some found =>
      exact checked_applyVariables_set origin.mem_all nodup_fields
        (fun other _ unlike => renamed.legacy_eq unlike) renamed.unset given read found

/-- A setting that is a text can be given by either of its two variables: loading gives the same,
and what it gives has the text. -/
theorem load_renamed (isText : origin.field.kind = .text) (filled : text ≠ "")
    (plain : (Environment.leaf text).toText? = some text)
    (renamed : Renamed origin text (completeEnvironment first files)
      (completeEnvironment second files))
    (readable : ∀ tree,
      layeredTree formats service (completeEnvironment second files) files = .ok tree →
      origin.field.IsReadable tree) :
    load formats service first files = load formats service second files ∧
      ∀ settings, load formats service first files = .ok settings →
        origin.field.kind.text? (origin.field.value settings) = some text := by
  obtain ⟨value, read, is⟩ := Kind.ofText?_text isText text
  have converted := (Kind.ofTree?_text isText plain).trans read
  have given : origin.given? (completeEnvironment second files).find? = some text := by
    rw [LegacyVariable.given?, renamed.legacy, Option.filter_some, if_pos (by simpa using filled)]
  have same : load formats service first files = load formats service second files := by
    rw [load_eq, load_eq]
    exact renamed.read_eq converted read given readable
  refine ⟨same, fun settings loaded => ?_⟩
  obtain ⟨_, found, _, _, applied⟩ := load_ok (same.symm.trans loaded)
  have held := ofText?_of_applied given applied
  rw [read] at held
  rw [← Option.some.inj held]
  exact is

end Loading

/-- A file that names the queue of usage events. -/
def namedFile : FileTree :=
  .ofPaths [("config/default.toml", "[rabbitmq]\nusage_queue=\"t\"\nprefetch_count=3\n")] ""

/-- The queue of usage events can be named by either variable, though a file names it too. -/
theorem usageQueue_renamed :
    let own : Environment := [("HOME", "/"), ("MINICHAT__RABBITMQ__USAGE_QUEUE", "spent")]
    let legacy : Environment := [("WORKER_USAGE_QUEUE", "spent"), ("HOME", "/")]
    (load .native "minichat-worker" own namedFile).toOption.map (·.broker.prefetch) = some 3 ∧
      load .native "minichat-worker" own namedFile =
        load .native "minichat-worker" legacy namedFile := by
  intro own legacy
  have renamed : Renamed .usageQueue "spent" (completeEnvironment own namedFile)
      (completeEnvironment legacy namedFile) :=
    { own := ⟨[("HOME", "/")], [], rfl, by simp⟩, unset := rfl, legacy := rfl, others := rfl }
  have readable :
      ∀ tree ∈ (layeredTree .native "minichat-worker" (completeEnvironment legacy namedFile)
        namedFile).toOption, LegacyVariable.usageQueue.field.IsReadable tree := by
    decide +kernel
  refine ⟨by decide +kernel, (load_renamed rfl (by decide) (by decide +kernel) renamed ?_).1⟩
  intro tree is
  refine readable tree ?_
  rw [is]
  rfl

end Settings

end EventLedger
