import EventLedger.Proofs.Fields
import EventLedger.Settings.Layers

/-!
# Layers over one another

What stands in a tree after a layer has been laid over it is what the layer says there, and what
stood there before if the layer says nothing. Only what a leaf is converted to is looked at, since a
table is merged with one below it, and no table is converted.
-/
namespace EventLedger.Settings

open EventLedger.Settings.Path (ofName)

namespace Tree

/-! ## Members -/

/-- What stands behind a key after something has been put behind one. -/
theorem lookup_put (key other : String) (tree : Tree) (members : List (String × Tree)) :
    (put key tree members).lookup other =
      if key = other then some tree else members.lookup other := by
  induction members with
  | nil =>
    by_cases same : key = other
    · simp [put, same]
    · simp [put, same, List.lookup_cons, beq_false_of_ne (Ne.symm same)]
  | cons member rest ih =>
    obtain ⟨name, value⟩ := member
    rw [put]
    by_cases here : name = key
    · subst here
      by_cases same : name = other
      · simp [same]
      · simp [same, List.lookup_cons, beq_false_of_ne (Ne.symm same)]
    · rw [if_neg here]
      by_cases found : name = other
      · subst found
        simp [Ne.symm here]
      · simp only [List.lookup_cons, beq_false_of_ne (Ne.symm found), ih]

/-- What the first member of a table says counts where the others say nothing. -/
theorem said?_cons (key : String) (keys : List String) (member : String × Tree)
    (rest : List (String × Tree)) :
    (table (member :: rest)).said? (key :: keys) =
      ((table rest).said? (key :: keys)).or ((table [member]).said? (key :: keys)) := rfl

/-- A table of one member says what that member says, under its name. -/
theorem said?_singleton (key : String) (keys : List String) (name : String) (tree : Tree) :
    (table [(name, tree)]).said? (key :: keys) =
      if name = key then tree.said? keys else none := rfl

/-- What is converted of a tree does not depend on what it is laid over. -/
def Replaces {α : Type} (convert : Tree → Option α) : Prop :=
  ∀ base above, convert (overlay base above) = convert above

variable {α : Type} {convert : Tree → Option α}

/-- What stands behind a key after members have been laid over others. -/
theorem lookup_overlayMembers (replaces : Replaces convert) (key : String)
    (base above : List (String × Tree)) :
    ((overlayMembers base above).lookup key).map convert =
      (((table above).said? [key]).map convert).or ((base.lookup key).map convert) := by
  induction above generalizing base with
  | nil => rfl
  | cons member rest ih =>
    obtain ⟨name, tree⟩ := member
    rw [overlayMembers, ih, lookup_put, said?_cons, said?_singleton, Option.map_or,
      Option.or_assoc]
    congr 1
    by_cases same : name = key
    · rw [if_pos same, if_pos same, said?, Option.map_some, Option.map_some, replaces,
        Option.some_or]
    · rw [if_neg same, if_neg same, Option.map_none, Option.none_or]

/-! ## Places -/

/-- No path is apart from a setting with no name. -/
theorem not_apart_nil (path : Path) : ¬Apart path [] := by
  cases path with
  | nil => exact id
  | cons step _ => cases step <;> exact id

/-- A way that parts from names begins with a name, and parts further on if this is the first of
them. -/
theorem apart_cons {path : Path} {key : String} {keys : List String}
    (apart : Apart path (key :: keys)) :
    ∃ name rest, path = .key name :: rest ∧ (name = key → Apart rest keys) := by
  cases path with
  | nil => cases apart
  | cons step rest =>
    cases step with
    | position index => cases apart
    | key name => exact ⟨name, rest, rfl, fun same => apart.resolve_left (absurd same)⟩

/-- Behind what is missing there is nothing. -/
theorem at?_find (key : String) (members : List (String × Tree)) {keys : List String}
    (more : keys ≠ []) : (find key members).at? keys = (members.lookup key).bind (at? keys) := by
  unfold find
  cases members.lookup key with
  | some inner => rfl
  | none =>
    cases keys with
    | nil => exact absurd rfl more
    | cons _ _ => rfl

/-- A change below a name changes what is found under that name. -/
theorem lookup_change_self (next : Tree → Tree) (name : String) (path : Path) (tree : Tree) :
    (change next (.key name :: path) tree).members.lookup name =
      some (change next path (find name tree.members)) := by
  change (put name _ tree.members).lookup name = _
  rw [lookup_put, if_pos rfl]

/-- It changes nothing that is found under another one. -/
theorem lookup_change_of_ne (next : Tree → Tree) {name other : String} (different : name ≠ other)
    (path : Path) (tree : Tree) :
    (change next (.key name :: path) tree).members.lookup other = tree.members.lookup other := by
  change (put name _ tree.members).lookup other = _
  rw [lookup_put, if_neg different]

/-- What stands at the end of a way that parts from a change stays. -/
theorem at?_change_of_apart {next : Tree → Tree} {path : Path} {keys : List String}
    (apart : Apart path keys) (tree : Tree) : (change next path tree).at? keys = tree.at? keys := by
  induction keys generalizing path tree with
  | nil => exact absurd apart (not_apart_nil path)
  | cons key keys ih =>
    obtain ⟨name, rest, rfl, further⟩ := apart_cons apart
    rw [at?]
    by_cases same : name = key
    · subst same
      have more : keys ≠ [] := fun none => not_apart_nil rest (none ▸ further rfl)
      rw [lookup_change_self, Option.bind_some, ih (further rfl), at?_find name _ more]
      rfl
    · rw [lookup_change_of_ne next same]
      rfl

/-- What stands behind the end of a change comes of what stood there, or of the empty tables that
are filled in where a name is missing. -/
theorem at?_change (next : Tree → Tree) (names rest : List String) (tree : Tree) :
    ∃ here : Tree, (change next (names.map .key) tree).at? (names ++ rest) = (next here).at? rest ∧
      (rest ≠ [] → here.at? rest = tree.at? (names ++ rest)) := by
  induction names generalizing tree with
  | nil => exact ⟨tree, rfl, fun _ => rfl⟩
  | cons name names ih =>
    obtain ⟨here, changed, same⟩ := ih (find name tree.members)
    refine ⟨here, ?_, fun more => (same more).trans ?_⟩
    · rw [List.map_cons, List.cons_append, at?, lookup_change_self, Option.bind_some]
      exact changed
    · exact at?_find name _ (List.append_ne_nil_of_right_ne_nil names more)

/-- What is laid over the end of a way is converted as it is. -/
theorem at?_set_end {name : String} {keys : List String} (path : ofName name = keys.map .key)
    (replaces : Replaces convert) (tree above : Tree) :
    ((tree.set name above).at? keys).map convert = some (convert above) := by
  obtain ⟨here, changed, _⟩ := at?_change (overlay · above) keys [] tree
  rw [List.append_nil] at changed
  rw [set, path, changed, at?, Option.map_some, replaces]

/-- What is laid over a section is what it says about each name in it. -/
theorem at?_set_section {name : String} (path : ofName name = [.key name])
    (replaces : Replaces convert) (tree : Tree) (key : String) (members : List (String × Tree)) :
    ((tree.set name (.table members)).at? [name, key]).map convert =
      (((table members).said? [key]).map convert).or ((tree.at? [name, key]).map convert) := by
  obtain ⟨here, changed, same⟩ := at?_change (overlay · (.table members)) [name] [key] tree
  rw [List.singleton_append] at changed same
  rw [set, path]
  change Option.map convert (at? [name, key] (change _ ([name].map .key) tree)) = _
  rw [changed, ← same (List.cons_ne_nil _ _), at?_singleton, at?_singleton, overlay]
  exact lookup_overlayMembers replaces key here.members members

/-- Nothing is said behind another name. -/
theorem said?_of_apart {name key : String} {keys : List String} (plain : ofName key = [.key key])
    (apart : Apart (ofName name) (key :: keys)) (above : Tree) :
    (table [(name, above)]).said? (key :: keys) = none := by
  have different : name ≠ key := by
    rintro rfl
    rw [plain] at apart
    exact apart.elim (fun different => different rfl) id
  rw [said?_singleton, if_neg different]

end Tree

/-- A table is merged, and is converted to nothing. -/
theorem Kind.replaces (kind : Kind) : Tree.Replaces kind.ofTree? := by
  intro base above
  cases above with
  | table members => cases kind <;> rfl
  | _ => rfl

namespace Field

variable (field : Field)

/-! ## The names of fields -/

/-- The name of a section is a path of one key. -/
theorem ofName_section {name : String} (belongs : field.section? = some name) :
    ofName name = [.key name] := by
  cases field <;> cases belongs <;> decide +kernel

/-- So is the name of a setting in its section. -/
theorem ofName_name : ofName field.name = [.key field.name] := by
  cases field <;> decide +kernel

/-- The variable of a setting spells its keys with points between them. -/
theorem settingName?_variableName :
    Environment.settingName? field.variableName = some (".".intercalate field.keys) := by
  cases field <;> decide +kernel

/-- These are read as its path. -/
theorem ofName_keys : ofName (".".intercalate field.keys) = field.keys.map .key := by
  cases field <;> decide +kernel

/-- The first name that leads to a field is no longer way. -/
theorem keys_eq_cons : ∃ key rest, field.keys = key :: rest ∧ ofName key = [.key key] := by
  cases belongs : field.section? with
  | none => exact ⟨_, _, field.keys_of_alone belongs, field.ofName_name⟩
  | some name => exact ⟨_, _, field.keys_of_section belongs, field.ofName_section belongs⟩

/-! ## What a layer does to a field -/

/-- What one member of a file does to a field is what it says about the field. -/
theorem at?_set_member {name : String} {above : Tree} (documented : IsDocumented name above)
    (tree : Tree) :
    ((tree.set name above).at? field.keys).map field.kind.ofTree? =
      (((Tree.table [(name, above)]).said? field.keys).map field.kind.ofTree?).or
        ((tree.at? field.keys).map field.kind.ofTree?) := by
  have replaces := field.kind.replaces
  obtain ⟨alone, rfl⟩ | ⟨belongs, isTable⟩ | apart := documented field
  · rw [field.keys_of_alone alone, Tree.at?_set_end field.ofName_name replaces,
      Tree.said?_singleton, if_pos rfl]
    rfl
  · rw [isTable, field.keys_of_section belongs,
      Tree.at?_set_section (field.ofName_section belongs) replaces, Tree.said?_singleton,
      if_pos rfl]
  · obtain ⟨key, rest, keys, plain⟩ := field.keys_eq_cons
    rw [Tree.set, Tree.at?_change_of_apart apart]
    rw [keys] at apart ⊢
    rw [Tree.said?_of_apart plain apart, Option.map_none, Option.none_or]

/-- What a file does to a field is what it says about the field. -/
theorem at?_addLayer_file {layer : List (String × Tree)}
    (documented : ∀ member ∈ layer, IsDocumented member.1 member.2) (tree : Tree) :
    ((addLayer tree layer).at? field.keys).map field.kind.ofTree? =
      (((Tree.table layer).said? field.keys).map field.kind.ofTree?).or
        ((tree.at? field.keys).map field.kind.ofTree?) := by
  induction layer generalizing tree with
  | nil =>
    obtain ⟨key, rest, keys, _⟩ := field.keys_eq_cons
    rw [keys]
    rfl
  | cons member layer ih =>
    rw [List.forall_mem_cons] at documented
    have first := field.at?_set_member documented.1 tree
    have later := ih documented.2 (tree.set member.1 member.2)
    obtain ⟨key, rest, keys, _⟩ := field.keys_eq_cons
    change ((addLayer (tree.set member.1 member.2) layer).at? _).map _ = _
    rw [later, first, keys, Tree.said?_cons key rest member layer, Option.map_or, Option.or_assoc]

/-- What a variable does to a field: its own gives it, and no other has to do with it. -/
theorem at?_set_variable {name path : String} (documented : IsDocumentedName name)
    (is : Environment.settingName? name = some path) (tree leaf : Tree) :
    ((tree.set path leaf).at? field.keys).map field.kind.ofTree? =
      if name = field.variableName then some (field.kind.ofTree? leaf)
      else (tree.at? field.keys).map field.kind.ofTree? := by
  by_cases own : name = field.variableName
  · rw [own, settingName?_variableName] at is
    obtain rfl := Option.some.inj is
    rw [if_pos own, Tree.at?_set_end field.ofName_keys field.kind.replaces]
  · have apart := (documented path is field).resolve_left own
    rw [if_neg own, Tree.set, Tree.at?_change_of_apart apart]

/-- Layers one after another are added one after another. -/
theorem addLayer_append (tree : Tree) (first second : List (String × Tree)) :
    addLayer tree (first ++ second) = addLayer (addLayer tree first) second := List.foldl_append

/-- The variables of an environment make settings in their order. -/
theorem settings_append (first second : Environment) :
    Environment.settings (first ++ second) = first.settings ++ second.settings :=
  List.filterMap_append

/-- The first variable is set before the others, if it is one of a setting. -/
theorem addLayer_settings_cons (tree : Tree) (name text : String) (rest : Environment) :
    addLayer tree (Environment.settings ((name, text) :: rest)) =
      addLayer (match Environment.settingName? name with
        | none => tree
        | some path => tree.set path (Environment.leaf text)) (Environment.settings rest) := by
  cases is : Environment.settingName? name <;> simp [Environment.settings, is, addLayer]

/-- What the variables do to a field is what its variable says. -/
theorem at?_addLayer_variables {environment : Environment}
    (once : (environment.map Prod.fst).Nodup)
    (documented : ∀ name ∈ environment.map Prod.fst, IsDocumentedName name) (tree : Tree) :
    ((addLayer tree environment.settings).at? field.keys).map field.kind.ofTree? =
      (((environment.find? field.variableName).map Environment.leaf).map field.kind.ofTree?).or
        ((tree.at? field.keys).map field.kind.ofTree?) := by
  induction environment generalizing tree with
  | nil => rfl
  | cons entry rest ih =>
    obtain ⟨name, text⟩ := entry
    rw [List.map_cons, List.nodup_cons] at once
    rw [List.map_cons, List.forall_mem_cons] at documented
    rw [addLayer_settings_cons, ih once.2 documented.2, Environment.find?, Environment.find?,
      List.lookup_cons]
    cases is : Environment.settingName? name with
    | none =>
      have different : (field.variableName == name) = false := by
        refine beq_false_of_ne fun same => ?_
        rw [← same, settingName?_variableName] at is
        cases is
      rw [different]
    | some path =>
      simp only
      rw [field.at?_set_variable documented.1 is]
      by_cases own : name = field.variableName
      -- The last of equal variables would win, and the first is found: there is only one.
      · have absent : rest.lookup field.variableName = none :=
          List.lookup_eq_none_iff.mpr fun entry among => by
            refine bne_iff_ne.mpr fun same => once.1 ?_
            have listed : entry.1 ∈ rest.map Prod.fst := List.mem_map_of_mem among
            rwa [← same, ← own] at listed
        rw [own, absent]
        simp
      · rw [if_neg own, beq_false_of_ne (Ne.symm own)]

/-! ## Sections -/

/-- The section of a field is a table, if it is there. -/
def HasTable (tree : Tree) : Prop :=
  ∀ name ∈ field.section?, ∀ inner, tree.members.lookup name = some inner →
    inner = .table inner.members

variable {field}

/-- A change leaves a section a table if it puts a table there or goes on in it. -/
theorem HasTable.change {next : Tree → Tree} {path : Path} {tree : Tree}
    (before : field.HasTable tree)
    (fits : ∀ name ∈ field.section?, Apart path [name, field.name] ∨
      (∃ key more, path = .key name :: .key key :: more) ∨
      path = [.key name] ∧ ∀ here, next here = .table (next here).members) :
    field.HasTable (Tree.change next path tree) := by
  intro name belongs inner found
  obtain apart | ⟨key, more, rfl⟩ | ⟨rfl, isTable⟩ := fits name belongs
  · obtain ⟨first, rest, rfl, further⟩ := Tree.apart_cons apart
    by_cases same : first = name
    · subst same
      obtain ⟨key, more, rfl, _⟩ := Tree.apart_cons (further rfl)
      rw [Tree.lookup_change_self] at found
      cases found
      rfl
    · rw [Tree.lookup_change_of_ne next same] at found
      exact before name belongs inner found
  · rw [Tree.lookup_change_self] at found
    cases found
    rfl
  · rw [Tree.lookup_change_self] at found
    cases found
    exact isTable _

/-- After something has been put at the place of a field, the section of the field is a table. -/
theorem hasTable_change (next : Tree → Tree) (tree : Tree) :
    field.HasTable (Tree.change next (field.keys.map .key) tree) := by
  intro name belongs inner found
  rw [field.keys_of_section belongs, List.map_cons, Tree.lookup_change_self] at found
  obtain rfl := Option.some.inj found
  rfl

/-- A documented file leaves the table of a setting's section where it is. -/
theorem HasTable.addLayer_file {layer : List (String × Tree)}
    (documented : ∀ member ∈ layer, IsDocumented member.1 member.2) {tree : Tree}
    (before : field.HasTable tree) : field.HasTable (addLayer tree layer) := by
  induction layer generalizing tree with
  | nil => exact before
  | cons member rest ih =>
    rw [List.forall_mem_cons] at documented
    refine ih documented.2 (before.change fun name belongs => ?_)
    obtain ⟨alone, _⟩ | ⟨own, isTable⟩ | apart := documented.1 field
    · rw [alone] at belongs
      cases belongs
    · have same : member.1 = name := Option.some.inj (own.symm.trans belongs)
      refine .inr (.inr ⟨?_, fun here => ?_⟩)
      · rw [same, field.ofName_section belongs]
      · rw [isTable]
        rfl
    · rw [field.keys_of_section belongs] at apart
      exact .inl apart

/-- So do variables with documented names. -/
theorem HasTable.addLayer_variables {environment : Environment}
    (documented : ∀ name ∈ environment.map Prod.fst, IsDocumentedName name) {tree : Tree}
    (before : field.HasTable tree) : field.HasTable (addLayer tree environment.settings) := by
  induction environment generalizing tree with
  | nil => exact before
  | cons entry rest ih =>
    obtain ⟨name, text⟩ := entry
    rw [List.map_cons, List.forall_mem_cons] at documented
    rw [addLayer_settings_cons]
    refine ih documented.2 ?_
    cases is : Environment.settingName? name with
    | none => exact before
    | some path =>
      refine before.change fun section' belongs => ?_
      have keys := field.keys_of_section belongs
      obtain rfl | apart := documented.1 path is field
      · rw [settingName?_variableName] at is
        obtain rfl := Option.some.inj is
        rw [ofName_keys, keys]
        exact .inr (.inl ⟨_, _, rfl⟩)
      · rw [keys] at apart
        exact .inl apart

end Field

end EventLedger.Settings
