import EventLedger.Proofs.Layering

/-!
# Trees that differ in one place

Two trees may say different things about one field and the same about everything else. The settings
that are read from them then differ in this field at most: reading goes through the entries one
after another, the entry of the field reads what it finds, and every other one does the same as
before to settings in which the field has another value.
-/
namespace EventLedger.Settings

/-! ## Entries -/

namespace Entry

/-- What an entry does with what is said behind its name. -/
def act (entry : Entry) : Option Tree → Settings → Option Settings
  | none, before => some before
  | some tree, before => entry.assign tree before

/-- An entry does the same to settings that have been changed. -/
def Commutes (entry : Entry) (change : Settings → Settings) : Prop :=
  ∀ tree before, entry.assign tree (change before) = (entry.assign tree before).map change

/-- What an entry does commutes with a change, whatever is said of the entry. -/
theorem Commutes.act {entry : Entry} {change : Settings → Settings}
    (commutes : entry.Commutes change) (said : Option Tree) (before : Settings) :
    entry.act said (change before) = (entry.act said before).map change := by
  cases said with
  | none => rfl
  | some tree => exact commutes tree before

end Entry

/-- A member-by-member reading acts on one entry after the other. -/
theorem assignNamed_cons (members : List (String × Tree)) (entry : Entry) (rest : List Entry)
    (before : Settings) :
    assignNamed members (entry :: rest) before =
      (entry.act (members.lookup entry.name) before).bind (assignNamed members rest) := by
  rw [assignNamed]
  cases members.lookup entry.name <;> rfl

/-- Where nothing is said, nothing is changed. -/
theorem assignNamed_nil (entries : List Entry) (before : Settings) :
    assignNamed [] entries before = some before := by
  induction entries with
  | nil => rfl
  | cons entry rest ih => exact ih

section Changes

variable {change : Settings → Settings} {entries : List Entry}
variable {members others : List (String × Tree)}

/-- A change can be made after a computation if each way to go on can make it later. -/
theorem bind_map_change {first : Option Settings} {next later : Settings → Option Settings}
    (goesOn : ∀ found, next (change found) = (later found).map change) :
    (first.map change).bind next = (first.bind later).map change := by
  cases first with
  | none => rfl
  | some found => exact goesOn found

/-- Entries that do the same to changed settings do so together. -/
theorem assignNamed_commutes (commute : ∀ entry ∈ entries, entry.Commutes change)
    (same : ∀ entry ∈ entries, members.lookup entry.name = others.lookup entry.name)
    (before : Settings) :
    assignNamed members entries (change before) =
      (assignNamed others entries before).map change := by
  induction entries generalizing before with
  | nil => rfl
  | cons entry rest ih =>
    rw [List.forall_mem_cons] at commute same
    rw [assignNamed_cons, assignNamed_cons, same.1, commute.1.act]
    exact bind_map_change (ih commute.2 same.2)

/-- A reading of values in their order commutes with what its entries commute with. -/
theorem assignInOrder_commutes (commute : ∀ entry ∈ entries, entry.Commutes change)
    (trees : List Tree) (before : Settings) :
    assignInOrder entries trees (change before) =
      (assignInOrder entries trees before).map change := by
  induction entries generalizing trees before with
  | nil => rfl
  | cons entry rest ih =>
    rw [List.forall_mem_cons] at commute
    cases trees with
    | nil => rfl
    | cons tree trees =>
      rw [assignInOrder, assignInOrder, commute.1]
      exact bind_map_change (ih commute.2 trees)

/-- So does a reading of either form. -/
theorem readEntries_commutes (commute : ∀ entry ∈ entries, entry.Commutes change) (tree : Tree)
    (before : Settings) :
    readEntries entries tree (change before) = (readEntries entries tree before).map change := by
  unfold readEntries
  split
  · exact assignNamed_commutes commute (fun _ _ => rfl) before
  · exact assignInOrder_commutes commute _ before
  · rfl

/-- When the members differ in what they say to one entry, and what it does with them differs by a
change, then so does what all entries do. -/
theorem assignNamed_of_differs {entry : Entry} (among : entry ∈ entries)
    (names : (entries.map Entry.name).Nodup)
    (commute : ∀ other ∈ entries, other.name ≠ entry.name → other.Commutes change)
    (same : ∀ name, name ≠ entry.name → members.lookup name = others.lookup name)
    (here : ∀ before, entry.act (members.lookup entry.name) before =
      (entry.act (others.lookup entry.name) before).map change) (before : Settings) :
    assignNamed members entries before = (assignNamed others entries before).map change := by
  induction entries generalizing before with
  | nil => cases among
  | cons first rest ih =>
    rw [List.map_cons, List.nodup_cons] at names
    rw [List.forall_mem_cons] at commute
    rw [assignNamed_cons, assignNamed_cons]
    obtain rfl | later := List.mem_cons.mp among
    · have unlike : ∀ other ∈ rest, other.name ≠ entry.name := fun other listed equal =>
        names.1 (equal ▸ List.mem_map_of_mem listed)
      rw [here]
      refine bind_map_change (assignNamed_commutes ?_ ?_)
      · exact fun other listed => commute.2 other listed (unlike other listed)
      · exact fun other listed => same other.name (unlike other listed)
    · have different : first.name ≠ entry.name := fun equal =>
        names.1 (equal ▸ List.mem_map_of_mem later)
      rw [same first.name different]
      cases first.act (others.lookup first.name) before with
      | none => rfl
      | some next => exact ih later names.2 commute.2 next

end Changes

/-! ## Fields -/

variable {field : Field}

/-- The entry of one setting commutes with a change of another. -/
theorem fieldEntry_commutes {other : Field} (different : other ≠ field) (value : field.kind.Value) :
    (fieldEntry other).Commutes (field.set · value) := by
  intro tree before
  change (other.kind.ofTree? tree).map _ = ((other.kind.ofTree? tree).map _).map _
  rw [Option.map_map]
  congr 1
  funext second
  exact Field.set_comm different before second value

/-- The entry of a section commutes with a change of a setting outside it. -/
theorem sectionEntry_commutes {name : String} {fields : List Field}
    (each : ∀ other ∈ fields, other.section? = some name) (outside : field.section? ≠ some name)
    (value : field.kind.Value) : (sectionEntry name fields).Commutes (field.set · value) := by
  have apart : ∀ entry ∈ fields.map fieldEntry, entry.Commutes (field.set · value) := by
    refine List.forall_mem_map.mpr fun other among => fieldEntry_commutes ?_ value
    rintro rfl
    exact outside (each other among)
  exact fun tree before => readEntries_commutes apart tree before

/-- Each entry behind another name than that of a field does the same to settings in which the field
has another value. -/
theorem entries_commute {other : Entry} (among : other ∈ entries)
    (different : other.name ≠ field.section?.getD field.name) (value : field.kind.Value) :
    other.Commutes (field.set · value) := by
  simp only [entries, List.mem_append, List.mem_map, List.mem_cons, List.not_mem_nil,
    or_false] at among
  obtain (rfl | rfl) | ⟨⟨name, fields⟩, listed, rfl⟩ := among
  · refine fieldEntry_commutes ?_ value
    rintro rfl
    exact different rfl
  · refine fieldEntry_commutes ?_ value
    rintro rfl
    exact different rfl
  · refine sectionEntry_commutes (section?_of_mem_sections _ listed).1 (fun belongs => ?_) value
    refine different ?_
    rw [belongs]
    rfl

/-- What the entry of a field does with a value is what it does with another one, and the value set
after it. -/
theorem fieldEntry_act {leaf : Tree} {said : Option Tree} {value : field.kind.Value}
    (given : field.kind.ofTree? leaf = some value)
    (readable : ∀ tree, said = some tree → (field.kind.ofTree? tree).isSome) (before : Settings) :
    (fieldEntry field).act (some leaf) before =
      ((fieldEntry field).act said before).map (field.set · value) := by
  have own : (fieldEntry field).act (some leaf) before = some (field.set before value) := by
    change (field.kind.ofTree? leaf).map _ = _
    rw [given]
    rfl
  rw [own]
  cases said with
  | none => rfl
  | some tree =>
    obtain ⟨second, read⟩ := Option.isSome_iff_exists.mp (readable tree rfl)
    change _ = ((field.kind.ofTree? tree).map _).map _
    rw [read, Option.map_some, Option.map_some, Field.set_set]

/-! ## Trees -/

/-- Two trees say the same but for what stands at the end of a way of names. -/
def Tree.AgreeOff : (keys : List String) → Tree → Tree → Prop
  | [], _, _ => True
  | key :: keys, first, second =>
    (∀ other, other ≠ key → first.members.lookup other = second.members.lookup other) ∧
      AgreeOff keys (find key first.members) (find key second.members)

namespace Tree.AgreeOff

variable {keys : List String} {first second third : Tree}

/-- A tree agrees with itself. -/
theorem refl (keys : List String) (tree : Tree) : AgreeOff keys tree tree := by
  induction keys generalizing tree with
  | nil => trivial
  | cons key keys ih => exact ⟨fun _ _ => rfl, ih _⟩

/-- Agreement is mutual. -/
theorem symm (agree : AgreeOff keys first second) : AgreeOff keys second first := by
  induction keys generalizing first second with
  | nil => trivial
  | cons key keys ih => exact ⟨fun other unlike => (agree.1 other unlike).symm, ih agree.2⟩

/-- Agreement carries over. -/
theorem trans (agree : AgreeOff keys first second) (later : AgreeOff keys second third) :
    AgreeOff keys first third := by
  induction keys generalizing first second third with
  | nil => trivial
  | cons key keys ih =>
    exact ⟨fun other unlike => (agree.1 other unlike).trans (later.1 other unlike),
      ih agree.2 later.2⟩

/-- A change in the one place is not seen elsewhere. -/
theorem change_self (next : Tree → Tree) (keys : List String) (tree : Tree) :
    AgreeOff keys (Tree.change next (keys.map .key) tree) tree := by
  induction keys generalizing tree with
  | nil => trivial
  | cons key keys ih =>
    refine ⟨fun other unlike => lookup_change_of_ne next (Ne.symm unlike) _ tree, ?_⟩
    have inside : find key (Tree.change next (.key key :: keys.map .key) tree).members =
        Tree.change next (keys.map .key) (find key tree.members) := by
      rw [find, lookup_change_self]
      rfl
    rw [List.map_cons, inside]
    exact ih _

/-- Trees agree after the same has been put anywhere in both. -/
theorem change {next : Tree → Tree} (same : ∀ here there, next here = next there) (path : Path)
    (agree : AgreeOff keys first second) :
    AgreeOff keys (Tree.change next path first) (Tree.change next path second) := by
  induction keys generalizing path first second with
  | nil => trivial
  | cons key keys ih =>
    match path with
    | [] =>
      change AgreeOff _ (next first) (next second)
      rw [same first second]
      exact refl _ _
    | .position index :: path =>
      -- Neither is a table any more, and so neither has members.
      exact refl (key :: keys) (.array [])
    | .key name :: path =>
      by_cases here : name = key
      · subst here
        refine ⟨fun other unlike => ?_, ?_⟩
        · rw [lookup_change_of_ne next (Ne.symm unlike), lookup_change_of_ne next (Ne.symm unlike)]
          exact agree.1 other unlike
        · rw [find, find, lookup_change_self, lookup_change_self]
          exact ih path agree.2
      · refine ⟨fun other unlike => ?_, ?_⟩
        · by_cases there : name = other
          · subst there
            have held : find name first.members = find name second.members := by
              rw [find, find, agree.1 name unlike]
            rw [lookup_change_self, lookup_change_self, held]
          · rw [lookup_change_of_ne next there, lookup_change_of_ne next there]
            exact agree.1 other unlike
        · rw [find, find, lookup_change_of_ne next here, lookup_change_of_ne next here]
          exact agree.2

end Tree.AgreeOff

/-- A section that is a table, if it is there, is read as its members. -/
theorem sectionEntry_act {members : List (String × Tree)} {name : String}
    (isTable : ∀ inner, members.lookup name = some inner → inner = .table inner.members)
    (fields : List Field) (before : Settings) :
    (sectionEntry name fields).act (members.lookup name) before =
      assignNamed (Tree.find name members).members (fields.map fieldEntry) before := by
  unfold Tree.find
  cases said : members.lookup name with
  | none => exact (assignNamed_nil _ before).symm
  | some inner =>
    change readEntries (fields.map fieldEntry) inner before = _
    rw [isTable inner said]
    rfl

/-- The settings of trees that differ at the place of a field differ in the field. -/
theorem ofTree?_of_agreeOff {first second : Tree} {name : String} {value : field.kind.Value}
    (belongs : field.section? = some name) (agree : Tree.AgreeOff field.keys first second)
    (firstTable : first = .table first.members) (secondTable : second = .table second.members)
    (firstSection : field.HasTable first) (secondSection : field.HasTable second)
    (given : (first.at? field.keys).bind field.kind.ofTree? = some value)
    (readable : ∀ leaf, second.at? field.keys = some leaf → (field.kind.ofTree? leaf).isSome) :
    ofTree? first = (ofTree? second).map (field.set · value) := by
  have place : ∀ tree : Tree, tree.at? field.keys =
      (Tree.find name tree.members).members.lookup field.name := by
    intro tree
    rw [field.keys_of_section belongs, ← Tree.at?_singleton, Tree.at?_find name _ (by simp)]
    rfl
  obtain ⟨leaf, there, converted⟩ := Option.bind_eq_some_iff.mp given
  rw [place] at there
  rw [field.keys_of_section belongs] at agree
  obtain ⟨others, inside, _⟩ := agree
  obtain ⟨⟨own, fields⟩, listed, same, within⟩ := exists_mem_sections belongs
  obtain rfl : own = name := same
  rw [firstTable, secondTable]
  change assignNamed first.members entries _ = (assignNamed second.members entries _).map _
  refine assignNamed_of_differs (List.mem_append_right _ (List.mem_map_of_mem listed))
    entries_names (fun other among different => ?_) others (fun before => ?_) _
  · refine entries_commute among ?_ value
    rwa [belongs]
  · change (sectionEntry own fields).act (first.members.lookup own) before =
      ((sectionEntry own fields).act (second.members.lookup own) before).map _
    rw [sectionEntry_act (firstSection own belongs), sectionEntry_act (secondSection own belongs)]
    have among : fieldEntry field ∈ fields.map fieldEntry := List.mem_map_of_mem within
    have once : ((fields.map fieldEntry).map Entry.name).Nodup := by
      rw [List.map_map]
      exact (section?_of_mem_sections _ listed).2
    have apart : ∀ other ∈ fields.map fieldEntry, other.name ≠ (fieldEntry field).name →
        other.Commutes (field.set · value) := by
      refine List.forall_mem_map.mpr fun other _ different => fieldEntry_commutes ?_ value
      rintro rfl
      exact different rfl
    refine assignNamed_of_differs among once apart inside (fun before => ?_) before
    change (fieldEntry field).act ((Tree.find own first.members).members.lookup field.name)
      before = _
    rw [there]
    refine fieldEntry_act converted (fun tree said => readable tree ?_) before
    rw [place]
    exact said

end EventLedger.Settings
