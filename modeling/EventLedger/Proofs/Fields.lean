import EventLedger.Settings.Decoding

/-!
# Fields that are read

What a tree says behind the names of a field is what the field takes from it, whatever else the tree
says: an entry changes the fields that it stands for and spares all others.
-/
namespace EventLedger.Settings

namespace Field

/-- A value that has been set is the value. -/
theorem value_set (settings : Settings) (field : Field) (value : field.kind.Value) :
    field.value (field.set settings value) = value := by
  cases field <;> rfl

/-- Setting a field spares all others. -/
theorem value_set_of_ne {field other : Field} (different : other ≠ field) (settings : Settings)
    (value : other.kind.Value) : field.value (other.set settings value) = field.value settings := by
  cases other <;> cases field <;> first | rfl | exact absurd rfl different

/-- Setting a field to the value that it has changes nothing. -/
theorem set_value (settings : Settings) (field : Field) :
    field.set settings (field.value settings) = settings := by
  cases field <;> rfl

/-- Settings are given by their fields. -/
theorem ext {first second : Settings}
    (same : ∀ field : Field, field.value first = field.value second) : first = second := by
  have serviceName : first.serviceName = second.serviceName := same .serviceName
  have environment : first.environment = second.environment := same .environment
  have database : first.database = second.database := by
    obtain ⟨_, _, ⟨_, _, _, _, _, _⟩, _, _, _⟩ := first
    obtain ⟨_, _, ⟨_, _, _, _, _, _⟩, _, _, _⟩ := second
    exact DatabaseSettings.mk.injEq .. ▸ ⟨same .databaseUrl, same .maxConnections,
      same .minConnections, same .connectTimeout, same .idleTimeout, same .pingTimeout⟩
  have broker : first.broker = second.broker := by
    obtain ⟨_, _, _, ⟨_, _, _, _⟩, _, _⟩ := first
    obtain ⟨_, _, _, ⟨_, _, _, _⟩, _, _⟩ := second
    exact BrokerSettings.mk.injEq .. ▸ ⟨same .brokerUrl, same .usageQueue, same .auditQueue,
      same .prefetch⟩
  have worker : first.worker = second.worker := by
    obtain ⟨_, _, _, _, ⟨_, _⟩, _⟩ := first
    obtain ⟨_, _, _, _, ⟨_, _⟩, _⟩ := second
    exact WorkerSettings.mk.injEq .. ▸ ⟨same .retryDelay, same .handleTimeout⟩
  have observability : first.observability = second.observability := by
    obtain ⟨_, _, _, _, _, ⟨_, _, _, _⟩⟩ := first
    obtain ⟨_, _, _, _, _, ⟨_, _, _, _⟩⟩ := second
    exact ObservabilitySettings.mk.injEq .. ▸ ⟨same .logLevel, same .logFormat,
      same .metricsEnabled, same .metricsPort⟩
  obtain ⟨_, _, _, _, _, _⟩ := first
  obtain ⟨_, _, _, _, _, _⟩ := second
  exact Settings.mk.injEq .. ▸ ⟨serviceName, environment, database, broker, worker, observability⟩

/-- Of two values that are set, the last one counts. -/
theorem set_set (settings : Settings) (field : Field) (first second : field.kind.Value) :
    field.set (field.set settings first) second = field.set settings second := by
  cases field <;> rfl

/-- Two fields can be set in any order. -/
theorem set_comm {field other : Field} (different : field ≠ other) (settings : Settings)
    (value : field.kind.Value) (second : other.kind.Value) :
    field.set (other.set settings second) value = other.set (field.set settings value) second := by
  refine ext fun looked => ?_
  by_cases own : field = looked
  · subst own
    have unlike : other ≠ field := Ne.symm different
    rw [value_set, value_set_of_ne unlike, value_set]
  · rw [value_set_of_ne own]
    by_cases others : other = looked
    · subst others
      rw [value_set, value_set]
    · rw [value_set_of_ne others, value_set_of_ne others, value_set_of_ne own]

/-- A field takes what has been said about it, if something has been said. -/
def Takes (field : Field) (said : Option Tree) (before after : Settings) : Prop :=
  match said with
  | none => field.value after = field.value before
  | some tree => field.kind.ofTree? tree = some (field.value after)

/-- Whether a setting takes what is said depends on its own value alone. -/
theorem Takes.congr {field : Field} {said : Option Tree} {before found next after : Settings}
    (takes : field.Takes said found next) (same : field.value found = field.value before)
    (last : field.value after = field.value next) : field.Takes said before after := by
  unfold Takes at takes ⊢
  cases said with
  | none => rw [last, ← same, ← takes]
  | some tree => rw [last, ← takes]

end Field

/-! ## Entries -/

/-- An entry does what is said behind its name. -/
def Entry.Does (entry : Entry) (said : Option Tree) (before after : Settings) : Prop :=
  match said with
  | none => after = before
  | some tree => entry.assign tree before = some after

/-- An entry changes nothing about a field. -/
def Entry.Spares (entry : Entry) (field : Field) : Prop :=
  ∀ tree before after, entry.assign tree before = some after →
    field.value after = field.value before

variable {field : Field} {members : List (String × Tree)} {before after : Settings}

/-- A member-by-member reading keeps what all of its entries spare. -/
theorem assignNamed_spares {entries : List Entry} (spare : ∀ entry ∈ entries, entry.Spares field)
    (assigned : assignNamed members entries before = some after) :
    field.value after = field.value before := by
  induction entries generalizing before with
  | nil =>
    cases assigned
    rfl
  | cons entry rest ih =>
    rw [List.forall_mem_cons] at spare
    unfold assignNamed at assigned
    split at assigned
    · exact ih spare.2 assigned
    · obtain ⟨next, first, later⟩ := Option.bind_eq_some_iff.mp assigned
      exact (ih spare.2 later).trans (spare.1 _ _ _ first)

/-- So does a reading of values in their order. -/
theorem assignInOrder_spares {entries : List Entry} {trees : List Tree}
    (spare : ∀ entry ∈ entries, entry.Spares field)
    (assigned : assignInOrder entries trees before = some after) :
    field.value after = field.value before := by
  induction entries generalizing trees before with
  | nil =>
    cases assigned
    rfl
  | cons entry rest ih =>
    rw [List.forall_mem_cons] at spare
    cases trees with
    | nil =>
      cases assigned
      rfl
    | cons tree trees =>
      obtain ⟨next, first, later⟩ := Option.bind_eq_some_iff.mp assigned
      exact (ih spare.2 later).trans (spare.1 _ _ _ first)

/-- So does a reading of either form. -/
theorem readEntries_spares {entries : List Entry} {tree : Tree}
    (spare : ∀ entry ∈ entries, entry.Spares field)
    (read : readEntries entries tree before = some after) :
    field.value after = field.value before := by
  unfold readEntries at read
  split at read
  · exact assignNamed_spares spare read
  · exact assignInOrder_spares spare read
  · cases read

/-- What entries with different names do to a field is what one of them does, if the others spare
it. -/
theorem assignNamed_of_mem {entries : List Entry} {entry : Entry} (among : entry ∈ entries)
    (names : (entries.map Entry.name).Nodup)
    (spare : ∀ other ∈ entries, other.name ≠ entry.name → other.Spares field)
    (assigned : assignNamed members entries before = some after) :
    ∃ found next, field.value found = field.value before ∧ field.value after = field.value next ∧
      entry.Does (members.lookup entry.name) found next := by
  induction entries generalizing before with
  | nil => cases among
  | cons first rest ih =>
    rw [List.map_cons, List.nodup_cons] at names
    rw [List.forall_mem_cons] at spare
    unfold assignNamed at assigned
    obtain rfl | later := List.mem_cons.mp among
    · have others : ∀ other ∈ rest, other.Spares field := fun other listed =>
        spare.2 other listed fun same => names.1 (same ▸ List.mem_map_of_mem listed)
      split at assigned
      · rename_i nothing
        exact ⟨before, before, rfl, assignNamed_spares others assigned, by rw [nothing]; rfl⟩
      · rename_i tree something
        obtain ⟨next, done, rest⟩ := Option.bind_eq_some_iff.mp assigned
        exact ⟨before, next, rfl, assignNamed_spares others rest, by rw [something]; exact done⟩
    · have different : first.name ≠ entry.name := fun same =>
        names.1 (same ▸ List.mem_map_of_mem later)
      split at assigned
      · exact ih later names.2 spare.2 assigned
      · obtain ⟨next, done, others⟩ := Option.bind_eq_some_iff.mp assigned
        obtain ⟨found, last, same, rest⟩ := ih later names.2 spare.2 others
        exact ⟨found, last, same.trans (spare.1 different _ _ _ done), rest⟩

/-- The entry of one setting spares every other setting. -/
theorem fieldEntry_spares {other : Field} (different : other ≠ field) :
    (fieldEntry other).Spares field := by
  intro tree before after assigned
  obtain ⟨value, _, rfl⟩ := Option.map_eq_some_iff.mp assigned
  exact Field.value_set_of_ne different before value

/-- The entry of a setting gives it what is said. -/
theorem fieldEntry_takes {said : Option Tree} (does : (fieldEntry field).Does said before after) :
    field.Takes said before after := by
  cases said with
  | none =>
    obtain rfl : after = before := does
    exact rfl
  | some tree =>
    obtain ⟨value, converted, rfl⟩ := Option.map_eq_some_iff.mp does
    rw [Field.Takes, Field.value_set]
    exact converted

/-- The entry of a section spares the settings outside it. -/
theorem sectionEntry_spares {name : String} {fields : List Field}
    (each : ∀ other ∈ fields, other.section? = some name) (outside : field.section? ≠ some name) :
    (sectionEntry name fields).Spares field := by
  intro tree before after read
  refine readEntries_spares (List.forall_mem_map.mpr fun other among => ?_) read
  refine fieldEntry_spares fun same => outside ?_
  rw [← same]
  exact each other among

/-- A field takes what stands behind its name. -/
theorem fieldEntries_take {fields : List Field} (names : (fields.map Field.name).Nodup)
    (among : field ∈ fields)
    (assigned : assignNamed members (fields.map fieldEntry) before = some after) :
    field.Takes (members.lookup field.name) before after := by
  have others : ∀ other ∈ fields.map fieldEntry, other.name ≠ (fieldEntry field).name →
      other.Spares field := by
    refine List.forall_mem_map.mpr fun other _ different => fieldEntry_spares ?_
    rintro rfl
    exact different rfl
  obtain ⟨found, next, same, last, done⟩ :=
    assignNamed_of_mem (List.mem_map_of_mem among) (by rwa [List.map_map]) others assigned
  exact (fieldEntry_takes done).congr same last

/-! ## Sections -/

/-- Each section has its fields. -/
theorem section?_of_mem_sections :
    ∀ listed ∈ sections, (∀ field ∈ listed.2, field.section? = some listed.1) ∧
      (listed.2.map Field.name).Nodup := by
  decide

/-- A setting that belongs to a section is listed there. -/
theorem exists_mem_sections {name : String} (belongs : field.section? = some name) :
    ∃ listed ∈ sections, listed.1 = name ∧ field ∈ listed.2 := by
  cases field <;> cases belongs <;> decide

/-- No two entries of the configuration have the same name. -/
theorem entries_names : (entries.map Entry.name).Nodup := by decide

/-- An entry spares each field that stands behind another name. -/
theorem entries_spare {other : Entry} (among : other ∈ entries)
    (different : other.name ≠ field.section?.getD field.name) : other.Spares field := by
  simp only [entries, List.mem_append, List.mem_map, List.mem_cons, List.not_mem_nil,
    or_false] at among
  obtain (rfl | rfl) | ⟨⟨name, fields⟩, listed, rfl⟩ := among
  · refine fieldEntry_spares ?_
    rintro rfl
    exact different rfl
  · refine fieldEntry_spares ?_
    rintro rfl
    exact different rfl
  · refine sectionEntry_spares (section?_of_mem_sections _ listed).1 fun belongs => different ?_
    rw [belongs]
    rfl

/-! ## Trees -/

/-- What stands at the end of a way of names. -/
def Tree.at? : (keys : List String) → Tree → Option Tree
  | [], tree => some tree
  | key :: keys, tree => (tree.members.lookup key).bind (at? keys)

/-- A path of one key finds the member of that name. -/
theorem Tree.at?_singleton (key : String) (tree : Tree) :
    tree.at? [key] = tree.members.lookup key := Option.bind_fun_some _

/-- The path of a setting in a section is the name of the section and its own. -/
theorem Field.keys_of_section {name : String} (belongs : field.section? = some name) :
    field.keys = [name, field.name] := by
  rw [keys, belongs]
  rfl

/-- The path of a setting of no section is its own name. -/
theorem Field.keys_of_alone (alone : field.section? = none) : field.keys = [field.name] := by
  rw [keys, alone]
  rfl

/-- A setting of no section has an entry of its own. -/
theorem fieldEntry_mem_entries (alone : field.section? = none) : fieldEntry field ∈ entries := by
  cases field <;> first
    | exact List.mem_cons_self
    | exact List.mem_cons_of_mem _ List.mem_cons_self
    | cases alone

/-- A field in no section takes what stands behind its name. -/
theorem ofTree?_takes_alone {settings : Settings} (alone : field.section? = none)
    (read : ofTree? (.table members) = some settings) :
    field.Takes (members.lookup field.name) (.initial "" "") settings := by
  change assignNamed members entries _ = _ at read
  have others : ∀ other ∈ entries, other.name ≠ (fieldEntry field).name → other.Spares field :=
    fun other listed different => entries_spare listed (by rwa [alone])
  obtain ⟨found, next, same, last, done⟩ :=
    assignNamed_of_mem (fieldEntry_mem_entries alone) entries_names others read
  exact (fieldEntry_takes done).congr same last

/-- A field in a section that is a table takes what stands behind its name there. -/
theorem ofTree?_takes_section {settings : Settings} {name : String}
    (belongs : field.section? = some name)
    (isTable : ∀ tree, members.lookup name = some tree → tree = .table tree.members)
    (read : ofTree? (.table members) = some settings) :
    field.Takes ((members.lookup name).bind fun tree => tree.members.lookup field.name)
      (.initial "" "") settings := by
  change assignNamed members entries _ = _ at read
  obtain ⟨⟨_, fields⟩, listed, rfl, within⟩ := exists_mem_sections belongs
  rename_i name
  have among : sectionEntry name fields ∈ entries :=
    List.mem_append_right _ (List.mem_map_of_mem listed)
  have others : ∀ other ∈ entries, other.name ≠ name → other.Spares field :=
    fun other listed different => entries_spare listed (by rwa [belongs])
  obtain ⟨found, next, same, last, done⟩ :=
    assignNamed_of_mem among entries_names others read
  refine Field.Takes.congr ?_ same last
  change (sectionEntry name fields).Does (members.lookup name) found next at done
  cases said : members.lookup name with
  | none =>
    rw [said] at done
    obtain rfl : next = found := done
    exact rfl
  | some tree =>
    rw [said, isTable tree said] at done
    exact fieldEntries_take (section?_of_mem_sections _ listed).2 within done

/-- A field of a tree whose sections are tables takes what stands at its place. -/
theorem ofTree?_takes {settings : Settings}
    (tables : ∀ name ∈ field.section?, ∀ tree, members.lookup name = some tree →
      tree = .table tree.members)
    (read : ofTree? (.table members) = some settings) :
    field.Takes ((Tree.table members).at? field.keys) (.initial "" "") settings := by
  cases belongs : field.section? with
  | none =>
    rw [field.keys_of_alone belongs, Tree.at?_singleton]
    exact ofTree?_takes_alone belongs read
  | some name =>
    have place : (Tree.table members).at? field.keys =
        (members.lookup name).bind fun tree => tree.members.lookup field.name := by
      rw [field.keys_of_section belongs]
      exact congrArg _ (funext fun tree : Tree => tree.at?_singleton field.name)
    rw [place]
    exact ofTree?_takes_section belongs (tables name belongs) read

end EventLedger.Settings
