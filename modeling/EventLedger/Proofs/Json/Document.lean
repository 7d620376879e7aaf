import EventLedger.Proofs.Json.Record

/-!
# Records are read from the documents of the grammar

A record is read from exactly the documents of the grammar, `ofDocument_iff`. What a document states
in a field is then what its record has there, since no field is given twice: `statesText_iff`,
`statesCount_iff`, `statesText?_iff` and `statesTree?_iff`.
-/
namespace EventLedger.Json

open Grammar

variable {blanks rest : Bytes} {schema : Schema}

/-! ## Documents -/

/-- Members begin with the quote of a key, and blanks may come before it or not. -/
theorem exists_members_head {bytes : Bytes} {record : Record}
    (members : Members schema bytes record) :
    ∃ blanks tail, Blanks blanks ∧ bytes = blanks ++ byte '"' :: tail ∧
      Members schema (byte '"' :: tail) record := by
  have memberHead {bytes : Bytes} {fields : Record} (member : Member schema bytes fields) :
      ∃ blanks tail, Blanks blanks ∧ bytes = blanks ++ byte '"' :: tail ∧
        Member schema (byte '"' :: tail) fields := by
    obtain ⟨named, ⟨before, between, left, middle, rfl⟩, value, spaced⟩ := member
    have literal := named
    obtain ⟨pieces, _, rfl⟩ := literal
    have bare := Member.mk named ⟨[], between, List.forall_mem_nil _, middle, rfl⟩ value spaced
    exact ⟨before, _, left, by simp, bare⟩
  cases members with
  | last member =>
    obtain ⟨blanks, tail, blank, rfl, bare⟩ := memberHead member
    exact ⟨blanks, tail, blank, rfl, .last bare⟩
  | more member members =>
    obtain ⟨blanks, tail, blank, rfl, bare⟩ := memberHead member
    exact ⟨blanks, _, blank, by simp, .more bare members⟩

/-- Blanks may come before members. -/
theorem members_blanks_append {bytes : Bytes} {record : Record} (blank : Blanks blanks)
    (members : Members schema bytes record) : Members schema (blanks ++ bytes) record := by
  have memberBlanks {bytes : Bytes} {fields : Record} (member : Member schema bytes fields) :
      Member schema (blanks ++ bytes) fields := by
    obtain ⟨named, ⟨before, between, left, middle, rfl⟩, value, spaced⟩ := member
    have whole := Member.mk named
      ⟨blanks ++ before, between, blanks_append blank left, middle, rfl⟩ value spaced
    simpa using whole
  cases members with
  | last member => exact .last (memberBlanks member)
  | more member members =>
    rw [← List.append_assoc]
    exact .more (memberBlanks member) members

/-- A document of the format is read to its record. -/
theorem readRecord_append {container : Container} {bytes : Bytes} {record : Record}
    (unique : schema.Distinct) (body : Body schema container bytes record) (blank : Blanks blanks) :
    readRecord schema (blanks ++ opener container :: (bytes ++ container.closer :: rest)) =
      some (record.reverse, rest) := by
  have noSpace : isSpace (opener container) = false := by cases container <;> decide
  rw [readRecord, skipSpace_append blank noSpace]
  cases body with
  | empty nothing =>
    cases container with
    | array => exact readPositions_end true nothing
    | object =>
      have closed : skipSpace (bytes ++ byte '\x7d' :: rest) = byte '\x7d' :: rest :=
        skipSpace_append nothing (by decide)
      dsimp only [opener, Container.closer]
      rw [if_pos rfl, closed]
      exact if_pos rfl
  | object members distinct =>
    obtain ⟨between, tail, middle, rfl, bare⟩ := exists_members_head members
    have head : skipSpace (between ++ byte '"' :: tail ++ byte '\x7d' :: rest) =
        byte '"' :: (tail ++ byte '\x7d' :: rest) := by
      rw [List.append_assoc]
      exact skipSpace_append middle (by decide)
    have enough : (byte '"' :: tail).length ≤ (tail ++ byte '\x7d' :: rest).length := by
      simp only [List.length_cons, List.length_append]
      omega
    have all : Distinct (record.reverse ++ []) := by
      rwa [List.append_nil, distinct_reverse]
    have read : readRecordMembers schema ((tail ++ byte '\x7d' :: rest).length + 1) []
        (byte '"' :: tail ++ byte '\x7d' :: rest) = some (record.reverse ++ [], rest) :=
      readRecordMembers_append unique bare all enough
    dsimp only [opener, Container.closer]
    rw [if_pos rfl, head]
    dsimp only
    rw [if_neg (by decide)]
    rwa [List.append_nil] at read
  | array positions =>
    have read : readPositions schema true [] (bytes ++ byte ']' :: rest) =
        some (record.reverse ++ [], rest) := (readPositions_append positions).1
    rw [List.append_nil] at read
    dsimp only [opener, Container.closer]
    rw [if_neg (by decide), if_pos rfl, read]

/-- What is read as a record is a document of the format. -/
theorem readRecord_eq_some {input : Bytes} {record : Record} (unique : schema.Distinct)
    (read : readRecord schema input = some (record, rest)) :
    ∃ blanks container bytes fields, Blanks blanks ∧ Body schema container bytes fields ∧
      input = blanks ++ opener container :: (bytes ++ container.closer :: rest) ∧
      record = fields.reverse := by
  rw [readRecord] at read
  generalize skip : skipSpace input = input' at read
  obtain ⟨blanks, blank, rfl⟩ := exists_blanks skip
  obtain _ | ⟨b, tail⟩ := input'
  · cases read
  dsimp only at read
  split at read
  next brace =>
    subst brace
    generalize skip' : skipSpace tail = tail' at read
    obtain ⟨between, middle, rfl⟩ := exists_blanks skip'
    obtain _ | ⟨next, others⟩ := tail'
    · cases read
    dsimp only at read
    split at read
    next closed =>
      cases read
      exact ⟨blanks, .object, between, [], blank, .empty middle, by rw [closed]; rfl, rfl⟩
    · obtain ⟨bytes, fields, members, whole, rfl, distinct⟩ :=
        readRecordMembers_eq_some unique distinct_nil read
      have body : Body schema .object (between ++ bytes) fields := by
        refine .object (members_blanks_append middle members) ?_
        rwa [List.append_nil, distinct_reverse] at distinct
      refine ⟨blanks, .object, _, fields, blank, body, ?_, by simp⟩
      rw [whole, List.append_assoc]
      rfl
  · split at read
    next bracket =>
      subst bracket
      obtain ⟨content, fields, rfl, rfl, body⟩ := readPositions_eq_some read
      refine ⟨blanks, .array, content, fields, blank, ?_, rfl, by simp⟩
      obtain ⟨none, rfl⟩ | positions := body
      · exact .empty none
      · exact .array positions
    · cases read

/-- A record is read from exactly the documents of the grammar. -/
theorem ofDocument_iff (unique : schema.Distinct) {document : Bytes} {record : Record} :
    Record.ofDocument schema document = some record ↔ Document schema document record.reverse := by
  rw [Record.ofDocument]
  constructor
  · intro read
    split at read
    · cases read
    next fields after found =>
      split at read
      next empty =>
        cases read
        obtain ⟨blanks, container, bytes, given, blank, body, rfl, rfl⟩ :=
          readRecord_eq_some unique found
        have last : skipSpace after = [] := by simpa using empty
        obtain ⟨right, blank', rfl⟩ := exists_blanks last
        rw [List.reverse_reverse]
        exact ⟨container, bytes, body, blanks, right, blank, blank', by simp⟩
      · cases read
  · rintro ⟨container, bytes, body, before, after, left, right, rfl⟩
    have read : readRecord schema
        (before ++ opener container :: (bytes ++ container.closer :: after)) =
        some (record.reverse.reverse, after) := readRecord_append unique body left
    have last : skipSpace after = [] := by
      rw [← List.append_nil after, skipSpace_blanks right]
      rfl
    simp only [List.append_assoc, List.cons_append, List.nil_append] at read ⊢
    rw [read, List.reverse_reverse]
    simp [last]

/-- A document has one record. -/
theorem document_unique {document : Bytes} {record other : Record} (unique : schema.Distinct)
    (reads : Document schema document record) (again : Document schema document other) :
    record = other := by
  rw [← List.reverse_reverse record, ← ofDocument_iff unique] at reads
  rw [← List.reverse_reverse other, ← ofDocument_iff unique, reads] at again
  exact List.reverse_injective (Option.some.inj again)

/-! ## What a document says -/

/-- The names of values by position are the first ones of the schema. -/
theorem names_of_positions {bytes : Bytes} {record : Record}
    (positions : Positions schema bytes record) :
    record.map Prod.fst <+: schema.map Prod.fst := by
  induction positions with
  | last => simp
  | more _ _ _ ih => simpa using ih

/-- A document gives no field twice. -/
theorem distinct_of_document {document : Bytes} {record : Record} (unique : schema.Distinct)
    (reads : Document schema document record) : Distinct record := by
  obtain ⟨container, bytes, body, _⟩ := reads
  cases body with
  | empty => exact distinct_nil
  | object _ distinct => exact distinct
  | array positions => exact unique.sublist (names_of_positions positions).sublist

/-- A field has a value of a kind that the schema gives it. -/
def HasValue (schema : Schema) (entry : String × Field) : Prop :=
  ∃ kind bytes, (entry.1, kind) ∈ schema ∧ FieldValue kind bytes entry.2

/-- Every entry of an object has a value. -/
theorem hasValue_of_members {bytes : Bytes} {record : Record}
    (members : Members schema bytes record) : ∀ entry ∈ record, HasValue schema entry := by
  have ofMember {bytes : Bytes} {fields : Record} (member : Member schema bytes fields) :
      ∀ entry ∈ fields, HasValue schema entry := by
    obtain ⟨_, _, given, _⟩ := member
    cases given with
    | known known value =>
      rw [List.forall_mem_singleton]
      exact ⟨_, _, known, value⟩
    | unknown => exact List.forall_mem_nil _
  induction members with
  | last member => exact ofMember member
  | more member _ ih => exact List.forall_mem_append.mpr ⟨ofMember member, ih⟩

/-- So has every entry of an array. -/
theorem hasValue_of_positions {bytes : Bytes} {record : Record}
    (positions : Positions schema bytes record) : ∀ entry ∈ record, HasValue schema entry := by
  induction positions with
  | last value =>
    rw [List.forall_mem_singleton]
    exact ⟨_, _, List.mem_cons_self, value⟩
  | more value _ _ ih =>
    rw [List.forall_mem_cons]
    refine ⟨⟨_, _, List.mem_cons_self, value⟩, fun entry inside => ?_⟩
    obtain ⟨kind, bytes, listed, value⟩ := ih entry inside
    exact ⟨kind, bytes, List.mem_cons_of_mem _ listed, value⟩

/-- What a document gives are values of the fields of its schema. -/
theorem hasValue_of_document {document : Bytes} {record : Record}
    (reads : Document schema document record) : ∀ entry ∈ record, HasValue schema entry := by
  obtain ⟨container, bytes, body, _⟩ := reads
  cases body with
  | empty => exact List.forall_mem_nil _
  | object members => exact hasValue_of_members members
  | array positions => exact hasValue_of_positions positions

/-- A text is found in a record if it is the one that stands there. -/
theorem text?_eq_some_iff {record : Record} (distinct : Distinct record) {name value : String} :
    record.text? name = some value ↔ (name, .text (some value)) ∈ record := by
  rw [← lookup_eq_some_iff distinct, Record.text?]
  split
  next other found => simp [found]
  next other =>
    constructor
    · exact fun same => absurd same (Option.some_ne_none _).symm
    · exact fun same => absurd same (other _)

/-- So is a count. -/
theorem count?_eq_some_iff {record : Record} (distinct : Distinct record) {name : String}
    {value : Int} : record.count? name = some value ↔ (name, .count (some value)) ∈ record := by
  rw [← lookup_eq_some_iff distinct, Record.count?]
  split
  next other found => simp [found]
  next other =>
    constructor
    · exact fun same => absurd same (Option.some_ne_none _).symm
    · exact fun same => absurd same (other _)

/-- So is a tree. -/
theorem tree?_eq_some_iff {record : Record} (distinct : Distinct record) {name : String}
    {value : Value} : record.tree? name = some value ↔ (name, .tree (some value)) ∈ record := by
  rw [← lookup_eq_some_iff distinct, Record.tree?]
  split
  next other found => simp [found]
  next other =>
    constructor
    · exact fun same => absurd same (Option.some_ne_none _).symm
    · exact fun same => absurd same (other _)

/-- The text that a document states is the one found in its record, or the empty one. -/
theorem statesText_iff {record : Record} (distinct : Distinct record) {name value : String} :
    StatesText record.reverse name value ↔ (record.text? name).getD "" = value := by
  simp only [StatesText, List.mem_reverse, ← text?_eq_some_iff distinct]
  cases record.text? name with
  | none => simp [eq_comm]
  | some text => simp

/-- The count that it states is the one found there, or zero. -/
theorem statesCount_iff {record : Record} (distinct : Distinct record) {name : String}
    {value : Int} :
    StatesCount record.reverse name value ↔ (record.count? name).getD 0 = value := by
  simp only [StatesCount, List.mem_reverse, ← count?_eq_some_iff distinct]
  cases record.count? name with
  | none => simp [eq_comm]
  | some count => simp

/-- The text that may be missing is the one found there, if any. -/
theorem statesText?_iff {record : Record} (distinct : Distinct record) {name : String}
    {value? : Option String} :
    StatesText? record.reverse name value? ↔ record.text? name = value? := by
  simp only [StatesText?, List.mem_reverse, ← text?_eq_some_iff distinct]
  exact Option.ext_iff.symm.trans eq_comm

/-- So is the tree that may be missing. -/
theorem statesTree?_iff {record : Record} (distinct : Distinct record) {name : String}
    {value? : Option Value} :
    StatesTree? record.reverse name value? ↔ record.tree? name = value? := by
  simp only [StatesTree?, List.mem_reverse, ← tree?_eq_some_iff distinct]
  exact Option.ext_iff.symm.trans eq_comm

/-- The value of a count fits a signed word. -/
theorem count_lt {kind : FieldKind} {bytes : Bytes} {field : Field} {value : Int}
    (given : FieldValue kind bytes field) (isCount : field = .count (some value)) :
    value < Word.signWeight := by
  cases given with
  | null => cases kind <;> cases isCount
  | text => cases isCount
  | count _ _ greatest =>
    cases isCount
    exact greatest
  | tree => cases isCount

/-- What a document states as a count fits a signed word. -/
theorem statesCount_lt {document : Bytes} {record : Record} {name : String} {value : Int}
    (reads : Document schema document record) (stated : StatesCount record name value) :
    value < Word.signWeight := by
  obtain given | ⟨rfl, _⟩ := stated
  · obtain ⟨_, _, _, spelled⟩ := hasValue_of_document reads _ given
    exact count_lt spelled rfl
  · decide

end EventLedger.Json
