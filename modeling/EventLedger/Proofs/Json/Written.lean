import EventLedger.Proofs.Json.Document
import Mathlib.Data.List.Perm.Basic

/-!
# Documents that are written

A value is written in many ways: the members of an object in any order, a text with or without
escapes, blanks between any two tokens. Each of them is read as that value, `readable_of_written`.
The fields of a record are written as an object or by position, and what is then read are those
fields, in some order: `document_of_written`.
-/
namespace EventLedger.Json

namespace Grammar

/-- The literal of an integer. -/
def IntegerNumber (bytes : Bytes) (number : Number) : Prop :=
  ∃ value, number = .integer value ∧ IntegerLiteral bytes value

/-- What is written: the members of an object may stand in any order, and no value is written as a
document in a text. -/
def Rules.writing : Rules where
  number := IntegerNumber
  object := List.Perm
  embedded _ _ := False

/-- The bytes of a value in any way of writing it, and of its parts. An object in which the key that
announces a document in a text comes first is no way of writing one: it is read as that document. -/
abbrev Written : (depth : Nat) → Reading → Bytes → Prop := Tree .writing

/-- The bytes of a value with blanks around it. -/
def ValueText (value : Value) (bytes : Bytes) : Prop :=
  ∃ depth core, Written depth (.value value) core ∧ Spaced core bytes

/-- Values with at most `depth` levels of containers whose numbers are integers of 64 bits. Objects
have one member for each key, in the order of the keys, as every object has; the key that announces
a document in a text is not the only one, since it would have to come first. -/
inductive Plain : (depth : Nat) → Value → Prop where
  /-- Nothing. -/
  | null {depth : Nat} : Plain depth .null
  /-- A truth value. -/
  | bool {depth : Nat} {value : Bool} : Plain depth (.bool value)
  /-- An integer. -/
  | integer {depth : Nat} {value : Int} (least : -(Word.signWeight : Int) ≤ value)
      (greatest : value ≤ Word.greatest) : Plain depth (.number (.integer value))
  /-- A text. -/
  | text {depth : Nat} {value : String} : Plain depth (.text value)
  /-- An array. -/
  | array {depth : Nat} {items : List Value} (plain : ∀ item ∈ items, Plain depth item) :
      Plain (depth + 1) (.array items)
  /-- An object. -/
  | object {depth : Nat} {members : List (String × Value)}
      (ascending : (members.map Prod.fst).Pairwise (· < ·))
      (more : members.map Prod.fst ≠ [embeddingKey])
      (plain : ∀ member ∈ members, Plain depth member.2) : Plain (depth + 1) (.object members)

/-- The fields that are given. -/
def given {α : Type} (fields : List (String × Option α)) : List (String × α) :=
  fields.filterMap fun field => field.2.map (field.1, ·)

/-- A document is written from fields, some of which may be left out. -/
inductive RecordText (fields : List (String × Option Value)) (document : Bytes) : Prop where
  /-- It is an object with those that are given. -/
  | object (text : ValueText (.object (given fields)) document) : RecordText fields document
  /-- It is an array with the values of the first ones, and the others are left out. -/
  | array {values : List Value} {left : Nat}
      (places : fields.map Prod.snd = values.map some ++ List.replicate left none)
      (text : ValueText (.array values) document) : RecordText fields document

end Grammar

open Grammar

variable {depth limit : Nat} {schema : Schema} {bytes : Bytes}

/-! ## Values -/

/-- Members in any order are gathered. -/
theorem gathers_of_perm {written members : List (String × Value)} (ascending : Ascending members)
    (perm : written.Perm members) : Gathers written members := by
  refine ⟨ascending, fun key value => ?_⟩
  have distinct : (written.reverse.map Prod.fst).Nodup := by
    have same : (written.reverse.map Prod.fst).Perm (members.map Prod.fst) :=
      (written.reverse_perm.trans perm).map _
    refine same.nodup_iff.mpr (ascending.imp ?_)
    rintro key _ before rfl
    exact String.lt_irrefl key before
  rw [lookup_eq_some_iff distinct, List.mem_reverse, perm.mem_iff]

/-- The values of a part are plain. -/
def PlainReading (depth : Nat) : Reading → Prop
  | .value value => Plain depth value
  | .items items => ∀ item ∈ items, Plain depth item
  | .members members => ∀ member ∈ members, Plain depth member.2

/-- What is written of a plain value is read as it, however deep it was said to be. -/
theorem readable_of_written {reading : Reading} (written : Written depth reading bytes)
    (plain : PlainReading limit reading) : Readable limit reading bytes := by
  induction written generalizing limit with
  | null => exact .null
  | bool => exact .bool
  | number spelled =>
    obtain ⟨value, rfl, spelled⟩ := spelled
    cases plain with
    | integer least greatest => exact .number (.integer spelled least greatest)
  | text spelled => exact .text spelled
  | noItems blank =>
    cases plain
    exact .noItems blank
  | array _ ih =>
    cases plain with
    | array items => exact .array (ih items)
  | noMembers blank =>
    cases plain
    exact .noMembers blank
  | object _ ordinary perm ih =>
    cases plain with
    | object ascending _ members =>
      have each := fun member inside => members member (perm.mem_iff.mp inside)
      exact .object (ih each) ordinary (gathers_of_perm ascending perm)
  | embedded _ _ _ _ written => exact written.elim
  | lastItem _ spaced ih => exact .lastItem (ih (plain _ List.mem_cons_self)) spaced
  | moreItems _ spaced _ ihItem ihItems =>
    obtain ⟨first, others⟩ := List.forall_mem_cons.mp plain
    exact .moreItems (ihItem first) spaced (ihItems others)
  | lastMember named spaced _ spaced' ih =>
    exact .lastMember named spaced (ih (plain _ List.mem_cons_self)) spaced'
  | moreMembers named spaced _ spaced' _ ihItem ihMembers =>
    obtain ⟨first, others⟩ := List.forall_mem_cons.mp plain
    exact .moreMembers named spaced (ihItem first) spaced' (ihMembers others)

/-! ## Fields -/

/-- What a value gives as a field of a kind. -/
inductive Gives : FieldKind → Value → Field → Prop where
  /-- Nothing. -/
  | null {kind : FieldKind} : Gives kind .null kind.null
  /-- A text. -/
  | text {text : String} : Gives .text (.text text) (.text (some text))
  /-- A whole number of 64 bits with sign. -/
  | count {value : Int} (least : -(Word.signWeight : Int) ≤ value)
      (greatest : value < Word.signWeight) :
      Gives .count (.number (.integer value)) (.count (some value))
  /-- Any value. -/
  | tree {value : Value} (plain : Plain 126 value) (present : value ≠ .null) :
      Gives .tree value (.tree (some value))

/-- What is written of a given value is a value of its field. -/
theorem Gives.fieldValue {kind : FieldKind} {value : Value} {field : Field}
    (gives : Gives kind value field) (written : Written depth (.value value) bytes) :
    FieldValue kind bytes field := by
  cases gives with
  | null =>
    cases written with
    | null => exact .null
    | embedded _ _ _ _ written => exact written.elim
  | text =>
    cases written with
    | text spelled => exact .text spelled
    | embedded _ _ _ _ written => exact written.elim
  | count least greatest =>
    cases written with
    | number spelled =>
      obtain ⟨_, ⟨⟩, spelled⟩ := spelled
      exact .count spelled least greatest
    | embedded _ _ _ _ written => exact written.elim
  | tree plain present =>
    have readable := readable_of_written written plain
    refine .tree readable fun isNull => ?_
    subst isNull
    obtain ⟨_, _, ⟨⟩, _, _, null | noNull⟩ := exists_readable_head readable
    · exact present null.1
    · exact noNull rfl

/-- What fields give for a schema; one that is left out gives nothing. -/
inductive Fills : Schema → List (String × Option Value) → List (String × Option Field) → Prop where
  /-- No fields. -/
  | nil : Fills [] [] []
  /-- One more field. -/
  | cons {name : String} {kind : FieldKind} {schema : Schema} {value? : Option Value}
      {field? : Option Field} {fields : List (String × Option Value)}
      {entries : List (String × Option Field)} (gives : Option.Rel (Gives kind) value? field?)
      (others : Fills schema fields entries) :
      Fills ((name, kind) :: schema) ((name, value?) :: fields) ((name, field?) :: entries)

variable {fields : List (String × Option Value)} {entries : List (String × Option Field)}

/-- The given fields are those with a value. -/
theorem mem_given {α : Type} {fields : List (String × Option α)} {name : String} {value : α} :
    (name, value) ∈ given fields ↔ (name, some value) ∈ fields := by
  simp only [given, List.mem_filterMap, Option.map_eq_some_iff, Prod.exists, Prod.mk.injEq]
  constructor
  · rintro ⟨_, _, inside, _, rfl, rfl, rfl⟩
    exact inside
  · exact fun inside => ⟨name, some value, inside, value, rfl, rfl, rfl⟩

/-- A field with a value is given. -/
theorem given_cons_some {α : Type} (name : String) (value : α)
    (fields : List (String × Option α)) :
    given ((name, some value) :: fields) = (name, value) :: given fields :=
  rfl

/-- The names of what is given are among those of the schema, in order. -/
theorem Fills.names (fills : Fills schema fields entries) :
    ((given entries).map Prod.fst).Sublist (schema.map Prod.fst) := by
  induction fills with
  | nil => exact List.Sublist.slnil
  | cons gives _ ih =>
    cases gives with
    | some => exact ih.cons_cons _
    | none => exact ih.cons _

/-- A member gives a field that is known. -/
def GivesEntry (schema : Schema) (member : String × Value) (entry : String × Field) : Prop :=
  member.1 = entry.1 ∧ ∃ kind, (member.1, kind) ∈ schema ∧ Gives kind member.2 entry.2

/-- The given fields and the entries that they give belong together, in order. -/
theorem Fills.given {whole : Schema} (fills : Fills schema fields entries)
    (known : schema ⊆ whole) :
    List.Forall₂ (GivesEntry whole) (Grammar.given fields) (Grammar.given entries) := by
  induction fills with
  | nil => exact .nil
  | cons gives _ ih =>
    obtain ⟨first, others⟩ := List.cons_subset.mp known
    cases gives with
    | some gives => exact .cons ⟨rfl, _, first, gives⟩ (ih others)
    | none => exact ih others

/-- Members in any way of writing them are members of a record. -/
theorem members_of_written {written : List (String × Value)} {record : Record}
    (gives : List.Forall₂ (GivesEntry schema) written record)
    (members : Written depth (.members written) bytes) : Members schema bytes record := by
  induction gives generalizing bytes with
  | nil => cases members
  | @cons member entry written record gives others ih =>
    obtain ⟨name, field⟩ := entry
    obtain ⟨rfl, kind, known, gives⟩ := gives
    cases members with
    | lastMember named spaced item spaced' =>
      cases others
      exact .last (.mk named spaced (.known known (gives.fieldValue item)) spaced')
    | moreMembers named spaced item spaced' members =>
      exact .more (.mk named spaced (.known known (gives.fieldValue item)) spaced') (ih members)

/-- Fields that are all left out give nothing. -/
theorem Fills.leftOut (fills : Fills schema fields entries) {left : Nat}
    (none : fields.map Prod.snd = List.replicate left none) : Grammar.given entries = [] := by
  induction fills generalizing left with
  | nil => rfl
  | cons gives _ ih =>
    obtain _ | left := left
    · cases none
    · rw [List.map_cons, List.replicate_succ, List.cons.injEq] at none
      obtain ⟨rfl, others⟩ := none
      cases gives
      exact ih others

/-- Values in any way of writing them are values by position. -/
theorem positions_of_written {values : List Value} {left : Nat}
    (fills : Fills schema fields entries)
    (places : fields.map Prod.snd = values.map some ++ List.replicate left none)
    (items : Written depth (.items values) bytes) : Positions schema bytes (given entries) := by
  induction fills generalizing values bytes with
  | nil =>
    cases values with
    | nil => cases items
    | cons => cases places
  | cons gives fills ih =>
    cases values with
    | nil => cases items
    | cons value values =>
      rw [List.map_cons, List.map_cons, List.cons_append, List.cons.injEq] at places
      obtain ⟨rfl, places⟩ := places
      obtain gives | _ := gives
      rw [given_cons_some]
      cases items with
      | lastItem item spaced =>
        rw [fills.leftOut places]
        exact .last (gives.fieldValue item) spaced
      | moreItems item spaced items => exact .more (gives.fieldValue item) spaced (ih places items)

/-- What is read from what is written are the fields, in some order. -/
theorem document_of_written {document : Bytes} (unique : schema.Distinct)
    (fills : Fills schema fields entries) (text : RecordText fields document) :
    ∃ record, Document schema document record ∧ record.Perm (given entries) := by
  obtain ⟨depth, core, written, spaced⟩ | ⟨places, depth, core, written, spaced⟩ := text
  · have gives := fills.given (List.Subset.refl _)
    generalize given fields = members at written gives
    cases written with
    | noMembers blank =>
      have nothing := List.forall₂_nil_left_iff.mp gives
      exact ⟨[], ⟨.object, _, .empty blank, spaced⟩, by rw [nothing]⟩
    | object content _ perm =>
      obtain ⟨record, gives, same⟩ := List.perm_comp_forall₂ perm gives
      have distinct : Distinct record := (same.map _).nodup_iff.mpr (unique.sublist fills.names)
      have body := Body.object (members_of_written gives content) distinct
      exact ⟨record, ⟨.object, _, body, spaced⟩, same⟩
    | embedded _ _ _ _ written => exact written.elim
  · cases written with
    | noItems blank =>
      have nothing := fills.leftOut places
      exact ⟨[], ⟨.array, _, .empty blank, spaced⟩, by rw [nothing]⟩
    | array content =>
      have body := Body.array (positions_of_written fills places content)
      exact ⟨_, ⟨.array, _, body, spaced⟩, .refl _⟩
    | embedded _ _ _ _ written => exact written.elim

end EventLedger.Json
