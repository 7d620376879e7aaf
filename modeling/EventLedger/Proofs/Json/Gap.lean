import EventLedger.Proofs.Json.Extent

/-!
# Documents with a gap

A gap is a document of which the value of one field is left out. A value is found in it at the gap
and nowhere else, so what the document says of the field is what that value gives, and any other
value there changes the field and nothing else: `Gap.IsOf.exists_field`. The field may be the member
of an object or stand at its position in an array.
-/
namespace EventLedger.Json

open Grammar

variable {schema : Schema} {name : String} {kind : FieldKind} {core bytes : Bytes}
variable {record : Record}

/-! ## One value -/

/-- A value with blanks around it is found in one way. -/
theorem spaced_unique {other : Bytes} (value : Loose .value core) (value' : Loose .value other)
    (spaced : Spaced core bytes) (spaced' : Spaced other bytes) : core = other := by
  obtain ⟨before, after, left, right, rfl⟩ := spaced
  obtain ⟨before', after', left', right', same⟩ := spaced'
  have behind : after = after' := by
    have ends : Ends after := List.append_nil after ▸ ends_nil.blanks_append right
    have ends' : Ends after' := List.append_nil after' ▸ ends_nil.blanks_append right'
    have skipped := skipValue_append left value ends
    rw [← List.append_assoc, same, List.append_assoc,
      skipValue_append left' value' ends'] at skipped
    exact (Option.some.inj skipped).symm
  rw [behind] at same
  have fronts : before ++ core = before' ++ other := List.append_cancel_right same
  obtain ⟨b, rest, rfl, noSpace, _⟩ := exists_value_head value
  obtain ⟨b', rest', rfl, noSpace', _⟩ := exists_value_head value'
  rw [← skipSpace_append left noSpace, fronts, skipSpace_append left' noSpace']

/-- The key and the value of a member are found in one way. -/
theorem memberValue_of_member {text before after : Bytes} {fields : Record}
    (named : TextLiteral text name) (spaced : Spaced text before) (value : Loose .value core)
    (spaced' : Spaced core after) (member : Member schema (before ++ byte ':' :: after) fields) :
    MemberValue schema name core fields := by
  generalize whole : before ++ byte ':' :: after = bytes at member
  obtain @⟨key, text', before', core', after', _, named', keySpaced, value', valueSpaced⟩ := member
  obtain ⟨left, right, blank, blank', rfl⟩ := spaced
  obtain ⟨left', right', blankLeft, blankRight, rfl⟩ := keySpaced
  have read : readText (skipSpace (left ++ (text ++ (right ++ byte ':' :: after)))) =
      some (name, right ++ byte ':' :: after) := readText_blanks named blank
  have read' : readText (skipSpace (left' ++ (text' ++ (right' ++ byte ':' :: after')))) =
      some (key, right' ++ byte ':' :: after') := readText_blanks named' blankLeft
  simp only [List.append_assoc] at whole
  rw [whole, read'] at read
  obtain ⟨rfl, behind⟩ := Prod.mk.inj (Option.some.inj read)
  have colon := congrArg skipSpace behind
  rw [skipSpace_append blankRight (by decide), skipSpace_append blank' (by decide)] at colon
  obtain rfl := (List.cons.inj colon).2
  rwa [spaced_unique value (loose_of_memberValue value') spaced' valueSpaced]

/-- The value of a member with a known key gives the field. -/
theorem exists_field_of_memberValue {fields : Record} (unique : schema.Distinct)
    (known : (name, kind) ∈ schema) (value : MemberValue schema name core fields) :
    ∃ field, FieldValue kind core field ∧ fields = [(name, field)] := by
  cases value with
  | @known other _ field known' value =>
    have found := (lookup_eq_some_iff unique).mpr known
    rw [(lookup_eq_some_iff unique).mpr known'] at found
    obtain rfl : other = kind := Option.some.inj found
    exact ⟨field, value, rfl⟩
  | unknown unknown _ => exact absurd known (unknown kind)

/-! ## Values by position -/

/-- Values one by one, each with the blanks around it, and the fields that they give in the order of
the schema. -/
inductive Places : Schema → List Bytes → Record → Prop where
  /-- None. -/
  | nil {schema : Schema} : Places schema [] []
  /-- A value before others. -/
  | cons {name : String} {kind : FieldKind} {schema : Schema} {core bytes : Bytes} {field : Field}
      {entries : List Bytes} {record : Record} (value : FieldValue kind core field)
      (spaced : Spaced core bytes) (others : Places schema entries record) :
      Places ((name, kind) :: schema) (bytes :: entries) ((name, field) :: record)

/-- Values one by one are values by position. -/
theorem positions_of_places {entries : List Bytes} (some : entries ≠ [])
    (places : Places schema entries record) : Positions schema (separated entries) record := by
  induction places with
  | nil => exact absurd rfl some
  | cons value spaced others ih =>
    cases others with
    | nil =>
      rw [separated, List.intercalate_singleton]
      exact .last value spaced
    | cons =>
      rw [separated_cons_cons]
      exact .more value spaced (ih (List.cons_ne_nil _ _))

/-- The values by position that a record is read from are those that are given one by one. -/
theorem places_of_positions {entries : List Bytes} (some : entries ≠ [])
    (each : ∀ entry ∈ entries, Loose (.entry .array) entry)
    (positions : Positions schema (separated entries) record) : Places schema entries record := by
  induction entries generalizing schema record with
  | nil => exact absurd rfl some
  | cons entry entries ih =>
    obtain ⟨loose, others⟩ := List.forall_mem_cons.mp each
    generalize whole : separated (entry :: entries) = content at positions
    cases positions with
    | last value spaced =>
      have item := Loose.item (loose_of_fieldValue value) spaced
      obtain ⟨rfl, rfl⟩ := separated_eq_entry loose item whole
      exact .cons value spaced .nil
    | more value spaced positions =>
      have item := Loose.item (loose_of_fieldValue value) spaced
      obtain ⟨rfl, some, rfl⟩ := separated_eq_append loose item whole
      exact .cons value spaced (ih some others positions)

/-- Values by position are told apart at any place, and those from there on can be replaced. -/
theorem Places.split {earlier entries : List Bytes}
    (places : Places schema (earlier ++ entries) record) :
    ∃ front back first others, schema = front ++ back ∧ front.length = earlier.length ∧
      record = first ++ others ∧ Places back entries others ∧
      ∀ {entries' others'}, Places back entries' others' →
        Places schema (earlier ++ entries') (first ++ others') := by
  induction earlier generalizing schema record with
  | nil => exact ⟨[], schema, [], record, rfl, rfl, rfl, places, fun places => places⟩
  | cons entry earlier ih =>
    cases places with
    | cons value spaced places =>
      obtain ⟨front, back, first, others, rfl, length, rfl, tail, replaced⟩ := ih places
      exact ⟨_ :: front, back, _ :: first, others, rfl, congrArg (· + 1) length, rfl, tail,
        fun places => .cons value spaced (replaced places)⟩

/-! ## Gaps -/

/-- A document of which one value is left out. -/
structure Gap where
  /-- What it is. -/
  container : Container
  /-- The blanks before it. -/
  before : Bytes
  /-- The entries before the one of the value. -/
  earlier : List Bytes
  /-- What comes before the value in its entry. -/
  key : Bytes
  /-- The blanks after the value. -/
  trail : Bytes
  /-- The entries after the one of the value. -/
  later : List Bytes
  /-- The blanks after it. -/
  after : Bytes

/-- What comes before the value of a field in its entry: its name and a colon in an object, and
blanks in an array, in which the entries before it are those of the fields before it. -/
inductive Introduces (schema : Schema) (name : String) (place : Nat) :
    Container → Bytes → Prop where
  /-- The name of the field. -/
  | name {text before blanks : Bytes} (named : TextLiteral text name) (spaced : Spaced text before)
      (blank : Blanks blanks) : Introduces schema name place .object (before ++ byte ':' :: blanks)
  /-- The position of the field. -/
  | position {blanks : Bytes} (listed : (schema.map Prod.fst)[place]? = some name)
      (blank : Blanks blanks) : Introduces schema name place .array blanks

/-- A complete value with what comes before it is a complete entry. -/
theorem Introduces.entry {place : Nat} {container : Container} {key trail : Bytes}
    (introduces : Introduces schema name place container key) (value : Loose .value core)
    (blank : Blanks trail) : Loose (.entry container) (key ++ (core ++ trail)) := by
  cases introduces with
  | @name text before blanks named spaced blank' =>
    have whole : before ++ byte ':' :: blanks ++ (core ++ trail) =
        before ++ byte ':' :: (blanks ++ core ++ trail) := by simp
    rw [whole]
    exact .member (looseText_of_textLiteral named) spaced value ⟨blanks, trail, blank', blank, rfl⟩
  | position _ blank' =>
    rw [← List.append_assoc]
    exact .item value ⟨key, trail, blank', blank, rfl⟩

namespace Gap

/-- The entries with a value in the gap. -/
def entries (gap : Gap) (value : Bytes) : List Bytes :=
  gap.earlier ++ (gap.key ++ (value ++ gap.trail)) :: gap.later

/-- The document with a value in the gap. -/
def fill (gap : Gap) (value : Bytes) : Bytes :=
  gap.before ++ opener gap.container :: (separated (gap.entries value) ++ [gap.container.closer]) ++
    gap.after

/-- The gap is where the value of a field stands, and everything else is complete. -/
structure IsOf (gap : Gap) (schema : Schema) (name : String) : Prop where
  /-- Blanks come first. -/
  before : Blanks gap.before
  /-- The entries before are complete. -/
  earlier : ∀ entry ∈ gap.earlier, Loose (.entry gap.container) entry
  /-- The value is that of the field. -/
  introduces : Introduces schema name gap.earlier.length gap.container gap.key
  /-- Blanks come after the value. -/
  trail : Blanks gap.trail
  /-- The entries after are complete. -/
  later : ∀ entry ∈ gap.later, Loose (.entry gap.container) entry
  /-- Blanks come last. -/
  after : Blanks gap.after

variable {gap : Gap}

/-- A complete value in the gap leaves all entries complete. -/
theorem IsOf.forall_entries (isOf : gap.IsOf schema name) (value : Loose .value core) :
    ∀ entry ∈ gap.entries core, Loose (.entry gap.container) entry :=
  List.forall_mem_append.mpr ⟨isOf.earlier,
    List.forall_mem_cons.mpr ⟨isOf.introduces.entry value isOf.trail, isOf.later⟩⟩

/-- A gap that is filled has an entry. -/
theorem entries_ne_nil (gap : Gap) (value : Bytes) : gap.entries value ≠ [] :=
  List.append_ne_nil_of_right_ne_nil _ (List.cons_ne_nil _ _)

/-- Another value of a field is given as often as the first one. -/
theorem distinct_replace {early late : Record} {field other : Field}
    (distinct : Distinct (early ++ (name, field) :: late)) :
    Distinct (early ++ (name, other) :: late) := by
  simpa [Distinct] using distinct

/-- Of members one by one, the one with the key of a field gives it, and would give another value
with another one. -/
theorem exists_field_of_members {earlier later : List Bytes} {key trail : Bytes} {place : Nat}
    (unique : schema.Distinct) (known : (name, kind) ∈ schema) (value : Loose .value core)
    (introduces : Introduces schema name place .object key) (blank : Blanks trail)
    {records : List Record}
    (each : List.Forall₂ (Member schema) (earlier ++ (key ++ (core ++ trail)) :: later) records) :
    ∃ early late field, FieldValue kind core field ∧
      records.flatten = early ++ (name, field) :: late ∧
      ∀ {other field'}, FieldValue kind other field' →
        ∃ records', List.Forall₂ (Member schema)
          (earlier ++ (key ++ (other ++ trail)) :: later) records' ∧
          records'.flatten = early ++ (name, field') :: late := by
  cases introduces with
  | @name text before blanks named spaced blank' =>
    have shape (core : Bytes) : before ++ byte ':' :: blanks ++ (core ++ trail) =
        before ++ byte ':' :: (blanks ++ core ++ trail) := by simp
    have front := (List.forall₂_take_append _ _ _ each.flip).flip
    have back := (List.forall₂_drop_append _ _ _ each.flip).flip
    have parts := List.take_append_drop earlier.length records
    generalize records.take earlier.length = first at front parts
    generalize records.drop earlier.length = others at back parts
    cases back with
    | @cons _ fields _ last member tail =>
      rw [shape] at member
      obtain ⟨field, given, rfl⟩ := exists_field_of_memberValue unique known
        (memberValue_of_member named spaced value ⟨blanks, trail, blank', blank, rfl⟩ member)
      refine ⟨first.flatten, last.flatten, field, given, by rw [← parts]; simp, ?_⟩
      intro other field' given'
      have member' : Member schema (before ++ byte ':' :: (blanks ++ other ++ trail))
          [(name, field')] :=
        .mk named spaced (.known known given') ⟨blanks, trail, blank', blank, rfl⟩
      rw [← shape] at member'
      exact ⟨first ++ [(name, field')] :: last, List.rel_append front (.cons member' tail), by simp⟩

/-- Of values one by one, the one at the position of a field gives it, and another one there would
give another value. -/
theorem exists_field_of_places {earlier later : List Bytes} {key trail : Bytes}
    (unique : schema.Distinct) (known : (name, kind) ∈ schema) (value : Loose .value core)
    (introduces : Introduces schema name earlier.length .array key) (blank : Blanks trail)
    (places : Places schema (earlier ++ (key ++ (core ++ trail)) :: later) record) :
    ∃ early late field, FieldValue kind core field ∧ record = early ++ (name, field) :: late ∧
      ∀ {other field'}, FieldValue kind other field' →
        Places schema (earlier ++ (key ++ (other ++ trail)) :: later)
          (early ++ (name, field') :: late) := by
  cases introduces with
  | position listed blank' =>
    have spaced (core : Bytes) : Spaced core (key ++ (core ++ trail)) :=
      ⟨key, trail, blank', blank, by simp⟩
    obtain ⟨front, back, first, others, rfl, length, rfl, tail, replaced⟩ := places.split
    cases tail with
    | @cons found kind' _ _ _ field _ late given spaced' tail =>
      rw [← length, List.map_append, List.map_cons] at listed
      obtain rfl : found = name := by simpa using listed
      have kinds := (lookup_eq_some_iff unique).mpr known
      rw [(lookup_eq_some_iff unique).mpr (List.mem_append_right front List.mem_cons_self)] at kinds
      obtain rfl : kind' = kind := Option.some.inj kinds
      obtain rfl := spaced_unique value (loose_of_fieldValue given) (spaced core) spaced'
      exact ⟨first, late, field, given, rfl, fun given' => replaced (.cons given' (spaced _) tail)⟩

/-- What a document says of the field of a gap is what the value there gives, and another value
there gives the field another value and changes nothing else. -/
theorem IsOf.exists_field (isOf : gap.IsOf schema name) (unique : schema.Distinct)
    (known : (name, kind) ∈ schema) (value : Loose .value core)
    (document : Document schema (gap.fill core) record) :
    ∃ early late field, FieldValue kind core field ∧ record = early ++ (name, field) :: late ∧
      ∀ {other field'}, FieldValue kind other field' →
        Document schema (gap.fill other) (early ++ (name, field') :: late) := by
  have some := gap.entries_ne_nil
  have each := isOf.forall_entries value
  have enclosed (core : Bytes) :
      Spaced (opener gap.container :: (separated (gap.entries core) ++ [gap.container.closer]))
        (gap.fill core) := ⟨gap.before, gap.after, isOf.before, isOf.after, rfl⟩
  have distinct := distinct_of_document unique document
  obtain ⟨container, content, body, enclosed'⟩ := document
  obtain ⟨rfl, rfl⟩ := container_unique enclosed' (enclosed core)
  have introduces := isOf.introduces
  generalize opened : gap.container = container at *
  cases body with
  | empty blank =>
    exact absurd blank (not_blanks_of_entries (loose_separated (some core) each))
  | object members _ =>
    obtain ⟨records, split, rfl⟩ := exists_records (some core) each members
    obtain ⟨early, late, field, given, whole, replaced⟩ :=
      exists_field_of_members unique known value introduces isOf.trail split
    refine ⟨early, late, field, given, whole, fun given' => ?_⟩
    obtain ⟨records', split', whole'⟩ := replaced given'
    rw [whole] at distinct
    refine ⟨.object, _, .object ?_ (distinct_replace distinct), enclosed _⟩
    rw [← whole']
    exact members_of_forall (some _) split'
  | array positions =>
    have places := places_of_positions (some core) each positions
    obtain ⟨early, late, field, given, whole, replaced⟩ :=
      exists_field_of_places unique known value introduces isOf.trail places
    refine ⟨early, late, field, given, whole, fun given' => ?_⟩
    exact ⟨.array, _, .array (positions_of_places (some _) (replaced given')), enclosed _⟩

end Gap

/-! ## Every document has the gaps of its fields -/

/-- The values by position that a record is read from can be given one by one. -/
theorem exists_places (positions : Positions schema bytes record) :
    ∃ entries, entries ≠ [] ∧ (∀ entry ∈ entries, Loose (.entry .array) entry) ∧
      bytes = separated entries ∧ Places schema entries record := by
  induction positions with
  | @last _ _ _ _ bytes _ value spaced =>
    have item := Loose.item (loose_of_fieldValue value) spaced
    exact ⟨[bytes], List.cons_ne_nil _ _, List.forall_mem_singleton.mpr item, by simp [separated],
      .cons value spaced .nil⟩
  | @more _ _ _ _ bytes _ _ _ value spaced _ ih =>
    obtain ⟨entries, some, each, rfl, places⟩ := ih
    obtain ⟨next, others, rfl⟩ := List.exists_cons_of_ne_nil some
    have item := Loose.item (loose_of_fieldValue value) spaced
    exact ⟨bytes :: next :: others, List.cons_ne_nil _ _, List.forall_mem_cons.mpr ⟨item, each⟩,
      (separated_cons_cons _ _ _).symm, .cons value spaced places⟩

/-- A field that is given by position is given by one of the values. -/
theorem Places.exists_entry {entries : List Bytes} {field : Field}
    (places : Places schema entries record) (given : (name, field) ∈ record) :
    ∃ earlier entry later, entries = earlier ++ entry :: later ∧
      (schema.map Prod.fst)[earlier.length]? = some name ∧
      ∃ kind core, FieldValue kind core field ∧ Spaced core entry := by
  induction places with
  | nil => cases given
  | @cons _ kind _ core bytes _ entries _ value spaced _ ih =>
    obtain same | behind := List.mem_cons.mp given
    · cases same
      exact ⟨[], bytes, entries, rfl, rfl, kind, core, value, spaced⟩
    · obtain ⟨earlier, entry, later, rfl, listed, found⟩ := ih behind
      exact ⟨bytes :: earlier, entry, later, rfl, listed, found⟩

/-- A field that is given by members is given by one of them. -/
theorem exists_entry_of_mem {entries : List Bytes} {records : List Record} {field : Field}
    (each : List.Forall₂ (Member schema) entries records)
    (given : (name, field) ∈ records.flatten) :
    ∃ earlier entry later fields, entries = earlier ++ entry :: later ∧
      Member schema entry fields ∧ (name, field) ∈ fields := by
  induction each with
  | nil => cases given
  | @cons entry fields entries _ member _ ih =>
    rw [List.flatten_cons, List.mem_append] at given
    obtain here | behind := given
    · exact ⟨[], entry, entries, fields, rfl, member, here⟩
    · obtain ⟨earlier, other, later, others, rfl, found⟩ := ih behind
      exact ⟨entry :: earlier, other, later, others, rfl, found⟩

/-- Every document that gives a field has a gap for it, with a complete value in it. -/
theorem exists_gap {document : Bytes} {field : Field} (reads : Document schema document record)
    (given : (name, field) ∈ record) :
    ∃ gap : Gap, ∃ core, gap.IsOf schema name ∧ Loose .value core ∧ document = gap.fill core := by
  obtain ⟨container, content, body, before, after, left, right, rfl⟩ := reads
  cases body with
  | empty => cases given
  | object members _ =>
    obtain ⟨entries, some, each, rfl⟩ := exists_separated members
    obtain ⟨records, split, rfl⟩ := exists_records some each members
    obtain ⟨earlier, entry, later, fields, rfl, member, inside⟩ := exists_entry_of_mem split given
    obtain ⟨first, others⟩ := List.forall_mem_append.mp each
    obtain @⟨key, text, core, keyed, _, _, named, spaced, value, blank, trail, leftBlank,
      rightBlank, rfl⟩ := member
    obtain rfl : key = name := by
      cases value with
      | known => exact (Prod.mk.inj (List.mem_singleton.mp inside)).1.symm
      | unknown => cases inside
    refine ⟨⟨.object, before, earlier, keyed ++ byte ':' :: blank, trail, later, after⟩, core,
      ⟨left, first, .name named spaced leftBlank, rightBlank,
        (List.forall_mem_cons.mp others).2, right⟩, loose_of_memberValue value, ?_⟩
    simp [Gap.fill, Gap.entries]
  | array positions =>
    obtain ⟨entries, _, each, rfl, places⟩ := exists_places positions
    obtain ⟨earlier, _, later, rfl, listed, _, core, value, key, trail, leftBlank, rightBlank,
      rfl⟩ := places.exists_entry given
    obtain ⟨first, others⟩ := List.forall_mem_append.mp each
    refine ⟨⟨.array, before, earlier, key, trail, later, after⟩, core,
      ⟨left, first, .position listed leftBlank, rightBlank,
        (List.forall_mem_cons.mp others).2, right⟩, loose_of_fieldValue value, ?_⟩
    simp [Gap.fill, Gap.entries]

end EventLedger.Json
