import EventLedger.Proofs.Json.Tree

/-!
# Fields are read as the grammar has them

The fields of a record stand in the members of an object, `readRecordMembers_append` and
`readRecordMembers_eq_some`, or by position in an array, `readPositions_append` and
`readPositions_eq_some`. Either way the reader collects them in reverse; among members it refuses a
known key that it has met, so no two of the fields that it holds have one name.
-/
namespace EventLedger.Json

open Grammar

/-- No two fields of a schema have one name. -/
abbrev Schema.Distinct (schema : Schema) : Prop := (schema.map Prod.fst).Nodup

/-- No field of a record is given twice. -/
abbrev Distinct (record : Record) : Prop := (record.map Prod.fst).Nodup

/-- Nothing is distinct. -/
theorem distinct_nil : Distinct [] := List.nodup_nil

/-- The order does not matter. -/
theorem distinct_reverse {record : Record} : Distinct record.reverse ↔ Distinct record := by
  rw [Distinct, List.map_reverse, List.Nodup, List.pairwise_reverse]
  exact ⟨fun distinct => distinct.imp Ne.symm, fun distinct => distinct.imp Ne.symm⟩

variable {blanks rest : Bytes}

/-! ## Fields -/

/-- What begins a field's value is no blank and ends no array. -/
theorem exists_field_head {kind : FieldKind} {bytes : Bytes} {field : Field}
    (value : FieldValue kind bytes field) :
    ∃ b tail, bytes = b :: tail ∧ isSpace b = false ∧ b ≠ byte ']' := by
  cases value with
  | null => exact ⟨_, _, rfl, by decide, by decide⟩
  | text spelled =>
    obtain ⟨pieces, _, rfl⟩ := spelled
    exact ⟨_, _, rfl, by decide, by decide⟩
  | count spelled least greatest =>
    obtain ⟨literal, number, _⟩ := (integerLiteral_iff least (le_greatest_of_lt greatest)).mp
      spelled
    obtain ⟨b, tail, rfl, head⟩ := exists_number_head number
    exact ⟨b, tail, rfl, isSpace_of_number_head head, ne_of_number_head head (by decide)⟩
  | tree readable present =>
    obtain ⟨b, tail, rfl, noSpace, noCloser, _⟩ := exists_readable_head readable
    exact ⟨b, tail, rfl, noSpace, noCloser⟩

/-- A value of a field is read to the field. -/
theorem readField_append {kind : FieldKind} {bytes : Bytes} {field : Field}
    (value : FieldValue kind bytes field) (blank : Blanks blanks) (ends : Ends rest) :
    readField kind (blanks ++ (bytes ++ rest)) = some (field, rest) := by
  rw [readField]
  cases value with
  | null =>
    have skipped : skipSpace (blanks ++ (word "null" ++ rest)) = word "null" ++ rest :=
      skipSpace_append blank (by decide)
    have word : skipWord? "ull".toList ("ull".toList.map byte ++ rest) = some rest :=
      skipWord?_eq_some_iff.mpr rfl
    rw [skipped]
    exact (if_pos rfl).trans (congrArg (Option.map _) word)
  | @text bytes text spelled =>
    have read := readText_append spelled rest
    obtain ⟨pieces, each, rfl⟩ := spelled
    rw [List.cons_append] at read ⊢
    rw [skipSpace_append blank (by decide)]
    dsimp only
    rw [if_neg (by decide), read]
    rfl
  | @count bytes value spelled least greatest =>
    have read := readInt64_append spelled least greatest ends
    obtain ⟨literal, number, _⟩ := (integerLiteral_iff least (le_greatest_of_lt greatest)).mp
      spelled
    obtain ⟨b, tail, rfl, head⟩ := exists_number_head number
    rw [List.cons_append] at read ⊢
    rw [skipSpace_append blank (isSpace_of_number_head head)]
    dsimp only
    rw [if_neg (ne_of_number_head head (by decide)), read]
    rfl
  | @tree bytes value readable present =>
    obtain ⟨b, tail, rfl, noSpace, _, null⟩ := exists_readable_head readable
    have enough : (b :: tail).length ≤ (tail ++ rest).length + 1 := by
      simp only [List.length_cons, List.length_append]
      omega
    have read : readValue ((tail ++ rest).length + 1) nestingLimit (b :: (tail ++ rest)) =
        some (value, rest) := readValue_append readable enough (List.forall_mem_nil _) ends
    rw [List.cons_append, skipSpace_append blank noSpace]
    dsimp only
    rw [if_neg (null.resolve_left fun isNull => present isNull.2), read]
    rfl

/-- What is read as a field is a value of it, after blanks. -/
theorem readField_eq_some {kind : FieldKind} {input : Bytes} {field : Field}
    (read : readField kind input = some (field, rest)) :
    ∃ blanks bytes, Blanks blanks ∧ FieldValue kind bytes field ∧
      input = blanks ++ (bytes ++ rest) := by
  rw [readField] at read
  generalize skip : skipSpace input = input' at read
  obtain ⟨blanks, blank, rfl⟩ := exists_blanks skip
  refine ⟨blanks, ?_⟩
  obtain _ | ⟨b, tail⟩ := input'
  · cases read
  dsimp only at read
  split at read
  next first =>
    rw [Option.map_eq_some_iff] at read
    obtain ⟨after, skipped, same⟩ := read
    cases same
    rw [skipWord?_eq_some_iff] at skipped
    subst first skipped
    exact ⟨word "null", blank, .null, rfl⟩
  next noNull =>
    cases kind with
    | text =>
      simp only [Option.map_eq_some_iff, Prod.exists] at read
      obtain ⟨text, after, found, same⟩ := read
      cases same
      obtain ⟨spelled, whole, text⟩ := readText_eq_some found
      exact ⟨spelled, blank, .text text, by rw [whole]⟩
    | count =>
      simp only [Option.map_eq_some_iff, Prod.exists] at read
      obtain ⟨value, after, found, same⟩ := read
      cases same
      obtain ⟨spelled, whole, integer, least, greatest⟩ := readInt64_eq_some found
      exact ⟨spelled, blank, .count integer least greatest, by rw [whole]⟩
    | tree =>
      simp only [Option.map_eq_some_iff, Prod.exists] at read
      obtain ⟨value, after, found, same⟩ := read
      cases same
      obtain ⟨before, spelled, left, readable, whole⟩ := readValue_eq_some found
      -- No blank is left to come before the value.
      have bare : skipSpace (before ++ (spelled ++ rest)) = before ++ (spelled ++ rest) := by
        rw [← whole, ← skip, skipSpace_skipSpace]
      obtain ⟨first, others, rfl, noSpace, _⟩ := exists_readable_head readable
      rw [List.cons_append, skipSpace_append left noSpace] at bare
      rw [List.cons_append, ← bare] at whole
      cases whole
      exact ⟨_, blank, .tree readable fun isNull => noNull (List.cons.inj isNull).1, rfl⟩

/-! ## Members -/

variable {schema : Schema} {found : Record}

/-- A name is not found if nothing stands under it. -/
theorem lookup_eq_none_iff {β : Type} {entries : List (String × β)} {key : String} :
    entries.lookup key = none ↔ ∀ value, (key, value) ∉ entries := by
  simp only [List.lookup_eq_none_iff, Prod.forall, bne_iff_ne]
  constructor
  · exact fun other value inside => other key value inside rfl
  · rintro absent _ value inside rfl
    exact absent value inside

/-- Among distinct names, what is found is what stands there. -/
theorem lookup_eq_some_iff {β : Type} {entries : List (String × β)}
    (distinct : (entries.map Prod.fst).Nodup) {key : String} {value : β} :
    entries.lookup key = some value ↔ (key, value) ∈ entries := by
  induction entries with
  | nil => simp
  | cons entry entries ih =>
    obtain ⟨name, first⟩ := entry
    simp only [List.map_cons, List.nodup_cons, List.mem_map, Prod.exists] at distinct
    rw [List.lookup_cons, List.mem_cons, Prod.mk.injEq]
    by_cases same : key = name
    · subst same
      have absent : (key, value) ∉ entries := fun inside => distinct.1 ⟨key, value, inside, rfl⟩
      simp [absent, eq_comm]
    · have other : (key == name) = false := beq_false_of_ne same
      simp [other, same, ih distinct.2]

/-- The value of a member is read to its field, and one of no field is skipped. -/
theorem readMemberValue_append {key : String} {bytes : Bytes} {fields : Record}
    (unique : schema.Distinct) (value : MemberValue schema key bytes fields)
    (distinct : Distinct (fields.reverse ++ found)) (blank : Blanks blanks) (ends : Ends rest) :
    readMemberValue schema key found (blanks ++ (bytes ++ rest)) =
      some (fields.reverse ++ found, rest) := by
  cases value with
  | known known value =>
    have isNew : found.lookup key = none := by
      rw [lookup_eq_none_iff]
      intro earlier inside
      rw [Distinct, List.reverse_singleton, List.singleton_append, List.map_cons,
        List.nodup_cons] at distinct
      exact distinct.1 (List.mem_map.mpr ⟨_, inside, rfl⟩)
    rw [readMemberValue, (lookup_eq_some_iff unique).mpr known]
    dsimp only
    rw [isNew, readField_append value blank ends]
    rfl
  | unknown unknown value =>
    rw [readMemberValue, lookup_eq_none_iff.mpr unknown, skipValue_append blank value ends]
    rfl

/-- What is read as a member is its value, and no field is found twice. -/
theorem readMemberValue_eq_some {key : String} {input : Bytes} {record : Record}
    (unique : schema.Distinct) (distinct : Distinct found)
    (read : readMemberValue schema key found input = some (record, rest)) :
    ∃ blanks bytes fields, Blanks blanks ∧ MemberValue schema key bytes fields ∧
      input = blanks ++ (bytes ++ rest) ∧ record = fields.reverse ++ found ∧ Distinct record := by
  rw [readMemberValue] at read
  split at read
  next unknown =>
    simp only [Option.map_eq_some_iff] at read
    obtain ⟨after, skipped, same⟩ := read
    cases same
    obtain ⟨blanks, bytes, blank, loose, rfl⟩ := skipValue_eq_some skipped
    exact ⟨blanks, bytes, [], blank, .unknown (lookup_eq_none_iff.mp unknown) loose, by simp, rfl,
      distinct⟩
  next kind known =>
    split at read
    · cases read
    next isNew =>
      simp only [Option.map_eq_some_iff, Prod.exists] at read
      obtain ⟨field, after, found, same⟩ := read
      cases same
      have listed := (lookup_eq_some_iff unique).mp known
      obtain ⟨blanks, bytes, blank, value, rfl⟩ := readField_eq_some found
      refine ⟨blanks, bytes, [(key, field)], blank, .known listed value, rfl, rfl, ?_⟩
      rw [Option.not_isSome_iff_eq_none, lookup_eq_none_iff] at isNew
      refine List.nodup_cons.mpr ⟨fun given => ?_, distinct⟩
      obtain ⟨⟨_, earlier⟩, inside, rfl⟩ := List.mem_map.mp given
      exact isNew earlier inside

/-- A member is read up to the byte after it, which decides whether there is another one. -/
theorem readRecordMembers_member {bytes : Bytes} {fields : Record} {b : UInt8} {fuel : Nat}
    (unique : schema.Distinct) (member : Member schema bytes fields)
    (distinct : Distinct (fields.reverse ++ found)) (noSpace : isSpace b = false)
    (ends : Ends (b :: rest)) :
    readRecordMembers schema (fuel + 1) found (bytes ++ b :: rest) =
      if b = byte '\x7d' then some (fields.reverse ++ found, rest)
      else if b = byte ',' then readRecordMembers schema fuel (fields.reverse ++ found) rest
      else none := by
  obtain ⟨named, ⟨before, between, left, middle, rfl⟩, value,
    ⟨before', after, left', right, rfl⟩⟩ :=
    member
  simp only [List.append_assoc, List.cons_append]
  rw [readRecordMembers, readText_blanks named left]
  dsimp only
  rw [skipSpace_append middle (by decide)]
  dsimp only
  rw [if_pos rfl, readMemberValue_append unique value distinct left' (ends.blanks_append right)]
  dsimp only
  rw [skipSpace_append right noSpace]

/-- What is read up to the byte after it is a member. -/
theorem exists_member {input afterKey core afterValue : Bytes} {key : String} {b : UInt8}
    {record : Record} (unique : schema.Distinct) (distinct : Distinct found)
    (named : readText (skipSpace input) = some (key, afterKey))
    (colon : skipSpace afterKey = byte ':' :: core)
    (value : readMemberValue schema key found core = some (record, afterValue))
    (next : skipSpace afterValue = b :: rest) :
    ∃ bytes fields, Member schema bytes fields ∧ input = bytes ++ b :: rest ∧
      record = fields.reverse ++ found ∧ Distinct record := by
  generalize skip : skipSpace input = text at named
  obtain ⟨before, left, rfl⟩ := exists_blanks skip
  obtain ⟨spelled, rfl, literal⟩ := readText_eq_some named
  obtain ⟨between, middle, rfl⟩ := exists_blanks colon
  obtain ⟨before', bytes, fields, left', given, rfl, same, still⟩ :=
    readMemberValue_eq_some unique distinct value
  obtain ⟨after, right, rfl⟩ := exists_blanks next
  refine ⟨_, fields, .mk literal ⟨before, between, left, middle, rfl⟩ given
    ⟨before', after, left', right, rfl⟩, ?_, same, still⟩
  simp

/-- Part of a distinct record is distinct. -/
theorem Distinct.of_append {left right : Record} (distinct : Distinct (left ++ right)) :
    Distinct right := by
  rw [Distinct, List.map_append] at distinct
  exact (List.nodup_append.mp distinct).2.1

/-- Members are read to the end of the object. -/
theorem readRecordMembers_append {bytes : Bytes} {record : Record} (unique : schema.Distinct)
    (members : Members schema bytes record) (distinct : Distinct (record.reverse ++ found))
    {fuel : Nat} (enough : bytes.length ≤ fuel) :
    readRecordMembers schema (fuel + 1) found (bytes ++ byte '\x7d' :: rest) =
      some (record.reverse ++ found, rest) := by
  induction members generalizing found fuel with
  | last member =>
    have ends : Ends (byte '\x7d' :: rest) := ends_closer .object rest
    rw [readRecordMembers_member unique member distinct (by decide) ends, if_pos rfl]
  | @more bytes others fields record member members ih =>
    rw [List.reverse_append, List.append_assoc] at distinct ⊢
    obtain _ | fuel := fuel
    · simp at enough
    · have fits : others.length ≤ fuel := by
        simp only [List.length_append, List.length_cons] at enough
        omega
      rw [List.append_assoc, List.cons_append,
        readRecordMembers_member unique member distinct.of_append (by decide) (ends_comma _),
        if_neg (by decide), if_pos rfl, ih distinct fits]

/-- What is read are members and the end of the object. -/
theorem readRecordMembers_eq_some {fuel : Nat} {input : Bytes} {record : Record}
    (unique : schema.Distinct) (distinct : Distinct found)
    (read : readRecordMembers schema fuel found input = some (record, rest)) :
    ∃ bytes fields, Members schema bytes fields ∧ input = bytes ++ byte '\x7d' :: rest ∧
      record = fields.reverse ++ found ∧ Distinct record := by
  fun_induction readRecordMembers schema fuel found input with
  | case6 fuel found input key afterKey named core given afterValue value last colon next =>
    cases read
    obtain ⟨bytes, fields, member, whole, same, still⟩ :=
      exists_member unique distinct named colon value next
    exact ⟨bytes, fields, .last member, whole, same, still⟩
  | case7 fuel found input key afterKey named core given afterValue value others colon next _ ih =>
    obtain ⟨bytes, fields, member, rfl, rfl, still⟩ :=
      exists_member unique distinct named colon value next
    obtain ⟨more, later, members, rfl, rfl, all⟩ := ih still read
    exact ⟨_, fields ++ later, .more member members, by simp, by simp, all⟩
  | _ => cases read

/-! ## Positions -/

/-- The end of the array may come anywhere. -/
theorem readPositions_end (first : Bool) (blank : Blanks blanks) :
    readPositions schema first found (blanks ++ byte ']' :: rest) = some (found, rest) := by
  cases schema with
  | nil =>
    rw [readPositions, skipSpace_append blank (by decide)]
    exact if_pos rfl
  | cons entry schema =>
    rw [readPositions, skipSpace_append blank (by decide)]
    exact if_pos rfl

/-- Blanks before a field do not matter. -/
theorem readField_skipSpace (kind : FieldKind) (input : Bytes) :
    readField kind (skipSpace input) = readField kind input := by
  simp only [readField, skipSpace_skipSpace]

/-- A value by position is read up to the byte after it. -/
theorem readPositions_value {kind : FieldKind} {core bytes after : Bytes} {field : Field}
    (value : FieldValue kind core field) (spaced : Spaced core bytes) (ends : Ends after)
    (name : String) (schema : Schema) (found : Record) :
    ∃ between, Blanks between ∧
      readPositions ((name, kind) :: schema) true found (bytes ++ after) =
        readPositions schema false ((name, field) :: found) (between ++ after) ∧
      ∀ blanks, Blanks blanks →
        readPositions ((name, kind) :: schema) false found
            (blanks ++ byte ',' :: (bytes ++ after)) =
          readPositions schema false ((name, field) :: found) (between ++ after) := by
  obtain ⟨before, between, left, right, rfl⟩ := spaced
  have read := readField_append value left (ends.blanks_append right)
  obtain ⟨b, tail, rfl, noSpace, noCloser⟩ := exists_field_head value
  simp only [List.append_assoc] at read ⊢
  refine ⟨between, right, ?_, fun blanks blank => ?_⟩
  · rw [← readField_skipSpace, List.cons_append, skipSpace_append left noSpace] at read
    rw [readPositions, List.cons_append, skipSpace_append left noSpace]
    dsimp only
    rw [if_neg noCloser, if_pos rfl, Option.bind_some, read]
  · rw [readPositions, skipSpace_append blank (by decide)]
    dsimp only
    rw [if_neg (by decide), if_neg Bool.false_ne_true, if_pos rfl, Option.bind_some, read]

/-- Values by position are read to the end of the array. -/
theorem readPositions_append {bytes : Bytes} {record : Record}
    (positions : Positions schema bytes record) :
    readPositions schema true found (bytes ++ byte ']' :: rest) =
        some (record.reverse ++ found, rest) ∧
      ∀ blanks, Blanks blanks →
        readPositions schema false found (blanks ++ byte ',' :: (bytes ++ byte ']' :: rest)) =
          some (record.reverse ++ found, rest) := by
  induction positions generalizing found with
  | @last name kind schema core bytes field value spaced =>
    have ends : Ends (byte ']' :: rest) := ends_closer .array rest
    obtain ⟨between, right, first, later⟩ :=
      readPositions_value value spaced ends name schema found
    rw [readPositions_end false right] at first later
    exact ⟨first, later⟩
  | @more name kind schema core bytes others field record value spaced positions ih =>
    obtain ⟨between, right, first, later⟩ :=
      readPositions_value value spaced (ends_comma (others ++ byte ']' :: rest)) name schema found
    rw [ih.2 between right] at first later
    simp only [List.append_assoc, List.cons_append, List.reverse_cons, List.nil_append]
    exact ⟨first, later⟩

/-- What may follow a value by position in its array. -/
def Follow (schema : Schema) (bytes : Bytes) (fields : Record) : Prop :=
  ∃ blanks more, Blanks blanks ∧ bytes = blanks ++ more ∧
    (more = [] ∧ fields = [] ∨
      ∃ content, more = byte ',' :: content ∧ Positions schema content fields)

/-- A value goes before what may follow it. -/
theorem Follow.positions {kind : FieldKind} {before core bytes : Bytes} {field : Field}
    {fields : Record} (follow : Follow schema bytes fields) (blank : Blanks before)
    (value : FieldValue kind core field) (name : String) :
    Positions ((name, kind) :: schema) (before ++ (core ++ bytes)) ((name, field) :: fields) := by
  obtain ⟨between, more, right, rfl, ⟨rfl, rfl⟩ | ⟨content, rfl, positions⟩⟩ := follow
  · exact .last value ⟨before, between, blank, right, by simp⟩
  · have whole : Positions ((name, kind) :: schema)
        (before ++ core ++ between ++ byte ',' :: content) ((name, field) :: fields) :=
      .more value ⟨before, between, blank, right, rfl⟩ positions
    simpa using whole

/-- What is read are values by position and the end of the array. -/
theorem readPositions_eq_some {first : Bool} {input : Bytes} {record : Record}
    (read : readPositions schema first found input = some (record, rest)) :
    ∃ content fields, input = content ++ byte ']' :: rest ∧ record = fields.reverse ++ found ∧
      if first then Blanks content ∧ fields = [] ∨ Positions schema content fields
      else Follow schema content fields := by
  have ended {schema : Schema} {first : Bool} {content : Bytes} (blank : Blanks content) :
      if first then Blanks content ∧ ([] : Record) = [] ∨ Positions schema content []
      else Follow schema content [] := by
    cases first
    · exact ⟨content, [], blank, by simp, .inl ⟨rfl, rfl⟩⟩
    · exact .inl ⟨blank, rfl⟩
  fun_induction readPositions schema first found input with
  | case2 first found input tail split =>
    cases read
    obtain ⟨blanks, blank, rfl⟩ := exists_blanks split
    exact ⟨blanks, [], rfl, rfl, ended blank⟩
  | case5 name kind schema first found input tail split =>
    cases read
    obtain ⟨blanks, blank, rfl⟩ := exists_blanks split
    exact ⟨blanks, [], rfl, rfl, ended blank⟩
  | case7 name kind schema first found input b tail split _ value? field after value ih =>
    obtain ⟨blanks, blank, rfl⟩ := exists_blanks split
    obtain ⟨content, fields, rfl, rfl, follow⟩ := ih read
    have follow : Follow schema content fields := follow
    cases first with
    | true =>
      have value : readField kind (b :: tail) = some (field, content ++ byte ']' :: rest) := value
      obtain ⟨before, core, left, value, whole⟩ := readField_eq_some value
      have positions := follow.positions (blanks_append blank left) value name
      exact ⟨_, _, by simp [whole], by simp, .inr positions⟩
    | false =>
      have value : (if b = byte ',' then some tail else none).bind (readField kind) =
          some (field, content ++ byte ']' :: rest) := value
      split at value
      next comma =>
        obtain ⟨before, core, left, isValue, rfl⟩ := readField_eq_some value
        have positions := follow.positions left isValue name
        exact ⟨_, _, by simp [comma], by simp, blanks, _, blank, rfl, .inr ⟨_, rfl, positions⟩⟩
      · cases value
  | _ => cases read

end EventLedger.Json
