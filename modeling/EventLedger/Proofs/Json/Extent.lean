import EventLedger.Proofs.Json.Document

/-!
# How far things reach

What is read could as well be skipped, `loose_of_readable`, so a value ends at the same byte whether
somebody reads it or not. Therefore bytes are split into the entries of a container in one way,
`entry_append_injective`: if the members of an object are given one by one, these are the members
that a record is read from, `exists_records`. A schema reads from an object what a larger one reads
there of the fields that both know, `object_restrict`.
-/
namespace EventLedger.Json

open Grammar

variable {schema : Schema} {container : Container} {bytes : Bytes}

/-! ## What is read could be skipped -/

/-- A character of a text is made of pieces of a text that nobody reads: of one for each byte in
UTF-8, of one for an escape, and of two for a pair of surrogates. -/
theorem exists_pieces_of_piece {c : Char} (piece : Piece bytes c) :
    ∃ pieces : List Bytes, (∀ piece ∈ pieces, LoosePiece piece) ∧ bytes = pieces.flatten := by
  cases piece with
  | raw printable noQuote noEscape =>
    have each := isRaw_encodeChar ⟨printable, noQuote, noEscape⟩
    rw [Text.Utf8.encodeChar_eq] at each
    refine ⟨(String.utf8EncodeChar c).map ([·]), fun piece inside => ?_, ?_⟩
    · obtain ⟨b, among, rfl⟩ := List.mem_map.mp inside
      obtain ⟨printable, noQuote, noEscape⟩ := each b among
      exact .raw (UInt8.not_lt.mp printable) noQuote noEscape
    · rw [← List.flatMap_def, List.flatMap_singleton']
  | short listed => exact ⟨[_], by simpa using LoosePiece.short listed, by simp⟩
  | unit escape => exact ⟨[bytes], by simpa using LoosePiece.unit escape, by simp⟩
  | @pair first second _ _ _ escape escape' =>
    have both : ∀ piece ∈ [first, second], LoosePiece piece := by
      simpa using ⟨LoosePiece.unit escape, LoosePiece.unit escape'⟩
    exact ⟨[first, second], both, by simp⟩

/-- A text that is read could be skipped. -/
theorem looseText_of_textLiteral {text : String} (literal : TextLiteral bytes text) :
    LooseText bytes := by
  obtain ⟨spelled, each, rfl⟩ := literal
  have loose : ∃ pieces : List Bytes, (∀ piece ∈ pieces, LoosePiece piece) ∧
      spelled.flatten = pieces.flatten := by
    generalize text.toList = chars at each
    induction each with
    | nil => exact ⟨[], List.forall_mem_nil _, rfl⟩
    | cons piece _ ih =>
      obtain ⟨first, firstLoose, rfl⟩ := exists_pieces_of_piece piece
      obtain ⟨others, othersLoose, same⟩ := ih
      refine ⟨first ++ others, List.forall_mem_append.mpr ⟨firstLoose, othersLoose⟩, ?_⟩
      rw [List.flatten_cons, same, List.flatten_append]
  obtain ⟨pieces, each, same⟩ := loose
  exact ⟨pieces, each, by rw [same]⟩

/-- What is read of a part of a value is that part. -/
def Grammar.Reading.part : Reading → Part
  | .value _ => .value
  | .items _ => .entries .array
  | .members _ => .entries .object

/-- What is read could be skipped, and so could its parts. -/
theorem loose_of_readable {depth : Nat} {reading : Reading}
    (readable : Readable depth reading bytes) : Loose reading.part bytes := by
  induction readable with
  | null => exact .word (by decide)
  | @bool _ value =>
    have fixed : (if value then "true" else "false") ∈ ["null", "true", "false"] := by
      cases value <;> decide
    exact .word fixed
  | number spelled =>
    obtain ⟨literal, number, _⟩ := numberValue_iff.mp spelled
    exact .number number
  | text spelled => exact .text (looseText_of_textLiteral spelled)
  | noItems blank => exact @Loose.empty .array _ blank
  | array _ ih => exact .container ih
  | noMembers blank => exact @Loose.empty .object _ blank
  | object _ _ _ ih => exact .container ih
  | @embedded _ _ _ _ _ _ _ content _ named spaced quoted spaced' =>
    have member := Loose.member (looseText_of_textLiteral named) spaced
      (.text (looseText_of_textLiteral quoted)) spaced'
    exact @Loose.container .object _ (.last member)
  | lastItem _ spaced ih => exact .last (.item ih spaced)
  | moreItems _ spaced _ ihItem ihItems => exact .more (.item ihItem spaced) ihItems
  | lastMember named spaced _ spaced' ih =>
    exact .last (.member (looseText_of_textLiteral named) spaced ih spaced')
  | moreMembers named spaced _ spaced' _ ihItem ihMembers =>
    exact .more (.member (looseText_of_textLiteral named) spaced ihItem spaced') ihMembers

/-- The value of a field could be skipped. -/
theorem loose_of_fieldValue {kind : FieldKind} {field : Field}
    (value : FieldValue kind bytes field) : Loose .value bytes := by
  cases value with
  | null => exact .word (by decide)
  | text spelled => exact .text (looseText_of_textLiteral spelled)
  | count spelled least greatest =>
    obtain ⟨literal, number, _⟩ :=
      (integerLiteral_iff least (le_greatest_of_lt greatest)).mp spelled
    exact .number number
  | tree readable => exact loose_of_readable readable

/-- The value of a member could be skipped. -/
theorem loose_of_memberValue {key : String} {fields : Record}
    (value : MemberValue schema key bytes fields) : Loose .value bytes := by
  cases value with
  | known _ value => exact loose_of_fieldValue value
  | unknown _ value => exact value

/-- A member of a record is an entry of an object. -/
theorem loose_of_member {fields : Record} (member : Member schema bytes fields) :
    Loose (.entry .object) bytes := by
  obtain ⟨named, spaced, value, spaced'⟩ := member
  exact .member (looseText_of_textLiteral named) spaced (loose_of_memberValue value) spaced'

/-! ## Entries end in one way -/

/-- A byte that may come after an entry. -/
def EndsEntry (container : Container) (b : UInt8) : Prop := b = byte ',' ∨ b = container.closer

/-- What ends an entry of a container ends every value before it. -/
theorem EndsEntry.ends {b : UInt8} (ending : EndsEntry container b) (rest : Bytes) :
    isSpace b = false ∧ Ends (b :: rest) := by
  obtain rfl | rfl := ending
  · exact ⟨by decide, ends_comma rest⟩
  · exact ⟨by cases container <;> decide, ends_closer container rest⟩

/-- An entry is its beginning and a value. -/
theorem exists_entry_parts {entry : Bytes} (loose : Loose (.entry container) entry) :
    ∃ key core spaced, EntryBegins container key ∧ Loose .value core ∧ Spaced core spaced ∧
      entry = key ++ spaced := by
  cases loose with
  | item value spaced => exact ⟨[], _, _, .array, value, spaced, rfl⟩
  | member text spaced value spaced' =>
    exact ⟨_, _, _, .object text spaced, value, spaced', by simp⟩

/-- An entry at the front of bytes, and the byte after it, are there in one way. -/
theorem entry_append_injective {entry other rest after : Bytes} {b b' : UInt8}
    (loose : Loose (.entry container) entry) (loose' : Loose (.entry container) other)
    (ending : EndsEntry container b) (ending' : EndsEntry container b')
    (same : entry ++ b :: rest = other ++ b' :: after) :
    entry = other ∧ b :: rest = b' :: after := by
  obtain ⟨key, core, _, begins, value, ⟨before, between, left, right, rfl⟩, rfl⟩ :=
    exists_entry_parts loose
  obtain ⟨key', core', _, begins', value', ⟨before', between', left', right', rfl⟩, rfl⟩ :=
    exists_entry_parts loose'
  obtain ⟨noSpace, ends⟩ := ending.ends rest
  obtain ⟨noSpace', ends'⟩ := ending'.ends after
  -- Skipping the key and the value of either entry passes over the same bytes.
  have keyless : before ++ (core ++ (between ++ b :: rest)) =
      before' ++ (core' ++ (between' ++ b' :: after)) := by
    have skipped := skipKey_append begins (before ++ (core ++ (between ++ b :: rest)))
    have skipped' := skipKey_append begins' (before' ++ (core' ++ (between' ++ b' :: after)))
    simp only [List.append_assoc] at same
    rw [same, skipped'] at skipped
    exact (Option.some.inj skipped).symm
  have valueless : between ++ b :: rest = between' ++ b' :: after := by
    have skipped := skipValue_append left value (ends.blanks_append right)
    have skipped' := skipValue_append left' value' (ends'.blanks_append right')
    rw [keyless, skipped'] at skipped
    exact (Option.some.inj skipped).symm
  have last : b :: rest = b' :: after := by
    have skipped : skipSpace (between ++ b :: rest) = b :: rest := skipSpace_append right noSpace
    have skipped' : skipSpace (between' ++ b' :: after) = b' :: after :=
      skipSpace_append right' noSpace'
    rw [← skipped, valueless, skipped']
  rw [last] at same
  exact ⟨List.append_cancel_right same, last⟩

/-- A comma closes no container. -/
theorem comma_ne_closer (container : Container) : byte ',' ≠ container.closer := by
  cases container <;> decide

/-! ## Members one by one -/

/-- Entries with commas between them. -/
abbrev Grammar.separated (entries : List Bytes) : Bytes := [byte ','].intercalate entries

/-- Entries are separated by commas. -/
theorem separated_cons_cons (entry next : Bytes) (entries : List Bytes) :
    separated (entry :: next :: entries) = entry ++ byte ',' :: separated (next :: entries) := by
  rw [separated, List.intercalate_cons_cons, List.append_assoc]
  rfl

/-- Entries one by one are the entries of a container. -/
theorem loose_separated {entries : List Bytes} (some : entries ≠ [])
    (each : ∀ entry ∈ entries, Loose (.entry container) entry) :
    Loose (.entries container) (separated entries) := by
  induction entries with
  | nil => exact absurd rfl some
  | cons entry entries ih =>
    obtain ⟨first, others⟩ := List.forall_mem_cons.mp each
    cases entries with
    | nil =>
      rw [separated, List.intercalate_singleton]
      exact .last first
    | cons next entries =>
      rw [separated_cons_cons]
      exact .more first (ih (List.cons_ne_nil _ _) others)

/-- Entries are more than blanks. -/
theorem not_blanks_of_entries (entries : Loose (.entries container) bytes) : ¬Blanks bytes := by
  intro blank
  obtain ⟨before, b, rest, _, rfl, noSpace, _⟩ := exists_entries_head entries
  have inside : b ∈ before ++ b :: rest := List.mem_append_right before List.mem_cons_self
  have space : isSpace b = true := isSpace_iff.mpr (blank b inside)
  rw [noSpace] at space
  cases space

/-- Members of a record one by one are members of it. -/
theorem members_of_forall {entries : List Bytes} {records : List Record} (some : entries ≠ [])
    (each : List.Forall₂ (Member schema) entries records) :
    Members schema (separated entries) records.flatten := by
  induction each with
  | nil => exact absurd rfl some
  | @cons entry fields entries records member others ih =>
    cases others with
    | nil =>
      rw [separated, List.intercalate_singleton, List.flatten_singleton]
      exact .last member
    | @cons next _ entries _ =>
      rw [separated_cons_cons, List.flatten_cons]
      exact .more member (ih (List.cons_ne_nil _ _))

/-- Entries one by one are a single entry only if that is the only one. -/
theorem separated_eq_entry {entry other : Bytes} {entries : List Bytes}
    (loose : Loose (.entry container) entry) (loose' : Loose (.entry container) other)
    (same : separated (entry :: entries) = other) : entries = [] ∧ entry = other := by
  cases entries with
  | nil => exact ⟨rfl, by simpa [separated] using same⟩
  | cons next entries =>
    -- The comma would be the end of the container.
    have ends : entry ++ byte ',' :: (separated (next :: entries) ++ [container.closer]) =
        other ++ [container.closer] := by simp [← same]
    have first := (entry_append_injective loose loose' (.inl rfl) (.inr rfl) ends).2
    exact absurd (List.cons.inj first).1 (comma_ne_closer container)

/-- Entries one by one are an entry before others only if that is the first one. -/
theorem separated_eq_append {entry other rest : Bytes} {entries : List Bytes}
    (loose : Loose (.entry container) entry) (loose' : Loose (.entry container) other)
    (same : separated (entry :: entries) = other ++ byte ',' :: rest) :
    entry = other ∧ entries ≠ [] ∧ separated entries = rest := by
  cases entries with
  | nil =>
    -- The end of the container would be the comma.
    have ends : entry ++ [container.closer] =
        other ++ byte ',' :: (rest ++ [container.closer]) := by
      rw [separated, List.intercalate_singleton] at same
      simp [same]
    have first := (entry_append_injective loose loose' (.inr rfl) (.inl rfl) ends).2
    exact absurd (List.cons.inj first).1.symm (comma_ne_closer container)
  | cons next entries =>
    rw [separated_cons_cons] at same
    obtain ⟨first, tails⟩ := entry_append_injective loose loose' (.inl rfl) (.inl rfl) same
    exact ⟨first, List.cons_ne_nil _ _, (List.cons.inj tails).2⟩

/-- The members that a record is read from are those that are given one by one. -/
theorem exists_records {entries : List Bytes} {record : Record} (some : entries ≠ [])
    (each : ∀ entry ∈ entries, Loose (.entry .object) entry)
    (members : Members schema (separated entries) record) :
    ∃ records, List.Forall₂ (Member schema) entries records ∧ record = records.flatten := by
  induction entries generalizing record with
  | nil => exact absurd rfl some
  | cons entry entries ih =>
    obtain ⟨loose, others⟩ := List.forall_mem_cons.mp each
    generalize whole : separated (entry :: entries) = content at members
    cases members with
    | last member =>
      obtain ⟨rfl, rfl⟩ := separated_eq_entry loose (loose_of_member member) whole
      exact ⟨[record], .cons member .nil, by simp⟩
    | @more _ _ first _ member members =>
      obtain ⟨rfl, some, rfl⟩ := separated_eq_append loose (loose_of_member member) whole
      obtain ⟨records, split, rfl⟩ := ih some others members
      exact ⟨first :: records, .cons member split, by simp⟩

/-- The members that a record is read from can be given one by one. -/
theorem exists_separated {record : Record} (members : Members schema bytes record) :
    ∃ entries, entries ≠ [] ∧ (∀ entry ∈ entries, Loose (.entry .object) entry) ∧
      bytes = separated entries := by
  induction members with
  | @last bytes _ member =>
    refine ⟨[bytes], List.cons_ne_nil _ _, ?_, by simp [separated]⟩
    exact List.forall_mem_singleton.mpr (loose_of_member member)
  | @more bytes _ _ _ member _ ih =>
    obtain ⟨entries, some, each, rfl⟩ := ih
    obtain ⟨next, others, rfl⟩ := List.exists_cons_of_ne_nil some
    refine ⟨bytes :: next :: others, List.cons_ne_nil _ _, ?_, (separated_cons_cons _ _ _).symm⟩
    exact List.forall_mem_cons.mpr ⟨loose_of_member member, each⟩

/-! ## Fewer fields -/

/-- What a record has of the fields of a schema. -/
def restrict (fewer : Schema) (record : Record) : Record :=
  record.filter fun entry => entry.1 ∈ fewer.map Prod.fst

variable {fewer : Schema}

/-- A field is known if it has a kind. -/
theorem mem_names_iff {name : String} :
    name ∈ fewer.map Prod.fst ↔ ∃ kind, (name, kind) ∈ fewer := by
  simp

/-- What is kept is what the smaller schema has a name for. -/
theorem mem_restrict {record : Record} {name : String} {field : Field} :
    (name, field) ∈ restrict fewer record ↔
      (name, field) ∈ record ∧ name ∈ fewer.map Prod.fst := by
  simp [restrict]

/-- Of two records in a row, each is restricted by itself. -/
theorem restrict_append (first others : Record) :
    restrict fewer (first ++ others) = restrict fewer first ++ restrict fewer others :=
  List.filter_append first others

/-- The value of a member gives a schema with fewer fields what it gives of them: if the key is none
of these, the value is skipped. -/
theorem memberValue_restrict {key : String} {fields : Record} (unique : schema.Distinct)
    (among : ∀ entry ∈ fewer, entry ∈ schema) (value : MemberValue schema key bytes fields) :
    MemberValue fewer key bytes (restrict fewer fields) := by
  cases value with
  | @known kind _ field known value =>
    by_cases listed : key ∈ fewer.map Prod.fst
    · obtain ⟨other, inside⟩ := mem_names_iff.mp listed
      have found := (lookup_eq_some_iff unique).mpr (among _ inside)
      rw [(lookup_eq_some_iff unique).mpr known] at found
      have same : kind = other := Option.some.inj found
      have kept : restrict fewer [(key, field)] = [(key, field)] := by simp [restrict, listed]
      rw [kept]
      exact .known (same ▸ inside) value
    · have left : restrict fewer [(key, field)] = [] := by simp [restrict, listed]
      rw [left]
      refine .unknown (fun other inside => listed ?_) (loose_of_fieldValue value)
      exact mem_names_iff.mpr ⟨other, inside⟩
  | unknown unknown value => exact .unknown (fun kind inside => unknown kind (among _ inside)) value

/-- A member of a schema is a member of a smaller one, with what that keeps. -/
theorem member_restrict {fields : Record} (unique : schema.Distinct)
    (among : ∀ entry ∈ fewer, entry ∈ schema) (member : Member schema bytes fields) :
    Member fewer bytes (restrict fewer fields) := by
  obtain ⟨named, spaced, value, spaced'⟩ := member
  exact .mk named spaced (memberValue_restrict unique among value) spaced'

/-- So are the members of an object. -/
theorem members_restrict {record : Record} (unique : schema.Distinct)
    (among : ∀ entry ∈ fewer, entry ∈ schema) (members : Members schema bytes record) :
    Members fewer bytes (restrict fewer record) := by
  induction members with
  | last member => exact .last (member_restrict unique among member)
  | more member _ ih =>
    rw [restrict_append]
    exact .more (member_restrict unique among member) ih

/-- An object gives a schema with fewer fields what it gives of them. -/
theorem object_restrict {record : Record} (unique : schema.Distinct)
    (among : ∀ entry ∈ fewer, entry ∈ schema) (body : Body schema .object bytes record) :
    Body fewer .object bytes (restrict fewer record) := by
  cases body with
  | empty blank => exact .empty blank
  | object members distinct =>
    have fewerNames : ((restrict fewer record).map Prod.fst).Sublist (record.map Prod.fst) :=
      List.filter_sublist.map Prod.fst
    exact .object (members_restrict unique among members) (distinct.sublist fewerNames)

/-! ## The container of a document -/

/-- Brackets and braces are no blanks. -/
theorem isSpace_opener (container : Container) :
    isSpace (opener container) = false ∧ isSpace container.closer = false := by
  cases container <;> exact ⟨by decide, by decide⟩

/-- Blanks at the end are skipped from the other end. -/
theorem skipSpace_reverse {blanks rest : Bytes} {b : UInt8} (blank : Blanks blanks)
    (other : isSpace b = false) : skipSpace (rest ++ b :: blanks).reverse = b :: rest.reverse := by
  have turned : Blanks blanks.reverse := fun b inside => blank b (List.mem_reverse.mp inside)
  have whole : (rest ++ b :: blanks).reverse = blanks.reverse ++ b :: rest.reverse := by simp
  rw [whole, skipSpace_append turned other]

/-- A container with blanks around it is found in one way. -/
theorem container_unique {other : Container} {content content' document : Bytes}
    (enclosed : Spaced (opener container :: (content ++ [container.closer])) document)
    (again : Spaced (opener other :: (content' ++ [other.closer])) document) :
    container = other ∧ content = content' := by
  obtain ⟨before, after, left, right, rfl⟩ := enclosed
  obtain ⟨before', after', left', right', same⟩ := again
  simp only [List.append_assoc, List.cons_append, List.nil_append] at same
  have opened : opener container :: (content ++ container.closer :: after) =
      opener other :: (content' ++ other.closer :: after') := by
    have skipped := congrArg skipSpace same
    rwa [skipSpace_append left (isSpace_opener container).1,
      skipSpace_append left' (isSpace_opener other).1] at skipped
  obtain ⟨first, others⟩ := List.cons.inj opened
  have alike : container = other := by
    revert first
    cases container <;> cases other <;> decide
  subst alike
  have closed : container.closer :: content.reverse = container.closer :: content'.reverse := by
    rw [← skipSpace_reverse right (isSpace_opener container).2, others,
      skipSpace_reverse right' (isSpace_opener container).2]
  exact ⟨rfl, List.reverse_injective (List.cons.inj closed).2⟩

end EventLedger.Json
