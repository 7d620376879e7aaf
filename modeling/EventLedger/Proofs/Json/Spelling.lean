import EventLedger.Proofs.Json.Written

/-!
# What can be written

Every whole number, every text and every plain value can be written, `exists_written`, and so can a
record of such values.
-/
namespace EventLedger.Json.Grammar

/-! ## Numbers -/

/-- Digits can be written. -/
theorem exists_digitBytes {base : Nat} (fits : base ≤ 36) {digits : List Nat}
    (small : ∀ d ∈ digits, d < base) : ∃ bytes, Digits base bytes digits := by
  induction digits with
  | nil => exact ⟨[], .nil⟩
  | cons d digits ih =>
    obtain ⟨first, others⟩ := List.forall_mem_cons.mp small
    obtain ⟨bytes, spelled⟩ := ih others
    obtain ⟨code, ascii, digit⟩ := IsDigit.exists_code fits first
    have byte : code < 256 := by omega
    have same : (UInt8.ofNat code).toNat = code := UInt8.toNat_ofNat_of_lt byte
    exact ⟨UInt8.ofNat code :: bytes, .cons (same.symm ▸ digit) spelled⟩

/-- Every integer has a literal. -/
theorem exists_integerLiteral (value : Int) : ∃ bytes, IntegerLiteral bytes value := by
  obtain ⟨digits, small, nonempty, lean, place⟩ := exists_decimal value.natAbs
  obtain ⟨bytes, spelled⟩ := exists_digitBytes (by decide) small
  have whole : Whole bytes digits := ⟨⟨spelled, nonempty⟩, lean⟩
  by_cases negative : value < 0
  · refine ⟨byte '-' :: bytes, ?_⟩
    rw [show value = -(placeValue 10 digits : Int) by omega]
    exact .negative whole (by omega)
  · refine ⟨bytes, ?_⟩
    rw [show value = (placeValue 10 digits : Int) by omega]
    exact .natural whole

/-! ## Texts -/

/-- A character is written as it is, or by an escape. -/
theorem exists_piece (c : Char) : ∃ bytes, Piece bytes c := by
  by_cases printable : ' ' ≤ c
  · by_cases quote : c = '"'
    · subst quote
      exact ⟨_, .short (show ('"', '"') ∈ shortEscapes by decide)⟩
    · by_cases escape : c = '\\'
      · subst escape
        exact ⟨_, .short (show ('\\', '\\') ∈ shortEscapes by decide)⟩
      · exact ⟨_, .raw printable quote escape⟩
  · have small : c.toNat < 16 ^ 4 := by
      have below : c < ' ' := Char.not_le.mp printable
      have code : c.toNat < 32 := below
      omega
    obtain ⟨digits, four, below, place⟩ := exists_digits (by decide) 4 small
    obtain ⟨hex, spelled⟩ := exists_digitBytes (by decide) below
    exact ⟨_, .unit ⟨hex, digits, spelled, four, place.symm, rfl⟩⟩

/-- Every text has a literal. -/
theorem exists_textLiteral (text : String) : ∃ bytes, TextLiteral bytes text := by
  have pieces : ∃ pieces, List.Forall₂ Piece pieces text.toList := by
    induction text.toList with
    | nil => exact ⟨[], .nil⟩
    | cons c chars ih =>
      obtain ⟨pieces, others⟩ := ih
      obtain ⟨bytes, piece⟩ := exists_piece c
      exact ⟨bytes :: pieces, .cons piece others⟩
  obtain ⟨pieces, spelled⟩ := pieces
  exact ⟨_, pieces, spelled, rfl⟩

/-! ## Values -/

/-- Nothing needs blanks around it. -/
theorem spaced_self (core : Bytes) : Spaced core core :=
  ⟨[], [], List.forall_mem_nil _, List.forall_mem_nil _, by simp⟩

variable {depth : Nat}

/-- Items that can be written can be written one after another. -/
theorem exists_items {items : List Value} (some : items ≠ [])
    (each : ∀ item ∈ items, ∃ bytes, Written depth (.value item) bytes) :
    ∃ bytes, Written depth (.items items) bytes := by
  induction items with
  | nil => exact absurd rfl some
  | cons item others ih =>
    obtain ⟨⟨bytes, written⟩, rest⟩ := List.forall_mem_cons.mp each
    cases others with
    | nil => exact ⟨_, .lastItem written (spaced_self _)⟩
    | cons next more =>
      obtain ⟨later, writtenLater⟩ := ih (List.cons_ne_nil _ _) rest
      exact ⟨_, .moreItems written (spaced_self _) writtenLater⟩

/-- Members whose values can be written can be written one after another. -/
theorem exists_members {members : List (String × Value)} (some : members ≠ [])
    (each : ∀ member ∈ members, ∃ bytes, Written depth (.value member.2) bytes) :
    ∃ bytes, Written depth (.members members) bytes := by
  induction members with
  | nil => exact absurd rfl some
  | cons member others ih =>
    obtain ⟨key, value⟩ := member
    obtain ⟨name, named⟩ := exists_textLiteral key
    obtain ⟨⟨bytes, written⟩, rest⟩ := List.forall_mem_cons.mp each
    cases others with
    | nil => exact ⟨_, .lastMember named (spaced_self _) written (spaced_self _)⟩
    | cons next more =>
      obtain ⟨later, writtenLater⟩ := ih (List.cons_ne_nil _ _) rest
      exact ⟨_, .moreMembers named (spaced_self _) written (spaced_self _) writtenLater⟩

/-- An array whose items can be written can be written. -/
theorem exists_array {items : List Value}
    (each : ∀ item ∈ items, ∃ bytes, Written depth (.value item) bytes) :
    ∃ bytes, Written (depth + 1) (.value (.array items)) bytes := by
  by_cases some : items = []
  · subst some
    exact ⟨_, .noItems (List.forall_mem_nil _)⟩
  · obtain ⟨bytes, written⟩ := exists_items some each
    exact ⟨_, .array written⟩

/-- An object whose values can be written can be written, with its members in any ordinary order. -/
theorem exists_object {written members : List (String × Value)} (ordinary : Ordinary written)
    (perm : written.Perm members)
    (each : ∀ member ∈ members, ∃ bytes, Written depth (.value member.2) bytes) :
    ∃ bytes, Written (depth + 1) (.value (.object members)) bytes := by
  by_cases some : written = []
  · subst some
    rw [List.nil_perm.mp perm]
    exact ⟨_, .noMembers (List.forall_mem_nil _)⟩
  · have eachWritten := fun member inside => each member (perm.mem_iff.mp inside)
    obtain ⟨bytes, content⟩ := exists_members some eachWritten
    exact ⟨_, .object content ordinary perm⟩

/-- Members have an ordinary order unless the embedding key is the only one. -/
theorem exists_ordinary {members : List (String × Value)}
    (ascending : (members.map Prod.fst).Pairwise (· < ·))
    (more : members.map Prod.fst ≠ [embeddingKey]) :
    ∃ written, Ordinary written ∧ written.Perm members := by
  obtain _ | ⟨⟨first, value⟩, others⟩ := members
  · exact ⟨[], by simp [Ordinary], .refl _⟩
  · by_cases announces : first = embeddingKey
    · obtain _ | ⟨⟨second, next⟩, others⟩ := others
      · exact absurd (congrArg ([·]) announces) more
      · have before : first < second :=
          (List.pairwise_cons.mp ascending).1 second List.mem_cons_self
        have other : second ≠ embeddingKey := by
          rintro rfl
          exact String.lt_irrefl _ (announces ▸ before)
        exact ⟨(second, next) :: (first, value) :: others, by simp [Ordinary, other], .swap _ _ _⟩
    · exact ⟨(first, value) :: others, by simp [Ordinary, announces], .refl _⟩

/-- Every plain value can be written. -/
theorem exists_written {value : Value} (plain : Plain depth value) :
    ∃ bytes, Written depth (.value value) bytes := by
  induction plain with
  | null => exact ⟨_, .null⟩
  | bool => exact ⟨_, .bool⟩
  | @integer _ value least greatest =>
    obtain ⟨bytes, spelled⟩ := exists_integerLiteral value
    exact ⟨bytes, .number ⟨value, rfl, spelled⟩⟩
  | @text _ value =>
    obtain ⟨bytes, spelled⟩ := exists_textLiteral value
    exact ⟨bytes, .text spelled⟩
  | array _ ih => exact exists_array ih
  | object ascending more _ ih =>
    obtain ⟨_, ordinary, perm⟩ := exists_ordinary ascending more
    exact exists_object ordinary perm ih

/-- A record of plain values can be written. -/
theorem exists_recordText (depth : Nat) {fields : List (String × Option Value)}
    (ordinary : Ordinary (given fields))
    (plain : ∀ field ∈ given fields, Plain depth field.2) :
    ∃ document, RecordText fields document := by
  obtain ⟨core, written⟩ :=
    exists_object ordinary (.refl _) fun field among => exists_written (plain field among)
  exact ⟨core, .object ⟨_, core, written, spaced_self core⟩⟩

end EventLedger.Json.Grammar
