import EventLedger.Json.Reader
import EventLedger.Proofs.Json.Skip
import Mathlib.Data.List.Sort

/-!
# Values are read as the grammar has them

The members of an object end up in the order of their keys, the last one of each key,
`ofMembers_iff`. With that a value is read from exactly the bytes that the grammar gives it: what is
read is a value of the grammar, `readValue_eq_some`, and every value of the grammar is read,
`readValue_append`. Both go over the parts of a value together. The bound on the values in it never
cuts a value short, since each of them has a byte of its own.
-/
namespace EventLedger.Json

open Grammar

/-! ## Members of an object -/

/-- Members with ascending keys. -/
abbrev Ascending (members : List (String × Value)) : Prop :=
  (members.map Prod.fst).Pairwise (· < ·)

variable {key : String} {value : Value} {members : List (String × Value)}

/-- The keys are the old ones and the new one. -/
theorem mem_keys_insertMember {other : String} :
    other ∈ (insertMember key value members).map Prod.fst ↔
      other = key ∨ other ∈ members.map Prod.fst := by
  induction members with
  | nil => simp [insertMember]
  | cons member members ih =>
    rw [insertMember]
    split
    next same => simp [same]
    next =>
      split
      next => simp
      next =>
        rw [List.map_cons, List.mem_cons, ih, List.map_cons, List.mem_cons]
        exact or_left_comm

/-- Members that ascend by their keys still do when one is inserted. -/
theorem ascending_insertMember (ascending : Ascending members) :
    Ascending (insertMember key value members) := by
  induction members with
  | nil => exact List.pairwise_singleton _ _
  | cons member members ih =>
    rw [Ascending, List.map_cons, List.pairwise_cons] at ascending
    obtain ⟨first, others⟩ := ascending
    rw [insertMember]
    split
    next same =>
      subst same
      exact List.pairwise_cons.mpr ⟨first, others⟩
    next other =>
      split
      next before =>
        refine List.pairwise_cons.mpr
          ⟨fun later inside => ?_, List.pairwise_cons.mpr ⟨first, others⟩⟩
        obtain rfl | inside := List.mem_cons.mp inside
        · exact before
        · exact String.lt_trans before (first later inside)
      next notBefore =>
        refine List.pairwise_cons.mpr ⟨fun later inside => ?_, ih others⟩
        obtain rfl | inside := mem_keys_insertMember.mp inside
        · exact Std.lt_of_le_of_ne (String.not_lt.mp notBefore) (Ne.symm other)
        · exact first later inside

/-- A key has the new value if it is the new key, and its old one otherwise. -/
theorem mem_insertMember (ascending : Ascending members) {entry : String × Value} :
    entry ∈ insertMember key value members ↔
      if entry.1 = key then entry.2 = value else entry ∈ members := by
  obtain ⟨other, otherValue⟩ := entry
  induction members with
  | nil =>
    rw [insertMember]
    by_cases same : other = key
    · simp [same]
    · simp [same]
  | cons member members ih =>
    rw [Ascending, List.map_cons, List.pairwise_cons] at ascending
    obtain ⟨first, others⟩ := ascending
    obtain ⟨head, headValue⟩ := member
    have absent {name : String} (earlier : ¬head < name) (given : Value) :
        (name, given) ∉ members := fun inside =>
      earlier (first name (List.mem_map_of_mem inside))
    rw [insertMember]
    dsimp only at absent ⊢
    split
    next same =>
      subst same
      by_cases isKey : other = key
      · subst isKey
        simp [absent (String.lt_irrefl other)]
      · simp [isKey]
    next noHead =>
      split
      next before =>
        by_cases isKey : other = key
        · subst isKey
          simp [noHead, absent (String.lt_asymm before)]
        · simp [isKey]
      next notBefore =>
        rw [List.mem_cons, ih others]
        by_cases isKey : other = key
        · subst isKey
          simp [noHead]
        · simp [isKey]

/-- Members that are put in one after the other, the latest first. -/
theorem gathers_foldr (latest : List (String × Value)) :
    Gathers latest.reverse
      (latest.foldr (fun member members => insertMember member.1 member.2 members) []) := by
  induction latest with
  | nil => exact ⟨List.Pairwise.nil, by simp⟩
  | cons member latest ih =>
    refine ⟨ascending_insertMember ih.ascending, fun key value => ?_⟩
    have earlier := ih.last key value
    rw [List.foldr_cons, mem_insertMember ih.ascending, earlier, List.reverse_reverse,
      List.reverse_reverse, List.lookup_cons]
    by_cases same : key = member.1
    · simp [same, eq_comm]
    · simp [same, beq_false_of_ne same]

/-- Members that are gathered in two ways are the same. -/
theorem gathers_unique {written others : List (String × Value)} (gathers : Gathers written members)
    (again : Gathers written others) : members = others := by
  have ascending := List.pairwise_map.mp gathers.ascending
  have ascending' := List.pairwise_map.mp again.ascending
  have irrefl : Std.Irrefl (fun left right : String × Value => left.1 < right.1) :=
    ⟨fun entry => String.lt_irrefl entry.1⟩
  have antisymm : Std.Antisymm (fun left right : String × Value => left.1 < right.1) :=
    ⟨fun _ _ before after => absurd after (String.lt_asymm before)⟩
  refine List.Pairwise.eq_of_mem_iff ascending ascending' fun entry => ?_
  rw [gathers.last, again.last]

/-- An object has the last member of each key. -/
theorem ofMembers_iff {written members : List (String × Value)} :
    Value.ofMembers written = .object members ↔ Gathers written members := by
  have gathered := gathers_foldr written.reverse
  rw [List.foldr_reverse, List.reverse_reverse] at gathered
  rw [Value.ofMembers, Value.object.injEq]
  constructor
  · rintro rfl
    exact gathered
  · exact gathers_unique gathered

/-! ## Every value of the grammar is read -/

variable {fuel depth : Nat} {items : List Value} {b : UInt8}
variable {blanks core bytes before after input rest : Bytes}

/-- Blanks before a value do not count. -/
theorem readValue_skipSpace (fuel depth : Nat) (input : Bytes) :
    readValue fuel depth (skipSpace input) = readValue fuel depth input := by
  cases fuel with
  | zero => rw [readValue, readValue]
  | succ => rw [readValue, readValue, skipSpace_skipSpace]

/-- Blanks before the items of an array do not count. -/
theorem readItems_skipSpace (fuel depth : Nat) (input : Bytes) :
    readItems fuel depth (skipSpace input) = readItems fuel depth input := by
  cases fuel with
  | zero => rw [readItems, readItems]
  | succ => rw [readItems, readItems, readValue_skipSpace]

/-- Blanks before the members of an object do not count. -/
theorem readMembers_skipSpace (fuel depth : Nat) (input : Bytes) :
    readMembers fuel depth (skipSpace input) = readMembers fuel depth input := by
  cases fuel with
  | zero => rw [readMembers, readMembers]
  | succ => rw [readMembers, readMembers, skipSpace_skipSpace]

/-- What begins a value is no blank and ends no array, and is the letter of a null only in one. -/
theorem exists_readable_head (readable : Readable depth (.value value) bytes) :
    ∃ b tail, bytes = b :: tail ∧ isSpace b = false ∧ b ≠ byte ']' ∧
      (value = .null ∧ bytes = word "null" ∨ b ≠ byte 'n') := by
  cases readable with
  | null => exact ⟨_, _, rfl, by decide, by decide, .inl ⟨rfl, rfl⟩⟩
  | @bool _ value => cases value <;> exact ⟨_, _, rfl, by decide, by decide, .inr (by decide)⟩
  | number spelled =>
    obtain ⟨literal, number, _⟩ := numberValue_iff.mp spelled
    obtain ⟨b, tail, rfl, head⟩ := exists_number_head number
    exact ⟨b, tail, rfl, isSpace_of_number_head head, ne_of_number_head head (by decide),
      .inr (ne_of_number_head head (by decide))⟩
  | text spelled =>
    obtain ⟨pieces, _, rfl⟩ := spelled
    exact ⟨_, _, rfl, by decide, by decide, .inr (by decide)⟩
  | noItems => exact ⟨_, _, rfl, by decide, by decide, .inr (by decide)⟩
  | array => exact ⟨_, _, rfl, by decide, by decide, .inr (by decide)⟩
  | noMembers => exact ⟨_, _, rfl, by decide, by decide, .inr (by decide)⟩
  | object => exact ⟨_, _, rfl, by decide, by decide, .inr (by decide)⟩
  | embedded => exact ⟨_, _, rfl, by decide, by decide, .inr (by decide)⟩

/-- What begins the items of an array does not end it. -/
theorem exists_items_head (readable : Readable depth (.items items) bytes) :
    ∃ blanks b tail, Blanks blanks ∧ bytes = blanks ++ b :: tail ∧ isSpace b = false ∧
      b ≠ byte ']' := by
  have itemHead {core bytes : Bytes} {value : Value} (item : Readable depth (.value value) core)
      (spaced : Spaced core bytes) : ∃ blanks b tail, Blanks blanks ∧
        bytes = blanks ++ b :: tail ∧ isSpace b = false ∧ b ≠ byte ']' := by
    obtain ⟨before, after, left, _, rfl⟩ := spaced
    obtain ⟨b, tail, rfl, noSpace, noCloser, _⟩ := exists_readable_head item
    exact ⟨before, b, tail ++ after, left, by simp, noSpace, noCloser⟩
  cases readable with
  | lastItem item spaced => exact itemHead item spaced
  | @moreItems _ _ _ others _ _ item spaced =>
    obtain ⟨blanks, b, tail, blank, rfl, noSpace, noCloser⟩ := itemHead item spaced
    exact ⟨blanks, b, tail ++ byte ',' :: others, blank, by simp, noSpace, noCloser⟩

/-- A quote begins a text. -/
theorem exists_quote {text : Bytes} (named : TextLiteral text key) :
    ∃ tail, text = byte '"' :: tail := by
  obtain ⟨pieces, _, rfl⟩ := named
  exact ⟨_, rfl⟩

/-- A key begins the members of an object, and blanks may come before it. -/
theorem exists_object_head (readable : Readable depth (.members members) bytes) :
    ∃ blanks text tail key, Blanks blanks ∧ TextLiteral text key ∧
      bytes = blanks ++ (text ++ tail) ∧ (members.map Prod.fst).head? = some key := by
  cases readable with
  | @lastMember _ text _ _ last key _ named spaced =>
    obtain ⟨blanks, after, left, _, rfl⟩ := spaced
    exact ⟨blanks, text, after ++ byte ':' :: last, key, left, named, by simp, rfl⟩
  | @moreMembers _ text _ _ last others key _ _ named spaced =>
    obtain ⟨blanks, after, left, _, rfl⟩ := spaced
    exact ⟨blanks, text, after ++ byte ':' :: last ++ byte ',' :: others, key, left, named, by simp,
      rfl⟩

/-! ### Documents that are embedded -/

/-- Members begin an embedding if their first key is the one for it. -/
theorem beginsEmbedding_text {text : Bytes} (named : TextLiteral text key) (rest : Bytes) :
    beginsEmbedding (text ++ rest) = decide (key = embeddingKey) := by
  rw [beginsEmbedding, readText_append named]

/-- The only member of an object is read to the end of the object. -/
theorem readEmbedded_append {text literal middle left right : Bytes} {content : String}
    (named : TextLiteral text key) (blank : Blanks middle) (quoted : TextLiteral literal content)
    (blankLeft : Blanks left) (blankRight : Blanks right) :
    readEmbedded (text ++ (middle ++
        byte ':' :: (left ++ (literal ++ (right ++ byte '\x7d' :: rest))))) =
      some (content, rest) := by
  rw [readEmbedded, readText_append named]
  dsimp only
  rw [skipSpace_append blank (by decide)]
  dsimp only
  rw [if_pos rfl, readText_blanks quoted blankLeft]
  dsimp only
  rw [skipSpace_append blankRight (by decide)]
  exact if_pos rfl

/-- What is read of an embedding is one member, whose value is a text, and the end of the object. -/
theorem readEmbedded_eq_some {content : String} (read : readEmbedded input = some (content, rest)) :
    ∃ text literal middle after key, TextLiteral text key ∧ Blanks middle ∧
      TextLiteral literal content ∧ Spaced literal after ∧
      input = text ++ (middle ++ byte ':' :: (after ++ byte '\x7d' :: rest)) := by
  rw [readEmbedded] at read
  split at read
  · cases read
  next key afterKey named =>
    obtain ⟨text, rfl, isKey⟩ := readText_eq_some named
    generalize skip : skipSpace afterKey = input' at read
    obtain ⟨middle, blank, rfl⟩ := exists_blanks skip
    obtain _ | ⟨colon, input⟩ := input'
    · cases read
    dsimp only at read
    split at read
    next isColon =>
      subst isColon
      generalize skip' : skipSpace input = input' at read
      obtain ⟨left, blankLeft, rfl⟩ := exists_blanks skip'
      split at read
      · cases read
      next content afterText quoted =>
        obtain ⟨literal, rfl, isContent⟩ := readText_eq_some quoted
        generalize skip'' : skipSpace afterText = next at read
        obtain ⟨right, blankRight, rfl⟩ := exists_blanks skip''
        obtain _ | ⟨b, tail⟩ := next
        · cases read
        dsimp only at read
        split at read
        next closed =>
          cases read
          exact ⟨text, literal, middle, left ++ literal ++ right, key, isKey, blank, isContent,
            ⟨left, right, blankLeft, blankRight, rfl⟩, by simp [closed]⟩
        · cases read
    · cases read

/-- A document is one value and blanks after it. -/
theorem whole?_eq_some_iff {read : Option (Value × Bytes)} :
    whole? read = some value ↔ ∃ after, read = some (value, after) ∧ Blanks after := by
  constructor
  · intro whole
    rw [whole?.eq_def] at whole
    split at whole
    · cases whole
    next found after =>
      split at whole
      next empty =>
        cases whole
        obtain ⟨blanks, blank, rfl⟩ := exists_blanks (List.isEmpty_iff.mp empty)
        exact ⟨_, rfl, by simpa using blank⟩
      · cases whole
  · rintro ⟨after, rfl, blank⟩
    have last : skipSpace after = [] := by
      rw [← List.append_nil after, skipSpace_blanks blank]
      rfl
    rw [whole?, last]
    rfl

/-! ### Objects by what stands in them -/

/-- What is read of an object depends on the first byte after blanks. -/
theorem readValue_brace (fuel depth : Nat) (skip : skipSpace input = b :: rest) :
    readValue (fuel + 1) (depth + 1) (byte '\x7b' :: input) =
      if b = byte '\x7d' then some (.object [], rest)
      else if beginsEmbedding (b :: rest) then
        (readEmbedded (b :: rest)).bind fun (content, rest) =>
          (whole? (readValue fuel documentNesting (Text.Utf8.encode content))).map
            fun value => (value, rest)
      else
        (readMembers fuel depth (b :: rest)).map fun (members, rest) =>
          (.ofMembers members, rest) := by
  rw [readValue, skipSpace_cons (by decide)]
  dsimp only
  rw [if_neg (by decide), if_neg (by decide), if_neg (by decide), if_neg (by decide),
    if_neg (by decide), if_pos rfl, skip]
  dsimp only
  cases readEmbedded (b :: rest) <;> rfl

/-- What is read of an object without members. -/
theorem readValue_noMembers (fuel depth : Nat) (skip : skipSpace input = byte '\x7d' :: rest) :
    readValue (fuel + 1) (depth + 1) (byte '\x7b' :: input) = some (.object [], rest) := by
  rw [readValue_brace fuel depth skip, if_pos rfl]

/-- What is read of an object with members. -/
theorem readValue_object (fuel depth : Nat) (skip : skipSpace input = b :: rest)
    (more : b ≠ byte '\x7d') (ordinary : beginsEmbedding (b :: rest) = false) :
    readValue (fuel + 1) (depth + 1) (byte '\x7b' :: input) =
      (readMembers fuel depth (b :: rest)).map fun (members, rest) =>
        (.ofMembers members, rest) := by
  rw [readValue_brace fuel depth skip, if_neg more, ordinary]
  rfl

/-- What is read of an object that embeds a document. -/
theorem readValue_embedded (fuel depth : Nat) (skip : skipSpace input = b :: rest)
    (more : b ≠ byte '\x7d') (embeds : beginsEmbedding (b :: rest) = true) :
    readValue (fuel + 1) (depth + 1) (byte '\x7b' :: input) =
      (readEmbedded (b :: rest)).bind fun (content, rest) =>
        (whole? (readValue fuel documentNesting (Text.Utf8.encode content))).map
          fun value => (value, rest) := by
  rw [readValue_brace fuel depth skip, if_neg more, if_pos embeds]

/-! ### Parts of a value -/

/-- What is read of a part of a value within a bound that its length gives. -/
def IsRead (depth : Nat) : Reading → Bytes → Prop
  | .value value, bytes => ∀ fuel blanks rest, bytes.length ≤ fuel → Blanks blanks → Ends rest →
      readValue fuel depth (blanks ++ (bytes ++ rest)) = some (value, rest)
  | .items items, bytes => ∀ fuel rest, bytes.length < fuel →
      readItems fuel depth (bytes ++ byte ']' :: rest) = some (items, rest)
  | .members members, bytes => ∀ fuel rest, bytes.length < fuel →
      readMembers fuel depth (bytes ++ byte '\x7d' :: rest) = some (members, rest)

/-- A value is read if it is read from its first byte on. -/
theorem IsRead.ofHead {tail : Bytes} (noSpace : isSpace b = false)
    (reads : ∀ fuel rest, (b :: tail).length ≤ fuel + 1 → Ends rest →
      readValue (fuel + 1) depth (b :: (tail ++ rest)) = some (value, rest)) :
    IsRead depth (.value value) (b :: tail) := by
  intro fuel blanks rest fits blank ends
  obtain _ | fuel := fuel
  · cases fits
  · rw [← readValue_skipSpace, List.cons_append, skipSpace_append blank noSpace]
    exact reads fuel rest fits ends

/-- A fixed word is read by its first character and the others. -/
theorem IsRead.word (first : Char) (others : List Char) (noSpace : isSpace (byte first) = false)
    (dispatch : ∀ fuel rest, readValue (fuel + 1) depth (byte first :: rest) =
      (skipWord? others rest).map fun rest => (value, rest)) :
    IsRead depth (.value value) (byte first :: others.map byte) := by
  refine .ofHead noSpace fun fuel rest _ _ => ?_
  rw [dispatch, skipWord?_eq_some_iff.mpr rfl]
  rfl

/-- The word for nothing is read as nothing. -/
theorem IsRead.null : IsRead depth (.value .null) (Grammar.word "null") := by
  refine .word 'n' "ull".toList (by decide) fun fuel rest => ?_
  rw [readValue, skipSpace_cons (by decide)]
  rfl

/-- A word for a truth value is read as that value. -/
theorem IsRead.bool (value : Bool) :
    IsRead depth (.value (.bool value)) (Grammar.word (if value then "true" else "false")) := by
  cases value with
  | true =>
    refine .word 't' "rue".toList (by decide) fun fuel rest => ?_
    rw [readValue, skipSpace_cons (by decide)]
    rfl
  | false =>
    refine .word 'f' "alse".toList (by decide) fun fuel rest => ?_
    rw [readValue, skipSpace_cons (by decide)]
    rfl

/-- A number is read as a number. -/
theorem IsRead.number {value : Number} (spelled : NumberValue bytes value) :
    IsRead depth (.value (.number value)) bytes := by
  obtain ⟨literal, number, _⟩ := numberValue_iff.mp spelled
  obtain ⟨b, tail, rfl, head⟩ := exists_number_head number
  refine .ofHead (isSpace_of_number_head head) fun fuel rest _ ends => ?_
  have read := readNumber_append spelled ends
  rw [List.cons_append] at read
  rw [readValue, skipSpace_cons (isSpace_of_number_head head)]
  dsimp only
  rw [if_neg (ne_of_number_head head (by decide)), if_neg (ne_of_number_head head (by decide)),
    if_neg (ne_of_number_head head (by decide)), if_neg (ne_of_number_head head (by decide)),
    if_neg (ne_of_number_head head (by decide)), if_neg (ne_of_number_head head (by decide)), read]
  rfl

/-- A text is read as a text. -/
theorem IsRead.text {value : String} (spelled : TextLiteral bytes value) :
    IsRead depth (.value (.text value)) bytes := by
  have read := fun rest => readText_append spelled rest
  obtain ⟨pieces, _, rfl⟩ := spelled
  refine .ofHead (by decide) fun fuel rest _ _ => ?_
  have tail := read rest
  rw [List.cons_append, readText, if_pos rfl] at tail
  rw [readValue, skipSpace_cons (by decide)]
  dsimp only
  rw [if_pos rfl, tail]
  rfl

/-- An array is read up to what stands in it. -/
theorem IsRead.ofBracket {content : Bytes} (fits : ∀ fuel rest, content.length < fuel →
      (match skipSpace (content ++ byte ']' :: rest) with
        | [] => none
        | b :: rest =>
          if b = byte ']' then some (Value.array [], rest)
          else (readItems fuel depth (b :: rest)).map fun (items, rest) => (.array items, rest)) =
        some (value, rest)) :
    IsRead (depth + 1) (.value value) (byte '[' :: (content ++ [byte ']'])) := by
  refine .ofHead (by decide) fun fuel rest enough _ => ?_
  rw [readValue, skipSpace_cons (by decide), List.append_assoc]
  refine fits fuel rest ?_
  simp only [List.length_cons, List.length_append] at enough
  omega

/-- An array without items is read as one. -/
theorem IsRead.noItems (blank : Blanks blanks) :
    IsRead (depth + 1) (.value (.array [])) (byte '[' :: (blanks ++ [byte ']'])) := by
  refine .ofBracket fun fuel rest _ => ?_
  rw [skipSpace_append blank (by decide)]
  exact if_pos rfl

/-- An array is read if its items are. -/
theorem IsRead.array (readable : Readable depth (.items items) bytes)
    (content : IsRead depth (.items items) bytes) :
    IsRead (depth + 1) (.value (.array items)) (byte '[' :: (bytes ++ [byte ']'])) := by
  obtain ⟨blanks, b, tail, blank, whole, noSpace, noCloser⟩ := exists_items_head readable
  refine .ofBracket fun fuel rest fits => ?_
  have read := content fuel rest fits
  have head : skipSpace (bytes ++ byte ']' :: rest) = b :: (tail ++ byte ']' :: rest) := by
    rw [whole, List.append_assoc]
    exact skipSpace_append blank noSpace
  rw [← readItems_skipSpace, head] at read
  rw [head]
  dsimp only
  rw [if_neg noCloser, read]
  rfl

/-- An object without members is read as one. -/
theorem IsRead.noMembers (blank : Blanks blanks) :
    IsRead (depth + 1) (.value (.object [])) (byte '\x7b' :: (blanks ++ [byte '\x7d'])) := by
  refine .ofHead (by decide) fun fuel rest _ _ => ?_
  rw [List.append_assoc]
  exact readValue_noMembers fuel depth (skipSpace_append blank (by decide))

/-- An ordinary object is read if its members are, with the last of equal keys. -/
theorem IsRead.object {written : List (String × Value)}
    (readable : Readable depth (.members written) bytes) (ordinary : Ordinary written)
    (content : IsRead depth (.members written) bytes) (gathers : Gathers written members) :
    IsRead (depth + 1) (.value (.object members)) (byte '\x7b' :: (bytes ++ [byte '\x7d'])) := by
  obtain ⟨blanks, text, tail, key, blank, named, whole, first⟩ := exists_object_head readable
  obtain ⟨others, rfl⟩ := exists_quote named
  refine .ofHead (by decide) fun fuel rest fits _ => ?_
  have enough : bytes.length < fuel := by
    simp only [List.length_cons, List.length_append] at fits
    omega
  have read := content fuel rest enough
  have head : skipSpace (bytes ++ byte '\x7d' :: rest) =
      byte '"' :: (others ++ (tail ++ byte '\x7d' :: rest)) := by
    rw [whole, List.append_assoc, List.append_assoc]
    exact skipSpace_append blank (by decide)
  have noEmbedding : beginsEmbedding (byte '"' :: (others ++ (tail ++ byte '\x7d' :: rest))) =
      false := by
    refine (beginsEmbedding_text named _).trans (decide_eq_false ?_)
    rintro rfl
    exact ordinary first
  rw [List.append_assoc, List.singleton_append]
  rw [← readMembers_skipSpace, head] at read
  rw [readValue_object fuel depth head (by decide) noEmbedding, read]
  exact congrArg (fun value => some (value, rest)) (ofMembers_iff.mpr gathers)

/-- A document that is embedded is read from its text, which is short enough. -/
theorem IsRead.embedded {text literal document : Bytes} {content : String}
    (named : TextLiteral text embeddingKey) (spaced : Spaced text before)
    (quoted : TextLiteral literal content) (spaced' : Spaced literal after)
    (spelled : document = content.toList.flatMap String.utf8EncodeChar)
    (inner : IsRead 127 (.value value) core) (enclosed : Spaced core document) :
    IsRead (depth + 1) (.value value)
      (byte '\x7b' :: (before ++ byte ':' :: after ++ [byte '\x7d'])) := by
  obtain ⟨left, middle, blank, blankMiddle, rfl⟩ := spaced
  obtain ⟨left', right, blankLeft, blankRight, rfl⟩ := spaced'
  obtain ⟨front, back, blankFront, blankBack, whole⟩ := enclosed
  -- A document is shorter than the literal that spells it, so the bound for the object is enough.
  have short := length_encode_lt quoted
  rw [Text.Utf8.encode_eq, ← spelled, whole] at short
  have ends : Ends back := List.append_nil back ▸ ends_nil.blanks_append blankBack
  obtain ⟨others, rfl⟩ := exists_quote named
  refine .ofHead (by decide) fun fuel rest fits _ => ?_
  have enough : core.length ≤ fuel := by
    simp only [List.length_cons, List.length_append] at fits short
    omega
  have read : readValue fuel documentNesting (Text.Utf8.encode content) = some (value, back) := by
    rw [Text.Utf8.encode_eq, ← spelled, whole, List.append_assoc]
    exact inner fuel front back enough blankFront ends
  generalize others' :
      middle ++ byte ':' :: (left' ++ (literal ++ (right ++ byte '\x7d' :: rest))) = tail
  have member : readEmbedded (byte '"' :: (others ++ tail)) = some (content, rest) := by
    rw [← others']
    exact readEmbedded_append named blankMiddle quoted blankLeft blankRight
  have embeds : beginsEmbedding (byte '"' :: (others ++ tail)) = true :=
    (beginsEmbedding_text named tail).trans (decide_eq_true rfl)
  have head : skipSpace (left ++ byte '"' :: (others ++ tail)) = byte '"' :: (others ++ tail) :=
    skipSpace_append blank (by decide)
  simp only [List.append_assoc, List.cons_append, List.nil_append, others']
  rw [readValue_embedded fuel depth head (by decide) embeds, member, Option.bind_some]
  dsimp only
  rw [whole?_eq_some_iff.mpr ⟨back, read, blankBack⟩]
  rfl

/-- An item is read up to the byte after it, which decides whether there is another one. -/
theorem readItems_item (item : IsRead depth (.value value) core) (spaced : Spaced core bytes)
    (fits : bytes.length ≤ fuel) (noSpace : isSpace b = false) (ends : Ends (b :: rest)) :
    readItems (fuel + 1) depth (bytes ++ b :: rest) =
      if b = byte ']' then some ([value], rest)
      else if b = byte ',' then
        (readItems fuel depth rest).map fun (items, rest) => (value :: items, rest)
      else none := by
  obtain ⟨before, after, left, right, rfl⟩ := spaced
  have short : core.length ≤ fuel := by
    simp only [List.length_append] at fits
    omega
  have read := item fuel before (after ++ b :: rest) short left (ends.blanks_append right)
  rw [readItems, List.append_assoc, List.append_assoc, read]
  dsimp only
  rw [skipSpace_append right noSpace]

/-- The items of an array may be one item. -/
theorem IsRead.lastItem (item : IsRead depth (.value value) core) (spaced : Spaced core bytes) :
    IsRead depth (.items [value]) bytes := by
  intro fuel rest fits
  obtain _ | fuel := fuel
  · cases fits
  · have ends : Ends (byte ']' :: rest) := ends_closer .array rest
    rw [readItems_item item spaced (Nat.le_of_lt_succ fits) (by decide) ends, if_pos rfl]

/-- They may be one item, a comma and others. -/
theorem IsRead.moreItems {others : Bytes} (item : IsRead depth (.value value) core)
    (spaced : Spaced core bytes) (later : IsRead depth (.items items) others) :
    IsRead depth (.items (value :: items)) (bytes ++ byte ',' :: others) := by
  intro fuel rest fits
  obtain _ | fuel := fuel
  · cases fits
  · simp only [List.length_append, List.length_cons] at fits
    have read := later fuel rest (by omega)
    rw [List.append_assoc, List.cons_append,
      readItems_item item spaced (by omega) (by decide) (ends_comma _), if_neg (by decide),
      if_pos rfl, read]
    rfl

/-- A member is read up to the byte after it, which decides whether there is another one. -/
theorem readMembers_member {text : Bytes} (named : TextLiteral text key)
    (spaced : Spaced text before) (item : IsRead depth (.value value) core)
    (spaced' : Spaced core after) (fits : after.length ≤ fuel) (noSpace : isSpace b = false)
    (ends : Ends (b :: rest)) :
    readMembers (fuel + 1) depth (before ++ byte ':' :: after ++ b :: rest) =
      if b = byte '\x7d' then some ([(key, value)], rest)
      else if b = byte ',' then
        (readMembers fuel depth rest).map fun (members, rest) => ((key, value) :: members, rest)
      else none := by
  obtain ⟨left, between, blank, middle, rfl⟩ := spaced
  obtain ⟨between', right, blank', last, rfl⟩ := spaced'
  have short : core.length ≤ fuel := by
    simp only [List.length_append] at fits
    omega
  have read := item fuel between' (right ++ b :: rest) short blank' (ends.blanks_append last)
  simp only [List.append_assoc, List.cons_append]
  rw [readMembers, readText_blanks named blank]
  dsimp only
  rw [skipSpace_append middle (by decide)]
  dsimp only
  rw [if_pos rfl, read]
  dsimp only
  rw [skipSpace_append last noSpace]

/-- The members of an object may be one member. -/
theorem IsRead.lastMember {text : Bytes} (named : TextLiteral text key)
    (spaced : Spaced text before) (item : IsRead depth (.value value) core)
    (spaced' : Spaced core after) :
    IsRead depth (.members [(key, value)]) (before ++ byte ':' :: after) := by
  intro fuel rest fits
  obtain _ | fuel := fuel
  · cases fits
  · simp only [List.length_append, List.length_cons] at fits
    have ends : Ends (byte '\x7d' :: rest) := ends_closer .object rest
    rw [readMembers_member named spaced item spaced' (by omega) (by decide) ends, if_pos rfl]

/-- They may be one member, a comma and others. -/
theorem IsRead.moreMembers {text others : Bytes} (named : TextLiteral text key)
    (spaced : Spaced text before) (item : IsRead depth (.value value) core)
    (spaced' : Spaced core after) (later : IsRead depth (.members members) others) :
    IsRead depth (.members ((key, value) :: members))
      (before ++ byte ':' :: after ++ byte ',' :: others) := by
  intro fuel rest fits
  obtain _ | fuel := fuel
  · cases fits
  · simp only [List.length_append, List.length_cons] at fits
    have read := later fuel rest (by omega)
    rw [List.append_assoc, List.cons_append,
      readMembers_member named spaced item spaced' (by omega) (by decide) (ends_comma _),
      if_neg (by decide), if_pos rfl, read]
    rfl

/-- A value of the grammar is read, and so are its parts. -/
theorem isRead_of_readable {reading : Reading} (readable : Readable depth reading bytes) :
    IsRead depth reading bytes := by
  induction readable with
  | null => exact .null
  | bool => exact .bool _
  | number spelled => exact .number spelled
  | text spelled => exact .text spelled
  | noItems blank => exact .noItems blank
  | array content ih => exact .array content ih
  | noMembers blank => exact .noMembers blank
  | object content ordinary gathers ih => exact .object content ordinary ih gathers
  | embedded named spaced quoted spaced' spelled _ enclosed ih =>
    exact .embedded named spaced quoted spaced' spelled ih enclosed
  | lastItem _ spaced ih => exact .lastItem ih spaced
  | moreItems _ spaced _ ihItem ihItems => exact .moreItems ihItem spaced ihItems
  | lastMember named spaced _ spaced' ih => exact .lastMember named spaced ih spaced'
  | moreMembers named spaced _ spaced' _ ihItem ihMembers =>
    exact .moreMembers named spaced ihItem spaced' ihMembers

/-- A value of the grammar is read after blanks. -/
theorem readValue_append (readable : Readable depth (.value value) bytes)
    (enough : bytes.length ≤ fuel) (blank : Blanks blanks) (ends : Ends rest) :
    readValue fuel depth (blanks ++ (bytes ++ rest)) = some (value, rest) :=
  isRead_of_readable readable fuel blanks rest enough blank ends

/-! ## What is read is a value of the grammar -/

/-- What is read within a bound is what the grammar has. -/
structure Sound (fuel : Nat) : Prop where
  /-- A value after blanks. -/
  value : ∀ {depth input value rest}, readValue fuel depth input = some (value, rest) →
    ∃ blanks bytes, Blanks blanks ∧ Readable depth (.value value) bytes ∧
      input = blanks ++ (bytes ++ rest)
  /-- Items and the end of the array. -/
  items : ∀ {depth input items rest}, readItems fuel depth input = some (items, rest) →
    ∃ content, Readable depth (.items items) content ∧ input = content ++ byte ']' :: rest
  /-- Members and the end of the object. -/
  members : ∀ {depth input members rest}, readMembers fuel depth input = some (members, rest) →
    ∃ content, Readable depth (.members members) content ∧ input = content ++ byte '\x7d' :: rest

/-- What is read as an array spells one, if its items do. -/
theorem Sound.array (sound : Sound fuel) (read : (match skipSpace input with
        | [] => none
        | b :: rest =>
          if b = byte ']' then some (Value.array [], rest)
          else (readItems fuel depth (b :: rest)).map fun (items, rest) => (.array items, rest)) =
        some (value, rest)) :
    ∃ bytes, Readable (depth + 1) (.value value) bytes ∧ byte '[' :: input = bytes ++ rest := by
  generalize skip : skipSpace input = input' at read
  obtain _ | ⟨b, tail⟩ := input'
  · cases read
  dsimp only at read
  split at read
  next closed =>
    cases read
    obtain ⟨blanks, blank, rfl⟩ := exists_blanks skip
    exact ⟨_, .noItems blank, by simp [closed]⟩
  · rw [← skip, readItems_skipSpace, Option.map_eq_some_iff] at read
    obtain ⟨⟨items, after⟩, found, same⟩ := read
    cases same
    obtain ⟨content, readable, rfl⟩ := sound.items found
    exact ⟨_, .array readable, by simp⟩

/-- What is read in place of an object is the value of the document that it embeds. -/
theorem Sound.embedded {content : String} (sound : Sound fuel) (skip : skipSpace input = b :: bytes)
    (embeds : beginsEmbedding (b :: bytes) = true)
    (embedded : readEmbedded (b :: bytes) = some (content, rest))
    (read : whole? (readValue fuel documentNesting (Text.Utf8.encode content)) = some value) :
    ∃ bytes, Readable (depth + 1) (.value value) bytes ∧ byte '\x7b' :: input = bytes ++ rest := by
  obtain ⟨left, blank, rfl⟩ := exists_blanks skip
  obtain ⟨text, literal, middle, after, key, named, blankMiddle, quoted, spaced', whole⟩ :=
    readEmbedded_eq_some embedded
  rw [whole, beginsEmbedding_text named] at embeds
  obtain rfl : key = embeddingKey := of_decide_eq_true embeds
  obtain ⟨back, found, blankBack⟩ := whole?_eq_some_iff.mp read
  obtain ⟨front, core, blankFront, inner, document⟩ := sound.value found
  have enclosed : Spaced core (Text.Utf8.encode content) :=
    ⟨front, back, blankFront, blankBack, by rw [document, List.append_assoc]⟩
  have spaced : Spaced text (left ++ text ++ middle) := ⟨left, middle, blank, blankMiddle, rfl⟩
  exact ⟨_, .embedded named spaced quoted spaced' (Text.Utf8.encode_eq content) inner enclosed,
    by simp [whole]⟩

/-- Members are ordinary if what is read of their beginning is. -/
theorem ordinary_of_readable {written : List (String × Value)}
    (readable : Readable depth (.members written) bytes)
    (begins : beginsEmbedding (skipSpace (bytes ++ rest)) = false) : Ordinary written := by
  obtain ⟨blanks, text, others, key, blank, named, rfl, first⟩ := exists_object_head readable
  intro announced
  obtain rfl := Option.some.inj (first.symm.trans announced)
  obtain ⟨tail, rfl⟩ := exists_quote named
  have head : skipSpace (blanks ++ (byte '"' :: tail ++ others) ++ rest) =
      byte '"' :: tail ++ (others ++ rest) := by
    rw [List.append_assoc, List.append_assoc]
    exact skipSpace_append blank (by decide)
  rw [head, beginsEmbedding_text named, decide_eq_true rfl] at begins
  cases begins

/-- What is read as an object spells one, if its members do. -/
theorem Sound.object (sound : Sound fuel)
    (read : readValue (fuel + 1) (depth + 1) (byte '\x7b' :: input) = some (value, rest)) :
    ∃ bytes, Readable (depth + 1) (.value value) bytes ∧ byte '\x7b' :: input = bytes ++ rest := by
  cases skip : skipSpace input with
  | nil =>
    rw [readValue, skipSpace_cons (by decide)] at read
    dsimp only at read
    rw [if_neg (by decide), if_neg (by decide), if_neg (by decide), if_neg (by decide),
      if_neg (by decide), if_pos rfl, skip] at read
    cases read
  | cons b tail =>
    by_cases closed : b = byte '\x7d'
    · subst closed
      rw [readValue_noMembers fuel depth skip] at read
      cases read
      obtain ⟨blanks, blank, rfl⟩ := exists_blanks skip
      exact ⟨_, .noMembers blank, by simp⟩
    · cases embeds : beginsEmbedding (b :: tail) with
      | true =>
        rw [readValue_embedded fuel depth skip closed embeds, Option.bind_eq_some_iff] at read
        obtain ⟨⟨content, after⟩, embedded, read⟩ := read
        rw [Option.map_eq_some_iff] at read
        obtain ⟨found, read, same⟩ := read
        cases same
        exact sound.embedded skip embeds embedded read
      | false =>
        rw [readValue_object fuel depth skip closed embeds, ← skip, readMembers_skipSpace,
          Option.map_eq_some_iff] at read
        obtain ⟨⟨written, after⟩, found, same⟩ := read
        cases same
        obtain ⟨content, readable, rfl⟩ := sound.members found
        rw [← skip] at embeds
        have ordinary := ordinary_of_readable readable embeds
        exact ⟨_, .object readable ordinary (ofMembers_iff.mp rfl), by simp⟩

/-- A fixed word is what was read. -/
theorem exists_word {first : Char} {others : List Char} (isFirst : b = byte first)
    {result : Value} (read : (skipWord? others input).map (fun rest => (result, rest)) =
      some (value, rest)) :
    value = result ∧ b :: input = (first :: others).map byte ++ rest := by
  rw [Option.map_eq_some_iff] at read
  obtain ⟨after, skipped, same⟩ := read
  cases same
  rw [skipWord?_eq_some_iff] at skipped
  subst isFirst skipped
  exact ⟨rfl, rfl⟩

/-- What is read with one step more as a value spells it. -/
theorem Sound.value_succ (sound : Sound fuel)
    (read : readValue (fuel + 1) depth input = some (value, rest)) :
    ∃ blanks bytes, Blanks blanks ∧ Readable depth (.value value) bytes ∧
      input = blanks ++ (bytes ++ rest) := by
  rw [readValue] at read
  generalize skip : skipSpace input = input' at read
  obtain ⟨blanks, blank, rfl⟩ := exists_blanks skip
  suffices bare : ∃ bytes, Readable depth (.value value) bytes ∧ input' = bytes ++ rest by
    obtain ⟨bytes, readable, rfl⟩ := bare
    exact ⟨blanks, bytes, blank, readable, rfl⟩
  obtain _ | ⟨b, tail⟩ := input'
  · cases read
  dsimp only at read
  split at read
  next quote =>
    rw [Option.map_eq_some_iff] at read
    obtain ⟨⟨text, after⟩, found, same⟩ := read
    cases same
    have whole : readText (b :: tail) = some (text, after) := by rw [readText, if_pos quote, found]
    obtain ⟨spelled, whole, text⟩ := readText_eq_some whole
    exact ⟨spelled, .text text, whole⟩
  split at read
  next first =>
    obtain ⟨rfl, whole⟩ := exists_word first read
    exact ⟨_, .null, whole⟩
  split at read
  next first =>
    obtain ⟨rfl, whole⟩ := exists_word first read
    exact ⟨_, .bool, whole⟩
  split at read
  next first =>
    obtain ⟨rfl, whole⟩ := exists_word first read
    exact ⟨_, .bool, whole⟩
  split at read
  next bracket =>
    subst bracket
    obtain _ | depth := depth
    · cases read
    · exact sound.array read
  split at read
  next brace =>
    subst brace
    obtain _ | depth := depth
    · cases read
    · exact sound.object read
  · rw [Option.map_eq_some_iff] at read
    obtain ⟨⟨number, after⟩, found, same⟩ := read
    cases same
    obtain ⟨spelled, whole, number⟩ := readNumber_eq_some found
    exact ⟨spelled, .number number, whole⟩

/-- What is read with one step more as items spells them. -/
theorem Sound.items_succ (sound : Sound fuel)
    (read : readItems (fuel + 1) depth input = some (items, rest)) :
    ∃ content, Readable depth (.items items) content ∧ input = content ++ byte ']' :: rest := by
  rw [readItems] at read
  split at read
  · cases read
  next value afterValue item =>
    obtain ⟨before, core, left, readable, rfl⟩ := sound.value item
    generalize skip : skipSpace afterValue = next at read
    obtain ⟨after, right, rfl⟩ := exists_blanks skip
    have spaced : Spaced core (before ++ core ++ after) := ⟨before, after, left, right, rfl⟩
    obtain _ | ⟨b, tail⟩ := next
    · cases read
    dsimp only at read
    split at read
    next closed =>
      cases read
      exact ⟨_, .lastItem readable spaced, by simp [closed]⟩
    split at read
    next comma =>
      rw [Option.map_eq_some_iff] at read
      obtain ⟨⟨others, last⟩, found, same⟩ := read
      cases same
      obtain ⟨content, later, rfl⟩ := sound.items found
      exact ⟨_, .moreItems readable spaced later, by simp [comma]⟩
    · cases read

/-- What is read with one step more as members spells them. -/
theorem Sound.members_succ (sound : Sound fuel)
    (read : readMembers (fuel + 1) depth input = some (members, rest)) :
    ∃ content, Readable depth (.members members) content ∧
      input = content ++ byte '\x7d' :: rest := by
  rw [readMembers] at read
  generalize skip : skipSpace input = input' at read
  obtain ⟨before, left, rfl⟩ := exists_blanks skip
  split at read
  · cases read
  next key afterKey named =>
    obtain ⟨text, rfl, literal⟩ := readText_eq_some named
    generalize skip' : skipSpace afterKey = afterKey' at read
    obtain ⟨between, middle, rfl⟩ := exists_blanks skip'
    have spaced : Spaced text (before ++ text ++ between) := ⟨before, between, left, middle, rfl⟩
    obtain _ | ⟨colon, input⟩ := afterKey'
    · cases read
    dsimp only at read
    split at read
    next isColon =>
      subst isColon
      split at read
      · cases read
      next value afterValue item =>
        obtain ⟨between', core, left', readable, rfl⟩ := sound.value item
        generalize skip'' : skipSpace afterValue = next at read
        obtain ⟨after, right, rfl⟩ := exists_blanks skip''
        have spaced' : Spaced core (between' ++ core ++ after) :=
          ⟨between', after, left', right, rfl⟩
        obtain _ | ⟨b, tail⟩ := next
        · cases read
        dsimp only at read
        split at read
        next closed =>
          cases read
          exact ⟨_, .lastMember literal spaced readable spaced', by simp [closed]⟩
        split at read
        next comma =>
          rw [Option.map_eq_some_iff] at read
          obtain ⟨⟨others, last⟩, found, same⟩ := read
          cases same
          obtain ⟨content, later, rfl⟩ := sound.members found
          exact ⟨_, .moreMembers literal spaced readable spaced' later, by simp [comma]⟩
        · cases read
    · cases read

/-- The three readers call each other with a smaller bound. -/
theorem sound_of_fuel (fuel : Nat) : Sound fuel := by
  induction fuel with
  | zero =>
    constructor
    · intro _ _ _ _ read
      rw [readValue] at read
      cases read
    · intro _ _ _ _ read
      rw [readItems] at read
      cases read
    · intro _ _ _ _ read
      rw [readMembers] at read
      cases read
  | succ fuel sound => exact ⟨sound.value_succ, sound.items_succ, sound.members_succ⟩

/-- What is read is a value of the grammar after blanks. -/
theorem readValue_eq_some (read : readValue fuel depth input = some (value, rest)) :
    ∃ blanks bytes, Blanks blanks ∧ Readable depth (.value value) bytes ∧
      input = blanks ++ (bytes ++ rest) :=
  (sound_of_fuel fuel).value read

end EventLedger.Json
