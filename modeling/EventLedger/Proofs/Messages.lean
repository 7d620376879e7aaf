import EventLedger.Proofs.Quoting
import EventLedger.Proofs.Refusal

/-!
# Messages of refused bodies

The message of an error is read back as the error, whatever the texts of the body are that it
quotes, `ofMessage?_message`. So no two faults of bodies are shown alike, and the text that is at
fault is found in the message; nor does a control character of a body come into the message,
`Event.showsFaults`.
-/
namespace EventLedger

open Json (Bytes)
open Json.Grammar (word)

namespace ValidationError

/-! ## Reading -/

/-- What stands between a front and a mark that begins with a character, and what stands after
the mark. -/
def between (front : String) (first : Char) (mark : String) (text : List Char) :
    Option (List Char × List Char) := do
  let rest ← text.dropPrefix? front.toList
  let after ← (rest.dropWhile (· ≠ first)).dropPrefix? (first :: mark.toList)
  some (rest.takeWhile (· ≠ first), after)

/-- The text that is quoted, if nothing follows it. -/
def onlyQuoted (text : List Char) : Option String :=
  match Text.readQuoted text with
  | some (text, []) => some text
  | _ => none

/-- The error of a message of another type. -/
def readWrongType (text : List Char) : Option ValidationError := do
  let (expected, rest) ← between "事件类型不匹配: 期望 " ',' " 实际 " text
  let actual ← onlyQuoted rest
  some (.wrongType (String.ofList expected) actual)

/-- The error of a message of an id. -/
def readBadId (text : List Char) : Option ValidationError := do
  let (field, rest) ← between "无效的 UUID 字段: " '=' "" text
  let value ← onlyQuoted rest
  some (.badId (String.ofList field) value)

/-- The number of a numeral. -/
def ofNumeral : List Char → Int
  | [] => 0
  | c :: rest =>
    if c = '-' then -(Nat.ofDigitChars 10 rest 0 : Int) else Nat.ofDigitChars 10 (c :: rest) 0

/-- The error of a message of numbers of tokens. -/
def readNegativeTokens (text : List Char) : Option ValidationError := do
  let (input, output) ← between "token 数不能为负: input=" ',' " output=" text
  some (.negativeTokens (ofNumeral input) (ofNumeral output))

/-- The error of a message of a missing field. -/
def readMissingField (text : List Char) : Option ValidationError := do
  let name ← text.dropPrefix? "缺少必填字段: ".toList
  some (.missingField (String.ofList name))

/-- The error of a message of a document that cannot be read. -/
def readMalformed (text : List Char) : Option ValidationError := do
  let detail ← text.dropPrefix? "负载解码失败: ".toList
  some (.malformed (String.ofList detail))

/-- The error of a message; the first character tells what kind it is of. -/
def ofMessage? (message : String) : Option ValidationError :=
  let text := message.toList
  if text.head? = some '事' then readWrongType text
  else if text.head? = some '无' then readBadId text
  else if text.head? = some 't' then readNegativeTokens text
  else if text.head? = some '缺' then readMissingField text
  else readMalformed text

/-! ## Names -/

/-- A name consists of letters and underscores. -/
def IsWord (name : String) : Prop :=
  ∀ c ∈ name.toList, c.isAlpha = true ∨ c = '_'

/-- The characters of a name are tried one after another. -/
instance (name : String) : Decidable (IsWord name) :=
  List.decidableBAll (fun c : Char => c.isAlpha = true ∨ c = '_') name.toList

/-- The names that an error shows as they are consist of letters and underscores, so that the mark
after a name is the first one in the message. -/
def NamesAreWords : ValidationError → Prop
  | .malformed _ | .negativeTokens _ _ => True
  | .wrongType name _ | .badId name _ | .missingField name => IsWord name

/-- A mark that is neither a letter nor an underscore is not in a word. -/
theorem IsWord.not_mem {name : String} (word : IsWord name) {c : Char} (other : c.isAlpha = false)
    (line : c ≠ '_') : c ∉ name.toList := by
  intro among
  obtain letter | underscore := word c among
  · rw [other] at letter
    cases letter
  · exact line underscore

/-- The names of the types and fields of either kind are words. -/
theorem isWord_of_mem : ∀ name ∈ ["usage_event", "audit_event", "userId", "generationId", "model",
    "action"], IsWord name := by
  decide +kernel

/-- The names in the errors of the bodies of a kind are words. -/
theorem namesAreWords_of_ofBody {kind : EventKind} {body : Bytes} {error : ValidationError}
    (refused : Event.ofBody kind body = .error error) : error.NamesAreWords := by
  cases kind with
  | usage =>
    obtain rfl | ⟨content, fault⟩ :=
      fault_of_judged (UsageEvent.ofBody_cases body) (Event.map_eq_error refused)
    · trivial
    · cases fault with
      | type | userId | generationId | model => exact isWord_of_mem _ (by simp)
      | tokens => trivial
  | audit =>
    obtain rfl | ⟨content, fault⟩ :=
      fault_of_judged (AuditEvent.ofBody_cases body) (Event.map_eq_error refused)
    · trivial
    · cases fault with
      | type | userId | action => exact isWord_of_mem _ (by simp)

/-! ## Reading back -/

/-- A front is dropped where it stands. -/
theorem dropPrefix?_append (front rest : List Char) :
    (front ++ rest).dropPrefix? front = some rest :=
  List.dropPrefix?_append_of_beq rest (beq_self_eq_true front)

/-- What stands before the first character of a mark is found, and what stands after the mark. -/
theorem between_append {middle : List Char} {first : Char} (free : first ∉ middle)
    (front mark : String) (rest : List Char) :
    between front first mark (front.toList ++ (middle ++ first :: (mark.toList ++ rest))) =
      some (middle, rest) := by
  have before : ∀ c ∈ middle, decide (c ≠ first) = true := by
    intro c among
    exact decide_eq_true fun same => free (same ▸ among)
  rw [between, dropPrefix?_append]
  simp only [Option.bind_eq_bind, Option.bind_some]
  rw [List.dropWhile_append_of_pos before, List.takeWhile_append_of_pos before,
    List.dropWhile_cons_of_neg (by simp), List.takeWhile_cons_of_neg (by simp), ← List.cons_append,
    dropPrefix?_append, Option.bind_some, List.append_nil]

/-- So it is in a message, where the mark is a part of a text. -/
theorem between_message {middle : String} {first : Char} (free : first ∉ middle.toList)
    {sign mark : String} (signed : sign.toList = first :: mark.toList) (front rest : String) :
    between front first mark (front ++ middle ++ sign ++ rest).toList =
      some (middle.toList, rest.toList) := by
  simp only [String.toList_append, List.append_assoc, signed, List.cons_append]
  exact between_append free front mark rest.toList

/-- What has been quoted is read, if nothing follows. -/
theorem onlyQuoted_quoted (text : String) : onlyQuoted (Text.quoted text).toList = some text := by
  have read := Text.readQuoted_quoted text []
  rw [List.append_nil] at read
  rw [onlyQuoted, read]

/-! ## Numerals -/

/-- A number that is not negative is written with its decimal digits. -/
theorem toList_ofNat (number : Nat) :
    (toString (Int.ofNat number)).toList = Nat.toDigits 10 number :=
  Nat.toList_repr

/-- A negative number is written with a minus sign before its digits. -/
theorem toList_negSucc (number : Nat) :
    (toString (Int.negSucc number)).toList = '-' :: Nat.toDigits 10 (number + 1) := by
  rw [← Nat.toList_repr]
  exact String.toList_append

/-- A numeral consists of digits after a sign that may be missing. -/
theorem isDigit_of_mem_toString {number : Int} {c : Char} (among : c ∈ (toString number).toList) :
    c = '-' ∨ c.isDigit = true := by
  cases number with
  | ofNat number =>
    rw [toList_ofNat] at among
    exact .inr (Nat.isDigit_of_mem_toDigits (by decide) (by decide) among)
  | negSucc number =>
    rw [toList_negSucc, List.mem_cons] at among
    exact among.imp_right (Nat.isDigit_of_mem_toDigits (by decide) (by decide))

/-- The numeral of a number is read back. -/
theorem ofNumeral_toString (number : Int) : ofNumeral (toString number).toList = number := by
  cases number with
  | ofNat number =>
    have value : Nat.ofDigitChars 10 (Nat.toDigits 10 number) 0 = number :=
      Nat.ofDigitChars_ten_toDigits
    have digits {c : Char} (among : c ∈ Nat.toDigits 10 number) : c.isDigit = true :=
      Nat.isDigit_of_mem_toDigits (by decide) (by decide) among
    rw [toList_ofNat]
    cases spelled : Nat.toDigits 10 number with
    | nil => exact absurd spelled Nat.toDigits_ne_nil
    | cons c rest =>
      rw [spelled] at value digits
      have noSign : c ≠ '-' := by
        rintro rfl
        cases digits List.mem_cons_self
      rw [ofNumeral, if_neg noSign, value]
      rfl
  | negSucc number =>
    rw [toList_negSucc, ofNumeral, if_pos rfl, Nat.ofDigitChars_ten_toDigits]
    rfl

/-! ## Messages -/

/-- The message of another type shows the type that is expected and, quoted, the one that is
there. -/
theorem ofMessage?_wrongType {expected : String} (word : IsWord expected) (actual : String) :
    ofMessage? (message (.wrongType expected actual)) = some (.wrongType expected actual) := by
  have free : ',' ∉ expected.toList := word.not_mem (by decide) (by decide)
  have mark : ", 实际 ".toList = ',' :: " 实际 ".toList := by decide +kernel
  have parts := between_message free mark "事件类型不匹配: 期望 " (Text.quoted actual)
  show ofMessage? ("事件类型不匹配: 期望 " ++ expected ++ ", 实际 " ++ Text.quoted actual) = _
  rw [ofMessage?, if_pos (by simp), readWrongType, parts]
  simp [onlyQuoted_quoted]

/-- The message of an id shows the field and, quoted, the text that is no id. -/
theorem ofMessage?_badId {field : String} (word : IsWord field) (value : String) :
    ofMessage? (message (.badId field value)) = some (.badId field value) := by
  have free : '=' ∉ field.toList := word.not_mem (by decide) (by decide)
  have mark : "=".toList = '=' :: "".toList := by decide +kernel
  have parts := between_message free mark "无效的 UUID 字段: " (Text.quoted value)
  show ofMessage? ("无效的 UUID 字段: " ++ field ++ "=" ++ Text.quoted value) = _
  rw [ofMessage?, if_neg (by simp), if_pos (by simp), readBadId, parts]
  simp [onlyQuoted_quoted]

/-- The message of numbers of tokens shows both numbers. -/
theorem ofMessage?_negativeTokens (input output : Int) :
    ofMessage? (message (.negativeTokens input output)) = some (.negativeTokens input output) := by
  have free : ',' ∉ (toString input).toList := by
    intro among
    obtain sign | digit := isDigit_of_mem_toString among
    · cases sign
    · cases digit
  have mark : ", output=".toList = ',' :: " output=".toList := by decide +kernel
  have parts := between_message free mark "token 数不能为负: input=" (toString output)
  have read := ofNumeral_toString
  show ofMessage? ("token 数不能为负: input=" ++ toString input ++ ", output=" ++ toString output) = _
  rw [ofMessage?, if_neg (by simp), if_neg (by simp), if_pos (by simp), readNegativeTokens, parts]
  simp only [Option.bind_eq_bind, Option.bind_some, read]

/-- The message of a missing field shows its name. -/
theorem ofMessage?_missingField (name : String) :
    ofMessage? (message (.missingField name)) = some (.missingField name) := by
  show ofMessage? ("缺少必填字段: " ++ name) = _
  rw [ofMessage?, if_neg (by simp), if_neg (by simp), if_neg (by simp), if_pos (by simp),
    readMissingField, String.toList_append, dropPrefix?_append]
  simp

/-- The message of a document that cannot be read shows what the reader says. -/
theorem ofMessage?_malformed (detail : String) :
    ofMessage? (message (.malformed detail)) = some (.malformed detail) := by
  show ofMessage? ("负载解码失败: " ++ detail) = _
  rw [ofMessage?, if_neg (by simp), if_neg (by simp), if_neg (by simp), if_neg (by simp),
    readMalformed, String.toList_append, dropPrefix?_append]
  simp

/-- The message of an error is read back as the error. -/
theorem ofMessage?_message {error : ValidationError} (words : error.NamesAreWords) :
    ofMessage? error.message = some error := by
  cases error with
  | malformed detail => exact ofMessage?_malformed detail
  | wrongType expected actual => exact ofMessage?_wrongType words actual
  | badId field value => exact ofMessage?_badId words value
  | negativeTokens input output => exact ofMessage?_negativeTokens input output
  | missingField name => exact ofMessage?_missingField name

/-- Errors are shown alike only if they are equal. -/
theorem message_injective {error other : ValidationError} (words : error.NamesAreWords)
    (words' : other.NamesAreWords) (same : error.message = other.message) : error = other := by
  have read := ofMessage?_message words
  rw [same, ofMessage?_message words'] at read
  exact (Option.some.inj read).symm

/-! ## Control characters -/

/-- A character between two that are shown is no control character. -/
theorem not_isControl_of_le {first last c : Char} (above : first.val ≤ c.val)
    (below : c.val ≤ last.val) (shown : 0x20 ≤ first.toNat ∧ last.toNat < 0x7F) :
    ¬Text.IsControl c :=
  Text.not_isControl_of_between (shown.1.trans (UInt32.le_iff_toNat_le.mp above))
    (Nat.lt_of_le_of_lt (UInt32.le_iff_toNat_le.mp below) shown.2)

/-- A letter is no control character. -/
theorem not_isControl_of_isAlpha {c : Char} (letter : c.isAlpha = true) : ¬Text.IsControl c := by
  obtain upper | lower := (Bool.or_eq_true _ _).mp letter
  · have between : 'A'.val ≤ c.val ∧ c.val ≤ 'Z'.val := of_decide_eq_true upper
    exact not_isControl_of_le between.1 between.2 (by decide)
  · obtain ⟨above, below⟩ := (Bool.and_eq_true _ _).mp lower
    have first : 'a'.val ≤ c.val := of_decide_eq_true above
    have last : c.val ≤ 'z'.val := of_decide_eq_true below
    exact not_isControl_of_le first last (by decide)

/-- A word has none. -/
theorem IsWord.isPlain {name : String} (word : IsWord name) : Text.IsPlain name := by
  intro c among
  obtain letter | rfl := word c among
  · exact not_isControl_of_isAlpha letter
  · decide

/-- Neither has a numeral. -/
theorem isPlain_toString (number : Int) : Text.IsPlain (toString number) := by
  intro c among
  obtain rfl | digit := isDigit_of_mem_toString among
  · decide
  · obtain ⟨above, below⟩ := (Bool.and_eq_true _ _).mp digit
    have first : '0'.val ≤ c.val := of_decide_eq_true above
    have last : c.val ≤ '9'.val := of_decide_eq_true below
    exact not_isControl_of_le first last (by decide)

/-- No control character comes into the message of an error that names what is at fault. -/
theorem isPlain_message {error : ValidationError} (words : error.NamesAreWords)
    (named : error.reason ≠ "decode") : Text.IsPlain error.message := by
  have fixed : ∀ text ∈ ["事件类型不匹配: 期望 ", ", 实际 ", "无效的 UUID 字段: ", "=",
      "token 数不能为负: input=", ", output=", "缺少必填字段: "], Text.IsPlain text := by
    decide +kernel
  cases error with
  | malformed => exact absurd rfl named
  | wrongType expected actual =>
    have word : IsWord expected := words
    exact (((fixed _ (by simp)).append word.isPlain).append (fixed _ (by simp))).append
      (Text.isPlain_quoted actual)
  | badId field value =>
    have word : IsWord field := words
    exact (((fixed _ (by simp)).append word.isPlain).append (fixed _ (by simp))).append
      (Text.isPlain_quoted value)
  | negativeTokens input output =>
    exact (((fixed _ (by simp)).append (isPlain_toString input)).append (fixed _ (by simp))).append
      (isPlain_toString output)
  | missingField name =>
    have word : IsWord name := words
    exact (fixed _ (by simp)).append word.isPlain

end ValidationError

/-! ## Bodies -/

/-- The messages of the bodies of a kind tell the faults apart, and hold no character of a body
that ends a line or steers a terminal. Bodies that cannot be decoded are left out. -/
structure ShowsFaults (kind : EventKind) : Prop where
  /-- Two bodies are refused with one message exactly if they are refused for the same: for the
  same reason, field, text and numbers. -/
  alike : ∀ {body other error fault}, Event.ofBody kind body = .error error →
    Event.ofBody kind other = .error fault → error.reason ≠ "decode" → fault.reason ≠ "decode" →
      (error.message = fault.message ↔ error = fault)
  /-- What a body is refused for is read back from the message. -/
  recovered : ∀ {body error}, Event.ofBody kind body = .error error → error.reason ≠ "decode" →
    ValidationError.ofMessage? error.message = some error
  /-- There is no control character in the message. -/
  plain : ∀ {body error}, Event.ofBody kind body = .error error → error.reason ≠ "decode" →
    Text.IsPlain error.message

/-- The messages of either kind tell the faults of bodies apart, whatever texts the bodies hold. -/
theorem Event.showsFaults (kind : EventKind) : ShowsFaults kind where
  alike refused refused' _ _ :=
    ⟨ValidationError.message_injective (ValidationError.namesAreWords_of_ofBody refused)
      (ValidationError.namesAreWords_of_ofBody refused'), congrArg ValidationError.message⟩
  recovered refused _ :=
    ValidationError.ofMessage?_message (ValidationError.namesAreWords_of_ofBody refused)
  plain refused named :=
    ValidationError.isPlain_message (ValidationError.namesAreWords_of_ofBody refused) named

/-- A type that ends a line, closes the quotation and steers a terminal. -/
example : UsageEvent.ofBody (word "\x7b\"type\":\"\\n\\\", \\u001b\"\x7d") =
      .error (.wrongType "usage_event" "\n\", \x1b") ∧
    ValidationError.message (.wrongType "usage_event" "\n\", \x1b") =
      "事件类型不匹配: 期望 usage_event, 实际 \"\\n\\\", \\u\x7b1b\x7d\"" := by
  decide +kernel

end EventLedger
