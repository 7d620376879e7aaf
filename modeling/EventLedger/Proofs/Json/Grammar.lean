import EventLedger.Json.Record
import EventLedger.Proofs.Numeral

/-!
# The grammar of documents

Which byte sequences are blanks, texts, numbers, values, read or not, and records, and what they
say, without a word about how they are read. Every relation here is between the bytes of one thing,
from its first byte to its last, and its value; where things follow one another their bytes are
joined.
-/
namespace EventLedger.Json.Grammar

/-- The bytes of ASCII characters. -/
abbrev word (text : String) : Bytes := text.toList.map byte

/-- Nothing but blanks. -/
def Blanks (bytes : Bytes) : Prop := ∀ b ∈ bytes, b ∈ word " \n\r\t"

/-- Something with blanks around it. -/
def Spaced (core bytes : Bytes) : Prop :=
  ∃ before after, Blanks before ∧ Blanks after ∧ bytes = before ++ core ++ after

/-- Digits of a base with their values. -/
def Digits (base : Nat) (bytes : Bytes) (digits : List Nat) : Prop :=
  List.Forall₂ (fun b d => IsDigit base b.toNat d) bytes digits

/-! ## Texts -/

/-- The letters of the short escapes and what they stand for. -/
def shortEscapes : List (Char × Char) :=
  [('"', '"'), ('\\', '\\'), ('/', '/'), ('b', '\x08'), ('f', '\x0c'), ('n', '\n'), ('r', '\r'),
    ('t', '\t')]

/-- An escape of four hexadecimal digits, and the UTF-16 unit that it names. -/
def UnitEscape (bytes : Bytes) (unit : Nat) : Prop :=
  ∃ hex digits, Digits 16 hex digits ∧ digits.length = 4 ∧ unit = placeValue 16 digits ∧
    bytes = word "\\u" ++ hex

/-- One character of a text. -/
inductive Piece : Bytes → Char → Prop where
  /-- It is written in UTF-8; control characters below the space, the quote and the backslash may
  not be. -/
  | raw {c : Char} (printable : ' ' ≤ c) (noQuote : c ≠ '"') (noEscape : c ≠ '\\') :
      Piece (String.utf8EncodeChar c) c
  /-- It has a short escape. -/
  | short {letter c : Char} (listed : (letter, c) ∈ shortEscapes) : Piece [byte '\\', byte letter] c
  /-- It is one UTF-16 unit; no character is a surrogate. -/
  | unit {bytes : Bytes} {c : Char} (escape : UnitEscape bytes c.toNat) : Piece bytes c
  /-- It is a high surrogate and a low one. -/
  | pair {first second : Bytes} {high low : Nat} {c : Char} (escape : UnitEscape first high)
      (escape' : UnitEscape second low) (isHigh : 0xD800 ≤ high ∧ high < 0xDC00)
      (isLow : 0xDC00 ≤ low ∧ low < 0xE000)
      (value : c.toNat = 0x10000 + (high - 0xD800) * 0x400 + (low - 0xDC00)) :
      Piece (first ++ second) c

/-- A text between its quotes. -/
def TextLiteral (bytes : Bytes) (text : String) : Prop :=
  ∃ pieces, List.Forall₂ Piece pieces text.toList ∧
    bytes = byte '"' :: (pieces.flatten ++ [byte '"'])

/-- One byte or one escape of a text that nobody reads: its bytes need not be UTF-8, and surrogates
need no partner. -/
inductive LoosePiece : Bytes → Prop where
  /-- Any byte from the space on but the quote and the backslash. -/
  | raw {b : UInt8} (printable : byte ' ' ≤ b) (noQuote : b ≠ byte '"') (noEscape : b ≠ byte '\\') :
      LoosePiece [b]
  /-- A short escape. -/
  | short {letter c : Char} (listed : (letter, c) ∈ shortEscapes) :
      LoosePiece [byte '\\', byte letter]
  /-- A UTF-16 unit. -/
  | unit {bytes : Bytes} {unit : Nat} (escape : UnitEscape bytes unit) : LoosePiece bytes

/-- A text that nobody reads, between its quotes. -/
def LooseText (bytes : Bytes) : Prop :=
  ∃ pieces : List Bytes, (∀ piece ∈ pieces, LoosePiece piece) ∧
    bytes = byte '"' :: (pieces.flatten ++ [byte '"'])

/-! ## Numbers -/

/-- One or more decimal digits. -/
def Decimal (bytes : Bytes) (digits : List Nat) : Prop := Digits 10 bytes digits ∧ digits ≠ []

/-- The digits before the point: a zero in front stands alone. -/
def Whole (bytes : Bytes) (digits : List Nat) : Prop :=
  Decimal bytes digits ∧ (digits.head? = some 0 → digits = [0])

/-- A point with digits after it, or nothing. -/
inductive Fraction : Bytes → Option (List Nat) → Prop where
  /-- Nothing. -/
  | absent : Fraction [] none
  /-- A point and digits. -/
  | present {bytes : Bytes} {digits : List Nat} (decimal : Decimal bytes digits) :
      Fraction (byte '.' :: bytes) (some digits)

/-- The sign of an exponent. -/
inductive Sign : Bytes → Bool → Prop where
  /-- No sign. -/
  | absent : Sign [] false
  /-- A plus sign. -/
  | plus : Sign [byte '+'] false
  /-- A minus sign. -/
  | minus : Sign [byte '-'] true

/-- An exponent, or nothing. -/
inductive Exponent : Bytes → Option Int → Prop where
  /-- Nothing. -/
  | absent : Exponent [] none
  /-- A letter of either case, a sign and digits. -/
  | present {mark : UInt8} {sign bytes : Bytes} {negative : Bool} {digits : List Nat}
      (letter : mark ∈ word "eE") (signed : Sign sign negative) (decimal : Decimal bytes digits) :
      Exponent (mark :: (sign ++ bytes))
        (some (if negative then -(placeValue 10 digits : Int) else placeValue 10 digits))

/-- A number literal and its parts; no plus sign may stand before it. -/
def NumberLiteral (bytes : Bytes) (literal : Literal) : Prop :=
  ∃ whole fraction exponent, Whole whole literal.whole ∧ Fraction fraction literal.fraction ∧
    Exponent exponent literal.exponent ∧
    bytes = (if literal.negative then [byte '-'] else []) ++ whole ++ fraction ++ exponent

/-- An integer literal and its value. Minus zero is none: it is a number with a sign, which no
integer zero has. -/
inductive IntegerLiteral : Bytes → Int → Prop where
  /-- No sign. -/
  | natural {bytes : Bytes} {digits : List Nat} (whole : Whole bytes digits) :
      IntegerLiteral bytes (placeValue 10 digits)
  /-- A minus sign. -/
  | negative {bytes : Bytes} {digits : List Nat} (whole : Whole bytes digits)
      (nonzero : placeValue 10 digits ≠ 0) :
      IntegerLiteral (byte '-' :: bytes) (-(placeValue 10 digits : Int))

/-! ## Values that nobody reads -/

/-- The byte that begins a container. -/
def opener : Container → UInt8
  | .array => byte '['
  | .object => byte '\x7b'

/-- What a value is made of. -/
inductive Part where
  /-- A value. -/
  | value
  /-- An entry of a container. -/
  | entry (container : Container)
  /-- One or more entries with commas between them. -/
  | entries (container : Container)

/-- The bytes of a value that nobody reads and of its parts, nested to any depth. -/
inductive Loose : Part → Bytes → Prop where
  /-- A fixed word. -/
  | word {text : String} (fixed : text ∈ ["null", "true", "false"]) : Loose .value (word text)
  /-- A number. -/
  | number {bytes : Bytes} {literal : Literal} (number : NumberLiteral bytes literal) :
      Loose .value bytes
  /-- A text. -/
  | text {bytes : Bytes} (text : LooseText bytes) : Loose .value bytes
  /-- A container without entries. -/
  | empty {container : Container} {bytes : Bytes} (blanks : Blanks bytes) :
      Loose .value (opener container :: (bytes ++ [container.closer]))
  /-- A container with entries. -/
  | container {container : Container} {bytes : Bytes} (entries : Loose (.entries container) bytes) :
      Loose .value (opener container :: (bytes ++ [container.closer]))
  /-- An entry of an array. -/
  | item {core bytes : Bytes} (value : Loose .value core) (spaced : Spaced core bytes) :
      Loose (.entry .array) bytes
  /-- An entry of an object. -/
  | member {key core before after : Bytes} (text : LooseText key) (spaced : Spaced key before)
      (value : Loose .value core) (spaced' : Spaced core after) :
      Loose (.entry .object) (before ++ byte ':' :: after)
  /-- One entry. -/
  | last {container : Container} {bytes : Bytes} (entry : Loose (.entry container) bytes) :
      Loose (.entries container) bytes
  /-- An entry before others. -/
  | more {container : Container} {bytes rest : Bytes} (entry : Loose (.entry container) bytes)
      (entries : Loose (.entries container) rest) :
      Loose (.entries container) (bytes ++ byte ',' :: rest)

/-! ## Values that are read -/

/-- A number literal and its number. An integer that 64 bits hold, with or without a sign, is that
integer; any other literal is a binary64 number, unless it is too large for one. -/
inductive NumberValue : Bytes → Number → Prop where
  /-- An integer that 64 bits hold. -/
  | integer {bytes : Bytes} {value : Int} (spelled : IntegerLiteral bytes value)
      (least : -(Word.signWeight : Int) ≤ value) (greatest : value ≤ Word.greatest) :
      NumberValue bytes (.integer value)
  /-- Any other finite number. -/
  | double {bytes : Bytes} {literal : Literal} {value : Binary64}
      (spelled : NumberLiteral bytes literal)
      (noWord : ∀ value, IntegerLiteral bytes value →
        value < -(Word.signWeight : Int) ∨ (Word.greatest : Int) < value)
      (finite : literal.double? = some value) : NumberValue bytes (.double value)

/-- What an object has of members that were written one after the other. -/
structure Gathers (written members : List (String × Value)) : Prop where
  /-- The keys ascend, so none occurs twice. -/
  ascending : (members.map Prod.fst).Pairwise (· < ·)
  /-- A key has the value that was written for it last. -/
  last : ∀ key value, (key, value) ∈ members ↔ written.reverse.lookup key = some value

/-- What is said by a part of a value. -/
inductive Reading where
  /-- A value. -/
  | value (value : Value)
  /-- One or more values of an array, in order. -/
  | items (items : List Value)
  /-- One or more members of an object, in the order in which they are written. -/
  | members (members : List (String × Value))

/-- What the grammar of values leaves open. -/
structure Rules where
  /-- A number literal and its number. -/
  number : Bytes → Number → Prop
  /-- What an object has of the members that are written in it one after the other. -/
  object : List (String × Value) → List (String × Value) → Prop
  /-- A text and the bytes of the document that may stand in it for a value. -/
  embedded : String → Bytes → Prop

/-- Members of which the first one does not say that a document is embedded. -/
def Ordinary (written : List (String × Value)) : Prop :=
  (written.map Prod.fst).head? ≠ some embeddingKey

/-- The bytes of a value with at most `depth` levels of containers and of its parts. -/
inductive Tree (rules : Rules) : (depth : Nat) → Reading → Bytes → Prop where
  /-- Nothing. -/
  | null {depth : Nat} : Tree rules depth (.value .null) (word "null")
  /-- A truth value. -/
  | bool {depth : Nat} {value : Bool} :
      Tree rules depth (.value (.bool value)) (word (if value then "true" else "false"))
  /-- A number. -/
  | number {depth : Nat} {bytes : Bytes} {value : Number} (spelled : rules.number bytes value) :
      Tree rules depth (.value (.number value)) bytes
  /-- A text. -/
  | text {depth : Nat} {bytes : Bytes} {value : String} (spelled : TextLiteral bytes value) :
      Tree rules depth (.value (.text value)) bytes
  /-- An array without items. -/
  | noItems {depth : Nat} {bytes : Bytes} (blanks : Blanks bytes) :
      Tree rules (depth + 1) (.value (.array [])) (byte '[' :: (bytes ++ [byte ']']))
  /-- An array with items. -/
  | array {depth : Nat} {bytes : Bytes} {items : List Value}
      (content : Tree rules depth (.items items) bytes) :
      Tree rules (depth + 1) (.value (.array items)) (byte '[' :: (bytes ++ [byte ']']))
  /-- An object without members. -/
  | noMembers {depth : Nat} {bytes : Bytes} (blanks : Blanks bytes) :
      Tree rules (depth + 1) (.value (.object []))
        (byte '\x7b' :: (bytes ++ [byte '\x7d']))
  /-- An object with members. -/
  | object {depth : Nat} {bytes : Bytes} {written members : List (String × Value)}
      (content : Tree rules depth (.members written) bytes) (ordinary : Ordinary written)
      (comes : rules.object written members) :
      Tree rules (depth + 1) (.value (.object members))
        (byte '\x7b' :: (bytes ++ [byte '\x7d']))
  /-- An object that holds the text of a document and nothing else. It stands for the value of the
  document, which has a nesting of its own. -/
  | embedded {depth : Nat} {text literal before after document core : Bytes} {content : String}
      {value : Value} (named : TextLiteral text embeddingKey) (spaced : Spaced text before)
      (quoted : TextLiteral literal content) (spaced' : Spaced literal after)
      (written : rules.embedded content document) (inner : Tree rules 127 (.value value) core)
      (enclosed : Spaced core document) :
      Tree rules (depth + 1) (.value value)
        (byte '\x7b' :: (before ++ byte ':' :: after ++ [byte '\x7d']))
  /-- One item. -/
  | lastItem {depth : Nat} {core bytes : Bytes} {value : Value}
      (item : Tree rules depth (.value value) core) (spaced : Spaced core bytes) :
      Tree rules depth (.items [value]) bytes
  /-- An item before others. -/
  | moreItems {depth : Nat} {core bytes rest : Bytes} {value : Value} {others : List Value}
      (item : Tree rules depth (.value value) core) (spaced : Spaced core bytes)
      (items : Tree rules depth (.items others) rest) :
      Tree rules depth (.items (value :: others)) (bytes ++ byte ',' :: rest)
  /-- One member: a key, a colon and a value. -/
  | lastMember {depth : Nat} {text core before after : Bytes} {key : String} {value : Value}
      (named : TextLiteral text key) (spaced : Spaced text before)
      (item : Tree rules depth (.value value) core) (spaced' : Spaced core after) :
      Tree rules depth (.members [(key, value)]) (before ++ byte ':' :: after)
  /-- A member before others. -/
  | moreMembers {depth : Nat} {text core before after rest : Bytes} {key : String} {value : Value}
      {others : List (String × Value)} (named : TextLiteral text key)
      (spaced : Spaced text before) (item : Tree rules depth (.value value) core)
      (spaced' : Spaced core after) (members : Tree rules depth (.members others) rest) :
      Tree rules depth (.members ((key, value) :: others))
        (before ++ byte ':' :: after ++ byte ',' :: rest)

/-- What is read: a document may be embedded in a text that spells it in UTF-8. -/
def Rules.reading : Rules where
  number := NumberValue
  object := Gathers
  embedded content document := document = content.toList.flatMap String.utf8EncodeChar

/-- The bytes of a value with at most so many levels of containers, and of its parts, and what is
read from them. -/
abbrev Readable : (depth : Nat) → Reading → Bytes → Prop := Tree .reading

/-! ## Records -/

/-- The value of a field. -/
inductive FieldValue : FieldKind → Bytes → Field → Prop where
  /-- It has none. -/
  | null {kind : FieldKind} : FieldValue kind (word "null") kind.null
  /-- A text. -/
  | text {bytes : Bytes} {text : String} (spelled : TextLiteral bytes text) :
      FieldValue .text bytes (.text (some text))
  /-- A whole number of 64 bits with sign. -/
  | count {bytes : Bytes} {value : Int} (spelled : IntegerLiteral bytes value)
      (least : -(Word.signWeight : Int) ≤ value) (greatest : value < Word.signWeight) :
      FieldValue .count bytes (.count (some value))
  /-- Any value, of at most 127 levels of containers with the record's own one. The null of a
  document that is embedded is a value. -/
  | tree {bytes : Bytes} {value : Value} (spelled : Readable 126 (.value value) bytes)
      (present : bytes ≠ word "null") : FieldValue .tree bytes (.tree (some value))

/-- The value of a member with a key, and the field that it gives. -/
inductive MemberValue (schema : Schema) (key : String) : Bytes → Record → Prop where
  /-- The key is known. -/
  | known {kind : FieldKind} {bytes : Bytes} {field : Field} (known : (key, kind) ∈ schema)
      (value : FieldValue kind bytes field) : MemberValue schema key bytes [(key, field)]
  /-- Nobody knows the key. -/
  | unknown {bytes : Bytes} (unknown : ∀ kind, (key, kind) ∉ schema)
      (value : Loose .value bytes) : MemberValue schema key bytes []

/-- A member of a record, and the field that it gives. -/
inductive Member (schema : Schema) : Bytes → Record → Prop where
  /-- A key, a colon and a value. -/
  | mk {key : String} {text core before after : Bytes} {fields : Record}
      (named : TextLiteral text key) (spaced : Spaced text before)
      (value : MemberValue schema key core fields) (spaced' : Spaced core after) :
      Member schema (before ++ byte ':' :: after) fields

/-- One or more members with commas between them. -/
inductive Members (schema : Schema) : Bytes → Record → Prop where
  /-- One member. -/
  | last {bytes : Bytes} {record : Record} (member : Member schema bytes record) :
      Members schema bytes record
  /-- A member before others. -/
  | more {bytes rest : Bytes} {first record : Record} (member : Member schema bytes first)
      (members : Members schema rest record) :
      Members schema (bytes ++ byte ',' :: rest) (first ++ record)

/-- The values of one or more fields in their order, with commas between them; the last fields may
be missing. -/
inductive Positions : Schema → Bytes → Record → Prop where
  /-- One value. -/
  | last {name : String} {kind : FieldKind} {schema : Schema} {core bytes : Bytes} {field : Field}
      (value : FieldValue kind core field) (spaced : Spaced core bytes) :
      Positions ((name, kind) :: schema) bytes [(name, field)]
  /-- A value before others. -/
  | more {name : String} {kind : FieldKind} {schema : Schema} {core bytes rest : Bytes}
      {field : Field} {record : Record} (value : FieldValue kind core field)
      (spaced : Spaced core bytes) (others : Positions schema rest record) :
      Positions ((name, kind) :: schema) (bytes ++ byte ',' :: rest) ((name, field) :: record)

/-- What stands in a container of a record. -/
inductive Body (schema : Schema) : Container → Bytes → Record → Prop where
  /-- Nothing. -/
  | empty {container : Container} {bytes : Bytes} (blanks : Blanks bytes) :
      Body schema container bytes []
  /-- Members, none of which gives a field that another one gives. -/
  | object {bytes : Bytes} {record : Record} (members : Members schema bytes record)
      (distinct : (record.map Prod.fst).Nodup) : Body schema .object bytes record
  /-- Values by position. -/
  | array {bytes : Bytes} {record : Record} (positions : Positions schema bytes record) :
      Body schema .array bytes record

/-- A document of a record: an object or an array, with nothing but blanks around it. -/
def Document (schema : Schema) (document : Bytes) (record : Record) : Prop :=
  ∃ container bytes, Body schema container bytes record ∧
    Spaced (opener container :: (bytes ++ [container.closer])) document

/-- What a record says in a text; one that is null or missing is empty. -/
def StatesText (record : Record) (name value : String) : Prop :=
  (name, .text (some value)) ∈ record ∨
    value = "" ∧ ∀ text, (name, .text (some text)) ∉ record

/-- What a record says in a count; one that is null or missing is zero. -/
def StatesCount (record : Record) (name : String) (value : Int) : Prop :=
  (name, .count (some value)) ∈ record ∨
    value = 0 ∧ ∀ count, (name, .count (some count)) ∉ record

/-- What a record says in a text that may be missing; a null says nothing. -/
def StatesText? (record : Record) (name : String) (value? : Option String) : Prop :=
  ∀ value, value? = some value ↔ (name, .text (some value)) ∈ record

/-- What a record says in a tree that may be missing; a null says nothing. -/
def StatesTree? (record : Record) (name : String) (value? : Option Value) : Prop :=
  ∀ value, value? = some value ↔ (name, .tree (some value)) ∈ record

end EventLedger.Json.Grammar
