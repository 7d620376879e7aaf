import EventLedger.Binary64

/-!
# Values of a TOML document

What stands behind a key. A date or time is kept as its normalized text. A whole number can be
written in any size, but it is used only if it fits a signed word of 64 bits.
-/
namespace EventLedger.Toml

/-- A value. -/
inductive Value where
  /-- A text. -/
  | text (value : String)
  /-- A whole number. -/
  | integer (value : Int)
  /-- A number of binary64. -/
  | double (value : Binary64)
  /-- A truth value. -/
  | bool (value : Bool)
  /-- A date, a time, or both. -/
  | moment (text : String)
  /-- Values in order. -/
  | array (items : List Value)
  /-- Members with distinct keys. -/
  | table (members : List (String × Value))
  deriving Repr, Inhabited

mutual

/-- Whether each whole number in a value fits a signed word of 64 bits. -/
def Value.fits : Value → Bool
  | .integer value => Word.holds value
  | .array items => itemsFit items
  | .table members => membersFit members
  | .text _ | .double _ | .bool _ | .moment _ => true

/-- Whether each whole number in values does. -/
def itemsFit : List Value → Bool
  | [] => true
  | value :: rest => value.fits && itemsFit rest

/-- Whether each whole number behind keys does. -/
def membersFit : List (String × Value) → Bool
  | [] => true
  | (_, value) :: rest => value.fits && membersFit rest

end

end EventLedger.Toml
