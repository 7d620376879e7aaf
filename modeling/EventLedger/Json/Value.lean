import EventLedger.Binary64

/-!
# JSON values

A value keeps what its text says: the order of arrays, whole numbers of 64 bits exactly, other
numbers as binary64. The members of an object are kept in the order of their keys, and a later
member replaces an earlier one of the same key.
-/
namespace EventLedger.Json

/-- A number of a document. -/
inductive Number where
  /-- A whole number that 64 bits hold, signed or unsigned. -/
  | integer (value : Int)
  /-- Any other finite number. -/
  | double (value : Binary64)
  deriving DecidableEq, Repr

/-- A document. -/
inductive Value where
  /-- The literal `null`. -/
  | null
  /-- A truth value. -/
  | bool (value : Bool)
  /-- A number. -/
  | number (value : Number)
  /-- A text. -/
  | text (value : String)
  /-- Values in order. -/
  | array (items : List Value)
  /-- Members with distinct keys, in the order of their keys. -/
  | object (members : List (String × Value))
  deriving Repr, Inhabited

/-- Put a member among members in key order, in place of one with the same key. -/
def insertMember {α : Type} (key : String) (value : α) : List (String × α) → List (String × α)
  | [] => [(key, value)]
  | member :: rest =>
    if key = member.1 then (key, value) :: rest
    else if key < member.1 then (key, value) :: member :: rest
    else member :: insertMember key value rest

/-- The members of an object from those of its text, in the order in which they were written. -/
def Value.ofMembers (written : List (String × Value)) : Value :=
  .object (written.foldl (fun members member => insertMember member.1 member.2 members) [])

/-- The object without members. -/
def Value.emptyObject : Value := .object []

end EventLedger.Json
