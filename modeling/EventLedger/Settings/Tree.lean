import EventLedger.Binary64.Shortest
import EventLedger.Json.Value
import EventLedger.Toml.Value

/-!
# Trees of settings

Before settings have their types they form a tree: tables and arrays with texts, numbers and truth
values at the leaves. Of two trees laid over one another, tables are merged member by member and
everything else is replaced.
-/
namespace EventLedger.Settings

/-- A tree of settings. -/
inductive Tree where
  /-- Nothing: where an array has been filled up, or where a document says so. -/
  | nothing
  /-- A truth value. -/
  | bool (value : Bool)
  /-- A whole number of 64 bits with sign. -/
  | integer (value : Int)
  /-- A number of binary64. -/
  | double (value : Binary64)
  /-- A text. -/
  | text (value : String)
  /-- Trees in order. -/
  | array (items : List Tree)
  /-- Trees behind distinct keys. -/
  | table (members : List (String × Tree))
  deriving Repr, Inhabited

namespace Tree

/-- The table without members. -/
def empty : Tree := .table []

/-- The members of a table; everything else has none. -/
def members : Tree → List (String × Tree)
  | .table members => members
  | _ => []

/-- The items of an array; everything else has none. -/
def items : Tree → List Tree
  | .array items => items
  | _ => []

/-- Put a tree behind a key, in place of the one there. -/
def put (key : String) (tree : Tree) : List (String × Tree) → List (String × Tree)
  | [] => [(key, tree)]
  | member :: rest =>
    if member.1 = key then (key, tree) :: rest else member :: put key tree rest

/-- What stands behind a key, nothing if there is none. -/
def find (key : String) (members : List (String × Tree)) : Tree :=
  (members.lookup key).getD .nothing

mutual

/-- A tree with another one laid over it. -/
def overlay (base : Tree) : (above : Tree) → Tree
  | .table above => .table (overlayMembers base.members above)
  | above => above

/-- Members with others laid over them. -/
def overlayMembers (base : List (String × Tree)) :
    (above : List (String × Tree)) → List (String × Tree)
  | [] => base
  | (key, above) :: rest => overlayMembers (put key (overlay (find key base) above) base) rest

end

mutual

/-- The tree of a value of a document. -/
def ofToml : Toml.Value → Tree
  | .text value => .text value
  | .integer value => .integer value
  | .double value => .double value
  | .bool value => .bool value
  | .moment value => .text value
  | .array items => .array (ofTomlItems items)
  | .table members => .table (ofTomlMembers members)

/-- The trees of values. -/
def ofTomlItems : List Toml.Value → List Tree
  | [] => []
  | value :: rest => ofToml value :: ofTomlItems rest

/-- The trees behind keys. -/
def ofTomlMembers : List (String × Toml.Value) → List (String × Tree)
  | [] => []
  | (key, value) :: rest => (key, ofToml value) :: ofTomlMembers rest

end

/-- The leaf of a number of a JSON document. A whole number that needs all 64 bits becomes the
nearest one of binary64. -/
def ofJsonNumber : Json.Number → Tree
  | .integer value =>
    if value < Word.signWeight then .integer value else .double (.ofRatio false value.toNat 1)
  | .double value => .double value

mutual

/-- The tree of a value of a JSON document. -/
def ofJson : Json.Value → Tree
  | .null => .nothing
  | .bool value => .bool value
  | .number value => ofJsonNumber value
  | .text value => .text value
  | .array items => .array (ofJsonItems items)
  | .object members => .table (ofJsonMembers members)

/-- The trees of values. -/
def ofJsonItems : List Json.Value → List Tree
  | [] => []
  | value :: rest => ofJson value :: ofJsonItems rest

/-- The trees behind keys. -/
def ofJsonMembers : List (String × Json.Value) → List (String × Tree)
  | [] => []
  | (key, value) :: rest => (key, ofJson value) :: ofJsonMembers rest

end

end Tree

end EventLedger.Settings
