import EventLedger.Settings.Tree
import EventLedger.Text.Digits

/-!
# Paths in a tree of settings

The name of a setting in a source is a path: a key, then further keys after points and positions
in brackets, where a negative position counts from the end and blanks around it do not count. A
name that is no path is a key of its own. What is missing on the way is made, and what is in the
way is replaced.
-/
namespace EventLedger.Settings

/-- A step of a path. -/
inductive Step where
  /-- To what stands behind a key. -/
  | key (name : String)
  /-- To what stands at a position. -/
  | position (index : Int)
  deriving DecidableEq, Repr

/-- A way to a place in a tree. -/
abbrev Path := List Step

namespace Path

/-- Whether a character may stand in a key of a path. -/
def isKeyChar (c : Char) : Bool := c.isAlphanum || c = '_' || c = '-'

/-- Read a key. -/
def takeKey? (chars : List Char) : Option (String × List Char) :=
  let key := chars.takeWhile isKeyChar
  if key.isEmpty then none else some (String.ofList key, chars.dropWhile isKeyChar)

/-- Whether a character may stand around a position. -/
def isBlank (c : Char) : Bool := c = ' ' || c = '\t'

/-- Read a position up to its closing bracket. -/
def takePosition? (chars : List Char) : Option (Int × List Char) :=
  let inside := (chars.takeWhile (· != ']')).dropWhile isBlank
  let inside := (inside.reverse.dropWhile isBlank).reverse
  match inside, chars.dropWhile (· != ']') with
  | '+' :: _, _ => none
  | _, ']' :: rest => (Text.signed64? (String.ofList inside)).map fun index => (index, rest)
  | _, _ => none

/-- Read the steps after the first key; `fuel` bounds their number. -/
def readSteps? : (fuel : Nat) → List Char → Option Path
  | _, [] => some []
  | 0, _ => none
  | fuel + 1, '.' :: rest =>
    (takeKey? rest).bind fun (name, rest) => (readSteps? fuel rest).map (.key name :: ·)
  | fuel + 1, '[' :: rest =>
    (takePosition? rest).bind fun (index, rest) => (readSteps? fuel rest).map (.position index :: ·)
  | _, _ => none

/-- The path that a text spells. -/
def ofText? (text : String) : Option Path :=
  (takeKey? text.toList).bind fun (name, rest) =>
    (readSteps? rest.length rest).map (.key name :: ·)

/-- The path of a name. -/
def ofName (name : String) : Path := (ofText? name).getD [.key name]

end Path

namespace Tree

/-- Items filled up with nothing so that a position exists, and the position from the start. -/
def fillUp (items : List Tree) (index : Int) : List Tree × Nat :=
  if 0 ≤ index then
    let position := index.toNat
    (items ++ List.replicate (position + 1 - items.length) .nothing, position)
  else
    let back := (-index).toNat
    if back ≤ items.length then (items, items.length - back)
    else (List.replicate (back - items.length) .nothing ++ items, 0)

/-- Change what stands at the end of a path. -/
def change (next : Tree → Tree) : Path → Tree → Tree
  | [], tree => next tree
  | .key name :: path, tree =>
    .table (put name (change next path (find name tree.members)) tree.members)
  | .position index :: path, tree =>
    let (items, position) := fillUp tree.items index
    .array (items.modify position (change next path))

/-- Lay a tree over what stands behind the name of a setting. -/
def set (tree : Tree) (name : String) (above : Tree) : Tree :=
  tree.change (overlay · above) (Path.ofName name)

end Tree

end EventLedger.Settings
