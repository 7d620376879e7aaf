import EventLedger.Settings.Tree
import EventLedger.Text.Blank
import EventLedger.Text.Digits

/-!
# Values of leaves

A setting has a value of some kind, which it takes from a leaf of a tree or from the text of a
legacy variable. A text comes from every leaf, as it is written; a number from a whole number, a
fraction rounded to the nearest, a truth value or a text; a truth value likewise. A number outside
of its word is refused. A legacy variable spells its number or truth value and nothing else, between
blanks.
-/
namespace EventLedger.Settings

namespace Tree

/-- A text in lower case. -/
def lowerCase (word : String) : String := String.ofList (word.toList.map Char.toLower)

/-- The text of a leaf. -/
def toText? : Tree → Option String
  | .text value => some value
  | .bool value => some (if value then "true" else "false")
  | .integer value => some (toString value)
  | .double value => some value.text
  | _ => none

/-- The truth value that a word stands for. -/
def truthWord? (spelling : String) : Option Bool :=
  let word := lowerCase spelling
  if word = "true" || word = "on" || word = "yes" then some true
  else if word = "false" || word = "off" || word = "no" then some false
  else none

/-- The whole number without sign of a leaf. -/
def toWord? : Tree → Option Nat
  | .integer value => if 0 ≤ value then some value.toNat else none
  | .bool value => some value.toNat
  | .double value => some value.toWord.toNat
  | .text word =>
    match truthWord? word with
    | some value => some value.toNat
    | none => Text.unsigned? Word.greatest word
  | _ => none

/-- The whole number of a leaf that a word of so many bits holds. -/
def toWidth? (bits : Nat) (tree : Tree) : Option Nat :=
  tree.toWord?.filter fun value => value < 1 <<< bits

/-- The truth value of a leaf. -/
def toBool? : Tree → Option Bool
  | .bool value => some value
  | .integer value => some (value != 0)
  | .double value => some value.isNonzero
  | .text word =>
    if word = "1" then some true else if word = "0" then some false else truthWord? word
  | _ => none

end Tree

/-- The kinds of values. -/
inductive Kind where
  /-- Texts. -/
  | text
  /-- Words of 16 bits. -/
  | word16
  /-- Words of 32 bits. -/
  | word32
  /-- Words of 64 bits. -/
  | word64
  /-- Truth values. -/
  | truth
  deriving DecidableEq, Repr

namespace Kind

/-- The values of a kind. -/
abbrev Value : Kind → Type
  | .text => String
  | .word16 => UInt16
  | .word32 => UInt32
  | .word64 => UInt64
  | .truth => Bool

/-- The value of a leaf. -/
def ofTree? : (kind : Kind) → Tree → Option kind.Value
  | .text, tree => tree.toText?
  | .word16, tree => (tree.toWidth? 16).map Nat.toUInt16
  | .word32, tree => (tree.toWidth? 32).map Nat.toUInt32
  | .word64, tree => (tree.toWidth? 64).map Nat.toUInt64
  | .truth, tree => tree.toBool?

/-- The truth value that a text spells. -/
def spelledTruth? (word : String) : Option Bool :=
  if word = "true" then some true else if word = "false" then some false else none

/-- The value that the text of a legacy variable spells. -/
def ofText? : (kind : Kind) → String → Option kind.Value
  | .text, raw => some raw
  | .word16, raw => (Text.unsigned? (UInt16.size - 1) (Text.trim raw)).map Nat.toUInt16
  | .word32, raw => (Text.unsigned? (UInt32.size - 1) (Text.trim raw)).map Nat.toUInt32
  | .word64, raw => (Text.unsigned? Word.greatest (Text.trim raw)).map Nat.toUInt64
  | .truth, raw => spelledTruth? (Text.trim raw)

end Kind

end EventLedger.Settings
