/-!
# The parts of a URL

After its scheme and a colon a URL has an authority, if two slashes come first, a path, a query
after a question mark, and a fragment after a number sign, which says nothing about where something
is. Blanks around a URL and breaks of lines in it do not count.
-/
namespace EventLedger.Text

/-- A URL without its scheme and its fragment. -/
structure Url where
  /-- What names a user and a host. -/
  authority : List Char
  /-- The path, with its first slash. -/
  path : List Char
  /-- The query; none if there is no question mark. -/
  query : Option (List Char)

namespace Url

/-- The characters before a separator and those after it, if it occurs. -/
def cut (separator : Char) (text : List Char) : List Char × Option (List Char) :=
  match text.span (· != separator) with
  | (before, []) => (before, none)
  | (before, _ :: after) => (before, some after)

/-- Whether a word can stand before the colon of a URL. -/
def isScheme : List Char → Bool
  | [] => false
  | first :: rest =>
    first.isAlpha && rest.all fun c => c.isAlphanum || c == '+' || c == '-' || c == '.'

/-- A text without blanks around it and breaks of lines in it. -/
def cleaned (text : List Char) : List Char :=
  let inner := (text.dropWhile (· ≤ ' ')).reverse.dropWhile (· ≤ ' ')
  inner.reverse.filter fun c => c != '\t' && c != '\n' && c != '\r'

/-- The parts of what follows a scheme. -/
def ofRest (rest : List Char) : Url :=
  let (text, _) := cut '#' rest
  let (place, query) := cut '?' text
  match place with
  | '/' :: '/' :: named =>
    { authority := named.takeWhile (· != '/'), path := named.dropWhile (· != '/'), query }
  | path => { authority := [], path, query }

/-- The URL that a text spells, if it spells one. -/
def ofText? (text : String) : Option Url :=
  match cut ':' (cleaned text.toList) with
  | (_, none) => none
  | (scheme, some rest) => if isScheme scheme then some (ofRest rest) else none

end Url

end EventLedger.Text
