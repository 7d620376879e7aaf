import EventLedger.Database.NumericHost
import EventLedger.Text.Digits
import EventLedger.Text.Percent
import EventLedger.Text.Url

/-!
# Addresses of databases

An address is a URL whose host is a name or the directory of a socket; parameters after the path
may name the host and its port number as well, and a host that is not named is this one. Whatever
bytes the user, the secret, the path and the directory stand for must be texts.
-/
namespace EventLedger.Database

open Text (Url)

/-- Where a database is. -/
inductive Address where
  /-- At a host, under a port number. -/
  | host (name : String) (portNumber : Nat)
  /-- At a socket in a directory. -/
  | socket (directory : String)
  deriving DecidableEq, Repr

namespace Address

/-- The host that is meant if none is named. -/
def ownHost : String := "localhost"

/-- The port number that is meant if none is given. -/
def usualPortNumber : Nat := 5432

/-- The characters that no host has. -/
def notInHosts : List Char :=
  [Char.ofNat 0, '\t', '\n', '\r', ' ', '#', '/', ':', '<', '>', '?', '@', '[', '\\', ']', '^', '|']

/-- The port number that a text spells, if it spells one. -/
def portNumber? (digits : List Char) : Option Nat :=
  (Text.digits? digits).filter (· < UInt16.size)

/-- A host and a port number, each if it is there; none at all if they make no sense. -/
def hostAndNumber? (text : List Char) : Option (List Char × Option Nat) :=
  let (name, rest) := match text with
    | '[' :: _ =>
      match text.span (· != ']') with
      | (before, _ :: after) => (before ++ [']'], after)
      | (before, []) => (before, [])
    | _ => text.span (· != ':')
  let isName := match name with
    | '[' :: inner => inner.getLast? == some ']'
    | _ => name.all fun c => !notInHosts.contains c
  match rest with
  | [] => if isName then some (name, none) else none
  | ':' :: digits =>
    if !isName || name.isEmpty then none
    else if digits.isEmpty then some (name, none)
    else (portNumber? digits).map fun number => (name, some number)
  | _ => none

/-- Whether the bytes that characters stand for are a text. -/
def isText (chars : List Char) : Bool := (Text.Percent.decode? chars).isSome

/-- Whether a user and a secret after a colon are texts. -/
def isUser (text : List Char) : Bool :=
  let (name, secret) := Url.cut ':' text
  isText name && isText (secret.getD [])

/-- The host and the port number in the part of a URL that names them, after the user if one is
there. -/
def authority? (text : List Char) : Option (List Char × Option Nat) :=
  let afterUser := (text.reverse.takeWhile (· != '@')).reverse
  let user := text.take (text.length - afterUser.length - 1)
  if text.contains '@' && (afterUser.isEmpty || !isUser user) then none
  else hostAndNumber? afterUser

/-- The text of a part of a parameter, where a plus sign is a blank. What stands for no text is
left as it is. -/
def parameterText (chars : List Char) : String :=
  let chars := chars.map fun c => if c = '+' then ' ' else c
  (Text.Percent.decode? chars).getD (String.ofList chars)

/-- The parameters after the path, as names and values. -/
def parameters (query : List Char) : List (String × String) :=
  ((String.ofList query).splitOn "&").map fun part =>
    let (name, value) := Url.cut '=' part.toList
    (parameterText name, parameterText (value.getD []))

/-- Whether a word says how far the connection shall be encrypted. -/
def isEncryption (word : String) : Bool :=
  ["disable", "allow", "prefer", "require", "verify-ca", "verify-full"].contains
    (String.ofList (word.toList.map Char.toLower))

/-- An address with a host instead of its own. -/
def withHost (address : Address) (name : String) : Address :=
  if name.startsWith "/" then .socket name
  else
    match address with
    | .host _ number => .host name number
    | .socket _ => .host name usualPortNumber

/-- An address with a port number instead of its own; a socket has none. -/
def withPortNumber (address : Address) (number : Nat) : Address :=
  match address with
  | .host name _ => .host name number
  | .socket directory => .socket directory

/-- An address with what a parameter says, if that makes sense. -/
def withParameter (address : Address) : String × String → Option Address
  | ("sslmode", word) | ("ssl-mode", word) => if isEncryption word then some address else none
  | ("host", name) => some (address.withHost name)
  | ("hostaddr", name) =>
    if NumericHost.isNumeric name then some (address.withHost name) else none
  | ("port", digits) => (Text.unsigned? (UInt16.size - 1) digits).map address.withPortNumber
  | ("statement-cache-capacity", digits) =>
    (Text.unsigned? Word.greatest digits).map fun _ => address
  | _ => some address

/-- The address of the host in a URL: this one if there is none, and a socket if the name is the
path of a directory. -/
def ofHost? (name : List Char) (number : Nat) : Option Address :=
  if name.isEmpty then some (.host ownHost number)
  else if name.take 3 = ['%', '2', 'f'] || name.take 3 = ['%', '2', 'F'] then
    (Text.Percent.decode? name).map .socket
  else some (.host (String.ofList name) number)

/-- The address that a URL names. -/
def ofUrl? (url : Url) : Option Address := do
  let (name, number) ← authority? url.authority
  let own ← ofHost? name (number.getD usualPortNumber)
  if isText url.path then (parameters (url.query.getD [])).foldlM withParameter own else none

/-- The address that a text spells, if it spells one. -/
def ofText? (text : String) : Option Address := (Url.ofText? text).bind ofUrl?

end Address

end EventLedger.Database
