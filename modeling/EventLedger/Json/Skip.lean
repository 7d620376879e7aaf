import EventLedger.Json.Number
import EventLedger.Json.Text

/-!
# Values that nobody reads

A member that a record does not know only has to be a syntactically complete value: numbers may be
of any size, texts may hold any bytes from U+0020 on, and arrays and objects may be nested to any
depth. The open containers are kept on a stack, so the depth costs no recursion.
-/
namespace EventLedger.Json

/-- A container that is open. -/
inductive Container where
  /-- An array. -/
  | array
  /-- An object. -/
  | object
  deriving DecidableEq, Repr

/-- The byte that ends a container. -/
def Container.closer : Container → UInt8
  | .array => byte ']'
  | .object => byte '}'

/-- What may come next inside the open containers. -/
inductive Awaited where
  /-- A value. -/
  | value
  /-- The first entry of the innermost container, or its end. -/
  | entry
  /-- A comma with another entry of the innermost container, or its end. -/
  | rest
  deriving DecidableEq, Repr

/-- The bytes after a value that is no container. -/
def skipScalar : Bytes → Option Bytes
  | [] => none
  | b :: rest =>
    if b = byte '"' then skipTextTail rest
    else if b = byte 'n' then skipWord? "ull".toList rest
    else if b = byte 't' then skipWord? "rue".toList rest
    else if b = byte 'f' then skipWord? "alse".toList rest
    else (readLiteral (b :: rest)).map (·.2)

/-- The bytes before the value of an entry: an object's entry begins with a key and a colon. -/
def skipKey : Container → Bytes → Option Bytes
  | .array, input => some input
  | .object, input =>
    match skipSpace input with
    | [] => none
    | quote :: rest =>
      if quote = byte '"' then
        match skipTextTail rest with
        | none => none
        | some rest =>
          match skipSpace rest with
          | [] => none
          | colon :: rest => if colon = byte ':' then some rest else none
      else none

/-- The bytes after the values and ends that are still awaited; `fuel` bounds the steps. -/
def skipAwaited : (fuel : Nat) → Awaited → List Container → Bytes → Option Bytes
  | 0, _, _, _ => none
  | _ + 1, .rest, [], input => some input
  | _ + 1, .entry, [], _ => none
  | fuel + 1, .value, stack, input =>
    match skipSpace input with
    | [] => none
    | b :: rest =>
      if b = byte '[' then skipAwaited fuel .entry (.array :: stack) rest
      else if b = byte '{' then skipAwaited fuel .entry (.object :: stack) rest
      else
        match skipScalar (b :: rest) with
        | none => none
        | some rest => skipAwaited fuel .rest stack rest
  | fuel + 1, .entry, container :: stack, input =>
    match skipSpace input with
    | [] => none
    | b :: rest =>
      if b = container.closer then skipAwaited fuel .rest stack rest
      else
        match skipKey container (b :: rest) with
        | none => none
        | some rest => skipAwaited fuel .value (container :: stack) rest
  | fuel + 1, .rest, container :: stack, input =>
    match skipSpace input with
    | [] => none
    | b :: rest =>
      if b = container.closer then skipAwaited fuel .rest stack rest
      else if b = byte ',' then
        match skipKey container rest with
        | none => none
        | some rest => skipAwaited fuel .value (container :: stack) rest
      else none

/-- The bytes after one value. -/
def skipValue (input : Bytes) : Option Bytes :=
  skipAwaited (2 * input.length + 2) .value [] input

end EventLedger.Json
