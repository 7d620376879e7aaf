import EventLedger.DotEnv.Entry
import EventLedger.Settings.Environment
import EventLedger.Text.ByteOrderMark

/-!
# Loading variables from a file

The entries of the file are added one by one to the environment, as far as they make sense; a
variable that the environment has keeps its value. A value may refer to variables of the
environment and of earlier entries, in this order.
-/
namespace EventLedger.DotEnv

open Settings (Environment)

/-- The value that a name stands for in a value: that of the environment, else that of an earlier
entry, else nothing. -/
def resolve (environment earlier : Environment) (name : List Char) : List Char :=
  let name := String.ofList name
  match environment.find? name with
  | some value => value.toList
  | none => ((earlier.find? name).getD "").toList

/-- The environment with a variable, if it does not have it. -/
def addVariable (environment : Environment) (found : Variable) : Environment :=
  if (environment.find? found.name).isSome then environment
  else environment ++ [(found.name, found.value.getD "")]

/-- Add the variables of entries up to one that makes no sense. -/
def addEntries : (environment earlier : Environment) → List Entry → Environment
  | environment, _, [] => environment
  | environment, _, none :: _ => environment
  | environment, earlier, some entry :: rest =>
    match readEntry (resolve environment earlier) entry with
    | none => environment
    | some none => addEntries environment earlier rest
    | some (some found) =>
      addEntries (addVariable environment found) ((found.name, found.value.getD "") :: earlier) rest

/-- The environment with the variables of a file. -/
def load (environment : Environment) (file : String) : Environment :=
  addEntries environment [] (entries (Text.withoutByteOrderMark file))

end EventLedger.DotEnv
