import EventLedger.Binary64.Reading
import EventLedger.Settings.Tree
import EventLedger.Text.Digits

/-!
# Settings in the environment

A variable whose name begins with the service's word and two underscores gives a setting: the rest
of the name in lower case, with a point for every two underscores, is the setting's path. Its text
is a truth value, a whole number or another number if it spells one.
-/
namespace EventLedger.Settings

/-- Variables with their values. -/
abbrev Environment := List (String × String)

/-- The value of a variable. -/
def Environment.find? (environment : Environment) (name : String) : Option String :=
  environment.lookup name

namespace Environment

/-- A character in lower case; besides the letters of ASCII this is the Kelvin sign, the only other
character whose lower case is such a letter. -/
def lowerChar (c : Char) : Char := if c = '\u212a' then 'k' else c.toLower

/-- How the variables of settings begin, in lower case. -/
def namePrefix : List Char := "minichat__".toList

/-- A name with a point for every two underscores. -/
def dotted : List Char → List Char
  | '_' :: '_' :: rest => '.' :: dotted rest
  | c :: rest => c :: dotted rest
  | [] => []

/-- The path of the setting that a variable gives, if it gives one. -/
def settingName? (name : String) : Option String :=
  let chars := name.toList.map lowerChar
  if chars.take namePrefix.length = namePrefix then
    some (String.ofList (dotted (chars.drop namePrefix.length)))
  else none

/-- What the text of a variable spells. -/
def leaf (text : String) : Tree :=
  let word := String.ofList (text.toList.map Char.toLower)
  if word = "true" then .bool true
  else if word = "false" then .bool false
  else
    match Text.signed64? text with
    | some value => .integer value
    | none =>
      match Binary64.ofText? text with
      | some value => .double value
      | none => .text text

/-- The settings of an environment, by path. -/
def settings (environment : Environment) : List (String × Tree) :=
  environment.filterMap fun (name, text) =>
    (settingName? name).map fun path => (path, leaf text)

end Environment

end EventLedger.Settings
