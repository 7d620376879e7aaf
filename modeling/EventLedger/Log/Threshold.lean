import EventLedger.Text.Blank

/-!
# The least level that is logged

The setting for it is a word in any case between blanks; `warning` is another word for `warn`, and
an unknown word stands for `info`.
-/
namespace EventLedger.Log

/-- The word that a setting stands for. -/
def normalizeThreshold (setting : String) : String :=
  let word := String.ofList ((Text.trim setting).toList.map Char.toLower)
  if word = "warning" then "warn"
  else if word = "trace" || word = "debug" || word = "warn" || word = "error" then word
  else "info"

end EventLedger.Log
