/-!
# Durations

A duration is a number of nanoseconds. Its text is written in the largest unit of s, ms, µs and
ns that is not zero in it, as an exact decimal without trailing zeros.
-/
namespace EventLedger

/-- A span of time. -/
structure Duration where
  /-- Its length in nanoseconds. -/
  nanos : Nat
  deriving DecidableEq, Repr

namespace Duration

/-- A whole number of seconds. -/
def ofSeconds (seconds : Nat) : Duration := ⟨1000000000 * seconds⟩

/-- A whole number of milliseconds. -/
def ofMillis (millis : Nat) : Duration := ⟨1000000 * millis⟩

/-- Its length in whole milliseconds. -/
def millis (duration : Duration) : Nat := duration.nanos / 1000000

/-- The digits of `part` out of a unit of `10 ^ places`, without trailing zeros. -/
def fractionDigits : (places part : Nat) → List Char
  | 0, _ => []
  | places + 1, part =>
    if part = 0 then []
    else
      let unit := Nat.pow 10 places
      Nat.digitChar (part / unit % 10) :: fractionDigits places (part % unit)

/-- A number of nanoseconds as a decimal of a unit that is `10 ^ places` nanoseconds long. -/
def inUnit (nanos places : Nat) (unit : String) : String :=
  let fraction := fractionDigits places (nanos % Nat.pow 10 places)
  let decimals := if fraction.isEmpty then "" else "." ++ String.ofList fraction
  toString (nanos / Nat.pow 10 places) ++ decimals ++ unit

/-- The text of a duration. -/
def text (duration : Duration) : String :=
  let nanos := duration.nanos
  if 1000000000 ≤ nanos then inUnit nanos 9 "s"
  else if 1000000 ≤ nanos then inUnit nanos 6 "ms"
  else if 1000 ≤ nanos then inUnit nanos 3 "µs"
  else inUnit nanos 0 "ns"

end Duration

end EventLedger
