import EventLedger.Text.Digits

/-!
# Dates and times of a TOML document

A date, a time of day, or both joined by a letter T or a blank, the latter with an optional offset.
A time may end with its minutes. The normalized text joins date and time by an upper-case T, keeps
nine digits of a fraction at most and no zeros at their end but a single one, and writes an offset
of zero without a minus sign.
-/
namespace EventLedger.Toml

open Text (digit? twoDigits)

/-- The number of two digits at the front. -/
def takeTwo? : List Char → Option (Nat × List Char)
  | a :: b :: rest => do
    let a ← digit? a
    let b ← digit? b
    some (a * 10 + b, rest)
  | _ => none

/-- The input after a character that must be there. -/
def expect? (c : Char) : List Char → Option (List Char)
  | d :: rest => if d = c then some rest else none
  | [] => none

/-- Whether a year has a leap day. -/
def isLeapYear (year : Nat) : Bool := year % 4 = 0 && (year % 100 != 0 || year % 400 = 0)

/-- The days of a month. -/
def daysIn (year month : Nat) : Nat :=
  if month = 2 then if isLeapYear year then 29 else 28
  else if month = 4 || month = 6 || month = 9 || month = 11 then 30
  else 31

/-- Read a date and give its text. -/
def takeDate? (input : List Char) : Option (String × List Char) := do
  let (century, rest) ← takeTwo? input
  let (years, rest) ← takeTwo? rest
  let rest ← expect? '-' rest
  let (month, rest) ← takeTwo? rest
  let rest ← expect? '-' rest
  let (day, rest) ← takeTwo? rest
  if 1 ≤ month && month ≤ 12 && 1 ≤ day && day ≤ daysIn (century * 100 + years) month then
    some (twoDigits century ++ twoDigits years ++ "-" ++ twoDigits month ++ "-" ++ twoDigits day,
      rest)
  else none

/-- Read the fraction of a second, if there is one, and give its text. -/
def takeFraction? : List Char → Option (String × List Char)
  | '.' :: rest =>
    let digits := rest.takeWhile Char.isDigit
    if digits.isEmpty then none
    else
      let kept := ((digits.take 9).reverse.dropWhile (· == '0')).reverse
      let shown := if kept.isEmpty then ['0'] else kept
      some ("." ++ String.ofList shown, rest.dropWhile Char.isDigit)
  | rest => some ("", rest)

/-- Read the seconds of a time with the colon before them, if they are there, and give their text.
A minute may have a leap second. -/
def takeSeconds? : List Char → Option (String × List Char)
  | ':' :: rest => do
    let (second, rest) ← takeTwo? rest
    let (fraction, rest) ← takeFraction? rest
    if second ≤ 60 then some (":" ++ twoDigits second ++ fraction, rest) else none
  | rest => some ("", rest)

/-- Read a time of day and give its text. -/
def takeTime? (input : List Char) : Option (String × List Char) := do
  let (hour, rest) ← takeTwo? input
  let rest ← expect? ':' rest
  let (minute, rest) ← takeTwo? rest
  let (seconds, rest) ← takeSeconds? rest
  if hour ≤ 23 && minute ≤ 59 then
    some (twoDigits hour ++ ":" ++ twoDigits minute ++ seconds, rest)
  else none

/-- The text of an offset that is all of the input. -/
def offset? : List Char → Option String
  | [] => some ""
  | ['Z'] | ['z'] => some "Z"
  | sign :: rest => do
    let (hours, rest) ← takeTwo? rest
    let rest ← expect? ':' rest
    let (minutes, rest) ← takeTwo? rest
    if rest.isEmpty && hours ≤ 23 && minutes ≤ 59 && (sign = '+' || sign = '-') then
      let shown := if hours = 0 && minutes = 0 then "+" else String.singleton sign
      some (shown ++ twoDigits hours ++ ":" ++ twoDigits minutes)
    else none

/-- The normalized text of a date, a time or both, if the characters are that. -/
def moment? (chars : List Char) : Option String :=
  match takeDate? chars with
  | some (date, []) => some date
  | some (date, joint :: rest) =>
    if joint = 'T' || joint = 't' || joint = ' ' then do
      let (time, rest) ← takeTime? rest
      let offset ← offset? rest
      some (date ++ "T" ++ time ++ offset)
    else none
  | none =>
    match takeTime? chars with
    | some (time, []) => some time
    | _ => none

end EventLedger.Toml
