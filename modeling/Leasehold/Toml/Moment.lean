import Leasehold.Text.Digits

/-!
# Dates and times in TOML

Dates, times of day, and both together with or without an offset.  A moment is
read into its one spelling: a `T` between date and time, `Z` in upper case, no
needless zeros at the end of a fraction of which nine digits count, and no
negative zero offset.  Seconds are optional, and what is left out stays out.
-/

namespace Leasehold

namespace Toml

namespace Moment

/-- Reads exactly `n` digits. -/
def digits? : Nat → List Char → Option (List Char × List Char)
  | 0, cs => some ([], cs)
  | n + 1, c :: cs =>
    if Text.Digits.isDigit c then (digits? n cs).map fun (ds, rest) => (c :: ds, rest) else none
  | _ + 1, [] => none

/-- Reads a number of exactly `n` digits in a range. -/
def number? (n low high : Nat) (cs : List Char) : Option (Nat × List Char) := do
  let (ds, rest) ← digits? n cs
  let v := Text.Digits.accumulate 0 ds
  if low ≤ v ∧ v ≤ high then some (v, rest) else none

/-- Reads one given character. -/
def expect? (c : Char) : List Char → Option (List Char)
  | d :: cs => if d = c then some cs else none
  | [] => none

/-- The days of a month. -/
def daysIn (year month : Nat) : Nat :=
  if month = 2 then
    if year % 4 = 0 ∧ (year % 100 ≠ 0 ∨ year % 400 = 0) then 29 else 28
  else if month = 4 ∨ month = 6 ∨ month = 9 ∨ month = 11 then 30
  else 31

/-- Reads a date. -/
def date? (cs : List Char) : Option (String × List Char) := do
  let (year, cs) ← number? 4 0 9999 cs
  let cs ← expect? '-' cs
  let (month, cs) ← number? 2 1 12 cs
  let cs ← expect? '-' cs
  let (day, cs) ← number? 2 1 31 cs
  if daysIn year month < day then none
  else
    let pad := Text.Digits.padded
    some (pad 4 year ++ "-" ++ pad 2 month ++ "-" ++ pad 2 day, cs)

/-- A fraction of a second without the zeros at its end, but with one digit at least. -/
def fractionText (ds : List Char) : String :=
  let kept := ((ds.take 9).reverse.dropWhile (· = '0')).reverse
  "." ++ if kept.isEmpty then "0" else String.ofList kept

/-- Reads a fraction, if there is one. -/
def fraction? : List Char → Option (String × List Char)
  | '.' :: cs =>
    let ds := cs.takeWhile Text.Digits.isDigit
    if ds.isEmpty then none else some (fractionText ds, cs.dropWhile Text.Digits.isDigit)
  | cs => some ("", cs)

/-- Reads seconds with their fraction, if there are any; a minute may have 61 seconds. -/
def seconds? : List Char → Option (String × List Char)
  | ':' :: cs => do
    let (second, cs) ← number? 2 0 60 cs
    let (fraction, cs) ← fraction? cs
    some (":" ++ Text.Digits.padded 2 second ++ fraction, cs)
  | cs => some ("", cs)

/-- Reads a time of day. -/
def time? (cs : List Char) : Option (String × List Char) := do
  let (hour, cs) ← number? 2 0 23 cs
  let cs ← expect? ':' cs
  let (minute, cs) ← number? 2 0 59 cs
  let (seconds, cs) ← seconds? cs
  let two := Text.Digits.padded 2
  some (two hour ++ ":" ++ two minute ++ seconds, cs)

/-- Reads an offset from universal time, if there is one. -/
def offset? : List Char → Option (String × List Char)
  | 'Z' :: cs => some ("Z", cs)
  | 'z' :: cs => some ("Z", cs)
  | c :: cs =>
    if c = '+' ∨ c = '-' then do
      let (hours, cs) ← number? 2 0 23 cs
      let cs ← expect? ':' cs
      let (minutes, cs) ← number? 2 0 59 cs
      let sign := if c = '-' ∧ (hours ≠ 0 ∨ minutes ≠ 0) then "-" else "+"
      some (sign ++ Text.Digits.padded 2 hours ++ ":" ++ Text.Digits.padded 2 minutes, cs)
    else some ("", c :: cs)
  | [] => some ("", [])

/-- A mark between a date and a time. -/
def isMark (c : Char) : Bool := c = 'T' || c = 't' || c = ' '

/-- Reads what stands behind a date: a time, or nothing if none follows. -/
def timeOfDate? (date : String) (cs : List Char) : Option (String × List Char) :=
  match cs with
  | c :: rest =>
    if isMark c then
      match time? rest with
      | some (time, rest) => (offset? rest).map fun (o, rest) => (date ++ "T" ++ time ++ o, rest)
      | none => if c = ' ' then some (date, cs) else none
    else some (date, cs)
  | [] => some (date, [])

/-- Reads a date, a time of day, or both. -/
def read? (cs : List Char) : Option (String × List Char) :=
  match date? cs with
  | some (date, rest) => timeOfDate? date rest
  | none => time? cs

example : read? "1979-05-27 07:32:00.500z#".toList = some ("1979-05-27T07:32:00.5Z", ['#']) := by
  decide +kernel
example : read? "2023-02-29".toList = none := by decide +kernel

end Moment

end Toml

end Leasehold
