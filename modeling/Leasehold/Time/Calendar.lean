import Leasehold.Time.Clock

/-!
# Calendar dates of epoch times

The proleptic Gregorian date and time of day of a number of seconds since the
epoch, in universal time, and its RFC 3339 text in whole seconds.  Years of
more than four digits carry a sign; a time outside `Calendar.first` to
`Calendar.last` has no date.

`Clock.reading?` is how a program reads the clock: as a date from the epoch on, so
that a clock that shows anything else has no reading.
-/

namespace Leasehold

/-- A date and time of day in universal time. -/
structure Calendar where
  year : Int
  month : Nat
  day : Nat
  hour : Nat
  minute : Nat
  second : Nat
  deriving DecidableEq

namespace Calendar

/-- The first moment that has a date, in milliseconds. -/
def first : Int := -8334601228800000

/-- The last moment that has a date, in milliseconds. -/
def last : Int := 8210266876799999

/-- The date and time of a number of seconds since the epoch.  Years are counted from
March, so that a leap day ends its year, in eras of 400 years. -/
def ofSeconds (t : Int) : Calendar :=
  let days := t.fdiv 86400 + 719468
  let clock := (t.fmod 86400).toNat
  let era := days.fdiv 146097
  let dayOfEra := (days.fmod 146097).toNat
  let yearOfEra := (dayOfEra - dayOfEra / 1460 + dayOfEra / 36524 - dayOfEra / 146096) / 365
  let dayOfYear := dayOfEra - (365 * yearOfEra + yearOfEra / 4 - yearOfEra / 100)
  let shifted := (5 * dayOfYear + 2) / 153
  let month := if shifted < 10 then shifted + 3 else shifted - 9
  { year := era * 400 + yearOfEra + (if month ≤ 2 then 1 else 0)
    month
    day := dayOfYear - (153 * shifted + 2) / 5 + 1
    hour := clock / 3600
    minute := clock % 3600 / 60
    second := clock % 60 }

/-- The date and time of a number of milliseconds, in whole seconds rounded down. -/
def ofMillis? (t : Int) : Option Calendar :=
  if first ≤ t ∧ t ≤ last then some (ofSeconds (t.fdiv 1000)) else none

/-- The year in four digits or more, signed unless it has exactly four. -/
def yearText (y : Int) : String :=
  if y < 0 then "-" ++ Text.Digits.padded 4 y.natAbs
  else if y ≤ 9999 then Text.Digits.padded 4 y.natAbs
  else "+" ++ Text.Digits.padded 4 y.natAbs

/-- The RFC 3339 text in universal time. -/
def text (c : Calendar) : String :=
  let two := Text.Digits.padded 2
  yearText c.year ++ "-" ++ two c.month ++ "-" ++ two c.day ++ "T" ++ two c.hour ++ ":" ++
    two c.minute ++ ":" ++ two c.second ++ "Z"

example : (ofMillis? (-1)).map text = some "1969-12-31T23:59:59Z" := by decide +kernel
example : (ofMillis? 951825599000).map text = some "2000-02-29T11:59:59Z" := by decide +kernel
example : (ofMillis? last).map text = some "+262142-12-31T23:59:59Z" := by decide +kernel

end Calendar

namespace Clock

/-- The reading in whole milliseconds since the epoch, if it is a date from then on. -/
def reading? (c : Clock) : Option Int :=
  if 0 ≤ c.millis ∧ c.millis ≤ Calendar.last then some c.millis else none

theorem reading?_eq_some_iff {c : Clock} {t : Int} :
    c.reading? = some t ↔ c.millis = t ∧ 0 ≤ t ∧ t ≤ Calendar.last := by
  unfold reading?
  split <;> rename_i h
  · constructor
    · intro e
      cases e
      exact ⟨rfl, h⟩
    · rintro ⟨rfl, _⟩
      rfl
  · constructor
    · intro e
      cases e
    · rintro ⟨rfl, h'⟩
      exact absurd h' h

example : (⟨-1, 0⟩ : Clock).reading? = none := by decide +kernel

end Clock

end Leasehold
