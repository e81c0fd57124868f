/-!
# Instants

Points in time as nanoseconds since the start of 1970, and their date and time of day in universal
time. Dates follow the Gregorian calendar: counted from the first of March, four centuries, a
century, four years and a year have a fixed number of days but for the last of each, and so do the
months of such a year.
-/

namespace CodeAtlas

/-- A point in time. -/
structure Instant where
  /-- The nanoseconds since the start of 1970. -/
  nanoseconds : Nat
deriving DecidableEq, Repr

/-- A day of the calendar. -/
structure Date where
  year : Nat
  month : Nat
  day : Nat
deriving DecidableEq, Repr

namespace Date

/-- The date that is so many days after the first of March of the year zero. -/
def ofDays (days : Nat) : Date :=
  let cycle := days / 146097
  let dayOfCycle := days % 146097
  let yearOfCycle :=
    (dayOfCycle - dayOfCycle / 1460 + dayOfCycle / 36524 - dayOfCycle / 146096) / 365
  let dayOfYear := dayOfCycle - (365 * yearOfCycle + yearOfCycle / 4 - yearOfCycle / 100)
  let monthFromMarch := (5 * dayOfYear + 2) / 153
  let month := if monthFromMarch < 10 then monthFromMarch + 3 else monthFromMarch - 9
  { year := 400 * cycle + yearOfCycle + (if month ≤ 2 then 1 else 0)
    month := month
    day := dayOfYear - (153 * monthFromMarch + 2) / 5 + 1 }

/-- The days from the first of March of the year zero to the start of 1970. -/
def epoch : Nat := 719468

end Date

namespace Instant

/-- A number with at least so many digits. -/
def digits (width n : Nat) : String :=
  let text := toString n
  String.ofList (List.replicate (width - text.length) '0') ++ text

/-- The whole seconds since the start of 1970. -/
def seconds (t : Instant) : Nat := t.nanoseconds / 1000000000

/-- The nanoseconds since the last whole second. -/
def fraction (t : Instant) : Nat := t.nanoseconds % 1000000000

/-- The date. -/
def date (t : Instant) : Date := Date.ofDays (Date.epoch + t.seconds / 86400)

/-- The hour, minute and second of the day. -/
def clock (t : Instant) : List Nat :=
  [t.seconds / 3600 % 24, t.seconds / 60 % 60, t.seconds % 60]

/-- Date and time to the millisecond, fit for a file name. -/
def stamp (t : Instant) : String :=
  digits 4 t.date.year ++ digits 2 t.date.month ++ digits 2 t.date.day ++ "T" ++
    String.join (t.clock.map (digits 2)) ++ "." ++ digits 3 (t.fraction / 1000000) ++ "Z"

/-- The fraction of a second in as many groups of three digits as it needs. -/
def fractionText (t : Instant) : String :=
  if t.fraction = 0 then ""
  else if t.fraction % 1000000 = 0 then "." ++ digits 3 (t.fraction / 1000000)
  else if t.fraction % 1000 = 0 then "." ++ digits 6 (t.fraction / 1000)
  else "." ++ digits 9 t.fraction

/-- Date and time as an internet timestamp. -/
def timestamp (t : Instant) : String :=
  digits 4 t.date.year ++ "-" ++ digits 2 t.date.month ++ "-" ++ digits 2 t.date.day ++ "T" ++
    ":".intercalate (t.clock.map (digits 2)) ++ t.fractionText ++ "+00:00"

example : Date.ofDays Date.epoch = ⟨1970, 1, 1⟩ := by decide +kernel
example : Date.ofDays (Date.epoch + 11016) = ⟨2000, 2, 29⟩ := by decide +kernel
example : Date.ofDays (Date.epoch + 20819) = ⟨2027, 1, 1⟩ := by decide +kernel

end Instant

end CodeAtlas
