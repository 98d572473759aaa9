/-!
Dates and times of day of the proleptic Gregorian calendar, without time zones or leap seconds, for
instants at or after the Unix epoch, and their text. Years are reckoned from March, so that the
leap day is the last of its year and the cycles of 400, 100, 4 and 1 years nest.
-/

namespace Ingest.Calendar

/-- A calendar date; months and days count from one. -/
structure Date where
  year : Nat
  month : Nat
  day : Nat
  deriving DecidableEq, Repr

/-- A time of day in whole seconds. -/
structure TimeOfDay where
  hour : Nat
  minute : Nat
  second : Nat
  deriving DecidableEq, Repr

/-- Days from the first of March of the year 0 to the Unix epoch. -/
def epochOffset : Nat := 719468

/-- The date in the year that began with the March of `year`, counted from that first of March. -/
def ofMarchYear (year dayOfYear : Nat) : Date :=
  let m := (5 * dayOfYear + 2) / 153
  let day := dayOfYear - (153 * m + 2) / 5 + 1
  if m < 10 then ⟨year, m + 3, day⟩ else ⟨year + 1, m - 9, day⟩

/-- The date so many days after the first of March of the year 0. -/
def ofMarchDays (n : Nat) : Date :=
  let era := n / 146097
  let inEra := n % 146097
  let century := min (inEra / 36524) 3
  let inCentury := inEra - 36524 * century
  let cycle := inCentury / 1461
  let inCycle := inCentury % 1461
  let year := min (inCycle / 365) 3
  ofMarchYear (400 * era + 100 * century + 4 * cycle + year) (inCycle - 365 * year)

/-- The date so many days after the Unix epoch. -/
def dateOf (days : Nat) : Date := ofMarchDays (days + epochOffset)

def timeOf (secondOfDay : Nat) : TimeOfDay :=
  ⟨secondOfDay / 3600, secondOfDay % 3600 / 60, secondOfDay % 60⟩

/-- A number in decimal digits, with zeros in front up to a width. -/
def padded (width n : Nat) : String :=
  let digits := n.repr
  String.ofList (List.replicate (width - digits.length) '0') ++ digits

/-- A year has four digits, or a plus sign and as many as it needs. -/
def yearText (year : Nat) : String := if year ≤ 9999 then padded 4 year else "+" ++ year.repr

def dateText (d : Date) : String :=
  yearText d.year ++ "-" ++ padded 2 d.month ++ "-" ++ padded 2 d.day

def timeText (t : TimeOfDay) : String :=
  padded 2 t.hour ++ ":" ++ padded 2 t.minute ++ ":" ++ padded 2 t.second

/-- An instant given in seconds after the epoch, to the second. -/
def secondsText (s : Nat) : String :=
  dateText (dateOf (s / 86400)) ++ " " ++ timeText (timeOf (s % 86400))

/-- An instant given in nanoseconds after the epoch, with nine decimals of the second. -/
def nanosText (ns : Nat) : String :=
  secondsText (ns / 1000000000) ++ "." ++ padded 9 (ns % 1000000000)

/-- The last second that has a date here: the end of the year 262142. -/
def lastSecond : Nat := 8210266876799

/-- The text of an instant in seconds, if it is not beyond the last date. -/
def secondsText? (s : Nat) : Option String := if s ≤ lastSecond then some (secondsText s) else none

/-- The text of an instant in nanoseconds, if it is not beyond the last date. -/
def nanosText? (ns : Nat) : Option String :=
  if ns / 1000000000 ≤ lastSecond then some (nanosText ns) else none

end Ingest.Calendar
