import Ingest.Text.Blank

/-!
Lengths of time, as settings write them: one or more numbers, each with a unit (`1m 30s`, `1.5h`), or
`0` alone. A number may have a fraction, which has to come out whole: in nanoseconds for units up to
the minute, in seconds for longer ones. White space may stand between the parts and also between
the digits of a number. A text is read by one pass of a machine over its characters.
-/

namespace Ingest

/-- A length of time in nanoseconds. -/
structure Duration where
  nanos : Nat
  deriving DecidableEq, Repr, Inhabited

namespace Duration

def nanosPerSecond : Nat := 1000000000

def ofSeconds (s : Nat) : Duration := ⟨s * nanosPerSecond⟩

def zero : Duration := ⟨0⟩

def isZero (d : Duration) : Bool := d.nanos == 0

/-- Whole seconds. -/
def seconds (d : Duration) : Nat := d.nanos / nanosPerSecond

/-- Nanoseconds beyond the whole seconds. -/
def subsecond (d : Duration) : Nat := d.nanos % nanosPerSecond

/-- The numbers of one machine word, in which all parts are reckoned. -/
def wordBound : Nat := UInt64.size

/-- What one of a unit is worth, and in which measure a fraction of it has to come out whole. -/
structure Scale where
  seconds : Nat
  nanos : Nat
  /-- The size of the unit in the measure of its fractions, if it may have any. -/
  fraction : Option Nat
  /-- Whether fractions are measured in seconds rather than nanoseconds. -/
  coarse : Bool
  deriving DecidableEq, Repr

def coarseScale (s : Nat) : Scale := ⟨s, 0, some s, true⟩

/-- The scale of a unit by its name. -/
def scaleOf? (name : String) : Option Scale :=
  if name ∈ ["nanos", "nsec", "ns"] then some ⟨0, 1, none, false⟩
  else if name ∈ ["usec", "us", "µs"] then some ⟨0, 1000, some 1000, false⟩
  else if name ∈ ["millis", "msec", "ms"] then some ⟨0, 1000000, some 1000000, false⟩
  else if name ∈ ["seconds", "second", "secs", "sec", "s"] then
    some ⟨1, 0, some nanosPerSecond, false⟩
  else if name ∈ ["minutes", "minute", "min", "mins", "m"] then
    some ⟨60, 0, some (60 * nanosPerSecond), false⟩
  else if name ∈ ["hours", "hour", "hr", "hrs", "h"] then some (coarseScale 3600)
  else if name ∈ ["days", "day", "d"] then some (coarseScale 86400)
  else if name ∈ ["weeks", "week", "wk", "wks", "w"] then some (coarseScale 604800)
  else if name ∈ ["months", "month", "M"] then some (coarseScale 2630016)
  else if name ∈ ["years", "year", "yr", "yrs", "y"] then some (coarseScale 31557600)
  else none

/-- A number that fits a machine word. -/
def word? (n : Nat) : Option Nat := if n < wordBound then some n else none

/-- Adds seconds and nanoseconds, each of one word, to a length whose seconds fit a word. -/
def add? (d : Duration) (s ns : Nat) : Option Duration := do
  let ns ← word? (d.subsecond + ns)
  let s ← word? (d.seconds + s + ns / nanosPerSecond)
  return ⟨s * nanosPerSecond + ns % nanosPerSecond⟩

/-- A fraction: its digits as a number, and the power of ten they are divided by. -/
structure Fraction where
  numerator : Nat
  denominator : Nat
  deriving DecidableEq, Repr

/-- Adds a whole number of units and a fraction of one. -/
def addPart? (d : Duration) (whole : Nat) (fraction : Option Fraction) (name : String) :
    Option Duration := do
  let scale ← scaleOf? name
  let d ← d.add? (← word? (whole * scale.seconds)) (← word? (whole * scale.nanos))
  match fraction with
  | none => return d
  | some f =>
    let size ← scale.fraction
    let scaled ← word? (f.numerator * size)
    if scaled % f.denominator = 0 then
      let part := scaled / f.denominator
      if scale.coarse then d.add? part 0 else d.add? 0 part
    else none

/-- Where the reader stands: between parts (before the first of them or not), in the whole digits of
a number, in the digits of its fraction, or in the name of its unit. -/
inductive Reading where
  | between (first : Bool)
  | whole (n : Nat)
  | fraction (n : Nat) (f : Fraction)
  | unit (n : Nat) (f : Option Fraction) (name : String)

def digit (c : Char) : Nat := c.toNat - '0'.toNat

def isUnitChar (c : Char) : Bool := c.isAlpha || c == 'µ'

/-- What one character does to the state and to the length read so far. -/
def step? (state : Reading × Duration) (c : Char) : Option (Reading × Duration) :=
  match state with
  | (.between first, d) =>
    if c.isDigit then some (.whole (digit c), d)
    else if Text.isBlank c then some (.between first, d)
    else none
  | (.whole n, d) =>
    if c.isDigit then (word? (n * 10 + digit c)).map fun n => (.whole n, d)
    else if Text.isBlank c then some (.whole n, d)
    else if isUnitChar c then some (.unit n none (String.singleton c), d)
    else if c = '.' then some (.fraction n ⟨0, 1⟩, d)
    else none
  | (.fraction n f, d) =>
    if c.isDigit then do
      let numerator ← word? (f.numerator * 10 + digit c)
      let denominator ← word? (f.denominator * 10)
      return (.fraction n ⟨numerator, denominator⟩, d)
    else if Text.isBlank c then some (.fraction n f, d)
    else if isUnitChar c && f.denominator != 1 then
      some (.unit n (some f) (String.singleton c), d)
    else none
  | (.unit n f name, d) =>
    if c.isDigit then (d.addPart? n f name).map fun d => (.whole (digit c), d)
    else if Text.isBlank c then (d.addPart? n f name).map fun d => (.between false, d)
    else if isUnitChar c then some (.unit n f (name.push c), d)
    else none

/-- The length of time that a text writes, if it writes one. -/
def parse? (s : String) : Option Duration :=
  if s = "0" then some zero
  else do
    let (reading, d) ← s.toList.foldlM step? (.between true, zero)
    match reading with
    | .between first => if first then none else some d
    | .unit n f name => d.addPart? n f name
    | .whole _ | .fraction _ _ => none

/-- A number of units with as many decimals as are not zero. -/
def decimals (whole rest width : Nat) : String :=
  let digits := (String.ofList (List.replicate (width - rest.repr.length) '0') ++ rest.repr).toList
  let kept := (digits.reverse.dropWhile (· == '0')).reverse
  if kept.isEmpty then whole.repr else whole.repr ++ "." ++ String.ofList kept

/-- A length in the largest unit up to the second of which it has a whole one. -/
def text (d : Duration) : String :=
  if d.seconds > 0 then decimals d.seconds d.subsecond 9 ++ "s"
  else if d.nanos ≥ 1000000 then decimals (d.nanos / 1000000) (d.nanos % 1000000) 6 ++ "ms"
  else if d.nanos ≥ 1000 then decimals (d.nanos / 1000) (d.nanos % 1000) 3 ++ "µs"
  else d.nanos.repr ++ "ns"

end Duration

end Ingest
