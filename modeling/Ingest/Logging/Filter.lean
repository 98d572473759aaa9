import Ingest.Text.Blank

/-!
Which log lines are written. A filter is a list of directives, separated by commas; one gives a level
to everything, or to the targets that begin with a text. Of the directives that speak of a target
the one with the longest text decides. A directive may also name a span, in brackets; such a one
enables no line outside of spans.
-/

namespace Ingest

/-- Levels, by how much they let through. -/
inductive LogLevel where
  | off | error | warn | info | debug | trace
  deriving DecidableEq, Repr

namespace LogLevel

def rank : LogLevel → Nat
  | off => 0
  | error => 1
  | warn => 2
  | info => 3
  | debug => 4
  | trace => 5

def all : List LogLevel := [off, error, warn, info, debug, trace]

def name : LogLevel → String
  | off => "off"
  | error => "error"
  | warn => "warn"
  | info => "info"
  | debug => "debug"
  | trace => "trace"

/-- The number that a run of digits writes, behind an optional plus sign. -/
def number? (cs : List Char) : Option Nat :=
  let digits := match cs with
    | '+' :: rest => rest
    | cs => cs
  if digits.isEmpty || !digits.all Char.isDigit then none
  else some (digits.foldl (fun n c => 10 * n + (c.toNat - '0'.toNat)) 0)

/-- The level of a name in any case, or of a number; nothing written is the level of errors. -/
def ofText? (cs : List Char) : Option LogLevel :=
  match number? cs with
  | some n => all.find? fun l => l.rank == n
  | none =>
    let lower := String.ofList (cs.map Char.toLower)
    if lower.isEmpty then some error else all.find? fun l => l.name == lower

end LogLevel

inductive FilterError where
  /-- The level of a directive is none. -/
  | level
  /-- A directive is not formed as one. -/
  | directive
  deriving DecidableEq, Repr

/-- The error and what it rests on, outermost first. -/
def FilterError.causes : FilterError → List String
  | level =>
    let text := "error parsing level filter: expected one of \"off\", \"error\", \"warn\", \"info\", "
      ++ "\"debug\", \"trace\", or a number 0-5"
    [text, text]
  | directive => ["invalid filter directive"]

structure Directive where
  target : Option String := none
  level : LogLevel := .trace
  /-- Whether it speaks of spans or their fields. -/
  spans : Bool := false
  deriving DecidableEq, Repr

namespace Directive

/-- Where the reader of a directive stands. Positions count the characters of the directive. -/
inductive Reading where
  | start
  /-- In a level or a target that begins at a position. -/
  | word (begun : Nat)
  | span
  | field
  | fields
  /-- After the target and its span. -/
  | target
  | level (begun : Nat)
  deriving DecidableEq

/-- The characters of a directive between two positions. -/
def slice (cs : List Char) (first last : Nat) : String :=
  String.ofList ((cs.drop first).take (last - first))

/-- Whether a directive may begin with a character. Beyond ASCII every character may stand there. -/
def canBegin (c : Char) : Bool :=
  c == '-' || c == ':' || c == '_' || c.isAlphanum || c.toNat > 127

/-- What one character, at a position, does. -/
def step (cs : List Char) (state : Reading × Directive) (next : Char × Nat) :
    Except FilterError (Reading × Directive) :=
  let (c, i) := next
  match state with
  | (.start, d) =>
    if c = '[' then .ok (.span, { d with spans := true })
    else if canBegin c then .ok (.word i, d)
    else .error .directive
  | (.word begun, d) =>
    if c = '=' then .ok (.level (i + 1), { d with target := some (slice cs begun i) })
    else if c = '[' then .ok (.span, { d with target := some (slice cs begun i), spans := true })
    else .ok (.word begun, d)
  | (.span, d) =>
    .ok (if c = ']' then .target else if c = '\x7b' then .field else .span, d)
  | (.field, d) => .ok (if c = '\x7d' then .fields else .field, d)
  | (.fields, d) => if c = ']' then .ok (.target, d) else .error .directive
  | (.target, d) => if c = '=' then .ok (.level (i + 1), d) else .error .directive
  | (.level begun, d) => .ok (.level begun, d)

/-- The level that begins at a position, or else a target. -/
def ofWord (cs : List Char) (begun : Nat) (d : Directive) : Directive :=
  match LogLevel.ofText? (cs.drop begun) with
  | some level => { d with level }
  | none => { d with target := some (String.ofList (cs.drop begun)) }

/-- Reads a directive. White space around it is no part of what is read, but positions count in
the whole of it. -/
def parse (cs : List Char) : Except FilterError Directive := do
  let front := cs.dropWhile Text.isBlank
  let trimmed := (front.reverse.dropWhile Text.isBlank).reverse
  match ← trimmed.zipIdx.foldlM (step cs) (Reading.start, ({} : Directive)) with
  | (.word begun, d) => return ofWord cs begun d
  | (.level begun, d) =>
    match LogLevel.ofText? (cs.drop begun) with
    | some level => return { d with level }
    | none => throw .level
  | (.target, d) => return d
  | _ => throw .directive

/-- Whether a directive speaks of a target. -/
def covers (d : Directive) (target : String) : Bool :=
  (d.target.map fun t => t.toList.isPrefixOf target.toList).getD true

/-- How much of a target a directive gives. -/
def weight (d : Directive) : Nat := (d.target.map fun t => t.utf8ByteSize + 1).getD 0

end Directive

/-- The directives in force. -/
structure LogFilter where
  directives : List Directive
  deriving DecidableEq, Repr

namespace LogFilter

/-- The parts of a text between commas. -/
def split (cs : List Char) : List (List Char) :=
  cs.foldr (fun c parts =>
    if c = ',' then [] :: parts
    else
      match parts with
      | [] => [[c]]
      | part :: parts => (c :: part) :: parts) [[]]

/-- Reads a filter. Without any directive errors are let through. -/
def parse (text : String) : Except FilterError LogFilter := do
  let ds ← ((split text.toList).filter fun cs => !cs.isEmpty).mapM Directive.parse
  return ⟨if ds.isEmpty then [{ level := .error }] else ds⟩

/-- Whether a line of a level and a target is let through: of the directives that cover the target
the weightiest decides, and of equal ones the last. -/
def allows (f : LogFilter) (level : LogLevel) (target : String) : Bool :=
  let candidates := f.directives.filter fun d => !d.spans && d.covers target
  let best := candidates.foldl (fun (b : Option Directive) d =>
    match b with
    | none => some d
    | some e => if e.weight ≤ d.weight then some d else some e) none
  (best.map fun d => decide (level.rank ≤ d.level.rank)).getD false

end LogFilter

/-- A line of the log. -/
structure LogLine where
  level : LogLevel
  target : String
  text : String
  deriving DecidableEq, Repr

namespace LogLine

def info (target text : String) : LogLine := ⟨.info, target, text⟩

/-- A line as it is written, without its time. -/
def render (l : LogLine) : String :=
  String.ofList (l.level.name.toList.map Char.toUpper) ++ " " ++ l.target ++ ": " ++ l.text

end LogLine

end Ingest
