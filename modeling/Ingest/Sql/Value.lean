import Ingest.Sql.Quote

/-!
The values of an insert and the tuples they form: unsigned numbers, truth values and texts, lists of
these, and maps from text to these. A row of a table is a tuple, written in parentheses.
-/

namespace Ingest.Sql

inductive Scalar where
  | nat (n : Nat)
  | bool (b : Bool)
  | text (s : String)
  deriving DecidableEq, Repr

inductive Value where
  | scalar (x : Scalar)
  | list (xs : List Scalar)
  | map (entries : List (String × Scalar))
  deriving DecidableEq, Repr

namespace Scalar

def render : Scalar → String
  | nat n => n.repr
  | bool true => "true"
  | bool false => "false"
  | text s => quoteText s

end Scalar

/-- The values of a column row, separated as everywhere in an insert. -/
def commaSeparated (xs : List String) : String := ", ".intercalate xs

namespace Value

def nat (n : Nat) : Value := .scalar (.nat n)

def bool (b : Bool) : Value := .scalar (.bool b)

def text (s : String) : Value := .scalar (.text s)

/-- An entry of a map: the quoted key, a colon, the value. -/
def renderEntry (e : String × Scalar) : String := quoteText e.1 ++ ": " ++ e.2.render

def render : Value → String
  | scalar x => x.render
  | list xs => "[" ++ commaSeparated (xs.map Scalar.render) ++ "]"
  | map es => "\x7b" ++ commaSeparated (es.map renderEntry) ++ "\x7d"

end Value

/-- A row of values as the tuple of an insert. -/
def renderTuple (vs : List Value) : String := "(" ++ commaSeparated (vs.map Value.render) ++ ")"

end Ingest.Sql
