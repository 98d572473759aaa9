import Ingest.Text.Hex

/-!
JSON texts and the values they write. Profile requests are handed to agents as such texts, and are
read back here. A number that is written as a plain run of digits is a natural number; any other is
kept as it is written.
-/

namespace Ingest

inductive Json where
  | null
  | bool (b : Bool)
  | nat (n : Nat)
  /-- A number with a sign, a fraction or an exponent. -/
  | number (text : String)
  | str (s : String)
  | arr (items : List Json)
  | obj (members : List (String × Json))
  deriving Inhabited

namespace Json

def isBlank (c : Char) : Bool := c == ' ' || c == '\t' || c == '\n' || c == '\r'

def skipBlanks (cs : List Char) : List Char := cs.dropWhile isBlank

def isNumberChar (c : Char) : Bool :=
  c.isDigit || c == '-' || c == '+' || c == '.' || c == 'e' || c == 'E'

/-- The number that decimal digits write. -/
def digitsValue (cs : List Char) : Nat := cs.foldl (fun n c => 10 * n + (c.toNat - '0'.toNat)) 0

/-- Where the reader of a string stands: among its characters, after a backslash, or in the four
digits of a code unit, possibly after the first half of a pair. -/
inductive Quoting where
  | plain (high : Option Nat)
  | backslash (high : Option Nat)
  | unit (high : Option Nat) (left value : Nat)

/-- The character of a backslash and one letter. -/
def escape? (c : Char) : Option Char :=
  match c with
  | '"' => some '"'
  | '\\' => some '\\'
  | '/' => some '/'
  | 'b' => some '\x08'
  | 'f' => some '\x0c'
  | 'n' => some '\n'
  | 'r' => some '\r'
  | 't' => some '\t'
  | _ => none

/-- Reads a string after its opening quote; its characters so far come last first. -/
def string (q : Quoting) (acc : List Char) : List Char → Option (String × List Char)
  | [] => none
  | c :: rest =>
    match q with
    | .plain none =>
      if c = '"' then some (String.ofList acc.reverse, rest)
      else if c = '\\' then string (.backslash none) acc rest
      else string q (c :: acc) rest
    | .plain (some high) => if c = '\\' then string (.backslash (some high)) acc rest else none
    | .backslash high =>
      if c = 'u' then string (.unit high 4 0) acc rest
      else
        match high, escape? c with
        | none, some d => string (.plain none) (d :: acc) rest
        | _, _ => none
    | .unit high left value =>
      match Text.hexDigit? c with
      | none => none
      | some d =>
        let value := 16 * value + d
        if left > 1 then string (.unit high (left - 1) value) acc rest
        else
          let isLow := 0xDC00 ≤ value && value < 0xE000
          match high with
          | some h =>
            if isLow then
              let c := Char.ofNat (0x10000 + (h - 0xD800) * 0x400 + (value - 0xDC00))
              string (.plain none) (c :: acc) rest
            else none
          | none =>
            if 0xD800 ≤ value && value < 0xDC00 then string (.plain (some value)) acc rest
            else if isLow then none
            else string (.plain none) (Char.ofNat value :: acc) rest

/-- Reads a number. -/
def numeral (cs : List Char) : Option (Json × List Char) :=
  let token := cs.takeWhile isNumberChar
  let rest := cs.dropWhile isNumberChar
  if token.isEmpty then none
  else if token.all Char.isDigit then some (.nat (digitsValue token), rest)
  else some (.number (String.ofList token), rest)

mutual
/-- Reads a value. -/
def value : Nat → List Char → Option (Json × List Char)
  | 0, _ => none
  | fuel + 1, cs =>
    match skipBlanks cs with
    | '"' :: rest => (string (.plain none) [] rest).map fun r => (.str r.1, r.2)
    | '[' :: rest =>
      match skipBlanks rest with
      | ']' :: rest => some (.arr [], rest)
      | rest => items fuel [] rest
    | '\x7b' :: rest =>
      match skipBlanks rest with
      | '\x7d' :: rest => some (.obj [], rest)
      | rest => members fuel [] rest
    | 't' :: 'r' :: 'u' :: 'e' :: rest => some (.bool true, rest)
    | 'f' :: 'a' :: 'l' :: 's' :: 'e' :: rest => some (.bool false, rest)
    | 'n' :: 'u' :: 'l' :: 'l' :: rest => some (.null, rest)
    | cs => numeral cs

/-- Reads the items of an array after those read so far, which come last first. -/
def items : Nat → List Json → List Char → Option (Json × List Char)
  | 0, _, _ => none
  | fuel + 1, acc, cs =>
    match value fuel cs with
    | none => none
    | some (v, rest) =>
      match skipBlanks rest with
      | ',' :: rest => items fuel (v :: acc) rest
      | ']' :: rest => some (.arr (v :: acc).reverse, rest)
      | _ => none

/-- Reads the members of an object after those read so far, which come last first. -/
def members : Nat → List (String × Json) → List Char → Option (Json × List Char)
  | 0, _, _ => none
  | fuel + 1, acc, cs =>
    match skipBlanks cs with
    | '"' :: rest =>
      match string (.plain none) [] rest with
      | none => none
      | some (name, rest) =>
        match skipBlanks rest with
        | ':' :: rest =>
          match value fuel rest with
          | none => none
          | some (v, rest) =>
            match skipBlanks rest with
            | ',' :: rest => members fuel ((name, v) :: acc) rest
            | '\x7d' :: rest => some (.obj ((name, v) :: acc).reverse, rest)
            | _ => none
        | _ => none
    | _ => none
end

/-- The value that a text writes, if it is JSON. -/
def parse? (text : String) : Option Json :=
  let cs := text.toList
  match value (2 * cs.length + 2) cs with
  | some (v, rest) => if (skipBlanks rest).isEmpty then some v else none
  | none => none

/-- The member of a name: the last one, if several have it. -/
def member? (name : String) : Json → Option Json
  | obj members => (members.reverse.find? fun m => m.1 == name).map Prod.snd
  | _ => none

end Json

end Ingest
