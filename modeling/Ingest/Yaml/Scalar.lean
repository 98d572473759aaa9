import Ingest.Text.Hex
import Ingest.Yaml.Glyph

/-!
The texts that a scalar can be written as: plain, in single or double quotes, or as a block of
indented lines. Each reader takes the glyphs after the opening and gives the text with what follows
it. Breaks inside plain and quoted texts are folded: one break is a space, each further one a break.
-/

namespace Ingest.Yaml

/-- Blanks and breaks met inside a text, held back until it is known what follows them. -/
structure Gap where
  /-- The blanks before the first break, last one first. -/
  blanks : List Char := []
  broken : Bool := false
  /-- The first break. -/
  lead : List Char := []
  /-- The further breaks, last one first. -/
  trail : List Char := []

namespace Gap

def blank (g : Gap) (c : Char) : Gap := if g.broken then g else { g with blanks := c :: g.blanks }

def newline (g : Gap) (c : Char) : Gap :=
  if g.broken then { g with trail := c :: g.trail } else { g with broken := true, lead := [c] }

/-- What the gap adds to the text when more text follows. -/
def fold (g : Gap) : List Char :=
  if !g.broken then g.blanks.reverse
  else if g.lead = ['\n'] then (if g.trail.isEmpty then [' '] else g.trail.reverse)
  else g.lead ++ g.trail.reverse

end Gap

/-- Adds a gap to a text that is kept last character first. -/
def addGap (acc : List Char) : Option Gap → List Char
  | none => acc
  | some g => g.fold.reverse ++ acc

/-- A text that has been read, whether a break came after it, and the glyphs from there on. -/
structure Scanned where
  text : String
  broken : Bool
  rest : List Glyph

/-- Characters that end a plain text inside brackets or braces. -/
def isFlowMark (c : Char) : Bool :=
  c == ',' || c == '[' || c == ']' || c == '\x7b' || c == '\x7d'

/-- Reads a plain text. Outside brackets, a later line of it has to reach `column`. -/
def plainText (inFlow : Bool) (column : Nat) (acc : List Char) (gap : Option Gap) :
    List Glyph → Option Scanned
  | [] => some ⟨String.ofList acc.reverse, (gap.map (·.broken)).getD false, []⟩
  | g :: rest =>
    let broken := (gap.map (·.broken)).getD false
    let stop : Option Scanned := some ⟨String.ofList acc.reverse, broken, g :: rest⟩
    if isSpace g.char then
      if broken && g.char == '\t' && g.column < column then none
      else plainText inFlow column acc (some ((gap.getD {}).blank g.char)) rest
    else if isBreak g.char then
      plainText inFlow column acc (some ((gap.getD {}).newline g.char)) rest
    else if gap.isSome && ((!inFlow && g.column < column) || g.char == '#'
        || atDocumentMarker (g :: rest)) then stop
    else if inFlow && g.char == ':' && (isFlowMark (headChar rest) || headChar rest == '?') then none
    else if (g.char == ':' && atBlank rest) || (inFlow && isFlowMark g.char) then stop
    else plainText inFlow column (g.char :: addGap acc gap) none rest

/-- Reads a text in single quotes, in which a quote is written twice. -/
def singleQuoted (acc : List Char) (gap : Option Gap) : List Glyph → Option Scanned
  | [] => none
  | g :: rest =>
    if isSpace g.char then singleQuoted acc (some ((gap.getD {}).blank g.char)) rest
    else if isBreak g.char then singleQuoted acc (some ((gap.getD {}).newline g.char)) rest
    else if atDocumentMarker (g :: rest) then none
    else if g.char == '\'' then
      match rest with
      | h :: rest' =>
        if h.char == '\'' then singleQuoted ('\'' :: addGap acc gap) none rest'
        else some ⟨String.ofList (addGap acc gap).reverse, false, rest⟩
      | [] => some ⟨String.ofList (addGap acc gap).reverse, false, []⟩
    else singleQuoted (g.char :: addGap acc gap) none rest

/-- The characters that a backslash and one letter stand for. -/
def shortEscape? (c : Char) : Option Char :=
  match c with
  | '0' => some '\x00'
  | 'a' => some '\x07'
  | 'b' => some '\x08'
  | 't' => some '\t'
  | '\t' => some '\t'
  | 'n' => some '\n'
  | 'v' => some '\x0b'
  | 'f' => some '\x0c'
  | 'r' => some '\r'
  | 'e' => some '\x1b'
  | ' ' => some ' '
  | '"' => some '"'
  | '/' => some '/'
  | '\\' => some '\\'
  | 'N' => some '\u0085'
  | '_' => some '\u00a0'
  | 'L' => some '\u2028'
  | 'P' => some '\u2029'
  | _ => none

/-- How many hexadecimal digits follow a backslash and a letter. -/
def hexWidth? (c : Char) : Option Nat :=
  match c with
  | 'x' => some 2
  | 'u' => some 4
  | 'U' => some 8
  | _ => none

/-- Where the reader of a double-quoted text stands: in plain characters, after a backslash, or in
the hexadecimal digits of a code point. -/
inductive Escaping where
  | none
  | backslash
  | hex (left value : Nat)

/-- Reads a text in double quotes, with escapes. -/
def doubleQuoted (mode : Escaping) (acc : List Char) (gap : Option Gap) :
    List Glyph → Option Scanned
  | [] => .none
  | g :: rest =>
    match mode with
    | .none =>
      if isSpace g.char then doubleQuoted .none acc (some ((gap.getD {}).blank g.char)) rest
      else if isBreak g.char then doubleQuoted .none acc (some ((gap.getD {}).newline g.char)) rest
      else if atDocumentMarker (g :: rest) then .none
      else if g.char == '"' then some ⟨String.ofList (addGap acc gap).reverse, false, rest⟩
      else if g.char == '\\' then doubleQuoted .backslash (addGap acc gap) .none rest
      else doubleQuoted .none (g.char :: addGap acc gap) .none rest
    | .backslash =>
      if isBreak g.char then doubleQuoted .none acc (some { broken := true }) rest
      else
        match hexWidth? g.char with
        | some width => doubleQuoted (.hex width 0) acc .none rest
        | .none =>
          match shortEscape? g.char with
          | some c => doubleQuoted .none (c :: acc) .none rest
          | .none => .none
    | .hex left value =>
      match Text.hexDigit? g.char with
      | .none => .none
      | some d =>
        let value := value * 16 + d
        if left > 1 then doubleQuoted (.hex (left - 1) value) acc .none rest
        else if value > 0x10FFFF || (0xD800 ≤ value && value ≤ 0xDFFF) then .none
        else doubleQuoted .none (Char.ofNat value :: acc) .none rest

/-- What becomes of the breaks at the end of a block. -/
inductive Chomping where
  | strip | clip | keep
  deriving DecidableEq

/-- Passes over the indentation and the empty lines before a line of a block; gives the furthest
column met, the breaks (last one first) and the rest. A tab may not stand in the indentation. -/
def blockBreaks (indent : Option Nat) (furthest : Nat) (breaks : List Char) :
    List Glyph → Option (Nat × List Char × List Glyph)
  | [] => some (furthest, breaks, [])
  | g :: rest =>
    let inside := (indent.map fun n => decide (g.column < n)).getD true
    if g.char == ' ' && inside then blockBreaks indent furthest breaks rest
    else if g.char == '\t' && inside then none
    else if isBreak g.char then blockBreaks indent (max furthest g.column) (g.char :: breaks) rest
    else some (max furthest g.column, breaks, g :: rest)

/-- Reads the lines of a block, each of which begins at `indent`. The fuel is the number of glyphs;
every line takes at least one. -/
def blockLines (literal : Bool) (indent : Nat) (chomping : Chomping) :
    Nat → List Char → List Char → List Char → Bool → List Glyph → Option Scanned
  | 0, _, _, _, _, _ => none
  | fuel + 1, acc, lead, trail, afterBlank, gs =>
    if (gs.head?.map fun g => decide (g.column = indent)).getD false then
      let beforeBlank := isSpace (headChar gs)
      let folds := !literal && lead == ['\n'] && !afterBlank && !beforeBlank
      let acc := if folds then (if trail.isEmpty then ' ' :: acc else acc) else lead.reverse ++ acc
      let line := (gs.takeWhile fun g => !isBreak g.char).map (·.char)
      let acc := line.reverse ++ trail ++ acc
      let after := gs.dropWhile fun g => !isBreak g.char
      let lead := (after.take 1).map (·.char)
      match blockBreaks (some indent) 0 [] (after.drop 1) with
      | none => none
      | some (_, trail, rest) => blockLines literal indent chomping fuel acc lead trail beforeBlank rest
    else
      let acc := match chomping with
        | .strip => acc
        | .clip => lead.reverse ++ acc
        | .keep => trail ++ lead.reverse ++ acc
      some ⟨String.ofList acc.reverse, false, gs⟩

/-- The header of a block: how it ends and by how much it is indented, in either order. -/
def blockHeader (chomping : Option Chomping) (indent : Option Nat) :
    List Glyph → Option (Option Chomping × Option Nat × List Glyph)
  | [] => some (chomping, indent, [])
  | g :: rest =>
    if g.char == '+' && chomping.isNone then blockHeader (some .keep) indent rest
    else if g.char == '-' && chomping.isNone then blockHeader (some .strip) indent rest
    else if g.char.isDigit && indent.isNone then
      if g.char == '0' then none else blockHeader chomping (some (g.char.toNat - 48)) rest
    else some (chomping, indent, g :: rest)

/-- Reads a block after its mark. `parent` is one more than the column of the enclosing block, or
zero outside any. -/
def blockText (literal : Bool) (parent : Nat) (gs : List Glyph) : Option Scanned := do
  let (chomping, increment, gs) ← blockHeader none none gs
  let gs := gs.dropWhile fun g => isSpace g.char
  let gs := if headChar gs == '#' then gs.dropWhile fun g => !isBreak g.char else gs
  if !isBreak (headChar gs) then none
  else
    let gs := gs.drop 1
    let given := increment.map fun n => if parent > 0 then parent - 1 + n else n
    let (furthest, breaks, rest) ← blockBreaks given 0 [] gs
    let indent := given.getD (max (max furthest parent) 1)
    blockLines literal indent (chomping.getD .clip) (rest.length + 1) [] [] breaks false rest

end Ingest.Yaml
