/-!
A YAML text as a list of glyphs: characters that know the line and the column they stand in. The
several ways of ending a line become one, so that the reader of tokens meets a single break.
-/

namespace Ingest.Yaml

/-- A character and where it stands. -/
structure Glyph where
  char : Char
  line : Nat
  column : Nat
  /-- How many glyphs come before it. -/
  index : Nat
  deriving Inhabited

/-- The characters a YAML text may hold. -/
def isAllowed (c : Char) : Bool :=
  let n := c.toNat
  n == 9 || n == 10 || n == 13 || (0x20 ≤ n && n ≤ 0x7E) || n == 0x85
    || (0xA0 ≤ n && n ≤ 0xD7FF) || (0xE000 ≤ n && n ≤ 0xFFFD) || 0x10000 ≤ n

/-- Space and tab. -/
def isSpace (c : Char) : Bool := c == ' ' || c == '\t'

/-- The breaks that remain when the ends of lines have been made one. -/
def isBreak (c : Char) : Bool := c == '\n' || c == '\u2028' || c == '\u2029'

/-- The glyphs of the rest of a text, from a position on. -/
def glyphsFrom (line column index : Nat) : List Char → List Glyph
  | [] => []
  | '\r' :: '\n' :: rest => ⟨'\n', line, column, index⟩ :: glyphsFrom (line + 1) 0 (index + 1) rest
  | c :: rest =>
    let d := if c = '\r' ∨ c = '\u0085' then '\n' else c
    ⟨d, line, column, index⟩ ::
      (if isBreak d then glyphsFrom (line + 1) 0 (index + 1) rest
      else glyphsFrom line (column + 1) (index + 1) rest)

/-- The glyphs of a text, if it holds allowed characters only; a byte order mark in front is
dropped. -/
def glyphs? (text : String) : Option (List Glyph) :=
  let cs := match text.toList with
    | '\uFEFF' :: rest => rest
    | cs => cs
  if cs.all isAllowed then some (glyphsFrom 0 0 0 cs) else none

/-- The character of the first glyph, or a break at the end of the text. -/
def headChar (gs : List Glyph) : Char := (gs.head?.map (·.char)).getD '\n'

/-- Whether a word has ended: at a space, a break or the end of the text. -/
def atBlank (gs : List Glyph) : Bool := isSpace (headChar gs) || isBreak (headChar gs)

/-- Whether a line begins with three marks of a kind and then a blank: a document marker. -/
def atMarker (mark : Char) : List Glyph → Bool
  | a :: b :: c :: rest =>
    a.column == 0 && a.char == mark && b.char == mark && c.char == mark && atBlank rest
  | _ => false

/-- A marker of either kind: `---` or `...`. -/
def atDocumentMarker (gs : List Glyph) : Bool := atMarker '-' gs || atMarker '.' gs

end Ingest.Yaml
