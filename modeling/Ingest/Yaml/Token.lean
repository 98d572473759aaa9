import Ingest.Yaml.Scalar

/-!
A YAML text as a list of tokens. Indentation becomes pairs of start and end tokens. A word may turn
out to be the key of a mapping only when the colon after it is met, so the place of a word that can
still become a key is remembered, and the tokens that make it one are put in front of it afterwards.
-/

namespace Ingest.Yaml

inductive Token where
  | blockSequenceStart | blockMappingStart | blockEnd
  | flowSequenceStart | flowSequenceEnd | flowMappingStart | flowMappingEnd
  | blockEntry | flowEntry | key | value
  | documentStart | documentEnd
  | version (major minor : Nat)
  | tagHandle (handle target : String)
  | anchor (name : String)
  | alias (name : String)
  | tag (handle suffix : String)
  | scalar (text : String) (plain : Bool)
  deriving DecidableEq, Repr

/-- The place of a word that a colon may still make a key. -/
structure KeyPlace where
  /-- How many tokens stand before it. -/
  position : Nat
  line : Nat
  column : Nat
  index : Nat
  /-- Whether the text is wrong unless the colon comes. -/
  required : Bool
  deriving DecidableEq, Repr

/-- Where the reader of tokens stands. -/
structure Layout where
  tokens : Array Token := #[]
  /-- One more than the column of the innermost block, zero outside any. -/
  margin : Nat := 0
  /-- The margins around the present one. -/
  outer : List Nat := []
  /-- The possible key outside brackets. -/
  ground : Option KeyPlace := none
  /-- The possible keys inside each open bracket, innermost first. -/
  brackets : List (Option KeyPlace) := []
  keyAllowed : Bool := true

namespace Layout

def inFlow (s : Layout) : Bool := !s.brackets.isEmpty

def emit (s : Layout) (t : Token) : Layout := { s with tokens := s.tokens.push t }

def allow (s : Layout) (allowed : Bool) : Layout := { s with keyAllowed := allowed }

/-- The possible key of the innermost level. -/
def place (s : Layout) : Option KeyPlace := s.brackets.head?.getD s.ground

def setPlace (s : Layout) (p : Option KeyPlace) : Layout :=
  match s.brackets with
  | [] => { s with ground := p }
  | _ :: rest => { s with brackets := p :: rest }

/-- Gives up the possible key; one that was required makes the text wrong. -/
def dropPlace? (s : Layout) : Option Layout :=
  if (s.place.map (·.required)).getD false then none else some (s.setPlace none)

/-- Whether a possible key can no longer become one: its line has passed, or too many glyphs. -/
def isStale (here : Glyph) (p : KeyPlace) : Bool :=
  decide (p.line < here.line) || decide (p.index + 1024 < here.index)

def freshen? (here : Glyph) : Option KeyPlace → Option (Option KeyPlace)
  | none => some none
  | some p => if isStale here p then (if p.required then none else some none) else some (some p)

/-- Gives up the possible keys of all levels that have become stale. -/
def dropStale? (s : Layout) (here : Glyph) : Option Layout := do
  let ground ← freshen? here s.ground
  let brackets ← s.brackets.mapM (freshen? here)
  return { s with ground, brackets }

/-- Notes that the word which begins here may become a key. -/
def markPlace? (s : Layout) (here : Glyph) : Option Layout :=
  if s.keyAllowed then do
    let s ← s.dropPlace?
    return s.setPlace (some
      { position := s.tokens.size, line := here.line, column := here.column, index := here.index,
        required := !s.inFlow && s.margin == here.column + 1 })
  else some s

/-- Opens a block at a column that lies further in than the present margin; its start token goes to
a position among the tokens. -/
def indentTo (s : Layout) (column position : Nat) (start : Token) : Layout :=
  if !s.inFlow && s.margin < column + 1 then
    { s with
      margin := column + 1
      outer := s.margin :: s.outer
      tokens := s.tokens.insertIdxIfInBounds position start }
  else s

/-- Closes the blocks that lie further in than a margin. -/
def closeBlocks (margin : Nat) (tokens : Array Token) (present : Nat) :
    List Nat → Array Token × Nat × List Nat
  | [] => if margin < present then (tokens.push .blockEnd, 0, []) else (tokens, present, [])
  | m :: outer =>
    if margin < present then closeBlocks margin (tokens.push .blockEnd) m outer
    else (tokens, present, m :: outer)

def outdentTo (s : Layout) (margin : Nat) : Layout :=
  if s.inFlow then s
  else
    let (tokens, margin, outer) := closeBlocks margin s.tokens s.margin s.outer
    { s with tokens, margin, outer }

/-- Opens a bracket. -/
def openFlow? (s : Layout) (here : Glyph) (t : Token) : Option Layout := do
  let s ← s.markPlace? here
  return ({ s with brackets := none :: s.brackets }.allow true).emit t

/-- Closes the innermost bracket. -/
def closeFlow? (s : Layout) (t : Token) : Option Layout := do
  let s ← s.dropPlace?
  return ({ s with brackets := s.brackets.drop 1 }.allow false).emit t

/-- An entry of a block sequence. -/
def blockEntry? (s : Layout) (here : Glyph) : Option Layout := do
  if !s.inFlow && !s.keyAllowed then none
  let s := s.indentTo here.column s.tokens.size .blockSequenceStart
  return ((← s.dropPlace?).allow true).emit .blockEntry

/-- A question mark, which announces a key. -/
def keyMark? (s : Layout) (here : Glyph) : Option Layout := do
  if !s.inFlow && !s.keyAllowed then none
  let s := s.indentTo here.column s.tokens.size .blockMappingStart
  return ((← s.dropPlace?).allow (!s.inFlow)).emit .key

/-- A colon: makes the word before it a key if it can be one. -/
def valueMark? (s : Layout) (here : Glyph) : Option Layout :=
  match s.place with
  | some p =>
    let s := { s with tokens := s.tokens.insertIdxIfInBounds p.position .key }
    let s := s.indentTo p.column p.position .blockMappingStart
    some (((s.setPlace none).allow false).emit .value)
  | none => do
    if !s.inFlow && !s.keyAllowed then none
    let s := s.indentTo here.column s.tokens.size .blockMappingStart
    return (s.allow (!s.inFlow)).emit .value

/-- A document marker, or what comes with one: every block ends there. -/
def endBlocks? (s : Layout) : Option Layout := do
  return (← (s.outdentTo 0).dropPlace?).allow false

end Layout

/-- Passes over blanks, comments and breaks between tokens. A tab may stand only where no key can
begin; a break outside brackets allows a key again. -/
def skipGap (inFlow : Bool) : Bool → Bool → List Glyph → Bool × List Glyph
  | allowed, _, [] => (allowed, [])
  | allowed, inComment, g :: rest =>
    if isBreak g.char then skipGap inFlow (allowed || !inFlow) false rest
    else if inComment then skipGap inFlow allowed true rest
    else if g.char == ' ' || (g.char == '\t' && (inFlow || !allowed)) then
      skipGap inFlow allowed false rest
    else if g.char == '#' then skipGap inFlow allowed true rest
    else (allowed, g :: rest)

/-- The characters of names. -/
def isWordChar (c : Char) : Bool := c.isAlphanum || c == '_' || c == '-'

/-- The longest run of characters of a class, with what follows it. -/
def spanChars (p : Char → Bool) (gs : List Glyph) : String × List Glyph :=
  (String.ofList ((gs.takeWhile fun g => p g.char).map (·.char)), gs.dropWhile fun g => p g.char)

/-- The name of an anchor or an alias. -/
def anchorName? (gs : List Glyph) : Option (String × List Glyph) :=
  let (name, rest) := spanChars isWordChar gs
  let c := headChar rest
  if name.isEmpty then none
  else if atBlank rest || "?:,]\x7d%@\x60".toList.contains c then some (name, rest)
  else none

def isTagChar (c : Char) : Bool := isWordChar c || ";/?:@&=+$.!~*'()".toList.contains c

/-- The characters of a tag. A percent sign stands before two hexadecimal digits; the character they
write is not looked at further and kept as written. -/
def tagChars (extra : Char → Bool) : List Glyph → Option (List Char × List Glyph)
  | g :: a :: b :: rest =>
    if g.char == '%' then
      if (Text.hexDigit? a.char).isSome && (Text.hexDigit? b.char).isSome then
        (tagChars extra rest).map fun r => (g.char :: a.char :: b.char :: r.1, r.2)
      else none
    else if isTagChar g.char || extra g.char then
      (tagChars extra (a :: b :: rest)).map fun r => (g.char :: r.1, r.2)
    else some ([], g :: a :: b :: rest)
  | g :: rest =>
    if g.char == '%' then none
    else if isTagChar g.char || extra g.char then
      (tagChars extra rest).map fun r => (g.char :: r.1, r.2)
    else some ([], g :: rest)
  | [] => some ([], [])
termination_by gs => gs.length

/-- Whether a character belongs to a tag only between angle brackets. -/
def isVerbatimChar (c : Char) : Bool := c == ',' || c == '[' || c == ']'

/-- The handle of a tag: an exclamation mark, or a word between two. -/
def tagHandle? (gs : List Glyph) : Option (String × List Glyph) :=
  if headChar gs == '!' then
    let (name, rest) := spanChars isWordChar (gs.drop 1)
    if headChar rest == '!' then some ("!" ++ name ++ "!", rest.drop 1) else some ("!" ++ name, rest)
  else none

/-- A tag from its exclamation mark on: a handle and a suffix. -/
def tagToken? (inFlow : Bool) (gs : List Glyph) : Option (Token × List Glyph) := do
  let (token, rest) ←
    if headChar (gs.drop 1) == '<' then do
      let (cs, rest) ← tagChars isVerbatimChar (gs.drop 2)
      if cs.isEmpty || headChar rest != '>' then none
      else some (Token.tag "" (String.ofList cs), rest.drop 1)
    else do
      let (handle, rest) ← tagHandle? gs
      let (cs, rest) ← tagChars (fun _ => false) rest
      let suffix := String.ofList cs
      if handle.endsWith "!" && handle.length > 1 then
        if suffix.isEmpty then none else some (.tag handle suffix, rest)
      else
        let suffix := String.ofList (handle.toList.drop 1) ++ suffix
        if suffix.isEmpty then some (.tag "" "!", rest) else some (.tag "!" suffix, rest)
  if atBlank rest || (inFlow && headChar rest == ',') then some (token, rest) else none

/-- A number of a version. -/
def versionNumber? (gs : List Glyph) : Option (Nat × List Glyph) :=
  let (digits, rest) := spanChars Char.isDigit gs
  if digits.isEmpty || digits.length > 9 then none
  else digits.toNat?.map fun n => (n, rest)

def skipSpaces (gs : List Glyph) : List Glyph := gs.dropWhile fun g => isSpace g.char

/-- A directive, from its percent sign to the end of its line. -/
def directive? (gs : List Glyph) : Option (Token × List Glyph) := do
  let (name, rest) := spanChars isWordChar (gs.drop 1)
  if !atBlank rest then none
  let (token, rest) ←
    if name == "YAML" then do
      let (major, rest) ← versionNumber? (skipSpaces rest)
      if headChar rest != '.' then none
      let (minor, rest) ← versionNumber? (rest.drop 1)
      return (Token.version major minor, rest)
    else if name == "TAG" then do
      let (handle, rest) ← tagHandle? (skipSpaces rest)
      if !(handle == "!" || handle.endsWith "!") || !isSpace (headChar rest) then none
      let (cs, rest) ← tagChars isVerbatimChar (skipSpaces rest)
      if cs.isEmpty || !atBlank rest then none
      return (Token.tagHandle handle (String.ofList cs), rest)
    else none
  let rest := skipSpaces rest
  let rest := if headChar rest == '#' then rest.dropWhile fun (g : Glyph) => !isBreak g.char else rest
  if isBreak (headChar rest) then some (token, rest) else none

/-- Whether a plain text can begin here. -/
def beginsPlain (inFlow : Bool) (c : Char) (rest : List Glyph) : Bool :=
  if c == '-' then !isSpace (headChar rest)
  else if c == '?' || c == ':' then !inFlow && !atBlank rest
  else !isSpace c && !isBreak c && !",[]\x7b\x7d#&*!|>'\"%@\x60".toList.contains c

/-- Adds the token of a scalar, which may become a key. -/
def scalarToken? (s : Layout) (here : Glyph) (plain : Bool) (scanned : Option Scanned) :
    Option (Layout × List Glyph) := do
  let s ← s.markPlace? here
  let text ← scanned
  return ((s.allow text.broken).emit (.scalar text.text plain), text.rest)

/-- Reads the token that begins at a glyph. -/
def token? (s : Layout) (g : Glyph) (rest : List Glyph) : Option (Layout × List Glyph) :=
  let c := g.char
  let ended := atBlank rest
  if g.column == 0 && c == '%' then do
    let s ← s.endBlocks?
    let (t, rest) ← directive? (g :: rest)
    return (s.emit t, rest)
  else if atMarker '-' (g :: rest) then do return ((← s.endBlocks?).emit .documentStart, rest.drop 2)
  else if atMarker '.' (g :: rest) then do return ((← s.endBlocks?).emit .documentEnd, rest.drop 2)
  else if c == '[' then (s.openFlow? g .flowSequenceStart).map (·, rest)
  else if c == '\x7b' then (s.openFlow? g .flowMappingStart).map (·, rest)
  else if c == ']' then (s.closeFlow? .flowSequenceEnd).map (·, rest)
  else if c == '\x7d' then (s.closeFlow? .flowMappingEnd).map (·, rest)
  else if c == ',' then do return (((← s.dropPlace?).allow true).emit .flowEntry, rest)
  else if c == '-' && ended then (s.blockEntry? g).map (·, rest)
  else if c == '?' && (s.inFlow || ended) then (s.keyMark? g).map (·, rest)
  else if c == ':' && (s.inFlow || ended) then (s.valueMark? g).map (·, rest)
  else if c == '*' then do
    let (name, rest) ← anchorName? rest
    return (((← s.markPlace? g).allow false).emit (.alias name), rest)
  else if c == '&' then do
    let (name, rest) ← anchorName? rest
    return (((← s.markPlace? g).allow false).emit (.anchor name), rest)
  else if c == '!' then do
    let (t, rest) ← tagToken? s.inFlow (g :: rest)
    return (((← s.markPlace? g).allow false).emit t, rest)
  else if (c == '|' || c == '>') && !s.inFlow then do
    let s ← s.dropPlace?
    let text ← blockText (c == '|') s.margin rest
    return ((s.allow true).emit (.scalar text.text false), text.rest)
  else if c == '\'' then scalarToken? s g false (singleQuoted [] none rest)
  else if c == '"' then scalarToken? s g false (doubleQuoted .none [] none rest)
  else if beginsPlain s.inFlow c rest then
    scalarToken? s g true (plainText s.inFlow s.margin [] none (g :: rest))
  else none

/-- The tokens of the rest of a text. Every step takes a glyph or ends; the fuel is more than the
number of glyphs. -/
def tokensFrom : Nat → Layout → List Glyph → Option (List Token)
  | 0, _, _ => none
  | fuel + 1, s, gs =>
    let (allowed, gs) := skipGap s.inFlow s.keyAllowed false gs
    let s := s.allow allowed
    match gs with
    | [] => (s.endBlocks?).map fun s => s.tokens.toList
    | g :: rest =>
      match s.dropStale? g with
      | none => none
      | some s =>
        match token? (s.outdentTo (g.column + 1)) g rest with
        | none => none
        | some (s, rest) => tokensFrom fuel s rest

/-- The tokens of a text, if it can be read. -/
def tokens? (gs : List Glyph) : Option (List Token) := tokensFrom (gs.length + 2) {} gs

end Ingest.Yaml
