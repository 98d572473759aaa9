import Ingest.Keyed
import Ingest.Yaml.Token

/-!
The value that a YAML text writes: scalars, sequences and mappings. A text is one document. An
anchor names a node, and an alias stands for the node last named so; an alias inside the node that
it names has no finite value.
-/

namespace Ingest.Yaml

inductive Node where
  /-- A scalar, whether it was written without quotes, and its tag if it has one. -/
  | scalar (text : String) (plain : Bool) (tag : Option String)
  | sequence (items : List Node)
  | mapping (entries : List (Node × Node))
  /-- The node stands inside itself. -/
  | endless
  deriving Inhabited

/-- The node of a place where nothing is written. -/
def Node.absent : Node := .scalar "" true none

/-- What the reader of nodes has still to read, and what it knows of names. -/
structure Reader where
  tokens : List Token
  /-- What each tag handle stands for. -/
  handles : Keyed String String := Keyed.ofList [("!", "!"), ("!!", "tag:yaml.org,2002:")]
  /-- The number of the node that each anchor last named. -/
  anchors : Keyed String Nat := .empty
  /-- The named nodes that have been read to their end. -/
  named : Keyed Nat Node := .empty
  /-- How many nodes have been named. -/
  count : Nat := 0

namespace Reader

def head? (r : Reader) : Option Token := r.tokens.head?

def skip (r : Reader) : Reader := { r with tokens := r.tokens.drop 1 }

/-- Whether the next token is one of a list; the end of the text is not. -/
def atAny (r : Reader) (ts : List Token) : Bool := (r.head?.map fun t => decide (t ∈ ts)).getD false

/-- Takes a token that has to come next. -/
def expect? (r : Reader) (t : Token) : Option Reader := if r.atAny [t] then some r.skip else none

/-- The node an alias stands for. -/
def alias? (r : Reader) (name : String) : Option Node :=
  (r.anchors.get? name).map fun i => r.named.getD i .endless

end Reader

/-- The properties written in front of a node. -/
structure Properties where
  anchor : Option String := none
  tag : Option (String × String) := none

/-- Reads an anchor and a tag, each at most once, in either order. -/
def properties (r : Reader) : Properties × Reader :=
  match r.tokens with
  | .anchor a :: .tag h s :: _ => (⟨some a, some (h, s)⟩, r.skip.skip)
  | .tag h s :: .anchor a :: _ => (⟨some a, some (h, s)⟩, r.skip.skip)
  | .anchor a :: _ => (⟨some a, none⟩, r.skip)
  | .tag h s :: _ => (⟨none, some (h, s)⟩, r.skip)
  | _ => ({}, r)

/-- The full text of a tag; its handle has to be known. -/
def resolveTag? (r : Reader) : Option (String × String) → Option (Option String)
  | none => some none
  | some (handle, suffix) =>
    if handle.isEmpty then some (some suffix)
    else (r.handles.get? handle).map fun target => some (target ++ suffix)

/-- Where a node stands, which decides what can be one there. -/
inductive Setting where
  /-- In a block. -/
  | block
  /-- In a block mapping, where the entries of a sequence need not be indented. -/
  | entry
  /-- Inside brackets. -/
  | flow
  deriving DecidableEq

mutual
/-- Reads a node. -/
def readNode : Nat → Setting → Reader → Option (Node × Reader)
  | 0, _, _ => none
  | fuel + 1, setting, r =>
    match r.head? with
    | some (.alias name) => (r.alias? name).map (·, r.skip)
    | _ =>
      let (props, r) := properties r
      match resolveTag? r props.tag with
      | none => none
      | some tag =>
        match props.anchor with
        | none => readContent fuel setting tag (props.tag.isSome) r
        | some name =>
          let i := r.count
          let r := { r with anchors := r.anchors.insert name i, count := i + 1 }
          (readContent fuel setting tag true r).map fun p =>
            (p.1, { p.2 with named := p.2.named.insert i p.1 })

/-- Reads what stands after the properties of a node; with properties it may be nothing. -/
def readContent : Nat → Setting → Option String → Bool → Reader → Option (Node × Reader)
  | 0, _, _, _, _ => none
  | fuel + 1, setting, tag, hasProperties, r =>
    let empty : Option (Node × Reader) :=
      if hasProperties then some (.scalar "" true tag, r) else none
    match r.head? with
    | some .blockEntry => if setting = .entry then readEntries fuel [] r else empty
    | some (.scalar text plain) => some (.scalar text plain tag, r.skip)
    | some .flowSequenceStart => readFlowSequence fuel true [] r.skip
    | some .flowMappingStart => readFlowMapping fuel true [] r.skip
    | some .blockSequenceStart => if setting = .flow then empty else readSequence fuel [] r.skip
    | some .blockMappingStart => if setting = .flow then empty else readMapping fuel [] r.skip
    | _ => empty

/-- Reads a node unless one of the given tokens comes next, in which case nothing is written. -/
def readUnless : Nat → List Token → Setting → Reader → Option (Node × Reader)
  | 0, _, _, _ => none
  | fuel + 1, ts, setting, r =>
    if r.atAny ts then some (.absent, r) else readNode fuel setting r

/-- Reads the items of a block sequence; those read so far come last first. -/
def readSequence : Nat → List Node → Reader → Option (Node × Reader)
  | 0, _, _ => none
  | fuel + 1, items, r =>
    match r.head? with
    | some .blockEntry =>
      match readUnless fuel [.blockEntry, .blockEnd] .block r.skip with
      | none => none
      | some (n, r) => readSequence fuel (n :: items) r
    | some .blockEnd => some (.sequence items.reverse, r.skip)
    | _ => none

/-- Reads the items of a sequence that is not indented in its mapping. -/
def readEntries : Nat → List Node → Reader → Option (Node × Reader)
  | 0, _, _ => none
  | fuel + 1, items, r =>
    match r.head? with
    | some .blockEntry =>
      match readUnless fuel [.blockEntry, .key, .value, .blockEnd] .block r.skip with
      | none => none
      | some (n, r) => readEntries fuel (n :: items) r
    | _ => some (.sequence items.reverse, r)

/-- Reads the entries of a block mapping. -/
def readMapping : Nat → List (Node × Node) → Reader → Option (Node × Reader)
  | 0, _, _ => none
  | fuel + 1, entries, r =>
    match r.head? with
    | some .key =>
      match readUnless fuel [.key, .value, .blockEnd] .entry r.skip with
      | none => none
      | some (k, r) =>
        if r.atAny [.value] then
          match readUnless fuel [.key, .value, .blockEnd] .entry r.skip with
          | none => none
          | some (v, r) => readMapping fuel ((k, v) :: entries) r
        else readMapping fuel ((k, .absent) :: entries) r
    | some .blockEnd => some (.mapping entries.reverse, r.skip)
    | _ => none

/-- Reads the items of a sequence in brackets. A key among them makes a mapping of one entry. -/
def readFlowSequence : Nat → Bool → List Node → Reader → Option (Node × Reader)
  | 0, _, _, _ => none
  | fuel + 1, first, items, r =>
    if r.atAny [.flowSequenceEnd] then some (.sequence items.reverse, r.skip)
    else
      match (if first then some r else r.expect? .flowEntry) with
      | none => none
      | some r =>
        if r.atAny [.key] then
          let r := r.skip
          let pastKey :=
            if r.atAny [.value, .flowEntry, .flowSequenceEnd] then some (Node.absent, r.skip)
            else readNode fuel .flow r
          match pastKey with
          | none => none
          | some (k, r) =>
            match readFlowValue fuel [.flowEntry, .flowSequenceEnd] r with
            | none => none
            | some (v, r) => readFlowSequence fuel false (.mapping [(k, v)] :: items) r
        else if r.atAny [.flowSequenceEnd] then some (.sequence items.reverse, r.skip)
        else
          match readNode fuel .flow r with
          | none => none
          | some (n, r) => readFlowSequence fuel false (n :: items) r

/-- Reads the value of an entry inside brackets, if a colon comes next. -/
def readFlowValue : Nat → List Token → Reader → Option (Node × Reader)
  | 0, _, _ => none
  | fuel + 1, ends, r =>
    if r.atAny [.value] then readUnless fuel ends .flow r.skip else some (.absent, r)

/-- Reads the entries of a mapping in braces. -/
def readFlowMapping : Nat → Bool → List (Node × Node) → Reader → Option (Node × Reader)
  | 0, _, _, _ => none
  | fuel + 1, first, entries, r =>
    if r.atAny [.flowMappingEnd] then some (.mapping entries.reverse, r.skip)
    else
      match (if first then some r else r.expect? .flowEntry) with
      | none => none
      | some r =>
        if r.atAny [.key] then
          match readUnless fuel [.value, .flowEntry, .flowMappingEnd] .flow r.skip with
          | none => none
          | some (k, r) =>
            match readFlowValue fuel [.flowEntry, .flowMappingEnd] r with
            | none => none
            | some (v, r) => readFlowMapping fuel false ((k, v) :: entries) r
        else if r.atAny [.flowMappingEnd] then some (.mapping entries.reverse, r.skip)
        else
          match readNode fuel .flow r with
          | none => none
          | some (k, r) => readFlowMapping fuel false ((k, .absent) :: entries) r
end

/-- Reads the directives of a document: a version at most once, each handle at most once. -/
def directives? (r : Reader) (versioned : Bool) (seen : List String) :
    List Token → Option Reader
  | .version major minor :: rest =>
    if versioned || major != 1 || !(minor == 1 || minor == 2) then none
    else directives? r true seen rest
  | .tagHandle handle target :: rest =>
    if handle ∈ seen then none
    else
      let r := { r with handles := r.handles.insert handle target }
      directives? r versioned (handle :: seen) rest
  | rest => some { r with tokens := rest }

/-- Whether only ends of documents remain. -/
def atEnd (r : Reader) : Bool := r.tokens.all fun t => decide (t = .documentEnd)

/-- The root of the one document of a token list; nothing at all is written when there is no token.
After an end marker nothing but further ones may come. -/
def document? (tokens : List Token) : Option (Option Node) :=
  if tokens.isEmpty then some none
  else do
    let r ← directives? { tokens } false [] tokens
    let marked := decide (r.tokens.length < tokens.length) || r.atAny [.documentStart]
    let r ← if marked then r.expect? .documentStart else some r
    let nothing := r.tokens.isEmpty || r.atAny [.documentStart, .documentEnd]
    let (n, r) ←
      if marked && nothing then some (Node.absent, r)
      else readNode (4 * tokens.length + 4) .block r
    if atEnd r then some (some n) else none

/-- The node that a text writes, if it can be read; a text without any content has none. -/
def load? (text : String) : Option (Option Node) := do document? (← tokens? (← glyphs? text))

end Ingest.Yaml
