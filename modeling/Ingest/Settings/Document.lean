import Ingest.Settings.Format
import Ingest.Settings.Validation
import Ingest.Yaml.Node

/-!
Settings as a YAML document. A section is a mapping in which a known name comes once at most. A
section, list or map of which nothing is written is the empty one. A text may be any scalar; a number
or a truth value has to be written without quotes.
-/

namespace Ingest

namespace Yaml.Node

/-- The text of a scalar, however it is written. -/
def text? : Node → Option String
  | scalar text _ _ => some text
  | _ => none

/-- The text of a scalar without quotes. -/
def plain? : Node → Option String
  | scalar text true _ => some text
  | _ => none

def isNothing (n : Node) : Bool := n.plain? == some ""

/-- A truth value. -/
def truth? (n : Node) : Option Bool :=
  n.plain?.bind fun s =>
    if s ∈ ["true", "True", "TRUE"] then some true
    else if s ∈ ["false", "False", "FALSE"] then some false
    else none

/-- The value of digits in a base, at least one of them. -/
def digits? (base : Nat) (cs : List Char) : Option Nat :=
  if cs.isEmpty then none
  else
    cs.foldlM (fun n c =>
      (Text.hexDigit? c).bind fun d => if d < base then some (n * base + d) else none) 0

/-- An unsigned number: decimal without leading zeros, or in another base after its prefix, with an
optional plus sign in front. -/
def unsigned? (s : String) : Option Nat :=
  let cs := match s.toList with
    | '+' :: rest => rest
    | cs => cs
  match cs with
  | '0' :: 'x' :: rest => digits? 16 rest
  | '0' :: 'o' :: rest => digits? 8 rest
  | '0' :: 'b' :: rest => digits? 2 rest
  | '0' :: _ :: _ => none
  | cs => digits? 10 cs

/-- An unsigned number below a bound. -/
def number? (bound : Nat) (n : Node) : Option Nat :=
  n.plain?.bind fun s => (unsigned? s).bind fun k => if k < bound then some k else none

/-- The tag that marks a scalar as no value. -/
def nullTag : String := "tag:yaml.org,2002:null"

/-- A text that may be left out: nothing written, or one of the words for no value. -/
def optionalText? : Node → Option (Option String)
  | scalar text plain tag =>
    let isNull := text ∈ ["null", "Null", "NULL", "~"]
    if !plain then some (some text)
    else if tag == some nullTag then (if isNull then some none else none)
    else if tag.isNone && (text.isEmpty || isNull) then some none
    else some (some text)
  | _ => none

/-- The items of a list. -/
def items? : Node → Option (List Node)
  | sequence items => some items
  | n => if n.isNothing then some [] else none

/-- The entries of a mapping. -/
def entries? : Node → Option (List (Node × Node))
  | mapping entries => some entries
  | n => if n.isNothing then some [] else none

/-- A map from texts to texts; of two entries with one key the later wins. -/
def textMap? (n : Node) : Option (Keyed String String) := do
  let pairs ← (← n.entries?).mapM fun e => do return (← e.1.text?, ← e.2.text?)
  return Keyed.ofList pairs

/-- The named entries of a section of which the given names are known. -/
def fields? (known : List String) (n : Node) : Option (Keyed String Node) := do
  let named ← (← n.entries?).mapM fun e => e.1.text?.map fun k => (k, e.2)
  let mine := named.filter fun e => decide (e.1 ∈ known)
  if h : (mine.map Prod.fst).Nodup then some ⟨mine, h⟩ else none

/-- Documents in YAML. -/
def format : Format Node where
  text := text?
  number := number?
  truth := truth?
  optionalText := optionalText?
  items := items?
  textMap := textMap?
  fields := fields?

end Yaml.Node

namespace Settings

/-- The settings that a text writes; a text without content writes none. -/
def ofText? (text : String) : Option Settings :=
  (Yaml.load? text).bind fun root => Yaml.Node.format.settings? (root.getD .absent)

/-- Why settings could not be loaded. -/
inductive LoadError where
  /-- There is no such file. -/
  | unreadable
  /-- The text is not a YAML document of settings. -/
  | malformed
  | invalid (fault : SettingsFault)
  deriving DecidableEq, Repr

/-- The settings of a file, given its text if there is such a file: read and then validated. -/
def load (text : Option String) : Except LoadError Settings :=
  match text with
  | none => .error .unreadable
  | some text =>
    match ofText? text with
    | none => .error .malformed
    | some s =>
      match s.validate with
      | .error fault => .error (.invalid fault)
      | .ok () => .ok s

end Settings

end Ingest
