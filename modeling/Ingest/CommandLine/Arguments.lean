/-!
The arguments of the program. Options come in front of a subcommand; an option that takes a value
takes it from behind an equals sign, from the rest of its letter group or from the next argument. An
error of the next argument is found before one of an option that still waits for its end.
-/

namespace Ingest.CommandLine

/-- What a run of the service was asked for. -/
structure Invocation where
  config : Option String := none
  logLevel : Option String := none
  dryRun : Bool := false
  deriving DecidableEq, Repr

/-- What can be explained. -/
inductive Topic where
  | program
  | version
  | help
  deriving DecidableEq, Repr

/-- What the arguments ask for. -/
inductive Request where
  | help (topic : Topic)
  | version
  | run (invocation : Invocation)
  deriving DecidableEq, Repr

/-- The options that take a value. -/
inductive Setting where
  | config
  | logLevel
  deriving DecidableEq, Repr

/-- An option as usage messages name it. -/
def Setting.name : Setting → String
  | config => "--config <CONFIG>"
  | logLevel => "--log-level <LOG_LEVEL>"

inductive UsageError where
  | noValue (option : String)
  | repeated (option : String)
  | unexpectedValue (value option : String)
  | unexpectedArgument (argument : String)
  | unknownSubcommand (argument : String)
  deriving DecidableEq, Repr

def UsageError.message : UsageError → String
  | noValue option => "a value is required for '" ++ option ++ "' but none was supplied"
  | repeated option => "the argument '" ++ option ++ "' cannot be used multiple times"
  | unexpectedValue value option =>
    "unexpected value '" ++ value ++ "' for '" ++ option ++ "' found; no more were expected"
  | unexpectedArgument argument => "unexpected argument '" ++ argument ++ "' found"
  | unknownSubcommand argument => "unrecognized subcommand '" ++ argument ++ "'"

/-- How the arguments end the program before it runs. -/
inductive Stop where
  | help (topic : Topic)
  | usage (error : UsageError)
  deriving DecidableEq, Repr

/-- The options read so far, and the one that was begun last and is not yet entered. -/
structure Parsed where
  invocation : Invocation := {}
  pending : Option (Setting × Option String) := none

namespace Parsed

/-- Enters an option with its value. A path may not be empty. -/
def enter (i : Invocation) (s : Setting) (value : Option String) : Except UsageError Invocation :=
  match value with
  | none => .error (.noValue s.name)
  | some v =>
    match s with
    | .config =>
      if i.config.isSome then .error (.repeated s.name)
      else if v.isEmpty then .error (.noValue s.name)
      else .ok { i with config := some v }
    | .logLevel =>
      if i.logLevel.isSome then .error (.repeated s.name) else .ok { i with logLevel := some v }

/-- Enters the option that is pending. -/
def settle (p : Parsed) : Except Stop Parsed :=
  match p.pending with
  | none => .ok p
  | some (s, value) =>
    match enter p.invocation s value with
    | .ok i => .ok ⟨i, none⟩
    | .error e => .error (.usage e)

/-- Begins an option with a value, or without one so far. -/
def opened (p : Parsed) (s : Setting) (value : Option String) : Except Stop Parsed :=
  (p.settle).map fun p => { p with pending := some (s, value) }

def setDryRun (p : Parsed) : Except Stop Parsed := do
  let p ← p.settle
  if p.invocation.dryRun then throw (.usage (.repeated "--dry-run"))
  return { p with invocation := { p.invocation with dryRun := true } }

end Parsed

/-- A long option: its name and the value behind an equals sign. -/
def splitLong (cs : List Char) : String × Option String :=
  let name := cs.takeWhile (· != '=')
  match cs.dropWhile (· != '=') with
  | [] => (String.ofList name, none)
  | _ :: value => (String.ofList name, some (String.ofList value))

/-- An option that takes no value may not be given one. -/
def noValueFor (option : String) (value : Option String) : Except Stop Unit :=
  match value with
  | none => .ok ()
  | some v => .error (.usage (.unexpectedValue v option))

/-- Reads a long option, given without its dashes. -/
def long (p : Parsed) (cs : List Char) : Except Stop Parsed :=
  let (name, value) := splitLong cs
  if name = "config" then p.opened .config value
  else if name = "log-level" then p.opened .logLevel value
  else if name = "dry-run" then do
    noValueFor "--dry-run" value
    p.setDryRun
  else if name = "help" then do
    noValueFor "--help" value
    let _ ← p.settle
    throw (.help .program)
  else throw (.usage (.unexpectedArgument ("--" ++ name)))

/-- Reads a group of short options, given without its dash. -/
def short (p : Parsed) (cs : List Char) : Except Stop Parsed :=
  match cs with
  | 'c' :: [] => p.opened .config none
  | 'c' :: '=' :: value => p.opened .config (some (String.ofList value))
  | 'c' :: value => p.opened .config (some (String.ofList value))
  | 'h' :: _ => do
    let _ ← p.settle
    throw (.help .program)
  | c :: _ => throw (.usage (.unexpectedArgument ("-" ++ String.singleton c)))
  | [] => .ok p

/-- Reads the arguments after the subcommand `version`, which only has an option for help. -/
def versionArguments (escaped : Bool) : List String → Except Stop Unit
  | [] => .ok ()
  | a :: rest =>
    if escaped then throw (.usage (.unexpectedArgument a))
    else
      match a.toList with
      | ['-', '-'] => versionArguments true rest
      | '-' :: '-' :: cs =>
        let (name, value) := splitLong cs
        if name = "help" then do
          noValueFor "--help" value
          throw (.help .version)
        else throw (.usage (.unexpectedArgument ("--" ++ name)))
      | '-' :: 'h' :: _ => throw (.help .version)
      | '-' :: c :: _ => throw (.usage (.unexpectedArgument ("-" ++ String.singleton c)))
      | _ => throw (.usage (.unexpectedArgument a))

/-- What the arguments after the subcommand `help` ask to have explained. -/
def helpTopic : List String → Except Stop Topic
  | [] => .ok .program
  | [a] =>
    if a = "version" then .ok .version
    else if a = "help" then .ok .help
    else .error (.usage (.unknownSubcommand a))
  | a :: b :: _ =>
    if a = "version" || a = "help" then .error (.usage (.unknownSubcommand b))
    else .error (.usage (.unknownSubcommand a))

def isSubcommand (a : String) : Bool := a = "version" || a = "help"

/-- Reads arguments; after a double dash none is an option any more. -/
def read (escaped : Bool) (p : Parsed) : List String → Except Stop Request
  | [] => (p.settle).map fun p => .run p.invocation
  | a :: rest =>
    if escaped then
      throw (.usage (if isSubcommand a then .unexpectedArgument a else .unknownSubcommand a))
    else
      let plain : Except Stop Request :=
        match p.pending with
        | some (s, none) => read false { p with pending := some (s, some a) } rest
        | _ =>
          if a = "version" then do
            versionArguments false rest
            let _ ← p.settle
            return .version
          else if a = "help" then do throw (.help (← helpTopic rest))
          else throw (.usage (.unknownSubcommand a))
      match a.toList with
      | ['-', '-'] => read true p rest
      | '-' :: '-' :: cs => do read false (← long p cs) rest
      | '-' :: c :: cs => do read false (← short p (c :: cs)) rest
      | _ => plain

/-- What a list of arguments asks for. -/
def parse (args : List String) : Except UsageError Request :=
  match read false {} args with
  | .ok request => .ok request
  | .error (.help topic) => .ok (.help topic)
  | .error (.usage e) => .error e

end Ingest.CommandLine
