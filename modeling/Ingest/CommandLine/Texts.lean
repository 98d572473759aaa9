import Ingest.CommandLine.Arguments

/-!
What the program prints about itself.
-/

namespace Ingest.CommandLine

def programName : String := "apm-ingest"

/-- The version of the program, with what it was built from and for. -/
def versionText : String := "0.1.0 (commit: unknown, linux/x86_64)"

/-- The explanation of a topic. -/
def Topic.text : Topic → String
  | program =>
    "Multi-tenant APM telemetry ingestion service\n\nUsage: apm-ingest [OPTIONS] [COMMAND]\n\n"
      ++ "Commands:\n  version  Print version information and exit\n"
      ++ "  help     Print this message or the help of the given subcommand(s)\n\n"
      ++ "Options:\n  -c, --config <CONFIG>        Path to the YAML configuration file\n"
      ++ "      --log-level <LOG_LEVEL>  Logging verbosity level (trace, debug, info, warn, error). "
      ++ "Overrides \x60log_level\x60 from the config file\n"
      ++ "      --dry-run                Log batches instead of writing them to ClickHouse\n"
      ++ "  -h, --help                   Print help"
  | version =>
    "Print version information and exit\n\nUsage: apm-ingest version\n\nOptions:\n"
      ++ "  -h, --help  Print help"
  | help =>
    "Print this message or the help of the given subcommand(s)\n\n"
      ++ "Usage: apm-ingest help [COMMAND]...\n\nArguments:\n"
      ++ "  [COMMAND]...  Print help for the subcommand(s)"

/-- A text with its further lines indented. -/
def indentLines (indent : String) (text : String) : String :=
  String.ofList (text.toList.flatMap fun c => if c = '\n' then '\n' :: indent.toList else [c])

/-- A cause with its number, which lines up in five columns. -/
def numberedCause (cause : String × Nat) : String :=
  let number := cause.2.repr
  String.ofList (List.replicate (5 - number.length) ' ') ++ number ++ ": "
    ++ indentLines "       " cause.1

/-- An error with what it rests on, outermost first: several causes are numbered. -/
def errorReport : List String → String
  | [] => ""
  | [e] => "Error: " ++ e ++ "\n"
  | [e, cause] => "Error: " ++ e ++ "\n\nCaused by:\n    " ++ indentLines "    " cause ++ "\n"
  | e :: causes =>
    "Error: " ++ e ++ "\n\nCaused by:\n" ++ "\n".intercalate (causes.zipIdx.map numberedCause) ++ "\n"

end Ingest.CommandLine
