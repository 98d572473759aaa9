import Ingest.Metrics.Health

/-!
The health endpoint: the address it listens on, and its answers. The metrics are served in the text
format for scrapers; of it, the lines that depend on a clock (the buckets and the sum of flush
durations) or on rounding (the sums of latencies) are not written here.
-/

namespace Ingest

/-- The address to listen on: one without a host stands for all interfaces, an empty one for the
usual address. -/
def bindAddress (addr : String) : String :=
  if addr.isEmpty then "0.0.0.0:9090"
  else if addr.startsWith ":" then "0.0.0.0" ++ addr
  else addr

namespace Series

/-- A label value with its special characters escaped. -/
def escapeLabel (s : String) : String :=
  String.ofList (s.toList.flatMap fun c =>
    if c = '\\' then ['\\', '\\']
    else if c = '"' then ['\\', '"']
    else if c = '\n' then ['\\', 'n']
    else [c])

/-- Labels in braces; none are written as nothing. -/
def labelText (labels : List (String × String)) : String :=
  if labels.isEmpty then ""
  else
    "\x7b" ++ ",".intercalate (labels.map fun l => l.1 ++ "=\"" ++ escapeLabel l.2 ++ "\"") ++ "\x7d"

/-- One line of a sample. -/
def line (name : String) (labels : List (String × String)) (n : Nat) : String :=
  name ++ labelText labels ++ " " ++ n.repr

/-- The bound of a bucket, in seconds. -/
def boundText (nanos : Nat) : String :=
  let d : Duration := ⟨nanos⟩
  Duration.decimals d.seconds d.subsecond 9

def lines (name : String) (s : Series) : List String :=
  match s.sample with
  | .number n => [line name s.labels n]
  | .timings n => [line (name ++ "_count") s.labels n]
  | .histogram h =>
    ((latencyBounds.zip h.buckets).map fun b =>
      line (name ++ "_bucket") (s.labels ++ [("le", boundText b.1)]) b.2)
      ++ [line (name ++ "_bucket") (s.labels ++ [("le", "+Inf")]) h.count,
        line (name ++ "_count") s.labels h.count]

end Series

namespace FamilyKind

def text : FamilyKind → String
  | counter => "counter"
  | gauge => "gauge"
  | histogram => "histogram"

end FamilyKind

/-- The lines of a family; one without series has none. -/
def Family.lines (f : Family) : List String :=
  if f.series.isEmpty then []
  else
    ("# HELP " ++ f.name ++ " " ++ f.help) :: ("# TYPE " ++ f.name ++ " " ++ f.kind.text)
      :: f.series.flatMap (Series.lines f.name)

/-- An answer of the endpoint. -/
structure HealthResponse where
  status : Nat
  body : List String
  deriving DecidableEq, Repr

/-- Answers a request. Only reading is allowed, and asking for the head alone gives no body. -/
def respond (families : List Family) (method path : String) : HealthResponse :=
  let body? : Option (List String) :=
    if path = "/metrics" then some (families.flatMap Family.lines)
    else if path = "/healthz" then some ["ok"]
    else none
  match body? with
  | none => ⟨404, []⟩
  | some body =>
    if method = "GET" then ⟨200, body⟩
    else if method = "HEAD" then ⟨200, []⟩
    else ⟨405, []⟩

end Ingest
