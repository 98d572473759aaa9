import Ingest.ClickHouse.Connection
import Ingest.ClickHouse.Store
import Ingest.CommandLine.Listening
import Ingest.CommandLine.Texts
import Ingest.Logging.Filter
import Ingest.Metrics.Endpoint
import Ingest.Service
import Ingest.Settings.Document
import Ingest.Store.Memory

/-!
The program from its arguments to its exit. A run reads its settings, listens for health requests,
connects to the store unless it is a dry one, starts the service, waits for a signal and stops the
service. The first step that fails ends the run with its error.
-/

namespace Ingest.CommandLine

/-- The signals that end the service. -/
inductive StopSignal where
  | terminate
  | interrupt
  deriving DecidableEq, Repr

def StopSignal.name : StopSignal → String
  | terminate => "SIGTERM"
  | interrupt => "SIGINT"

/-- What a run finds around it. -/
structure Surroundings where
  /-- The text of a file, if there is one of that name. -/
  file : String → Option String
  network : ClickHouse.Network
  /-- The server to be found at the configured endpoint. -/
  script : ClickHouse.Script := {}
  /-- The signal that will end the service. -/
  signal : StopSignal := .terminate
  /-- The address that the health endpoint comes to listen on. -/
  healthAddress : String

/-- What is seen of a run. -/
structure Outcome where
  exit : Nat
  stdout : String := ""
  stderr : String := ""
  logs : List LogLine := []
  sql : List String := []

/-- A run that failed or came to its end, with what it logged and sent. -/
structure Trace where
  /-- The causes of the failure, outermost first; none if the run succeeded. -/
  failure : List String := []
  logs : List LogLine := []
  sent : List ClickHouse.Query := []

/-- The parts of the program that log. -/
def mainTarget : String := "apm_ingest"
def healthTarget : String := mainTarget ++ "::export::health"
def flushTarget : String := mainTarget ++ "::flush"
def pipelineTarget : String := mainTarget ++ "::pipeline"
def statementTarget : String := mainTarget ++ "::store::statement_cache"
def clickhouseTarget : String := mainTarget ++ "::store::clickhouse"

def truthText (b : Bool) : String := if b then "true" else "false"

/-- What is logged when the service has started. -/
def startLines (s : Settings) : List LogLine :=
  let interval := s.clickhouse.effectiveFlushInterval.text
  [.info pipelineTarget ("pipeline started multi_tenant=" ++ truthText s.tenancy.enabled
      ++ " flush_interval=" ++ interval),
    .info flushTarget ("flusher started interval=" ++ interval)]

/-- What is logged on the way from a signal to the end. -/
def stopLines (signal : StopSignal) (report : FlushReport) (closed : Nat) : List LogLine :=
  [.info mainTarget ("received " ++ signal.name ++ ", shutting down"),
    .info flushTarget ("final flush complete written=" ++ report.rowsWritten.repr ++ " lost="
      ++ report.rowsLost.repr),
    .info statementTarget ("statement cache closed closed=" ++ closed.repr),
    .info pipelineTarget "pipeline stopped",
    .info mainTarget "apm-ingest stopped"]

/-- Starts the service in front of a store, waits for the signal and stops it. -/
def serve {σ : Type} (b : Backend σ) (settings : Settings) (store : σ) (signal : StopSignal) :
    List String × List LogLine × σ :=
  let service : Service σ := .new settings store 0
  match service.start b with
  | (.error e, service) => (e.causes, [], service.core.sink.store)
  | (.ok _, service) =>
    let (report, flushed) := service.core.flush b
    let closed := flushed.sink.statements.size
    ([], startLines settings ++ stopLines signal report closed, flushed.closeStatements.sink.store)

/-- What is logged when a database has been made ready; how many tables it has is what the server
listed last. -/
def initLines (store : ClickHouse.Store) (settings : Settings) (failure : List String) :
    List LogLine :=
  if settings.tenancy.enabled || !failure.isEmpty then []
  else
    let database := settings.clickhouse.database
    match store.server.answer [] (.listTables database) with
    | .ok tables =>
      [.info clickhouseTarget ("database initialized database=" ++ database ++ " tables="
        ++ tables.eraseDups.length.repr)]
    | .error _ => []

/-- Connects to the server and serves. -/
def serveClickHouse (around : Surroundings) (settings : Settings) : Trace :=
  let c := settings.clickhouse
  match ClickHouse.connect around.network c around.script with
  | .error e => { failure := "connecting to ClickHouse" :: e.causes }
  | .ok _ =>
    let store : ClickHouse.Store := ⟨c, around.script.server⟩
    let (failure, logs, sent) := serve store.backend settings [] around.signal
    let connected := LogLine.info clickhouseTarget
      ("ClickHouse connected endpoint=" ++ c.endpoint ++ " database=" ++ c.database)
    { failure, logs := connected :: initLines store settings failure ++ logs, sent }

/-- Serves without writing anything. -/
def serveDry (around : Surroundings) (settings : Settings) : Trace :=
  let (failure, logs, _) := serve MemoryStore.backend settings { dryRun := true } around.signal
  { failure, logs }

/-- Runs with settings that have been read. -/
def runWith (around : Surroundings) (settings : Settings) (dryRun : Bool) : Trace :=
  let begun := LogLine.info mainTarget
    ("starting apm-ingest version=" ++ versionText ++ " dry_run=" ++ truthText dryRun)
  let address := bindAddress settings.health.addr
  match listen address with
  | .error e =>
    { failure := ["starting health server", "listening on " ++ address, e.message], logs := [begun] }
  | .ok _ =>
    let listening := LogLine.info healthTarget
      ("health server listening addr=" ++ around.healthAddress)
    let served := if dryRun then serveDry around settings else serveClickHouse around settings
    { served with logs := begun :: listening :: served.logs }

/-- Why settings could not be loaded from a path, outermost cause first. -/
def loadCauses (path : String) : Settings.LoadError → List String
  | .unreadable => ["reading config file " ++ path, "No such file or directory (os error 2)"]
  | .malformed => ["parsing config file " ++ path]
  | .invalid fault => [fault.message]

/-- A run that failed before anything was logged. -/
def failed (causes : List String) : Outcome := { exit := 1, stderr := errorReport causes }

/-- Runs the service. -/
def runService (around : Surroundings) (i : Invocation) : Outcome :=
  match i.config with
  | none => failed ["--config is required (use --help for usage)"]
  | some path =>
    match Settings.load (around.file path) with
    | .error e => failed (("loading config from " ++ path) :: loadCauses path e)
    | .ok settings =>
      let level := i.logLevel.getD settings.logLevel
      match LogFilter.parse level with
      | .error e => failed (("invalid log level: " ++ level) :: e.causes)
      | .ok filter =>
        let trace := runWith around settings i.dryRun
        { exit := if trace.failure.isEmpty then 0 else 1
          stderr := errorReport trace.failure
          logs := trace.logs.filter fun l => filter.allows l.level l.target
          sql := trace.sent.map ClickHouse.Query.text }

/-- Runs the program. -/
def run (around : Surroundings) (args : List String) : Outcome :=
  match parse args with
  | .error e => { exit := 2, stderr := "error: " ++ e.message }
  | .ok (.help topic) => { exit := 0, stdout := topic.text }
  | .ok .version => { exit := 0, stdout := programName ++ " " ++ versionText }
  | .ok (.run i) => runService around i

end Ingest.CommandLine
