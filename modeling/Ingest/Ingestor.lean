import Ingest.Flush
import Ingest.Metrics.Client
import Ingest.Signal
import Ingest.TraceCache

/-!
The core of the service: what requests of agents and operators do to its caches, signals and
counters. With a single tenant the tenant of a request is forgotten at the door. A request for a
tenant whose database cannot be made ready fails, and leaves the caches as they were. How long things
take, in which order caches and tallies are visited and how texts are hashed is left to the
environment.
-/

namespace Ingest

/-- What a service meets and does not choose. -/
structure Environment where
  /-- How long each use of the statements takes, in nanoseconds. -/
  pace : Nat → Nat := fun _ => 2
  /-- In which order each flush visits the caches. -/
  cacheOrder : Nat → List Tenant := fun _ => []
  /-- In which order each collection visits what is counted of signals. -/
  tallyOrder : Nat → List (AgentNode × SlowEndpoint) := fun _ => []
  /-- How the series of a metric are told apart. -/
  hash : String → UInt64 := Text.digest

/-- What has been counted of the service itself. -/
structure ServiceCounters where
  recordsAppended : KindTally := Keyed.empty
  flushes : Nat := 0
  /-- The number of caches when the last flush ended. -/
  tenants : Nat := 0

structure Ingestor (σ : Type) where
  settings : Settings
  registry : Registry
  sink : Sink σ
  signals : SignalBoard := {}
  traces : TraceCache
  /-- The metrics of client calls, if they are wanted. -/
  clients : Option ClientMetrics
  counters : ServiceCounters := {}

namespace Ingestor

variable {σ : Type}

/-- A service in front of a store, with nothing received yet. -/
def new (settings : Settings) (store : σ) (env : Environment := {}) : Ingestor σ where
  settings
  registry := .empty settings.clickhouse settings.tenancy.enabled env.cacheOrder
  sink := {
    store
    statements := { idleTimeout := settings.statementCache.idleTimeout }
    pace := env.pace }
  signals := { order := env.tallyOrder }
  traces := { capacity := settings.tenancy.traceCacheSize }
  clients :=
    if settings.clientMetric.enabled then
      some { withUrl := settings.clientMetric.withUrl, hash := env.hash }
    else none

/-- The tenant under which a request's tenant is known here. -/
def scope (s : Ingestor σ) (t : Tenant) : Tenant := s.registry.scope t

/-- Makes sure that a tenant has a cache. -/
def openCache (b : Backend σ) (s : Ingestor σ) (t : Tenant) :
    Except TenantInitError Unit × Ingestor σ :=
  match s.registry.enroll b t s.sink.store with
  | (.error refusal, store) =>
    (.error refusal.error,
      { s with registry := refusal.registry, sink := { s.sink with store } })
  | (.ok registry, store) => (.ok (), { s with registry, sink := { s.sink with store } })

/-- Puts events into a tenant's cache, which is made if need be. -/
def deposit (b : Backend σ) (s : Ingestor σ) (t : Tenant) (es : List Event) :
    Except TenantInitError Unit × Ingestor σ :=
  match s.openCache b t with
  | (.ok _, s) => (.ok (), { s with registry := s.registry.append t es })
  | failed => failed

def countAppended (s : Ingestor σ) (k : Kind) (n : Nat) : Ingestor σ :=
  { s with counters := { s.counters with
      recordsAppended := KindTally.add s.counters.recordsAppended k n } }

/-- Takes in events of one kind; none are nothing to do. -/
def append (b : Backend σ) (s : Ingestor σ) (t : Tenant) (k : Kind) (es : List Event) :
    Except TenantInitError Unit × Ingestor σ :=
  if es.isEmpty then (.ok (), s)
  else
    match s.deposit b t es with
    | (.ok _, s) => (.ok (), s.countAppended k es.length)
    | failed => failed

/-- Takes in a signal. -/
def addSignal (s : Ingestor σ) (x : Signal) : Ingestor σ :=
  { s with signals := s.signals.add { x with tenant := s.scope x.tenant } }

/-- Says what the agent of a node is to switch. -/
def querySwitches (s : Ingestor σ) (t : Tenant) (ip : String) : Switches × Ingestor σ :=
  let (switches, signals) := s.signals.query ⟨s.scope t, ip⟩
  (switches, { s with signals })

/-- Hands out the profile requests for a node. -/
def takeRequests (s : Ingestor σ) (t : Tenant) (ip : String) :
    List ProfileRequest × Ingestor σ :=
  let (requests, signals) := s.signals.take ⟨s.scope t, ip⟩
  (requests, { s with signals })

/-- Remembers the tenant of a trace. -/
def storeTrace (s : Ingestor σ) (traceId : String) (t : Tenant) : Ingestor σ :=
  { s with traces := s.traces.store traceId (s.scope t) }

/-- Marks a trace as used. -/
def touchTrace (s : Ingestor σ) (traceId : String) : Ingestor σ :=
  { s with traces := s.traces.touch traceId }

/-- Puts groups of metrics into the caches of their tenants, up to the first that fails. -/
def depositMetrics (b : Backend σ) (s : Ingestor σ) :
    List (Tenant × List ReportMetric) → Except TenantInitError Unit × Ingestor σ
  | [] => (.ok (), s)
  | (t, ms) :: groups =>
    match s.deposit b t (ms.map .reportMetric) with
    | (.ok _, s) => depositMetrics b s groups
    | failed => failed

/-- Collects everything counted of signals into metrics; how many there are. -/
def collect (b : Backend σ) (s : Ingestor σ) (now : UInt64) :
    Except TenantInitError Nat × Ingestor σ :=
  let (groups, signals) := s.signals.collect now
  let n := (groups.map fun g => g.2.length).sum
  match depositMetrics b { s with signals } groups with
  | (.error e, s) => (.error e, s)
  | (.ok _, s) => (.ok n, if n > 0 then s.countAppended .reportMetric n else s)

/-- Counts the client calls in drained caches. -/
def observeClients (s : Ingestor σ) (caches : List TenantCache) : Ingestor σ :=
  { s with clients := s.clients.map fun m =>
      caches.foldl (fun m c => m.observeEvents c.tenant.accountId c.pending) m }

/-- Writes everything that waits in the caches. -/
def flush (b : Backend σ) (s : Ingestor σ) : FlushReport × Ingestor σ :=
  let caches := s.registry.snapshot
  let (report, sink) := Ingest.flush b s.settings.clickhouse.exportServiceClient caches s.sink
  let registry := s.registry.drained
  let counters := { s.counters with
    flushes := s.counters.flushes + 1, tenants := registry.tenantCount }
  (report, { s with registry, sink, counters }.observeClients caches)

/-- Closes and drops the idle statements. -/
def sweep (s : Ingestor σ) : Ingestor σ := { s with sink := s.sink.sweep }

/-- Closes every statement. -/
def closeStatements (s : Ingestor σ) : Ingestor σ := { s with sink := s.sink.closeAll }

/-- Closes the statement that is cached for a table, from outside; whether there was one. -/
def closeStatement (s : Ingestor σ) (database : String) (k : Kind) : Bool × Ingestor σ :=
  match s.sink.lookup ⟨database, k.table⟩ with
  | (none, sink) => (false, { s with sink })
  | (some id, sink) => (true, { s with sink := { sink with statements := sink.statements.close id } })

/-- Why the service could not be started. -/
structure StartError where
  database : String
  cause : InitError

/-- The error and what it rests on, outermost first. -/
def StartError.causes (e : StartError) : List String :=
  ("initializing database " ++ e.database) :: e.cause.causes

/-- Makes the database of a single tenant ready. -/
def prepareDatabase (b : Backend σ) (s : Ingestor σ) : Except StartError Unit × Ingestor σ :=
  if s.registry.multiTenant then (.ok (), s)
  else
    let database := s.registry.databaseFor .none
    match b.initDatabase s.sink.store database with
    | (.error cause, store) => (.error ⟨database, cause⟩, { s with sink := { s.sink with store } })
    | (.ok _, store) => (.ok (), { s with sink := { s.sink with store } })

end Ingestor

end Ingest
