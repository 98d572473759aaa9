import Ingest.Duration
import Ingest.Keyed
import Ingest.Kind

/-!
The settings of the service, their defaults, and what they say of one table. Validation and reading
from a file stand in modules of their own.
-/

namespace Ingest

/-- Days that rows of the named tables are kept. -/
structure TtlOverride where
  tables : List String
  ttlDays : Nat
  deriving DecidableEq, Repr

/-- The expression by which rows of the named tables are spread over a cluster. -/
structure HashOverride where
  tables : List String
  hash : String
  deriving DecidableEq, Repr

/-- The store to write to, its databases and tables. -/
structure ClickHouseSettings where
  endpoint : String := ""
  /-- The database of a service for a single tenant. -/
  database : String := "apo"
  username : String := ""
  password : String := ""
  cluster : Option String := none
  flushInterval : Duration := .ofSeconds 5
  ttlDays : Nat := 7
  ttl : List TtlOverride := []
  hash : List HashOverride := []
  /-- Databases of single tenants, by tenant id. -/
  tenantDbMap : Keyed String String := .empty
  /-- How the database of any other tenant is named; empty for the built-in rule. -/
  tenantDbPattern : String := ""
  exportServiceClient : Bool := false

structure TenancySettings where
  /-- Whether each tenant has its own database. -/
  enabled : Bool := false
  traceCacheSize : Nat := 10000

structure ClientMetricSettings where
  enabled : Bool := false
  /-- Whether the entry url is a label of the metrics. -/
  withUrl : Bool := false

structure SignalSettings where
  collectInterval : Duration := .ofSeconds 60

structure StatementCacheSettings where
  /-- Idle time after which a statement is closed, and the period of the sweep. -/
  idleTimeout : Duration := .ofSeconds 300

structure HealthSettings where
  addr : String := ":9090"

structure Settings where
  logLevel : String := "info"
  clickhouse : ClickHouseSettings := {}
  tenancy : TenancySettings := {}
  clientMetric : ClientMetricSettings := {}
  signal : SignalSettings := {}
  statementCache : StatementCacheSettings := {}
  health : HealthSettings := {}

/-- The settings of a service for which nothing is set. -/
def Settings.default : Settings := {}

/-- What the settings say of one table. -/
structure TableSettings where
  ttlDays : Nat
  hash : Option String
  deriving DecidableEq, Repr

namespace ClickHouseSettings

/-- The time between flushes; zero stands for the default. -/
def effectiveFlushInterval (c : ClickHouseSettings) : Duration :=
  if c.flushInterval.isZero then .ofSeconds 5 else c.flushInterval

/-- The last override that names the table decides, the default if none does. -/
def tableSettings (c : ClickHouseSettings) (table : String) : TableSettings where
  ttlDays := ((c.ttl.reverse.find? fun o => decide (table ∈ o.tables)).map (·.ttlDays)).getD c.ttlDays
  hash := (c.hash.reverse.find? fun o => decide (table ∈ o.tables)).map (·.hash)

end ClickHouseSettings

end Ingest
