import Ingest.Tenant.Database
import Ingest.Text.Blank
import Ingest.Text.Quoted

/-!
The faults that keep settings from being used, and the order in which they are looked for. Overrides
are looked through in list order; in one override its value comes before its tables, and for one
table it counts first whether it is known and then whether it was named before.
-/

namespace Ingest

inductive SettingsFault where
  | noEndpoint
  | noDatabase
  | noTtl
  | overrideTtlZero (tables : List String)
  | overrideTtlUnknown (table : String)
  | overrideTtlTwice (table : String)
  | overrideHashBlank (tables : List String)
  | overrideHashUnknown (table : String)
  | patternWithoutHole
  | noTraceCache
  | noCollectInterval
  | noIdleTimeout
  deriving DecidableEq, Repr

def SettingsFault.message : SettingsFault → String
  | noEndpoint => "clickhouse.endpoint is required"
  | noDatabase => "clickhouse.database must not be empty"
  | noTtl => "clickhouse.ttl_days must be positive"
  | overrideTtlZero tables => "ttl override for " ++ Text.quotedList tables ++ " must be positive"
  | overrideTtlUnknown table => "unknown table in ttl override: " ++ table
  | overrideTtlTwice table => "table appears in more than one ttl override: " ++ table
  | overrideHashBlank tables =>
    "hash override for " ++ Text.quotedList tables ++ " must not be empty"
  | overrideHashUnknown table => "unknown table in hash override: " ++ table
  | patternWithoutHole => "clickhouse.tenant_db_pattern must contain " ++ tenantHole
  | noTraceCache => "tenancy.trace_cache_size must be positive"
  | noCollectInterval => "signal.collect_interval must be positive"
  | noIdleTimeout => "statement_cache.idle_timeout must be positive"

namespace Settings

/-- Fails with a fault unless a condition holds. -/
def demand (condition : Bool) (fault : SettingsFault) : Except SettingsFault Unit :=
  if condition then .ok () else .error fault

def isTable (name : String) : Bool := (Kind.ofTable? name).isSome

/-- Looks through the tables of one ttl override; gives back all tables named so far. -/
def checkTtlTables (seen : List String) : List String → Except SettingsFault (List String)
  | [] => .ok seen
  | t :: ts =>
    if !isTable t then .error (.overrideTtlUnknown t)
    else if t ∈ seen then .error (.overrideTtlTwice t)
    else checkTtlTables (t :: seen) ts

def checkTtl (seen : List String) : List TtlOverride → Except SettingsFault Unit
  | [] => .ok ()
  | o :: os =>
    if o.ttlDays = 0 then .error (.overrideTtlZero o.tables)
    else
      match checkTtlTables seen o.tables with
      | .error fault => .error fault
      | .ok seen => checkTtl seen os

def checkHashTables : List String → Except SettingsFault Unit
  | [] => .ok ()
  | t :: ts => if !isTable t then .error (.overrideHashUnknown t) else checkHashTables ts

def checkHash : List HashOverride → Except SettingsFault Unit
  | [] => .ok ()
  | o :: os =>
    if Text.allBlank o.hash then .error (.overrideHashBlank o.tables)
    else
      match checkHashTables o.tables with
      | .error fault => .error fault
      | .ok _ => checkHash os

/-- The first fault of the settings, in the order of the checks below. -/
def validate (s : Settings) : Except SettingsFault Unit := do
  demand (!s.clickhouse.endpoint.isEmpty) .noEndpoint
  demand (!s.clickhouse.database.isEmpty) .noDatabase
  demand (s.clickhouse.ttlDays != 0) .noTtl
  checkTtl [] s.clickhouse.ttl
  checkHash s.clickhouse.hash
  demand (s.clickhouse.tenantDbPattern.isEmpty || Pattern.hasHole s.clickhouse.tenantDbPattern)
    .patternWithoutHole
  demand (s.tenancy.traceCacheSize != 0) .noTraceCache
  demand (!s.signal.collectInterval.isZero) .noCollectInterval
  demand (!s.statementCache.idleTimeout.isZero) .noIdleTimeout

end Settings

end Ingest
