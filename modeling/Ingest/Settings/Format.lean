import Ingest.Settings

/-!
Settings as the sections of a document. What a document is made of is left to its format; which
names a section has, what each is and what it is when it is left out are the same in all formats. A
setting that is left out keeps its default, and unknown names are passed over.
-/

namespace Ingest

/-- How a format of documents with nodes of a type writes the parts of settings. -/
structure Format (α : Type) where
  text : α → Option String
  /-- A number below a bound. -/
  number : Nat → α → Option Nat
  truth : α → Option Bool
  /-- A text that may be said to be absent. -/
  optionalText : α → Option (Option String)
  items : α → Option (List α)
  textMap : α → Option (Keyed String String)
  /-- The entries of a section that have the given names. -/
  fields : List String → α → Option (Keyed String α)

namespace Format

variable {α : Type}

/-- A value of a section, or its default where the section does not name it. -/
def setting? {β : Type} (fields : Keyed String α) (name : String) (read : α → Option β)
    (default : β) : Option β :=
  match fields.get? name with
  | none => some default
  | some n => read n

/-- A value that a section has to name. -/
def required? {β : Type} (fields : Keyed String α) (name : String) (read : α → Option β) :
    Option β := (fields.get? name).bind read

def list? {β : Type} (f : Format α) (read : α → Option β) (n : α) : Option (List β) :=
  (f.items n).bind fun items => items.mapM read

/-- A length of time. -/
def duration? (f : Format α) (n : α) : Option Duration := (f.text n).bind Duration.parse?

/-- Times to live are numbers of 32 bits. -/
def ttlBound : Nat := UInt32.size

def ttlOverride? (f : Format α) (n : α) : Option TtlOverride := do
  let e ← f.fields ["tables", "ttl_days"] n
  return { tables := ← required? e "tables" (f.list? f.text)
           ttlDays := ← required? e "ttl_days" (f.number ttlBound) }

def hashOverride? (f : Format α) (n : α) : Option HashOverride := do
  let e ← f.fields ["tables", "hash"] n
  return { tables := ← required? e "tables" (f.list? f.text)
           hash := ← required? e "hash" f.text }

def clickhouse? (f : Format α) (n : α) : Option ClickHouseSettings := do
  let e ← f.fields
    ["endpoint", "database", "username", "password", "cluster", "flush_interval", "ttl_days", "ttl",
      "hash", "tenant_db_map", "tenant_db_pattern", "export_service_client"] n
  let d : ClickHouseSettings := {}
  return { endpoint := ← setting? e "endpoint" f.text d.endpoint
           database := ← setting? e "database" f.text d.database
           username := ← setting? e "username" f.text d.username
           password := ← setting? e "password" f.text d.password
           cluster := ← setting? e "cluster" f.optionalText d.cluster
           flushInterval := ← setting? e "flush_interval" f.duration? d.flushInterval
           ttlDays := ← setting? e "ttl_days" (f.number ttlBound) d.ttlDays
           ttl := ← setting? e "ttl" (f.list? f.ttlOverride?) d.ttl
           hash := ← setting? e "hash" (f.list? f.hashOverride?) d.hash
           tenantDbMap := ← setting? e "tenant_db_map" f.textMap d.tenantDbMap
           tenantDbPattern := ← setting? e "tenant_db_pattern" f.text d.tenantDbPattern
           exportServiceClient :=
             ← setting? e "export_service_client" f.truth d.exportServiceClient }

def tenancy? (f : Format α) (n : α) : Option TenancySettings := do
  let e ← f.fields ["enabled", "trace_cache_size"] n
  let d : TenancySettings := {}
  return { enabled := ← setting? e "enabled" f.truth d.enabled
           traceCacheSize :=
             ← setting? e "trace_cache_size" (f.number Duration.wordBound) d.traceCacheSize }

def clientMetric? (f : Format α) (n : α) : Option ClientMetricSettings := do
  let e ← f.fields ["enabled", "with_url"] n
  let d : ClientMetricSettings := {}
  return { enabled := ← setting? e "enabled" f.truth d.enabled
           withUrl := ← setting? e "with_url" f.truth d.withUrl }

def signal? (f : Format α) (n : α) : Option SignalSettings := do
  let e ← f.fields ["collect_interval"] n
  let d : SignalSettings := {}
  return { collectInterval := ← setting? e "collect_interval" f.duration? d.collectInterval }

def statementCache? (f : Format α) (n : α) : Option StatementCacheSettings := do
  let e ← f.fields ["idle_timeout"] n
  let d : StatementCacheSettings := {}
  return { idleTimeout := ← setting? e "idle_timeout" f.duration? d.idleTimeout }

def health? (f : Format α) (n : α) : Option HealthSettings := do
  let e ← f.fields ["addr"] n
  let d : HealthSettings := {}
  return { addr := ← setting? e "addr" f.text d.addr }

/-- The settings of a whole document. -/
def settings? (f : Format α) (n : α) : Option Settings := do
  let e ← f.fields
    ["log_level", "clickhouse", "tenancy", "client_metric", "signal", "statement_cache", "health"] n
  let d : Settings := {}
  return { logLevel := ← setting? e "log_level" f.text d.logLevel
           clickhouse := ← setting? e "clickhouse" f.clickhouse? d.clickhouse
           tenancy := ← setting? e "tenancy" f.tenancy? d.tenancy
           clientMetric := ← setting? e "client_metric" f.clientMetric? d.clientMetric
           signal := ← setting? e "signal" f.signal? d.signal
           statementCache := ← setting? e "statement_cache" f.statementCache? d.statementCache
           health := ← setting? e "health" f.health? d.health }

end Format

end Ingest
