import Ingest.Ingestor

/-!
The metrics of the service as families: its own counters, and those of client calls if they are
wanted. Counts by kind show only the kinds that were counted; families come in the order of their
names, and series in the order of their labels.
-/

namespace Ingest

namespace Series

/-- Order of series: by the values of their labels. -/
def le (a b : Series) : Bool := !(b.labels.map Prod.snd).lex (a.labels.map Prod.snd)

end Series

namespace Family

/-- Counts by kind as a family. -/
def ofTally (name help : String) (m : KindTally) : Family :=
  ⟨namespaceOf name, help, .counter, m.entries.map fun e => ⟨[("kind", e.1.label)], .number e.2⟩⟩

/-- A family with its series in order. -/
def sorted (f : Family) : Family := { f with series := f.series.mergeSort Series.le }

def le (a b : Family) : Bool := decide (a.name ≤ b.name)

end Family

namespace Ingestor

variable {σ : Type}

/-- The metrics of the service itself. -/
def healthFamilies (s : Ingestor σ) (connected : Bool) : List Family :=
  [.ofTally "records_appended_total" "Records appended by kind." s.counters.recordsAppended,
    .ofTally "rows_flushed_total" "Rows written to the store by kind." s.sink.counters.rowsFlushed,
    .ofTally "flush_errors_total" "Failed batch writes by kind." s.sink.counters.flushErrors,
    .ofTally "rows_lost_total" "Rows drained from a cache but not written, by kind."
      s.sink.counters.rowsLost,
    .counter "flushes_total" "Completed flush cycles." s.counters.flushes,
    ⟨Family.namespaceOf "flush_duration_seconds", "Duration of one flush cycle across all tenants.",
      .histogram, [⟨[], .timings s.counters.flushes⟩]⟩,
    .gauge "tenants" "Tenants with a live cache." s.counters.tenants,
    .gauge "clickhouse_connected" "Whether ClickHouse answered the last ping (1=yes, 0=no)."
      (if connected then 1 else 0),
    .gauge "statement_cache_size" "Live prepared statements." s.sink.statements.sizeGauge,
    .counter "statement_cache_hits_total" "Prepared statement cache hits." s.sink.counters.hits,
    .counter "statement_cache_misses_total" "Prepared statement cache misses."
      s.sink.counters.misses,
    .counter "statement_evictions_total" "Statements closed by the idle sweep."
      s.sink.statements.evictions,
    .counter "silent_switch_close_total" "Pid+url keys reported for profiling suppression."
      s.signals.closed,
    .counter "silent_switch_recover_total" "Pid+url keys reported for profiling recovery."
      s.signals.recovered,
    .counter "signal_metrics_collected_total"
      "Slow-report count metrics produced by the signal collector." s.signals.collected]

/-- Every metric of a service, with its own ones if it keeps them. -/
def families (s : Ingestor σ) (health connected : Bool) : List Family :=
  let own := if health then s.healthFamilies connected else []
  let clients := (s.clients.map ClientMetrics.families).getD []
  ((own ++ clients).mergeSort Family.le).map Family.sorted

end Ingestor

end Ingest
