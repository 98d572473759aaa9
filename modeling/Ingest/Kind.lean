/-!
The twelve kinds of telemetry record, in the order in which one flush of a tenant writes them, and
the table of the store that holds each. A table is named by its kind, so the columns of an insert
are a function of the kind.
-/

namespace Ingest

inductive Kind where
  | profilingEvent | flameGraph | jvmGc | spanTrace | slowReport | errorReport
  | errorPropagation | reportMetric | onOffMetric | serviceRelationship | agentEvent | serviceClient
  deriving DecidableEq, Repr, Inhabited

namespace Kind

/-- Every kind, in flush order. -/
def all : List Kind :=
  [profilingEvent, flameGraph, jvmGc, spanTrace, slowReport, errorReport, errorPropagation,
    reportMetric, onOffMetric, serviceRelationship, agentEvent, serviceClient]

theorem mem_all (k : Kind) : k ∈ all := by cases k <;> decide

/-- The label of a kind in logs and metrics. -/
def label : Kind → String
  | profilingEvent => "profiling_event"
  | flameGraph => "flame_graph"
  | jvmGc => "jvm_gc"
  | spanTrace => "span_trace"
  | slowReport => "slow_report"
  | errorReport => "error_report"
  | errorPropagation => "error_propagation"
  | reportMetric => "report_metric"
  | onOffMetric => "onoff_metric"
  | serviceRelationship => "service_relationship"
  | agentEvent => "agent_event"
  | serviceClient => "service_client"

/-- The table a kind is written to: its label, with two exceptions. -/
def table : Kind → String
  | reportMetric => "slow_report_count"
  | agentEvent => "originx_agent_event"
  | k => k.label

def ofLabel? (name : String) : Option Kind := all.find? fun k => k.label == name

def ofTable? (name : String) : Option Kind := all.find? fun k => k.table == name

/-- Whether agents send records of the kind; the other two kinds are derived at flush time. -/
def isStored : Kind → Bool
  | errorPropagation | serviceClient => false
  | _ => true

/-- The columns of the kind's table, in insert order. -/
def columns : Kind → List String
  | profilingEvent =>
    ["timestamp", "trace_id", "apm_span_id", "node_name", "pid", "tid", "start_time", "end_time",
      "events", "labels"]
  | flameGraph =>
    ["timestamp", "start_time", "end_time", "pid", "tid", "sample_type", "sample_rate", "labels",
      "flamebearer"]
  | jvmGc => ["timestamp", "node_name", "pid", "ygc", "fgc", "last_ygc", "last_fgc"]
  | spanTrace =>
    ["timestamp", "trace_id", "apm_span_id", "service_name", "url", "pid", "tid", "container_id",
      "node_name", "node_ip", "start_time", "end_time", "duration", "is_slow", "is_error",
      "is_profiled", "labels"]
  | slowReport =>
    ["timestamp", "trace_id", "entry_service", "entry_url", "entry_span_id", "mutated_service",
      "mutated_url", "mutated_pid", "mutated_span_id", "cause", "duration", "is_drop", "data"]
  | errorReport =>
    ["timestamp", "trace_id", "entry_service", "entry_url", "entry_span_id", "is_drop", "cause",
      "data"]
  | errorPropagation =>
    ["timestamp", "entry_service", "entry_url", "entry_span_id", "trace_id", "nodes.service",
      "nodes.instance", "nodes.url", "nodes.is_traced", "nodes.is_error", "nodes.error_types",
      "nodes.error_msgs", "nodes.depth", "nodes.path"]
  | reportMetric =>
    ["timestamp", "entry_service", "entry_url", "mutated_service", "mutated_pid", "mutated_url",
      "total", "success"]
  | onOffMetric =>
    ["timestamp", "trace_id", "apm_span_id", "pid", "tid", "cpu", "futex", "net", "file", "epoll",
      "runq", "other"]
  | serviceRelationship =>
    ["timestamp", "entry_service", "entry_url", "miss_top", "trace_id", "parent_service",
      "parent_url", "service", "url", "path", "labels", "flags"]
  | agentEvent => ["timestamp", "name", "pid", "labels", "status"]
  | serviceClient =>
    ["timestamp", "trace_id", "service", "url", "client_group", "client_type", "client_peer",
      "client_key", "duration", "is_error"]

/-- Position of a kind in flush order. -/
def rank (k : Kind) : Nat := all.idxOf k

theorem ofTable?_table (k : Kind) : ofTable? k.table = some k := by cases k <;> decide

theorem table_injective {j k : Kind} (h : j.table = k.table) : j = k := by
  have hj := ofTable?_table j
  rw [h, ofTable?_table k] at hj
  exact (Option.some.inj hj).symm

end Kind

end Ingest
