import Mathlib.Data.List.Forall2
import Ingest.Proofs.CalendarReading
import Ingest.Proofs.TupleGrammar
import Ingest.Row

/-!
What stands in each column of each table. The content of a column is given here by the name of the
column and told from the record alone, for each of the twelve kinds; how rows are put together plays
no part in it. Main statement: the rows of any record are read back one by one, each has a value for
every column of its table, and the value under each name is the content of that name.
-/

namespace Ingest

open Sql

/-! ### Contents of columns -/

/-- What a column holds: a value, or an instant, which is written as a date and a time. -/
inductive Content where
  | value (v : Value)
  | nanos (t : UInt64)
  | seconds (t : UInt64)

namespace Content

def text (s : String) : Content := value (.text s)

def nat (n : Nat) : Content := value (.nat n)

def flag (b : Bool) : Content := value (.bool b)

def texts (xs : List String) : Content := value (.list (xs.map .text))

def nats (xs : List Nat) : Content := value (.list (xs.map .nat))

def flags (xs : List Bool) : Content := value (.list (xs.map .bool))

def labels (m : Labels) : Content := value (.map (m.entries.map fun e => (e.1, .text e.2)))

/-- Whether a value is a content; a text is an instant if the calendar reads it so. -/
def HeldBy : Content → Value → Prop
  | value v, w => w = v
  | nanos t, w => ∃ s, w = .text s ∧ Calendar.readNanos s = some t.toNat
  | seconds t, w => ∃ s, w = .text s ∧ Calendar.readSeconds s = some t.toNat

end Content

/-- The contents of a row, by the names of the columns. -/
abbrev Columns := String → Option Content

def ProfilingEvent.column (r : ProfilingEvent) : Columns
  | "timestamp" => some (.nanos r.timestampNs)
  | "trace_id" => some (.text r.traceId)
  | "apm_span_id" => some (.text r.apmSpanId)
  | "node_name" => some (.text r.nodeName)
  | "pid" => some (.nat r.pid.toNat)
  | "tid" => some (.nat r.tid.toNat)
  | "start_time" => some (.nat r.startTimeNs.toNat)
  | "end_time" => some (.nat r.endTimeNs.toNat)
  | "events" => some (.texts r.events)
  | "labels" => some (.labels r.labels)
  | _ => none

def FlameGraph.column (r : FlameGraph) : Columns
  | "timestamp" => some (.nanos r.timestampNs)
  | "start_time" => some (.nat r.startTimeNs.toNat)
  | "end_time" => some (.nat r.endTimeNs.toNat)
  | "pid" => some (.nat r.pid.toNat)
  | "tid" => some (.nat r.tid.toNat)
  | "sample_type" => some (.text r.sampleType)
  | "sample_rate" => some (.nat r.sampleRate.toNat)
  | "labels" => some (.labels r.labels)
  | "flamebearer" => some (.text r.flameBearer)
  | _ => none

def JvmGc.column (r : JvmGc) : Columns
  | "timestamp" => some (.nanos r.timestampNs)
  | "node_name" => some (.text r.nodeName)
  | "pid" => some (.nat r.pid.toNat)
  | "ygc" => some (.nat r.youngGc.toNat)
  | "fgc" => some (.nat r.fullGc.toNat)
  | "last_ygc" => some (.nat r.lastYoungGc.toNat)
  | "last_fgc" => some (.nat r.lastFullGc.toNat)
  | _ => none

def SpanTrace.column (r : SpanTrace) : Columns
  | "timestamp" => some (.nanos r.timestampNs)
  | "trace_id" => some (.text r.traceId)
  | "apm_span_id" => some (.text r.apmSpanId)
  | "service_name" => some (.text r.serviceName)
  | "url" => some (.text r.url)
  | "pid" => some (.nat r.pid.toNat)
  | "tid" => some (.nat r.tid.toNat)
  | "container_id" => some (.text r.containerId)
  | "node_name" => some (.text r.nodeName)
  | "node_ip" => some (.text r.nodeIp)
  | "start_time" => some (.nat r.startTimeNs.toNat)
  | "end_time" => some (.nat r.endTimeNs.toNat)
  | "duration" => some (.nat r.durationNs.toNat)
  | "is_slow" => some (.flag r.isSlow)
  | "is_error" => some (.flag r.isError)
  | "is_profiled" => some (.flag r.isProfiled)
  | "labels" => some (.labels r.labels)
  | _ => none

def SlowReport.column (r : SlowReport) : Columns
  | "timestamp" => some (.nanos r.timestampNs)
  | "trace_id" => some (.text r.traceId)
  | "entry_service" => some (.text r.entryService)
  | "entry_url" => some (.text r.entryUrl)
  | "entry_span_id" => some (.text r.entrySpanId)
  | "mutated_service" => some (.text r.mutatedService)
  | "mutated_url" => some (.text r.mutatedUrl)
  | "mutated_pid" => some (.nat r.mutatedPid.toNat)
  | "mutated_span_id" => some (.text r.mutatedSpanId)
  | "cause" => some (.text r.cause)
  | "duration" => some (.nat r.durationNs.toNat)
  | "is_drop" => some (.flag r.isDrop)
  | "data" => some (.text r.data)
  | _ => none

/-- What an error report says of the root of its tree, empty without a tree. -/
def ErrorReport.ofRoot (r : ErrorReport) (field : CallNode → String) : String :=
  match r.relationTree with
  | some root => field root.value
  | none => ""

def ErrorReport.column (r : ErrorReport) : Columns
  | "timestamp" => some (.nanos r.timestampNs)
  | "trace_id" => some (.text r.traceId)
  | "entry_service" => some (.text (r.ofRoot (·.serviceName)))
  | "entry_url" => some (.text (r.ofRoot (·.url)))
  | "entry_span_id" => some (.text (r.ofRoot (·.spanId)))
  | "is_drop" => some (.flag r.isDrop)
  | "cause" => some (.text r.cause)
  | "data" => some (.text r.data)
  | _ => none

/-- The nested columns have an element for each node, in the order of the nodes. -/
def ErrorPropagation.column (r : ErrorPropagation) : Columns
  | "timestamp" => some (.nanos r.timestampNs)
  | "entry_service" => some (.text r.entryService)
  | "entry_url" => some (.text r.entryUrl)
  | "entry_span_id" => some (.text r.entrySpanId)
  | "trace_id" => some (.text r.traceId)
  | "nodes.service" => some (.texts (r.nodes.map (·.service)))
  | "nodes.instance" => some (.texts (r.nodes.map (·.instanceName)))
  | "nodes.url" => some (.texts (r.nodes.map (·.url)))
  | "nodes.is_traced" => some (.flags (r.nodes.map (·.isTraced)))
  | "nodes.is_error" => some (.flags (r.nodes.map (·.isError)))
  | "nodes.error_types" => some (.texts (r.nodes.map (·.errorTypes)))
  | "nodes.error_msgs" => some (.texts (r.nodes.map (·.errorMsgs)))
  | "nodes.depth" => some (.nats (r.nodes.map (·.depth)))
  | "nodes.path" => some (.texts (r.nodes.map (·.path)))
  | _ => none

def ReportMetric.column (r : ReportMetric) : Columns
  | "timestamp" => some (.nanos r.timestampNs)
  | "entry_service" => some (.text r.entryService)
  | "entry_url" => some (.text r.entryUrl)
  | "mutated_service" => some (.text r.mutatedService)
  | "mutated_pid" => some (.nat r.mutatedPid.toNat)
  | "mutated_url" => some (.text r.mutatedUrl)
  | "total" => some (.nat r.total)
  | "success" => some (.nat r.success)
  | _ => none

def OnOffMetric.column (r : OnOffMetric) : Columns
  | "timestamp" => some (.nanos r.timestampNs)
  | "trace_id" => some (.text r.traceId)
  | "apm_span_id" => some (.text r.apmSpanId)
  | "pid" => some (.nat r.pid.toNat)
  | "tid" => some (.nat r.tid.toNat)
  | "cpu" => some (.nat r.cpuNs.toNat)
  | "futex" => some (.nat r.futexNs.toNat)
  | "net" => some (.nat r.netNs.toNat)
  | "file" => some (.nat r.fileNs.toNat)
  | "epoll" => some (.nat r.epollNs.toNat)
  | "runq" => some (.nat r.runqNs.toNat)
  | "other" => some (.nat r.otherNs.toNat)
  | _ => none

/-- What an edge says of the client call that it is, empty without a call. -/
def Edge.ofCall (e : Edge CallNode) (field : ClientCall → String) : String :=
  match e.child.client with
  | some call => field call
  | none => ""

/-- A row of a relation is about one edge of its tree, under the root of the tree. -/
def Relation.column (r : Relation) (e : Edge CallNode) : Columns
  | "timestamp" => some (.nanos r.root.value.startTimeNs)
  | "entry_service" => some (.text r.root.value.serviceName)
  | "entry_url" => some (.text r.root.value.url)
  | "miss_top" => some (.flag !r.root.value.topNode)
  | "trace_id" => some (.text r.traceId)
  | "parent_service" => some (.text e.parent.serviceName)
  | "parent_url" => some (.text e.parent.url)
  | "service" => some (.text e.child.serviceName)
  | "url" => some (.text e.child.url)
  | "path" => some (.text e.path.text)
  | "labels" =>
    some (.value (.map
      [("client_group", .text (e.ofCall (·.group))), ("client_key", .text (e.ofCall (·.key))),
        ("client_peer", .text (e.ofCall (·.peer))),
        ("client_type", .text (e.ofCall (·.clientType)))]))
  | "flags" =>
    some (.value (.map
      [("parent_traced", .bool e.parent.isTraced), ("is_async", .bool e.child.isAsync),
        ("is_traced", .bool e.child.isTraced)]))
  | _ => none

def AgentEvent.column (r : AgentEvent) : Columns
  | "timestamp" => some (.seconds r.timestampS)
  | "name" => some (.text r.name)
  | "pid" => some (.nat r.pid.toNat)
  | "labels" => some (.labels r.labels)
  | "status" => some (.flag r.status)
  | _ => none

def ServiceClient.column (r : ServiceClient) : Columns
  | "timestamp" => some (.nanos r.timestampNs)
  | "trace_id" => some (.text r.traceId)
  | "service" => some (.text r.service)
  | "url" => some (.text r.url)
  | "client_group" => some (.text r.clientGroup)
  | "client_type" => some (.text r.clientType)
  | "client_peer" => some (.text r.clientPeer)
  | "client_key" => some (.text r.clientKey)
  | "duration" => some (.nat r.durationNs.toNat)
  | "is_error" => some (.flag r.isError)
  | _ => none

/-! ### Records of any kind -/

/-- A record of any of the twelve kinds: one that an agent sends, or a derived one. -/
inductive TableRecord where
  | sent (e : Event)
  | propagation (p : ErrorPropagation)
  | client (c : ServiceClient)

namespace TableRecord

def kind : TableRecord → Kind
  | sent e => e.kind
  | propagation _ => .errorPropagation
  | client _ => .serviceClient

/-- The rows of a record in the table of its kind. -/
def rows : TableRecord → List Row
  | sent e => e.rows
  | propagation p => p.rows
  | client c => c.rows

/-- The contents of the rows of a record: most have one row, a relation one for each edge of its
tree, and an agent event none when its time is beyond the last date. -/
def contents : TableRecord → List Columns
  | sent (.profilingEvent r) => [r.column]
  | sent (.flameGraph r) => [r.column]
  | sent (.jvmGc r) => [r.column]
  | sent (.spanTrace r) => [r.column]
  | sent (.slowReport r) => [r.column]
  | sent (.errorReport r) => [r.column]
  | sent (.reportMetric r) => [r.column]
  | sent (.onOffMetric r) => [r.column]
  | sent (.relation r) => r.root.edges.map r.column
  | sent (.agentEvent r) => if r.timestampS.toNat ≤ Calendar.lastSecond then [r.column] else []
  | propagation r => [r.column]
  | client r => [r.column]

end TableRecord

/-! ### Values under their names -/

/-- Whether each value is the content of the column at its place. -/
def Fits (k : Kind) (column : Columns) (vs : List Value) : Prop :=
  List.Forall₂ (fun name v => ∃ c, column name = some c ∧ c.HeldBy v) k.columns vs

/-- Whether a row has a value for every column of a table, the one under each name its content. -/
def Row.Shows (k : Kind) (column : Columns) (row : Row) : Prop :=
  ∃ vs, readRow row = some vs ∧ vs.length = k.columns.length ∧ Fits k column vs

theorem Fits.shows {k : Kind} {column : Columns} {vs : List Value} (h : Fits k column vs) :
    Row.Shows k column (renderTuple vs) :=
  ⟨vs, readRow_renderTuple vs, h.length_eq.symm, h⟩

namespace Content

@[simp] theorem heldBy_value {v w : Value} : (value v).HeldBy w ↔ w = v := Iff.rfl

@[simp] theorem heldBy_text (s : String) : (text s).HeldBy (.text s) := rfl

@[simp] theorem heldBy_nat (n : Nat) : (nat n).HeldBy (.nat n) := rfl

@[simp] theorem heldBy_flag (b : Bool) : (flag b).HeldBy (.bool b) := rfl

@[simp] theorem heldBy_wordValue (n : UInt64) : (nat n.toNat).HeldBy (wordValue n) := rfl

@[simp] theorem heldBy_idValue (n : UInt32) : (nat n.toNat).HeldBy (idValue n) := rfl

@[simp] theorem heldBy_textsValue (xs : List String) : (texts xs).HeldBy (textsValue xs) := rfl

@[simp] theorem heldBy_flagsValue (xs : List Bool) : (flags xs).HeldBy (flagsValue xs) := rfl

@[simp] theorem heldBy_labelsValue (m : Labels) : (labels m).HeldBy (labelsValue m) := rfl

@[simp] theorem heldBy_timeValue (t : UInt64) : (nanos t).HeldBy (timeValue t) :=
  ⟨_, timeValue_eq t, Calendar.readNanos_nanosText t.toNat⟩

@[simp] theorem heldBy_secondsText (t : UInt64) :
    (seconds t).HeldBy (.text (Calendar.secondsText t.toNat)) :=
  ⟨_, rfl, Calendar.readSeconds_secondsText t.toNat⟩

end Content

theorem ProfilingEvent.fits (r : ProfilingEvent) : Fits .profilingEvent r.column r.values := by
  simp [Fits, Kind.columns, column, values]

theorem FlameGraph.fits (r : FlameGraph) : Fits .flameGraph r.column r.values := by
  simp [Fits, Kind.columns, column, values]

theorem JvmGc.fits (r : JvmGc) : Fits .jvmGc r.column r.values := by
  simp [Fits, Kind.columns, column, values]

theorem SpanTrace.fits (r : SpanTrace) : Fits .spanTrace r.column r.values := by
  simp [Fits, Kind.columns, column, values]

theorem SlowReport.fits (r : SlowReport) : Fits .slowReport r.column r.values := by
  simp [Fits, Kind.columns, column, values]

theorem ReportMetric.fits (r : ReportMetric) : Fits .reportMetric r.column r.values := by
  simp [Fits, Kind.columns, column, values]

theorem OnOffMetric.fits (r : OnOffMetric) : Fits .onOffMetric r.column r.values := by
  simp [Fits, Kind.columns, column, values]

theorem ServiceClient.fits (r : ServiceClient) : Fits .serviceClient r.column r.values := by
  simp [Fits, Kind.columns, column, values]

theorem ErrorReport.fits (r : ErrorReport) : Fits .errorReport r.column r.values := by
  cases h : r.relationTree <;>
    simp [Fits, Kind.columns, column, values, ofRoot, joinKeys, h]

theorem ErrorPropagation.fits (r : ErrorPropagation) :
    Fits .errorPropagation r.column r.values := by
  simp [Fits, Kind.columns, column, values, Content.nats]

theorem AgentEvent.fits {r : AgentEvent} {vs : List Value} (h : r.values? = some vs) :
    Fits .agentEvent r.column vs := by
  simp only [values?, Calendar.secondsText?, Option.map_eq_some_iff, Option.ite_none_right_eq_some,
    Option.some.injEq] at h
  obtain ⟨t, ⟨-, rfl⟩, rfl⟩ := h
  simp [Fits, Kind.columns, column]

theorem Relation.fits (r : Relation) (e : Edge CallNode) :
    Fits .serviceRelationship (r.column e) (r.valuesOf (relationshipOf e)) := by
  cases h : e.child.client <;>
    simp [Fits, Kind.columns, column, valuesOf, relationshipOf, missTop, Edge.ofCall, h,
      Relationship.labelEntries, Relationship.flagEntries, ClientCall.absent]

theorem AgentEvent.values?_eq_none {r : AgentEvent} :
    r.values? = none ↔ Calendar.lastSecond < r.timestampS.toNat := by
  simp [values?, Calendar.secondsText?]

/-- Every row of every record is read back completely, as the contents of the columns of its
table. -/
theorem rows_show_contents (r : TableRecord) :
    List.Forall₂ (fun row column => Row.Shows r.kind column row) r.rows r.contents := by
  cases r with
  | sent e =>
    cases e with
    | profilingEvent r => exact .cons r.fits.shows .nil
    | flameGraph r => exact .cons r.fits.shows .nil
    | jvmGc r => exact .cons r.fits.shows .nil
    | spanTrace r => exact .cons r.fits.shows .nil
    | slowReport r => exact .cons r.fits.shows .nil
    | errorReport r => exact .cons r.fits.shows .nil
    | reportMetric r => exact .cons r.fits.shows .nil
    | onOffMetric r => exact .cons r.fits.shows .nil
    | relation r =>
      have hrows : (TableRecord.sent (.relation r)).rows
          = r.root.edges.map fun e => renderTuple (r.valuesOf (Relation.relationshipOf e)) := by
        simp [TableRecord.rows, Event.rows, Event.tuples, Relation.relationships]
      rw [hrows, TableRecord.contents, List.forall₂_map_left_iff, List.forall₂_map_right_iff]
      exact List.forall₂_same.mpr fun e _ => (r.fits e).shows
    | agentEvent r =>
      cases h : r.values? with
      | none =>
        have hlast := AgentEvent.values?_eq_none.mp h
        have hcontents : (TableRecord.sent (.agentEvent r)).contents = [] := by
          simp [TableRecord.contents, hlast]
        simp [TableRecord.rows, Event.rows, Event.tuples, h, hcontents]
      | some vs =>
        have hlast : ¬ Calendar.lastSecond < r.timestampS.toNat := by
          simp [← AgentEvent.values?_eq_none, h]
        have hcontents : (TableRecord.sent (.agentEvent r)).contents = [r.column] := by
          simp [TableRecord.contents, Nat.not_lt.mp hlast]
        have hrows : (TableRecord.sent (.agentEvent r)).rows = [renderTuple vs] := by
          simp [TableRecord.rows, Event.rows, Event.tuples, h]
        rw [hrows, hcontents]
        exact .cons (AgentEvent.fits h).shows .nil
  | propagation p => exact .cons p.fits.shows .nil
  | client c => exact .cons c.fits.shows .nil

end Ingest
