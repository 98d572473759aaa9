import Ingest.Calendar
import Ingest.Record.Derived
import Ingest.Sql.Value

/-!
How each record becomes rows of its table. A row is first a list of values, one for each column in
order, and then the text of a tuple. Most records give one row; a relation gives one for each edge
of its tree, and an agent event whose time has no date gives none.
-/

namespace Ingest

open Sql

/-- A row as it is handed to a store: the text of one tuple. -/
abbrev Row := String

/-- A time in nanoseconds, written as a date and time with nine decimals; the epoch would stand for
a time without a date. -/
def timeValue (ns : UInt64) : Value :=
  .text ((Calendar.nanosText? ns.toNat).getD (Calendar.nanosText 0))

/-- A word of nanoseconds ends long before the last date. -/
theorem nanosText?_toNat (ns : UInt64) :
    Calendar.nanosText? ns.toNat = some (Calendar.nanosText ns.toNat) := by
  have hlt : ns.toNat < 2 ^ 64 := ns.toNat_lt
  have hdate : ns.toNat / 1000000000 ≤ Calendar.lastSecond := by
    rw [Calendar.lastSecond]
    omega
  rw [Calendar.nanosText?, if_pos hdate]

theorem timeValue_eq (ns : UInt64) : timeValue ns = .text (Calendar.nanosText ns.toNat) := by
  rw [timeValue, nanosText?_toNat, Option.getD_some]

def wordValue (n : UInt64) : Value := .nat n.toNat

def idValue (n : UInt32) : Value := .nat n.toNat

def labelsValue (m : Labels) : Value := .map (m.entries.map fun e => (e.1, .text e.2))

def textsValue (xs : List String) : Value := .list (xs.map .text)

def flagsValue (xs : List Bool) : Value := .list (xs.map .bool)

namespace ProfilingEvent

def values (r : ProfilingEvent) : List Value :=
  [timeValue r.timestampNs, .text r.traceId, .text r.apmSpanId, .text r.nodeName, idValue r.pid,
    idValue r.tid, wordValue r.startTimeNs, wordValue r.endTimeNs, textsValue r.events,
    labelsValue r.labels]

end ProfilingEvent

namespace FlameGraph

def values (r : FlameGraph) : List Value :=
  [timeValue r.timestampNs, wordValue r.startTimeNs, wordValue r.endTimeNs, idValue r.pid,
    idValue r.tid, .text r.sampleType, idValue r.sampleRate, labelsValue r.labels,
    .text r.flameBearer]

end FlameGraph

namespace JvmGc

def values (r : JvmGc) : List Value :=
  [timeValue r.timestampNs, .text r.nodeName, idValue r.pid, wordValue r.youngGc, wordValue r.fullGc,
    wordValue r.lastYoungGc, wordValue r.lastFullGc]

end JvmGc

namespace SpanTrace

def values (r : SpanTrace) : List Value :=
  [timeValue r.timestampNs, .text r.traceId, .text r.apmSpanId, .text r.serviceName, .text r.url,
    idValue r.pid, idValue r.tid, .text r.containerId, .text r.nodeName, .text r.nodeIp,
    wordValue r.startTimeNs, wordValue r.endTimeNs, wordValue r.durationNs, .bool r.isSlow,
    .bool r.isError, .bool r.isProfiled, labelsValue r.labels]

end SpanTrace

namespace SlowReport

def values (r : SlowReport) : List Value :=
  [timeValue r.timestampNs, .text r.traceId, .text r.entryService, .text r.entryUrl,
    .text r.entrySpanId, .text r.mutatedService, .text r.mutatedUrl, idValue r.mutatedPid,
    .text r.mutatedSpanId, .text r.cause, wordValue r.durationNs, .bool r.isDrop, .text r.data]

end SlowReport

namespace ErrorReport

/-- The entry columns hold the join keys, empty without a tree. -/
def values (r : ErrorReport) : List Value :=
  let entry := r.joinKeys.getD ("", "", "")
  [timeValue r.timestampNs, .text r.traceId, .text entry.1, .text entry.2.1, .text entry.2.2,
    .bool r.isDrop, .text r.cause, .text r.data]

end ErrorReport

namespace ErrorPropagation

/-- The nested columns hold one list each, with an element for every node. -/
def values (r : ErrorPropagation) : List Value :=
  [timeValue r.timestampNs, .text r.entryService, .text r.entryUrl, .text r.entrySpanId,
    .text r.traceId, textsValue (r.nodes.map (·.service)), textsValue (r.nodes.map (·.instanceName)),
    textsValue (r.nodes.map (·.url)), flagsValue (r.nodes.map (·.isTraced)),
    flagsValue (r.nodes.map (·.isError)), textsValue (r.nodes.map (·.errorTypes)),
    textsValue (r.nodes.map (·.errorMsgs)), .list (r.nodes.map fun n => .nat n.depth),
    textsValue (r.nodes.map (·.path))]

def rows (r : ErrorPropagation) : List Row := [renderTuple r.values]

end ErrorPropagation

namespace ReportMetric

def values (r : ReportMetric) : List Value :=
  [timeValue r.timestampNs, .text r.entryService, .text r.entryUrl, .text r.mutatedService,
    idValue r.mutatedPid, .text r.mutatedUrl, .nat r.total, .nat r.success]

end ReportMetric

namespace OnOffMetric

def values (r : OnOffMetric) : List Value :=
  [timeValue r.timestampNs, .text r.traceId, .text r.apmSpanId, idValue r.pid, idValue r.tid,
    wordValue r.cpuNs, wordValue r.futexNs, wordValue r.netNs, wordValue r.fileNs,
    wordValue r.epollNs, wordValue r.runqNs, wordValue r.otherNs]

end OnOffMetric

namespace Relationship

/-- What the call along the edge names, as a map sorted by key. -/
def labelEntries (e : Relationship) : List (String × Scalar) :=
  [("client_group", .text e.clientGroup), ("client_key", .text e.clientKey),
    ("client_peer", .text e.clientPeer), ("client_type", .text e.clientType)]

def flagEntries (e : Relationship) : List (String × Scalar) :=
  [("parent_traced", .bool e.parentTraced), ("is_async", .bool e.isAsync),
    ("is_traced", .bool e.isTraced)]

end Relationship

namespace Relation

def valuesOf (r : Relation) (e : Relationship) : List Value :=
  [timeValue r.root.value.startTimeNs, .text r.root.value.serviceName, .text r.root.value.url,
    .bool r.missTop, .text r.traceId, .text e.parentService, .text e.parentUrl, .text e.service,
    .text e.url, .text e.path, .map e.labelEntries, .map e.flagEntries]

end Relation

namespace AgentEvent

/-- The values of an event whose time has a date. -/
def values? (r : AgentEvent) : Option (List Value) :=
  (Calendar.secondsText? r.timestampS.toNat).map fun t =>
    [.text t, .text r.name, idValue r.pid, labelsValue r.labels, .bool r.status]

end AgentEvent

namespace ServiceClient

def values (r : ServiceClient) : List Value :=
  [timeValue r.timestampNs, .text r.traceId, .text r.service, .text r.url, .text r.clientGroup,
    .text r.clientType, .text r.clientPeer, .text r.clientKey, wordValue r.durationNs,
    .bool r.isError]

def rows (r : ServiceClient) : List Row := [renderTuple r.values]

end ServiceClient

namespace Event

/-- The values of each row that an event gives in the table of its own kind. -/
def tuples : Event → List (List Value)
  | profilingEvent r => [r.values]
  | flameGraph r => [r.values]
  | jvmGc r => [r.values]
  | spanTrace r => [r.values]
  | slowReport r => [r.values]
  | errorReport r => [r.values]
  | reportMetric r => [r.values]
  | onOffMetric r => [r.values]
  | relation r => r.relationships.map r.valuesOf
  | agentEvent r => r.values?.toList

/-- The rows that an event gives in the table of its own kind. -/
def rows (e : Event) : List Row := e.tuples.map renderTuple

end Event

/-- The rows that a flush of these events writes to the table of a kind: those of the events of the
kind in their order or, for the two derived kinds, those of what the events give rise to. -/
def rowsOf (es : List Event) : Kind → List Row
  | .errorPropagation => (es.filterMap Event.propagation?).flatMap ErrorPropagation.rows
  | .serviceClient => (es.flatMap Event.serviceClients).flatMap ServiceClient.rows
  | k => (es.filter fun e => decide (e.kind = k)).flatMap Event.rows

end Ingest
