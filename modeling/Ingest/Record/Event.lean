import Ingest.Kind
import Ingest.Labels
import Ingest.Record.Call

/-!
The ten kinds of record that agents send. Times and sizes are the machine words that arrive; the
tallies of a report metric are natural numbers, for they count what the service itself has seen.
-/

namespace Ingest

/-- The events captured on and off the processor while one span was profiled. -/
structure ProfilingEvent where
  timestampNs : UInt64
  traceId : String
  apmSpanId : String
  nodeName : String
  pid : UInt32
  tid : UInt32
  startTimeNs : UInt64
  endTimeNs : UInt64
  events : List String
  labels : Labels

structure FlameGraph where
  timestampNs : UInt64
  startTimeNs : UInt64
  endTimeNs : UInt64
  pid : UInt32
  tid : UInt32
  sampleType : String
  sampleRate : UInt32
  labels : Labels
  flameBearer : String

/-- Cumulative garbage collection counters of one process. -/
structure JvmGc where
  timestampNs : UInt64
  nodeName : String
  pid : UInt32
  youngGc : UInt64
  fullGc : UInt64
  lastYoungGc : UInt64
  lastFullGc : UInt64
  deriving DecidableEq

/-- The record of a process with nothing known about it. -/
def JvmGc.zero : JvmGc := ⟨0, "", 0, 0, 0, 0, 0⟩

/-- One traced span reported by an agent. -/
structure SpanTrace where
  timestampNs : UInt64
  traceId : String
  apmSpanId : String
  serviceName : String
  url : String
  pid : UInt32
  tid : UInt32
  containerId : String
  nodeName : String
  nodeIp : String
  startTimeNs : UInt64
  endTimeNs : UInt64
  durationNs : UInt64
  isSlow : Bool
  isError : Bool
  isProfiled : Bool
  labels : Labels

/-- The process that produced the span: its pid at its container or, outside one, at its node. -/
def SpanTrace.instanceId (s : SpanTrace) : String :=
  s.pid.toNat.repr ++ "@" ++ (if s.containerId.isEmpty then s.nodeName else s.containerId)

/-- What slowed a request that exceeded its threshold. -/
structure SlowReport where
  timestampNs : UInt64
  traceId : String
  entryService : String
  entryUrl : String
  entrySpanId : String
  mutatedService : String
  mutatedUrl : String
  mutatedPid : UInt32
  mutatedSpanId : String
  cause : String
  durationNs : UInt64
  isDrop : Bool
  data : String
  deriving DecidableEq

/-- An error and, if known, the tree of calls through which it travelled. -/
structure ErrorReport where
  timestampNs : UInt64
  traceId : String
  isDrop : Bool
  cause : String
  relationTree : Option CallTree
  data : String

/-- How often one slow-report tuple triggered a profile, and how often with success, over one
collection interval. -/
structure ReportMetric where
  timestampNs : UInt64
  entryService : String
  entryUrl : String
  mutatedService : String
  mutatedPid : UInt32
  mutatedUrl : String
  total : Nat
  success : Nat
  deriving DecidableEq, Repr

/-- Triggered profiles that produced nothing; none when more succeeded than were triggered. -/
def ReportMetric.failed (m : ReportMetric) : Nat := m.total - m.success

/-- Time that a span spent in each state on and off the processor. -/
structure OnOffMetric where
  timestampNs : UInt64
  traceId : String
  apmSpanId : String
  pid : UInt32
  tid : UInt32
  cpuNs : UInt64
  futexNs : UInt64
  netNs : UInt64
  fileNs : UInt64
  epollNs : UInt64
  runqNs : UInt64
  otherNs : UInt64
  deriving DecidableEq

/-- The call tree of one trace. -/
structure Relation where
  traceId : String
  root : CallTree

/-- A change in the life of an agent, such as attaching to a process. -/
structure AgentEvent where
  /-- Seconds since the Unix epoch. -/
  timestampS : UInt64
  name : String
  pid : UInt32
  labels : Labels
  status : Bool

/-- A record as an agent sends it. -/
inductive Event where
  | profilingEvent (record : ProfilingEvent)
  | flameGraph (record : FlameGraph)
  | jvmGc (record : JvmGc)
  | spanTrace (record : SpanTrace)
  | slowReport (record : SlowReport)
  | errorReport (record : ErrorReport)
  | reportMetric (record : ReportMetric)
  | onOffMetric (record : OnOffMetric)
  | relation (record : Relation)
  | agentEvent (record : AgentEvent)

namespace Event

def kind : Event → Kind
  | profilingEvent _ => .profilingEvent
  | flameGraph _ => .flameGraph
  | jvmGc _ => .jvmGc
  | spanTrace _ => .spanTrace
  | slowReport _ => .slowReport
  | errorReport _ => .errorReport
  | reportMetric _ => .reportMetric
  | onOffMetric _ => .onOffMetric
  | relation _ => .serviceRelationship
  | agentEvent _ => .agentEvent

end Event

end Ingest
