import Ingest.Keyed
import Ingest.Record.Event
import Ingest.Signal.Tally
import Ingest.Tenant
import Ingest.Text.Ordered

/-!
Signals of slow traces. Each counts towards one endpoint on one node of one tenant, and may ask that
node's agent for a profile. Agents ask which endpoints to close and which to recover, and take the
profile requests that wait for them; from time to time everything counted is collected into report
metrics and forgotten. A collection meets what is counted in an order of its own.
-/

namespace Ingest

/-- An entry of the system together with the process and url that was slow behind it. -/
structure SlowEndpoint where
  entryService : String
  entryUrl : String
  mutatedService : String
  mutatedPid : UInt32
  mutatedUrl : String
  deriving DecidableEq, Repr

/-- What an agent switches by: the process and the url. -/
def SlowEndpoint.switchKey (e : SlowEndpoint) : String :=
  e.mutatedPid.toNat.repr ++ "-" ++ e.mutatedUrl

/-- The node of a tenant, which one agent serves. -/
structure AgentNode where
  tenant : Tenant
  ip : String
  deriving DecidableEq, Repr

/-- An agent is asked to profile one thread over a stretch of time. -/
structure ProfileRequest where
  pid : UInt32
  tid : UInt32
  startTimeNs : UInt64
  endTimeNs : UInt64
  deriving DecidableEq, Repr

/-- A request as the JSON text that agents receive. -/
def ProfileRequest.text (r : ProfileRequest) : String :=
  "\x7b\"pid\":" ++ r.pid.toNat.repr ++ ",\"tid\":" ++ r.tid.toNat.repr ++ ",\"start_time\":"
    ++ r.startTimeNs.toNat.repr ++ ",\"end_time\":" ++ r.endTimeNs.toNat.repr ++ "\x7d"

/-- What an agent is to switch off and on again, each in order and without repetition. -/
structure Switches where
  close : List String := []
  recover : List String := []
  deriving DecidableEq, Repr

/-- One slow trace, seen behind an entry. -/
structure Signal where
  tenant : Tenant
  entryService : String
  entryUrl : String
  trace : SpanTrace
  needProfile : Bool

namespace Signal

def node (s : Signal) : AgentNode := ⟨s.tenant, s.trace.nodeIp⟩

def endpoint (s : Signal) : SlowEndpoint :=
  ⟨s.entryService, s.entryUrl, s.trace.instanceId, s.trace.pid, s.trace.url⟩

def request (s : Signal) : ProfileRequest :=
  ⟨s.trace.pid, s.trace.tid, s.trace.startTimeNs, s.trace.endTimeNs⟩

end Signal

/-- Everything that is known from signals. -/
structure SignalBoard where
  tallies : Keyed (AgentNode × SlowEndpoint) SignalTally := .empty
  /-- The profile requests that wait, first one first. -/
  requests : List (AgentNode × ProfileRequest) := []
  /-- How many keys were reported to be closed. -/
  closed : Nat := 0
  /-- How many keys were reported to be recovered. -/
  recovered : Nat := 0
  /-- How many metrics were collected. -/
  collected : Nat := 0
  /-- In which order each collection meets the tallies; those that are not listed come last. -/
  order : Nat → List (AgentNode × SlowEndpoint) := fun _ => []
  /-- How many collections there were. -/
  collections : Nat := 0

namespace SignalBoard

/-- Counts a signal and, if it needs a profile, queues the request. -/
def add (b : SignalBoard) (s : Signal) : SignalBoard :=
  { b with
    tallies := b.tallies.alter (s.node, s.endpoint) fun t => (t.getD {}).observe s.trace.isProfiled
    requests := if s.needProfile then b.requests ++ [(s.node, s.request)] else b.requests }

/-- The endpoints of a node with what is counted of them. -/
def endpointsOf (b : SignalBoard) (n : AgentNode) : List (SlowEndpoint × SignalTally) :=
  b.tallies.entries.filterMap fun e => if e.1.1 = n then some (e.1.2, e.2) else none

/-- The switches of checked endpoints. What recovers through one endpoint but is silent through
another stays closed. -/
def switchesOf (checks : List (SlowEndpoint × StatusCheck)) : Switches :=
  let keysWhere (p : StatusCheck → Bool) := (checks.filter fun c => p c.2).map fun c => c.1.switchKey
  let silent := keysWhere (·.silent)
  { close := Text.ordered (keysWhere (·.toClose))
    recover := (Text.ordered (keysWhere (·.toRecover))).filter fun k => decide (k ∉ silent) }

/-- Checks every endpoint of a node and says what its agent is to switch. -/
def query (b : SignalBoard) (n : AgentNode) : Switches × SignalBoard :=
  let switches := switchesOf ((b.endpointsOf n).map fun e => (e.1, e.2.check.1))
  (switches,
    { b with
      tallies := b.tallies.mapValues fun k t => if k.1 = n then t.check.2 else t
      closed := b.closed + switches.close.length
      recovered := b.recovered + switches.recover.length })

/-- Takes the requests that wait for a node. -/
def take (b : SignalBoard) (n : AgentNode) : List ProfileRequest × SignalBoard :=
  (b.requests.filterMap fun r => if r.1 = n then some r.2 else none,
    { b with requests := b.requests.filter fun r => decide (r.1 ≠ n) })

/-- The metric of an endpoint, if anything was counted. -/
def metric? (now : UInt64) (e : SlowEndpoint) (t : SignalTally) : Option ReportMetric :=
  if t.total = 0 then none
  else some
    { timestampNs := now
      entryService := e.entryService
      entryUrl := e.entryUrl
      mutatedService := e.mutatedService
      mutatedPid := e.mutatedPid
      mutatedUrl := e.mutatedUrl
      total := t.total
      success := t.success }

/-- The tenants of which something is counted, each once. -/
def tenants (b : SignalBoard) : List Tenant :=
  (b.tallies.keys.map fun k => k.1.tenant).eraseDups

/-- The metrics of everything counted of a tenant. -/
def metricsOf (b : SignalBoard) (now : UInt64) (t : Tenant) : List ReportMetric :=
  b.tallies.entries.filterMap fun e =>
    if e.1.1.tenant = t then metric? now e.1.2 e.2 else none

/-- The board with its tallies in the order in which the next collection meets them. -/
def visited (b : SignalBoard) : SignalBoard :=
  { b with tallies := b.tallies.arrange (b.order b.collections) }

/-- The metrics of everything counted, by tenant. -/
def groups (b : SignalBoard) (now : UInt64) : List (Tenant × List ReportMetric) :=
  (b.tenants.map fun t => (t, b.metricsOf now t)).filter fun g => !g.2.isEmpty

/-- Collects everything counted, by tenant, and forgets it. -/
def collect (b : SignalBoard) (now : UInt64) :
    List (Tenant × List ReportMetric) × SignalBoard :=
  let groups := b.visited.groups now
  (groups,
    { b with
      tallies := .empty
      collected := b.collected + (groups.map fun g => g.2.length).sum
      collections := b.collections + 1 })

end SignalBoard

end Ingest
