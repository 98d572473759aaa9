import Ingest.Keyed
import Ingest.Metrics.Family
import Ingest.Record.Derived
import Ingest.Text.Digest

/-!
Latency and errors of calls to dependencies, as relations tell of them. A series is found by the hash
of the values of its labels, written one after the other; it carries the labels of its first
observation.
-/

namespace Ingest

structure ClientLabels where
  accountId : String
  service : String
  clientType : String
  peer : String
  url : String
  deriving DecidableEq, Repr

namespace ClientLabels

/-- The values of the labels, one after the other. -/
def joined (l : ClientLabels) : String :=
  l.accountId ++ l.service ++ l.clientType ++ l.peer ++ l.url

/-- What a series is found by. -/
def seriesKey (hash : String → UInt64) (l : ClientLabels) : UInt64 := hash l.joined

/-- The labels by name, in the order of the names. -/
def entries (l : ClientLabels) : List (String × String) :=
  [("account_id", l.accountId), ("client_type", l.clientType), ("peer", l.peer),
    ("service", l.service), ("url", l.url)]

end ClientLabels

structure ClientMetrics where
  /-- Whether the url is a label. -/
  withUrl : Bool
  /-- How texts are hashed. -/
  hash : String → UInt64 := Text.digest
  latency : Keyed UInt64 (ClientLabels × Histogram) := .empty
  errors : Keyed UInt64 (ClientLabels × Nat) := .empty

namespace ClientMetrics

def labelsOf (m : ClientMetrics) (accountId : String) (c : ServiceClient) : ClientLabels where
  accountId
  service := c.service
  clientType := c.clientType
  peer := c.clientPeer
  url := if m.withUrl then c.url else ""

/-- Counts one call for an account. -/
def observeCall (accountId : String) (m : ClientMetrics) (c : ServiceClient) : ClientMetrics :=
  let labels := m.labelsOf accountId c
  let key := labels.seriesKey m.hash
  let (first, h) := m.latency.getD key (labels, {})
  let latency := m.latency.insert key (first, h.observe c.durationNs)
  let errors :=
    if c.isError then
      let (first, n) := m.errors.getD key (labels, 0)
      m.errors.insert key (first, n + 1)
    else m.errors
  { m with latency, errors }

/-- Counts the calls that a relation tells of. -/
def observe (accountId : String) (m : ClientMetrics) (r : Relation) : ClientMetrics :=
  r.serviceClients.foldl (observeCall accountId) m

/-- Counts the calls of all relations among the events of an account. -/
def observeEvents (accountId : String) (m : ClientMetrics) (es : List Event) : ClientMetrics :=
  (es.filterMap Event.relation?).foldl (observe accountId) m

def families (m : ClientMetrics) : List Family :=
  [⟨Family.namespaceOf "client_errors_total",
      "Failed calls from a service to an external dependency.", .counter,
      m.errors.values.map fun e => ⟨e.1.entries, .number e.2⟩⟩,
    ⟨Family.namespaceOf "client_latency_seconds",
      "Latency of calls from a service to an external dependency.", .histogram,
      m.latency.values.map fun e => ⟨e.1.entries, .histogram e.2⟩⟩]

end ClientMetrics

end Ingest
