import Ingest.Record.Event

/-!
Records derived from what agents send, when a tenant is flushed: the propagation of an error
through the services of its call tree, the relationships between the services of a relation, and
the calls of its services to dependencies that are not traced themselves.
-/

namespace Ingest

/-- One node of a flattened error propagation. -/
structure PropagationNode where
  service : String
  instanceName : String
  url : String
  isTraced : Bool
  isError : Bool
  errorTypes : String
  errorMsgs : String
  depth : Nat
  path : String
  deriving DecidableEq, Repr

/-- The call tree of an error, flattened in depth-first pre-order. -/
structure ErrorPropagation where
  timestampNs : UInt64
  traceId : String
  entryService : String
  entryUrl : String
  entrySpanId : String
  nodes : List PropagationNode
  deriving DecidableEq, Repr

/-- One edge from a parent to a child in the call tree of a relation. -/
structure Relationship where
  parentService : String
  parentUrl : String
  service : String
  url : String
  path : String
  clientGroup : String
  clientType : String
  clientPeer : String
  clientKey : String
  parentTraced : Bool
  isAsync : Bool
  isTraced : Bool
  deriving DecidableEq, Repr

/-- A call made by a service to a dependency that is not traced. -/
structure ServiceClient where
  timestampNs : UInt64
  traceId : String
  service : String
  url : String
  clientGroup : String
  clientType : String
  clientPeer : String
  clientKey : String
  durationNs : UInt64
  isError : Bool
  deriving DecidableEq, Repr

/-- A visit of a call tree, flattened; the errors of the node are joined with commas. -/
def PropagationNode.ofVisit (v : Visit CallNode) : PropagationNode where
  service := v.value.serviceName
  instanceName := v.value.instanceName
  url := v.value.url
  isTraced := v.value.isTraced
  isError := v.value.isError
  errorTypes := ",".intercalate v.value.errorTypes
  errorMsgs := ",".intercalate v.value.errorMsgs
  depth := v.depth
  path := v.path.text

namespace ErrorReport

/-- Service, url and span id of the root: what joins a report to its propagation. -/
def joinKeys (r : ErrorReport) : Option (String × String × String) :=
  r.relationTree.map fun t => (t.value.serviceName, t.value.url, t.value.spanId)

/-- The propagation of a report; a dropped report and one without a tree have none. -/
def propagation? (r : ErrorReport) : Option ErrorPropagation :=
  if r.isDrop then none
  else r.relationTree.map fun t =>
    { timestampNs := r.timestampNs
      traceId := r.traceId
      entryService := t.value.serviceName
      entryUrl := t.value.url
      entrySpanId := t.value.spanId
      nodes := t.walk.map PropagationNode.ofVisit }

end ErrorReport

namespace Relation

/-- Whether the root is not the true entry of the request. -/
def missTop (r : Relation) : Bool := !r.root.value.topNode

/-- One relationship for each edge; without a client call its four client texts are empty. -/
def relationshipOf (e : Edge CallNode) : Relationship :=
  let call := e.child.client.getD ClientCall.absent
  { parentService := e.parent.serviceName
    parentUrl := e.parent.url
    service := e.child.serviceName
    url := e.child.url
    path := e.path.text
    clientGroup := call.group
    clientType := call.clientType
    clientPeer := call.peer
    clientKey := call.key
    parentTraced := e.parent.isTraced
    isAsync := e.child.isAsync
    isTraced := e.child.isTraced }

def relationships (r : Relation) : List Relationship := r.root.edges.map relationshipOf

/-- The call along an edge, if it leads to a node that is not traced and carries a call. -/
def clientOf? (traceId : String) (e : Edge CallNode) : Option ServiceClient :=
  if e.child.isTraced then none
  else e.child.client.map fun call =>
    { timestampNs := e.child.startTimeNs
      traceId := traceId
      service := e.parent.serviceName
      url := e.parent.url
      clientGroup := call.group
      clientType := call.clientType
      clientPeer := call.peer
      clientKey := call.key
      durationNs := call.durationNs
      isError := call.isError }

def serviceClients (r : Relation) : List ServiceClient :=
  r.root.edges.filterMap (clientOf? r.traceId)

end Relation

namespace Event

/-- The propagation that an event gives rise to, if it is an error report that has one. -/
def propagation? : Event → Option ErrorPropagation
  | errorReport r => r.propagation?
  | _ => none

/-- The relation that an event is, if it is one. -/
def relation? : Event → Option Relation
  | relation r => some r
  | _ => none

/-- The calls to untraced dependencies that an event tells of. -/
def serviceClients (e : Event) : List ServiceClient :=
  (e.relation?.map Relation.serviceClients).getD []

end Event

end Ingest
