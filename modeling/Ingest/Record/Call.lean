import Ingest.Tree

/-!
The call tree of one request across services, as both error reports and relations carry it. Each
node holds what is known of the service reached there and, if the node was reached by a client
call, that call.
-/

namespace Ingest

/-- An outgoing client call, recorded on the node it reached. -/
structure ClientCall where
  group : String
  clientType : String
  peer : String
  key : String
  durationNs : UInt64
  isError : Bool
  deriving DecidableEq, Repr

/-- The call that stands for a missing one: every text empty. -/
def ClientCall.absent : ClientCall := ⟨"", "", "", "", 0, false⟩

/-- A service as one node of a call tree. -/
structure CallNode where
  serviceName : String
  instanceName : String
  url : String
  spanId : String
  startTimeNs : UInt64
  isTraced : Bool
  isError : Bool
  isAsync : Bool
  /-- Set when the node is the true entry of the request. -/
  topNode : Bool
  errorTypes : List String
  errorMsgs : List String
  client : Option ClientCall
  deriving DecidableEq, Repr

abbrev CallTree := Tree CallNode

end Ingest
