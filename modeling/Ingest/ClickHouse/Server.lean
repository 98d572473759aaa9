import Ingest.ClickHouse.Query
import Ingest.Keyed
import Ingest.Store.Backend

/-!
ClickHouse servers as seen from a client. A server answers each query in the light of the queries
before it, with a list of names (empty for a query that asks for none) or with a fault. A scripted
server lists fixed names and fails every query whose text holds one of its patterns.
-/

namespace Ingest.ClickHouse

structure Server where
  /-- The answer to a query, given the queries sent before it. -/
  answer : List Query → Query → Except ServerFault (List String)

/-- A fault that a scripted server reports for every text that holds a pattern. -/
structure ScriptedFault where
  pattern : String
  fault : ServerFault
  deriving DecidableEq, Repr

/-- Whether the pattern stands somewhere in a text. -/
def ScriptedFault.stands (f : ScriptedFault) : List Char → Bool
  | [] => f.pattern.isEmpty
  | c :: cs => f.pattern.toList.isPrefixOf (c :: cs) || f.stands cs

structure Script where
  tables : List String := []
  columns : Keyed String (List String) := .empty
  faults : List ScriptedFault := []

namespace Script

/-- The fault for a text: that of the first pattern it holds. -/
def fault? (s : Script) (text : String) : Option ServerFault :=
  (s.faults.find? (·.stands text.toList)).map (·.fault)

/-- The names a query asks for. -/
def names (s : Script) : Query → List String
  | .listTables _ => s.tables
  | .listColumns st => s.columns.getD st.kind.table []
  | _ => []

def server (s : Script) : Server where
  answer _ q :=
    match s.fault? q.text with
    | some fault => .error fault
    | none => .ok (s.names q)

end Script

end Ingest.ClickHouse
