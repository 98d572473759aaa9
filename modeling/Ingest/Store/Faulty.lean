import Ingest.Keyed
import Ingest.Store.Memory

/-!
A memory store behind faults that are set from outside: tables whose statements cannot be prepared,
because the table or some of its columns are missing, and tables whose next statements are closed
just before they are executed.
-/

namespace Ingest

structure FaultyStore where
  inner : MemoryStore := {}
  /-- The tables that cannot be prepared, with the columns they miss; none stands for the table. -/
  unprepared : Keyed Kind (List String) := .empty
  /-- How many more executions find their statement closed. -/
  sweeps : Keyed Kind Nat := .empty

namespace FaultyStore

def failPrepare (s : FaultyStore) (k : Kind) (missing : Option (List String)) : FaultyStore :=
  { s with
    unprepared := match missing with
      | some missing => s.unprepared.insert k missing
      | none => s.unprepared.erase k }

def prepare (s : FaultyStore) (st : Statement) : Except StoreError Unit × FaultyStore :=
  match s.unprepared.get? st.kind with
  | some [] => (.error (.unknownTable st.database st.kind.table), s)
  | some missing => (.error (.missingColumns st.database st.kind.table missing), s)
  | none =>
    let (answer, inner) := s.inner.prepare st
    (answer, { s with inner })

def execute (s : FaultyStore) (st : Statement) (ready : Bool) (rows : List Row) :
    Execution × FaultyStore :=
  let left := s.sweeps.getD st.kind 0
  if left > 0 then
    let (x, inner) := s.inner.execute st false rows
    ({ x with closedMeanwhile := true },
      { s with inner, sweeps := s.sweeps.insert st.kind (left - 1) })
  else
    let (x, inner) := s.inner.execute st ready rows
    (x, { s with inner })

def initDatabase (s : FaultyStore) (database : String) : Except InitError Unit × FaultyStore :=
  let (answer, inner) := s.inner.initDatabase database
  (answer, { s with inner })

def backend : Backend FaultyStore := { prepare, execute, initDatabase }

end FaultyStore

end Ingest
