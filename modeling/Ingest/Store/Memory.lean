import Ingest.Store.Backend

/-!
A store that keeps what is written to it. Single tables, and the making of databases, can be made to
fail. A dry run checks and accepts batches in the same way but keeps none.
-/

namespace Ingest

structure MemoryStore where
  dryRun : Bool := false
  /-- The batches written, first one first. -/
  batches : List Batch := []
  /-- The databases made ready, first one first. -/
  initialized : List String := []
  prepareCount : Nat := 0
  initFails : Bool := false
  failing : List Kind := []

namespace MemoryStore

def failInit (s : MemoryStore) (fail : Bool) : MemoryStore := { s with initFails := fail }

def failTable (s : MemoryStore) (k : Kind) (fail : Bool) : MemoryStore :=
  let others := s.failing.filter fun j => decide (j ≠ k)
  { s with failing := if fail then k :: others else others }

def batchesFor (s : MemoryStore) (table : String) : List Batch :=
  s.batches.filter fun b => b.kind.table == table

def prepare (s : MemoryStore) (_ : Statement) : Except StoreError Unit × MemoryStore :=
  (.ok (), { s with prepareCount := s.prepareCount + 1 })

/-- Writes a batch. A closed statement is refused, no rows are nothing to do, and a failing table
rejects. -/
def execute (s : MemoryStore) (st : Statement) (ready : Bool) (rows : List Row) :
    Execution × MemoryStore :=
  if !ready then ({ result := .error st.closedError }, s)
  else if rows.isEmpty then ({ result := .ok () }, s)
  else if st.kind ∈ s.failing then
    ({ result := .error (.rejected st.kind.table "table marked failing") }, s)
  else if s.dryRun then ({ result := .ok () }, s)
  else ({ result := .ok () }, { s with batches := s.batches ++ [⟨st.database, st.kind, rows⟩] })

def initDatabase (s : MemoryStore) (database : String) : Except InitError Unit × MemoryStore :=
  if s.initFails then (.error (.unavailable database), s)
  else (.ok (), { s with initialized := s.initialized ++ [database] })

def backend : Backend MemoryStore := { prepare, execute, initDatabase }

end MemoryStore

end Ingest
