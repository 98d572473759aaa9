import Ingest.Metrics.Tally
import Ingest.Registry
import Ingest.Statement.Cache

/-!
Writing what waits in the caches. A flush drains every cache and writes one batch for each kind that
has rows, through the statement of its table. A batch that cannot be written is counted as lost, and
the others are written all the same; nothing is tried again, except that a statement found closed
when it is used is prepared anew, once.
-/

namespace Ingest

/-- What came of one flush. -/
structure FlushReport where
  tenants : Nat := 0
  rowsWritten : Nat := 0
  rowsLost : Nat := 0
  failedBatches : Nat := 0
  deriving DecidableEq, Repr

/-- What has been counted of writing. -/
structure WriteCounters where
  rowsFlushed : KindTally := Keyed.empty
  rowsLost : KindTally := Keyed.empty
  flushErrors : KindTally := Keyed.empty
  hits : Nat := 0
  misses : Nat := 0

/-- Where batches go: the store, the statements ready for it, and what has been counted. -/
structure Sink (σ : Type) where
  store : σ
  statements : StatementCache
  counters : WriteCounters := {}
  /-- The time, in nanoseconds, that the statements are judged by. -/
  clock : Nat := 0
  /-- How long each use of the statements takes. -/
  pace : Nat → Nat := fun _ => 2
  /-- How many uses there were. -/
  ticks : Nat := 0

def Batch.statement (b : Batch) : Statement := ⟨b.database, b.kind⟩

def Statement.key (s : Statement) : StatementKey := ⟨s.database, s.kind.table⟩

namespace Sink

variable {σ : Type}

/-- Lets the time of a use pass. -/
def tick (w : Sink σ) : Sink σ :=
  { w with clock := w.clock + w.pace w.ticks, ticks := w.ticks + 1 }

/-- Looks up the statement of a table. -/
def lookup (w : Sink σ) (key : StatementKey) : Option Nat × Sink σ :=
  let (found, statements) := w.statements.get key w.clock
  (found, { w with statements }.tick)

/-- Closes and drops the statements that are idle now. -/
def sweep (w : Sink σ) : Sink σ := { w with statements := (w.statements.evictIdle w.clock).2 }.tick

def closeAll (w : Sink σ) : Sink σ := { w with statements := w.statements.closeAll.2 }

/-- Has the store prepare a statement and caches it. -/
def prepare (b : Backend σ) (w : Sink σ) (s : Statement) : Except StoreError Nat × Sink σ :=
  match b.prepare w.store s with
  | (.error e, store) => (.error e, { w with store })
  | (.ok _, store) =>
    let (live, statements) := w.statements.put s.key s w.clock
    (.ok live, { w with store, statements }.tick)

/-- The number of a statement for a table: the cached one, or one that is prepared now. -/
def obtain (b : Backend σ) (w : Sink σ) (s : Statement) : Except StoreError Nat × Sink σ :=
  match w.lookup s.key with
  | (some id, w) => (.ok id, { w with counters := { w.counters with hits := w.counters.hits + 1 } })
  | (none, w) =>
    prepare b { w with counters := { w.counters with misses := w.counters.misses + 1 } } s

/-- Has the store execute a statement, as it was prepared, with rows. -/
def execute (b : Backend σ) (w : Sink σ) (s : Statement) (id : Nat) (rows : List Row) :
    Except StoreError Unit × Sink σ :=
  let prepared := (w.statements.ledger.statement? id).getD s
  let (x, store) := b.execute w.store prepared (w.statements.ledger.isReady id) rows
  let statements := if x.closedMeanwhile then w.statements.close id else w.statements
  (x.result, { w with store, statements })

/-- Writes rows through a statement; one that turns out to be closed is prepared anew. -/
def attempt (b : Backend σ) (w : Sink σ) (s : Statement) (id : Nat) (rows : List Row) :
    Except StoreError Unit × Sink σ :=
  match execute b w s id rows with
  | (.error e, w) =>
    if e.isClosed then
      match prepare b w s with
      | (.error e, w) => (.error e, w)
      | (.ok id, w) => execute b w s id rows
    else (.error e, w)
  | done => done

/-- Writes rows to the table of a statement. -/
def writeRows (b : Backend σ) (w : Sink σ) (s : Statement) (rows : List Row) :
    Except StoreError Unit × Sink σ :=
  match obtain b w s with
  | (.error e, w) => (.error e, w)
  | (.ok id, w) => attempt b w s id rows

/-- Writes a batch and counts its rows as written or as lost. -/
def write (b : Backend σ) (acc : FlushReport × Sink σ) (batch : Batch) : FlushReport × Sink σ :=
  let (report, w) := acc
  let n := batch.rows.length
  match writeRows b w batch.statement batch.rows with
  | (.ok _, w) =>
    ({ report with rowsWritten := report.rowsWritten + n },
      { w with counters := { w.counters with
          rowsFlushed := KindTally.add w.counters.rowsFlushed batch.kind n } })
  | (.error _, w) =>
    ({ report with
        rowsLost := report.rowsLost + n, failedBatches := report.failedBatches + 1 },
      { w with counters := { w.counters with
          flushErrors := KindTally.add w.counters.flushErrors batch.kind 1
          rowsLost := KindTally.add w.counters.rowsLost batch.kind n } })

end Sink

/-- The kinds that a flush writes; calls to dependencies only if they are to be exported. -/
def flushedKinds (exportClients : Bool) : List Kind :=
  Kind.all.filter fun k => exportClients || decide (k ≠ .serviceClient)

/-- The batches of one cache: one for each kind that has rows. -/
def TenantCache.batches (exportClients : Bool) (c : TenantCache) : List Batch :=
  ((flushedKinds exportClients).map fun k => ⟨c.database, k, rowsOf c.pending k⟩).filter
    fun b => !b.rows.isEmpty

/-- Writes the batches of every cache. -/
def flush {σ : Type} (b : Backend σ) (exportClients : Bool) (caches : List TenantCache)
    (w : Sink σ) : FlushReport × Sink σ :=
  (caches.flatMap (TenantCache.batches exportClients)).foldl (Sink.write b)
    ({ tenants := caches.length }, w)

end Ingest
