import Ingest.Duration
import Ingest.Keyed
import Ingest.Statement

/-!
The cache of ready statements, one for each table of each database. A statement that has not been
used for longer than the idle timeout is closed: when it is looked up, or by a sweep over all of
them. At most one statement of a key is ready, and nothing ready is out of the cache's reach. Times
are in nanoseconds of a clock that may be read late, so a difference below zero counts as zero.
-/

namespace Ingest

/-- What a statement is cached under. -/
structure StatementKey where
  database : String
  table : String
  deriving DecidableEq, Repr

/-- A cached statement and when it was last used. -/
structure CachedStatement where
  id : Nat
  lastUsed : Nat
  deriving DecidableEq, Repr

structure StatementCache where
  idleTimeout : Duration
  /-- Every statement that was ever put into the cache. -/
  ledger : Ledger := {}
  entries : Keyed StatementKey CachedStatement := .empty
  /-- How many statements were closed for being idle or found closed by a look-up. -/
  evictions : Nat := 0
  /-- The size that was last reported. -/
  sizeGauge : Nat := 0

namespace StatementCache

def size (c : StatementCache) : Nat := c.entries.size

def isIdle (c : StatementCache) (lastUsed now : Nat) : Bool :=
  decide (c.idleTimeout.nanos < now - lastUsed)

/-- Whether an entry is no longer to be handed out. -/
def isStale (c : StatementCache) (e : CachedStatement) (now : Nat) : Bool :=
  !c.ledger.isReady e.id || c.isIdle e.lastUsed now

def reportSize (c : StatementCache) : StatementCache := { c with sizeGauge := c.size }

/-- Closes a statement, from inside or outside the cache. -/
def close (c : StatementCache) (id : Nat) : StatementCache := { c with ledger := c.ledger.close id }

/-- Closes the statements of some entries. -/
def closeEach (c : StatementCache) (es : List CachedStatement) : StatementCache :=
  { c with ledger := es.foldl (fun l e => l.close e.id) c.ledger }

/-- Looks up the statement of a key and notes the use of it. One that has gone stale is closed and
dropped, and nothing is found. -/
def get (c : StatementCache) (key : StatementKey) (now : Nat) : Option Nat × StatementCache :=
  match c.entries.get? key with
  | none => (none, c)
  | some e =>
    if c.isStale e now then
      let dropped := { c.close e.id with
        entries := c.entries.erase key, evictions := c.evictions + 1 }
      (none, dropped.reportSize)
    else (some e.id, { c with entries := c.entries.insert key { e with lastUsed := now } })

/-- Puts a new statement under a key and gives the one that is ready there from now on: the new one,
unless the key has a ready one already, which refuses it. -/
def put (c : StatementCache) (key : StatementKey) (s : Statement) (now : Nat) :
    Nat × StatementCache :=
  let fresh := c.ledger.size
  let present := (c.entries.get? key).bind fun e =>
    if c.ledger.isReady e.id then some e.id else none
  let live := present.getD fresh
  let standing := if present.isSome then Standing.refused else .ready
  let kept := { c with
    ledger := c.ledger.enter s standing, entries := c.entries.insert key ⟨live, now⟩ }
  (live, kept.reportSize)

/-- Closes and drops the statements that are idle at a time; how many there were. -/
def evictIdle (c : StatementCache) (now : Nat) : Nat × StatementCache :=
  let idle := c.entries.filter fun _ e => c.isIdle e.lastUsed now
  let swept := { c.closeEach idle.values with
    entries := c.entries.filter fun _ e => !c.isIdle e.lastUsed now
    evictions := c.evictions + idle.size }
  (idle.size, swept.reportSize)

/-- Closes and drops every statement; how many there were. -/
def closeAll (c : StatementCache) : Nat × StatementCache :=
  (c.size, ({ c.closeEach c.entries.values with entries := .empty } : StatementCache).reportSize)

end StatementCache

end Ingest
