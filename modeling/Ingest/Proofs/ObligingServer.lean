import Ingest.Proofs.FlushAccounts
import Ingest.Proofs.Lockstep
import Ingest.Proofs.QueryNames

/-!
A ClickHouse server that takes every query and lists every column. Main statements: the store in front
of it answers as a memory store does that takes everything; and for each batch it sends one insert,
after one query for the columns of the table if no statement was found for it.
-/

namespace Ingest

variable {σ τ : Type}

/-! ### Statements in use -/

/-- A batch, and whether its statement was missing when it was looked up. -/
structure StatementUse where
  batch : Batch
  missed : Bool
  deriving DecidableEq

/-- Whether hits and misses are those of uses. -/
structure WriteCounters.CountsUses (c : WriteCounters) (us : List StatementUse) : Prop where
  hits : c.hits = us.countP fun u => !u.missed
  misses : c.misses = us.countP (·.missed)

namespace Sink

variable (b : Backend σ)

/-- How batches that are written one after the other find their statements. -/
def uses (acc : FlushReport × Sink σ) : List Batch → List StatementUse
  | [] => []
  | batch :: rest =>
    ⟨batch, (acc.2.statements.get batch.statement.key acc.2.clock).1.isNone⟩
      :: uses (write b acc batch) rest

/-- Stores that answer alike make no difference to the statements that are found. -/
theorem uses_same {b : Backend σ} {b' : Backend τ} {R : σ → τ → Prop} (hb : b.Lockstep b' R) :
    ∀ (bs : List Batch) {acc : FlushReport × Sink σ} {acc' : FlushReport × Sink τ},
      SameOutcome (Related R) acc acc' → uses b' acc' bs = uses b acc bs
  | [], _, _, _ => rfl
  | batch :: bs, _, _, h => by
    rw [uses, uses, uses_same hb bs (write_same hb h batch)]
    obtain ⟨-, t, hw, -⟩ := h
    rw [hw]
    rfl

/-- A write counts the look-up of its statement. -/
theorem countsUses_write {acc : FlushReport × Sink σ} {us : List StatementUse}
    (h : acc.2.counters.CountsUses us) (batch : Batch) :
    (write b acc batch).2.counters.CountsUses (us ++
      [⟨batch, (acc.2.statements.get batch.statement.key acc.2.clock).1.isNone⟩]) := by
  have hcounters := counters_writeRows b acc.2 batch.statement batch.rows
  have hlookups : (write b acc batch).2.counters.hits
        = (writeRows b acc.2 batch.statement batch.rows).2.counters.hits ∧
      (write b acc batch).2.counters.misses
        = (writeRows b acc.2 batch.statement batch.rows).2.counters.misses := by
    obtain ⟨report, w⟩ := acc
    unfold write
    cases hw : writeRows b w batch.statement batch.rows with
    | mk result w' => cases result <;> simp [hw]
  obtain ⟨hhits, hmisses⟩ := hlookups
  rw [hcounters] at hhits hmisses
  cases hnone : (acc.2.statements.get batch.statement.key acc.2.clock).1.isNone <;>
    simp only [hnone, if_true, Bool.false_eq_true, if_false] at hhits hmisses
  · exact ⟨by simp [hhits, h.hits], by simp [hmisses, h.misses]⟩
  · exact ⟨by simp [hhits, h.hits], by simp [hmisses, h.misses]⟩

theorem countsUses_foldl : ∀ (bs : List Batch) (acc : FlushReport × Sink σ)
    {us : List StatementUse}, acc.2.counters.CountsUses us →
      (bs.foldl (write b) acc).2.counters.CountsUses (us ++ uses b acc bs)
  | [], acc, us, h => by simpa [uses] using h
  | batch :: bs, acc, us, h => by
    have ih := countsUses_foldl bs _ (countsUses_write b h batch)
    rwa [List.append_assoc] at ih

end Sink

/-! ### A server that takes everything -/

namespace ClickHouse

/-- Whether a server takes every query, and lists every column of a table that it is asked for. -/
structure Server.Obliging (s : Server) : Prop where
  takes : ∀ sent q, ∃ names, s.answer sent q = .ok names
  lists : ∀ sent st names, s.answer sent (.listColumns st) = .ok names →
    ∀ column ∈ st.kind.columns, column ∈ names

/-- The batch that an insert writes. -/
def Query.inserted? : Query → Option Batch
  | insert s rows => some ⟨s.database, s.kind, rows⟩
  | _ => none

def Query.isInsert (q : Query) : Bool := q.inserted?.isSome

/-- Whether a query is part of writing batches. -/
def Query.isWriting : Query → Bool
  | listColumns _ | insert _ _ => true
  | _ => false

/-- The queries for a batch: its columns if its statement was missing, and the insert. -/
def queriesOf (u : StatementUse) : List Query :=
  (if u.missed then [Query.listColumns u.batch.statement] else [])
    ++ [.insert u.batch.statement u.batch.rows]

theorem filter_queriesOf (us : List StatementUse) :
    (us.flatMap queriesOf).filter Query.isWriting = us.flatMap queriesOf := by
  rw [List.filter_eq_self]
  intro q hq
  obtain ⟨u, -, hq⟩ := List.mem_flatMap.mp hq
  unfold queriesOf at hq
  split at hq <;> simp at hq
  · rcases hq with rfl | rfl <;> rfl
  · rw [hq]; rfl

theorem inserted_queriesOf (us : List StatementUse) :
    (us.flatMap queriesOf).filterMap Query.inserted? = us.map (·.batch) := by
  rw [List.filterMap_flatMap, List.map_eq_flatMap]
  refine List.flatMap_congr fun u _ => ?_
  obtain ⟨batch, missed⟩ := u
  cases missed <;> rfl

theorem filterMap_filter_isWriting (sent : List Query) :
    (sent.filter Query.isWriting).filterMap Query.inserted? = sent.filterMap Query.inserted? := by
  rw [List.filterMap_filter]
  refine List.filterMap_congr fun q _ => ?_
  cases q <;> rfl

/-- The text of an insert is told by its batch. -/
theorem text_inserts (sent : List Query) :
    (sent.filter Query.isInsert).map Query.text
      = (sent.filterMap Query.inserted?).map fun batch => batch.statement.render batch.rows := by
  induction sent with
  | nil => rfl
  | cons q sent ih =>
    cases q with
    | insert s rows => exact congrArg ((Query.insert s rows).text :: ·) ih
    | _ => exact ih

namespace Store

variable {s : Store} {sent : List Query}

theorem columns_ne_nil (k : Kind) : k.columns ≠ [] := by cases k <;> simp [Kind.columns]

/-- A table that lists every column is without fault. -/
theorem columnFault?_eq_none {st : Statement} {listed : List String}
    (h : ∀ column ∈ st.kind.columns, column ∈ listed) : columnFault? st listed = none := by
  obtain ⟨column, hcolumn⟩ := List.exists_mem_of_ne_nil _ (columns_ne_nil st.kind)
  have hlisted : listed.isEmpty = false :=
    List.isEmpty_eq_false_iff.mpr (List.ne_nil_of_mem (h column hcolumn))
  have hmissing : st.kind.columns.filter (fun c => decide (c ∉ listed)) = [] := by
    rw [List.filter_eq_nil_iff]
    intro column hcolumn
    simpa using h column hcolumn
  rw [columnFault?, hlisted, hmissing]
  rfl

/-- A table is prepared by asking for its columns. -/
theorem prepare_obliging (h : s.server.Obliging) (sent : List Query) (st : Statement) :
    s.prepare sent st = (.ok (), sent ++ [.listColumns st]) := by
  obtain ⟨names, hanswer⟩ := h.takes sent (.listColumns st)
  simp [prepare, send, hanswer, columnFault?_eq_none (h.lists sent st names hanswer)]

/-- Rows are written by an insert. -/
theorem execute_obliging (h : s.server.Obliging) (sent : List Query) (st : Statement)
    {rows : List Row} (hrows : rows ≠ []) :
    s.execute sent st true rows = ({ result := .ok () }, sent ++ [.insert st rows]) := by
  obtain ⟨names, hanswer⟩ := h.takes sent (.insert st rows)
  simp [execute, send, hanswer, hrows]

theorem sendAll_obliging (h : s.server.Obliging) : ∀ (qs sent : List Query),
    (s.sendAll sent qs).1 = none
  | [], _ => rfl
  | q :: qs, sent => by
    obtain ⟨names, hanswer⟩ := h.takes sent q
    simp [sendAll, hanswer, sendAll_obliging h qs]

/-- A database is made by queries that have no part in writing. -/
theorem initDatabase_obliging (h : s.server.Obliging) (sent : List Query) (database : String) :
    ∃ new, s.initDatabase sent database = (.ok (), sent ++ new) ∧
      ∀ q ∈ new, q.inserted? = none ∧ q.isWriting = false := by
  obtain ⟨new, hnew, hasks⟩ := s.exists_initDatabase_eq sent database
  refine ⟨new, Prod.ext ?_ hnew, fun q hq => ?_⟩
  · let create := Query.createDatabase database (cluster? s.settings)
    let list := Query.listTables database
    obtain ⟨names, hcreate⟩ := h.takes sent create
    obtain ⟨existing, hlist⟩ := h.takes (sent ++ [create]) list
    have hnone := sendAll_obliging h (upkeep s.settings database existing)
      (sent ++ [create] ++ [list])
    cases hx : s.sendAll (sent ++ [create] ++ [list]) (upkeep s.settings database existing) with
    | mk failed sent' =>
      obtain rfl : failed = none := by rw [hx] at hnone; exact hnone
      simp only [initDatabase, send, create, list, hcreate, hlist, hx]
  · cases hasks q hq <;> exact ⟨rfl, rfl⟩

/-- A memory store that takes everything, and the queries that were sent for the same batches. -/
structure Mirrors (m : MemoryStore) (sent : List Query) : Prop where
  keeps : m.dryRun = false
  makes : m.initFails = false
  takes : m.failing = []
  inserted : sent.filterMap Query.inserted? = m.batches

/-- The two stores answer alike. -/
theorem lockstep (h : s.server.Obliging) : MemoryStore.backend.Lockstep s.backend Mirrors where
  prepare := by
    intro m sent hm st
    have hprepare : s.backend.prepare sent st = (.ok (), sent ++ [.listColumns st]) :=
      prepare_obliging h sent st
    rw [hprepare]
    exact ⟨rfl, hm.keeps, hm.makes, hm.takes, by
      rw [List.filterMap_append, hm.inserted]; exact List.append_nil _⟩
  execute := by
    intro m sent hm st ready rows
    by_cases hwrites : ready = true ∧ rows ≠ []
    · obtain ⟨rfl, hrows⟩ := hwrites
      have hexecute : s.backend.execute sent st true rows
          = ({ result := .ok () }, sent ++ [.insert st rows]) := execute_obliging h sent st hrows
      have hmemory : MemoryStore.backend.execute m st true rows = ({ result := .ok () },
          { m with batches := m.batches ++ [⟨st.database, st.kind, rows⟩] }) :=
        (MemoryStore.execute_ready hm.keeps st hrows).trans
          (if_neg (by rw [hm.takes]; exact List.not_mem_nil))
      rw [hexecute, hmemory]
      exact ⟨rfl, hm.keeps, hm.makes, hm.takes, by
        rw [List.filterMap_append, hm.inserted]; rfl⟩
    · -- Nothing is sent or kept.
      cases ready with
      | false => exact ⟨rfl, hm⟩
      | true =>
        obtain rfl : rows = [] := by simpa using hwrites
        exact ⟨rfl, hm⟩
  initDatabase := by
    intro m sent hm database
    obtain ⟨new, hinit, hnew⟩ := initDatabase_obliging h sent database
    have hinit : s.backend.initDatabase sent database = (.ok (), sent ++ new) := hinit
    have hmemory : MemoryStore.backend.initDatabase m database
        = (.ok (), { m with initialized := m.initialized ++ [database] }) := by
      simp [MemoryStore.backend, MemoryStore.initDatabase, hm.makes]
    have hnone : new.filterMap Query.inserted? = [] :=
      List.filterMap_eq_nil_iff.mpr fun q hq => (hnew q hq).1
    rw [hinit, hmemory]
    exact ⟨rfl, hm.keeps, hm.makes, hm.takes, by
      rw [List.filterMap_append, hm.inserted, hnone]; exact List.append_nil _⟩

/-! ### Writing to such a server -/

variable {w : Sink (List Query)}

theorem attempt_obliging (h : s.server.Obliging) {id : Nat} {st : Statement}
    (hserves : w.statements.Serves id st) {rows : List Row} (hrows : rows ≠ []) :
    Sink.attempt s.backend w st id rows
      = (.ok (), { w with store := w.store ++ [.insert st rows] }) := by
  have hexecute : s.backend.execute w.store st true rows
      = ({ result := .ok () }, w.store ++ [.insert st rows]) := execute_obliging h w.store st hrows
  rw [Sink.attempt, Sink.execute_of_serves _ hserves, hexecute]
  rfl

/-- A batch is sent, after the columns were asked for if its statement was missing. -/
theorem writeRows_obliging (h : s.server.Obliging) (hfiled : w.statements.Filed) {batch : Batch}
    (hrows : batch.rows ≠ []) :
    (Sink.writeRows s.backend w batch.statement batch.rows).2.statements.Filed ∧
    (Sink.writeRows s.backend w batch.statement batch.rows).2.store = w.store
      ++ queriesOf ⟨batch, (w.statements.get batch.statement.key w.clock).1.isNone⟩ := by
  have hfiled' := Sink.filed_obtain s.backend hfiled batch.statement
  obtain ⟨w', hstore, hget, ⟨id, hfound, heq⟩ | ⟨hnone, heq⟩⟩ :=
    Sink.obtain_cases s.backend w batch.statement
  · have hserves : w'.statements.Serves id batch.statement := hget ▸ hfiled.serves_get hfound
    rw [heq] at hfiled'
    rw [Sink.writeRows, heq, hfound]
    dsimp only
    rw [attempt_obliging h hserves hrows, hstore]
    exact ⟨hfiled', rfl⟩
  · have hanswer : s.backend.prepare w'.store batch.statement
        = (.ok (), w'.store ++ [.listColumns batch.statement]) := prepare_obliging h _ _
    obtain ⟨id, w'', hprepare, hstore''⟩ : ∃ id w'', Sink.prepare s.backend w' batch.statement
        = (.ok id, w'') ∧ w''.store = w.store ++ [.listColumns batch.statement] := by
      rw [Sink.prepare, hanswer, hstore]
      exact ⟨_, _, rfl, rfl⟩
    have hserves : w''.statements.Serves id batch.statement := by
      have hprepared := Sink.serves_prepare s.backend (hget ▸ hfiled.get batch.statement.key w.clock)
        (congrArg Prod.fst hprepare)
      rwa [hprepare] at hprepared
    rw [heq, hprepare] at hfiled'
    rw [Sink.writeRows, heq, hprepare, hnone]
    dsimp only
    rw [attempt_obliging h hserves hrows, hstore'', List.append_assoc]
    exact ⟨hfiled', rfl⟩

/-- The queries of batches that are written one after the other. -/
theorem queries_foldl (h : s.server.Obliging) : ∀ (bs : List Batch)
    (acc : FlushReport × Sink (List Query)), acc.2.statements.Filed →
      (∀ batch ∈ bs, batch.rows ≠ []) →
        (bs.foldl (Sink.write s.backend) acc).2.statements.Filed ∧
        (bs.foldl (Sink.write s.backend) acc).2.store
          = acc.2.store ++ (Sink.uses s.backend acc bs).flatMap queriesOf
  | [], acc, hfiled, _ => ⟨hfiled, by simp [Sink.uses]⟩
  | batch :: bs, acc, hfiled, hrows => by
    obtain ⟨hfirst, hrest⟩ := List.forall_mem_cons.mp hrows
    obtain ⟨hwrites, hsent⟩ := writeRows_obliging h hfiled hfirst
    obtain ⟨hstore, hstatements⟩ := Sink.write_snd s.backend acc batch
    obtain ⟨ih, ihsent⟩ :=
      queries_foldl h bs (Sink.write s.backend acc batch) (hstatements ▸ hwrites) hrest
    refine ⟨ih, ?_⟩
    rw [List.foldl_cons, ihsent, hstore, hsent, Sink.uses, List.flatMap_cons, List.append_assoc]

end Store

end ClickHouse

end Ingest
