import Ingest.Proofs.ColumnChecks
import Ingest.Proofs.PreparedStatements
import Ingest.Proofs.QueryCalls
import Ingest.Proofs.ServedTables

/-!
Inserts into tables that were checked. Flushes write to a ClickHouse server that may list any columns
at any query and fail any query, while others may close a statement just before it is executed. Main
statement: an insert is sent only where the last check of its table found every column; a check that
does not find them makes no statement and loses its batch, and the next batch for the table is checked
again.
-/

namespace Ingest

open ClickHouse

variable {σ : Type}

/-! ### Preparations and interruptions -/

/-- A table that is not found complete gets no statement. -/
theorem Sink.prepare_of_not_finds {s : Store} {w : Sink (List Query)} {st : Statement}
    (h : ¬ s.Finds w.store st) : (∃ e, (prepare s.backend w st).1 = .error e) ∧
      (prepare s.backend w st).2.statements = w.statements := by
  cases hprepare : s.backend.prepare w.store st with
  | mk answer store =>
    rw [prepare, hprepare]
    cases answer with
    | error e => exact ⟨⟨e, rfl⟩, rfl⟩
    | ok _ => exact absurd (Store.prepare_eq_ok_iff.mp (congrArg Prod.fst hprepare)) h

/-- A store whose statements others close: of each coming execution a schedule says whether its
statement is closed just before. -/
def Backend.interrupted (b : Backend σ) : Backend (σ × List Bool) where
  prepare st s :=
    let (answer, store) := b.prepare st.1 s
    (answer, store, st.2)
  execute st s ready rows :=
    let closes := st.2.headD false
    let (x, store) := b.execute st.1 s (ready && !closes) rows
    ({ x with closedMeanwhile := x.closedMeanwhile || closes }, store, st.2.tail)
  initDatabase st database :=
    let (answer, store) := b.initDatabase st.1 database
    (answer, store, st.2)

/-! ### Sinks in front of a server -/

/-- What a sink in front of a server keeps, with the queries that were sent and the calls that were
noted: each preparation was answered by a check; a table that is served was found complete by its last
check, and so was, at the time, each table that something was inserted into. -/
structure Vetted (s : Store) (w : Sink ((List Query × List Bool) × List StoreCall)) : Prop where
  filed : w.statements.Filed
  knows : w.Knows
  told : w.store.1.1 = callQueries w.store.2
  answered : ∀ calls st answer calls', w.store.2 = calls ++ .prepare st answer :: calls' →
    answer = (s.prepare (callQueries calls) st).1
  served : ∀ id st, w.statements.Serves id st → s.Verified st w.store.1.1
  lawful : ∀ before st rows after, w.store.1.1 = before ++ .insert st rows :: after →
    s.Verified st before

namespace Vetted

variable {s : Store} {w w' : Sink ((List Query × List Bool) × List StoreCall)} {id : Nat}
  {st : Statement}

theorem unserved_of_get?_eq_none (h : Vetted s w) (hnone : w.statements.entries.get? st.key = none)
    (id : Nat) : ¬ w.statements.Serves id st := by
  intro hserves
  obtain ⟨e, he, -⟩ := hserves.cached h.knows h.filed
  rw [hnone] at he
  cases he

theorem congr (h : Vetted s w) (hstore : w'.store = w.store)
    (hstatements : w'.statements = w.statements) : Vetted s w' := by
  refine ⟨?_, h.knows.congr hstatements (congrArg Prod.snd hstore), ?_, ?_, ?_, ?_⟩ <;>
    simp only [hstatements, hstore]
  · exact h.filed
  · exact h.told
  · exact h.answered
  · exact h.served
  · exact h.lawful

/-- Other uses of the cache than to put statements in. -/
theorem use (h : Vetted s w) {x : CacheUse} (hx : x.putKey? = none) (hstore : w'.store = w.store)
    (hstep : w'.statements = w.statements.step x) : Vetted s w' := by
  have hknows : w'.Knows := by
    have hreaches := StatementCache.Reaches.step h.knows x
    rw [hx, Option.toList_none, List.append_nil] at hreaches
    rw [Sink.Knows, hstore, hstep]
    exact hreaches
  have hfiled : w'.statements.Filed := by
    rw [hstep]
    cases x with
    | put key t now => cases hx
    | get key now => exact h.filed.get key now
    | evictIdle now => exact h.filed.evictIdle now
    | closeAll => exact StatementCache.filed_closeAll _
    | close id => exact h.filed.close id
  refine ⟨hfiled, hknows, ?_, ?_, fun id st hserves => ?_, ?_⟩ <;> rw [hstore]
  · exact h.told
  · exact h.answered
  · rw [hstep] at hserves
    exact h.served id st (hserves.of_step hx)
  · exact h.lawful

/-- An execution closes its statement just if its answer says so. -/
theorem execute_interrupted (s : Store) (hserves : w.statements.Serves id st) (rows : List Row) :
    ∃ x w', Sink.execute s.backend.interrupted.noting w st id rows = (x, w') ∧
      w'.store.1.1 = w.store.1.1 ++ (StoreCall.execute st rows x).queries ∧
      w'.store.2 = w.store.2 ++ [.execute st rows x] ∧
      w'.statements = if saysClosed x then w.statements.close id else w.statements := by
  let closes := w.store.1.2.headD false
  obtain ⟨x, hx, hclosed⟩ := s.exists_execute_eq w.store.1.1 st (true && !closes) rows
  have hexecute : s.backend.interrupted.noting.execute w.store st true rows
      = (let done := s.execute w.store.1.1 st (true && !closes) rows
        ({ done.1 with closedMeanwhile := done.1.closedMeanwhile || closes },
          (done.2, w.store.1.2.tail), w.store.2 ++ [.execute st rows done.1.result])) := rfl
  rw [hx] at hexecute
  refine ⟨x, _, (Sink.execute_of_serves _ hserves rows).trans (by rw [hexecute]), rfl, rfl, ?_⟩
  simp [hclosed, closes]

/-- A preparation sends a check and notes its answer. -/
theorem store_prepare (s : Store) (w : Sink ((List Query × List Bool) × List StoreCall))
    (st : Statement) : (Sink.prepare s.backend.interrupted.noting w st).2.store
      = ((w.store.1.1 ++ [.listColumns st], w.store.1.2),
          w.store.2 ++ [.prepare st (s.prepare w.store.1.1 st).1]) := by
  have hprepare : s.backend.interrupted.prepare w.store.1 st
      = ((s.prepare w.store.1.1 st).1, w.store.1.1 ++ [.listColumns st], w.store.1.2) :=
    congrArg (fun sent => ((s.prepare w.store.1.1 st).1, sent, w.store.1.2))
      (congrArg Prod.snd (s.prepare_eq w.store.1.1 st))
  rw [Sink.prepare, Backend.noting_prepare, hprepare]
  cases (s.prepare w.store.1.1 st).1 <;> rfl

/-- A table that nothing serves can be prepared: it is served then, if the check finds it complete. -/
theorem prepare (h : Vetted s w) (hunserved : ∀ id, ¬ w.statements.Serves id st) :
    ∃ x w', Sink.prepare s.backend.interrupted.noting w st = (x, w') ∧ Vetted s w' ∧
      ∀ id, x = .ok id → w'.statements.Serves id st := by
  have hstore := store_prepare s w st
  refine ⟨_, _, Prod.mk.eta.symm, ?_, fun id hid => Sink.serves_prepare _ h.filed hid⟩
  refine ⟨Sink.filed_prepare _ h.filed st, h.knows.prepare _ st, ?_, ?_, ?_, ?_⟩ <;> rw [hstore]
  · rw [callQueries_append, ← h.told]
    rfl
  · intro calls t answer calls' heq
    obtain ⟨rfl, hcall, -⟩ | ⟨calls'', -, hbefore⟩ := concat_eq_append_cons heq
    · cases hcall
      rw [h.told]
    · exact h.answered calls t answer calls'' hbefore
  · intro id t hserves
    rw [Store.verified_concat]
    obtain hserves | ⟨rfl, hgranted⟩ := Sink.serves_of_prepare _ h.filed hserves
    · have hne : st ≠ t := by
        rintro rfl
        exact hunserved id hserves
      rw [if_neg (by simpa using hne)]
      exact h.served id t hserves
    · rw [if_pos rfl]
      exact Store.prepare_eq_ok_iff.mp hgranted
  · intro before t rows after heq
    obtain ⟨-, hq, -⟩ | ⟨after', -, hbefore⟩ := concat_eq_append_cons heq
    · cases hq
    · exact h.lawful before t rows after' hbefore

/-- Through a statement that serves its table rows are inserted; or it is closed first, and nothing is
sent. -/
theorem execute (h : Vetted s w) (hserves : w.statements.Serves id st) (rows : List Row) :
    ∃ x w', Sink.execute s.backend.interrupted.noting w st id rows = (x, w') ∧ Vetted s w' ∧
      (saysClosed x = true → ∀ j, ¬ w'.statements.Serves j st) := by
  obtain ⟨x, w', heq, hsent, hnoted, hstatements⟩ := execute_interrupted s hserves rows
  have hknows : w'.Knows := by
    have hknows := h.knows.execute s.backend.interrupted st id rows
    rwa [heq] at hknows
  have hless {j : Nat} {t : Statement} (hj : w'.statements.Serves j t) : w.statements.Serves j t := by
    rw [hstatements] at hj
    split at hj
    · exact hj.of_close.1
    · exact hj
  have hunchecked (t : Statement) : .listColumns t ∉ (StoreCall.execute st rows x).queries := by
    simp only [StoreCall.queries]
    split <;> simp
  refine ⟨x, w', heq, ⟨?_, hknows, ?_, ?_, ?_, ?_⟩, ?_⟩
  · rw [hstatements]
    split
    · exact h.filed.close id
    · exact h.filed
  · rw [hsent, hnoted, callQueries_append, h.told]
    simp [callQueries]
  · intro calls t answer calls' heq
    rw [hnoted] at heq
    obtain ⟨-, hcall, -⟩ | ⟨calls'', -, hbefore⟩ := concat_eq_append_cons heq
    · cases hcall
    · exact h.answered calls t answer calls'' hbefore
  · intro j t hj
    rw [hsent, Store.verified_append (hunchecked t)]
    exact h.served j t (hless hj)
  · intro before t rows' after heq
    rw [hsent, StoreCall.queries] at heq
    split at heq
    · rw [List.append_nil] at heq
      exact h.lawful before t rows' after heq
    · obtain ⟨rfl, hq, -⟩ | ⟨after', -, hbefore⟩ := concat_eq_append_cons heq
      · cases hq
        exact h.served id st hserves
      · exact h.lawful before t rows' after' hbefore
  · -- The statement that was closed was the only one of its table.
    intro hclosed j hj
    have hother := hless hj
    rw [hstatements, if_pos hclosed] at hj
    exact hj.of_close.2 (hserves.unique hother h.knows h.filed)

theorem attempt (h : Vetted s w) (hserves : w.statements.Serves id st) (rows : List Row) :
    Vetted s (Sink.attempt s.backend.interrupted.noting w st id rows).2 := by
  obtain ⟨x, w₁, hexecute, hfirst, hunserved⟩ := h.execute hserves rows
  rw [Sink.attempt, hexecute]
  cases x with
  | ok _ => exact hfirst
  | error e =>
    dsimp only
    split
    · next hclosed =>
      obtain ⟨y, w₂, hprepare, hsecond, hserved⟩ := hfirst.prepare (hunserved hclosed)
      rw [hprepare]
      cases y with
      | error e => exact hsecond
      | ok j =>
        obtain ⟨z, w₃, hagain, hthird, -⟩ := hsecond.execute (hserved j rfl) rows
        dsimp only
        rw [hagain]
        exact hthird
    · exact hfirst

theorem writeRows (h : Vetted s w) (st : Statement) (rows : List Row) :
    Vetted s (Sink.writeRows s.backend.interrupted.noting w st rows).2 := by
  obtain ⟨w₁, hstore, hget, hcases⟩ := Sink.obtain_cases s.backend.interrupted.noting w st
  have hlooked : Vetted s w₁ := h.use (x := .get st.key w.clock) rfl hstore hget
  rw [Sink.writeRows]
  obtain ⟨id, hfound, heq⟩ | ⟨hnone, heq⟩ := hcases
  · rw [heq]
    exact hlooked.attempt (hget ▸ h.filed.serves_get hfound) rows
  · have hunserved : ∀ id, ¬ w₁.statements.Serves id st :=
      hlooked.unserved_of_get?_eq_none (hget ▸ StatementCache.get?_of_not_found hnone)
    obtain ⟨y, w₂, hprepare, hsecond, hserved⟩ := hlooked.prepare hunserved
    rw [heq, hprepare]
    cases y with
    | error e => exact hsecond
    | ok j => exact hsecond.attempt (hserved j rfl) rows

theorem foldl_write : ∀ (bs : List Batch)
    (acc : FlushReport × Sink ((List Query × List Bool) × List StoreCall)), Vetted s acc.2 →
      Vetted s (bs.foldl (Sink.write s.backend.interrupted.noting) acc).2
  | [], _, h => h
  | batch :: bs, acc, h => by
    obtain ⟨hstore, hstatements⟩ := Sink.write_snd s.backend.interrupted.noting acc batch
    exact foldl_write bs _ ((h.writeRows batch.statement batch.rows).congr hstore hstatements)

theorem step {r : FlushRun (List Query × List Bool)} (h : Vetted s r.sink) :
    ∀ x, Vetted s (r.step s.backend.interrupted x).sink
  | .flush _ caches => foldl_write _ ({ tenants := caches.length }, r.sink) h
  | .sweep => h.use (x := .evictIdle r.sink.clock) rfl rfl rfl
  | .closeAll => h.use (x := .closeAll) rfl rfl rfl
  | .close id => h.use (x := .close id) rfl rfl rfl
  | .wait _ => h.congr rfl rfl

end Vetted

theorem vetted_of (s : Store) (schedule : List Bool) (idleTimeout : Duration) (pace : Nat → Nat)
    (xs : List SinkStep) :
    Vetted s (FlushRun.of s.backend.interrupted ([], schedule) idleTimeout pace xs).sink := by
  induction xs using List.reverseRecOn with
  | nil =>
    refine ⟨StatementCache.filed_empty _, StatementCache.reaches_used idleTimeout [], rfl, ?_, ?_, ?_⟩
    · intro calls st answer calls' heq
      simp [FlushRun.of] at heq
    · intro id st hserves
      simp [FlushRun.of, StatementCache.Serves, Ledger.isReady, Ledger.standing?] at hserves
    · intro before st rows after heq
      simp [FlushRun.of] at heq
  | append_singleton xs x ih =>
    rw [FlushRun.of_concat]
    exact ih.step x

/-! ### Runs -/

namespace FlushRun

variable {s : Store} {r : FlushRun (List Query × List Bool)}

/-- The queries sent are those of the batches, in their order. -/
theorem queries_eq (hvetted : Vetted s r.sink) (haccounted : r.Accounted) :
    r.sink.store.1.1 = r.writings.flatMap Writing.queries := by
  rw [hvetted.told, haccounted.noted, callQueries, List.flatMap_assoc]
  rfl

/-- After a batch whose statement could not be prepared, the next one for its table starts with a
check. -/
theorem checks_again (hvetted : Vetted s r.sink) (haccounted : r.Accounted)
    (hwrites : ∀ w ∈ r.writings,
      Writes w.attempt.batch.statement w.attempt.batch.rows w.calls w.attempt.written)
    {us vs ws : List Writing} {u v : Writing} (hsplit : r.writings = us ++ u :: (vs ++ v :: ws))
    {st : Statement} (hu : u.attempt.batch.statement = st) (hv : v.attempt.batch.statement = st)
    (hbetween : ∀ x ∈ vs, x.attempt.batch.statement ≠ st) (hfails : u.FailsToPrepare)
    (hrows : v.attempt.batch.rows ≠ []) : v.queries.head? = some (.listColumns st) := by
  obtain ⟨t, e, hfailed⟩ := hfails
  obtain ⟨-, cs, hcalls, -⟩ := (hwrites u (by simp [hsplit])).of_failed hfailed
  rw [hu] at hcalls
  obtain ⟨earlier, hnoted⟩ : ∃ earlier, r.sink.store.2 = earlier ++ .prepare st (.error e) ::
      (vs.flatMap (·.calls) ++ (v.calls ++ ws.flatMap (·.calls))) :=
    ⟨us.flatMap (·.calls) ++ cs, by simp [haccounted.noted, hsplit, hcalls]⟩
  have hmisses : ¬ s.Finds (callQueries earlier) st := by
    rw [← Store.prepare_eq_ok_iff, ← hvetted.answered _ _ _ _ hnoted]
    simp
  -- Whatever is done for other tables, the last check of this one stays the one that failed.
  have hother : .listColumns st ∉ callQueries (vs.flatMap (·.calls)) := by
    rw [callQueries, List.flatMap_assoc]
    intro hmem
    obtain ⟨x, hx, hq⟩ := List.mem_flatMap.mp hmem
    exact (hwrites x (by simp [hsplit, hx])).not_checked (hbetween x hx) hq
  have hunverified : ¬ s.Verified st
      (callQueries earlier ++ [.listColumns st] ++ callQueries (vs.flatMap (·.calls))) := by
    rw [Store.verified_append hother, Store.verified_concat, if_pos rfl]
    exact hmisses
  have hwrites' := hwrites v (by simp [hsplit])
  rw [hv] at hwrites'
  obtain hcheck | hinsert := hwrites'.head_queries hrows
  · exact hcheck
  · -- An insert at once would be one into a table whose last check failed.
    obtain ⟨qs, hqs⟩ := List.head?_eq_some_iff.mp hinsert
    have hsent : r.sink.store.1.1 = callQueries earlier ++ [.listColumns st]
        ++ callQueries (vs.flatMap (·.calls)) ++ .insert st v.attempt.batch.rows ::
          (qs ++ callQueries (ws.flatMap (·.calls))) := by
      rw [hvetted.told, hnoted, callQueries_append, callQueries_prepare, callQueries_append,
        callQueries_append, hqs, List.append_assoc, List.append_assoc, List.singleton_append,
        List.cons_append]
    exact absurd (hvetted.lawful _ _ _ _ hsent) hunverified

end FlushRun

/-- In every run of flushes to a ClickHouse server that answers as it likes and when it likes, with
sweeps and closings in between and just before executions: the queries sent are those of the batches,
and each batch that is written was inserted. Each insert is into a table whose last check before it
listed every column. Each preparation is answered by a check: it succeeds if every column is listed,
finds the table unknown if nothing is, and names the columns that are not listed, in their order, if
something is listed but not all of them. A batch for which a preparation failed has nothing sent for
it but checks, is not written, and so is counted as lost, and the next batch for its table starts with
a check. A preparation that fails leaves the statements as they were, and what is cached was made by
one that succeeded. -/
theorem inserts_follow_checks (s : Store) (schedule : List Bool) (idleTimeout : Duration)
    (pace : Nat → Nat) (xs : List SinkStep) :
    let r := FlushRun.of s.backend.interrupted ([], schedule) idleTimeout pace xs
    let sent := r.sink.store.1.1
    let calls := r.sink.store.2
    let attempts := r.writings.map (·.attempt)
    let c := r.sink.counters
    sent = r.writings.flatMap Writing.queries ∧
    (∀ w ∈ r.writings, w.attempt.written = true →
      .insert w.attempt.batch.statement w.attempt.batch.rows ∈ w.queries) ∧
    (∀ (before : List Query) (st : Statement) (rows : List Row) (after : List Query),
      sent = before ++ .insert st rows :: after → s.Verified st before) ∧
    (∀ (before : List StoreCall) (st : Statement) (answer : Except StoreError Unit)
      (after : List StoreCall), calls = before ++ .prepare st answer :: after →
        answer = (s.prepare (callQueries before) st).1) ∧
    (∀ (qs : List Query) (st : Statement), ((s.prepare qs st).1 = .ok () ↔ s.Finds qs st) ∧
      (∀ database table, (s.prepare qs st).1 = .error (.unknownTable database table) ↔
        s.server.answer qs (.listColumns st) = .ok [] ∧
          database = st.database ∧ table = st.kind.table) ∧
      (∀ database table missing,
        (s.prepare qs st).1 = .error (.missingColumns database table missing) ↔
          (∃ listed, s.server.answer qs (.listColumns st) = .ok listed ∧ listed ≠ [] ∧
            missing ≠ [] ∧ missing = st.kind.columns.filter fun c => decide (c ∉ listed)) ∧
          database = st.database ∧ table = st.kind.table)) ∧
    (∀ w ∈ r.writings, w.FailsToPrepare → w.attempt.written = false ∧
      ∀ q ∈ w.queries, q = .listColumns w.attempt.batch.statement) ∧
    (∀ f ∈ r.flushes, f.report = reportOf f.caches.length (f.writings.map (·.attempt))) ∧
    (∀ k, KindTally.count c.rowsLost k = rowCount ((ofKind k attempts).filter fun a => !a.written) ∧
      KindTally.count c.flushErrors k = ((ofKind k attempts).filter fun a => !a.written).length) ∧
    (∀ (us : List Writing) (u : Writing) (vs : List Writing) (v : Writing) (ws : List Writing)
      (st : Statement), r.writings = us ++ u :: (vs ++ v :: ws) → u.FailsToPrepare →
      u.attempt.batch.statement = st → v.attempt.batch.statement = st →
      (∀ x ∈ vs, x.attempt.batch.statement ≠ st) → v.queries.head? = some (.listColumns st)) ∧
    (∀ (w : Sink (List Query)) st, ¬ s.Finds w.store st →
      (∃ e, (Sink.prepare s.backend w st).1 = .error e) ∧
        (Sink.prepare s.backend w st).2.statements = w.statements) ∧
    r.sink.statements.ledger.size = (preparedKeys calls).length ∧
    ∀ key e, r.sink.statements.entries.get? key = some e → (preparedKeys calls)[e.id]? = some key := by
  intro r sent calls attempts c
  have hvetted := vetted_of s schedule idleTimeout pace xs
  have haccounted := FlushRun.accounted_of s.backend.interrupted ([], schedule) idleTimeout pace xs
  have hwrites := FlushRun.writes_of s.backend.interrupted ([], schedule) idleTimeout pace xs
  have hrows : ∀ w ∈ r.writings, w.attempt.batch.rows ≠ [] := by
    intro w hw
    obtain ⟨f, hf, hwf⟩ := List.mem_flatMap.mp hw
    exact ((haccounted.flushes f hf).settled w hwf).1
  refine ⟨FlushRun.queries_eq hvetted haccounted, fun w hw => (hwrites w hw).inserted (hrows w hw),
    hvetted.lawful, hvetted.answered,
    fun qs st => ⟨Store.prepare_eq_ok_iff, fun _ _ => Store.prepare_eq_unknownTable_iff,
      fun _ _ _ => Store.prepare_eq_missingColumns_iff⟩, ?_,
    fun f hf => (haccounted.flushes f hf).reported,
    fun k => ⟨haccounted.counts.lost k, haccounted.counts.errors k⟩, ?_, ?_,
    hvetted.knows.size_eq, hvetted.knows.filed⟩
  · rintro w hw ⟨t, e, hfailed⟩
    obtain ⟨hwritten, -, -, hqueries⟩ := (hwrites w hw).of_failed hfailed
    exact ⟨hwritten, hqueries⟩
  · intro us u vs v ws st hsplit hfails hu hv hbetween
    exact FlushRun.checks_again hvetted haccounted hwrites hsplit hu hv hbetween hfails
      (hrows v (by simp [hsplit]))
  · exact fun w st => Sink.prepare_of_not_finds

end Ingest
