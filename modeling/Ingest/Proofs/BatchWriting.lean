import Ingest.Proofs.StatementLedger
import Ingest.Store.Memory

/-!
What a flush does with its batches. An attempt is a batch as it was given to the store, with the
tenant whose cache it came from and what came of it. Main statements: for every store, the report of
a flush is told from its attempts; and a memory store keeps the batches of the attempts that were
written, in their order, where a batch is written unless its table fails.
-/

namespace Ingest

/-- A batch that was given to a store, and whether it was written. -/
structure Attempt where
  tenant : Tenant
  batch : Batch
  written : Bool

/-- The batches of caches, each beside the tenant of its cache. -/
def ownedBatches (exportClients : Bool) (caches : List TenantCache) : List (Tenant × Batch) :=
  caches.flatMap fun c => (c.batches exportClients).map fun batch => (c.tenant, batch)

theorem TenantCache.of_mem_batches {exportClients : Bool} {c : TenantCache} {batch : Batch}
    (h : batch ∈ c.batches exportClients) : batch.rows ≠ [] ∧ batch.database = c.database := by
  obtain ⟨hmem, hrows⟩ := List.mem_filter.mp h
  obtain ⟨k, -, rfl⟩ := List.mem_map.mp hmem
  exact ⟨by simpa using hrows, rfl⟩

theorem exists_of_mem_ownedBatches {exportClients : Bool} {caches : List TenantCache}
    {x : Tenant × Batch} (h : x ∈ ownedBatches exportClients caches) :
    ∃ c ∈ caches, c.tenant = x.1 ∧ x.2 ∈ c.batches exportClients := by
  obtain ⟨c, hc, hx⟩ := List.mem_flatMap.mp h
  obtain ⟨batch, hbatch, rfl⟩ := List.mem_map.mp hx
  exact ⟨c, hc, rfl, hbatch⟩

namespace Sink

variable {σ : Type} (b : Backend σ)

/-- What comes of writing batches one after the other. -/
def attempts (acc : FlushReport × Sink σ) : List (Tenant × Batch) → List Attempt
  | [] => []
  | (t, batch) :: rest =>
    ⟨t, batch, (writeRows b acc.2 batch.statement batch.rows).1.isOk⟩
      :: attempts (write b acc batch) rest

theorem map_attempts : ∀ (bs : List (Tenant × Batch)) (acc : FlushReport × Sink σ),
    (attempts b acc bs).map (fun a => (a.tenant, a.batch)) = bs
  | [], _ => rfl
  | (t, batch) :: bs, acc => by simp [attempts, map_attempts bs]

end Sink

/-- The attempts of a flush. -/
def flushAttempts {σ : Type} (b : Backend σ) (exportClients : Bool) (caches : List TenantCache)
    (w : Sink σ) : List Attempt :=
  Sink.attempts b ({ tenants := caches.length }, w) (ownedBatches exportClients caches)

/-- A flush attempts just the batches of its caches, in their order. -/
theorem map_flushAttempts {σ : Type} (b : Backend σ) (exportClients : Bool)
    (caches : List TenantCache) (w : Sink σ) :
    (flushAttempts b exportClients caches w).map (fun a => (a.tenant, a.batch))
      = ownedBatches exportClients caches :=
  Sink.map_attempts b _ _

theorem exists_of_mem_flushAttempts {σ : Type} {b : Backend σ} {exportClients : Bool}
    {caches : List TenantCache} {w : Sink σ} {a : Attempt}
    (h : a ∈ flushAttempts b exportClients caches w) :
    ∃ c ∈ caches, c.tenant = a.tenant ∧ a.batch ∈ c.batches exportClients := by
  have howned : (a.tenant, a.batch) ∈ ownedBatches exportClients caches := by
    rw [← map_flushAttempts b exportClients caches w]
    exact List.mem_map.mpr ⟨a, h, rfl⟩
  exact exists_of_mem_ownedBatches howned

/-! ### Reports -/

def rowCount (as : List Attempt) : Nat := (as.map fun a => a.batch.rows.length).sum

/-- What is reported of attempts: the rows written, the rows lost and the batches that failed. -/
def reportOf (tenants : Nat) (as : List Attempt) : FlushReport where
  tenants
  rowsWritten := rowCount (as.filter fun a => a.written)
  rowsLost := rowCount (as.filter fun a => !a.written)
  failedBatches := (as.filter fun a => !a.written).length

def FlushReport.add (r s : FlushReport) : FlushReport where
  tenants := r.tenants
  rowsWritten := r.rowsWritten + s.rowsWritten
  rowsLost := r.rowsLost + s.rowsLost
  failedBatches := r.failedBatches + s.failedBatches

namespace Sink

variable {σ : Type} (b : Backend σ)

theorem report_write (acc : FlushReport × Sink σ) (t : Tenant) (batch : Batch) :
    (write b acc batch).1 = acc.1.add (reportOf 0
      [⟨t, batch, (writeRows b acc.2 batch.statement batch.rows).1.isOk⟩]) := by
  obtain ⟨report, w⟩ := acc
  unfold write
  cases h : writeRows b w batch.statement batch.rows with
  | mk result w' =>
    cases result <;> simp [h, Except.isOk, Except.toBool, FlushReport.add, reportOf, rowCount]

theorem report_foldl : ∀ (bs : List (Tenant × Batch)) (acc : FlushReport × Sink σ),
    ((bs.map Prod.snd).foldl (write b) acc).1 = acc.1.add (reportOf 0 (attempts b acc bs))
  | [], acc => by simp [attempts, FlushReport.add, reportOf, rowCount]
  | (t, batch) :: bs, acc => by
    have ih := report_foldl bs (write b acc batch)
    have hone := report_write b acc t batch
    rw [List.map_cons, List.foldl_cons, ih, hone, attempts]
    cases (writeRows b acc.2 batch.statement batch.rows).1.isOk <;>
      simp [FlushReport.add, reportOf, rowCount, Nat.add_assoc, Nat.add_comm 1]

end Sink

theorem map_snd_ownedBatches (exportClients : Bool) (caches : List TenantCache) :
    (ownedBatches exportClients caches).map Prod.snd
      = caches.flatMap (TenantCache.batches exportClients) := by
  simp [ownedBatches, List.map_flatMap, Function.comp_def]

/-- The report of a flush is told from its attempts, whatever the store does. -/
theorem report_flush {σ : Type} (b : Backend σ) (exportClients : Bool) (caches : List TenantCache)
    (w : Sink σ) :
    (flush b exportClients caches w).1
      = reportOf caches.length (flushAttempts b exportClients caches w) := by
  rw [flush, ← map_snd_ownedBatches, Sink.report_foldl]
  simp [FlushReport.add, reportOf, flushAttempts]

/-! ### A memory store -/

/-- A failing table rejects, and a batch for any other is kept. -/
theorem MemoryStore.execute_ready {s : MemoryStore} (hdry : s.dryRun = false) (st : Statement)
    {rows : List Row} (hrows : rows ≠ []) :
    s.execute st true rows =
      if st.kind ∈ s.failing then
        ({ result := .error (.rejected st.kind.table "table marked failing") }, s)
      else
        ({ result := .ok () },
          { s with batches := s.batches ++ [⟨st.database, st.kind, rows⟩] }) := by
  simp [execute, hdry, hrows]

namespace Sink

/-- A sink on a memory store that keeps batches and makes databases. -/
structure Recording (w : Sink MemoryStore) : Prop where
  filed : w.statements.Filed
  keeps : w.store.dryRun = false
  makes : w.store.initFails = false

variable {w : Sink MemoryStore}

theorem execute_of_serves {σ : Type} (b : Backend σ) {w : Sink σ} {id : Nat} {s : Statement}
    (h : w.statements.Serves id s) (rows : List Row) :
    execute b w s id rows =
      let x := b.execute w.store s true rows
      (x.1.result, { w with
        store := x.2
        statements := if x.1.closedMeanwhile then w.statements.close id else w.statements }) := by
  obtain ⟨hready, hstatement⟩ := h
  simp [execute, hready, hstatement]

/-- Through a ready statement a batch is kept or, if its table fails, rejected without a second
try. -/
theorem attempt_memory (hdry : w.store.dryRun = false) {id : Nat} {s : Statement}
    (h : w.statements.Serves id s) {rows : List Row} (hrows : rows ≠ []) :
    attempt MemoryStore.backend w s id rows =
      if s.kind ∈ w.store.failing then
        (.error (.rejected s.kind.table "table marked failing"), w)
      else
        (.ok (), { w with store := { w.store with
          batches := w.store.batches ++ [⟨s.database, s.kind, rows⟩] } }) := by
  have hexecute : MemoryStore.backend.execute = MemoryStore.execute := rfl
  rw [attempt, execute_of_serves _ h, hexecute, MemoryStore.execute_ready hdry s hrows]
  by_cases hfails : s.kind ∈ w.store.failing <;> simp [hfails, StoreError.isClosed]

/-- A memory store prepares every statement. -/
theorem obtain_memory (w : Sink MemoryStore) (s : Statement) :
    ∃ id w' n, Sink.obtain MemoryStore.backend w s = (.ok id, w') ∧
      w'.store = { w.store with prepareCount := n } := by
  obtain ⟨w', hstore, -, ⟨id, -, heq⟩ | ⟨-, heq⟩⟩ := obtain_cases MemoryStore.backend w s
  · exact ⟨id, w', w.store.prepareCount, heq, hstore⟩
  · refine ⟨_, _, w.store.prepareCount + 1, heq, ?_⟩
    rw [hstore]
    rfl

/-- Counting what came of a batch changes neither the store nor the statements. -/
theorem write_snd {σ : Type} (b : Backend σ) (acc : FlushReport × Sink σ) (batch : Batch) :
    (write b acc batch).2.store = (writeRows b acc.2 batch.statement batch.rows).2.store ∧
    (write b acc batch).2.statements
      = (writeRows b acc.2 batch.statement batch.rows).2.statements := by
  obtain ⟨report, w⟩ := acc
  unfold write
  cases h : writeRows b w batch.statement batch.rows with
  | mk result w' => cases result <;> simp [h]

/-- What writing makes of a sink on a memory store: some batches are added to those that are kept, and
nothing else changes in the store but how often it prepared statements. -/
structure Wrote (w w' : Sink MemoryStore) (batches : List Batch) : Prop where
  filed : w'.statements.Filed
  store : ∃ n, w'.store = { w.store with
    prepareCount := n
    batches := w.store.batches ++ batches }

namespace Wrote

variable {w' w'' : Sink MemoryStore} {bs cs : List Batch}

theorem refl (h : w.statements.Filed) : Wrote w w [] :=
  ⟨h, w.store.prepareCount, by rw [List.append_nil]⟩

theorem trans (h : Wrote w w' bs) (h' : Wrote w' w'' cs) : Wrote w w'' (bs ++ cs) := by
  obtain ⟨n, hstore⟩ := h.store
  obtain ⟨n', hstore'⟩ := h'.store
  exact ⟨h'.filed, n', by rw [hstore', hstore, List.append_assoc]⟩

theorem failing (h : Wrote w w' bs) : w'.store.failing = w.store.failing := by
  obtain ⟨n, hstore⟩ := h.store
  rw [hstore]

theorem dryRun (h : Wrote w w' bs) : w'.store.dryRun = w.store.dryRun := by
  obtain ⟨n, hstore⟩ := h.store
  rw [hstore]

theorem initFails (h : Wrote w w' bs) : w'.store.initFails = w.store.initFails := by
  obtain ⟨n, hstore⟩ := h.store
  rw [hstore]

theorem initialized (h : Wrote w w' bs) : w'.store.initialized = w.store.initialized := by
  obtain ⟨n, hstore⟩ := h.store
  rw [hstore]

theorem batches (h : Wrote w w' bs) : w'.store.batches = w.store.batches ++ bs := by
  obtain ⟨n, hstore⟩ := h.store
  rw [hstore]

end Wrote

/-- The rows of a batch are written whole, or not at all where the table fails. -/
theorem writeRows_memory (hfiled : w.statements.Filed) (hdry : w.store.dryRun = false)
    (s : Statement) {rows : List Row} (hrows : rows ≠ []) :
    (writeRows MemoryStore.backend w s rows).1.isOk = decide (s.kind ∉ w.store.failing) ∧
    Wrote w (writeRows MemoryStore.backend w s rows).2
      (if s.kind ∈ w.store.failing then [] else [⟨s.database, s.kind, rows⟩]) := by
  obtain ⟨id, w', n, heq, hstore⟩ := obtain_memory w s
  have hfiled' := filed_obtain MemoryStore.backend hfiled s
  have hserves := serves_obtain MemoryStore.backend hfiled (congrArg Prod.fst heq)
  rw [heq] at hfiled' hserves
  have hdry' : w'.store.dryRun = false := by rw [hstore]; exact hdry
  have hwrite : writeRows MemoryStore.backend w s rows
      = attempt MemoryStore.backend w' s id rows := by
    rw [writeRows, heq]
  rw [hwrite, attempt_memory hdry' hserves hrows, hstore]
  by_cases hfails : s.kind ∈ w.store.failing
  · simp only [hfails, if_true, not_true_eq_false, decide_false]
    exact ⟨rfl, hfiled', n, by rw [hstore, List.append_nil]⟩
  · simp only [hfails, if_false, not_false_eq_true, decide_true]
    exact ⟨rfl, hfiled', n, rfl⟩

/-- What one write does to a memory store. -/
theorem write_memory {acc : FlushReport × Sink MemoryStore} (hfiled : acc.2.statements.Filed)
    (hdry : acc.2.store.dryRun = false) {batch : Batch} (hrows : batch.rows ≠ []) :
    Wrote acc.2 (write MemoryStore.backend acc batch).2
      (if batch.kind ∈ acc.2.store.failing then [] else [batch]) := by
  obtain ⟨-, hwrote⟩ := writeRows_memory hfiled hdry batch.statement hrows
  obtain ⟨hs, hc⟩ := write_snd MemoryStore.backend acc batch
  exact ⟨by rw [hc]; exact hwrote.filed, by rw [hs]; exact hwrote.store⟩

/-- A memory store takes the batches that are not for a failing table, in their order. -/
theorem attempts_memory : ∀ (bs : List (Tenant × Batch)) (acc : FlushReport × Sink MemoryStore),
    acc.2.statements.Filed → acc.2.store.dryRun = false → (∀ x ∈ bs, x.2.rows ≠ []) →
      Wrote acc.2 ((bs.map Prod.snd).foldl (write MemoryStore.backend) acc).2
        (((attempts MemoryStore.backend acc bs).filter (·.written)).map (·.batch)) ∧
      ∀ a ∈ attempts MemoryStore.backend acc bs,
        a.written = decide (a.batch.kind ∉ acc.2.store.failing)
  | [], acc, hfiled, _, _ => ⟨.refl hfiled, by simp [attempts]⟩
  | (t, batch) :: bs, acc, hfiled, hdry, hrows => by
    obtain ⟨hfirst, hrest⟩ := List.forall_mem_cons.mp hrows
    obtain ⟨hwritten, -⟩ := writeRows_memory hfiled hdry batch.statement hfirst
    have hwrote := write_memory hfiled hdry hfirst
    obtain ⟨ih, ihwritten⟩ :=
      attempts_memory bs _ hwrote.filed (hwrote.dryRun.trans hdry) hrest
    refine ⟨?_, ?_⟩
    · have hboth := hwrote.trans ih
      by_cases hfails : batch.kind ∈ acc.2.store.failing
      · have hlost : (writeRows MemoryStore.backend acc.2 batch.statement batch.rows).1.isOk
            = false := hwritten.trans (decide_eq_false fun hne => hne hfails)
        simpa [attempts, hlost, hfails] using hboth
      · have hkept : (writeRows MemoryStore.backend acc.2 batch.statement batch.rows).1.isOk
            = true := hwritten.trans (decide_eq_true hfails)
        simpa [attempts, hkept, hfails] using hboth
    · simp only [attempts, List.mem_cons, forall_eq_or_imp]
      exact ⟨hwritten, fun a ha => by rw [ihwritten a ha, hwrote.failing]⟩

theorem rows_of_mem_ownedBatches {exportClients : Bool} {caches : List TenantCache}
    {x : Tenant × Batch} (hx : x ∈ ownedBatches exportClients caches) : x.2.rows ≠ [] := by
  obtain ⟨c, -, -, hbatch⟩ := exists_of_mem_ownedBatches hx
  exact (TenantCache.of_mem_batches hbatch).1

/-- A flush writes the batches that are for no failing table, each once. -/
theorem wrote_flush (hfiled : w.statements.Filed) (hdry : w.store.dryRun = false)
    (exportClients : Bool) (caches : List TenantCache) :
    Wrote w (flush MemoryStore.backend exportClients caches w).2
      (((flushAttempts MemoryStore.backend exportClients caches w).filter (·.written)).map
        (·.batch)) ∧
    ∀ a ∈ flushAttempts MemoryStore.backend exportClients caches w,
      a.written = decide (a.batch.kind ∉ w.store.failing) := by
  rw [flush, ← map_snd_ownedBatches]
  exact attempts_memory _ ({ tenants := caches.length }, w) hfiled hdry
    fun x hx => rows_of_mem_ownedBatches hx

/-- A flush adds to a memory store the batches that were written, each once. -/
theorem flush_memory (h : w.Recording) (exportClients : Bool) (caches : List TenantCache) :
    (flush MemoryStore.backend exportClients caches w).2.Recording ∧
    (flush MemoryStore.backend exportClients caches w).2.store.failing = w.store.failing ∧
    (flush MemoryStore.backend exportClients caches w).2.store.batches
      = w.store.batches ++ ((flushAttempts MemoryStore.backend exportClients caches w).filter
        (·.written)).map (·.batch) ∧
    ∀ a ∈ flushAttempts MemoryStore.backend exportClients caches w,
      a.written = decide (a.batch.kind ∉ w.store.failing) := by
  obtain ⟨hwrote, hwritten⟩ := wrote_flush h.filed h.keeps exportClients caches
  exact ⟨⟨hwrote.filed, hwrote.dryRun.trans h.keeps, hwrote.initFails.trans h.makes⟩,
    hwrote.failing, hwrote.batches, hwritten⟩

end Sink

end Ingest
