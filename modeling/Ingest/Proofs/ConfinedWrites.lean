import Mathlib.Data.List.Induction
import Ingest.Proofs.Deposits
import Ingest.Proofs.ServiceHistories

/-!
Where the rows of many tenants end up, in front of a memory store that may fail to make databases and
to take batches. Main statement: whatever is written is written to the database of the tenant whose
cache the rows were drained from, that database was made before, and every cached statement is one for
the table it is cached under.
-/

namespace Ingest

theorem TenantCache.rows_of_mem_batches {exportClients : Bool} {c : TenantCache} {batch : Batch}
    (h : batch ∈ c.batches exportClients) : batch.rows = rowsOf c.pending batch.kind := by
  obtain ⟨hmem, -⟩ := List.mem_filter.mp h
  obtain ⟨k, -, rfl⟩ := List.mem_map.mp hmem
  rfl

/-- The sink of a flush after so many of its batches. -/
def Ingestor.sinkAfter (s : Ingestor MemoryStore) (n : Nat) : Sink MemoryStore :=
  let caches := s.registry.snapshot
  (((caches.flatMap (TenantCache.batches s.settings.clickhouse.exportServiceClient)).take n).foldl
    (Sink.write MemoryStore.backend) ({ tenants := caches.length }, s.sink)).2

/-- A service for many tenants whose caches all have a database that was made, with what it wrote. -/
structure Ingestor.Confined (settings : Settings) (written : List Batch)
    (s : Ingestor MemoryStore) : Prop where
  multiTenant : s.registry.multiTenant = true
  configured : s.registry.settings = settings.clickhouse
  filed : s.sink.statements.Filed
  keeps : s.sink.store.dryRun = false
  made : ∀ t ∈ s.registry.caches.keys,
    settings.clickhouse.tenantDatabase t.tenantId ∈ s.sink.store.initialized
  written : s.sink.store.batches = written

namespace Ingestor.Confined

variable {settings : Settings} {written : List Batch} {s : Ingestor MemoryStore}

theorem databaseFor_eq (h : s.Confined settings written) (t : Tenant) :
    s.registry.databaseFor t = settings.clickhouse.tenantDatabase t.tenantId := by
  rw [Registry.databaseFor_of_many h.multiTenant, h.configured]

/-- A tenant gets a cache only when its database has been made. -/
theorem openCache (h : s.Confined settings written) (t : Tenant) :
    ∃ s', s'.Confined settings written ∧
      ((s.openCache MemoryStore.backend t = (.ok (), s') ∧ t ∈ s'.registry.caches.keys) ∨
        ∃ e, s.openCache MemoryStore.backend t = (.error e, s')) := by
  rw [Ingestor.openCache]
  have hinit : MemoryStore.backend.initDatabase = MemoryStore.initDatabase := rfl
  rcases s.registry.enroll_cases MemoryStore.backend t s.sink.store with
    ⟨hknown, heq⟩ | ⟨-, hnew, ⟨cause, store, hfails, heq⟩ | ⟨store, hmakes, heq⟩⟩ <;> rw [heq]
  · have hmem : t ∈ s.registry.caches.keys :=
      hknown.resolve_left (by rw [h.multiTenant]; exact Bool.noConfusion)
    exact ⟨s, h, .inl ⟨rfl, hmem⟩⟩
  · -- A store that makes no database stays as it was.
    have hstore : store = s.sink.store := by
      rw [hinit, MemoryStore.initDatabase] at hfails
      split at hfails <;> cases hfails
      rfl
    subst hstore
    exact ⟨s, h, .inr ⟨_, rfl⟩⟩
  · have hstore : store = { s.sink.store with
        initialized := s.sink.store.initialized ++ [s.registry.databaseFor t] } := by
      rw [hinit, MemoryStore.initDatabase] at hmakes
      split at hmakes <;> cases hmakes
      rfl
    subst hstore
    let registry : Registry := { s.registry with caches := s.registry.caches.insert t [] }
    have hkeys : registry.caches.keys = s.registry.caches.keys ++ [t] := by
      rw [Keyed.keys_insert, if_neg hnew]
    refine ⟨{ s with registry, sink.store.initialized := s.sink.store.initialized
        ++ [s.registry.databaseFor t] },
      ⟨h.multiTenant, h.configured, h.filed, h.keeps, ?_, h.written⟩, .inl ⟨rfl, ?_⟩⟩
    · dsimp only
      rw [hkeys, List.forall_mem_append]
      refine ⟨fun u hu => List.mem_append_left _ (h.made u hu), fun u hu => ?_⟩
      rw [List.mem_singleton.mp hu, h.databaseFor_eq]
      exact List.mem_append_right _ (List.mem_singleton_self _)
    · dsimp only
      rw [hkeys]
      exact List.mem_append_right _ (List.mem_singleton_self t)

theorem deposit (h : s.Confined settings written) (t : Tenant) (es : List Event) :
    (s.deposit MemoryStore.backend t es).2.Confined settings written := by
  rw [Ingestor.deposit]
  obtain ⟨s', h', ⟨heq, hmem⟩ | ⟨e, heq⟩⟩ := h.openCache t <;> rw [heq]
  · have hscope : s'.registry.scope t = t := Registry.scope_of_many h'.multiTenant t
    have hkeys := Registry.keys_append (hscope.symm ▸ hmem) es
    refine ⟨h'.multiTenant, h'.configured, h'.filed, h'.keeps, ?_, h'.written⟩
    dsimp only
    rw [hkeys]
    exact h'.made
  · exact h'

theorem keptByDeposits (settings : Settings) (written : List Batch) :
    KeptByDeposits MemoryStore.backend (Confined settings written) where
  deposit h := h.deposit
  rest h _ _ := ⟨h.multiTenant, h.configured, h.filed, h.keeps, h.made, h.written⟩

/-- A flush attempts the rows of each cache in the database of its tenant. -/
theorem of_mem_attempts (h : s.Confined settings written) {a : Attempt} (ha : a ∈ s.attempts) :
    a.tenant ∈ s.registry.caches.keys ∧
    a.batch.rows = rowsOf (s.registry.pending a.tenant) a.batch.kind ∧
    a.batch.database = settings.clickhouse.tenantDatabase a.tenant.tenantId := by
  obtain ⟨c, hc, htenant, hbatch⟩ := exists_of_mem_flushAttempts ha
  obtain ⟨-, hdatabase⟩ := TenantCache.of_mem_batches hbatch
  rw [Registry.snapshot, Registry.listed_eq h.multiTenant] at hc
  obtain ⟨t, ht, rfl⟩ := List.mem_map.mp hc
  obtain rfl : t = a.tenant := htenant
  exact ⟨(Keyed.keys_arrange_perm _ _).mem_iff.mp ht, TenantCache.rows_of_mem_batches hbatch,
    hdatabase.trans (h.databaseFor_eq _)⟩

/-- While a flush goes on, the cached statements are for the tables they are cached under. -/
theorem filed_sinkAfter (h : s.Confined settings written) (n : Nat) :
    (s.sinkAfter n).statements.Filed := by
  let bs := ownedBatches s.settings.clickhouse.exportServiceClient s.registry.snapshot
  have hrows : ∀ x ∈ bs.take n, x.2.rows ≠ [] :=
    fun x hx => Sink.rows_of_mem_ownedBatches (List.mem_of_mem_take hx)
  obtain ⟨hwrote, -⟩ := Sink.attempts_memory (bs.take n)
    ({ tenants := s.registry.snapshot.length }, s.sink) h.filed h.keeps hrows
  have hfiled := hwrote.filed
  rw [List.map_take, map_snd_ownedBatches] at hfiled
  exact hfiled

theorem flush (h : s.Confined settings written) :
    (s.flush MemoryStore.backend).2.Confined settings
      (written ++ (s.attempts.filter (·.written)).map (·.batch)) := by
  obtain ⟨hwrote, -⟩ := Sink.wrote_flush h.filed h.keeps
    s.settings.clickhouse.exportServiceClient s.registry.snapshot
  refine ⟨h.multiTenant, h.configured, hwrote.filed, hwrote.dryRun.trans h.keeps, fun t ht => ?_, ?_⟩
  · have hkeys : (s.flush MemoryStore.backend).2.registry.caches.keys = s.registry.caches.keys := by
      simp [Ingestor.flush, observeClients, Registry.drained, Keyed.mapValues, Keyed.keys,
        Function.comp_def]
    have hmade := h.made t (hkeys ▸ ht)
    rw [← hwrote.initialized] at hmade
    exact hmade
  · rw [← h.written]
    exact hwrote.batches

/-- Nothing but the caches, the statements and some of the store matters. -/
theorem congr (h : s.Confined settings written) {s' : Ingestor MemoryStore}
    (hregistry : s'.registry = s.registry) (hstatements : s'.sink.statements.Filed)
    (hdry : s'.sink.store.dryRun = s.sink.store.dryRun)
    (hinitialized : s'.sink.store.initialized = s.sink.store.initialized)
    (hbatches : s'.sink.store.batches = s.sink.store.batches) : s'.Confined settings written := by
  refine ⟨?_, ?_, hstatements, hdry.trans h.keeps, ?_, hbatches.trans h.written⟩
  · rw [hregistry]; exact h.multiTenant
  · rw [hregistry]; exact h.configured
  · rw [hregistry, hinitialized]; exact h.made

/-- An operation writes just what it attempts if it is a flush, one case for each operation. -/
theorem perform (h : s.Confined settings written) (x : Operation) :
    (s.perform x).2.Confined settings (written ++ if (ServiceStep.perform x).isFlush
      then (s.attempts.filter (·.written)).map (·.batch) else []) := by
  cases x with
  | append t k es =>
    have happend := (keptByDeposits settings written).append h t k es
    simp only [ServiceStep.isFlush, Bool.false_eq_true, if_false, List.append_nil,
      Ingestor.perform]
    split <;> next heq => rwa [heq] at happend
  | collect now =>
    have hcollect := (keptByDeposits settings written).collect h now
    simp only [ServiceStep.isFlush, Bool.false_eq_true, if_false, List.append_nil,
      Ingestor.perform]
    split <;> next heq => rwa [heq] at hcollect
  | flush => exact h.flush
  | sweep =>
    simp only [ServiceStep.isFlush, Bool.false_eq_true, if_false, List.append_nil]
    exact h.congr rfl (h.filed.evictIdle _) rfl rfl rfl
  | _ =>
    rw [ServiceStep.isFlush, if_neg Bool.false_ne_true, List.append_nil]
    · exact h.congr rfl h.filed rfl rfl rfl
    · intro hflush
      cases hflush

theorem advance (h : s.Confined settings written) (x : ServiceStep) :
    (s.advance x).2.Confined settings (written ++ if x.isFlush
      then (s.attempts.filter (·.written)).map (·.batch) else []) := by
  cases x with
  | perform x => exact h.perform x
  | openCache t =>
    simp only [ServiceStep.isFlush, Bool.false_eq_true, if_false, List.append_nil,
      Ingestor.advance]
    obtain ⟨s', h', ⟨heq, -⟩ | ⟨e, heq⟩⟩ := h.openCache t <;> rw [heq] <;> exact h'
  | closeStatement id =>
    simp only [ServiceStep.isFlush, Bool.false_eq_true, if_false, List.append_nil]
    exact h.congr rfl (h.filed.close id) rfl rfl rfl
  | closeStatements =>
    simp only [ServiceStep.isFlush, Bool.false_eq_true, if_false, List.append_nil]
    exact h.congr rfl (StatementCache.filed_closeAll _) rfl rfl rfl

end Ingestor.Confined

theorem Ingestor.confined_new {settings : Settings} (h : settings.tenancy.enabled = true)
    (env : Environment) : (new settings ({} : MemoryStore) env).Confined settings [] := by
  refine ⟨h, rfl, StatementCache.filed_empty _, rfl, fun t ht => ?_, rfl⟩
  simp [new, Registry.empty, h, Keyed.keys, Keyed.empty] at ht

namespace ServiceHistory

/-- What the flushes wrote. -/
def written (h : ServiceHistory) : List Attempt :=
  h.flushed.flatMap fun s => s.attempts.filter (·.written)

theorem written_step (h : ServiceHistory) (x : ServiceStep) :
    (h.step x).written
      = h.written ++ if x.isFlush then h.service.attempts.filter (·.written) else [] := by
  cases hx : x.isFlush <;> simp [step, written, hx]

/-- Every flush finds a service that wrote to the right places only, and so does the end of every
history, by induction on its steps. -/
theorem confined_of {settings : Settings} (hmany : settings.tenancy.enabled = true)
    (env : Environment) (xs : List ServiceStep) :
    (of settings env xs).service.Confined settings ((of settings env xs).written.map (·.batch)) ∧
    ∀ s ∈ (of settings env xs).flushed, ∃ before, s.Confined settings before := by
  induction xs using List.reverseRecOn with
  | nil => exact ⟨Ingestor.confined_new hmany env, by simp [of]⟩
  | append_singleton xs x ih =>
    obtain ⟨hservice, hflushed⟩ := ih
    have hadvance := hservice.advance x
    rw [of_concat, written_step]
    refine ⟨?_, ?_⟩
    · cases hx : x.isFlush <;> simpa [hx, step] using hadvance
    · intro s hs
      rcases List.mem_append.mp hs with hold | hnew
      · exact hflushed s hold
      · cases hx : x.isFlush <;> rw [hx] at hnew
        · cases hnew
        · rw [List.mem_singleton.mp hnew]
          exact ⟨_, hservice⟩

end ServiceHistory

/-- With many tenants, in every environment, after every history: the store holds the batches that the
flushes wrote. Each batch of a flush is for the database of the tenant whose cache its rows were
drained from, and that database was made before the flush. Every tenant that has a cache has a
database that was made. And every cached statement is one for the database and the table it is cached
under: now, and during each flush after each batch and when the statement for another one has been
obtained, which is ready and for the table asked for. -/
theorem writes_confined (settings : Settings) (hmany : settings.tenancy.enabled = true)
    (env : Environment) (xs : List ServiceStep) :
    let h := ServiceHistory.of settings env xs
    h.service.sink.store.batches = h.written.map (·.batch) ∧
    (∀ s ∈ h.flushed, ∀ a ∈ s.attempts,
      a.tenant ∈ s.registry.caches.keys ∧
      a.batch.rows = rowsOf (s.registry.pending a.tenant) a.batch.kind ∧
      a.batch.database = settings.clickhouse.tenantDatabase a.tenant.tenantId ∧
      a.batch.database ∈ s.sink.store.initialized) ∧
    (∀ t ∈ h.service.registry.caches.keys,
      settings.clickhouse.tenantDatabase t.tenantId ∈ h.service.sink.store.initialized) ∧
    h.service.sink.statements.Filed ∧
    ∀ s ∈ h.flushed, ∀ n st,
      let (found, w) := Sink.obtain MemoryStore.backend (s.sinkAfter n) st
      (s.sinkAfter n).statements.Filed ∧ w.statements.Filed ∧
      ∀ id, found = .ok id → w.statements.Serves id st := by
  intro h
  obtain ⟨hservice, hflushed⟩ := ServiceHistory.confined_of hmany env xs
  refine ⟨hservice.written, fun s hs a ha => ?_, hservice.made, hservice.filed, fun s hs n st => ?_⟩
  · obtain ⟨before, hs⟩ := hflushed s hs
    obtain ⟨htenant, hrows, hdatabase⟩ := hs.of_mem_attempts ha
    exact ⟨htenant, hrows, hdatabase, hdatabase ▸ hs.made a.tenant htenant⟩
  · obtain ⟨before, hs⟩ := hflushed s hs
    have hfiled := hs.filed_sinkAfter n
    exact ⟨hfiled, Sink.filed_obtain MemoryStore.backend hfiled st,
      fun _ => Sink.serves_obtain MemoryStore.backend hfiled⟩

/-- Two tenants share a database, which cannot be made at first. A batch of the first one goes through
the statement of the second one, whose cache is visited before; another one goes through a statement
that was closed and prepared again, and one is lost. -/
theorem writes_confined_shared_database :
    let a : Tenant := ⟨"a", "1"⟩
    let b : Tenant := ⟨"b", "2"⟩
    let c : Tenant := ⟨"c", "3"⟩
    let settings : Settings := {
      tenancy := { enabled := true }
      clickhouse := { tenantDbMap := .ofList [("a", "shared"), ("b", "shared")] } }
    let gc (t : Tenant) : ServiceStep := .perform (.append t .jvmGc [.jvmGc .zero])
    let xs : List ServiceStep := [.perform (.failInit true), gc a, .perform (.failInit false), gc a,
      gc b, .openCache c, .perform .flush, .closeStatement 0, gc b, .perform .flush,
      .perform (.failTable .jvmGc true), gc c, .perform .flush]
    let h := ServiceHistory.of settings { cacheOrder := fun _ => [c, b] } xs
    settings.tenancy.enabled = true ∧
    h.failures = [⟨a, "shared", .unavailable "shared"⟩] ∧
    h.service.sink.store.initialized = ["shared", "shared", "apo_tenant_c"] ∧
    h.service.sink.store.batches.map (·.database) = ["shared", "shared", "shared"] ∧
    (h.service.sink.counters.hits, h.service.sink.counters.misses) = (1, 3) ∧
    h.service.sink.store.batches = h.written.map (·.batch) ∧
    (∀ s ∈ h.flushed, ∀ a ∈ s.attempts,
      a.tenant ∈ s.registry.caches.keys ∧
      a.batch.rows = rowsOf (s.registry.pending a.tenant) a.batch.kind ∧
      a.batch.database = settings.clickhouse.tenantDatabase a.tenant.tenantId ∧
      a.batch.database ∈ s.sink.store.initialized) := by
  intro a b c settings gc xs
  obtain ⟨hbatches, hattempts, -⟩ := writes_confined settings rfl { cacheOrder := fun _ => [c, b] } xs
  exact ⟨rfl, by decide +kernel, by decide +kernel, by decide +kernel, by decide +kernel, hbatches,
    hattempts⟩

end Ingest
