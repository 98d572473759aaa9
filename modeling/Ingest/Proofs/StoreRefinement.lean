import Mathlib.Data.List.Induction
import Ingest.Proofs.Deposits
import Ingest.Proofs.ObligingServer

/-!
A service in front of a ClickHouse server that takes everything, beside one in front of a memory
store, in one environment. Main statement: after every run both have given the same answers and found
the same statements; and the server was sent the inserts of just the batches that the memory store
keeps, each after one query for the columns of its table where its statement was missing.
-/

namespace Ingest

variable {σ τ : Type}

/-! ### Runs -/

/-- A request, or a statement closed from outside, or all of them. -/
inductive ServingStep where
  | serve (x : Request)
  | closeStatement (id : Nat)
  | closeStatements

/-- The batches that a flush would write now. -/
def Ingestor.batchesToWrite (s : Ingestor σ) : List Batch :=
  s.registry.snapshot.flatMap (TenantCache.batches s.settings.clickhouse.exportServiceClient)

/-- The statements that a request uses. -/
def Ingestor.usesOf (b : Backend σ) (s : Ingestor σ) : Request → List StatementUse
  | .flush => Sink.uses b ({ tenants := s.registry.snapshot.length }, s.sink) s.batchesToWrite
  | _ => []

/-- A service after some steps, with what it answered and the statements it used. -/
structure Serving (σ : Type) where
  service : Ingestor σ
  answers : List Answer := []
  uses : List StatementUse := []

namespace Serving

variable (b : Backend σ)

def step (r : Serving σ) : ServingStep → Serving σ
  | .serve x =>
    { service := (r.service.serve b x).2
      answers := r.answers ++ [(r.service.serve b x).1]
      uses := r.uses ++ r.service.usesOf b x }
  | .closeStatement id => { r with
      service.sink.statements := r.service.sink.statements.close id }
  | .closeStatements => { r with service := r.service.closeStatements }

/-- A new service in front of a store, after some steps. -/
def of (settings : Settings) (env : Environment) (store : σ) (xs : List ServingStep) : Serving σ :=
  xs.foldl (step b) { service := .new settings store env }

theorem of_concat (settings : Settings) (env : Environment) (store : σ) (xs : List ServingStep)
    (x : ServingStep) : of b settings env store (xs ++ [x]) = (of b settings env store xs).step b x := by
  simp [of]

end Serving

/-! ### Two runs -/

/-- A request uses the same statements in front of stores that answer alike. -/
theorem Ingestor.usesOf_same {b : Backend σ} {b' : Backend τ} {R : σ → τ → Prop}
    (hb : b.Lockstep b' R) {s : Ingestor σ} {s' : Ingestor τ} (h : s.Related R s') (x : Request) :
    s'.usesOf b' x = s.usesOf b x := by
  obtain ⟨t, rfl, hR⟩ := h
  cases x with
  | flush => exact Sink.uses_same hb _ ⟨rfl, t, rfl, hR⟩
  | _ => rfl

namespace Serving

/-- In front of stores that answer alike, runs go alike, by induction on their steps. -/
theorem same_of {b : Backend σ} {b' : Backend τ} {R : σ → τ → Prop} (hb : b.Lockstep b' R)
    (settings : Settings) (env : Environment) {store : σ} {store' : τ} (hR : R store store')
    (xs : List ServingStep) :
    (of b settings env store xs).service.Related R (of b' settings env store' xs).service ∧
    (of b' settings env store' xs).answers = (of b settings env store xs).answers ∧
    (of b' settings env store' xs).uses = (of b settings env store xs).uses := by
  induction xs using List.reverseRecOn with
  | nil => exact ⟨Ingestor.related_new settings env hR, rfl, rfl⟩
  | append_singleton xs x ih =>
    obtain ⟨hservice, hanswers, huses⟩ := ih
    rw [of_concat, of_concat]
    cases x with
    | serve x =>
      obtain ⟨hanswer, hrelated⟩ := Ingestor.serve_same hb hservice x
      refine ⟨hrelated, ?_, ?_⟩
      · simp only [step, hanswers, hanswer]
      · simp only [step, huses, Ingestor.usesOf_same hb hservice x]
    | closeStatement id | closeStatements =>
      obtain ⟨t, heq, hR'⟩ := hservice
      exact ⟨⟨t, by simp only [step, heq]; rfl, hR'⟩, hanswers, huses⟩

end Serving

/-! ### What the server is told -/

/-- Whether the queries that have part in writing, the hits and the misses are those of uses. -/
structure Ingestor.Told (us : List StatementUse) (s : Ingestor (List ClickHouse.Query)) : Prop where
  filed : s.sink.statements.Filed
  sent : s.sink.store.filter ClickHouse.Query.isWriting = us.flatMap ClickHouse.queriesOf
  counts : s.sink.counters.CountsUses us

namespace Ingestor.Told

variable {store : ClickHouse.Store} {us : List StatementUse} {s : Ingestor (List ClickHouse.Query)}

/-- What makes a database has no part in writing. -/
theorem openCache (h : store.server.Obliging) (hs : s.Told us) (t : Tenant) :
    (s.openCache store.backend t).2.Told us := by
  obtain ⟨new, hinit, hnew⟩ :=
    ClickHouse.Store.initDatabase_obliging h s.sink.store (s.registry.databaseFor t)
  have hbackend : store.backend.initDatabase s.sink.store (s.registry.databaseFor t)
      = (.ok (), s.sink.store ++ new) := hinit
  rw [Ingestor.openCache]
  rcases s.registry.enroll_cases store.backend t s.sink.store with
    ⟨-, heq⟩ | ⟨-, -, ⟨cause, sent, hfails, -⟩ | ⟨sent, hmakes, heq⟩⟩
  · rw [heq]
    exact ⟨hs.filed, hs.sent, hs.counts⟩
  · rw [hbackend] at hfails
    cases hfails
  · obtain rfl := (Prod.mk.inj (hbackend.symm.trans hmakes)).2
    have hnone : new.filter ClickHouse.Query.isWriting = [] :=
      List.filter_eq_nil_iff.mpr fun q hq => by rw [(hnew q hq).2]; exact Bool.false_ne_true
    rw [heq]
    refine ⟨hs.filed, ?_, hs.counts⟩
    dsimp only
    rw [List.filter_append, hnone, List.append_nil]
    exact hs.sent

theorem keptByDeposits (h : store.server.Obliging) (us : List StatementUse) :
    KeptByDeposits store.backend (Told us) where
  deposit {s} hs t es := by
    have hopen := openCache h hs t
    rw [Ingestor.deposit]
    cases hx : s.openCache store.backend t with
    | mk answer s' =>
      rw [hx] at hopen
      cases answer with
      | error e => exact hopen
      | ok _ => exact ⟨hopen.filed, hopen.sent, hopen.counts⟩
  rest hs _ _ := ⟨hs.filed, hs.sent, hs.counts⟩

/-- A flush tells the server its batches. -/
theorem flush (h : store.server.Obliging) (hs : s.Told us) :
    (s.flush store.backend).2.Told (us ++ s.usesOf store.backend .flush) := by
  let acc : FlushReport × Sink (List ClickHouse.Query) :=
    ({ tenants := s.registry.snapshot.length }, s.sink)
  have hrows : ∀ batch ∈ s.batchesToWrite, batch.rows ≠ [] := by
    intro batch hbatch
    obtain ⟨c, -, hbatch⟩ := List.mem_flatMap.mp hbatch
    exact (TenantCache.of_mem_batches hbatch).1
  obtain ⟨hfiled, hsent⟩ :=
    ClickHouse.Store.queries_foldl h s.batchesToWrite acc hs.filed hrows
  have hcounts := Sink.countsUses_foldl store.backend s.batchesToWrite acc hs.counts
  refine ⟨hfiled, ?_, hcounts⟩
  have hstore : (s.flush store.backend).2.sink.store = s.sink.store
      ++ (s.usesOf store.backend .flush).flatMap ClickHouse.queriesOf := hsent
  rw [hstore, List.filter_append, ClickHouse.filter_queriesOf, hs.sent, List.flatMap_append]

/-- A request tells the server what it uses, one case for each request. -/
theorem serve (h : store.server.Obliging) (hs : s.Told us) (x : Request) :
    (s.serve store.backend x).2.Told (us ++ s.usesOf store.backend x) := by
  cases x with
  | append t k es =>
    have happend := (keptByDeposits h us).append hs t k es
    rw [usesOf, List.append_nil, Ingestor.serve]
    · split <;> next heq => rwa [heq] at happend
    · intro hflush
      cases hflush
  | collect now =>
    have hcollect := (keptByDeposits h us).collect hs now
    rw [usesOf, List.append_nil, Ingestor.serve]
    · split <;> next heq => rwa [heq] at hcollect
    · intro hflush
      cases hflush
  | flush => exact hs.flush h
  | sweep =>
    rw [usesOf, List.append_nil]
    · exact ⟨hs.filed.evictIdle _, hs.sent, hs.counts⟩
    · intro hflush
      cases hflush
  | _ =>
    rw [usesOf, List.append_nil]
    · exact ⟨hs.filed, hs.sent, hs.counts⟩
    · intro hflush
      cases hflush

end Ingestor.Told

/-- After every run the server was told of all the uses, by induction on the steps. -/
theorem Serving.told_of {store : ClickHouse.Store} (h : store.server.Obliging) (settings : Settings)
    (env : Environment) (xs : List ServingStep) :
    (of store.backend settings env [] xs).service.Told
      (of store.backend settings env [] xs).uses := by
  induction xs using List.reverseRecOn with
  | nil => exact ⟨StatementCache.filed_empty _, rfl, rfl, rfl⟩
  | append_singleton xs x ih =>
    rw [of_concat]
    cases x with
    | serve x => exact ih.serve h x
    | closeStatement id => exact ⟨ih.filed.close id, ih.sent, ih.counts⟩
    | closeStatements => exact ⟨StatementCache.filed_closeAll _, ih.sent, ih.counts⟩

/-- In front of a server that takes every query and lists every column, and in front of a memory store
that takes everything, every run of a service gives the same answers, reports of flushes among them,
and the same hits and misses, provided that both visit their caches in the same order, whichever that
is. The inserts that the server is sent are the batches that the memory store keeps, in their order,
as the text of their statement and their rows separated by commas. And of what it is sent for writing
there is, for each of these batches, one query for the columns of its table if its statement was
missing when it was looked up and none if it was found, and then the insert. -/
theorem clickHouse_mirrors_memory (store : ClickHouse.Store) (h : store.server.Obliging)
    (settings : Settings) (env : Environment) (xs : List ServingStep) :
    let m := Serving.of MemoryStore.backend settings env {} xs
    let c := Serving.of store.backend settings env [] xs
    let batches := m.service.sink.store.batches
    let sent := c.service.sink.store
    let counters := c.service.sink.counters
    c.answers = m.answers ∧ counters = m.service.sink.counters ∧
    (sent.filter (·.isInsert)).map (·.text)
      = batches.map (fun batch => batch.statement.insertHead ++ ", ".intercalate batch.rows) ∧
    sent.filter (·.isWriting) = c.uses.flatMap (fun u =>
      (if u.missed then [.listColumns u.batch.statement] else [])
        ++ [.insert u.batch.statement u.batch.rows]) ∧
    c.uses.map (·.batch) = batches ∧ c.uses = m.uses ∧
    counters.hits = c.uses.countP (fun u => !u.missed) ∧
    counters.misses = c.uses.countP (·.missed) := by
  intro m c batches sent counters
  have hnothing : ClickHouse.Store.Mirrors {} [] := ⟨rfl, rfl, rfl, rfl⟩
  obtain ⟨⟨sent', hservice, hmirrors⟩, hanswers, huses⟩ :=
    Serving.same_of (ClickHouse.Store.lockstep h) settings env hnothing xs
  have htold := Serving.told_of h settings env xs
  have hsent : sent = sent' := congrArg (·.sink.store) hservice
  have hcounters : counters = m.service.sink.counters := congrArg (·.sink.counters) hservice
  have hinserted : sent.filterMap ClickHouse.Query.inserted? = batches := hsent ▸ hmirrors.inserted
  refine ⟨hanswers, hcounters, ?_, htold.sent, ?_, huses, htold.counts.hits, htold.counts.misses⟩
  · rw [ClickHouse.text_inserts, hinserted]
    rfl
  · rw [← ClickHouse.inserted_queriesOf, ← htold.sent, ClickHouse.filterMap_filter_isWriting]
    exact hinserted

/-- Two caches are visited the other way round by the first flush. Their statements are found once,
after they were prepared; one is closed, found closed and prepared again; and after a sweep both are
prepared once more. -/
theorem clickHouse_mirrors_memory_two_tenants :
    let server : ClickHouse.Server := ⟨fun _ q => .ok (match q with
      | .listColumns s => s.kind.columns
      | _ => [])⟩
    let store : ClickHouse.Store := ⟨{}, server⟩
    let t : Tenant := ⟨"a", "1"⟩
    let u : Tenant := ⟨"b", "2"⟩
    let settings : Settings := { tenancy := { enabled := true } }
    let env : Environment := { cacheOrder := fun n => if n = 0 then [u, t] else [] }
    let fill : List ServingStep := [.serve (.append t .jvmGc [.jvmGc .zero]),
      .serve (.append u .jvmGc [.jvmGc .zero]), .serve .flush]
    let xs : List ServingStep := fill ++ fill ++ .closeStatement 0 :: fill
      ++ [.serve (.wait 600000000001), .serve .sweep] ++ fill
    let m := Serving.of MemoryStore.backend settings env {} xs
    let c := Serving.of store.backend settings env [] xs
    store.server.Obliging ∧
    c.uses.map (fun use => (use.batch.database, use.missed))
      = [("apo_tenant_b", true), ("apo_tenant_a", true), ("apo_tenant_a", false),
        ("apo_tenant_b", false), ("apo_tenant_a", false), ("apo_tenant_b", true),
        ("apo_tenant_a", true), ("apo_tenant_b", true)] ∧
    c.answers = m.answers ∧ c.service.sink.counters = m.service.sink.counters ∧
    (c.service.sink.store.filter (·.isInsert)).map (·.text) = m.service.sink.store.batches.map
      (fun batch => batch.statement.insertHead ++ ", ".intercalate batch.rows) := by
  intro server store t u settings env fill xs
  have hserver : store.server.Obliging := by
    refine ⟨fun _ _ => ⟨_, rfl⟩, fun sent st names hanswer column hcolumn => ?_⟩
    rwa [← Except.ok.inj hanswer]
  obtain ⟨hanswers, hcounters, htexts, -⟩ := clickHouse_mirrors_memory store hserver settings env xs
  exact ⟨hserver, by decide +kernel, hanswers, hcounters, htexts⟩

end Ingest
