import Ingest.Metrics.Health
import Ingest.Proofs.CacheBatches
import Ingest.Proofs.CollectedMetrics
import Ingest.Proofs.FlushAccounts
import Ingest.Proofs.Operations

/-!
A service with a single tenant, in front of a store that answers as it likes. Main statement: whose
requests it serves makes no difference. If they all came from nobody, the service would give the
same answers, ask the same of the store, for no other database than the configured one, and show the
same metrics.
-/

namespace Ingest

variable {σ : Type}

/-! ### Runs -/

/-- What is asked of a service, whatever store it has. -/
inductive Request where
  | append (t : Tenant) (k : Kind) (es : List Event)
  | addSignal (x : Signal)
  | querySwitches (t : Tenant) (ip : String)
  | takeRequests (t : Tenant) (ip : String)
  | storeTrace (traceId : String) (t : Tenant)
  | traceTenant (traceId : String)
  | touchTrace (traceId : String)
  | collect (now : UInt64)
  | flush
  | sweep
  | wait (nanos : Nat)

/-- The same request, from nobody. -/
def Request.forgetTenant : Request → Request
  | append _ k es => append .none k es
  | addSignal x => addSignal { x with tenant := .none }
  | querySwitches _ ip => querySwitches .none ip
  | takeRequests _ ip => takeRequests .none ip
  | storeTrace traceId _ => storeTrace traceId .none
  | x => x

namespace Ingestor

def serve (b : Backend σ) (s : Ingestor σ) : Request → Answer × Ingestor σ
  | .append t k es =>
    match s.append b t k es with
    | (.ok _, s) => (.done, s)
    | (.error e, s) => (.failed e, s)
  | .addSignal x => (.done, s.addSignal x)
  | .querySwitches t ip =>
    let (switches, s) := s.querySwitches t ip
    (.switches switches, s)
  | .takeRequests t ip =>
    let (requests, s) := s.takeRequests t ip
    (.requests requests, s)
  | .storeTrace traceId t => (.done, s.storeTrace traceId t)
  | .traceTenant traceId => (.tenant (s.traces.tenant? traceId), s)
  | .touchTrace traceId => (.done, s.touchTrace traceId)
  | .collect now =>
    match s.collect b now with
    | (.ok n, s) => (.collected n, s)
    | (.error e, s) => (.failed e, s)
  | .flush =>
    let (report, s) := s.flush b
    (.flushed report, s)
  | .sweep => (.done, s.sweep)
  | .wait nanos => (.done, { s with sink.clock := s.sink.clock + nanos })

end Ingestor

/-- A service after some requests, with what it answered. -/
structure ServiceRun (σ : Type) where
  service : Ingestor σ
  answers : List Answer := []

namespace ServiceRun

variable (b : Backend σ)

def step (r : ServiceRun σ) (x : Request) : ServiceRun σ where
  service := (r.service.serve b x).2
  answers := r.answers ++ [(r.service.serve b x).1]

/-- A new service in front of a store, after requests. -/
def of (settings : Settings) (env : Environment) (store : σ) (xs : List Request) : ServiceRun σ :=
  xs.foldl (step b) { service := .new settings store env }

theorem of_concat (settings : Settings) (env : Environment) (store : σ) (xs : List Request)
    (x : Request) : of b settings env store (xs ++ [x]) = (of b settings env store xs).step b x := by
  simp [of]

/-- What the store was asked to prepare and to write. -/
def asked (r : ServiceRun (σ × List StoreCall)) : List StoreCall := r.service.sink.store.2

end ServiceRun

/-! ### One cache for everybody -/

namespace Ingestor

variable {s : Ingestor σ}

/-- The cache is there, so that the store has nothing to do. -/
theorem deposit_single (h : s.registry.multiTenant = false) (b : Backend σ) (t : Tenant)
    (es : List Event) :
    s.deposit b t es = (.ok (), { s with registry := s.registry.append .none es }) := by
  have hopen : s.openCache b t = (.ok (), s) := by simp [openCache, Registry.enroll, h]
  rw [deposit, hopen]
  simp only [Registry.append, Registry.scope_of_single h]

theorem append_single (h : s.registry.multiTenant = false) (b : Backend σ) (t : Tenant) (k : Kind)
    (es : List Event) :
    s.append b t k es = (.ok (), if es.isEmpty then s
      else { s with registry := s.registry.append .none es }.countAppended k es.length) := by
  rw [append, deposit_single h]
  split <;> rfl

theorem depositMetrics_single (b : Backend σ) : ∀ (groups : List (Tenant × List ReportMetric))
    (s : Ingestor σ), s.registry.multiTenant = false →
      ∃ caches, s.depositMetrics b groups
        = (.ok (), { s with registry := { s.registry with caches } })
  | [], s, _ => ⟨s.registry.caches, rfl⟩
  | (t, ms) :: groups, s, h => by
    obtain ⟨caches, hrest⟩ := depositMetrics_single b groups
      { s with registry := s.registry.append .none (ms.map .reportMetric) } h
    rw [depositMetrics, deposit_single h]
    exact ⟨caches, hrest⟩

/-- A collection never fails, and changes nothing but the signals, the cache and what is counted. -/
theorem collect_single (h : s.registry.multiTenant = false) (b : Backend σ) (now : UInt64) :
    ∃ n signals caches counters, s.collect b now = (.ok n, { s with
      signals, counters, registry := { s.registry with caches } }) := by
  obtain ⟨caches, hdeposit⟩ := depositMetrics_single b (s.signals.collect now).1
    { s with signals := (s.signals.collect now).2 } h
  rw [collect]
  dsimp only
  rw [hdeposit]
  dsimp only
  split
  · exact ⟨_, _, caches, _, rfl⟩
  · exact ⟨_, _, caches, _, rfl⟩

/-- No request can fail, since no database has to be made for it. -/
theorem serve_ne_failed (h : s.registry.multiTenant = false) (b : Backend σ) (x : Request)
    (e : TenantInitError) : (s.serve b x).1 ≠ .failed e := by
  cases x with
  | append t k es =>
    rw [serve, append_single h]
    exact Answer.noConfusion
  | collect now =>
    obtain ⟨n, signals, caches, counters, heq⟩ := collect_single h b now
    rw [serve, heq]
    exact Answer.noConfusion
  | _ => exact Answer.noConfusion

/-- With a single tenant it does not matter who asks. -/
theorem serve_forgetTenant (h : s.registry.multiTenant = false) (b : Backend σ) (x : Request) :
    s.serve b x.forgetTenant = s.serve b x := by
  have hscope (t : Tenant) : s.scope t = .none := Registry.scope_of_single h t
  cases x with
  | append t k es => simp only [Request.forgetTenant, serve, append_single h]
  | addSignal x => simp only [Request.forgetTenant, serve, addSignal, hscope]
  | querySwitches t ip => simp only [Request.forgetTenant, serve, querySwitches, hscope]
  | takeRequests t ip => simp only [Request.forgetTenant, serve, takeRequests, hscope]
  | storeTrace traceId t => simp only [Request.forgetTenant, serve, storeTrace, hscope]
  | _ => rfl

end Ingestor

/-! ### One database -/

def StoreCall.statement : StoreCall → Statement
  | prepare s _ => s
  | execute s _ _ => s

/-- What a flush asks of the store is for the databases of its caches. -/
theorem Sink.calls_flush (b : Backend σ) {w : Sink (σ × List StoreCall)} (h : w.statements.Filed)
    (exportClients : Bool) (caches : List TenantCache) :
    (flush b.noting exportClients caches w).2.statements.Filed ∧
    ∃ calls, (flush b.noting exportClients caches w).2.store.2 = w.store.2 ++ calls ∧
      ∀ call ∈ calls, ∃ c ∈ caches, call.statement.database = c.database := by
  let bs := ownedBatches exportClients caches
  obtain ⟨hfiled, hnoted, hsettled⟩ :=
    noted_writings b bs ({ tenants := caches.length }, w) h
  rw [map_snd_ownedBatches] at hfiled hnoted
  refine ⟨hfiled, _, hnoted, fun call hcall => ?_⟩
  obtain ⟨v, hv, hcall⟩ := List.mem_flatMap.mp hcall
  have howned : (v.attempt.tenant, v.attempt.batch) ∈ bs := by
    rw [← map_writings b bs ({ tenants := caches.length }, w)]
    exact List.mem_map.mpr ⟨v, hv, rfl⟩
  obtain ⟨c, hc, -, hbatch⟩ := exists_of_mem_ownedBatches howned
  have hstatement : call.statement = v.attempt.batch.statement := by
    obtain ⟨answer, rfl | rfl⟩ := (hsettled v hv).about call hcall <;> rfl
  refine ⟨c, hc, ?_⟩
  rw [hstatement]
  exact (TenantCache.of_mem_batches hbatch).2

/-- A service with a single tenant, that never asked anything of the store but for one database. -/
structure Ingestor.Single (database : String) (s : Ingestor (σ × List StoreCall)) : Prop where
  multiTenant : s.registry.multiTenant = false
  configured : s.registry.settings.database = database
  filed : s.sink.statements.Filed
  calls : ∀ call ∈ s.sink.store.2, call.statement.database = database

namespace Ingestor.Single

variable {database : String} {s : Ingestor (σ × List StoreCall)}

theorem flush (h : s.Single database) (b : Backend σ) : (s.flush b.noting).2.Single database := by
  obtain ⟨hfiled, calls, hnoted, hcalls⟩ := Sink.calls_flush b h.filed
    s.settings.clickhouse.exportServiceClient s.registry.snapshot
  refine ⟨h.multiTenant, h.configured, hfiled, fun call hcall => ?_⟩
  rcases List.mem_append.mp (hnoted ▸ hcall) with hold | hnew
  · exact h.calls call hold
  · obtain ⟨c, hc, heq⟩ := hcalls call hnew
    obtain ⟨e, -, rfl⟩ := List.mem_map.mp hc
    rw [heq, Registry.databaseFor_of_single h.multiTenant, h.configured]

theorem serve (h : s.Single database) (b : Backend σ) (x : Request) :
    (s.serve b.noting x).2.Single database := by
  cases x with
  | append t k es =>
    rw [Ingestor.serve, append_single h.multiTenant]
    dsimp only
    split
    · exact h
    · exact ⟨h.multiTenant, h.configured, h.filed, h.calls⟩
  | collect now =>
    obtain ⟨n, signals, caches, counters, heq⟩ := collect_single h.multiTenant b.noting now
    rw [Ingestor.serve, heq]
    exact ⟨h.multiTenant, h.configured, h.filed, h.calls⟩
  | flush => exact h.flush b
  | sweep => exact ⟨h.multiTenant, h.configured, h.filed.evictIdle _, h.calls⟩
  | _ => exact ⟨h.multiTenant, h.configured, h.filed, h.calls⟩

end Ingestor.Single

/-! ### Two runs -/

namespace ServiceRun

variable {settings : Settings}

/-- Every run has one tenant only, by induction on the requests. -/
theorem single_of (h : settings.tenancy.enabled = false) (b : Backend σ) (env : Environment)
    (store : σ) (xs : List Request) :
    (of b.noting settings env (store, []) xs).service.Single settings.clickhouse.database := by
  induction xs using List.reverseRecOn with
  | nil => exact ⟨h, rfl, StatementCache.filed_empty _, by simp [of, Ingestor.new]⟩
  | append_singleton xs x ih =>
    rw [of_concat]
    exact ih.serve b x

theorem answers_ne_failed (h : settings.tenancy.enabled = false) (b : Backend σ)
    (env : Environment) (store : σ) (xs : List Request) :
    ∀ y ∈ (of b.noting settings env (store, []) xs).answers, ∀ e, y ≠ .failed e := by
  induction xs using List.reverseRecOn with
  | nil => simp [of]
  | append_singleton xs x ih =>
    have hsingle := single_of h b env store xs
    rw [of_concat, step, List.forall_mem_append]
    refine ⟨ih, fun y hy e => ?_⟩
    rw [List.mem_singleton.mp hy]
    exact Ingestor.serve_ne_failed hsingle.multiTenant b.noting x e

/-- A run and the same run of nobody's requests are one run. -/
theorem of_forgetTenant (h : settings.tenancy.enabled = false) (b : Backend σ) (env : Environment)
    (store : σ) (xs : List Request) :
    of b.noting settings env (store, []) (xs.map Request.forgetTenant)
      = of b.noting settings env (store, []) xs := by
  induction xs using List.reverseRecOn with
  | nil => rfl
  | append_singleton xs x ih =>
    have hsingle := single_of h b env store xs
    rw [List.map_append, List.map_singleton, of_concat, of_concat, ih]
    simp only [step, Ingestor.serve_forgetTenant hsingle.multiTenant]

end ServiceRun

/-- With a single tenant, in every environment and whatever the store answers: no request fails, and
if the requests of a run all came from nobody, the service would give the same answers, reports of
flushes among them. The store would be asked to prepare and write the same, all of it for the
configured database; and the metrics would be the same, whether or not the service counts client calls
or shows metrics of its own. -/
theorem tenants_forgotten (settings : Settings) (h : settings.tenancy.enabled = false)
    (b : Backend σ) (env : Environment) (store : σ) (xs : List Request) :
    let r := ServiceRun.of b.noting settings env (store, []) xs
    let r' := ServiceRun.of b.noting settings env (store, []) (xs.map Request.forgetTenant)
    (∀ y ∈ r.answers, ∀ e, y ≠ .failed e) ∧ r'.answers = r.answers ∧ r'.asked = r.asked ∧
    (∀ call ∈ r.asked, call.statement.database = settings.clickhouse.database) ∧
    ∀ health connected,
      r'.service.families health connected = r.service.families health connected := by
  intro r r'
  have hrun : r' = r := ServiceRun.of_forgetTenant h b env store xs
  rw [hrun]
  exact ⟨ServiceRun.answers_ne_failed h b env store xs, rfl, rfl,
    (ServiceRun.single_of h b env store xs).calls, fun _ _ => rfl⟩

/-- One tenant's signal closes a url for an agent of another one, and the trace of a tenant is known
as nobody's. -/
theorem tenants_forgotten_two_tenants :
    let a : Tenant := ⟨"a", "1"⟩
    let b : Tenant := ⟨"b", "2"⟩
    let settings : Settings := { clickhouse := { database := "apm" } }
    let xs : List Request := [.append a .jvmGc [.jvmGc .zero], .append b .jvmGc [.jvmGc .zero],
      .addSignal (.ofProcess a "10.0.0.1" 7 false true), .querySwitches b "10.0.0.1",
      .takeRequests b "10.0.0.1", .storeTrace "t" a, .touchTrace "t", .traceTenant "t", .collect 5,
      .flush]
    let r := ServiceRun.of MemoryStore.backend.noting settings {} ({}, []) xs
    let r' :=
      ServiceRun.of MemoryStore.backend.noting settings {} ({}, []) (xs.map Request.forgetTenant)
    settings.tenancy.enabled = false ∧
      r.answers = [.done, .done, .done, .switches ⟨["7-/stock"], []⟩, .requests [⟨7, 7, 1, 9⟩],
        .done, .done, .tenant (some .none), .collected 1, .flushed ⟨1, 3, 0, 0⟩] ∧
      r.service.sink.store.1.batches.map (fun x => (x.database, x.kind))
        = [("apm", .jvmGc), ("apm", .reportMetric)] ∧
      (∀ y ∈ r.answers, ∀ e, y ≠ .failed e) ∧ r'.answers = r.answers ∧ r'.asked = r.asked ∧
      (∀ call ∈ r.asked, call.statement.database = settings.clickhouse.database) ∧
      ∀ health connected,
        r'.service.families health connected = r.service.families health connected := by
  intro a b settings xs r r'
  obtain ⟨hserved, hanswers, hasked, hcalls, hfamilies⟩ :=
    tenants_forgotten settings rfl MemoryStore.backend {} {} xs
  exact ⟨rfl, by decide +kernel, by decide +kernel, hserved, hanswers, hasked, hcalls, hfamilies⟩

end Ingest
