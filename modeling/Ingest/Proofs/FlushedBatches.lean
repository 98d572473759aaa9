import Ingest.Proofs.Lockstep
import Ingest.Proofs.RowSplitting
import Ingest.Proofs.ServiceHistories

/-!
What a flush of a service writes. The batches that are due are told here from the records that wait:
kind by kind, in the order of the kinds, those of each kind that are held or derived. Main statement:
after every history a flush writes the batches that are due, tenant by tenant, but for the tables that
fail; it asks the store for nothing else, and leaves every cache empty. Which tables fail, and when,
makes no difference to what is due.
-/

namespace Ingest

/-! ### Records that are due -/

/-- The error report that an event is, if it is one. -/
def Event.errorReport? : Event → Option ErrorReport
  | errorReport r => some r
  | _ => none

theorem filterMap_propagation? (es : List Event) :
    es.filterMap Event.propagation?
      = (es.filterMap Event.errorReport?).filterMap ErrorReport.propagation? := by
  rw [List.filterMap_filterMap]
  refine List.filterMap_congr fun e _ => ?_
  cases e <;> rfl

/-- The calls to dependencies that events tell of, through the relations among them. -/
def clientsOf (es : List Event) : List ServiceClient :=
  (es.filterMap Event.relation?).flatMap Relation.serviceClients

theorem flatMap_serviceClients (es : List Event) :
    es.flatMap Event.serviceClients = clientsOf es := by
  induction es with
  | nil => rfl
  | cons e es ih =>
    rw [List.flatMap_cons, ih]
    cases e <;> rfl

/-- The records of a kind among events, in their order: those that are of the kind or, for the two
derived kinds, those that error reports and relations give rise to. -/
def recordsOf (es : List Event) : Kind → List TableRecord
  | .errorPropagation =>
    ((es.filterMap Event.errorReport?).filterMap ErrorReport.propagation?).map .propagation
  | .serviceClient => (clientsOf es).map .client
  | k => (es.filter fun e => decide (e.kind = k)).map .sent

theorem encodeAll_recordsOf (es : List Event) (k : Kind) :
    encodeAll (recordsOf es k) = rowsOf es k := by
  cases k with
  | errorPropagation =>
    rw [rowsOf, filterMap_propagation?, recordsOf, encodeAll, List.flatMap_map]
    rfl
  | serviceClient =>
    rw [rowsOf, flatMap_serviceClients, recordsOf, encodeAll, List.flatMap_map]
    rfl
  | _ => exact List.flatMap_map ..

/-- The batches that are due from a cache, one for each kind in order that has rows; calls to
dependencies only if they are exported, and nothing for the tables that fail. -/
def dueBatches (exportClients : Bool) (failing : List Kind) (c : TenantCache) : List Batch :=
  Kind.all.filterMap fun k =>
    let rows := encodeAll (recordsOf c.pending k)
    if rows = [] ∨ k ∈ failing ∨ (k = .serviceClient ∧ exportClients = false) then none
    else some ⟨c.database, k, rows⟩

theorem filter_map_filter {α β : Type} (p : α → Bool) (f : α → β) (q : β → Bool) (xs : List α) :
    ((xs.filter p).map f).filter q
      = xs.filterMap fun x => if p x && q (f x) then some (f x) else none := by
  induction xs with
  | nil => rfl
  | cons x xs ih => cases hp : p x <;> cases hq : q (f x) <;> simp [hp, hq, ih]

theorem filter_batches_eq (exportClients : Bool) (failing : List Kind) (c : TenantCache) :
    (c.batches exportClients).filter (fun batch => decide (batch.kind ∉ failing))
      = dueBatches exportClients failing c := by
  rw [TenantCache.batches, flushedKinds, List.filter_filter, filter_map_filter, dueBatches]
  refine List.filterMap_congr fun k _ => ?_
  rw [encodeAll_recordsOf]
  cases exportClients <;> by_cases hk : k = .serviceClient <;> simp only [hk] <;> grind

theorem batches_eq_dueBatches (exportClients : Bool) (c : TenantCache) :
    c.batches exportClients = dueBatches exportClients [] c := by
  rw [← filter_batches_eq]
  simp

/-- The batches due of a kind are the same for all tables that fail but for that of the kind. -/
theorem filter_dueBatches (exportClients : Bool) {failing : List Kind} {k : Kind}
    (hk : k ∉ failing) (c : TenantCache) :
    (dueBatches exportClients failing c).filter (fun batch => decide (batch.kind = k))
      = (dueBatches exportClients [] c).filter fun batch => decide (batch.kind = k) := by
  rw [← filter_batches_eq, ← batches_eq_dueBatches, List.filter_filter]
  refine List.filter_congr fun batch _ => ?_
  by_cases h : batch.kind = k
  · simp [h, hk]
  · simp [h]

/-! ### Flushes -/

/-- What a flush attempts are the batches due if no table fails. -/
theorem map_batch_flushAttempts {σ : Type} (b : Backend σ) (exportClients : Bool)
    (caches : List TenantCache) (w : Sink σ) :
    (flushAttempts b exportClients caches w).map (·.batch)
      = caches.flatMap (dueBatches exportClients []) := by
  have hbatches := congrArg (List.map Prod.snd) (map_flushAttempts b exportClients caches w)
  rw [List.map_map, map_snd_ownedBatches] at hbatches
  rw [← List.flatMap_congr fun c _ => batches_eq_dueBatches exportClients c, ← hbatches]
  rfl

theorem written_flushAttempts {w : Sink MemoryStore} (hfiled : w.statements.Filed)
    (hdry : w.store.dryRun = false) (exportClients : Bool) (caches : List TenantCache) :
    ((flushAttempts MemoryStore.backend exportClients caches w).filter (·.written)).map (·.batch)
      = caches.flatMap (dueBatches exportClients w.store.failing) := by
  let as := flushAttempts MemoryStore.backend exportClients caches w
  obtain ⟨-, hwritten⟩ := Sink.wrote_flush hfiled hdry exportClients caches
  have hfilter : as.filter (·.written)
      = as.filter fun a => decide (a.batch.kind ∉ w.store.failing) :=
    List.filter_congr fun a ha => hwritten a ha
  have hmap : (as.filter fun a => decide (a.batch.kind ∉ w.store.failing)).map (·.batch)
      = (as.map (·.batch)).filter fun batch => decide (batch.kind ∉ w.store.failing) := by
    rw [List.filter_map]
    rfl
  rw [hfilter, hmap, map_batch_flushAttempts, List.filter_flatMap]
  refine List.flatMap_congr fun c _ => ?_
  rw [← batches_eq_dueBatches, filter_batches_eq]

/-- A noting store answers as the store does whose calls it notes. -/
theorem Backend.lockstep_noting {σ : Type} (b : Backend σ) :
    b.Lockstep b.noting fun s st => st.1 = s where
  prepare := by rintro _ ⟨s, calls⟩ rfl st; exact ⟨rfl, rfl⟩
  execute := by rintro _ ⟨s, calls⟩ rfl st ready rows; exact ⟨rfl, rfl⟩
  initDatabase := by rintro _ ⟨s, calls⟩ rfl database; exact ⟨rfl, rfl⟩

/-- A sink that notes what it asks of its store from now on. -/
def Sink.noting {σ : Type} (w : Sink σ) : Sink (σ × List StoreCall) := w.withStore (w.store, [])

/-- The calls of a flush are those of its attempts, one after the other, and nothing else. -/
theorem calls_flush_noting {σ : Type} (b : Backend σ) {w : Sink σ} (h : w.statements.Filed)
    (exportClients : Bool) (caches : List TenantCache) :
    (flush b.noting exportClients caches w.noting).2.store.1
        = (flush b exportClients caches w).2.store ∧
    ∃ ws : List Writing,
      (flush b.noting exportClients caches w.noting).2.store.2 = ws.flatMap (·.calls) ∧
      ws.map (·.attempt) = flushAttempts b exportClients caches w ∧ ∀ v ∈ ws, v.Settled := by
  have hstart : SameOutcome (Sink.Related fun s st => st.1 = s)
      (({ tenants := caches.length }, w) : FlushReport × Sink σ)
      ({ tenants := caches.length }, w.noting) := ⟨rfl, (w.store, []), rfl, rfl⟩
  have hsame : SameOutcome (Sink.Related fun s st => st.1 = s)
      (flush b exportClients caches w) (flush b.noting exportClients caches w.noting) :=
    Sink.foldl_write_same b.lockstep_noting _ hstart
  obtain ⟨-, t, heq, hstore⟩ := hsame
  let ws := Sink.writings b ({ tenants := caches.length }, w.noting)
    (ownedBatches exportClients caches)
  obtain ⟨-, hnoted, hsettled⟩ := Sink.noted_writings b (ownedBatches exportClients caches)
    ({ tenants := caches.length }, w.noting) h
  rw [map_snd_ownedBatches] at hnoted
  have hattempts : ws.map (·.attempt)
      = Sink.attempts b.noting ({ tenants := caches.length }, w.noting)
        (ownedBatches exportClients caches) := Sink.attempt_writings b _ _
  refine ⟨?_, ws, hnoted, ?_, hsettled⟩
  · rw [heq]
    exact hstore
  · rw [hattempts, Sink.attempts_same b.lockstep_noting _ hstart, flushAttempts]

/-! ### What every history keeps -/

/-- A sink on a memory store that keeps batches, whether or not it makes databases. -/
structure Sink.Keeping (w : Sink MemoryStore) : Prop where
  filed : w.statements.Filed
  keeps : w.store.dryRun = false

namespace Ingestor

/-- A service with some settings, whose store keeps what is written. -/
structure Steady (settings : Settings) (s : Ingestor MemoryStore) : Prop where
  settings_eq : s.settings = settings
  sink : s.sink.Keeping

namespace Steady

variable {settings : Settings} {s : Ingestor MemoryStore}

theorem openCache (h : s.Steady settings) (t : Tenant) :
    (s.openCache MemoryStore.backend t).2.Steady settings := by
  have hdry (store : MemoryStore) (database : String) :
      (MemoryStore.backend.initDatabase store database).2.dryRun = store.dryRun := by
    have hinit : MemoryStore.backend.initDatabase = MemoryStore.initDatabase := rfl
    rw [hinit, MemoryStore.initDatabase]
    split <;> rfl
  have hmade := hdry s.sink.store (s.registry.databaseFor t)
  rw [Ingestor.openCache]
  rcases s.registry.enroll_cases MemoryStore.backend t s.sink.store with
    ⟨-, heq⟩ | ⟨-, -, ⟨cause, store, hinit, heq⟩ | ⟨store, hinit, heq⟩⟩ <;> rw [heq]
  · exact h
  · rw [hinit] at hmade
    exact ⟨h.settings_eq, h.sink.filed, hmade.trans h.sink.keeps⟩
  · rw [hinit] at hmade
    exact ⟨h.settings_eq, h.sink.filed, hmade.trans h.sink.keeps⟩

theorem keptByDeposits (settings : Settings) :
    KeptByDeposits MemoryStore.backend (Steady settings) where
  deposit {s} h t es := by
    have hopen := h.openCache t
    rw [Ingestor.deposit]
    cases hx : s.openCache MemoryStore.backend t with
    | mk answer s' =>
      rw [hx] at hopen
      cases answer <;> exact ⟨hopen.settings_eq, hopen.sink⟩
  rest h _ _ := ⟨h.settings_eq, h.sink⟩

theorem flush (h : s.Steady settings) : (s.flush MemoryStore.backend).2.Steady settings := by
  obtain ⟨hwrote, -⟩ := Sink.wrote_flush h.sink.filed h.sink.keeps
    s.settings.clickhouse.exportServiceClient s.registry.snapshot
  exact ⟨h.settings_eq, hwrote.filed, hwrote.dryRun.trans h.sink.keeps⟩

theorem perform (h : s.Steady settings) (x : Operation) : (s.perform x).2.Steady settings := by
  cases x with
  | append t k es =>
    have happend := (keptByDeposits settings).append h t k es
    rw [Ingestor.perform]
    split <;> next heq => rwa [heq] at happend
  | collect now =>
    have hcollect := (keptByDeposits settings).collect h now
    rw [Ingestor.perform]
    split <;> next heq => rwa [heq] at hcollect
  | flush => exact h.flush
  | sweep => exact ⟨h.settings_eq, h.sink.filed.evictIdle _, h.sink.keeps⟩
  | _ => exact ⟨h.settings_eq, h.sink.filed, h.sink.keeps⟩

theorem advance (h : s.Steady settings) (x : ServiceStep) : (s.advance x).2.Steady settings := by
  cases x with
  | perform x => exact h.perform x
  | openCache t =>
    have hopen := h.openCache t
    rw [Ingestor.advance]
    split <;> next heq => rwa [heq] at hopen
  | closeStatement id => exact ⟨h.settings_eq, h.sink.filed.close id, h.sink.keeps⟩
  | closeStatements => exact ⟨h.settings_eq, StatementCache.filed_closeAll _, h.sink.keeps⟩

end Steady

end Ingestor

theorem ServiceHistory.steady_of (settings : Settings) (env : Environment)
    (xs : List ServiceStep) : (of settings env xs).service.Steady settings := by
  induction xs using List.reverseRecOn with
  | nil => exact ⟨rfl, StatementCache.filed_empty _, rfl⟩
  | append_singleton xs x ih =>
    rw [of_concat]
    exact ih.advance x

/-! ### What failing tables do not matter for -/

/-- Whether a tenant gets a cache depends on the store only by whether it can make databases. -/
theorem Registry.enroll_alike (r : Registry) (u : Tenant) {s t : MemoryStore}
    (h : t.initFails = s.initFails) :
    SameOutcome (fun s t : MemoryStore => t.initFails = s.initFails)
      (r.enroll MemoryStore.backend u s) (r.enroll MemoryStore.backend u t) := by
  have hinit : MemoryStore.backend.initDatabase = MemoryStore.initDatabase := rfl
  unfold enroll
  split
  · exact ⟨rfl, h⟩
  · cases hfails : s.initFails <;>
      simp [hinit, MemoryStore.initDatabase, h, hfails, SameOutcome]

namespace Ingestor

/-- Services that hold the same records and signals, and can make databases or not alike. -/
structure HoldsAlike (s t : Ingestor MemoryStore) : Prop where
  registry : t.registry = s.registry
  signals : t.signals = s.signals
  initFails : t.sink.store.initFails = s.sink.store.initFails

namespace HoldsAlike

variable {s t : Ingestor MemoryStore}

theorem openCache (h : s.HoldsAlike t) (u : Tenant) :
    SameOutcome HoldsAlike (s.openCache MemoryStore.backend u)
      (t.openCache MemoryStore.backend u) := by
  rw [Ingestor.openCache, Ingestor.openCache, h.registry]
  obtain ⟨e, s', t', hs, ht, h'⟩ | ⟨r, s', t', hs, ht, h'⟩ :=
    (s.registry.enroll_alike u h.initFails).cases <;> rw [hs, ht]
  · exact ⟨rfl, rfl, h.signals, h'⟩
  · exact ⟨rfl, rfl, h.signals, h'⟩

theorem deposit (h : s.HoldsAlike t) (u : Tenant) (es : List Event) :
    SameOutcome HoldsAlike (s.deposit MemoryStore.backend u es)
      (t.deposit MemoryStore.backend u es) := by
  rw [Ingestor.deposit, Ingestor.deposit]
  obtain ⟨e, s', t', hs, ht, h'⟩ | ⟨_, s', t', hs, ht, h'⟩ := (h.openCache u).cases <;> rw [hs, ht]
  · exact ⟨rfl, h'⟩
  · exact ⟨rfl, congrArg (fun r : Registry => r.append u es) h'.registry, h'.signals, h'.initFails⟩

theorem append (h : s.HoldsAlike t) (u : Tenant) (k : Kind) (es : List Event) :
    SameOutcome HoldsAlike (s.append MemoryStore.backend u k es)
      (t.append MemoryStore.backend u k es) := by
  rw [Ingestor.append, Ingestor.append]
  split
  · exact ⟨rfl, h⟩
  · obtain ⟨e, s', t', hs, ht, h'⟩ | ⟨_, s', t', hs, ht, h'⟩ := (h.deposit u es).cases <;>
      rw [hs, ht]
    · exact ⟨rfl, h'⟩
    · exact ⟨rfl, h'.registry, h'.signals, h'.initFails⟩

theorem depositMetrics : ∀ (groups : List (Tenant × List ReportMetric))
    {s t : Ingestor MemoryStore}, s.HoldsAlike t →
      SameOutcome HoldsAlike (s.depositMetrics MemoryStore.backend groups)
        (t.depositMetrics MemoryStore.backend groups)
  | [], _, _, h => ⟨rfl, h⟩
  | (u, ms) :: groups, s, t, h => by
    rw [Ingestor.depositMetrics, Ingestor.depositMetrics]
    obtain ⟨e, s', t', hs, ht, h'⟩ | ⟨_, s', t', hs, ht, h'⟩ :=
      (h.deposit u (ms.map .reportMetric)).cases <;> rw [hs, ht]
    · exact ⟨rfl, h'⟩
    · exact depositMetrics groups h'

theorem collect (h : s.HoldsAlike t) (now : UInt64) :
    SameOutcome HoldsAlike (s.collect MemoryStore.backend now)
      (t.collect MemoryStore.backend now) := by
  have hcollected : HoldsAlike { s with signals := (s.signals.collect now).2 }
      { t with signals := (s.signals.collect now).2 } := ⟨h.registry, rfl, h.initFails⟩
  simp only [Ingestor.collect, h.signals]
  obtain ⟨e, s', t', hs, ht, h'⟩ | ⟨_, s', t', hs, ht, h'⟩ :=
    (depositMetrics (s.signals.collect now).1 hcollected).cases <;> rw [hs, ht]
  · exact ⟨rfl, h'⟩
  · refine ⟨rfl, ?_⟩
    dsimp only
    split
    · exact ⟨h'.registry, h'.signals, h'.initFails⟩
    · exact h'

theorem flush {settings : Settings} (hs : s.Steady settings) (ht : t.Steady settings)
    (h : s.HoldsAlike t) :
    (s.flush MemoryStore.backend).2.HoldsAlike (t.flush MemoryStore.backend).2 := by
  have hinit {u : Ingestor MemoryStore} (hu : u.Steady settings) :
      (u.flush MemoryStore.backend).2.sink.store.initFails = u.sink.store.initFails :=
    (Sink.wrote_flush hu.sink.filed hu.sink.keeps _ _).1.initFails
  have hregistry (u : Ingestor MemoryStore) :
      (u.flush MemoryStore.backend).2.registry = u.registry.drained := rfl
  refine ⟨?_, h.signals, ?_⟩
  · rw [hregistry, hregistry, h.registry]
  · rw [hinit ht, hinit hs, h.initFails]

theorem perform {settings : Settings} (hs : s.Steady settings) (ht : t.Steady settings)
    (h : s.HoldsAlike t) (x : Operation) : (s.perform x).2.HoldsAlike (t.perform x).2 := by
  cases x with
  | append u k es =>
    obtain ⟨e, s', t', hs', ht', h'⟩ | ⟨_, s', t', hs', ht', h'⟩ := (h.append u k es).cases <;>
      rw [Ingestor.perform, Ingestor.perform, hs', ht'] <;> exact h'
  | collect now =>
    obtain ⟨e, s', t', hs', ht', h'⟩ | ⟨_, s', t', hs', ht', h'⟩ := (h.collect now).cases <;>
      rw [Ingestor.perform, Ingestor.perform, hs', ht'] <;> exact h'
  | flush => exact flush hs ht h
  | addSignal x =>
    refine ⟨h.registry, ?_, h.initFails⟩
    simp only [Ingestor.perform, addSignal, Ingestor.scope, h.registry, h.signals]
  | querySwitches u ip =>
    refine ⟨h.registry, ?_, h.initFails⟩
    simp only [Ingestor.perform, querySwitches, Ingestor.scope, h.registry, h.signals]
  | takeRequests u ip =>
    refine ⟨h.registry, ?_, h.initFails⟩
    simp only [Ingestor.perform, takeRequests, Ingestor.scope, h.registry, h.signals]
  | failInit fail => exact ⟨h.registry, h.signals, rfl⟩
  | _ => exact ⟨h.registry, h.signals, h.initFails⟩

theorem advance {settings : Settings} (hs : s.Steady settings) (ht : t.Steady settings)
    (h : s.HoldsAlike t) (x : ServiceStep) : (s.advance x).2.HoldsAlike (t.advance x).2 := by
  cases x with
  | perform x => exact perform hs ht h x
  | openCache u =>
    obtain ⟨e, s', t', hs', ht', h'⟩ | ⟨_, s', t', hs', ht', h'⟩ := (h.openCache u).cases <;>
      rw [Ingestor.advance, Ingestor.advance, hs', ht'] <;> exact h'
  | closeStatement | closeStatements => exact ⟨h.registry, h.signals, h.initFails⟩

end HoldsAlike

end Ingestor

def ServiceStep.failsTable : ServiceStep → Bool
  | perform (.failTable _ _) => true
  | _ => false

/-- A history in which no tables are made to fail, or to work again. -/
def withoutFailures (xs : List ServiceStep) : List ServiceStep := xs.filter fun x => !x.failsTable

/-- What a service holds does not depend on which tables fail, and when. -/
theorem ServiceHistory.holdsAlike_withoutFailures (settings : Settings) (env : Environment)
    (xs : List ServiceStep) :
    (of settings env (withoutFailures xs)).service.HoldsAlike (of settings env xs).service := by
  induction xs using List.reverseRecOn with
  | nil => exact ⟨rfl, rfl, rfl⟩
  | append_singleton xs x ih =>
    rw [withoutFailures, List.filter_append]
    cases hx : x.failsTable with
    | true =>
      have hnone : [x].filter (fun x => !x.failsTable) = [] := by simp [hx]
      rw [hnone, List.append_nil, of_concat]
      -- Only the list of failing tables is changed.
      cases x with
      | perform x =>
        cases x with
        | failTable k fail => exact ⟨ih.registry, ih.signals, ih.initFails⟩
        | _ => cases hx
      | _ => cases hx
    | false =>
      have hone : [x].filter (fun x => !x.failsTable) = [x] := by simp [hx]
      rw [hone, of_concat, of_concat]
      exact Ingestor.HoldsAlike.advance (steady_of settings env _) (steady_of settings env xs) ih x

/-- What a flush of a service adds to those written before. -/
theorem Ingestor.batches_flush {settings : Settings} {s : Ingestor MemoryStore}
    (h : s.Steady settings) :
    (s.flush MemoryStore.backend).2.sink.store.batches = s.sink.store.batches
      ++ s.registry.snapshot.flatMap
        (dueBatches settings.clickhouse.exportServiceClient s.sink.store.failing) := by
  obtain ⟨hwrote, -⟩ := Sink.wrote_flush h.sink.filed h.sink.keeps
    s.settings.clickhouse.exportServiceClient s.registry.snapshot
  have hbatches : (s.flush MemoryStore.backend).2.sink.store.batches = _ := hwrote.batches
  rw [hbatches, written_flushAttempts h.sink.filed h.sink.keeps, h.settings_eq]

/-- A flush empties every cache, and makes and drops none. -/
theorem Registry.listed_drained (r : Registry) (order : List Tenant) :
    r.drained.listed order = (r.listed order).map fun c => { c with pending := [] } := by
  have hcaches : (r.drained.caches.arrange order).entries
      = (r.caches.arrange order).entries.map fun e => (e.1, []) :=
    congrArg Keyed.entries (Keyed.arrange_mapValues (fun _ _ => []) order r.caches)
  rw [listed, listed, hcaches, List.map_map, List.map_map]
  rfl

/-- The caches of a service are those of different tenants. -/
theorem Registry.nodup_snapshot (r : Registry) : (r.snapshot.map (·.tenant)).Nodup := by
  rw [snapshot, listed, List.map_map]
  exact (r.caches.arrange _).nodup

/-- After every history, in every environment, a flush adds to what the store holds the batches that
are due, cache by cache, but for the tables that fail, and leaves the same caches, all of them empty.
It asks the store to prepare and to execute only for batches that are due, which have rows. After any
history that differs only in which tables failed, and when, the caches hold the same, and of the kinds
that fail neither here nor there the flush writes the same batches. -/
theorem flush_writes_due (settings : Settings) (env : Environment) (xs : List ServiceStep) :
    let exportClients := settings.clickhouse.exportServiceClient
    let s := (ServiceHistory.of settings env xs).service
    let caches := s.registry.snapshot
    let s' := (s.flush MemoryStore.backend).2
    let noted := (flush MemoryStore.backend.noting exportClients caches s.sink.noting).2.store
    (caches.map (·.tenant)).Nodup ∧
    s'.sink.store.batches
      = s.sink.store.batches ++ caches.flatMap (dueBatches exportClients s.sink.store.failing) ∧
    (∀ order, s'.registry.listed order
      = (s.registry.listed order).map fun c => { c with pending := [] }) ∧
    (noted.1 = s'.sink.store ∧ ∃ ws : List Writing, noted.2 = ws.flatMap (·.calls) ∧
      ws.map (·.attempt.batch) = caches.flatMap (dueBatches exportClients []) ∧
      ∀ v ∈ ws, v.attempt.batch.rows ≠ [] ∧
        ∀ call ∈ v.calls, call.statement = v.attempt.batch.statement) ∧
    ∀ ys, withoutFailures ys = withoutFailures xs →
      let t := (ServiceHistory.of settings env ys).service
      t.registry.snapshot = caches ∧
      ∀ k, k ∉ s.sink.store.failing → k ∉ t.sink.store.failing →
        ∃ new new', s'.sink.store.batches = s.sink.store.batches ++ new ∧
          (t.flush MemoryStore.backend).2.sink.store.batches = t.sink.store.batches ++ new' ∧
          new'.filter (fun batch => decide (batch.kind = k))
            = new.filter fun batch => decide (batch.kind = k) := by
  intro exportClients s caches s' noted
  have hs := ServiceHistory.steady_of settings env xs
  obtain ⟨hstore, ws, hcalls, hattempts, hsettled⟩ :=
    calls_flush_noting MemoryStore.backend hs.sink.filed exportClients caches
  have hdue : ws.map (·.attempt.batch) = caches.flatMap (dueBatches exportClients []) := by
    rw [← map_batch_flushAttempts MemoryStore.backend exportClients caches s.sink, ← hattempts,
      List.map_map]
    rfl
  have hflush : s'.sink.store = (flush MemoryStore.backend exportClients caches s.sink).2.store := by
    have hsettings : s.settings = settings := hs.settings_eq
    simp only [s', Ingestor.flush, hsettings]
    rfl
  refine ⟨Registry.nodup_snapshot _, Ingestor.batches_flush hs, Registry.listed_drained _,
    ⟨hstore.trans hflush.symm, ws, hcalls, hdue, fun v hv => ⟨?_, fun call hcall => ?_⟩⟩, ?_⟩
  · have hmem : v.attempt.batch ∈ caches.flatMap (dueBatches exportClients []) := by
      rw [← hdue]
      exact List.mem_map.mpr ⟨v, hv, rfl⟩
    obtain ⟨c, -, hbatch⟩ := List.mem_flatMap.mp hmem
    rw [← batches_eq_dueBatches] at hbatch
    exact (TenantCache.of_mem_batches hbatch).1
  · obtain ⟨answer, rfl | rfl⟩ := (hsettled v hv).about call hcall <;> rfl
  · intro ys hys t
    have ht := ServiceHistory.steady_of settings env ys
    have hregistry : t.registry = s.registry := by
      have hy := (ServiceHistory.holdsAlike_withoutFailures settings env ys).registry
      rw [hys] at hy
      exact hy.trans (ServiceHistory.holdsAlike_withoutFailures settings env xs).registry.symm
    refine ⟨congrArg Registry.snapshot hregistry, fun k hk hk' => ⟨_, _, Ingestor.batches_flush hs,
      Ingestor.batches_flush ht, ?_⟩⟩
    rw [List.filter_flatMap, List.filter_flatMap, hregistry]
    refine List.flatMap_congr fun c _ => ?_
    rw [filter_dueBatches exportClients hk', filter_dueBatches exportClients hk]

end Ingest
