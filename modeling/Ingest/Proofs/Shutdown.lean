import Ingest.Proofs.FlushedBatches
import Ingest.Proofs.Inbox
import Ingest.Proofs.PreparedStatements
import Ingest.Store.Faulty

/-!
What a service leaves behind when it is stopped, whatever its store answers. What came in is followed
through the caches into the batches attempted, and every attempt is accounted for. Main statement: a
stopped service has empty caches, an empty board of signals if it collects, and no statement cached or
ready if it sweeps; each row that ever came in was written or counted as lost, and each signal was
counted in such a row unless it is still on the board.
-/

namespace Ingest

variable {σ : Type}

/-! ### What every step keeps -/

/-- Whether a store that is ready makes every database, and stays ready whatever it is asked. -/
structure Backend.Lasting (b : Backend σ) (ready : σ → Prop) : Prop where
  makes : b.Makes ready
  prepare : ∀ {s}, ready s → ∀ st, ready (b.prepare s st).2
  execute : ∀ {s}, ready s → ∀ st isReady rows, ready (b.execute s st isReady rows).2

namespace Backend.Lasting

variable {b : Backend σ} {ready : σ → Prop}

theorem makes_noting (h : b.Lasting ready) (calls : List StoreCall) :
    b.noting.Makes fun st => ready st.1 ∧ st.2 = calls := by
  rintro ⟨s, noted⟩ database ⟨hs, hnoted⟩
  obtain ⟨s', hinit, hs'⟩ := h.makes s database hs
  refine ⟨(s', noted), ?_, hs', hnoted⟩
  simp [noting, hinit]

theorem lockstep (h : b.Lasting ready) :
    b.noting.Lockstep b.noting fun st st' => ready st.1 ∧ st' = st where
  prepare := by
    rintro _ st ⟨hs, rfl⟩ s
    exact ⟨rfl, h.prepare hs s, rfl⟩
  execute := by
    rintro _ st ⟨hs, rfl⟩ s isReady rows
    exact ⟨rfl, h.execute hs s isReady rows, rfl⟩
  initDatabase := by
    rintro _ st ⟨hs, rfl⟩ database
    obtain ⟨s', hinit, hs'⟩ := h.makes st.1 database hs
    have hmade : (b.noting.initDatabase st database).2.1 = s' := congrArg Prod.snd hinit
    exact ⟨rfl, hmade ▸ hs', rfl⟩

end Backend.Lasting

/-- Faults of single tables leave a memory store ready to make databases. -/
theorem FaultyStore.lasting : backend.Lasting fun s => s.inner.initFails = false where
  makes s database hs := by
    have hmakes : s.inner.initFails = false := hs
    exact ⟨{ s with inner.initialized := s.inner.initialized ++ [database] },
      by simp [backend, initDatabase, MemoryStore.initDatabase, hmakes], hmakes⟩
  prepare {s} hs st := by
    have hprepare : backend.prepare = prepare := rfl
    rw [hprepare, prepare]
    split <;> exact hs
  execute {s} hs st isReady rows := by
    have hinner (isReady : Bool) : (s.inner.execute st isReady rows).2.initFails = false := by
      rw [MemoryStore.execute]
      split_ifs <;> exact hs
    have hexecute : backend.execute = execute := rfl
    rw [hexecute, execute]
    dsimp only
    split <;> exact hinner _

/-- The rows that flushes attempted for a cache and a kind. -/
def rowsGiven (fs : List NotedFlush) (owner : Tenant) (k : Kind) : List Row :=
  (batchesOf ((fs.flatMap (·.writings)).map (·.attempt)) owner k).flatMap (·.rows)

theorem rowsGiven_concat (fs : List NotedFlush) (f : NotedFlush) (owner : Tenant) (k : Kind) :
    rowsGiven (fs ++ [f]) owner k = rowsGiven fs owner k
      ++ (batchesOf (f.writings.map (·.attempt)) owner k).flatMap (·.rows) := by
  simp [rowsGiven, batchesOf]

/-- Whether all that a sink did is told by some flushes. -/
structure Sink.Traced (ready : σ → Prop) (fs : List NotedFlush) (w : Sink (σ × List StoreCall)) :
    Prop where
  ready : ready w.store.1
  knows : w.Knows
  accounted : FlushRun.Accounted ⟨w, fs⟩

namespace Sink.Traced

variable {b : Backend σ} {ready : σ → Prop} {fs : List NotedFlush} {w : Sink (σ × List StoreCall)}

/-- What is done to the store alone. -/
theorem withStore (h : w.Traced ready fs) {store : σ × List StoreCall} (hready : ready store.1)
    (hcalls : store.2 = w.store.2) : Sink.Traced ready fs { w with store } where
  ready := hready
  knows := h.knows.congr rfl hcalls
  accounted := ⟨h.accounted.filed, hcalls.trans h.accounted.noted, h.accounted.counts,
    h.accounted.flushes⟩

/-- What is done to the statements alone. -/
theorem withStatements (h : w.Traced ready fs) {statements : StatementCache}
    (hreaches : statements.Reaches (preparedKeys w.store.2)) (hfiled : statements.Filed)
    (clock ticks : Nat) : Sink.Traced ready fs { w with statements, clock, ticks } where
  ready := h.ready
  knows := hreaches
  accounted := ⟨hfiled, h.accounted.noted, h.accounted.counts, h.accounted.flushes⟩

theorem close (h : w.Traced ready fs) (id : Nat) :
    Sink.Traced ready fs { w with statements := w.statements.close id } :=
  h.withStatements (h.knows.close id) (h.accounted.filed.close id) w.clock w.ticks

theorem sweep (h : w.Traced ready fs) : w.sweep.Traced ready fs :=
  h.withStatements (h.knows.evictIdle _) (h.accounted.filed.evictIdle _) _ _

theorem closeAll (h : w.Traced ready fs) : w.closeAll.Traced ready fs :=
  h.withStatements (StatementCache.Reaches.closeAll h.knows) (StatementCache.filed_closeAll _) _ _

theorem flush (hb : b.Lasting ready) (h : w.Traced ready fs) (exportClients : Bool)
    (caches : List TenantCache) :
    ∃ f : NotedFlush, f.writings.map (·.attempt)
        = flushAttempts b.noting exportClients caches w ∧
      (flush b.noting exportClients caches w).2.Traced ready (fs ++ [f]) := by
  refine ⟨_, Sink.attempt_writings b _ _, ?_, h.knows.flush b exportClients caches,
    h.accounted.flush exportClients caches⟩
  have hsame : SameOutcome (Sink.Related fun st st' => ready st.1 ∧ st' = st)
      (Ingest.flush b.noting exportClients caches w) (Ingest.flush b.noting exportClients caches w) :=
    Sink.foldl_write_same hb.lockstep _ ⟨rfl, w.store, rfl, h.ready, rfl⟩
  obtain ⟨-, -, -, hready, -⟩ := hsame
  exact hready

end Sink.Traced

namespace Ingestor

/-- Whether all that came in is traced through a service: what is attempted and what is pending are
together the rows of the events, and the metrics among them tell of the signals. -/
structure Traced (ready : σ → Prop) (settings : Settings) (i : Inbox) (fs : List NotedFlush)
    (s : Ingestor (σ × List StoreCall)) : Prop where
  sink : s.sink.Traced ready fs
  settings_eq : s.settings = settings
  multiTenant_eq : s.registry.multiTenant = settings.tenancy.enabled
  sound : s.signals.Sound
  rows : ∀ t, ∀ k ∈ flushedKinds settings.clickhouse.exportServiceClient, k ≠ .reportMetric →
    rowsGiven fs (settings.owner t) k ++ rowsOf (s.registry.pending t) k
      = rowsOf (eventsFor settings t i.events) k
  metrics : ∀ t, ∃ ms, rowsGiven fs (settings.owner t) .reportMetric = metricRows ms ∧
    i.ToldBy settings t (ms ++ metricsIn (s.registry.pending t)) s.signals

namespace Traced

variable {b : Backend σ} {ready : σ → Prop} {settings : Settings} {i i' : Inbox}
  {fs : List NotedFlush} {s s' : Ingestor (σ × List StoreCall)}

theorem scope_eq (h : s.Traced ready settings i fs) (t : Tenant) :
    s.registry.scope t = settings.owner t :=
  Registry.scope_eq_owner h.multiTenant_eq t

/-- What is put into the caches is pending, and has to be what came in or, beside that, metrics. -/
theorem receive (h : s.Traced ready settings i fs) (hsink : s'.sink.Traced ready fs)
    (hsettings : s'.settings = s.settings) {groups : List (Tenant × List Event)}
    (hreceives : s.registry.Receives s'.registry groups) (hsound : s'.signals.Sound)
    (hrows : ∀ t k, k ≠ .reportMetric → rowsOf (eventsFor settings t i'.events) k
      = rowsOf (eventsFor settings t i.events) k ++ rowsOf (eventsFor settings t groups) k)
    (htold : ∀ t ms, i.ToldBy settings t ms s.signals →
      i'.ToldBy settings t (ms ++ metricsIn (eventsFor settings t groups)) s'.signals) :
    s'.Traced ready settings i' fs := by
  have hpending (t : Tenant) :
      s'.registry.pending t = s.registry.pending t ++ eventsFor settings t groups := by
    rw [hreceives.pending]
    simp only [h.scope_eq]
    rfl
  refine ⟨hsink, hsettings.trans h.settings_eq, hreceives.multiTenant.trans h.multiTenant_eq, hsound,
    fun t k hk hne => ?_, fun t => ?_⟩
  · rw [hpending, rowsOf_append, hrows t k hne, ← h.rows t k hk hne, List.append_assoc]
  · obtain ⟨ms, hgiven, hms⟩ := h.metrics t
    refine ⟨ms, hgiven, ?_⟩
    rw [hpending, metricsIn_append, ← List.append_assoc]
    exact htold t _ hms

/-- What leaves the caches as they are and has nothing to do with signals. -/
theorem aside (h : s.Traced ready settings i fs) (hsink : s'.sink.Traced ready fs)
    (hsettings : s'.settings = s.settings) (hregistry : s'.registry = s.registry)
    (hsignals : s'.signals = s.signals) : s'.Traced ready settings i fs := by
  refine ⟨hsink, hsettings.trans h.settings_eq, ?_, ?_, ?_, ?_⟩
  · rw [hregistry]
    exact h.multiTenant_eq
  · rw [hsignals]
    exact h.sound
  · rw [hregistry]
    exact h.rows
  · rw [hregistry, hsignals]
    exact h.metrics

/-- A store that was asked for databases only. -/
theorem withStore (h : s.Traced ready settings i fs) (store : σ × List StoreCall)
    (hstore : ready store.1 ∧ store.2 = s.sink.store.2) :
    Sink.Traced ready fs { s.sink with store } :=
  h.sink.withStore hstore.1 hstore.2

theorem append (hb : b.Lasting ready) (h : s.Traced ready settings i fs) (t : Tenant) (k : Kind)
    (es : List Event) :
    ∃ s', s.append b.noting t k es = (.ok (), s') ∧
      s'.Traced ready settings { i with events := i.events ++ [(t, es)] } fs := by
  obtain ⟨s', happend, hsink, hsettings, hsignals, hreceives⟩ : ∃ s',
      s.append b.noting t k es = (.ok (), s') ∧ s'.sink.Traced ready fs ∧
        s'.settings = s.settings ∧ s'.signals = s.signals ∧
        s.registry.Receives s'.registry [(t, es)] := by
    by_cases hes : es = []
    · subst hes
      refine ⟨s, rfl, h.sink, rfl, rfl, rfl, rfl, fun u => ?_, rfl⟩
      by_cases hu : s.registry.scope t = s.registry.scope u <;> simp [hu]
    · obtain ⟨s₁, hdeposit, hstore, hreceives, registry, store, rfl⟩ := deposit_of_makes
        (hb.makes_noting s.sink.store.2) (s := s) ⟨h.sink.ready, rfl⟩ t es
      have hne : ¬ es.isEmpty = true := by simpa using hes
      refine ⟨countAppended { s with registry, sink := { s.sink with store } } k es.length, ?_,
        h.withStore store hstore, rfl, rfl, hreceives⟩
      rw [Ingestor.append, if_neg hne, hdeposit]
  refine ⟨s', happend, h.receive hsink hsettings hreceives (hsignals ▸ h.sound) (fun u k _ => ?_)
    fun u ms hms => ?_⟩
  · rw [eventsFor_append, rowsOf_append]
  · rw [hsignals]
    exact hms.append _

/-- A collection leaves nothing on the board. -/
theorem collect (hb : b.Lasting ready) (h : s.Traced ready settings i fs) (now : UInt64) :
    ∃ n s', s.collect b.noting now = (.ok n, s') ∧ s'.signals.tallies = .empty ∧
      s'.Traced ready settings i fs := by
  obtain ⟨s', hcollect, hstore, hreceives, registry, store, counters, rfl⟩ := collect_of_makes
    (hb.makes_noting s.sink.store.2) (s := s) ⟨h.sink.ready, rfl⟩ now
  refine ⟨_, _, hcollect, rfl, h.receive (h.withStore store hstore) rfl hreceives
    (fun x hx => by cases hx) (fun t k hk => ?_) fun _ _ hms => hms.collect h.sound now⟩
  have hmetrics : eventsFor settings t ((s.signals.collect now).1.map metricEvents)
      = (((s.signals.collect now).1.filter fun g =>
        decide (settings.owner g.1 = settings.owner t)).flatMap Prod.snd).map .reportMetric :=
    flatMap_metricEvents _ fun u => settings.owner u = settings.owner t
  rw [hmetrics, rowsOf_reportMetrics _ hk, List.append_nil]

/-- What has to do with signals only. -/
theorem ofSignals (h : s.Traced ready settings i fs) {signals : SignalBoard}
    (hevents : i'.events = i.events) (hsound : signals.Sound)
    (htold : ∀ t ms, i.ToldBy settings t ms s.signals → i'.ToldBy settings t ms signals) :
    Ingestor.Traced ready settings i' fs { s with signals } where
  sink := h.sink
  settings_eq := h.settings_eq
  multiTenant_eq := h.multiTenant_eq
  sound := hsound
  rows := by
    rw [hevents]
    exact h.rows
  metrics t := by
    obtain ⟨ms, hgiven, hms⟩ := h.metrics t
    exact ⟨ms, hgiven, htold t _ hms⟩

theorem addSignal (h : s.Traced ready settings i fs) (x : Signal) :
    (s.addSignal x).Traced ready settings { i with signals := i.signals ++ [x] } fs := by
  have hscope : s.scope x.tenant = settings.owner x.tenant := h.scope_eq x.tenant
  rw [Ingestor.addSignal, hscope]
  exact h.ofSignals rfl (h.sound.add _) fun _ _ hms => hms.add x

theorem query (h : s.Traced ready settings i fs) (n : AgentNode) :
    Ingestor.Traced ready settings i fs { s with signals := (s.signals.query n).2 } :=
  h.ofSignals rfl (h.sound.query n) fun _ _ hms => hms.query n

/-- A flush attempts all that is pending. -/
theorem flush (hb : b.Lasting ready) (h : s.Traced ready settings i fs) :
    ∃ fs', (s.flush b.noting).2.Traced ready settings i fs' := by
  obtain ⟨f, hattempts, hsink⟩ := h.sink.flush hb s.settings.clickhouse.exportServiceClient
    s.registry.snapshot
  have hgiven (t : Tenant) {k : Kind}
      (hk : k ∈ flushedKinds settings.clickhouse.exportServiceClient) :
      rowsGiven (fs ++ [f]) (settings.owner t) k
        = rowsGiven fs (settings.owner t) k ++ rowsOf (s.registry.pending t) k := by
    have hpending : s.registry.caches.getD (settings.owner t) [] = s.registry.pending t := by
      rw [← h.scope_eq]
      rfl
    rw [rowsGiven_concat, hattempts, batchesOf_flushAttempts _ _ _ _ (h.settings_eq ▸ hk),
      batchOf_rows, hpending]
  have hdrained (t : Tenant) : (s.flush b.noting).2.registry.pending t = [] :=
    Registry.pending_drained _ t
  refine ⟨fs ++ [f], hsink, h.settings_eq, h.multiTenant_eq, h.sound, fun t k hk hne => ?_,
    fun t => ?_⟩
  · rw [hdrained, rowsOf_nil, List.append_nil, hgiven t hk, h.rows t k hk hne]
  · obtain ⟨ms, hms, htold⟩ := h.metrics t
    refine ⟨ms ++ metricsIn (s.registry.pending t), ?_, ?_⟩
    · rw [hgiven t (mem_flushedKinds_of_stored rfl _), hms, rowsOf_reportMetric, metricRows,
        metricRows, metricRows, List.map_append]
    · have hsignals : (s.flush b.noting).2.signals = s.signals := rfl
      rw [hdrained, hsignals]
      simpa [metricsIn] using htold

theorem prepareDatabase (hb : b.Lasting ready) (h : s.Traced ready settings i fs) :
    ∃ s', s.prepareDatabase b.noting = (.ok (), s') ∧ s'.Traced ready settings i fs := by
  rw [Ingestor.prepareDatabase]
  split
  · exact ⟨s, rfl, h⟩
  · obtain ⟨store, hinit, hstore⟩ := hb.makes_noting s.sink.store.2 s.sink.store
      (s.registry.databaseFor .none) ⟨h.sink.ready, rfl⟩
    refine ⟨{ s with sink := { s.sink with store } }, ?_,
      h.aside (h.withStore store hstore) rfl rfl rfl⟩
    simp [hinit]

/-- One case for each request. -/
theorem serve (hb : b.Lasting ready) (h : s.Traced ready settings i fs) (x : Request) :
    ∃ answer s' fs', s.serve b.noting x = (answer, s') ∧ answer.failure? = none ∧
      s'.Traced ready settings (i.receive (.serve x : LiveStep σ)) fs' := by
  cases x with
  | append t k es =>
    obtain ⟨s', happend, h'⟩ := h.append hb t k es
    exact ⟨.done, s', fs, by rw [Ingestor.serve, happend], rfl, h'⟩
  | addSignal x => exact ⟨_, _, fs, rfl, rfl, h.addSignal x⟩
  | querySwitches t ip => exact ⟨_, _, fs, rfl, rfl, h.query ⟨s.scope t, ip⟩⟩
  | takeRequests t ip =>
    exact ⟨_, _, fs, rfl, rfl, h.ofSignals rfl h.sound fun _ _ hms => ⟨hms.sublist, hms.sums⟩⟩
  | collect now =>
    obtain ⟨n, s', hcollect, -, h'⟩ := h.collect hb now
    exact ⟨.collected n, s', fs, by rw [Ingestor.serve, hcollect], rfl, h'⟩
  | flush =>
    obtain ⟨fs', h'⟩ := h.flush hb
    exact ⟨_, _, fs', rfl, rfl, h'⟩
  | sweep => exact ⟨_, _, fs, rfl, rfl, h.aside h.sink.sweep rfl rfl rfl⟩
  | wait nanos =>
    exact ⟨_, _, fs, rfl, rfl, h.aside
      (h.sink.withStatements h.sink.knows h.sink.accounted.filed _ _) rfl rfl rfl⟩
  | storeTrace | traceTenant | touchTrace =>
    exact ⟨_, _, fs, rfl, rfl, h.aside h.sink rfl rfl rfl⟩

/-- Chores keep what came in. -/
theorem keptByChores (hb : b.Lasting ready) (settings : Settings) (i : Inbox) :
    Service.KeptByChores b.noting fun core => ∃ fs, core.Traced ready settings i fs := by
  rintro wallClock c core ⟨fs, h⟩
  cases c with
  | flush =>
    obtain ⟨fs', h'⟩ := h.flush hb
    exact ⟨_, rfl, fs', h'⟩
  | sweep => exact ⟨_, rfl, fs, h.aside h.sink.sweep rfl rfl rfl⟩
  | collect =>
    obtain ⟨n, core', hcollect, -, h'⟩ := h.collect hb wallClock
    exact ⟨core', by rw [Service.act, hcollect], fs, h'⟩

/-- What a service ends with leaves nothing pending; nothing counted, if it collects; and nothing ready,
if it closes its statements. -/
theorem finish (hb : b.Lasting ready) (h : s.Traced ready settings i fs) (wallClock : UInt64) :
    ∃ s' fs', Service.finishAll b.noting wallClock (Service.lastOf settings) s = (.ok (), s') ∧
      s'.Traced ready settings i fs' ∧
      (∀ order, (s'.registry.listed order).all (·.pending.isEmpty)) ∧
      (∀ t, s'.registry.pending t = []) ∧
      (settings.collects → s'.signals.tallies = .empty) ∧
      (settings.sweeps → s'.sink.statements.entries = .empty ∧
        ∀ id, s'.sink.statements.ledger.isReady id = false) := by
  obtain ⟨s₁, hcollect, hempty, h₁⟩ : ∃ s₁, Service.finishAll b.noting wallClock
      (if settings.collects then [.collect] else []) s = (.ok (), s₁) ∧
        (settings.collects → s₁.signals.tallies = .empty) ∧ s₁.Traced ready settings i fs := by
    cases settings.collects with
    | false => exact ⟨s, rfl, by simp, h⟩
    | true =>
      obtain ⟨n, s₁, hcollect, hempty, h₁⟩ := h.collect hb wallClock
      exact ⟨s₁, by simp [Service.finishAll, Service.finish, Service.act, hcollect],
        fun _ => hempty, h₁⟩
  obtain ⟨fs', h₂⟩ := h₁.flush hb
  let s₂ := (s₁.flush b.noting).2
  have hflush : Service.finishAll b.noting wallClock [.flush] s₁ = (.ok (), s₂) := rfl
  obtain ⟨s₃, hclose, hregistry, hsignals, hready, h₃⟩ : ∃ s₃, Service.finishAll b.noting wallClock
      (if settings.sweeps then [.sweep] else []) s₂ = (.ok (), s₃) ∧
        s₃.registry = s₂.registry ∧ s₃.signals = s₁.signals ∧
        (settings.sweeps → s₃.sink.statements.entries = .empty ∧
          ∀ id, s₃.sink.statements.ledger.isReady id = false) ∧ s₃.Traced ready settings i fs' := by
    cases settings.sweeps with
    | false => exact ⟨s₂, rfl, rfl, rfl, by simp, h₂⟩
    | true =>
      exact ⟨s₂.closeStatements, rfl, rfl, rfl,
        fun _ => ⟨rfl, StatementCache.Reaches.isReady_closeAll h₂.sink.knows⟩,
        h₂.aside h₂.sink.closeAll rfl rfl rfl⟩
  refine ⟨s₃, fs', ?_, h₃, fun order => ?_, fun t => ?_, fun hc => hsignals ▸ hempty hc, hready⟩
  · rw [Service.lastOf, Service.finishAll_append _ _ _ _ hcollect, ← List.singleton_append,
      Service.finishAll_append _ _ _ _ hflush, hclose]
  · have hdrained : s₂.registry.listed order
        = (s₁.registry.listed order).map fun c => { c with pending := [] } :=
      s₁.registry.listed_drained order
    simp [hregistry, hdrained]
  · rw [hregistry]
    exact Registry.pending_drained _ t

end Traced

end Ingestor

/-! ### Lives -/

namespace LiveStep

/-- Whether a step leaves the store ready to make databases. -/
def Spares (ready : σ → Prop) : LiveStep σ → Prop
  | disturb f => ∀ s, ready s → ready (f s)
  | _ => True

end LiveStep

namespace Service

variable {b : Backend σ} {ready : σ → Prop} {settings : Settings} {i : Inbox} {cs : List Chore}
  {s : Service (σ × List StoreCall)}

/-- Whether a service with some chores under way traces all that came in. -/
def Tracing (ready : σ → Prop) (settings : Settings) (cs : List Chore) (i : Inbox)
    (s : Service (σ × List StoreCall)) : Prop :=
  s.Running (fun core => ∃ fs, core.Traced ready settings i fs) cs

theorem tracing_new (b : Backend σ) (settings : Settings) {store : σ} (hstore : ready store)
    (wallClock : UInt64) (env : Environment) :
    (new settings (store, []) wallClock env).Tracing ready settings [] {} := by
  have hsink : (new settings (store, []) wallClock env).core.sink.Traced ready [] :=
    ⟨hstore, StatementCache.reaches_used settings.statementCache.idleTimeout [],
      FlushRun.accounted_of b store settings.statementCache.idleTimeout env.pace []⟩
  have hpending (t : Tenant) :
      (new settings (store, ([] : List StoreCall)) wallClock env).core.registry.pending t = [] :=
    Registry.pending_empty _ _ _ t
  refine ⟨⟨[], hsink, rfl, rfl, fun x hx => (by cases hx), fun t k _ _ => ?_, fun t =>
    ⟨[], rfl, ?_⟩⟩, rfl, rfl, rfl⟩
  · rw [hpending, rowsOf_nil]
    exact (rowsOf_nil k).symm
  · rw [hpending]
    exact ⟨List.Sublist.refl _, fun _ _ => rfl⟩

namespace Tracing

theorem take (hb : b.Lasting ready) (h : s.Tracing ready settings cs i) {x : LiveStep σ}
    (hx : x.Spares ready) :
    ∃ s', s.take b x = (.ok (), s') ∧ s'.Tracing ready settings cs (i.receive x) := by
  obtain ⟨⟨fs, hcore⟩, hchores, hfinishing, hstopped⟩ := id h
  cases x with
  | serve x =>
    obtain ⟨answer, core, fs', hserve, hanswer, hcore'⟩ := hcore.serve hb x
    refine ⟨{ s with core }, ?_, ⟨fs', hcore'⟩, hchores, hfinishing, hstopped⟩
    rw [Service.take, hserve]
    cases answer <;> first | rfl | cases hanswer
  | closeStatement id =>
    exact ⟨_, rfl, ⟨fs, hcore.aside (hcore.sink.close id) rfl rfl rfl⟩, hchores, hfinishing,
      hstopped⟩
  | disturb f =>
    exact ⟨_, rfl, ⟨fs, hcore.aside (hcore.sink.withStore (hx _ hcore.sink.ready) rfl) rfl rfl rfl⟩,
      hchores, hfinishing, hstopped⟩
  | advance millis => exact Running.advance (Ingestor.Traced.keptByChores hb settings i) h millis

theorem run (hb : b.Lasting ready) : ∀ (xs : List (LiveStep σ)) {i : Inbox}
    {s : Service (σ × List StoreCall)}, s.Tracing ready settings cs i →
      (∀ x ∈ xs, x.Spares ready) →
        ∃ s', s.run b xs = (.ok (), s') ∧ s'.Tracing ready settings cs (xs.foldl Inbox.receive i)
  | [], i, s, h, _ => ⟨s, rfl, h⟩
  | x :: xs, i, s, h, hxs => by
    obtain ⟨hx, hrest⟩ := List.forall_mem_cons.mp hxs
    obtain ⟨s₁, htake, h₁⟩ := h.take hb hx
    obtain ⟨s', hrun, h'⟩ := run hb xs h₁ hrest
    refine ⟨s', ?_, h'⟩
    rw [Service.run, htake]
    exact hrun

theorem start (hb : b.Lasting ready) (h : s.Tracing ready settings [] i) :
    ∃ s', s.start b.noting = (.ok (), s') ∧ s'.Tracing ready settings (begun settings) i := by
  obtain ⟨fs, hcore⟩ := h.core
  obtain ⟨core, hprepare, hcore'⟩ := hcore.prepareDatabase hb
  have hstart := Running.start h hprepare ⟨fs, hcore'⟩
  rwa [hcore'.settings_eq] at hstart

end Tracing

end Service

/-- A service in front of a store that can make databases, whatever else the store answers and in
whichever environment, is asked for anything before it is started and after, while its chores are done
and its store is disturbed. It starts, serves all that it is asked, and stops. After that every cache
is empty; nothing is counted on the board of signals, if the collection has a period; and if the sweep
has one, no statement is cached or ready of all that the store ever prepared. Every call to the store
was for one of the batches attempted, each of which was written or counted as lost with its rows. The
rows attempted for a cache are those of all events that came in for it; for the metrics, they are rows
of those that came in and of others, which together with what the board still holds count every signal
once, by its endpoint. -/
theorem stopped_leaves_nothing {b : Backend σ} {ready : σ → Prop} (hb : b.Lasting ready) {store : σ}
    (hstore : ready store) (settings : Settings) (wallClock : UInt64) (env : Environment)
    (xs ys : List (LiveStep σ)) (hsteps : ∀ x ∈ xs ++ ys, x.Spares ready) :
    ∃ s₁ s₂ s₃ s, (Service.new settings (store, []) wallClock env).run b xs = (.ok (), s₁) ∧
      s₁.start b.noting = (.ok (), s₂) ∧ s₂.run b ys = (.ok (), s₃) ∧
      s₃.stop b.noting = (.ok (), s) ∧
      let i := Inbox.of (xs ++ ys)
      let calls := s.core.sink.store.2
      let statements := s.core.sink.statements
      (∀ order, ∀ c ∈ s.core.registry.listed order, c.pending = []) ∧
      (settings.signal.collectInterval.nanos ≠ 0 → s.core.signals.tallies = .empty) ∧
      statements.ledger.size = (preparedKeys calls).length ∧
      (settings.statementCache.idleTimeout.nanos ≠ 0 → statements.entries = .empty ∧
        ∀ id, statements.ledger.isReady id = false) ∧
      ∃ ws : List Writing, calls = ws.flatMap (·.calls) ∧ (∀ v ∈ ws, v.Settled) ∧
        s.core.sink.counters.Counts (ws.map (·.attempt)) ∧
        ∀ t,
          let events := eventsFor settings t i.events
          let rows (k : Kind) :=
            (batchesOf (ws.map (·.attempt)) (settings.owner t) k).flatMap (·.rows)
          (∀ k ∈ flushedKinds settings.clickhouse.exportServiceClient, k ≠ .reportMetric →
            rows k = rowsOf events k) ∧
          ∃ ms, rows .reportMetric = metricRows ms ∧ (metricsIn events).Sublist ms ∧
            ∀ (c : SignalCount) e, SignalBoard.counted c e ms
                + ((heldFor settings t e s.core.signals).map c.ofTally).sum
              = SignalBoard.counted c e (metricsIn events)
                + ((i.signalsFor settings t e).map c.ofSignal).sum := by
  obtain ⟨hxs, hys⟩ := List.forall_mem_append.mp hsteps
  obtain ⟨s₁, hrun₁, h₁⟩ := (Service.tracing_new b settings hstore wallClock env).run hb xs hxs
  obtain ⟨s₂, hstart, h₂⟩ := h₁.start hb
  obtain ⟨s₃, hrun₂, h₃⟩ := h₂.run hb ys hys
  rw [← List.foldl_append] at h₃
  obtain ⟨fs, hcore⟩ := h₃.core
  obtain ⟨core, fs', hfinish, h, hcaches, hpending, htallies, hready⟩ :=
    hcore.finish hb s₃.wallClock
  obtain ⟨s, hstop, rfl⟩ := h₃.stop hfinish
  refine ⟨s₁, s₂, s₃, s, hrun₁, hstart, hrun₂, hstop, by simpa using hcaches,
    fun hcollect => htallies (by simpa [Settings.collects] using hcollect),
    h.sink.knows.size_eq, fun hsweep => hready (by simpa [Settings.sweeps] using hsweep),
    fs'.flatMap NotedFlush.writings, h.sink.accounted.noted, fun v hv => ?_,
    h.sink.accounted.counts, fun t => ⟨fun k hk hne => ?_, ?_⟩⟩
  · obtain ⟨f, hf, hv⟩ := List.mem_flatMap.mp hv
    exact ((h.sink.accounted.flushes f hf).settled v hv).2
  · have hrows := h.rows t k hk hne
    rw [hpending, rowsOf_nil, List.append_nil] at hrows
    exact hrows
  · obtain ⟨ms, hgiven, htold⟩ := h.metrics t
    have hnone : metricsIn (s.core.registry.pending t) = [] := by
      rw [hpending]
      rfl
    rw [hnone, List.append_nil] at htold
    exact ⟨ms, hgiven, htold.sublist, htold.sums⟩

/-- A record waits for a table that begins to fail, and the only signal comes, after the first flush,
from a tenant without a cache. -/
theorem stopped_leaves_nothing_new_tenant :
    let a : Tenant := ⟨"a", ""⟩
    let b : Tenant := ⟨"b", ""⟩
    let settings : Settings := { tenancy := { enabled := true } }
    let ready (s : FaultyStore) : Prop := s.inner.initFails = false
    let signal := Signal.ofProcess b "10.0.0.1" 7 false false
    let xs : List (LiveStep FaultyStore) := [.serve (.append a .jvmGc [.jvmGc .zero])]
    let ys : List (LiveStep FaultyStore) :=
      [.disturb fun s => { s with inner := s.inner.failTable .jvmGc true }, .advance 6000,
        .serve (.addSignal signal)]
    FaultyStore.backend.Lasting ready ∧ ready {} ∧ (∀ x ∈ xs ++ ys, x.Spares ready) ∧
    ∃ s₁ s₂ s₃ s,
      (Service.new settings (({} : FaultyStore), []) 0).run FaultyStore.backend xs = (.ok (), s₁) ∧
      s₁.start FaultyStore.backend.noting = (.ok (), s₂) ∧
      s₂.run FaultyStore.backend ys = (.ok (), s₃) ∧
      s₃.stop FaultyStore.backend.noting = (.ok (), s) ∧
      s.core.signals.tallies = .empty ∧ s.core.sink.statements.entries = .empty ∧
      ∃ ws : List Writing, s.core.sink.counters.Counts (ws.map (·.attempt)) ∧
        (batchesOf (ws.map (·.attempt)) a .jvmGc).flatMap (·.rows)
          = rowsOf [.jvmGc .zero] .jvmGc ∧
        ∃ ms, (batchesOf (ws.map (·.attempt)) b .reportMetric).flatMap (·.rows) = metricRows ms ∧
          SignalBoard.counted .total signal.endpoint ms = 1 := by
  intro a b settings ready signal xs ys
  have hready : ready {} := rfl
  have hsteps : ∀ x ∈ xs ++ ys, x.Spares ready := by
    simp only [xs, ys, List.cons_append, List.nil_append, List.forall_mem_cons]
    exact ⟨trivial, fun _ hs => hs, trivial, trivial, fun _ hx => by cases hx⟩
  obtain ⟨s₁, s₂, s₃, s, hrun₁, hstart, hrun₂, hstop, -, htallies, -, hclosed, ws, -, -, hcounts,
    hrows⟩ := stopped_leaves_nothing FaultyStore.lasting hready settings 0 {} xs ys hsteps
  have hempty := htallies (by decide)
  obtain ⟨ms, hms, -, hsums⟩ := (hrows b).2
  refine ⟨FaultyStore.lasting, hready, hsteps, s₁, s₂, s₃, s, hrun₁, hstart, hrun₂, hstop, hempty,
    (hclosed (by decide)).1, ws, hcounts, (hrows a).1 .jvmGc (by decide) (by decide), ms, hms, ?_⟩
  have hone := hsums .total signal.endpoint
  have hheld : heldFor settings b signal.endpoint s.core.signals = [] := by
    rw [heldFor, hempty]
    rfl
  have hsignals : ((Inbox.of (xs ++ ys)).signalsFor settings b signal.endpoint).length = 1 := by
    decide +kernel
  rw [hheld, sum_total_ofSignal, hsignals] at hone
  exact hone

/-- Without a period for the collection the service is started and stopped all the same, but a signal
stays on the board; its node is still told to close the endpoint. -/
theorem stopped_without_collection :
    let settings : Settings := { signal := { collectInterval := .zero } }
    let signal := Signal.ofProcess .none "10.0.0.1" 7 false false
    ∃ s₁ s₂ s₃,
      (Service.new settings (({} : MemoryStore), []) 0).start MemoryStore.backend.noting
        = (.ok (), s₁) ∧
      s₁.run MemoryStore.backend [.serve (.addSignal signal)] = (.ok (), s₂) ∧
      s₂.stop MemoryStore.backend.noting = (.ok (), s₃) ∧
      s₃.core.signals.tallies.keys = [(signal.node, signal.endpoint)] ∧
      (s₃.core.querySwitches .none "10.0.0.1").1 = { close := ["7-/stock"] } :=
  ⟨_, _, _, rfl, rfl, rfl, by decide +kernel, by decide +kernel⟩

end Ingest
