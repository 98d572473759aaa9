import Ingest.Proofs.SingleTenant

/-!
Services in front of two stores that answer alike. Main statement: if related states of the stores
give the same answers and go to related states, the services give the same answers and stay the same
but for their stores.
-/

namespace Ingest

variable {α ε ρ ρ' σ τ : Type}

/-- Whether two outcomes have the same value and related states. -/
def SameOutcome (R : ρ → ρ' → Prop) (x : α × ρ) (y : α × ρ') : Prop := y.1 = x.1 ∧ R x.2 y.2

theorem SameOutcome.cases {R : ρ → ρ' → Prop} {x : Except ε α × ρ} {y : Except ε α × ρ'}
    (h : SameOutcome R x y) :
    (∃ e s t, x = (.error e, s) ∧ y = (.error e, t) ∧ R s t) ∨
      ∃ a s t, x = (.ok a, s) ∧ y = (.ok a, t) ∧ R s t := by
  obtain ⟨x, s⟩ := x
  obtain ⟨y, t⟩ := y
  obtain ⟨rfl, hR⟩ := h
  cases y with
  | error e => exact .inl ⟨e, s, t, rfl, rfl, hR⟩
  | ok a => exact .inr ⟨a, s, t, rfl, rfl, hR⟩

/-- Whether two stores give the same answers in related states, and go to related states. -/
structure Backend.Lockstep (b : Backend σ) (b' : Backend τ) (R : σ → τ → Prop) : Prop where
  prepare : ∀ {s t}, R s t → ∀ st, SameOutcome R (b.prepare s st) (b'.prepare t st)
  execute : ∀ {s t}, R s t → ∀ st ready rows,
    SameOutcome R (b.execute s st ready rows) (b'.execute t st ready rows)
  initDatabase : ∀ {s t}, R s t → ∀ database,
    SameOutcome R (b.initDatabase s database) (b'.initDatabase t database)

variable {b : Backend σ} {b' : Backend τ} {R : σ → τ → Prop}

/-! ### Writing -/

namespace Sink

/-- A sink with another store. -/
def withStore (w : Sink σ) (t : τ) : Sink τ where
  store := t
  statements := w.statements
  counters := w.counters
  clock := w.clock
  pace := w.pace
  ticks := w.ticks

/-- Whether sinks are the same but for their stores, which are related. -/
def Related (R : σ → τ → Prop) (w : Sink σ) (w' : Sink τ) : Prop :=
  ∃ t, w' = w.withStore t ∧ R w.store t

variable {w : Sink σ} {w' : Sink τ}

@[simp] theorem store_withStore (w : Sink σ) (t : τ) : (w.withStore t).store = t := rfl

/-- A look-up asks no store. -/
theorem lookup_withStore (w : Sink σ) (t : τ) (key : StatementKey) :
    (w.withStore t).lookup key = ((w.lookup key).1, (w.lookup key).2.withStore t) := rfl

theorem prepare_same (hb : b.Lockstep b' R) (h : Related R w w') (s : Statement) :
    SameOutcome (Related R) (prepare b w s) (prepare b' w' s) := by
  obtain ⟨t, rfl, hR⟩ := h
  rw [prepare, prepare, store_withStore]
  rcases (hb.prepare hR s).cases with
    ⟨e, store, store', hx, hy, hR'⟩ | ⟨_, store, store', hx, hy, hR'⟩ <;>
    rw [hx, hy] <;> exact ⟨rfl, store', rfl, hR'⟩

theorem obtain_same (hb : b.Lockstep b' R) (h : Related R w w') (s : Statement) :
    SameOutcome (Related R) (Sink.obtain b w s) (Sink.obtain b' w' s) := by
  obtain ⟨t, rfl, hR⟩ := h
  have hfound : R (w.lookup s.key).2.store t := hR
  rw [Sink.obtain, Sink.obtain, lookup_withStore]
  cases hx : w.lookup s.key with
  | mk found w₁ =>
    rw [hx] at hfound
    cases found with
    | some id => exact ⟨rfl, t, rfl, hfound⟩
    | none =>
      refine prepare_same hb ?_ s
      exact ⟨t, rfl, hfound⟩

theorem execute_same (hb : b.Lockstep b' R) (h : Related R w w') (s : Statement) (id : Nat)
    (rows : List Row) :
    SameOutcome (Related R) (execute b w s id rows) (execute b' w' s id rows) := by
  obtain ⟨t, rfl, hR⟩ := h
  obtain ⟨hanswer, hR'⟩ := hb.execute hR ((w.statements.ledger.statement? id).getD s)
    (w.statements.ledger.isReady id) rows
  refine ⟨congrArg Execution.result hanswer, _, ?_, hR'⟩
  simp only [execute, withStore, hanswer]

theorem attempt_same (hb : b.Lockstep b' R) (h : Related R w w') (s : Statement) (id : Nat)
    (rows : List Row) :
    SameOutcome (Related R) (attempt b w s id rows) (attempt b' w' s id rows) := by
  rw [attempt, attempt]
  rcases (execute_same hb h s id rows).cases with
    ⟨e, w₁, w₁', hx, hy, h₁⟩ | ⟨_, w₁, w₁', hx, hy, h₁⟩ <;> rw [hx, hy]
  · dsimp only
    split
    · rcases (prepare_same hb h₁ s).cases with
        ⟨e', w₂, w₂', hx, hy, h₂⟩ | ⟨id', w₂, w₂', hx, hy, h₂⟩ <;> rw [hx, hy]
      · exact ⟨rfl, h₂⟩
      · exact execute_same hb h₂ s id' rows
    · exact ⟨rfl, h₁⟩
  · exact ⟨rfl, h₁⟩

theorem writeRows_same (hb : b.Lockstep b' R) (h : Related R w w') (s : Statement)
    (rows : List Row) :
    SameOutcome (Related R) (writeRows b w s rows) (writeRows b' w' s rows) := by
  rw [writeRows, writeRows]
  rcases (obtain_same hb h s).cases with
    ⟨e, w₁, w₁', hx, hy, h₁⟩ | ⟨id, w₁, w₁', hx, hy, h₁⟩ <;> rw [hx, hy]
  · exact ⟨rfl, h₁⟩
  · exact attempt_same hb h₁ s id rows

theorem write_same (hb : b.Lockstep b' R) {acc : FlushReport × Sink σ} {acc' : FlushReport × Sink τ}
    (h : SameOutcome (Related R) acc acc') (batch : Batch) :
    SameOutcome (Related R) (write b acc batch) (write b' acc' batch) := by
  obtain ⟨report, w⟩ := acc
  obtain ⟨report', w'⟩ := acc'
  obtain ⟨rfl, h⟩ := h
  rw [write, write]
  rcases (writeRows_same hb h batch.statement batch.rows).cases with
    ⟨e, w₁, w₁', hx, hy, t, rfl, hR⟩ | ⟨_, w₁, w₁', hx, hy, t, rfl, hR⟩ <;>
    rw [hx, hy] <;> exact ⟨rfl, t, rfl, hR⟩

theorem foldl_write_same (hb : b.Lockstep b' R) : ∀ (bs : List Batch)
    {acc : FlushReport × Sink σ} {acc' : FlushReport × Sink τ},
    SameOutcome (Related R) acc acc' →
      SameOutcome (Related R) (bs.foldl (write b) acc) (bs.foldl (write b') acc')
  | [], _, _, h => h
  | batch :: bs, _, _, h => foldl_write_same hb bs (write_same hb h batch)

/-- The same comes of the same batches. -/
theorem attempts_same (hb : b.Lockstep b' R) : ∀ (bs : List (Tenant × Batch))
    {acc : FlushReport × Sink σ} {acc' : FlushReport × Sink τ},
    SameOutcome (Related R) acc acc' → attempts b' acc' bs = attempts b acc bs
  | [], _, _, _ => rfl
  | (t, batch) :: bs, acc, acc', h => by
    obtain ⟨hanswer, -⟩ := writeRows_same hb h.2 batch.statement batch.rows
    rw [attempts, attempts, hanswer, attempts_same hb bs (write_same hb h batch)]

end Sink

/-! ### Requests -/

namespace Ingestor

/-- A service with another store. -/
def withStore (s : Ingestor σ) (t : τ) : Ingestor τ where
  settings := s.settings
  registry := s.registry
  sink := s.sink.withStore t
  signals := s.signals
  traces := s.traces
  clients := s.clients
  counters := s.counters

/-- Whether services are the same but for their stores, which are related. -/
def Related (R : σ → τ → Prop) (s : Ingestor σ) (s' : Ingestor τ) : Prop :=
  ∃ t, s' = s.withStore t ∧ R s.sink.store t

variable {s : Ingestor σ} {s' : Ingestor τ}

theorem related_new (settings : Settings) (env : Environment) {store : σ} {store' : τ}
    (h : R store store') : Related R (new settings store env) (new settings store' env) :=
  ⟨store', rfl, h⟩

theorem openCache_same (hb : b.Lockstep b' R) (h : Related R s s') (t : Tenant) :
    SameOutcome (Related R) (s.openCache b t) (s'.openCache b' t) := by
  obtain ⟨store, rfl, hR⟩ := h
  have henroll : SameOutcome R (s.registry.enroll b t s.sink.store)
      ((s.withStore store).registry.enroll b' t (s.withStore store).sink.store) := by
    change SameOutcome R _ (s.registry.enroll b' t store)
    rw [Registry.enroll, Registry.enroll]
    split
    · exact ⟨rfl, hR⟩
    · dsimp only
      rcases (hb.initDatabase hR (s.registry.databaseFor t)).cases with
        ⟨e, s₁, s₁', hx, hy, hR'⟩ | ⟨_, s₁, s₁', hx, hy, hR'⟩ <;> rw [hx, hy] <;> exact ⟨rfl, hR'⟩
  rw [openCache, openCache]
  rcases henroll.cases with ⟨e, s₁, s₁', hx, hy, hR'⟩ | ⟨r, s₁, s₁', hx, hy, hR'⟩ <;>
    rw [hx, hy] <;> exact ⟨rfl, s₁', rfl, hR'⟩

theorem deposit_same (hb : b.Lockstep b' R) (h : Related R s s') (t : Tenant) (es : List Event) :
    SameOutcome (Related R) (s.deposit b t es) (s'.deposit b' t es) := by
  rw [deposit, deposit]
  rcases (openCache_same hb h t).cases with
    ⟨e, s₁, s₁', hx, hy, h₁⟩ | ⟨_, s₁, s₁', hx, hy, h₁⟩ <;> rw [hx, hy]
  · exact ⟨rfl, h₁⟩
  · obtain ⟨store, rfl, hR⟩ := h₁
    exact ⟨rfl, store, rfl, hR⟩

theorem countAppended_related (h : Related R s s') (k : Kind) (n : Nat) :
    Related R (s.countAppended k n) (s'.countAppended k n) := by
  obtain ⟨store, rfl, hR⟩ := h
  exact ⟨store, rfl, hR⟩

theorem append_same (hb : b.Lockstep b' R) (h : Related R s s') (t : Tenant) (k : Kind)
    (es : List Event) : SameOutcome (Related R) (s.append b t k es) (s'.append b' t k es) := by
  rw [append, append]
  split
  · exact ⟨rfl, h⟩
  · rcases (deposit_same hb h t es).cases with
      ⟨e, s₁, s₁', hx, hy, h₁⟩ | ⟨_, s₁, s₁', hx, hy, h₁⟩ <;> rw [hx, hy]
    · exact ⟨rfl, h₁⟩
    · exact ⟨rfl, countAppended_related h₁ k es.length⟩

theorem depositMetrics_same (hb : b.Lockstep b' R) :
    ∀ (groups : List (Tenant × List ReportMetric)) {s : Ingestor σ} {s' : Ingestor τ},
      Related R s s' →
        SameOutcome (Related R) (s.depositMetrics b groups) (s'.depositMetrics b' groups)
  | [], _, _, h => ⟨rfl, h⟩
  | (t, ms) :: groups, s, s', h => by
    rw [depositMetrics, depositMetrics]
    rcases (deposit_same hb h t (ms.map .reportMetric)).cases with
      ⟨e, s₁, s₁', hx, hy, h₁⟩ | ⟨_, s₁, s₁', hx, hy, h₁⟩ <;> rw [hx, hy]
    · exact ⟨rfl, h₁⟩
    · exact depositMetrics_same hb groups h₁

theorem collect_same (hb : b.Lockstep b' R) (h : Related R s s') (now : UInt64) :
    SameOutcome (Related R) (s.collect b now) (s'.collect b' now) := by
  have hsignals : s'.signals = s.signals := by
    obtain ⟨store, rfl, -⟩ := h
    rfl
  have hcollected : Related R { s with signals := (s.signals.collect now).2 }
      { s' with signals := (s.signals.collect now).2 } := by
    obtain ⟨store, rfl, hR⟩ := h
    exact ⟨store, rfl, hR⟩
  rw [collect, collect, hsignals]
  dsimp only
  rcases (depositMetrics_same hb (s.signals.collect now).1 hcollected).cases with
    ⟨e, s₁, s₁', hx, hy, h₁⟩ | ⟨_, s₁, s₁', hx, hy, h₁⟩ <;> rw [hx, hy]
  · exact ⟨rfl, h₁⟩
  · refine ⟨rfl, ?_⟩
    dsimp only
    split
    · exact countAppended_related h₁ _ _
    · exact h₁

theorem flush_same (hb : b.Lockstep b' R) (h : Related R s s') :
    SameOutcome (Related R) (s.flush b) (s'.flush b') := by
  obtain ⟨store, rfl, hR⟩ := h
  have hsink : SameOutcome (Sink.Related R)
      (Ingest.flush b s.settings.clickhouse.exportServiceClient s.registry.snapshot s.sink)
      (Ingest.flush b' s.settings.clickhouse.exportServiceClient s.registry.snapshot
        (s.sink.withStore store)) :=
    Sink.foldl_write_same hb _ ⟨rfl, store, rfl, hR⟩
  obtain ⟨hreport, t, hw, hR'⟩ := hsink
  refine ⟨hreport, t, ?_, hR'⟩
  have hright : ((s.withStore store).flush b').2 = { (s.flush b).2.withStore t with
      sink := (Ingest.flush b' s.settings.clickhouse.exportServiceClient s.registry.snapshot
        (s.sink.withStore store)).2 } := rfl
  rw [hright, hw]
  rfl

/-- A request is answered alike, one case for each request. -/
theorem serve_same (hb : b.Lockstep b' R) (h : Related R s s') (x : Request) :
    SameOutcome (Related R) (s.serve b x) (s'.serve b' x) := by
  cases x with
  | append t k es =>
    rw [serve, serve]
    rcases (append_same hb h t k es).cases with
      ⟨e, s₁, s₁', hx, hy, h₁⟩ | ⟨_, s₁, s₁', hx, hy, h₁⟩ <;> rw [hx, hy] <;> exact ⟨rfl, h₁⟩
  | collect now =>
    rw [serve, serve]
    rcases (collect_same hb h now).cases with
      ⟨e, s₁, s₁', hx, hy, h₁⟩ | ⟨_, s₁, s₁', hx, hy, h₁⟩ <;> rw [hx, hy] <;> exact ⟨rfl, h₁⟩
  | flush =>
    obtain ⟨hreport, hrelated⟩ := flush_same hb h
    exact ⟨congrArg Answer.flushed hreport, hrelated⟩
  | _ =>
    obtain ⟨store, rfl, hR⟩ := h
    exact ⟨rfl, store, rfl, hR⟩

end Ingestor

end Ingest
