import Ingest.Proofs.CollectedMetrics
import Ingest.Proofs.Deposits
import Ingest.Proofs.FlushAccounts
import Ingest.Proofs.ServiceHistories

/-!
The counters that an operator sees. Records are counted when they are appended, and the rows made of
them when a flush writes or loses them; in between they wait in a cache. Main statement: after every
history the counters of a kind balance, but for agent events without a date, which give no row.
-/

namespace Ingest

variable {σ : Type} {b : Backend σ}

/-! ### Records and rows -/

def countOf (k : Kind) (es : List Event) : Nat := es.countP fun e => decide (e.kind = k)

theorem countOf_append (k : Kind) (es fs : List Event) :
    countOf k (es ++ fs) = countOf k es + countOf k fs := List.countP_append

theorem countOf_of_typed {k : Kind} {es : List Event} (h : ∀ e ∈ es, e.kind = k) (j : Kind) :
    countOf j es = if k = j then es.length else 0 := by
  split
  · next hj => exact List.countP_eq_length.mpr fun e he => decide_eq_true ((h e he).trans hj)
  · next hj => exact List.countP_eq_zero.mpr fun e he => by simpa [h e he] using hj

/-- Whether an event is beyond the last date, so that it gives no row. -/
def Event.isUndated : Event → Bool
  | agentEvent r => decide (Calendar.lastSecond < r.timestampS.toNat)
  | _ => false

theorem Event.kind_of_isUndated {e : Event} (h : e.isUndated = true) : e.kind = .agentEvent := by
  cases e with
  | agentEvent r => rfl
  | _ => cases h

/-- A record that is no relation gives one row, unless it has no date. -/
theorem Event.length_rows {e : Event} (h : e.kind ≠ .serviceRelationship) :
    e.rows.length = if e.isUndated then 0 else 1 := by
  cases e with
  | relation r => exact absurd rfl h
  | agentEvent r =>
    by_cases hlate : Calendar.lastSecond < r.timestampS.toNat
    · have hnot : ¬ r.timestampS.toNat ≤ Calendar.lastSecond := Nat.not_le.mpr hlate
      simp [rows, tuples, isUndated, AgentEvent.values?, Calendar.secondsText?, hlate, hnot]
    · have hle : r.timestampS.toNat ≤ Calendar.lastSecond := Nat.not_lt.mp hlate
      simp [rows, tuples, isUndated, AgentEvent.values?, Calendar.secondsText?, hlate, hle]
  | _ => rfl

/-- The records of a kind are the rows they give and those without a date. -/
theorem countOf_eq {k : Kind} (h : k ≠ .serviceRelationship) : ∀ es : List Event,
    countOf k es
      = (encoded k es).length + es.countP fun e => decide (e.kind = k) && e.isUndated
  | [] => rfl
  | e :: es => by
    have ih := countOf_eq h es
    by_cases hk : e.kind = k
    · have hrows := Event.length_rows (e := e) (by rw [hk]; exact h)
      have hcons : encoded k (e :: es) = e.rows ++ encoded k es := by simp [encoded, hk]
      have hcount : countOf k (e :: es) = countOf k es + 1 := by simp [countOf, hk]
      rw [hcons, hcount, List.length_append, hrows, List.countP_cons, ih]
      cases e.isUndated <;> simp [hk] <;> omega
    · have hcons : encoded k (e :: es) = encoded k es := by simp [encoded, hk]
      have hcount : countOf k (e :: es) = countOf k es := by simp [countOf, hk]
      rw [hcons, hcount, List.countP_cons, ih]
      simp [hk]

/-! ### Flushes -/

namespace WriteCounters

/-- The rows of a kind that have been written or lost. -/
def settled (c : WriteCounters) (k : Kind) : Nat :=
  KindTally.count c.rowsFlushed k + KindTally.count c.rowsLost k

end WriteCounters

namespace Sink

variable (b)

/-- Written or lost, every row of a batch is counted. -/
theorem settled_write (acc : FlushReport × Sink σ) (batch : Batch) (k : Kind) :
    (write b acc batch).2.counters.settled k
      = acc.2.counters.settled k + if batch.kind = k then batch.rows.length else 0 := by
  obtain ⟨hits, misses, -, hcounters⟩ := counters_write b acc batch
  rw [hcounters]
  split <;> simp only [WriteCounters.settled, KindTally.count_add] <;> omega

theorem settled_foldl (k : Kind) : ∀ (bs : List Batch) (acc : FlushReport × Sink σ),
    (bs.foldl (write b) acc).2.counters.settled k = acc.2.counters.settled k
      + ((bs.filter fun batch => decide (batch.kind = k)).flatMap (·.rows)).length
  | [], acc => rfl
  | batch :: bs, acc => by
    have ih := settled_foldl k bs (write b acc batch)
    rw [List.foldl_cons, ih, settled_write]
    by_cases hk : batch.kind = k <;> simp [hk, Nat.add_assoc]

/-- A flush settles the rows of all that waits. -/
theorem settled_flush (exportClients : Bool) (caches : List TenantCache) (w : Sink σ) {k : Kind}
    (h : k.isStored = true) :
    (flush b exportClients caches w).2.counters.settled k = w.counters.settled k
      + (encoded k (caches.flatMap (·.pending))).length := by
  have hrows : ((caches.flatMap (TenantCache.batches exportClients)).filter
      fun batch => decide (batch.kind = k)).flatMap (·.rows)
        = encoded k (caches.flatMap (·.pending)) := by
    simp only [encoded, List.filter_flatMap, List.flatMap_assoc]
    refine List.flatMap_congr fun c _ => ?_
    rw [TenantCache.filter_batches c (mem_flushedKinds_of_stored h exportClients), batchOf_rows,
      rowsOf_stored h]
    rfl
  rw [flush, settled_foldl, hrows]

end Sink

/-! ### What every operation keeps -/

namespace Ingestor

/-- Whether the counters balance, of a service whose flushes have drained some events, and which has
yet to count some that it put into caches. -/
structure Balanced (s : Ingestor σ) (drained uncounted : List Event) : Prop where
  received : ∀ k, KindTally.count s.counters.recordsAppended k + countOf k uncounted
    = countOf k drained + s.registry.countWaiting fun e => decide (e.kind = k)
  settled : ∀ k, k.isStored = true →
    s.sink.counters.settled k = (encoded k drained).length

namespace Balanced

variable {s s' : Ingestor σ} {drained uncounted : List Event}

/-- Nothing but what is counted and what waits matters. -/
theorem congr (h : s.Balanced drained uncounted) (hcounters : s'.counters = s.counters)
    (hregistry : s'.registry = s.registry) (hsink : s'.sink.counters = s.sink.counters) :
    s'.Balanced drained uncounted := by
  refine ⟨fun k => ?_, fun k hk => ?_⟩
  · rw [hcounters, hregistry]; exact h.received k
  · rw [hsink]; exact h.settled k hk

theorem openCache (h : s.Balanced drained uncounted) (b : Backend σ) (t : Tenant) :
    (s.openCache b t).2.Balanced drained uncounted := by
  rw [Ingestor.openCache]
  rcases s.registry.enroll_cases b t s.sink.store with
    ⟨-, heq⟩ | ⟨-, hnew, ⟨cause, store, -, heq⟩ | ⟨store, -, heq⟩⟩ <;> rw [heq]
  · exact h.congr rfl rfl rfl
  · exact h.congr rfl rfl rfl
  · refine ⟨fun k => ?_, h.settled⟩
    dsimp only
    rw [Registry.countWaiting_insert hnew]
    exact h.received k

/-- Events that are deposited wait, and are yet to be counted. -/
theorem deposit (h : s.Balanced drained uncounted) (b : Backend σ) (t : Tenant) (es : List Event) :
    ∃ s', s.deposit b t es = (.ok (), s') ∧ s'.Balanced drained (uncounted ++ es) ∨
      ∃ e, s.deposit b t es = (.error e, s') ∧ s'.Balanced drained uncounted := by
  have hopen := h.openCache b t
  rw [Ingestor.deposit]
  cases hx : s.openCache b t with
  | mk answer s' =>
    rw [hx] at hopen
    cases answer with
    | error e => exact ⟨s', .inr ⟨e, rfl, hopen⟩⟩
    | ok _ =>
      refine ⟨_, .inl ⟨rfl, fun k => ?_, hopen.settled⟩⟩
      have hreceived : KindTally.count s'.counters.recordsAppended k + countOf k uncounted
        = countOf k drained + s'.registry.countWaiting fun e => decide (e.kind = k) :=
        hopen.received k
      rw [countOf_append, Registry.countWaiting_append, ← Nat.add_assoc, hreceived, Nat.add_assoc]
      rfl

/-- Counting settles what was yet to be counted. -/
theorem countAppended {k : Kind} (h : s.Balanced drained uncounted)
    (hkind : ∀ e ∈ uncounted, e.kind = k) :
    (s.countAppended k uncounted.length).Balanced drained [] := by
  refine ⟨fun j => ?_, h.settled⟩
  have hreceived := h.received j
  rw [countOf_of_typed hkind j] at hreceived
  rw [Ingestor.countAppended, KindTally.count_add]
  exact hreceived

/-- An append that fails changes nothing that is counted. -/
theorem append (h : s.Balanced drained []) (b : Backend σ) (t : Tenant) {k : Kind}
    {es : List Event} (hkind : ∀ e ∈ es, e.kind = k) :
    (s.append b t k es).2.Balanced drained [] := by
  rw [Ingestor.append]
  split
  · exact h
  · obtain ⟨s', ⟨heq, hwaits⟩ | ⟨e, heq, hsame⟩⟩ := h.deposit b t es <;> rw [heq]
    · exact hwaits.countAppended hkind
    · exact hsame

theorem depositMetrics (b : Backend σ) : ∀ (groups : List (Tenant × List ReportMetric))
    {s : Ingestor σ} {uncounted : List Event}, s.Balanced drained uncounted →
      (s.depositMetrics b groups).1 = .ok () →
        (s.depositMetrics b groups).2.Balanced drained
          (uncounted ++ groups.flatMap fun g => g.2.map .reportMetric)
  | [], s, uncounted, h, _ => by simpa [Ingestor.depositMetrics] using h
  | (t, ms) :: groups, s, uncounted, h, hok => by
    rw [Ingestor.depositMetrics] at hok ⊢
    obtain ⟨s', ⟨heq, hwaits⟩ | ⟨e, heq, -⟩⟩ := h.deposit b t (ms.map .reportMetric) <;>
      rw [heq] at hok ⊢
    · simpa using depositMetrics b groups hwaits hok
    · cases hok

/-- A collection that succeeds counts all its metrics. -/
theorem collect (h : s.Balanced drained []) (b : Backend σ) (now : UInt64) {n : Nat}
    (hok : (s.collect b now).1 = .ok n) : (s.collect b now).2.Balanced drained [] := by
  let groups := (s.signals.collect now).1
  let metrics := groups.flatMap fun g => g.2.map Event.reportMetric
  have hlength : (groups.map fun g => g.2.length).sum = metrics.length := by
    simp [metrics, List.length_flatMap]
  have hkind : ∀ e ∈ metrics, e.kind = .reportMetric := by
    intro e he
    obtain ⟨g, -, he⟩ := List.mem_flatMap.mp he
    obtain ⟨m, -, rfl⟩ := List.mem_map.mp he
    rfl
  have hsignals : Balanced { s with signals := (s.signals.collect now).2 } drained [] :=
    h.congr rfl rfl rfl
  have hdeposit := depositMetrics b groups hsignals
  rw [Ingestor.collect] at hok ⊢
  dsimp only at hok ⊢
  cases hx : Ingestor.depositMetrics b { s with signals := (s.signals.collect now).2 } groups with
  | mk answer s' =>
    rw [hx] at hok hdeposit
    cases answer with
    | error e => cases hok
    | ok _ =>
      have hmetrics : s'.Balanced drained metrics := hdeposit rfl
      dsimp only
      rw [hlength]
      split
      · exact hmetrics.countAppended hkind
      · next hnone =>
        have hnil : metrics = [] := List.eq_nil_of_length_eq_zero (by omega)
        rwa [hnil] at hmetrics

/-- A flush drains what waits and settles its rows. -/
theorem flush (h : s.Balanced drained []) (b : Backend σ) :
    (s.flush b).2.Balanced (drained ++ s.registry.snapshot.flatMap (·.pending)) [] := by
  refine ⟨fun k => ?_, fun k hk => ?_⟩
  · have hdrained : (s.flush b).2.registry.countWaiting (fun e => decide (e.kind = k)) = 0 := by
      simp [Ingestor.flush, observeClients, Registry.countWaiting, Registry.drained,
        Keyed.mapValues, Function.comp_def]
    have hsnapshot : countOf k (s.registry.snapshot.flatMap (·.pending))
        = s.registry.countWaiting fun e => decide (e.kind = k) :=
      s.registry.countP_listed _ _
    rw [hdrained, countOf_append, hsnapshot]
    exact h.received k
  · have hflush : (s.flush b).2.sink.counters.settled k = s.sink.counters.settled k
        + (encoded k (s.registry.snapshot.flatMap (·.pending))).length :=
      Sink.settled_flush b _ _ _ hk
    rw [hflush, h.settled k hk, encoded, encoded, encoded, List.filter_append, List.flatMap_append,
      List.length_append]

end Balanced

theorem balanced_new (settings : Settings) (store : σ) (env : Environment) :
    (new settings store env).Balanced [] [] := by
  refine ⟨fun k => ?_, fun k _ => rfl⟩
  have hnone : (new settings store env).registry.countWaiting (fun e => decide (e.kind = k)) = 0 := by
    cases hmany : settings.tenancy.enabled <;>
      simp [new, Registry.empty, hmany, Registry.countWaiting, Keyed.empty, Keyed.insert, Keyed.put]
  rw [hnone]
  rfl

end Ingestor

/-! ### Histories -/

/-- Whether the records of an append are of the kind that it names. -/
def ServiceStep.Typed : ServiceStep → Prop
  | perform (.append _ k es) => ∀ e ∈ es, e.kind = k
  | _ => True

namespace ServiceHistory

/-- The records of a kind that have been appended. -/
def appendedOf (h : ServiceHistory) (k : Kind) : Nat :=
  KindTally.count h.service.counters.recordsAppended k

/-- The rows of a kind that have been written. -/
def flushedOf (h : ServiceHistory) (k : Kind) : Nat :=
  KindTally.count h.service.sink.counters.rowsFlushed k

/-- The rows of a kind that have been lost. -/
def lostOf (h : ServiceHistory) (k : Kind) : Nat :=
  KindTally.count h.service.sink.counters.rowsLost k

/-- The records of a kind that wait, over all tenants. -/
def waitingOf (h : ServiceHistory) (k : Kind) : Nat :=
  h.service.registry.countWaiting fun e => decide (e.kind = k)

/-- The events that flushes have drained. -/
def drained (h : ServiceHistory) : List Event :=
  h.flushed.flatMap fun s => s.registry.snapshot.flatMap (·.pending)

end ServiceHistory

namespace Ingestor.Balanced

variable {s : Ingestor MemoryStore} {drained : List Event}

/-- An operation that fails nobody keeps the balance, one case for each operation. -/
theorem perform (h : s.Balanced drained []) {x : Operation}
    (htyped : (ServiceStep.perform x).Typed) (hserved : (s.perform x).1.failure? = none) :
    (s.perform x).2.Balanced (drained ++ if (ServiceStep.perform x).isFlush
      then s.registry.snapshot.flatMap (·.pending) else []) [] := by
  cases x with
  | append t k es =>
    have happend := h.append MemoryStore.backend t htyped
    simp only [ServiceStep.isFlush, Bool.false_eq_true, if_false, List.append_nil,
      Ingestor.perform]
    split <;> next heq => rwa [heq] at happend
  | collect now =>
    simp only [ServiceStep.isFlush, Bool.false_eq_true, if_false, List.append_nil,
      Ingestor.perform] at hserved ⊢
    cases hx : s.collect MemoryStore.backend now with
    | mk answer s' =>
      rw [hx] at hserved
      cases answer with
      | error e => cases hserved
      | ok n =>
        have hcollect := h.collect MemoryStore.backend now (congrArg Prod.fst hx)
        rwa [hx] at hcollect
  | flush => exact h.flush MemoryStore.backend
  | _ =>
    rw [ServiceStep.isFlush, if_neg Bool.false_ne_true, List.append_nil]
    · exact h.congr rfl rfl rfl
    · intro hflush
      cases hflush

theorem advance (h : s.Balanced drained []) {x : ServiceStep} (htyped : x.Typed)
    (hserved : (s.advance x).1 = none) :
    (s.advance x).2.Balanced (drained ++ if x.isFlush
      then s.registry.snapshot.flatMap (·.pending) else []) [] := by
  cases x with
  | perform x => exact h.perform htyped hserved
  | openCache t =>
    have hopen := h.openCache MemoryStore.backend t
    simp only [ServiceStep.isFlush, Bool.false_eq_true, if_false, List.append_nil,
      Ingestor.advance]
    split <;> next heq => rwa [heq] at hopen
  | closeStatement id | closeStatements =>
    simp only [ServiceStep.isFlush, Bool.false_eq_true, if_false, List.append_nil]
    exact h.congr rfl rfl rfl

end Ingestor.Balanced

namespace ServiceHistory

theorem drained_step (h : ServiceHistory) (x : ServiceStep) :
    (h.step x).drained = h.drained ++ if x.isFlush
      then h.service.registry.snapshot.flatMap (·.pending) else [] := by
  cases hx : x.isFlush <;> simp [step, drained, hx]

/-- The counters balance after every history, by induction on its steps. -/
theorem balanced_of (settings : Settings) (env : Environment) {xs : List ServiceStep}
    (htyped : ∀ x ∈ xs, x.Typed) (hserved : (of settings env xs).failures = []) :
    (of settings env xs).service.Balanced (of settings env xs).drained [] := by
  induction xs using List.reverseRecOn with
  | nil => exact Ingestor.balanced_new settings ({} : MemoryStore) env
  | append_singleton xs x ih =>
    obtain ⟨hold, hnew⟩ := List.forall_mem_append.mp htyped
    rw [of_concat] at hserved ⊢
    obtain ⟨hbefore, hnow⟩ := List.append_eq_nil_iff.mp hserved
    rw [drained_step]
    exact (ih hold hbefore).advance (hnew x (List.mem_singleton_self x))
      (Option.toList_eq_nil_iff.mp hnow)

end ServiceHistory

/-- The kinds whose records give one row each. -/
def Kind.oneRowEach : List Kind :=
  [.profilingEvent, .flameGraph, .jvmGc, .spanTrace, .slowReport, .errorReport, .reportMetric,
    .onOffMetric]

theorem Kind.of_mem_oneRowEach : ∀ {k : Kind}, k ∈ oneRowEach →
    k.isStored = true ∧ k ≠ .serviceRelationship ∧ k ≠ .agentEvent := by
  decide

/-- After every history, in every environment, in which no request failed (a failed one would have
ended the service): of each of these kinds the records appended are the rows written, the rows lost
and the records that wait, over all tenants. Of agent events there are more, by the number of those
drained so far that are beyond the last date. -/
theorem counters_balance (settings : Settings) (env : Environment) (xs : List ServiceStep)
    (htyped : ∀ x ∈ xs, x.Typed) (hserved : (ServiceHistory.of settings env xs).failures = []) :
    let h := ServiceHistory.of settings env xs
    (∀ k ∈ Kind.oneRowEach, h.appendedOf k = h.flushedOf k + h.lostOf k + h.waitingOf k) ∧
    h.appendedOf .agentEvent = h.flushedOf .agentEvent + h.lostOf .agentEvent
      + h.waitingOf .agentEvent + h.drained.countP Event.isUndated := by
  intro h
  have hb := ServiceHistory.balanced_of settings env htyped hserved
  have hbalance (k : Kind) (hstored : k.isStored = true) (hk : k ≠ .serviceRelationship) :
      h.appendedOf k = h.flushedOf k + h.lostOf k + h.waitingOf k
        + h.drained.countP fun e => decide (e.kind = k) && e.isUndated := by
    have hreceived : h.appendedOf k = countOf k h.drained + h.waitingOf k := hb.received k
    have hsettled : h.flushedOf k + h.lostOf k = (encoded k h.drained).length :=
      hb.settled k hstored
    rw [hreceived, countOf_eq hk, hsettled]
    omega
  refine ⟨fun k hk => ?_, ?_⟩
  · obtain ⟨hstored, hk, hagent⟩ := Kind.of_mem_oneRowEach hk
    have hnone : h.drained.countP (fun e => decide (e.kind = k) && e.isUndated) = 0 := by
      refine List.countP_eq_zero.mpr fun e _ he => ?_
      obtain ⟨hkind, hlate⟩ := Bool.and_eq_true_iff.mp he
      exact hagent ((of_decide_eq_true hkind).symm.trans (Event.kind_of_isUndated hlate))
    rw [hbalance k hstored hk, hnone, Nat.add_zero]
  · have hagent : h.drained.countP (fun e => decide (e.kind = .agentEvent) && e.isUndated)
        = h.drained.countP Event.isUndated := by
      refine List.countP_congr fun e _ => ?_
      rw [Bool.and_eq_true, decide_eq_true_eq]
      exact and_iff_right_of_imp Event.kind_of_isUndated
    rw [hbalance .agentEvent rfl (by decide), hagent]

/-- Jvm statistics are lost, an agent event without a date gives no row, a collected metric is
written, and one more event waits. -/
theorem counters_balance_two_tenants :
    let a : Tenant := ⟨"a", "1"⟩
    let b : Tenant := ⟨"b", "2"⟩
    let settings : Settings := { tenancy := { enabled := true } }
    let late : Event := .agentEvent ⟨8210266876800, "attach", 7, .empty, true⟩
    let dated : Event := .agentEvent ⟨0, "attach", 7, .empty, true⟩
    let xs : List ServiceStep := [.perform (.append a .agentEvent [late, dated]),
      .perform (.append b .jvmGc [.jvmGc .zero]), .perform (.failTable .jvmGc true),
      .perform (.addSignal (.ofProcess b "10.0.0.1" 7 false true)), .perform (.collect 5),
      .perform .flush, .perform (.append a .jvmGc [.jvmGc .zero])]
    let h := ServiceHistory.of settings {} xs
    (∀ x ∈ xs, x.Typed) ∧ h.failures = [] ∧
    [Kind.jvmGc, .reportMetric, .agentEvent].map
        (fun k => (h.appendedOf k, h.flushedOf k, h.lostOf k, h.waitingOf k))
      = [(2, 0, 1, 1), (1, 1, 0, 0), (2, 1, 0, 0)] ∧
    (∀ k ∈ Kind.oneRowEach, h.appendedOf k = h.flushedOf k + h.lostOf k + h.waitingOf k) ∧
    h.appendedOf .agentEvent = h.flushedOf .agentEvent + h.lostOf .agentEvent
      + h.waitingOf .agentEvent + h.drained.countP Event.isUndated := by
  intro a b settings late dated xs h
  have htyped : ∀ x ∈ xs, x.Typed := by
    simp [xs, ServiceStep.Typed, Event.kind, late, dated]
  have hserved : h.failures = [] := ServiceHistory.failures_eq_nil settings {} (by simp [xs])
  obtain ⟨heach, hagent⟩ := counters_balance settings {} xs htyped hserved
  exact ⟨htyped, hserved, by decide +kernel, heach, hagent⟩

end Ingest
