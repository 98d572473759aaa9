import Ingest.Proofs.CollectedMetrics
import Ingest.Proofs.Deposits
import Ingest.Proofs.HandOver
import Ingest.Proofs.SwitchProtocol

/-!
What becomes of the signals that are counted. Signals of any tenants come in, agents ask for their
switches, and collections move what was counted into the caches of a service that can make databases,
in any order. Main statement: for each cache and endpoint, the metrics in the cache and the tallies
that are still held count together every signal once, and every success.
-/

namespace Ingest

variable {σ : Type}

/-! ### Runs -/

def Event.reportMetric? : Event → Option ReportMetric
  | reportMetric m => some m
  | _ => none

/-- The metrics of an endpoint among events. -/
def metricsFor (e : SlowEndpoint) (es : List Event) : List ReportMetric :=
  (es.filterMap Event.reportMetric?).filter fun m => decide (m.endpoint = e)

theorem metricsFor_append (e : SlowEndpoint) (es fs : List Event) :
    metricsFor e (es ++ fs) = metricsFor e es ++ metricsFor e fs := by
  simp [metricsFor]

/-- The metrics of events that are nothing but metrics. -/
theorem metricsFor_reportMetrics (e : SlowEndpoint) (ms : List ReportMetric) :
    metricsFor e (ms.map .reportMetric) = ms.filter fun m => decide (m.endpoint = e) := by
  simp [metricsFor, List.filterMap_map, Function.comp_def, Event.reportMetric?]

/-- The tallies of an endpoint on all nodes of the tenants that share a cache. -/
def heldFor (settings : Settings) (t : Tenant) (e : SlowEndpoint) (b : SignalBoard) :
    List SignalTally :=
  (b.tallies.entries.filter fun x => decide (settings.owner x.1.1.tenant = settings.owner t ∧
    x.1.2 = e)).map Prod.snd

def SignalStep.signal? : SignalStep → Option Signal
  | add x => some x
  | _ => none

/-- The signals of an endpoint, of the tenants that share a cache. -/
def signalsFor (settings : Settings) (t : Tenant) (e : SlowEndpoint) (xs : List SignalStep) :
    List Signal :=
  (xs.filterMap SignalStep.signal?).filter fun x =>
    decide (settings.owner x.tenant = settings.owner t ∧ x.endpoint = e)

theorem signalsFor_append (settings : Settings) (t : Tenant) (e : SlowEndpoint)
    (xs ys : List SignalStep) :
    signalsFor settings t e (xs ++ ys)
      = signalsFor settings t e xs ++ signalsFor settings t e ys := by
  simp [signalsFor]

namespace Ingestor

def signalStep (b : Backend σ) (s : Ingestor σ) : SignalStep → Ingestor σ
  | .add x => { s with signals := s.signals.add x }
  | .query n => { s with signals := (s.signals.query n).2 }
  | .collect now => (s.collect b now).2

/-- A new service after signals, queries and collections. -/
def signalled (b : Backend σ) (settings : Settings) (env : Environment) (store : σ)
    (xs : List SignalStep) : Ingestor σ :=
  xs.foldl (signalStep b) (.new settings store env)

theorem signalled_concat (b : Backend σ) (settings : Settings) (env : Environment) (store : σ)
    (xs : List SignalStep) (x : SignalStep) :
    signalled b settings env store (xs ++ [x])
      = (signalled b settings env store xs).signalStep b x := by
  simp [signalled]

end Ingestor

/-! ### Conservation -/

namespace SignalBoard

variable {b : SignalBoard}

theorem sum_heldFor (settings : Settings) (t : Tenant) (e : SlowEndpoint) (c : SignalCount) :
    ((heldFor settings t e b).map c.ofTally).sum
      = (b.tallies.entries.map
        (share c (fun u => settings.owner u = settings.owner t) e)).sum := by
  have hshare : share c (fun u => settings.owner u = settings.owner t) e = fun x =>
      if settings.owner x.1.1.tenant = settings.owner t ∧ x.1.2 = e then c.ofTally x.2 else 0 := rfl
  rw [heldFor, List.map_map, hshare, List.sum_map_ite]
  simp [Function.comp_def]

/-- A signal adds to the tally of its endpoint. -/
theorem sum_share_add (c : SignalCount) (p : Tenant → Prop) [DecidablePred p] (e : SlowEndpoint)
    (x : Signal) : ((b.add x).tallies.entries.map (share c p e)).sum
      = (b.tallies.entries.map (share c p e)).sum
        + if p x.tenant ∧ x.endpoint = e then c.ofSignal x else 0 := by
  refine Keyed.sum_alter (share c p e) b.tallies (x.node, x.endpoint) _ ?_
  by_cases h : p x.node.tenant ∧ x.endpoint = e
  · have h' : p x.tenant ∧ x.endpoint = e := h
    simp only [share, if_pos h, if_pos h', SignalCount.ofTally_observe]
    cases b.tallies.get? (x.node, x.endpoint) with
    | none => cases c <;> rfl
    | some t => rfl
  · have h' : ¬ (p x.tenant ∧ x.endpoint = e) := h
    simp only [share, if_neg h, if_neg h']
    cases b.tallies.get? (x.node, x.endpoint) <;> rfl

/-- A query leaves every count as it is. -/
theorem sum_share_query (c : SignalCount) (p : Tenant → Prop) [DecidablePred p] (e : SlowEndpoint)
    (n : AgentNode) : ((b.query n).2.tallies.entries.map (share c p e)).sum
      = (b.tallies.entries.map (share c p e)).sum := by
  have hentries : (b.query n).2.tallies.entries = b.tallies.entries.map fun x =>
      (x.1, if x.1.1 = n then x.2.check.2 else x.2) := rfl
  rw [hentries, List.map_map]
  refine congrArg List.sum (List.map_congr_left fun x _ => ?_)
  by_cases hn : x.1.1 = n <;> simp [share, hn, SignalCount.ofTally_check]

theorem sound_of_get? (h : ∀ k t, b.tallies.get? k = some t → t.success ≤ t.total) : b.Sound :=
  fun x hx => h x.1 x.2 (Keyed.get?_eq_some_iff.mpr hx)

theorem Sound.le_of_get? (h : b.Sound) {k : AgentNode × SlowEndpoint} {t : SignalTally}
    (ht : b.tallies.get? k = some t) : t.success ≤ t.total :=
  h (k, t) (Keyed.get?_eq_some_iff.mp ht)

theorem Sound.add (h : b.Sound) (x : Signal) : (b.add x).Sound := by
  refine sound_of_get? fun k t ht => ?_
  have hadd : (b.add x).tallies.get? k = if (x.node, x.endpoint) = k then
      some (((b.tallies.get? (x.node, x.endpoint)).getD {}).observe x.trace.isProfiled)
      else b.tallies.get? k := Keyed.get?_insert _ _ _ _
  rw [hadd] at ht
  split at ht
  · have hold : ((b.tallies.get? (x.node, x.endpoint)).getD {}).success
        ≤ ((b.tallies.get? (x.node, x.endpoint)).getD {}).total := by
      cases hx : b.tallies.get? (x.node, x.endpoint) with
      | none => exact Nat.le_refl 0
      | some old => exact h.le_of_get? hx
    obtain rfl := Option.some.inj ht
    simp only [SignalTally.observe]
    split <;> omega
  · exact h.le_of_get? ht

theorem Sound.query (h : b.Sound) (n : AgentNode) : (b.query n).2.Sound := by
  refine sound_of_get? fun k t ht => ?_
  have hquery : (b.query n).2.tallies.get? k
      = (b.tallies.get? k).map fun t => if k.1 = n then t.check.2 else t :=
    Keyed.get?_mapValues _ _ _
  rw [hquery, Option.map_eq_some_iff] at ht
  obtain ⟨old, hold, rfl⟩ := ht
  have hle := h.le_of_get? hold
  split
  · exact hle
  · exact hle

/-- The metrics that a collection finds of a tenant are those of different endpoints and nodes. -/
theorem exists_sources (b : SignalBoard) (now : UInt64) (t : Tenant) :
    ∃ sources : List ((AgentNode × SlowEndpoint) × SignalTally),
      (sources.map Prod.fst).Nodup ∧
      (∀ x ∈ sources, x.1.1.tenant = t ∧ b.tallies.get? x.1 = some x.2) ∧
      b.visited.metricsOf now t = sources.map fun x => metricOf now x.1.2 x.2 := by
  refine ⟨b.visited.countedOf t, b.visited.nodup_countedOf t, fun x hx => ?_,
    b.visited.metricsOf_eq now t⟩
  obtain ⟨htenant, hget, -⟩ := of_mem_countedOf hx
  exact ⟨htenant, b.get?_visited x.1 ▸ hget⟩

theorem Sound.of_mem_metricsOf (h : b.Sound) {now : UInt64} {t : Tenant} {m : ReportMetric}
    (hm : m ∈ b.metricsOf now t) :
    1 ≤ m.total ∧ m.success ≤ m.total ∧ m.total = m.success + m.failed ∧ m.timestampNs = now := by
  rw [metricsOf_eq] at hm
  obtain ⟨x, hx, rfl⟩ := List.mem_map.mp hm
  obtain ⟨-, hget, htotal⟩ := of_mem_countedOf hx
  have hle : x.2.success ≤ x.2.total := h.le_of_get? hget
  exact ⟨Nat.pos_of_ne_zero htotal, hle, (Nat.add_sub_cancel' hle).symm, rfl⟩

end SignalBoard

variable {b : Backend σ} {ready : σ → Prop} {settings : Settings} {xs : List SignalStep}
  {s : Ingestor σ}

/-- What holds of a service after signals, queries and collections: for each cache and endpoint,
what is collected and what is held make up what came in. -/
structure Conserved (ready : σ → Prop) (settings : Settings) (xs : List SignalStep)
    (s : Ingestor σ) : Prop where
  ready : ready s.sink.store
  multiTenant_eq : s.registry.multiTenant = settings.tenancy.enabled
  sound : s.signals.Sound
  conserved : ∀ (c : SignalCount) t e, ((metricsFor e (s.registry.pending t)).map c.ofMetric).sum
      + ((heldFor settings t e s.signals).map c.ofTally).sum
    = ((signalsFor settings t e xs).map c.ofSignal).sum

namespace Conserved

theorem scope_eq (h : Conserved ready settings xs s) (t : Tenant) :
    s.registry.scope t = settings.owner t :=
  Registry.scope_eq_owner h.multiTenant_eq t

theorem add (h : Conserved ready settings xs s) (x : Signal) :
    Conserved ready settings (xs ++ [.add x]) { s with signals := s.signals.add x } := by
  refine ⟨h.ready, h.multiTenant_eq, h.sound.add x, fun c t e => ?_⟩
  have hold := h.conserved c t e
  rw [SignalBoard.sum_heldFor] at hold ⊢
  have hone : ((signalsFor settings t e [.add x]).map c.ofSignal).sum
      = if settings.owner x.tenant = settings.owner t ∧ x.endpoint = e then c.ofSignal x
        else 0 := by
    by_cases hx : settings.owner x.tenant = settings.owner t ∧ x.endpoint = e <;>
      simp [signalsFor, SignalStep.signal?, hx]
  rw [SignalBoard.sum_share_add, signalsFor_append, List.map_append, List.sum_append_nat, ← hold,
    hone, Nat.add_assoc]

theorem query (h : Conserved ready settings xs s) (n : AgentNode) :
    Conserved ready settings (xs ++ [.query n]) { s with signals := (s.signals.query n).2 } := by
  refine ⟨h.ready, h.multiTenant_eq, h.sound.query n, fun c t e => ?_⟩
  have hold := h.conserved c t e
  have hnone : signalsFor settings t e [.query n] = [] := rfl
  rw [SignalBoard.sum_heldFor] at hold ⊢
  rw [SignalBoard.sum_share_query, signalsFor_append, hnone, List.append_nil, hold]

/-- A collection moves all that is held into the caches. -/
theorem collect (hmakes : b.Makes ready) (h : Conserved ready settings xs s) (now : UInt64) :
    Conserved ready settings (xs ++ [.collect now]) (s.collect b now).2 := by
  obtain ⟨s', heq, hready, hreceives, registry, store, counters, hs'⟩ :=
    Ingestor.collect_of_makes hmakes h.ready now
  have hsignals : s'.signals = (s.signals.collect now).2 := by rw [hs']
  rw [heq]
  refine ⟨hready, hreceives.multiTenant.trans h.multiTenant_eq, ?_, fun c t e => ?_⟩
  · rw [hsignals]
    exact fun x hx => by cases hx
  -- What was held before is what the new metrics count, and nothing is held after.
  · have hold := h.conserved c t e
    have hcounted := SignalBoard.counted_collect h.sound c e now
      (fun u => settings.owner u = settings.owner t)
    have hnone : signalsFor settings t e [.collect now] = [] := rfl
    have hempty : heldFor settings t e s'.signals = [] := by rw [hsignals]; rfl
    rw [SignalBoard.sum_heldFor, ← hcounted, SignalBoard.counted] at hold
    rw [hreceives.pending, metricsFor_append, hempty]
    simp only [h.scope_eq]
    rw [Ingestor.flatMap_metricEvents _ (fun u => settings.owner u = settings.owner t),
      metricsFor_reportMetrics, List.map_append, List.sum_append_nat, signalsFor_append, hnone,
      List.append_nil, ← hold]
    rfl

theorem step (hmakes : b.Makes ready) (h : Conserved ready settings xs s) :
    ∀ x, Conserved ready settings (xs ++ [x]) (s.signalStep b x)
  | .add x => h.add x
  | .query n => h.query n
  | .collect now => h.collect hmakes now

end Conserved

/-- Nothing is lost or counted twice, by induction on what happens. -/
theorem conserved_signalled (hmakes : b.Makes ready) (settings : Settings) (env : Environment)
    {store : σ} (hstore : ready store) (xs : List SignalStep) :
    Conserved ready settings xs (Ingestor.signalled b settings env store xs) := by
  induction xs using List.reverseRecOn with
  | nil =>
    refine ⟨hstore, rfl, fun x hx => (by cases hx), fun c t e => ?_⟩
    have hpending : (Ingestor.signalled b settings env store []).registry.pending t = [] :=
      Registry.pending_empty _ _ _ t
    rw [hpending]
    rfl
  | append_singleton xs x ih =>
    rw [Ingestor.signalled_concat]
    exact ih.step hmakes x

theorem sum_total_ofSignal (xs : List Signal) :
    (xs.map SignalCount.total.ofSignal).sum = xs.length := by
  induction xs with
  | nil => rfl
  | cons x xs ih => simp [SignalCount.ofSignal, ih, Nat.add_comm]

theorem sum_success_ofSignal (xs : List Signal) :
    (xs.map SignalCount.success.ofSignal).sum = (xs.filter (·.trace.isProfiled)).length := by
  induction xs with
  | nil => rfl
  | cons x xs ih =>
    cases hx : x.trace.isProfiled <;> simp [SignalCount.ofSignal, hx, ih, Nat.add_comm]

/-- In every environment, after any signals, queries and collections, where databases can be made: for
each cache and endpoint the metrics in the cache and the tallies still held count together each signal
of the endpoint and of the cache's tenants once, and likewise each success. The next collection gives
each tenant one group of metrics, from different nodes or endpoints; each metric has at least one
trigger and no more successes, and the time of the collection. It leaves no tally behind, puts all
metrics into the caches of their tenants, and gives their number. -/
theorem signals_counted_once {b : Backend σ} {ready : σ → Prop} (hmakes : b.Makes ready)
    (settings : Settings) (env : Environment) {store : σ} (hstore : ready store)
    (xs : List SignalStep) :
    let s := Ingestor.signalled b settings env store xs
    (∀ t e,
      let collected := metricsFor e (s.registry.pending t)
      let held := heldFor settings t e s.signals
      let signals := signalsFor settings t e xs
      (collected.map (·.total)).sum + (held.map (·.total)).sum = signals.length ∧
      (collected.map (·.success)).sum + (held.map (·.success)).sum
        = (signals.filter (·.trace.isProfiled)).length) ∧
    ∀ now,
      let groups := (s.signals.collect now).1
      let s' := (s.collect b now).2
      (groups.map Prod.fst).Nodup ∧
      (∀ g ∈ groups,
        (∃ sources : List ((AgentNode × SlowEndpoint) × SignalTally),
          (sources.map Prod.fst).Nodup ∧
          (∀ x ∈ sources, x.1.1.tenant = g.1 ∧ s.signals.tallies.get? x.1 = some x.2) ∧
          g.2 = sources.map fun x => SignalBoard.metricOf now x.1.2 x.2) ∧
        ∀ m ∈ g.2, 1 ≤ m.total ∧ m.success ≤ m.total ∧ m.total = m.success + m.failed ∧
          m.timestampNs = now) ∧
      (∀ n e, s'.signals.tallies.get? (n, e) = none) ∧
      (∀ t, s'.registry.pending t = s.registry.pending t
        ++ (groups.filter fun g => decide (settings.owner g.1 = settings.owner t)).flatMap
          fun g => g.2.map .reportMetric) ∧
      ∃ n, (s.collect b now).1 = .ok n ∧ n = (groups.map fun g => g.2.length).sum ∧
        s'.registry.waiting = s.registry.waiting + n := by
  have h := conserved_signalled hmakes settings env hstore xs
  refine ⟨fun t e => ⟨?_, ?_⟩, fun now => ?_⟩
  · exact (h.conserved .total t e).trans (sum_total_ofSignal _)
  · exact (h.conserved .success t e).trans (sum_success_ofSignal _)
  · obtain ⟨s', heq, -, hreceives, registry, store', counters, hs'⟩ :=
      Ingestor.collect_of_makes hmakes h.ready now
    have hlength (g : Tenant × List ReportMetric) :
        (Ingestor.metricEvents g).2.length = g.2.length := List.length_map _
    rw [heq]
    refine ⟨SignalBoard.nodup_groups _ now, fun g hg => ?_, ?_, fun t => ?_, _, rfl, rfl, ?_⟩
    · rw [SignalBoard.metrics_of_mem_groups hg]
      exact ⟨SignalBoard.exists_sources _ now g.1, fun m hm => h.sound.visited.of_mem_metricsOf hm⟩
    · intro n e
      rw [hs']
      rfl
    · rw [hreceives.pending]
      simp only [h.scope_eq]
      rw [Ingestor.flatMap_metricEvents _ (fun u => settings.owner u = settings.owner t),
        List.map_flatMap]
    · rw [hreceives.waiting, List.map_map]
      simp only [Function.comp_def, hlength]

/-- Four signals of one endpoint come from two nodes and two tenants, one after a collection. -/
theorem signals_counted_once_two_nodes :
    let a : Tenant := ⟨"a", ""⟩
    let b : Tenant := ⟨"b", ""⟩
    let settings : Settings := { tenancy := { enabled := true } }
    let xs : List SignalStep := [.add (.ofProcess a "10.0.0.1" 7 true false),
      .add (.ofProcess a "10.0.0.2" 7 false false), .query ⟨a, "10.0.0.2"⟩,
      .add (.ofProcess b "10.0.0.1" 7 true false), .collect 5,
      .add (.ofProcess a "10.0.0.2" 7 false false)]
    let e := (Signal.ofProcess a "10.0.0.1" 7 true false).endpoint
    let s := Ingestor.signalled MemoryStore.backend settings {} {} xs
    let collected := metricsFor e (s.registry.pending a)
    let held := heldFor settings a e s.signals
    let ready (s : MemoryStore) : Prop := ∃ made, s = { initialized := made }
    MemoryStore.backend.Makes ready ∧ ready {} ∧
      collected.length = 2 ∧ held.length = 1 ∧
      (collected.map (·.total)).sum + (held.map (·.total)).sum = 3 ∧
      (collected.map (·.success)).sum + (held.map (·.success)).sum = 1 ∧
      (s.collect MemoryStore.backend 6).1 = .ok 1 := by
  intro a b settings xs e s collected held ready
  have hinit : ({} : MemoryStore).initFails = false := rfl
  have hmakes : MemoryStore.backend.Makes ready := MemoryStore.makes_databases hinit
  have hready : ready {} := ⟨[], rfl⟩
  obtain ⟨hsums, hnext⟩ := signals_counted_once hmakes settings {} hready xs
  have hsignals : (signalsFor settings a e xs).length = 3 ∧
      ((signalsFor settings a e xs).filter (·.trace.isProfiled)).length = 1 := by decide +kernel
  obtain ⟨-, -, -, -, n, hresult, hn, -⟩ := hnext 6
  have hone : ((s.signals.collect 6).1.map fun g => g.2.length).sum = 1 := by decide +kernel
  exact ⟨hmakes, hready, by decide +kernel, by decide +kernel,
    (hsums a e).1.trans hsignals.1, (hsums a e).2.trans hsignals.2,
    hresult.trans (congrArg Except.ok (hn.trans hone))⟩

end Ingest
