import Ingest.Proofs.CollectedMetrics
import Ingest.Proofs.Deposits
import Ingest.Proofs.HandOver
import Ingest.Proofs.Operations

/-!
What a service for many tenants holds of one of them: the events in its cache and the signals of its
nodes. Main statement: an operation of the tenant, or of nobody, changes what is held of the tenant
by what is held of it alone; and an operation of another tenant does not change it.
-/

namespace Ingest

/-! ### Signals of one tenant -/

theorem filterMap_filter_of_imp {α β : Type} {p : α → Bool} {f : α → Option β}
    (h : ∀ x, p x = false → f x = none) (xs : List α) :
    (xs.filter p).filterMap f = xs.filterMap f := by
  rw [List.filterMap_filter]
  refine List.filterMap_congr fun x _ => ?_
  cases hp : p x with
  | false => exact (h x hp).symm
  | true => rfl

namespace SignalBoard

variable {b : SignalBoard} {t : Tenant}

def requestsOf (b : SignalBoard) (t : Tenant) : List (AgentNode × ProfileRequest) :=
  b.requests.filter fun r => decide (r.1.tenant = t)

/-- In which order each collection meets the tallies of a tenant. -/
def orderOf (b : SignalBoard) (t : Tenant) (n : Nat) : List (AgentNode × SlowEndpoint) :=
  (b.order n).filter fun k => decide (k.1.tenant = t)

/-- The board of one tenant alone. -/
def only (b : SignalBoard) (t : Tenant) : SignalBoard where
  tallies := b.tallies.filter fun k _ => decide (k.1.tenant = t)
  requests := b.requestsOf t
  order := b.orderOf t
  collections := b.collections

theorem only_eq {b' : SignalBoard} (htallies : b.talliesOf t = b'.talliesOf t)
    (hrequests : b.requestsOf t = b'.requestsOf t) (horder : b.orderOf t = b'.orderOf t)
    (hcollections : b.collections = b'.collections) : b.only t = b'.only t := by
  have h : b.tallies.filter (fun k _ => decide (k.1.tenant = t))
      = b'.tallies.filter fun k _ => decide (k.1.tenant = t) := Keyed.ext htallies
  rw [only, only, h, hrequests, horder, hcollections]

theorem talliesOf_only : (b.only t).talliesOf t = b.talliesOf t := by
  simp [only, talliesOf, Keyed.filter]

theorem requestsOf_only : (b.only t).requestsOf t = b.requestsOf t := by
  simp [only, requestsOf]

theorem orderOf_only : (b.only t).orderOf t = b.orderOf t := by
  funext n
  simp [only, orderOf]

theorem get?_only {k : AgentNode × SlowEndpoint} (hk : k.1.tenant = t) :
    (b.only t).tallies.get? k = b.tallies.get? k := by
  have h := Keyed.lookup_filter (fun j : AgentNode × SlowEndpoint => decide (j.1.tenant = t)) k
    b.tallies.entries
  rw [if_pos (decide_eq_true hk)] at h
  exact h

theorem talliesOf_add (b : SignalBoard) (x : Signal) (t : Tenant) :
    (b.add x).talliesOf t = if x.tenant = t
      then Keyed.put (x.node, x.endpoint)
        (((b.tallies.get? (x.node, x.endpoint)).getD {}).observe x.trace.isProfiled) (b.talliesOf t)
      else b.talliesOf t := by
  have h := Keyed.filter_put (fun j : AgentNode × SlowEndpoint => decide (j.1.tenant = t))
    (x.node, x.endpoint)
    (((b.tallies.get? (x.node, x.endpoint)).getD {}).observe x.trace.isProfiled) b.tallies.entries
  have hnode : x.node.tenant = x.tenant := rfl
  simp only [hnode, decide_eq_true_eq] at h
  exact h

theorem requestsOf_add (b : SignalBoard) (x : Signal) (t : Tenant) :
    (b.add x).requestsOf t
      = b.requestsOf t ++ if x.tenant = t ∧ x.needProfile then [(x.node, x.request)] else [] := by
  by_cases ht : x.tenant = t <;> cases hneed : x.needProfile <;>
    simp [add, requestsOf, Signal.node, ht, hneed]

theorem only_add {x : Signal} (hx : x.tenant = t) :
    (b.add x).only t = ((b.only t).add x).only t := by
  refine only_eq ?_ ?_ orderOf_only.symm rfl
  · have hget := get?_only (b := b) (t := t) (k := (x.node, x.endpoint)) hx
    rw [talliesOf_add, talliesOf_add, talliesOf_only, hget]
  · rw [requestsOf_add, requestsOf_add, requestsOf_only]

theorem only_add_of_ne {x : Signal} (hx : x.tenant ≠ t) : (b.add x).only t = b.only t := by
  refine only_eq ?_ ?_ rfl rfl
  · rw [talliesOf_add, if_neg hx]
  · simp [requestsOf_add, hx]

theorem endpointsOf_only {n : AgentNode} (hn : n.tenant = t) :
    (b.only t).endpointsOf n = b.endpointsOf n := by
  refine filterMap_filter_of_imp (fun x hx => if_neg fun h => ?_) b.tallies.entries
  exact of_decide_eq_false hx (h ▸ hn)

theorem query_only {n : AgentNode} (hn : n.tenant = t) :
    ((b.only t).query n).1 = (b.query n).1 := by
  simp only [query, endpointsOf_only hn]

theorem talliesOf_query (b : SignalBoard) (n : AgentNode) (t : Tenant) :
    (b.query n).2.talliesOf t
      = (b.talliesOf t).map fun x => (x.1, if x.1.1 = n then x.2.check.2 else x.2) := by
  have hentries : (b.query n).2.tallies.entries = b.tallies.entries.map fun x =>
      (x.1, if x.1.1 = n then x.2.check.2 else x.2) := rfl
  rw [talliesOf, hentries, List.filter_map]
  rfl

theorem only_query (b : SignalBoard) (n : AgentNode) (t : Tenant) :
    (b.query n).2.only t = ((b.only t).query n).2.only t := by
  refine only_eq ?_ ?_ orderOf_only.symm rfl
  · rw [talliesOf_query, talliesOf_query, talliesOf_only]
  · exact requestsOf_only.symm

theorem only_query_of_ne {n : AgentNode} (hn : n.tenant ≠ t) :
    (b.query n).2.only t = b.only t := by
  refine only_eq ?_ rfl rfl rfl
  rw [talliesOf_query]
  refine (List.map_congr_left fun x hx => ?_).trans (List.map_id _)
  have htenant : x.1.1.tenant = t := of_decide_eq_true (List.mem_filter.mp hx).2
  have hne : x.1.1 ≠ n := fun h => hn (h ▸ htenant)
  rw [if_neg hne]
  rfl

theorem take_only {n : AgentNode} (hn : n.tenant = t) :
    ((b.only t).take n).1 = (b.take n).1 := by
  refine filterMap_filter_of_imp (fun x hx => if_neg fun h => ?_) b.requests
  exact of_decide_eq_false hx (h ▸ hn)

theorem requestsOf_take (b : SignalBoard) (n : AgentNode) (t : Tenant) :
    (b.take n).2.requestsOf t = (b.requestsOf t).filter fun r => decide (r.1 ≠ n) :=
  List.filter_comm _ _ _

theorem only_take (b : SignalBoard) (n : AgentNode) (t : Tenant) :
    (b.take n).2.only t = ((b.only t).take n).2.only t := by
  refine only_eq talliesOf_only.symm ?_ orderOf_only.symm rfl
  rw [requestsOf_take, requestsOf_take, requestsOf_only]

theorem only_take_of_ne {n : AgentNode} (hn : n.tenant ≠ t) : (b.take n).2.only t = b.only t := by
  refine only_eq rfl ?_ rfl rfl
  rw [requestsOf_take, List.filter_eq_self]
  intro x hx
  have htenant : x.1.tenant = t := of_decide_eq_true (List.mem_filter.mp hx).2
  exact decide_eq_true fun h => hn (h ▸ htenant)

/-- A collection meets the tallies of a tenant in the order that the tenant's own order gives. -/
theorem talliesOf_visited_only : (b.only t).visited.talliesOf t = b.visited.talliesOf t := by
  have harrange := Keyed.filter_arrange (fun k : AgentNode × SlowEndpoint =>
    decide (k.1.tenant = t)) (b.order b.collections) b.tallies
  have hvisited : (b.only t).visited.tallies
      = b.visited.tallies.filter fun k _ => decide (k.1.tenant = t) := harrange.symm
  rw [talliesOf, hvisited, talliesOf, Keyed.filter, List.filter_filter]
  simp only [Bool.and_self]

theorem metricsOf_visited_only (now : UInt64) :
    (b.only t).visited.metricsOf now t = b.visited.metricsOf now t := by
  rw [metricsOf_eq, metricsOf_eq, countedOf, countedOf, talliesOf_visited_only]

theorem only_collect (b : SignalBoard) (now : UInt64) (t : Tenant) :
    (b.collect now).2.only t = ((b.only t).collect now).2.only t :=
  only_eq rfl requestsOf_only.symm orderOf_only.symm rfl

/-- The metrics of a tenant are those of its group, if it has one. -/
theorem flatMap_group (b : SignalBoard) (now : UInt64) (t : Tenant) :
    ((b.groups now).filter fun g => decide (g.1 = t)).flatMap Prod.snd = b.metricsOf now t := by
  have hone := flatMap_filter (fun u => decide (u = t)) (b.metricsOf now) b.tenants
  simp only [decide_eq_true_eq] at hone
  rw [flatMap_groups b now (· = t), hone, List.filter_eq]
  by_cases ht : t ∈ b.tenants
  · rw [List.count_eq_one_of_mem b.nodup_tenants ht]
    simp
  · rw [List.count_eq_zero_of_not_mem ht, metricsOf_of_not_mem ht]
    rfl

/-- The metrics of a tenant in a collection. -/
theorem flatMap_collect (b : SignalBoard) (now : UInt64) (t : Tenant) :
    ((b.collect now).1.filter fun g => decide (g.1 = t)).flatMap Prod.snd
      = (b.only t).visited.metricsOf now t :=
  (b.visited.flatMap_group now t).trans (metricsOf_visited_only now).symm

theorem metricsOf_visited_of_empty (h : b.tallies = .empty) (now : UInt64) (t : Tenant) :
    b.visited.metricsOf now t = [] := by
  have hnone : b.metricsOf now t = [] := by
    rw [metricsOf, h]
    rfl
  exact (hnone ▸ b.metricsOf_visited_perm now t).eq_nil

end SignalBoard

/-! ### What is held of a tenant -/

/-- In which order each collection visits what is counted of a tenant's signals. -/
def Environment.tallyOrderOf (env : Environment) (t : Tenant) (n : Nat) :
    List (AgentNode × SlowEndpoint) :=
  (env.tallyOrder n).filter fun k => decide (k.1.tenant = t)

/-- The events that wait in a tenant's cache, and what is known of its signals. -/
structure Holding where
  pending : List Event := []
  board : SignalBoard := {}

namespace Holding

/-- What an operation of the tenant, or of nobody, makes of what is held of the tenant. -/
def after (t : Tenant) (h : Holding) : Operation → Holding
  | .append _ _ es => { h with pending := h.pending ++ es }
  | .addSignal x => { h with board := (h.board.add x).only t }
  | .querySwitches _ ip => { h with board := (h.board.query ⟨t, ip⟩).2.only t }
  | .takeRequests _ ip => { h with board := (h.board.take ⟨t, ip⟩).2.only t }
  | .collect now =>
    { pending := h.pending ++ (h.board.visited.metricsOf now t).map .reportMetric
      board := (h.board.collect now).2.only t }
  | .flush => { h with pending := [] }
  | _ => h

/-- Whether nothing is held: no events, and nothing counted of signals. -/
structure IsEmpty (h : Holding) : Prop where
  pending : h.pending = []
  tallies : h.board.tallies = .empty

/-- Nothing comes of nothing if nobody does anything. -/
theorem IsEmpty.after {h : Holding} (hempty : h.IsEmpty) {x : Operation} (hx : x.tenant? = none)
    (t : Tenant) : (h.after t x).IsEmpty := by
  cases x with
  | append | addSignal | querySwitches | takeRequests | storeTrace => cases hx
  | collect now =>
    refine ⟨?_, rfl⟩
    rw [Holding.after, hempty.pending, SignalBoard.metricsOf_visited_of_empty hempty.tallies]
    rfl
  | flush => exact ⟨rfl, hempty.tallies⟩
  | _ => exact hempty

/-- The answer to an operation of the tenant. -/
def answer (t : Tenant) (h : Holding) : Operation → Answer
  | .querySwitches _ ip => .switches (h.board.query ⟨t, ip⟩).1
  | .takeRequests _ ip => .requests (h.board.take ⟨t, ip⟩).1
  | _ => .done

end Holding

namespace Ingestor

def holding (s : Ingestor MemoryStore) (t : Tenant) : Holding :=
  ⟨s.registry.pending t, s.signals.only t⟩

/-- A service for many tenants, in front of a store that makes databases and keeps batches. -/
structure ServesMany (settings : Settings) (s : Ingestor MemoryStore) : Prop where
  enabled : settings.tenancy.enabled = true
  settings_eq : s.settings = settings
  clickhouse_eq : s.registry.settings = settings.clickhouse
  multiTenant : s.registry.multiTenant = true
  recording : s.sink.Recording

/-- What an operation does to what is held of each tenant, and what it answers. -/
structure Moves (settings : Settings) (s : Ingestor MemoryStore) (x : Operation) : Prop where
  serves : ServesMany settings (s.perform x).2
  holding : ∀ t, (s.perform x).2.holding t
    = if x.concerns t then (s.holding t).after t x else s.holding t
  answer : ∀ t, x.tenant? = some t → (s.perform x).1 = (s.holding t).answer t x

/-- What an operation that is no flush does to the store. -/
structure Keeps (s : Ingestor MemoryStore) (x : Operation) : Prop where
  failing : (s.perform x).2.sink.store.failing = x.failing s.sink.store.failing
  batches : (s.perform x).2.sink.store.batches = s.sink.store.batches

variable {settings : Settings} {env : Environment} {s : Ingestor MemoryStore}

namespace ServesMany

theorem scope_eq (h : ServesMany settings s) (t : Tenant) : s.registry.scope t = t :=
  Registry.scope_of_many h.multiTenant t

theorem databaseFor_eq (h : ServesMany settings s) (t : Tenant) :
    s.registry.databaseFor t = settings.databaseOf t :=
  Registry.databaseFor_eq_databaseOf h.clickhouse_eq (h.multiTenant.trans h.enabled.symm) t

end ServesMany

theorem servesMany_new (h : settings.tenancy.enabled = true) :
    ServesMany settings (.new settings {} env) :=
  ⟨h, rfl, rfl, h, StatementCache.filed_empty _, rfl, rfl⟩

/-- A new service holds nothing of a tenant but the order in which its tallies will be met. -/
theorem holding_new (settings : Settings) (env : Environment) (t : Tenant) :
    (new settings {} env).holding t = ⟨[], { order := env.tallyOrderOf t }⟩ := by
  rw [holding]
  exact congrArg (Holding.mk · _) (Registry.pending_empty _ _ _ t)

/-- What deposits of events, and signals that are known afterwards, make of a service. -/
structure Deposited (s s' : Ingestor MemoryStore) (groups : List (Tenant × List Event))
    (signals : SignalBoard) : Prop where
  settings : s'.settings = s.settings
  registry : s.registry.Receives s'.registry groups
  signals : s'.signals = signals
  statements : s'.sink.statements = s.sink.statements
  store : ∃ made, s'.sink.store = { s.sink.store with initialized := made }

namespace Deposited

variable {s' : Ingestor MemoryStore} {groups : List (Tenant × List Event)} {signals : SignalBoard}

theorem serves (hd : s.Deposited s' groups signals) (h : ServesMany settings s) :
    ServesMany settings s' := by
  obtain ⟨made, hstore⟩ := hd.store
  refine ⟨h.enabled, hd.settings.trans h.settings_eq, hd.registry.settings.trans h.clickhouse_eq,
    hd.registry.multiTenant.trans h.multiTenant, ?_, ?_, ?_⟩
  · rw [hd.statements]; exact h.recording.filed
  · rw [hstore]; exact h.recording.keeps
  · rw [hstore]; exact h.recording.makes

theorem holding_eq (hd : s.Deposited s' groups signals) (h : ServesMany settings s) (t : Tenant) :
    s'.holding t = ⟨s.registry.pending t
      ++ (groups.filter fun g => decide (g.1 = t)).flatMap Prod.snd, signals.only t⟩ := by
  rw [holding, hd.registry.pending, hd.signals]
  simp only [h.scope_eq]

theorem failing_eq (hd : s.Deposited s' groups signals) :
    s'.sink.store.failing = s.sink.store.failing := by
  obtain ⟨made, hstore⟩ := hd.store
  rw [hstore]

theorem batches_eq (hd : s.Deposited s' groups signals) :
    s'.sink.store.batches = s.sink.store.batches := by
  obtain ⟨made, hstore⟩ := hd.store
  rw [hstore]

end Deposited

namespace ServesMany

theorem deposited_append (h : ServesMany settings s) (t : Tenant) (k : Kind) (es : List Event) :
    ∃ s', s.perform (.append t k es) = (.done, s') ∧ s.Deposited s' [(t, es)] s.signals := by
  by_cases hes : es = []
  · subst hes
    refine ⟨s, rfl, rfl, ⟨rfl, rfl, fun u => ?_, rfl⟩, rfl, rfl, _, rfl⟩
    by_cases hu : s.registry.scope t = s.registry.scope u <;> simp [hu]
  · obtain ⟨s', hdeposit, hstore, hreceives, r, store, hs'⟩ :=
      deposit_of_makes (MemoryStore.makes_databases h.recording.makes) ⟨_, rfl⟩ t es
    refine ⟨s'.countAppended k es.length, by simp [perform, Ingestor.append, hes, hdeposit], ?_⟩
    have hsettings : s'.settings = s.settings := by rw [hs']
    have hsignals : s'.signals = s.signals := by rw [hs']
    have hstatements : s'.sink.statements = s.sink.statements := by rw [hs']
    exact ⟨hsettings, hreceives, hsignals, hstatements, hstore⟩

theorem deposited_collect (h : ServesMany settings s) (now : UInt64) :
    ∃ n s', s.perform (.collect now) = (.collected n, s') ∧
      s.Deposited s' ((s.signals.collect now).1.map metricEvents) (s.signals.collect now).2 := by
  obtain ⟨s', hcollect, hstore, hreceives, r, store, counters, hs'⟩ :=
    collect_of_makes (MemoryStore.makes_databases h.recording.makes) ⟨_, rfl⟩ now
  have hsettings : s'.settings = s.settings := by rw [hs']
  have hsignals : s'.signals = (s.signals.collect now).2 := by rw [hs']
  have hstatements : s'.sink.statements = s.sink.statements := by rw [hs']
  exact ⟨_, s', by rw [perform, hcollect], hsettings, hreceives, hsignals, hstatements, hstore⟩

theorem append (h : ServesMany settings s) (t : Tenant) (k : Kind) (es : List Event) :
    s.Moves settings (.append t k es) ∧ s.Keeps (.append t k es) := by
  obtain ⟨s', hperform, hd⟩ := h.deposited_append t k es
  refine ⟨⟨?_, fun u => ?_, fun _ _ => ?_⟩, ?_, ?_⟩
  · rw [hperform]; exact hd.serves h
  · rw [hperform, hd.holding_eq h, Operation.concerns_of_some rfl]
    by_cases hu : t = u <;> simp [hu, Holding.after, holding]
  · rw [hperform]; rfl
  · rw [hperform]; exact hd.failing_eq
  · rw [hperform]; exact hd.batches_eq

theorem collect (h : ServesMany settings s) (now : UInt64) :
    s.Moves settings (.collect now) ∧ s.Keeps (.collect now) := by
  obtain ⟨n, s', hperform, hd⟩ := h.deposited_collect now
  refine ⟨⟨?_, fun t => ?_, fun _ ht => ?_⟩, ?_, ?_⟩
  · rw [hperform]; exact hd.serves h
  · rw [hperform, hd.holding_eq h, Operation.concerns_of_none rfl, if_pos rfl,
      flatMap_metricEvents _ (· = t), SignalBoard.flatMap_collect, SignalBoard.only_collect]
    rfl
  · cases ht
  · rw [hperform]; exact hd.failing_eq
  · rw [hperform]; exact hd.batches_eq

theorem flush (h : ServesMany settings s) : s.Moves settings .flush := by
  obtain ⟨hrecording, -⟩ := Sink.flush_memory h.recording
    s.settings.clickhouse.exportServiceClient s.registry.snapshot
  refine ⟨⟨h.enabled, h.settings_eq, h.clickhouse_eq, h.multiTenant, hrecording⟩, fun t => ?_,
    fun t ht => ?_⟩
  · have hdrained : (s.perform .flush).2.registry.pending t = [] := Registry.pending_drained _ t
    rw [Operation.concerns_of_none rfl, if_pos rfl, holding, hdrained]
    rfl
  · cases ht

/-- A tenant's operation that is about its signals only. -/
theorem moves_of_signals (h : ServesMany settings s) {x : Operation} {t : Tenant}
    (hx : x.tenant? = some t) {signals : SignalBoard} {answer : Answer}
    (hperform : s.perform x = (answer, { s with signals }))
    (hown : (s.holding t).after t x = ⟨s.registry.pending t, signals.only t⟩)
    (hother : ∀ u, t ≠ u → signals.only u = s.signals.only u)
    (hanswer : answer = (s.holding t).answer t x) :
    s.Moves settings x ∧ s.Keeps x := by
  refine ⟨⟨?_, fun u => ?_, fun u hu => ?_⟩, ?_⟩
  · rw [hperform]
    exact ⟨h.enabled, h.settings_eq, h.clickhouse_eq, h.multiTenant, h.recording⟩
  · rw [hperform, Operation.concerns_of_some hx]
    by_cases ht : t = u
    · subst ht
      rw [decide_eq_true rfl, if_pos rfl, hown]
      rfl
    · rw [decide_eq_false ht, if_neg Bool.false_ne_true]
      exact congrArg _ (hother u ht)
  · obtain rfl := Option.some.inj (hx.symm.trans hu)
    rw [hperform, hanswer]
  · exact ⟨by rw [hperform, Operation.failing_of_some hx], by rw [hperform]⟩

theorem addSignal (h : ServesMany settings s) (x : Signal) :
    s.Moves settings (.addSignal x) ∧ s.Keeps (.addSignal x) := by
  have hperform : s.perform (.addSignal x) = (.done, { s with signals := s.signals.add x }) := by
    simp [perform, Ingestor.addSignal, scope, h.scope_eq]
  exact h.moves_of_signals rfl hperform (congrArg _ (SignalBoard.only_add rfl).symm)
    (fun _ hu => SignalBoard.only_add_of_ne hu) rfl

theorem querySwitches (h : ServesMany settings s) (t : Tenant) (ip : String) :
    s.Moves settings (.querySwitches t ip) ∧ s.Keeps (.querySwitches t ip) := by
  have hperform : s.perform (.querySwitches t ip) = (.switches (s.signals.query ⟨t, ip⟩).1,
      { s with signals := (s.signals.query ⟨t, ip⟩).2 }) := by
    simp [perform, Ingestor.querySwitches, scope, h.scope_eq]
  exact h.moves_of_signals rfl hperform (congrArg _ (SignalBoard.only_query _ _ _).symm)
    (fun _ hu => SignalBoard.only_query_of_ne hu) (congrArg _ (SignalBoard.query_only rfl).symm)

theorem takeRequests (h : ServesMany settings s) (t : Tenant) (ip : String) :
    s.Moves settings (.takeRequests t ip) ∧ s.Keeps (.takeRequests t ip) := by
  have hperform : s.perform (.takeRequests t ip) = (.requests (s.signals.take ⟨t, ip⟩).1,
      { s with signals := (s.signals.take ⟨t, ip⟩).2 }) := by
    simp [perform, Ingestor.takeRequests, scope, h.scope_eq]
  exact h.moves_of_signals rfl hperform (congrArg _ (SignalBoard.only_take _ _ _).symm)
    (fun _ hu => SignalBoard.only_take_of_ne hu) (congrArg _ (SignalBoard.take_only rfl).symm)

/-- An operation that neither caches nor signals take part in. -/
theorem moves_aside (h : ServesMany settings s) {x : Operation}
    (hsettings : (s.perform x).2.settings = s.settings)
    (hregistry : (s.perform x).2.registry = s.registry)
    (hsignals : (s.perform x).2.signals = s.signals)
    (hrecording : (s.perform x).2.sink.Recording)
    (hafter : ∀ t, (s.holding t).after t x = s.holding t)
    (hanswer : ∀ t, x.tenant? = some t → (s.perform x).1 = (s.holding t).answer t x) :
    s.Moves settings x := by
  refine ⟨⟨h.enabled, hsettings.trans h.settings_eq, ?_, ?_, hrecording⟩, fun t => ?_, hanswer⟩
  · rw [hregistry]; exact h.clickhouse_eq
  · rw [hregistry]; exact h.multiTenant
  · rw [hafter, ite_self, holding, hregistry, hsignals]
    rfl

/-- What an operation does to what is held, one case for each operation. -/
theorem moves (h : ServesMany settings s) : ∀ x, x ≠ .failInit true → s.Moves settings x
  | .append t k es, _ => (h.append t k es).1
  | .addSignal x, _ => (h.addSignal x).1
  | .querySwitches t ip, _ => (h.querySwitches t ip).1
  | .takeRequests t ip, _ => (h.takeRequests t ip).1
  | .collect now, _ => (h.collect now).1
  | .flush, _ => h.flush
  | .storeTrace _ _, _ => h.moves_aside rfl rfl rfl h.recording (fun _ => rfl) fun _ _ => rfl
  | .traceTenant _, _ => h.moves_aside rfl rfl rfl h.recording (fun _ => rfl) fun _ ht => nomatch ht
  | .sweep, _ => h.moves_aside rfl rfl rfl
      ⟨h.recording.filed.evictIdle _, h.recording.keeps, h.recording.makes⟩
      (fun _ => rfl) fun _ ht => nomatch ht
  | .wait _, _ => h.moves_aside rfl rfl rfl
      ⟨h.recording.filed, h.recording.keeps, h.recording.makes⟩
      (fun _ => rfl) fun _ ht => nomatch ht
  | .failTable _ _, _ => h.moves_aside rfl rfl rfl
      ⟨h.recording.filed, h.recording.keeps, h.recording.makes⟩
      (fun _ => rfl) fun _ ht => nomatch ht
  | .failInit false, _ => h.moves_aside rfl rfl rfl
      ⟨h.recording.filed, h.recording.keeps, rfl⟩
      (fun _ => rfl) fun _ ht => nomatch ht
  | .failInit true, hx => absurd rfl hx

/-- Nothing but a flush writes. -/
theorem keeps (h : ServesMany settings s) : ∀ x, x ≠ .flush → s.Keeps x
  | .append t k es, _ => (h.append t k es).2
  | .addSignal x, _ => (h.addSignal x).2
  | .querySwitches t ip, _ => (h.querySwitches t ip).2
  | .takeRequests t ip, _ => (h.takeRequests t ip).2
  | .collect now, _ => (h.collect now).2
  | .storeTrace _ _, _ | .traceTenant _, _ | .sweep, _ | .wait _, _ | .failTable _ _, _
  | .failInit _, _ => ⟨rfl, rfl⟩
  | .flush, hx => absurd rfl hx

end ServesMany

end Ingestor

end Ingest
