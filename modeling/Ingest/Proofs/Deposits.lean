import Ingest.Proofs.CacheBatches

/-!
What is put into the caches where databases can be made. Main statements: events that are deposited
end up in the cache of their tenant and nowhere else, also when a collection deposits the metrics of
many tenants at once; and as many more events wait as were deposited.
-/

namespace Ingest

variable {σ : Type} {b : Backend σ} {ready : σ → Prop}

/-- Whether a store that is ready makes every database, and stays ready. -/
def Backend.Makes (b : Backend σ) (ready : σ → Prop) : Prop :=
  ∀ s database, ready s → ∃ s', b.initDatabase s database = (.ok (), s') ∧ ready s'

/-- Making databases changes nothing else in a memory store. -/
theorem MemoryStore.makes_databases {s : MemoryStore} (h : s.initFails = false) :
    backend.Makes fun s' => ∃ made, s' = { s with initialized := made } := by
  rintro _ database ⟨made, rfl⟩
  exact ⟨_, by simp [backend, initDatabase, h], made ++ [database], rfl⟩

namespace Registry

/-- How many events wait, in all caches together. -/
def waiting (r : Registry) : Nat := (r.caches.entries.map fun e => e.2.length).sum

/-- How many of the events that wait satisfy `p`. -/
def countWaiting (r : Registry) (p : Event → Bool) : Nat :=
  (r.caches.entries.map fun e => e.2.countP p).sum

theorem countWaiting_append (r : Registry) (t : Tenant) (es : List Event) (p : Event → Bool) :
    (r.append t es).countWaiting p = r.countWaiting p + es.countP p := by
  refine Keyed.sum_alter (fun e => e.2.countP p) r.caches (r.scope t) _ ?_
  cases r.caches.get? (r.scope t) <;> simp

/-- A cache that is made is empty. -/
theorem countWaiting_insert {r : Registry} {t : Tenant} (h : t ∉ r.caches.keys)
    (p : Event → Bool) :
    { r with caches := r.caches.insert t [] }.countWaiting p = r.countWaiting p := by
  have hnone : Keyed.lookup t r.caches.entries = none := by
    simpa [Keyed.contains, Keyed.get?] using Keyed.contains_eq_false_iff.mpr h
  have hsum := Keyed.sum_put (fun e => e.2.countP p) t [] r.caches.entries
  rw [hnone] at hsum
  exact hsum

/-- What waits is counted alike in whatever order the caches are met. -/
theorem countP_listed (r : Registry) (order : List Tenant) (p : Event → Bool) :
    ((r.listed order).flatMap (·.pending)).countP p = r.countWaiting p := by
  rw [listed, List.flatMap_map, List.countP_flatMap]
  exact ((r.caches.entries_arrange_perm order).map fun e => e.2.countP p).sum_nat

theorem waiting_eq (r : Registry) : r.waiting = r.countWaiting fun _ => true := by
  simp [waiting, countWaiting]

/-- What deposits of events make of a registry: the events of each tenant come after those that
waited in its cache. -/
structure Receives (r r' : Registry) (groups : List (Tenant × List Event)) : Prop where
  settings : r'.settings = r.settings
  multiTenant : r'.multiTenant = r.multiTenant
  pending : ∀ t, r'.pending t = r.pending t
    ++ (groups.filter fun g => decide (r.scope g.1 = r.scope t)).flatMap Prod.snd
  waiting : r'.waiting = r.waiting + (groups.map fun g => g.2.length).sum

theorem Receives.refl (r : Registry) : r.Receives r [] :=
  ⟨rfl, rfl, by simp, rfl⟩

theorem Receives.trans {r r' r'' : Registry} {gs hs : List (Tenant × List Event)}
    (h : r.Receives r' gs) (h' : r'.Receives r'' hs) : r.Receives r'' (gs ++ hs) where
  settings := h'.settings.trans h.settings
  multiTenant := h'.multiTenant.trans h.multiTenant
  pending t := by
    have hscope (u : Tenant) : r'.scope u = r.scope u := by simp [scope, h.multiTenant]
    rw [h'.pending, h.pending]
    simp only [hscope, List.filter_append, List.flatMap_append, List.append_assoc]
  waiting := by
    rw [h'.waiting, h.waiting, List.map_append, List.sum_append_nat, Nat.add_assoc]

/-- A cache that is there is left alone, and one that is not is made empty. -/
theorem enroll_of_makes (hmakes : b.Makes ready) (r : Registry) (t : Tenant) {s : σ}
    (hs : ready s) :
    ∃ r' s', r.enroll b t s = (.ok r', s') ∧ ready s' ∧ r.Receives r' [] := by
  obtain ⟨made, hmake, hmade⟩ := hmakes s (r.databaseFor t) hs
  rcases r.enroll_cases b t s with
    ⟨-, heq⟩ | ⟨-, hnew, ⟨cause, s', hinit, -⟩ | ⟨s', hinit, heq⟩⟩
  · exact ⟨r, s, heq, hs, .refl r⟩
  · rw [hmake] at hinit
    cases hinit
  · obtain rfl := (Prod.mk.inj (hmake.symm.trans hinit)).2
    refine ⟨_, made, heq, hmade, rfl, rfl, fun u => ?_, ?_⟩
    · rw [pending_insert hnew]
      simp
    · rw [waiting_eq, countWaiting_insert hnew, ← waiting_eq]
      rfl

theorem receives_append (r : Registry) (t : Tenant) (es : List Event) :
    r.Receives (r.append t es) [(t, es)] where
  settings := rfl
  multiTenant := rfl
  pending u := by
    rw [pending_append]
    by_cases h : r.scope t = r.scope u <;> simp [h]
  waiting := by simp [waiting_eq, countWaiting_append]

end Registry

namespace Ingestor

variable {s : Ingestor σ}

/-- What deposits of events make of a service. -/
structure Receives (ready : σ → Prop) (s s' : Ingestor σ) (groups : List (Tenant × List Event)) :
    Prop where
  ready : ready s'.sink.store
  registry : s.registry.Receives s'.registry groups
  rest : ∃ registry store, s' = { s with registry, sink := { s.sink with store } }

theorem deposit_of_makes (hmakes : b.Makes ready) (hs : ready s.sink.store) (t : Tenant)
    (es : List Event) :
    ∃ s', s.deposit b t es = (.ok (), s') ∧ s.Receives ready s' [(t, es)] := by
  obtain ⟨r, store, henroll, hstore, hr⟩ := s.registry.enroll_of_makes hmakes t hs
  refine ⟨{ s with registry := r.append t es, sink := { s.sink with store } }, ?_, hstore, ?_,
    _, _, rfl⟩
  · simp [deposit, openCache, henroll]
  · simpa using hr.trans (r.receives_append t es)

/-- An invariant that deposits keep, and that is not about signals or about what the service counts of
itself. -/
structure KeptByDeposits (b : Backend σ) (P : Ingestor σ → Prop) : Prop where
  deposit : ∀ {s}, P s → ∀ t es, P (s.deposit b t es).2
  rest : ∀ {s}, P s → ∀ signals counters, P { s with signals, counters }

namespace KeptByDeposits

variable {P : Ingestor σ → Prop}

theorem append (hP : KeptByDeposits b P) (hs : P s) (t : Tenant) (k : Kind) (es : List Event) :
    P (s.append b t k es).2 := by
  rw [Ingestor.append]
  split
  · exact hs
  · have hdeposit := hP.deposit hs t es
    cases hx : s.deposit b t es with
    | mk answer s' =>
      rw [hx] at hdeposit
      cases answer with
      | error e => exact hdeposit
      | ok _ => exact hP.rest hdeposit _ _

theorem depositMetrics (hP : KeptByDeposits b P) : ∀ (groups : List (Tenant × List ReportMetric))
    {s : Ingestor σ}, P s → P (s.depositMetrics b groups).2
  | [], _, hs => hs
  | (t, ms) :: groups, s, hs => by
    rw [Ingestor.depositMetrics]
    have hdeposit := hP.deposit hs t (ms.map .reportMetric)
    cases hx : s.deposit b t (ms.map .reportMetric) with
    | mk answer s' =>
      rw [hx] at hdeposit
      cases answer with
      | error e => exact hdeposit
      | ok _ => exact depositMetrics hP groups hdeposit

theorem collect (hP : KeptByDeposits b P) (hs : P s) (now : UInt64) : P (s.collect b now).2 := by
  have hdeposit := hP.depositMetrics (s.signals.collect now).1
    (hP.rest hs (s.signals.collect now).2 s.counters)
  rw [Ingestor.collect]
  dsimp only
  cases hx : Ingestor.depositMetrics b { s with signals := (s.signals.collect now).2 }
      (s.signals.collect now).1 with
  | mk answer s' =>
    rw [hx] at hdeposit
    cases answer with
    | error e => exact hdeposit
    | ok _ =>
      dsimp only
      split
      · exact hP.rest hdeposit _ _
      · exact hdeposit

end KeptByDeposits

/-- The metrics of a group as events. -/
def metricEvents (g : Tenant × List ReportMetric) : Tenant × List Event :=
  (g.1, g.2.map .reportMetric)

/-- The events that groups put into the caches of some tenants are their metrics. -/
theorem flatMap_metricEvents (groups : List (Tenant × List ReportMetric)) (p : Tenant → Prop)
    [DecidablePred p] :
    ((groups.map metricEvents).filter fun g => decide (p g.1)).flatMap Prod.snd
      = ((groups.filter fun g => decide (p g.1)).flatMap Prod.snd).map .reportMetric := by
  rw [List.filter_map, List.flatMap_map, List.map_flatMap]
  rfl

theorem depositMetrics_of_makes (hmakes : b.Makes ready) :
    ∀ (groups : List (Tenant × List ReportMetric)) {s : Ingestor σ}, ready s.sink.store →
      ∃ s', s.depositMetrics b groups = (.ok (), s') ∧ s.Receives ready s' (groups.map metricEvents)
  | [], s, hs => ⟨s, rfl, hs, .refl _, _, _, rfl⟩
  | (t, ms) :: groups, s, hs => by
    obtain ⟨s₁, hdeposit, hready, hfirst, r₁, store₁, heq₁⟩ :=
      deposit_of_makes hmakes hs t (ms.map .reportMetric)
    obtain ⟨s₂, hrest, hready₂, hregistry, r₂, store₂, heq₂⟩ :=
      depositMetrics_of_makes hmakes groups hready
    refine ⟨s₂, by simp [depositMetrics, hdeposit, hrest], hready₂, ?_, r₂, store₂, ?_⟩
    · exact hfirst.trans hregistry
    · rw [heq₂, heq₁]

/-- A collection deposits everything counted, forgets it, and gives the number of metrics. -/
theorem collect_of_makes (hmakes : b.Makes ready) (hs : ready s.sink.store) (now : UInt64) :
    ∃ s', s.collect b now
        = (.ok ((s.signals.collect now).1.map fun g => g.2.length).sum, s') ∧
      ready s'.sink.store ∧
      s.registry.Receives s'.registry ((s.signals.collect now).1.map metricEvents) ∧
      ∃ registry store counters, s' = { s with
        registry, counters
        signals := (s.signals.collect now).2
        sink := { s.sink with store } } := by
  let groups := (s.signals.collect now).1
  let n := (groups.map fun g => g.2.length).sum
  obtain ⟨s₁, hdeposit, hready, hregistry, r, store, heq⟩ :=
    depositMetrics_of_makes hmakes groups (s := { s with signals := (s.signals.collect now).2 }) hs
  have hcollect : s.collect b now
      = (.ok n, if n > 0 then s₁.countAppended .reportMetric n else s₁) := by
    rw [collect]
    dsimp only
    rw [hdeposit]
  refine ⟨_, hcollect, ?_⟩
  split
  · exact ⟨hready, hregistry, r, store, (s₁.countAppended .reportMetric n).counters, by
      rw [heq]; rfl⟩
  · exact ⟨hready, hregistry, r, store, s.counters, heq⟩

end Ingestor

end Ingest
