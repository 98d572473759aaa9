import Mathlib.Algebra.BigOperators.Group.List.Basic
import Mathlib.Data.List.Nodup
import Ingest.Proofs.Histories
import Ingest.Signal

/-!
The metrics of one collection. Main statements: in whichever order a collection meets what is counted,
each tenant of which something is counted has one group; the metrics of a group are those of different
endpoints and nodes of its tenant; and what they count of an endpoint is just what its tallies hold.
-/

namespace Ingest

/-- The sum over a list is that over its parts, one for each key. -/
theorem sum_by_key {α β : Type} [DecidableEq β] (key : α → β) (f : α → Nat) {ks : List β}
    (hks : ks.Nodup) : ∀ xs : List α, (∀ x ∈ xs, key x ∈ ks) →
      (ks.map fun k => (xs.map fun x => if key x = k then f x else 0).sum).sum = (xs.map f).sum
  | [], _ => by simp
  | x :: xs, h => by
    obtain ⟨hx, hxs⟩ := List.forall_mem_cons.mp h
    have hfirst : (ks.map fun k => if key x = k then f x else 0).sum = f x := by
      rw [List.sum_map_eq_nsmul_single (key x) _ fun k hk _ => if_neg fun heq => hk heq.symm,
        List.count_eq_one_of_mem hks hx]
      simp
    simp only [List.map_cons, List.sum_cons, List.sum_map_add]
    rw [hfirst, sum_by_key key f hks xs hxs]

/-- The signal of a slow trace of one process, behind one entry. -/
def Signal.ofProcess (tenant : Tenant) (nodeIp : String) (pid : UInt32)
    (isProfiled needProfile : Bool) : Signal where
  tenant
  entryService := "shop"
  entryUrl := "/buy"
  needProfile
  trace :=
    { timestampNs := 0, traceId := "t", apmSpanId := "s", serviceName := "stock", url := "/stock",
      pid, tid := pid, containerId := "c", nodeName := "n", nodeIp, startTimeNs := 1,
      endTimeNs := 9, durationNs := 8, isSlow := true, isError := false, isProfiled,
      labels := .empty }

/-- The endpoint that a metric is about. -/
def ReportMetric.endpoint (m : ReportMetric) : SlowEndpoint :=
  ⟨m.entryService, m.entryUrl, m.mutatedService, m.mutatedPid, m.mutatedUrl⟩

/-- What signals are counted for. -/
inductive SignalCount where
  | total
  | success

namespace SignalCount

/-- How much a signal counts. -/
def ofSignal : SignalCount → Signal → Nat
  | total, _ => 1
  | success, x => if x.trace.isProfiled then 1 else 0

def ofTally : SignalCount → SignalTally → Nat
  | total, t => t.total
  | success, t => t.success

def ofMetric : SignalCount → ReportMetric → Nat
  | total, m => m.total
  | success, m => m.success

theorem ofTally_observe (c : SignalCount) (x : Signal) (t : SignalTally) :
    c.ofTally (t.observe x.trace.isProfiled) = c.ofTally t + c.ofSignal x := by
  cases c <;> rfl

/-- A check changes the status only. -/
theorem ofTally_check (c : SignalCount) (t : SignalTally) : c.ofTally t.check.2 = c.ofTally t := by
  cases c <;> rfl

end SignalCount

namespace SignalBoard

variable {b : SignalBoard} {now : UInt64}

/-- What is held of a tenant, by node and endpoint. -/
def talliesOf (b : SignalBoard) (t : Tenant) : List ((AgentNode × SlowEndpoint) × SignalTally) :=
  b.tallies.entries.filter fun x => decide (x.1.1.tenant = t)

/-- The tallies of a tenant in which something is counted. -/
def countedOf (b : SignalBoard) (t : Tenant) : List ((AgentNode × SlowEndpoint) × SignalTally) :=
  (b.talliesOf t).filter fun x => decide (x.2.total ≠ 0)

/-- What a tally says, as a metric. -/
def metricOf (now : UInt64) (e : SlowEndpoint) (t : SignalTally) : ReportMetric :=
  { timestampNs := now
    entryService := e.entryService
    entryUrl := e.entryUrl
    mutatedService := e.mutatedService
    mutatedPid := e.mutatedPid
    mutatedUrl := e.mutatedUrl
    total := t.total
    success := t.success }

/-- There is one metric for each tally in which something is counted. -/
theorem metricsOf_eq (b : SignalBoard) (now : UInt64) (t : Tenant) :
    b.metricsOf now t = (b.countedOf t).map fun x => metricOf now x.1.2 x.2 := by
  rw [metricsOf, countedOf, talliesOf, List.filter_filter, ← List.filterMap_eq_map,
    List.filterMap_filter]
  refine List.filterMap_congr fun x _ => ?_
  by_cases ht : x.1.1.tenant = t <;> by_cases hn : x.2.total = 0 <;>
    simp [metric?, metricOf, ht, hn]

theorem nodup_countedOf (b : SignalBoard) (t : Tenant) : ((b.countedOf t).map Prod.fst).Nodup :=
  b.tallies.nodup.sublist ((List.filter_sublist.trans List.filter_sublist).map _)

theorem of_mem_countedOf {t : Tenant} {x : (AgentNode × SlowEndpoint) × SignalTally}
    (h : x ∈ b.countedOf t) : x.1.1.tenant = t ∧ b.tallies.get? x.1 = some x.2 ∧ x.2.total ≠ 0 := by
  obtain ⟨hmem, htotal⟩ := List.mem_filter.mp h
  obtain ⟨hentry, htenant⟩ := List.mem_filter.mp hmem
  exact ⟨of_decide_eq_true htenant, Keyed.get?_eq_some_iff.mpr hentry, of_decide_eq_true htotal⟩

theorem nodup_tenants (b : SignalBoard) : b.tenants.Nodup := nodup_eraseDups _

theorem mem_tenants {x : (AgentNode × SlowEndpoint) × SignalTally} (h : x ∈ b.tallies.entries) :
    x.1.1.tenant ∈ b.tenants := by
  refine List.mem_eraseDups.mpr (List.mem_map.mpr ⟨x.1, ?_, rfl⟩)
  exact List.mem_map.mpr ⟨x, h, rfl⟩

/-! ### Groups -/

/-- A tenant has one group at most. -/
theorem nodup_groups (b : SignalBoard) (now : UInt64) : ((b.groups now).map Prod.fst).Nodup := by
  have hall : ((b.tenants.map fun t => (t, b.metricsOf now t)).map Prod.fst).Nodup := by
    rw [List.map_map]
    simpa [Function.comp_def] using b.nodup_tenants
  exact hall.sublist (List.filter_sublist.map _)

theorem metrics_of_mem_groups {g : Tenant × List ReportMetric} (h : g ∈ b.groups now) :
    g.2 = b.metricsOf now g.1 := by
  obtain ⟨hmem, -⟩ := List.mem_filter.mp h
  obtain ⟨t, -, rfl⟩ := List.mem_map.mp hmem
  rfl

/-- The metrics of some tenants. -/
theorem flatMap_groups (b : SignalBoard) (now : UInt64) (p : Tenant → Prop) [DecidablePred p] :
    ((b.groups now).filter fun g => decide (p g.1)).flatMap Prod.snd
      = b.tenants.flatMap fun t => if p t then b.metricsOf now t else [] := by
  rw [groups]
  generalize b.tenants = ts
  induction ts with
  | nil => rfl
  | cons t ts ih =>
    rw [List.flatMap_cons, ← ih]
    cases hm : b.metricsOf now t <;> by_cases hp : p t <;> simp [hm, hp]

theorem metricsOf_of_not_mem {t : Tenant} (h : t ∉ b.tenants) : b.metricsOf now t = [] := by
  have hnone : b.countedOf t = [] := by
    refine List.eq_nil_iff_forall_not_mem.mpr fun x hx => ?_
    obtain ⟨htenant, hget, -⟩ := of_mem_countedOf hx
    exact h (htenant ▸ mem_tenants (Keyed.get?_eq_some_iff.mp hget))
  rw [metricsOf_eq, hnone]
  rfl

/-! ### Sums -/

/-- Whether every tally has at most as many successes as triggers. -/
def Sound (b : SignalBoard) : Prop := ∀ x ∈ b.tallies.entries, x.2.success ≤ x.2.total

/-- What metrics count of an endpoint. -/
def counted (c : SignalCount) (e : SlowEndpoint) (ms : List ReportMetric) : Nat :=
  ((ms.filter fun m => decide (m.endpoint = e)).map c.ofMetric).sum

/-- What an entry of the board holds of an endpoint, if its tenant is one of some. -/
def share (c : SignalCount) (p : Tenant → Prop) [DecidablePred p] (e : SlowEndpoint)
    (x : (AgentNode × SlowEndpoint) × SignalTally) : Nat :=
  if p x.1.1.tenant ∧ x.1.2 = e then c.ofTally x.2 else 0

theorem counted_metricsOf (h : b.Sound) (c : SignalCount) (e : SlowEndpoint) (t : Tenant) :
    counted c e (b.metricsOf now t) = (b.tallies.entries.map (share c (· = t) e)).sum := by
  -- A tally without triggers gives no metric, but has nothing to be counted either.
  have hzero : ∀ x ∈ b.tallies.entries, x.2.total = 0 → c.ofTally x.2 = 0 := by
    intro x hx htotal
    have hle := h x hx
    cases c with
    | total => exact htotal
    | success => exact Nat.le_zero.mp (htotal ▸ hle)
  have hmetric (x : (AgentNode × SlowEndpoint) × SignalTally) :
      c.ofMetric (metricOf now x.1.2 x.2) = c.ofTally x.2 := by cases c <;> rfl
  have hendpoint (x : (AgentNode × SlowEndpoint) × SignalTally) :
      (metricOf now x.1.2 x.2).endpoint = x.1.2 := rfl
  rw [counted, metricsOf_eq, countedOf, talliesOf, List.filter_map, List.filter_filter,
    List.filter_filter, List.map_map]
  simp only [Function.comp_def, hmetric, hendpoint]
  generalize b.tallies.entries = es at hzero
  induction es with
  | nil => rfl
  | cons x es ih =>
    obtain ⟨hx, hes⟩ := List.forall_mem_cons.mp hzero
    rw [List.map_cons, List.sum_cons, ← ih hes, share]
    by_cases ht : x.1.1.tenant = t <;> by_cases he : x.1.2 = e <;>
      by_cases hn : x.2.total = 0 <;> simp [ht, he, hn, hx]

theorem counted_flatMap (c : SignalCount) (e : SlowEndpoint) {α : Type} (f : α → List ReportMetric)
    (xs : List α) : counted c e (xs.flatMap f) = (xs.map fun x => counted c e (f x)).sum := by
  induction xs with
  | nil => rfl
  | cons x xs ih => simpa [counted] using ih

/-- The groups count of an endpoint what the board holds of it, also for some tenants only. -/
theorem counted_groups (h : b.Sound) (c : SignalCount) (e : SlowEndpoint) (now : UInt64)
    (p : Tenant → Prop) [DecidablePred p] :
    counted c e (((b.groups now).filter fun g => decide (p g.1)).flatMap Prod.snd)
      = (b.tallies.entries.map (share c p e)).sum := by
  have hshare (t : Tenant) : counted c e (if p t then b.metricsOf now t else [])
      = (b.tallies.entries.map fun x => if x.1.1.tenant = t then share c p e x else 0).sum := by
    by_cases hp : p t
    · rw [if_pos hp, counted_metricsOf h]
      refine congrArg List.sum (List.map_congr_left fun x _ => ?_)
      by_cases ht : x.1.1.tenant = t <;> simp [share, ht, hp]
    · rw [if_neg hp]
      have hnone : ∀ x ∈ b.tallies.entries,
          (if x.1.1.tenant = t then share c p e x else 0) = 0 := by
        intro x _
        by_cases ht : x.1.1.tenant = t <;> simp [share, ht, hp]
      rw [List.map_congr_left hnone]
      simp [counted]
  rw [flatMap_groups, counted_flatMap]
  simp only [hshare]
  exact sum_by_key (fun x => x.1.1.tenant) (share c p e) b.nodup_tenants _
    fun x hx => mem_tenants hx

/-! ### Collections -/

theorem entries_visited_perm (b : SignalBoard) : b.visited.tallies.entries.Perm b.tallies.entries :=
  Keyed.entries_arrange_perm _ _

@[simp] theorem get?_visited (b : SignalBoard) (k : AgentNode × SlowEndpoint) :
    b.visited.tallies.get? k = b.tallies.get? k :=
  Keyed.get?_arrange _ _ k

/-- The order of a collection decides of a tenant's metrics nothing but their order. -/
theorem metricsOf_visited_perm (b : SignalBoard) (now : UInt64) (t : Tenant) :
    (b.visited.metricsOf now t).Perm (b.metricsOf now t) :=
  b.entries_visited_perm.filterMap _

theorem Sound.visited (h : b.Sound) : b.visited.Sound :=
  fun x hx => h x (b.entries_visited_perm.mem_iff.mp hx)

/-- A collection counts of an endpoint what the board holds of it, also for some tenants only. -/
theorem counted_collect (h : b.Sound) (c : SignalCount) (e : SlowEndpoint) (now : UInt64)
    (p : Tenant → Prop) [DecidablePred p] :
    counted c e (((b.collect now).1.filter fun g => decide (p g.1)).flatMap Prod.snd)
      = (b.tallies.entries.map (share c p e)).sum :=
  (counted_groups h.visited c e now p).trans (b.entries_visited_perm.map _).sum_nat

end SignalBoard

end Ingest
