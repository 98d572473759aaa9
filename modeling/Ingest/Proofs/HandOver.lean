import Mathlib.Data.List.DropRight
import Mathlib.Data.List.Induction
import Ingest.Proofs.CacheBatches

/-!
What becomes of the records that are appended. A history is a service in front of a memory store,
with what was attempted and reported in each flush, after any number of appends, flushes, sweeps of
statements, changes of the failing tables, and waits. Main statement: in every history the rows
attempted for a cache and a kind, flush by flush, are those of the records appended to it, up to
those still pending; the store holds each written batch once, and each other batch is counted as
lost and never attempted again.
-/

namespace Ingest

/-- What happens to a service. -/
inductive Happening where
  | append (t : Tenant) (es : List Event)
  | flush
  | failTable (k : Kind) (fail : Bool)
  | sweep
  | wait (nanos : Nat)

def Happening.isFlush : Happening → Bool
  | flush => true
  | _ => false

/-- A flush: the tables that failed, what was attempted and what was reported. -/
structure Flushed where
  failing : List Kind
  attempts : List Attempt
  report : FlushReport

/-- The batches that a flush attempted for a cache and a kind. -/
def Flushed.batchesOf (f : Flushed) (owner : Tenant) (k : Kind) : List Batch :=
  (f.attempts.filter fun a => decide (a.tenant = owner) && decide (a.batch.kind = k)).map (·.batch)

/-- The rows that flushes attempted for a cache and a kind. -/
def attemptedRows (fs : List Flushed) (owner : Tenant) (k : Kind) : List Row :=
  fs.flatMap fun f => (f.batchesOf owner k).flatMap (·.rows)

theorem attemptedRows_concat (fs : List Flushed) (f : Flushed) (owner : Tenant) (k : Kind) :
    attemptedRows (fs ++ [f]) owner k
      = attemptedRows fs owner k ++ (f.batchesOf owner k).flatMap (·.rows) := by
  simp [attemptedRows]

structure History where
  service : Ingestor MemoryStore
  flushed : List Flushed := []

namespace History

/-- What a flush does now. -/
def nextFlush (h : History) : Flushed where
  failing := h.service.sink.store.failing
  attempts := flushAttempts MemoryStore.backend h.service.settings.clickhouse.exportServiceClient
    h.service.registry.snapshot h.service.sink
  report := (h.service.flush MemoryStore.backend).1

def step (h : History) : Happening → History
  | .append t es => { h with service := (h.service.deposit MemoryStore.backend t es).2 }
  | .flush =>
    { service := (h.service.flush MemoryStore.backend).2, flushed := h.flushed ++ [h.nextFlush] }
  | .failTable k fail => { h with
      service.sink.store := h.service.sink.store.failTable k fail }
  | .sweep => { h with service := h.service.sweep }
  | .wait nanos => { h with service.sink.clock := h.service.sink.clock + nanos }

theorem report_nextFlush (h : History) :
    h.nextFlush.report = reportOf h.nextFlush.report.tenants h.nextFlush.attempts := by
  have hreport : h.nextFlush.report
      = reportOf h.service.registry.snapshot.length h.nextFlush.attempts := report_flush _ _ _ _
  rw [hreport]
  rfl

/-- A flush makes one batch of what waits of a stored kind in a cache. -/
theorem batchesOf_nextFlush (h : History) (owner : Tenant) {k : Kind} (hk : k.isStored = true) :
    h.nextFlush.batchesOf owner k
      = batchOf (h.service.registry.databaseFor owner) k
        (rowsOf (h.service.registry.caches.getD owner []) k) :=
  batchesOf_flushAttempts MemoryStore.backend _ _ owner (mem_flushedKinds_of_stored hk _)

/-- The history of what happens to a new service. -/
def of (settings : Settings) (env : Environment) (xs : List Happening) : History :=
  xs.foldl step { service := .new settings {} env }

theorem of_concat (settings : Settings) (env : Environment) (xs : List Happening) (x : Happening) :
    of settings env (xs ++ [x]) = (of settings env xs).step x := by
  simp [of]

end History

namespace Settings

/-- The tenant whose cache takes a tenant's records. -/
def owner (s : Settings) (t : Tenant) : Tenant := if s.tenancy.enabled then t else .none

/-- The database of a cache. -/
def databaseOf (s : Settings) (owner : Tenant) : String :=
  if s.tenancy.enabled then s.clickhouse.tenantDatabase owner.tenantId else s.clickhouse.database

end Settings

theorem Registry.scope_eq_owner {r : Registry} {settings : Settings}
    (h : r.multiTenant = settings.tenancy.enabled) (t : Tenant) :
    r.scope t = settings.owner t := by
  rw [Registry.scope, h]
  rfl

theorem Registry.databaseFor_eq_databaseOf {r : Registry} {settings : Settings}
    (hsettings : r.settings = settings.clickhouse)
    (hmany : r.multiTenant = settings.tenancy.enabled) (t : Tenant) :
    r.databaseFor t = settings.databaseOf t := by
  rw [Registry.databaseFor, hmany, hsettings]
  rfl

/-- The records appended to a cache, in the order in which they came. -/
def appended (settings : Settings) (owner : Tenant) (xs : List Happening) : List Event :=
  xs.flatMap fun
    | .append t es => if settings.owner t = owner then es else []
    | _ => []

theorem appended_append (settings : Settings) (owner : Tenant) (xs ys : List Happening) :
    appended settings owner (xs ++ ys) = appended settings owner xs ++ appended settings owner ys :=
  List.flatMap_append

/-- What happened after the last flush. -/
def sinceFlush (xs : List Happening) : List Happening := xs.rtakeWhile fun x => !x.isFlush

/-! ### What every history keeps -/

/-- What holds of every history. -/
structure Intact (settings : Settings) (xs : List Happening) (h : History) : Prop where
  settings_eq : h.service.settings = settings
  clickhouse_eq : h.service.registry.settings = settings.clickhouse
  multiTenant_eq : h.service.registry.multiTenant = settings.tenancy.enabled
  recording : h.service.sink.Recording
  /-- What is pending is what was appended after the last flush. -/
  pending : ∀ t, h.service.registry.pending t = appended settings (settings.owner t) (sinceFlush xs)
  handed : ∀ t k, k.isStored = true →
    attemptedRows h.flushed (settings.owner t) k ++ rowsOf (h.service.registry.pending t) k
      = rowsOf (appended settings (settings.owner t) xs) k
  kept : h.service.sink.store.batches
    = ((h.flushed.flatMap (·.attempts)).filter (·.written)).map (·.batch)
  told : ∀ f ∈ h.flushed, f.report = reportOf f.report.tenants f.attempts ∧
    ∀ a ∈ f.attempts, a.batch.database = settings.databaseOf a.tenant ∧
      a.written = decide (a.batch.kind ∉ f.failing)

namespace Intact

variable {settings : Settings} {xs : List Happening} {h : History}

theorem scope_eq (hi : Intact settings xs h) (t : Tenant) :
    h.service.registry.scope t = settings.owner t :=
  Registry.scope_eq_owner hi.multiTenant_eq t

theorem databaseFor_eq (hi : Intact settings xs h) (t : Tenant) :
    h.service.registry.databaseFor t = settings.databaseOf t :=
  Registry.databaseFor_eq_databaseOf hi.clickhouse_eq hi.multiTenant_eq t

/-- A flush attempts just the rows that are pending. -/
theorem batchesOf_nextFlush (hi : Intact settings xs h) (t : Tenant) {k : Kind}
    (hk : k.isStored = true) :
    h.nextFlush.batchesOf (settings.owner t) k
      = batchOf (settings.databaseOf (settings.owner t)) k
        (rowsOf (h.service.registry.pending t) k) := by
  have hpending : h.service.registry.caches.getD (settings.owner t) []
      = h.service.registry.pending t := by
    rw [← hi.scope_eq]
    rfl
  rw [h.batchesOf_nextFlush _ hk, hpending, hi.databaseFor_eq]

theorem database_nextFlush (hi : Intact settings xs h) {a : Attempt}
    (ha : a ∈ h.nextFlush.attempts) : a.batch.database = settings.databaseOf a.tenant := by
  obtain ⟨c, hc, htenant, hbatch⟩ := exists_of_mem_flushAttempts ha
  obtain ⟨e, -, rfl⟩ := List.mem_map.mp hc
  rw [(TenantCache.of_mem_batches hbatch).2, hi.databaseFor_eq, ← htenant]

/-- What is not a flush adds to what is pending. -/
theorem extend (hi : Intact settings xs h) {x : Happening} {h' : History} (hx : x.isFlush = false)
    (hflushed : h'.flushed = h.flushed) (hsettings : h'.service.settings = h.service.settings)
    (hclickhouse : h'.service.registry.settings = h.service.registry.settings)
    (hmulti : h'.service.registry.multiTenant = h.service.registry.multiTenant)
    (hpending : ∀ t, h'.service.registry.pending t
      = h.service.registry.pending t ++ appended settings (settings.owner t) [x])
    (hbatches : h'.service.sink.store.batches = h.service.sink.store.batches)
    (hrecording : h'.service.sink.Recording) : Intact settings (xs ++ [x]) h' where
  settings_eq := hsettings.trans hi.settings_eq
  clickhouse_eq := hclickhouse.trans hi.clickhouse_eq
  multiTenant_eq := hmulti.trans hi.multiTenant_eq
  recording := hrecording
  pending t := by
    have hsince : sinceFlush (xs ++ [x]) = sinceFlush xs ++ [x] :=
      List.rtakeWhile_concat_pos _ _ _ (by simp [hx])
    rw [hpending, hi.pending, hsince, appended_append]
  handed t k hk := by
    rw [hflushed, hpending, rowsOf_append, ← List.append_assoc, hi.handed t k hk, appended_append,
      rowsOf_append]
  kept := by rw [hbatches, hflushed, hi.kept]
  told := by rw [hflushed]; exact hi.told

theorem append (hi : Intact settings xs h) (t : Tenant) (es : List Event) :
    Intact settings (xs ++ [.append t es]) (h.step (.append t es)) := by
  obtain ⟨r, made, hdeposit, hextends⟩ := Ingestor.deposit_memory hi.recording.makes t es
  have hscope (u : Tenant) : r.scope u = settings.owner u := by
    rw [Registry.scope, hextends.multiTenant]
    exact hi.scope_eq u
  have hpending (u : Tenant) : (r.append t es).pending u
      = h.service.registry.pending u ++ appended settings (settings.owner u) [.append t es] := by
    rw [Registry.pending_append, hextends.pending, hscope, hscope]
    simp [appended]
  rw [History.step, hdeposit]
  exact hi.extend rfl rfl rfl hextends.settings hextends.multiTenant hpending rfl
    ⟨hi.recording.filed, hi.recording.keeps, hi.recording.makes⟩

theorem flush (hi : Intact settings xs h) :
    Intact settings (xs ++ [.flush]) (h.step .flush) := by
  obtain ⟨hrecording, -, hbatches, hwritten⟩ := Sink.flush_memory hi.recording
    h.service.settings.clickhouse.exportServiceClient h.service.registry.snapshot
  have hdrained (t : Tenant) : (h.step .flush).service.registry.pending t = [] :=
    Registry.pending_drained _ t
  have hlast : (h.step .flush).flushed = h.flushed ++ [h.nextFlush] := rfl
  refine ⟨hi.settings_eq, hi.clickhouse_eq, hi.multiTenant_eq, hrecording, ?_, ?_, ?_, ?_⟩
  · intro t
    have hsince : sinceFlush (xs ++ [.flush]) = [] :=
      List.rtakeWhile_concat_neg _ _ _ (by simp [Happening.isFlush])
    rw [hdrained, hsince]
    rfl
  · intro t k hk
    have hnone : appended settings (settings.owner t) [.flush] = [] := rfl
    rw [hdrained, rowsOf_nil, List.append_nil, hlast, attemptedRows_concat,
      hi.batchesOf_nextFlush t hk, batchOf_rows, hi.handed t k hk, appended_append, hnone,
      List.append_nil]
  · have hkept : (h.step .flush).service.sink.store.batches
        = h.service.sink.store.batches ++ (h.nextFlush.attempts.filter (·.written)).map (·.batch) :=
      hbatches
    rw [hkept, hlast, hi.kept]
    simp
  · rw [hlast]
    intro f hf
    rcases List.mem_append.mp hf with hf | hf
    · exact hi.told f hf
    · rw [List.mem_singleton.mp hf]
      exact ⟨h.report_nextFlush, fun a ha => ⟨hi.database_nextFlush ha, hwritten a ha⟩⟩

theorem step (hi : Intact settings xs h) : ∀ x, Intact settings (xs ++ [x]) (h.step x)
  | .append t es => hi.append t es
  | .flush => hi.flush
  | .failTable _ _ =>
    hi.extend rfl rfl rfl rfl rfl (fun _ => (List.append_nil _).symm) rfl
      ⟨hi.recording.filed, hi.recording.keeps, hi.recording.makes⟩
  | .sweep =>
    hi.extend rfl rfl rfl rfl rfl (fun _ => (List.append_nil _).symm) rfl
      ⟨hi.recording.filed.evictIdle _, hi.recording.keeps, hi.recording.makes⟩
  | .wait _ =>
    hi.extend rfl rfl rfl rfl rfl (fun _ => (List.append_nil _).symm) rfl
      ⟨hi.recording.filed, hi.recording.keeps, hi.recording.makes⟩

end Intact

theorem intact_new (settings : Settings) (env : Environment) :
    Intact settings [] { service := .new settings {} env } where
  settings_eq := rfl
  clickhouse_eq := rfl
  multiTenant_eq := rfl
  recording := ⟨StatementCache.filed_empty _, rfl, rfl⟩
  pending t := Registry.pending_empty _ _ _ t
  handed t k _ := by
    rw [show ({ service := .new settings {} env } : History).service.registry.pending t = [] from
      Registry.pending_empty _ _ _ t, rowsOf_nil]
    exact (rowsOf_nil k).symm
  kept := rfl
  told := by simp

/-- Every history is intact, by induction on what happens. -/
theorem intact_of (settings : Settings) (env : Environment) (xs : List Happening) :
    Intact settings xs (History.of settings env xs) := by
  induction xs using List.reverseRecOn with
  | nil => exact intact_new settings env
  | append_singleton xs x ih =>
    rw [History.of_concat]
    exact ih.step x

/-- In every environment and history, for every cache and stored kind: what was attempted, flush by
flush, and what is pending are together the rows of all that was appended, in order. The store holds
the batches that were written, in order and under the database of their cache; every other batch was
for a failing table and was reported as lost with all its rows. And the next flush attempts only what
came after the last one, whatever became of the batches before. -/
theorem handed_over_once (settings : Settings) (env : Environment) (xs : List Happening) :
    let h := History.of settings env xs
    (∀ t k, k.isStored = true →
      attemptedRows h.flushed (settings.owner t) k ++ encoded k (h.service.registry.pending t)
        = encoded k (appended settings (settings.owner t) xs)) ∧
    h.service.sink.store.batches
      = ((h.flushed.flatMap (·.attempts)).filter (·.written)).map (·.batch) ∧
    (∀ f ∈ h.flushed, f.report = reportOf f.report.tenants f.attempts ∧
      ∀ a ∈ f.attempts, a.batch.database = settings.databaseOf a.tenant ∧
        a.written = decide (a.batch.kind ∉ f.failing)) ∧
    ∃ f, (History.of settings env (xs ++ [.flush])).flushed = h.flushed ++ [f] ∧
      ∀ t k, k.isStored = true → f.batchesOf (settings.owner t) k
        = batchOf (settings.databaseOf (settings.owner t)) k
          (encoded k (appended settings (settings.owner t) (sinceFlush xs))) := by
  have hi := intact_of settings env xs
  refine ⟨?_, hi.kept, hi.told, (History.of settings env xs).nextFlush, ?_, ?_⟩
  · intro t k hk
    rw [← rowsOf_stored hk, ← rowsOf_stored hk]
    exact hi.handed t k hk
  · rw [History.of_concat]
    rfl
  · intro t k hk
    rw [← rowsOf_stored hk, ← hi.pending]
    exact hi.batchesOf_nextFlush t hk

end Ingest
