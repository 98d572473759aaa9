import Mathlib.Data.List.Basic
import Ingest.Ingestor
import Ingest.Proofs.BatchWriting

/-!
What waits in the caches, and the batches it is written in. Main statements: an append adds to the
cache of its tenant and to no other, a flush empties every cache, and it makes of each cache one
batch for every kind flushed that the cache has rows of.
-/

namespace Ingest

/-! ### Rows of events -/

/-- The rows of the records of a kind, one record after the other. -/
def encoded (k : Kind) (es : List Event) : List Row :=
  (es.filter fun e => decide (e.kind = k)).flatMap Event.rows

theorem rowsOf_stored {k : Kind} (h : k.isStored = true) (es : List Event) :
    rowsOf es k = encoded k es := by
  cases k <;> first | rfl | simp [Kind.isStored] at h

theorem rowsOf_append (es fs : List Event) (k : Kind) :
    rowsOf (es ++ fs) k = rowsOf es k ++ rowsOf fs k := by
  cases k <;> simp [rowsOf]

@[simp] theorem rowsOf_nil (k : Kind) : rowsOf [] k = [] := by
  cases k <;> rfl

/-! ### Caches -/

namespace Registry

theorem scope_of_many {r : Registry} (h : r.multiTenant = true) (t : Tenant) : r.scope t = t := by
  rw [scope, if_pos h]

theorem scope_of_single {r : Registry} (h : r.multiTenant = false) (t : Tenant) :
    r.scope t = .none := by
  rw [scope, h, if_neg Bool.false_ne_true]

theorem databaseFor_of_many {r : Registry} (h : r.multiTenant = true) (t : Tenant) :
    r.databaseFor t = r.settings.tenantDatabase t.tenantId := by
  rw [databaseFor, if_pos h]

theorem databaseFor_of_single {r : Registry} (h : r.multiTenant = false) (t : Tenant) :
    r.databaseFor t = r.settings.database := by
  rw [databaseFor, h, if_neg Bool.false_ne_true]

theorem pending_append (r : Registry) (t u : Tenant) (es : List Event) :
    (r.append t es).pending u = r.pending u ++ if r.scope t = r.scope u then es else [] := by
  have hpending : (r.append t es).pending u
      = ((r.caches.insert (r.scope t) (r.pending t ++ es)).get? (r.scope u)).getD [] := rfl
  rw [hpending, Keyed.get?_insert]
  by_cases h : r.scope t = r.scope u
  · simp [pending, h]
  · simp [pending, Keyed.getD, h]

theorem pending_empty (c : ClickHouseSettings) (multiTenant : Bool) (order : Nat → List Tenant)
    (t : Tenant) : (empty c multiTenant order).pending t = [] := by
  cases multiTenant <;> simp [pending, empty, scope, Keyed.getD]

theorem pending_drained (r : Registry) (t : Tenant) : r.drained.pending t = [] := by
  have hpending : r.drained.pending t
      = ((r.caches.mapValues fun _ _ => []).get? (r.scope t)).getD [] := rfl
  rw [hpending, Keyed.get?_mapValues]
  cases r.caches.get? (r.scope t) <;> rfl

/-- A cache that is made is empty. -/
theorem pending_insert {r : Registry} {t : Tenant} (h : t ∉ r.caches.keys) (u : Tenant) :
    { r with caches := r.caches.insert t [] }.pending u = r.pending u := by
  have hnone : r.caches.get? t = none := by
    simpa [Keyed.contains] using Keyed.contains_eq_false_iff.mpr h
  have hpending : { r with caches := r.caches.insert t [] }.pending u
      = ((r.caches.insert t []).get? (r.scope u)).getD [] := rfl
  rw [hpending, Keyed.get?_insert]
  by_cases hu : t = r.scope u
  · simp [pending, Keyed.getD, ← hu, hnone]
  · simp [pending, Keyed.getD, hu]

/-- Events for a cache that is there make no other one. -/
theorem keys_append {r : Registry} {t : Tenant} (h : r.scope t ∈ r.caches.keys) (es : List Event) :
    (r.append t es).caches.keys = r.caches.keys := by
  rw [append, Keyed.alter, Keyed.keys_insert, if_pos h]

/-- The caches with what waits in them, as they are listed. -/
theorem listed_eq {r : Registry} (h : r.multiTenant = true) (order : List Tenant) :
    r.listed order
      = (r.caches.arrange order).keys.map fun t => ⟨t, r.databaseFor t, r.pending t⟩ := by
  rw [listed, Keyed.entries_eq_map (r.caches.arrange order) [], List.map_map]
  refine List.map_congr_left fun t _ => ?_
  rw [Function.comp_apply, Keyed.getD, Keyed.get?_arrange, pending, scope_of_many h, Keyed.getD]

theorem listed_perm (r : Registry) (order : List Tenant) : (r.listed order).Perm (r.listed []) :=
  (r.caches.entries_arrange_perm order).map _

/-- The caches can be listed in every order, and in no other way. -/
theorem exists_listed_iff (r : Registry) {cs : List TenantCache} :
    (∃ order, r.listed order = cs) ↔ cs.Perm (r.listed []) := by
  constructor
  · rintro ⟨order, rfl⟩
    exact r.listed_perm order
  · intro h
    let entry (c : TenantCache) : Tenant × List Event := (c.tenant, c.pending)
    have hentries : (cs.map entry).Perm r.caches.entries := by
      have hperm := h.map entry
      rw [listed, List.map_map] at hperm
      exact hperm.trans (.of_eq (List.map_id _))
    have hdatabase : ∀ c ∈ cs, ⟨c.tenant, r.databaseFor c.tenant, c.pending⟩ = c := by
      intro c hc
      obtain ⟨e, -, rfl⟩ := List.mem_map.mp (h.mem_iff.mp hc)
      rfl
    refine ⟨(cs.map entry).map Prod.fst, ?_⟩
    rw [listed, Keyed.arrange_of_perm hentries, List.map_map]
    exact (List.map_congr_left hdatabase).trans (List.map_id cs)

/-- A registry that keeps its settings and what is pending. -/
structure Extends (r r' : Registry) : Prop where
  settings : r'.settings = r.settings
  multiTenant : r'.multiTenant = r.multiTenant
  pending : ∀ t, r'.pending t = r.pending t

/-- What comes of making sure that a tenant has a cache: nothing where there is one, and else a cache
if the store makes its database. -/
theorem enroll_cases {σ : Type} (b : Backend σ) (r : Registry) (t : Tenant) (s : σ) :
    (r.multiTenant = false ∨ t ∈ r.caches.keys) ∧ r.enroll b t s = (.ok r, s) ∨
    r.multiTenant = true ∧ t ∉ r.caches.keys ∧
      ((∃ cause s', b.initDatabase s (r.databaseFor t) = (.error cause, s') ∧
          r.enroll b t s = (.error ⟨⟨t, r.databaseFor t, cause⟩, r⟩, s')) ∨
        ∃ s', b.initDatabase s (r.databaseFor t) = (.ok (), s') ∧
          r.enroll b t s = (.ok { r with caches := r.caches.insert t [] }, s')) := by
  unfold enroll
  by_cases hknown : r.multiTenant = false ∨ t ∈ r.caches.keys
  · have hopen : (!r.multiTenant || r.caches.contains t) = true := by
      simpa [Keyed.contains_iff] using hknown
    exact .inl ⟨hknown, if_pos hopen⟩
  · obtain ⟨hmany, hnew⟩ := not_or.mp hknown
    have hclosed : ¬ (!r.multiTenant || r.caches.contains t) = true := by
      simpa [Keyed.contains_iff] using hknown
    refine .inr ⟨by simpa using hmany, hnew, ?_⟩
    rw [if_neg hclosed]
    cases hinit : b.initDatabase s (r.databaseFor t) with
    | mk answer s' =>
      cases answer with
      | error cause => exact .inl ⟨cause, s', rfl, by simp [hinit]⟩
      | ok _ => exact .inr ⟨s', rfl, by simp [hinit]⟩

/-- A registry that refuses a cache is as it was. -/
theorem registry_of_enroll_error {σ : Type} {b : Backend σ} {r : Registry} {t : Tenant} {s : σ}
    {refusal : Refusal} (h : (r.enroll b t s).1 = .error refusal) : refusal.registry = r := by
  rcases r.enroll_cases b t s with ⟨-, heq⟩ | ⟨-, -, ⟨cause, s', -, heq⟩ | ⟨s', -, heq⟩⟩ <;>
    rw [heq] at h
  · cases h
  · cases h
    rfl
  · cases h

theorem enroll_memory {s : MemoryStore} (hmakes : s.initFails = false) (r : Registry) (t : Tenant) :
    ∃ r' made, r.enroll MemoryStore.backend t s = (.ok r', { s with initialized := made }) ∧
      Extends r r' := by
  have hmake : MemoryStore.backend.initDatabase s (r.databaseFor t)
      = (.ok (), { s with initialized := s.initialized ++ [r.databaseFor t] }) := by
    simp [MemoryStore.backend, MemoryStore.initDatabase, hmakes]
  rcases r.enroll_cases MemoryStore.backend t s with
    ⟨-, heq⟩ | ⟨-, hnew, ⟨cause, s', hinit, -⟩ | ⟨s', hinit, heq⟩⟩
  · exact ⟨r, s.initialized, heq, rfl, rfl, fun _ => rfl⟩
  · rw [hmake] at hinit
    cases hinit
  · obtain rfl := (Prod.mk.inj (hmake.symm.trans hinit)).2
    exact ⟨_, _, heq, rfl, rfl, pending_insert hnew⟩

end Registry

/-- Where databases can be made, whatever is appended goes into the cache of its tenant. -/
theorem Ingestor.deposit_memory {s : Ingestor MemoryStore} (hmakes : s.sink.store.initFails = false)
    (t : Tenant) (es : List Event) :
    ∃ r made, (s.deposit MemoryStore.backend t es).2 = { s with
        registry := r.append t es
        sink := { s.sink with store := { s.sink.store with initialized := made } } } ∧
      Registry.Extends s.registry r := by
  obtain ⟨r, made, heq, hextends⟩ := s.registry.enroll_memory hmakes t
  refine ⟨r, made, ?_, hextends⟩
  simp [deposit, openCache, heq]

/-! ### Batches of a flush -/

/-- Rows as a batch, if there are any. -/
def batchOf (database : String) (k : Kind) (rows : List Row) : List Batch :=
  if rows.isEmpty then [] else [⟨database, k, rows⟩]

theorem mem_flushedKinds {exportClients : Bool} {k : Kind} :
    k ∈ flushedKinds exportClients ↔ exportClients = true ∨ k ≠ .serviceClient := by
  simp [flushedKinds, Kind.mem_all]

theorem mem_flushedKinds_of_stored {k : Kind} (h : k.isStored = true) (exportClients : Bool) :
    k ∈ flushedKinds exportClients := by
  refine mem_flushedKinds.mpr (.inr ?_)
  rintro rfl
  cases h

theorem filter_flushedKinds {exportClients : Bool} {k : Kind} (h : k ∈ flushedKinds exportClients) :
    (flushedKinds exportClients).filter (fun j => decide (j = k)) = [k] := by
  revert h
  cases k <;> cases exportClients <;> decide

theorem batchOf_rows (database : String) (k : Kind) (rows : List Row) :
    (batchOf database k rows).flatMap (·.rows) = rows := by
  unfold batchOf
  split
  · next h => simp [List.isEmpty_iff.mp h]
  · simp

namespace TenantCache

/-- A cache gives one batch for each kind flushed that it has rows of. -/
theorem filter_batches {exportClients : Bool} (c : TenantCache) {k : Kind}
    (h : k ∈ flushedKinds exportClients) :
    (c.batches exportClients).filter (fun b => decide (b.kind = k))
      = batchOf c.database k (rowsOf c.pending k) := by
  have hkind : ((flushedKinds exportClients).map fun j =>
      (⟨c.database, j, rowsOf c.pending j⟩ : Batch)).filter (fun b => decide (b.kind = k))
        = [⟨c.database, k, rowsOf c.pending k⟩] := by
    rw [List.filter_map]
    simp only [Function.comp_def]
    rw [filter_flushedKinds h, List.map_singleton]
  rw [batches, List.filter_comm, hkind]
  unfold batchOf
  cases h : (rowsOf c.pending k).isEmpty <;> simp [h]

end TenantCache

theorem flatMap_filter {α β : Type} (p : α → Bool) (f : α → List β) (xs : List α) :
    xs.flatMap (fun x => if p x then f x else []) = (xs.filter p).flatMap f := by
  induction xs with
  | nil => rfl
  | cons x xs ih => cases hx : p x <;> simp [hx, ih]

/-- The batches of one cache among those of all caches. -/
theorem filter_ownedBatches {exportClients : Bool} (r : Registry) (owner : Tenant) {k : Kind}
    (h : k ∈ flushedKinds exportClients) :
    ((ownedBatches exportClients r.snapshot).filter fun x =>
        decide (x.1 = owner) && decide (x.2.kind = k)).map Prod.snd
      = batchOf (r.databaseFor owner) k (rowsOf (r.caches.getD owner []) k) := by
  have hcache (e : Tenant × List Event) :
      (((TenantCache.batches exportClients ⟨e.1, r.databaseFor e.1, e.2⟩).map
        fun b => (e.1, b)).filter
          fun x => decide (x.1 = owner) && decide (x.2.kind = k)).map Prod.snd
      = if decide (e.1 = owner) then batchOf (r.databaseFor e.1) k (rowsOf e.2 k) else [] := by
    rw [List.filter_map, List.map_map]
    by_cases howner : e.1 = owner
    · simpa [howner, Function.comp_def] using
        TenantCache.filter_batches ⟨owner, r.databaseFor owner, e.2⟩ h
    · simp [howner, Function.comp_def]
  have hall : ((ownedBatches exportClients r.snapshot).filter fun x =>
        decide (x.1 = owner) && decide (x.2.kind = k)).map Prod.snd
      = (r.caches.arrange (r.order r.visits)).entries.flatMap fun e =>
        if decide (e.1 = owner) then batchOf (r.databaseFor e.1) k (rowsOf e.2 k) else [] := by
    rw [ownedBatches, Registry.snapshot, Registry.listed, List.flatMap_map, List.filter_flatMap,
      List.map_flatMap]
    exact List.flatMap_congr fun e _ => hcache e
  rw [hall, flatMap_filter, Keyed.filter_entries, Keyed.get?_arrange, Keyed.getD]
  cases r.caches.get? owner <;> simp [batchOf]

/-- The batches of a cache and a kind among attempts. -/
def batchesOf (as : List Attempt) (owner : Tenant) (k : Kind) : List Batch :=
  (as.filter fun a => decide (a.tenant = owner) && decide (a.batch.kind = k)).map (·.batch)

/-- A flush makes one batch of what waits of a kind in a cache. -/
theorem batchesOf_flushAttempts {σ : Type} (b : Backend σ) {exportClients : Bool} (r : Registry)
    (w : Sink σ) (owner : Tenant) {k : Kind} (h : k ∈ flushedKinds exportClients) :
    batchesOf (flushAttempts b exportClients r.snapshot w) owner k
      = batchOf (r.databaseFor owner) k (rowsOf (r.caches.getD owner []) k) := by
  rw [← filter_ownedBatches r owner h, ← map_flushAttempts b exportClients r.snapshot w, batchesOf,
    List.filter_map, List.map_map]
  rfl

theorem batchesOf_of_not_mem {σ : Type} (b : Backend σ) {exportClients : Bool}
    (caches : List TenantCache) (w : Sink σ) (owner : Tenant) {k : Kind}
    (h : k ∉ flushedKinds exportClients) :
    batchesOf (flushAttempts b exportClients caches w) owner k = [] := by
  rw [batchesOf, List.map_eq_nil_iff, List.filter_eq_nil_iff]
  intro a ha hkind
  obtain ⟨-, rfl⟩ : a.tenant = owner ∧ a.batch.kind = k := by simpa using hkind
  obtain ⟨c, -, -, hbatch⟩ := exists_of_mem_flushAttempts ha
  obtain ⟨j, hj, hjk⟩ := List.mem_map.mp (List.mem_filter.mp hbatch).1
  exact h (hjk ▸ hj)

end Ingest
