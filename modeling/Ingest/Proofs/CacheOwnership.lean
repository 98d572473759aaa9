import Ingest.Proofs.CacheBatches
import Ingest.Proofs.Histories
import Ingest.Store.Memory

/-!
Which tenant has which cache. Tenants ask for their caches, and the store can make databases at some
times and not at others. Main statement: a tenant's database is asked for at each request up to the
first that succeeds and never after it, every later request of the tenant finds the cache that this
one made, and a request that fails leaves every cache as it was.
-/

namespace Ingest

/-! ### Requests -/

/-- A request to make a database ready, with its answer. -/
structure InitCall where
  database : String
  answer : Except InitError Unit

/-- A store that answers as another one does, and notes which databases it is asked to make. -/
def Backend.notingInits {σ : Type} (b : Backend σ) : Backend (σ × List InitCall) where
  prepare st s :=
    let (answer, store) := b.prepare st.1 s
    (answer, store, st.2)
  execute st s ready rows :=
    let (x, store) := b.execute st.1 s ready rows
    (x, store, st.2)
  initDatabase st database :=
    let (answer, store) := b.initDatabase st.1 database
    (answer, store, st.2 ++ [⟨database, answer⟩])

/-- A tenant asks for its cache and, if it gets one, puts events into it. -/
structure CacheRequest where
  tenant : Tenant
  events : List Event
  /-- The number of the cache, or why there is none. -/
  result : Except TenantInitError Nat
  calls : List InitCall

inductive CacheStep where
  | request (t : Tenant) (es : List Event)
  | failInit (fail : Bool)

/-- The caches of a registry, the store behind it, and the requests so far. -/
structure CacheSession where
  registry : Registry
  store : MemoryStore := {}
  requests : List CacheRequest := []

namespace CacheSession

/-- What becomes of the registry and the store, and the request as it is noted. -/
def ask (c : CacheSession) (t : Tenant) (es : List Event) : CacheRequest × Registry × MemoryStore :=
  match c.registry.enroll MemoryStore.backend.notingInits t (c.store, []) with
  | (.error refusal, store, calls) =>
    (⟨t, es, .error refusal.error, calls⟩, refusal.registry, store)
  | (.ok r, store, calls) => (⟨t, es, .ok (r.cacheNumber t), calls⟩, r.append t es, store)

def step (c : CacheSession) : CacheStep → CacheSession
  | .request t es =>
    let (v, registry, store) := c.ask t es
    { registry, store, requests := c.requests ++ [v] }
  | .failInit fail => { c with store := c.store.failInit fail }

/-- What some steps make of a new registry, whose caches are visited in some order. -/
def of (settings : ClickHouseSettings) (multiTenant : Bool) (order : Nat → List Tenant)
    (xs : List CacheStep) : CacheSession :=
  xs.foldl step { registry := .empty settings multiTenant order }

theorem of_concat (settings : ClickHouseSettings) (multiTenant : Bool) (order : Nat → List Tenant)
    (xs : List CacheStep) (x : CacheStep) :
    of settings multiTenant order (xs ++ [x]) = (of settings multiTenant order xs).step x := by
  simp [of]

end CacheSession

/-! ### Who was served -/

/-- The requests that got a cache. -/
def servedRequests (vs : List CacheRequest) : List CacheRequest := vs.filter fun v => v.result.isOk

/-- The tenants that got a cache, each once, in the order of their first requests that got one. -/
def servedTenants (vs : List CacheRequest) : List Tenant :=
  ((servedRequests vs).map (·.tenant)).eraseDups

/-- The events that requests of a tenant put into its cache. -/
def eventsOf (vs : List CacheRequest) (t : Tenant) : List Event :=
  ((servedRequests vs).filter fun v => decide (v.tenant = t)).flatMap (·.events)

variable {vs : List CacheRequest} {v : CacheRequest}

theorem mem_servedTenants {t : Tenant} :
    t ∈ servedTenants vs ↔ ∃ v ∈ vs, v.result.isOk = true ∧ v.tenant = t := by
  simp [servedTenants, servedRequests, and_assoc]

theorem servedTenants_of_served (h : v.result.isOk = true) :
    servedTenants (vs ++ [v]) = if v.tenant ∈ servedTenants vs then servedTenants vs
      else servedTenants vs ++ [v.tenant] := by
  have hlast : servedRequests (vs ++ [v]) = servedRequests vs ++ [v] := by
    simp [servedRequests, h]
  simp only [servedTenants, hlast, List.map_append, List.map_singleton, eraseDups_concat,
    List.mem_eraseDups]

theorem servedTenants_of_failed (h : v.result.isOk = false) :
    servedTenants (vs ++ [v]) = servedTenants vs := by
  simp [servedTenants, servedRequests, h]

theorem exists_servedTenants_concat (vs : List CacheRequest) (v : CacheRequest) :
    ∃ new, servedTenants (vs ++ [v]) = servedTenants vs ++ new := by
  cases h : v.result.isOk with
  | false => exact ⟨[], by rw [servedTenants_of_failed h, List.append_nil]⟩
  | true =>
    rw [servedTenants_of_served h]
    split
    · exact ⟨[], (List.append_nil _).symm⟩
    · exact ⟨[v.tenant], rfl⟩

theorem eventsOf_of_served (h : v.result.isOk = true) (t : Tenant) :
    eventsOf (vs ++ [v]) t = eventsOf vs t ++ if v.tenant = t then v.events else [] := by
  by_cases ht : v.tenant = t <;> simp [eventsOf, servedRequests, h, ht]

theorem eventsOf_of_failed (h : v.result.isOk = false) (t : Tenant) :
    eventsOf (vs ++ [v]) t = eventsOf vs t := by
  simp [eventsOf, servedRequests, h]

/-! ### What a request comes to -/

theorem Tenant.eq_iff {a b : Tenant} :
    a = b ↔ a.tenantId = b.tenantId ∧ a.accountId = b.accountId := by
  cases a
  cases b
  simp

/-- Whether a request asked the store for what it needed: nothing for a tenant that was served, and
else the tenant's database, without which there is no cache. -/
def CacheRequest.Asked (settings : ClickHouseSettings) (served : List Tenant)
    (v : CacheRequest) : Prop :=
  let database := settings.tenantDatabase v.tenant.tenantId
  if v.tenant ∈ served then v.calls = [] ∧ v.result.isOk = true
  else (v.calls = [⟨database, .ok ()⟩] ∧ v.result.isOk = true) ∨
    ∃ cause, v.calls = [⟨database, .error cause⟩] ∧ v.result = .error ⟨v.tenant, database, cause⟩

namespace CacheSession

variable {settings : ClickHouseSettings} {c : CacheSession} {t : Tenant} {es : List Event}

/-- A cache that is there is found without the store. -/
theorem ask_of_known (h : c.registry.multiTenant = false ∨ t ∈ c.registry.caches.keys) :
    c.ask t es
      = (⟨t, es, .ok (c.registry.cacheNumber t), []⟩, c.registry.append t es, c.store) := by
  have hknown : (!c.registry.multiTenant || c.registry.caches.contains t) = true := by
    rcases h with hone | hmem
    · simp [hone]
    · simp [Keyed.contains_iff.mpr hmem]
  rw [ask, Registry.enroll, if_pos hknown]

/-- A request that fails leaves the registry as it was. -/
theorem registry_of_ask_error {e : TenantInitError} (h : (c.ask t es).1.result = .error e) :
    (c.ask t es).2.1 = c.registry := by
  rw [ask] at h ⊢
  cases henroll : c.registry.enroll MemoryStore.backend.notingInits t (c.store, []) with
  | mk answer store =>
    rw [henroll] at h
    cases answer with
    | ok r => cases h
    | error refusal => exact Registry.registry_of_enroll_error (congrArg Prod.fst henroll)

/-- A cache is made if the store makes its database, and else nothing happens. -/
theorem ask_of_new (hmany : c.registry.multiTenant = true) (hnew : t ∉ c.registry.caches.keys)
    (es : List Event) :
    let database := c.registry.databaseFor t
    let r : Registry := { c.registry with caches := c.registry.caches.insert t [] }
    (c.ask t es = (⟨t, es, .error ⟨t, database, .unavailable database⟩,
        [⟨database, .error (.unavailable database)⟩]⟩, c.registry, c.store)) ∨
    (c.ask t es = (⟨t, es, .ok (r.cacheNumber t), [⟨database, .ok ()⟩]⟩, r.append t es,
        { c.store with initialized := c.store.initialized ++ [database] })) := by
  have hcontains := Keyed.contains_eq_false_iff.mpr hnew
  cases hfails : c.store.initFails with
  | true =>
    left
    simp [ask, Registry.enroll, hmany, hcontains, Backend.notingInits, MemoryStore.backend,
      MemoryStore.initDatabase, hfails]
  | false =>
    right
    simp [ask, Registry.enroll, hmany, hcontains, Backend.notingInits, MemoryStore.backend,
      MemoryStore.initDatabase, hfails]

/-! ### Many tenants -/

/-- Each tenant that was served has a cache of its own, in the order in which they were first
served, with what was put into it; and the store was asked for their databases and no others. -/
structure Owned (c : CacheSession) (settings : ClickHouseSettings) : Prop where
  settings_eq : c.registry.settings = settings
  multiTenant : c.registry.multiTenant = true
  keys : c.registry.caches.keys = servedTenants c.requests
  pending : ∀ t, c.registry.pending t = eventsOf c.requests t
  numbered : ∀ v ∈ c.requests, ∀ i, v.result = .ok i →
    v.tenant ∈ servedTenants c.requests ∧ (servedTenants c.requests).idxOf v.tenant = i
  asked : ∀ us v ws, c.requests = us ++ v :: ws → v.Asked settings (servedTenants us)
  made : c.store.initialized =
    (servedTenants c.requests).map fun t => settings.tenantDatabase t.tenantId

/-- A request keeps the order, if the registry has caches for just those who were served. -/
theorem Owned.extend (h : c.Owned settings) {v : CacheRequest} {r : Registry} {store : MemoryStore}
    (hsettings : r.settings = settings) (hmany : r.multiTenant = true)
    (hkeys : r.caches.keys = servedTenants (c.requests ++ [v]))
    (hpending : ∀ t, r.pending t = eventsOf (c.requests ++ [v]) t)
    (hresult : ∀ i, v.result = .ok i → r.caches.keys.idxOf v.tenant = i)
    (hasked : v.Asked settings (servedTenants c.requests))
    (hmade : store.initialized = (servedTenants (c.requests ++ [v])).map
      fun t => settings.tenantDatabase t.tenantId) :
    Owned { registry := r, store, requests := c.requests ++ [v] } settings := by
  refine ⟨hsettings, hmany, hkeys, hpending, fun w hw i hi => ?_, fun us w ws heq => ?_, hmade⟩
  · obtain ⟨new, hnew⟩ := exists_servedTenants_concat c.requests v
    rcases List.mem_append.mp hw with hold | hlast
    · -- Caches are numbered as they are made, so an old number stays.
      obtain ⟨hmem, hnumber⟩ := h.numbered w hold i hi
      rw [hnew]
      exact ⟨List.mem_append_left _ hmem, by rw [List.idxOf_append_of_mem hmem, hnumber]⟩
    · obtain rfl := List.mem_singleton.mp hlast
      exact ⟨mem_servedTenants.mpr ⟨w, hw, by simp [hi, Except.isOk, Except.toBool], rfl⟩,
        by rw [← hkeys]; exact hresult i hi⟩
  · rcases concat_eq_append_cons heq with ⟨rfl, rfl, -⟩ | ⟨ws', -, hold⟩
    · exact hasked
    · exact h.asked us w ws' hold

theorem Owned.databaseFor_eq (h : c.Owned settings) (t : Tenant) :
    c.registry.databaseFor t = settings.tenantDatabase t.tenantId := by
  rw [Registry.databaseFor_of_many h.multiTenant, h.settings_eq]

/-- A tenant that was served finds its cache. -/
theorem Owned.request_of_known (h : c.Owned settings) (hknown : t ∈ c.registry.caches.keys)
    (es : List Event) : (c.step (.request t es)).Owned settings := by
  have hscope := Registry.scope_of_many h.multiTenant
  have hserved : t ∈ servedTenants c.requests := h.keys ▸ hknown
  have hkeys := Registry.keys_append ((hscope t).symm ▸ hknown) es
  rw [step, ask_of_known (.inr hknown)]
  refine h.extend h.settings_eq h.multiTenant ?_ (fun u => ?_) (fun i hi => ?_) ?_ ?_
  · rw [hkeys, servedTenants_of_served rfl, if_pos hserved, h.keys]
  · rw [Registry.pending_append, hscope, hscope, eventsOf_of_served rfl, h.pending]
  · rw [hkeys, ← Except.ok.inj hi, Registry.cacheNumber, hscope]
  · rw [CacheRequest.Asked, if_pos hserved]
    exact ⟨rfl, rfl⟩
  · rw [servedTenants_of_served rfl, if_pos hserved, h.made]

/-- A tenant whose database cannot be made is as unserved as before. -/
theorem Owned.request_of_failed (h : c.Owned settings) (hnew : t ∉ c.registry.caches.keys)
    {cause : InitError} (hask : c.ask t es = (⟨t, es, .error ⟨t, c.registry.databaseFor t, cause⟩,
      [⟨c.registry.databaseFor t, .error cause⟩]⟩, c.registry, c.store)) :
    (c.step (.request t es)).Owned settings := by
  have hserved : t ∉ servedTenants c.requests := h.keys ▸ hnew
  rw [step, hask]
  refine h.extend h.settings_eq h.multiTenant ?_ (fun u => ?_) (fun i hi => ?_) ?_ ?_
  · rw [servedTenants_of_failed rfl, h.keys]
  · rw [eventsOf_of_failed rfl, h.pending]
  · cases hi
  · rw [CacheRequest.Asked, if_neg hserved, h.databaseFor_eq]
    exact .inr ⟨_, rfl, rfl⟩
  · rw [servedTenants_of_failed rfl, h.made]

/-- A cache that is made is the last one. -/
theorem Owned.request_of_made (h : c.Owned settings) (hnew : t ∉ c.registry.caches.keys)
    {r : Registry} (hr : r = { c.registry with caches := c.registry.caches.insert t [] })
    (hask : c.ask t es = (⟨t, es, .ok (r.cacheNumber t), [⟨c.registry.databaseFor t, .ok ()⟩]⟩,
      r.append t es,
      { c.store with initialized := c.store.initialized ++ [c.registry.databaseFor t] })) :
    (c.step (.request t es)).Owned settings := by
  have hserved : t ∉ servedTenants c.requests := h.keys ▸ hnew
  have hmade : r.caches.keys = servedTenants c.requests ++ [t] := by
    rw [hr, Keyed.keys_insert, if_neg hnew, h.keys]
  have hmany : r.multiTenant = true := by rw [hr]; exact h.multiTenant
  have hscope := Registry.scope_of_many hmany
  have hkeys : (r.append t es).caches.keys = servedTenants c.requests ++ [t] := by
    rw [Registry.keys_append (by rw [hscope, hmade]; simp), hmade]
  have hpending (u : Tenant) : r.pending u = c.registry.pending u := by
    rw [hr, Registry.pending_insert hnew]
  rw [step, hask]
  refine h.extend (by rw [← h.settings_eq, hr]; rfl) hmany ?_ (fun u => ?_) (fun i hi => ?_) ?_ ?_
  · rw [hkeys, servedTenants_of_served rfl, if_neg hserved]
  · rw [Registry.pending_append, hscope, hscope, hpending, eventsOf_of_served rfl, h.pending]
  · rw [hkeys, ← Except.ok.inj hi, Registry.cacheNumber, hscope, hmade]
  · rw [CacheRequest.Asked, if_neg hserved, h.databaseFor_eq]
    exact .inl ⟨rfl, rfl⟩
  · rw [servedTenants_of_served rfl, if_neg hserved, h.made, h.databaseFor_eq, List.map_append]
    rfl

theorem Owned.request (h : c.Owned settings) (t : Tenant) (es : List Event) :
    (c.step (.request t es)).Owned settings := by
  by_cases hknown : t ∈ c.registry.caches.keys
  · exact h.request_of_known hknown es
  · rcases ask_of_new h.multiTenant hknown es with hfailed | hmade
    · exact h.request_of_failed hknown hfailed
    · exact h.request_of_made hknown rfl hmade

theorem owned_of (settings : ClickHouseSettings) (order : Nat → List Tenant)
    (xs : List CacheStep) : (of settings true order xs).Owned settings := by
  induction xs using List.reverseRecOn with
  | nil =>
    refine ⟨rfl, rfl, rfl, Registry.pending_empty settings true order, fun v hv => ?_,
      fun us v ws h => ?_, rfl⟩
    · cases hv
    · cases us <;> cases h
  | append_singleton xs x ih =>
    rw [of_concat]
    cases x with
    | request t es => exact ih.request t es
    | failInit fail =>
      exact ⟨ih.settings_eq, ih.multiTenant, ih.keys, ih.pending, ih.numbered, ih.asked, ih.made⟩

/-! ### A single tenant -/

/-- Everybody has the one cache, and the store is not asked for anything. -/
structure Shared (c : CacheSession) (settings : ClickHouseSettings) : Prop where
  registry : c.registry.settings = settings ∧ c.registry.multiTenant = false
  entries : c.registry.caches.entries = [(.none, c.requests.flatMap (·.events))]
  served : ∀ v ∈ c.requests, v.result = .ok 0 ∧ v.calls = []
  made : c.store.initialized = []

theorem Shared.request (h : c.Shared settings) (t : Tenant) (es : List Event) :
    (c.step (.request t es)).Shared settings := by
  have hscope := Registry.scope_of_single h.registry.2 t
  have hnumber : c.registry.cacheNumber t = 0 := by
    rw [Registry.cacheNumber, hscope, Keyed.keys, h.entries]
    simp
  rw [step, ask_of_known (.inl h.registry.2), hnumber]
  refine ⟨h.registry, ?_, ?_, h.made⟩
  · have hentries : (c.registry.append t es).caches.entries
        = Keyed.put .none (((Keyed.lookup .none c.registry.caches.entries).getD []) ++ es)
          c.registry.caches.entries := by rw [← hscope]; rfl
    rw [hentries, h.entries]
    simp [Keyed.put, Keyed.lookup]
  · rw [List.forall_mem_append]
    exact ⟨h.served, by simp⟩

theorem shared_of (settings : ClickHouseSettings) (order : Nat → List Tenant)
    (xs : List CacheStep) : (of settings false order xs).Shared settings := by
  induction xs using List.reverseRecOn with
  | nil => exact ⟨⟨rfl, rfl⟩, rfl, by simp [of], rfl⟩
  | append_singleton xs x ih =>
    rw [of_concat]
    cases x with
    | request t es => exact ih.request t es
    | failInit fail => exact ⟨ih.registry, ih.entries, ih.served, ih.made⟩

end CacheSession

/-- After any requests for caches, at any of which the store may have failed to make a database.
With many tenants, two requests that succeed get one cache if they agree in both ids; a request asks
for its tenant's database if no earlier one of the tenant succeeded, and else for nothing, so that
the databases made are those of the tenants served, in the order of their first success; a request
that fails says why and leaves the registry as it was; and each tenant that was served is listed
once, with its database and what was put into its cache, in the order of the first successes or, as
visits go, in any other. With a single tenant, all requests get the one cache, and no database is
asked for. -/
theorem caches_owned (settings : ClickHouseSettings) (order : Nat → List Tenant)
    (xs : List CacheStep) :
    let c := CacheSession.of settings true order xs
    let served := servedTenants c.requests
    let caches : List TenantCache := served.map fun t =>
      ⟨t, settings.tenantDatabase t.tenantId, eventsOf c.requests t⟩
    let single := CacheSession.of settings false order xs
    ((∀ v ∈ c.requests, ∀ w ∈ c.requests, ∀ i j, v.result = .ok i → w.result = .ok j →
        (i = j ↔ v.tenant.tenantId = w.tenant.tenantId ∧
          v.tenant.accountId = w.tenant.accountId)) ∧
      (∀ us v ws, c.requests = us ++ v :: ws → v.Asked settings (servedTenants us)) ∧
      c.store.initialized = served.map (fun t => settings.tenantDatabase t.tenantId) ∧
      (∀ t es e, (c.ask t es).1.result = .error e → (c.ask t es).2.1 = c.registry) ∧
      served.Nodup ∧ c.registry.tenantCount = served.length ∧
      c.registry.listed [] = caches ∧ c.registry.snapshot.Perm caches ∧
      (∀ cs, cs.Perm caches → ∃ order, c.registry.listed order = cs) ∧
      ∀ v ∈ c.requests, ∀ i, v.result = .ok i → served[i]? = some v.tenant) ∧
    (∀ v ∈ single.requests, v.result = .ok 0 ∧ v.calls = []) ∧ single.store.initialized = [] ∧
    single.registry.snapshot
      = [⟨.none, settings.database, single.requests.flatMap (·.events)⟩] := by
  intro c served caches single
  have h : c.Owned settings := CacheSession.owned_of settings order xs
  have h' : single.Shared settings := CacheSession.shared_of settings order xs
  have hlisted : c.registry.listed [] = caches := by
    have hkeys : (c.registry.caches.arrange []).keys = served := h.keys
    rw [Registry.listed_eq h.multiTenant, hkeys]
    refine List.map_congr_left fun t _ => ?_
    rw [h.pending, Registry.databaseFor_of_many h.multiTenant, h.settings_eq]
  refine ⟨⟨?_, h.asked, h.made, fun t es e => CacheSession.registry_of_ask_error,
    nodup_eraseDups _, ?_, hlisted, ?_, fun cs hcs => ?_, ?_⟩, h'.served, h'.made, ?_⟩
  · intro v hv w hw i j hi hj
    obtain ⟨hmem, rfl⟩ := h.numbered v hv i hi
    obtain ⟨-, rfl⟩ := h.numbered w hw j hj
    rw [List.idxOf_inj hmem, Tenant.eq_iff]
  · have hsize : c.registry.tenantCount = c.registry.caches.keys.length := by
      rw [Registry.tenantCount, Keyed.keys, List.length_map]
      rfl
    rw [hsize, h.keys]
  · rw [← hlisted]
    exact c.registry.listed_perm _
  · exact c.registry.exists_listed_iff.mpr (hlisted ▸ hcs)
  · intro v hv i hi
    obtain ⟨hmem, rfl⟩ := h.numbered v hv i hi
    exact List.getElem?_idxOf hmem
  · have hone : single.registry.listed []
        = [⟨.none, settings.database, single.requests.flatMap (·.events)⟩] := by
      have hentries : (single.registry.caches.arrange []).entries = _ := h'.entries
      rw [Registry.listed, hentries, List.map_singleton,
        Registry.databaseFor_of_single h'.registry.2, h'.registry.1]
    exact List.perm_singleton.mp (hone ▸ single.registry.listed_perm _)

end Ingest
