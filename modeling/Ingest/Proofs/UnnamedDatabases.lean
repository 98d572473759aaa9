import Ingest.Proofs.DatabaseSetup
import Ingest.Proofs.Deposits
import Ingest.Proofs.FirstFault
import Ingest.Proofs.HandOver
import Ingest.Proofs.SingleTenant

/-!
Tenants that are left without a database. Valid settings name the database of a single tenant, and
a pattern with more than holes in it gives every tenant a name; but the map may give the empty name,
and a pattern of holes only gives the empty id nothing. Main statement: with valid settings a tenant
has no database in just these two cases, and in front of a store that makes a database only if it
has a name the requests that fail are those for such tenants, at any point of any run. Settings that
pass and leave tenants without a name stand at the end.
-/

namespace Ingest

variable {σ : Type}

/-! ### Names -/

namespace Pattern

/-- A pattern of holes only. -/
def holes (n : Nat) : String := String.join (List.replicate n tenantHole)

theorem parse_holes (n : Nat) : parse (holes n) = List.replicate n .hole := by
  induction n with
  | zero => rfl
  | succ n ih =>
    have hparse := parse_append "" (holes n)
    have hholes : holes (n + 1) = "" ++ tenantHole ++ holes n := by
      rw [holes, List.replicate_succ, String.join_cons, String.empty_append]
      rfl
    rw [hholes, hparse, ih]
    rfl

theorem parse_inj {p q : String} (h : parse p = parse q) : p = q := by
  rw [← fill_tenantHole p, ← fill_tenantHole q, fill, fill, h]

/-- A pattern is filled to nothing only if it has holes only, and nothing is put into them. -/
theorem fill_eq_empty_iff {pattern id : String} (h : hasHole pattern = true) :
    fill pattern id = "" ↔ id = "" ∧ ∃ n, pattern = holes (n + 1) := by
  rw [hasHole, decide_eq_true_eq] at h
  constructor
  · intro hempty
    have hfilled : ∀ p ∈ parse pattern, fillPiece id.toList p = [] := by
      rw [fill, ← String.toList_inj] at hempty
      simpa using hempty
    -- A character would be left of what is filled.
    have hholes : ∀ p ∈ parse pattern, p = .hole := fun p hp => by
      cases p with
      | char c => cases hfilled _ hp
      | hole => rfl
    have hparse : parse pattern = parse (holes (parse pattern).length) := by
      rw [parse_holes]
      exact List.eq_replicate_iff.mpr ⟨rfl, hholes⟩
    refine ⟨String.toList_inj.mp (hfilled _ h), (parse pattern).length - 1, ?_⟩
    rw [Nat.sub_add_cancel (List.length_pos_of_mem h)]
    exact parse_inj hparse
  · rintro ⟨rfl, n, rfl⟩
    simp [fill, parse_holes, fillPiece]

end Pattern

namespace ClickHouseSettings

/-- Whether a tenant id is left without a database: the map gives it the empty name, or it is empty,
not in the map, and the pattern has nothing but holes for it. -/
def LeavesUnnamed (c : ClickHouseSettings) (id : String) : Prop :=
  c.tenantDbMap.get? id = some "" ∨
    c.tenantDbMap.get? id = none ∧ id = "" ∧ ∃ n, c.tenantDbPattern = Pattern.holes (n + 1)

/-- The pattern in use has holes only if it is the configured one. -/
theorem exists_tenantPattern_iff (c : ClickHouseSettings) :
    (∃ n, c.tenantPattern = Pattern.holes (n + 1))
      ↔ ∃ n, c.tenantDbPattern = Pattern.holes (n + 1) := by
  rw [tenantPattern]
  split
  · next hempty =>
    -- Neither a pattern that is not configured nor the built-in one has holes only.
    rw [String.isEmpty_iff] at hempty
    have hconfigured (n : Nat) : Pattern.parse "" ≠ List.replicate (n + 1) .hole := by
      simp [Pattern.parse, Pattern.pieces, List.replicate_succ]
    have hdefault (n : Nat) :
        Pattern.parse defaultTenantPattern ≠ List.replicate (n + 1) .hole := fun h => by
      have hchar : Piece.char 'a' ∈ Pattern.parse defaultTenantPattern := by decide +kernel
      rw [h] at hchar
      cases (List.mem_replicate.mp hchar).2
    constructor
    · rintro ⟨n, hn⟩
      exact absurd (hn ▸ Pattern.parse_holes _) (hdefault n)
    · rintro ⟨n, hn⟩
      exact absurd (hempty ▸ hn ▸ Pattern.parse_holes _) (hconfigured n)
  · rfl

theorem tenantDatabase_eq_empty_iff {c : ClickHouseSettings}
    (h : Pattern.hasHole c.tenantPattern = true) (id : String) :
    c.tenantDatabase id = "" ↔ c.LeavesUnnamed id := by
  cases hmapped : c.tenantDbMap.get? id with
  | none => simp [tenantDatabase_of_none hmapped, Pattern.fill_eq_empty_iff h,
      c.exists_tenantPattern_iff, LeavesUnnamed, hmapped]
  | some database => simp [tenantDatabase_of_some hmapped, LeavesUnnamed, hmapped]

end ClickHouseSettings

/-- A tenant has no database only in a service for many tenants, and if its id is left unnamed. -/
theorem Registry.databaseFor_eq_empty_iff {settings : Settings} (h : settings.validate = .ok ())
    {r : Registry} (hr : r.settings = settings.clickhouse) (t : Tenant) :
    r.databaseFor t = ""
      ↔ r.multiTenant = true ∧ settings.clickhouse.LeavesUnnamed t.tenantId := by
  cases hmany : r.multiTenant with
  | false =>
    have hnamed : settings.clickhouse.database ≠ "" := (Settings.validate_eq_ok_iff.mp h).database
    simp [databaseFor_of_single hmany, hr, hnamed]
  | true =>
    have hhole := Settings.hasHole_of_validate h
    simp [databaseFor_of_many hmany, hr, ClickHouseSettings.tenantDatabase_eq_empty_iff hhole]

/-! ### Requests -/

/-- Whether a store makes a database just if it has a name. -/
def Backend.WantsNames (b : Backend σ) : Prop :=
  ∀ s database, (b.initDatabase s database).1 = .ok () ↔ database ≠ ""

theorem Settings.databaseOf_owner (settings : Settings) (t : Tenant) :
    settings.databaseOf (settings.owner t) = settings.databaseOf t := by
  by_cases h : settings.tenancy.enabled <;> simp [databaseOf, owner, h]

/-- Whether a database was refused because it has no name, to a tenant that has none. -/
def TenantInitError.WantsName (e : TenantInitError) (settings : Settings) : Prop :=
  e.database = "" ∧ settings.databaseOf e.tenant = ""

namespace Ingestor

/-- A service with some settings, none of whose caches is without a database. -/
structure CachesNamed (settings : Settings) (s : Ingestor σ) : Prop where
  configured : s.registry.settings = settings.clickhouse
  multiTenant : s.registry.multiTenant = settings.tenancy.enabled
  named : ∀ t ∈ s.registry.caches.keys, settings.databaseOf t ≠ ""

namespace CachesNamed

variable {b : Backend σ} {settings : Settings} {s : Ingestor σ}

theorem scope_eq (h : s.CachesNamed settings) (t : Tenant) :
    s.registry.scope t = settings.owner t :=
  Registry.scope_eq_owner h.multiTenant t

theorem databaseFor_eq (h : s.CachesNamed settings) (t : Tenant) :
    s.registry.databaseFor t = settings.databaseOf t :=
  Registry.databaseFor_eq_databaseOf h.configured h.multiTenant t

theorem new (hname : settings.clickhouse.database ≠ "") (env : Environment) (store : σ) :
    (Ingestor.new settings store env).CachesNamed settings := by
  refine ⟨rfl, rfl, fun t ht => ?_⟩
  have hcaches : (Ingestor.new settings store env).registry.caches
      = if settings.tenancy.enabled then .empty else Keyed.empty.insert Tenant.none [] := rfl
  rw [hcaches] at ht
  cases hmany : settings.tenancy.enabled with
  | false => simpa [Settings.databaseOf, hmany] using hname
  | true => simp [hmany, Keyed.keys, Keyed.empty] at ht

/-- Whether a tenant gets a cache is told by the name of its database. -/
theorem openCache_cases (hb : b.WantsNames) (hname : settings.clickhouse.database ≠ "")
    (h : s.CachesNamed settings) (t : Tenant) :
    (settings.databaseOf t ≠ "" ∧
      ∃ s', s.openCache b t = (.ok (), s') ∧ s'.CachesNamed settings) ∨
    settings.databaseOf t = "" ∧ ∃ cause s', s.openCache b t = (.error ⟨t, "", cause⟩, s') ∧
      s'.CachesNamed settings := by
  have hmakes := hb s.sink.store (settings.databaseOf t)
  rcases s.registry.enroll_cases b t s.sink.store with
    ⟨hknown, heq⟩ | ⟨-, hnew, ⟨cause, store, hinit, heq⟩ | ⟨store, hinit, heq⟩⟩
  · have hnamed : settings.databaseOf t ≠ "" := by
      rcases hknown with hsingle | hcached
      · simpa [Settings.databaseOf, h.multiTenant ▸ hsingle] using hname
      · exact h.named t hcached
    exact .inl ⟨hnamed, s, by rw [openCache, heq], h⟩
  · rw [h.databaseFor_eq] at hinit heq
    have hunnamed : settings.databaseOf t = "" := by
      by_contra hnamed
      have hmade := hmakes.mpr hnamed
      rw [hinit] at hmade
      cases hmade
    rw [hunnamed] at heq
    exact .inr ⟨hunnamed, cause, { s with sink := { s.sink with store } }, by rw [openCache, heq],
      h.configured, h.multiTenant, h.named⟩
  · rw [h.databaseFor_eq] at hinit
    have hnamed : settings.databaseOf t ≠ "" := hmakes.mp (by rw [hinit])
    let registry := { s.registry with caches := s.registry.caches.insert t [] }
    have hopen : s.openCache b t
        = (.ok (), { s with registry, sink := { s.sink with store } }) := by rw [openCache, heq]
    refine .inl ⟨hnamed, _, hopen, h.configured, h.multiTenant, fun u hu => ?_⟩
    have hkeys : registry.caches.keys = s.registry.caches.keys ++ [t] := by
      rw [Keyed.keys_insert, if_neg hnew]
    rcases List.mem_append.mp (hkeys ▸ hu) with hold | hadded
    · exact h.named u hold
    · rwa [List.mem_singleton.mp hadded]

/-- What is deposited for a tenant whose database has a name goes into a cache of that name. -/
theorem append (h : s.CachesNamed settings) {t : Tenant} (ht : settings.databaseOf t ≠ "")
    (es : List Event) :
    Ingestor.CachesNamed settings { s with registry := s.registry.append t es } := by
  refine ⟨h.configured, h.multiTenant, fun u hu => ?_⟩
  have hkeys : (s.registry.append t es).caches.keys
      = if s.registry.scope t ∈ s.registry.caches.keys then s.registry.caches.keys
        else s.registry.caches.keys ++ [s.registry.scope t] := Keyed.keys_insert _ _ _
  rw [hkeys] at hu
  split at hu
  · exact h.named u hu
  · rcases List.mem_append.mp hu with hold | hadded
    · exact h.named u hold
    · rwa [List.mem_singleton.mp hadded, h.scope_eq, settings.databaseOf_owner]

theorem deposit_cases (hb : b.WantsNames) (hname : settings.clickhouse.database ≠ "")
    (h : s.CachesNamed settings) (t : Tenant) (es : List Event) :
    (settings.databaseOf t ≠ "" ∧
      ∃ s', s.deposit b t es = (.ok (), s') ∧ s'.CachesNamed settings) ∨
    settings.databaseOf t = "" ∧ ∃ cause s', s.deposit b t es = (.error ⟨t, "", cause⟩, s') ∧
      s'.CachesNamed settings := by
  rcases h.openCache_cases hb hname t with ⟨ht, s', hopen, h'⟩ | ⟨ht, cause, s', hopen, h'⟩
  · exact .inl ⟨ht, _, by rw [deposit, hopen], h'.append ht es⟩
  · exact .inr ⟨ht, cause, s', by rw [deposit, hopen], h'⟩

theorem keptByDeposits (hb : b.WantsNames) (hname : settings.clickhouse.database ≠ "") :
    KeptByDeposits b (CachesNamed settings) where
  deposit h t es := by
    rcases h.deposit_cases hb hname t es with ⟨-, s', heq, h'⟩ | ⟨-, cause, s', heq, h'⟩ <;>
      rwa [heq]
  rest h _ _ := ⟨h.configured, h.multiTenant, h.named⟩

theorem serve (hb : b.WantsNames) (hname : settings.clickhouse.database ≠ "")
    (h : s.CachesNamed settings) (x : Request) : (s.serve b x).2.CachesNamed settings := by
  cases x with
  | append t k es =>
    have happend := (keptByDeposits hb hname).append h t k es
    rw [Ingestor.serve]
    split <;> next heq => rwa [heq] at happend
  | collect now =>
    have hcollect := (keptByDeposits hb hname).collect h now
    rw [Ingestor.serve]
    split <;> next heq => rwa [heq] at hcollect
  | flush =>
    refine ⟨h.configured, h.multiTenant, fun t ht => h.named t ?_⟩
    have hkeys : s.registry.drained.caches.keys = s.registry.caches.keys := by
      simp [Registry.drained, Keyed.mapValues, Keyed.keys, Function.comp_def]
    exact hkeys ▸ ht
  | _ => exact ⟨h.configured, h.multiTenant, h.named⟩

/-- A deposit of metrics fails only for want of a name. -/
theorem wantsName_of_depositMetrics (hb : b.WantsNames)
    (hname : settings.clickhouse.database ≠ "") :
    ∀ (groups : List (Tenant × List ReportMetric)) {s : Ingestor σ} {e : TenantInitError},
      s.CachesNamed settings → (s.depositMetrics b groups).1 = .error e → e.WantsName settings
  | [], _, _, _, he => by cases he
  | (t, ms) :: groups, s, e, h, he => by
    rw [depositMetrics] at he
    rcases h.deposit_cases hb hname t (ms.map .reportMetric) with
      ⟨-, s', heq, h'⟩ | ⟨ht, cause, s', heq, -⟩ <;> rw [heq] at he
    · exact wantsName_of_depositMetrics hb hname groups h' he
    · cases he
      exact ⟨rfl, ht⟩

/-- A request fails only for want of a name. -/
theorem wantsName_of_serve (hb : b.WantsNames) (hname : settings.clickhouse.database ≠ "")
    (h : s.CachesNamed settings) (x : Request) {e : TenantInitError}
    (he : (s.serve b x).1 = .failed e) : e.WantsName settings := by
  cases x with
  | append t k es =>
    rw [Ingestor.serve, Ingestor.append] at he
    by_cases hes : es.isEmpty = true
    · rw [if_pos hes] at he
      cases he
    · rw [if_neg hes] at he
      rcases h.deposit_cases hb hname t es with ⟨-, s', heq, -⟩ | ⟨ht, cause, s', heq, -⟩ <;>
        rw [heq] at he
      · cases he
      · cases he
        exact ⟨rfl, ht⟩
  | collect now =>
    have hsignals : CachesNamed settings { s with signals := (s.signals.collect now).2 } :=
      ⟨h.configured, h.multiTenant, h.named⟩
    have hgroups (e : TenantInitError) :=
      wantsName_of_depositMetrics (e := e) hb hname (s.signals.collect now).1 hsignals
    rw [Ingestor.serve, Ingestor.collect] at he
    dsimp only at he
    cases hx : depositMetrics b { s with signals := (s.signals.collect now).2 }
        (s.signals.collect now).1 with
    | mk answer s' =>
      rw [hx] at he hgroups
      cases answer with
      | ok _ => cases he
      | error e' =>
        cases he
        exact hgroups e rfl
  | _ => cases he

/-- Events are taken in unless their tenant wants a name. -/
theorem failed_append_iff (hb : b.WantsNames) (hname : settings.clickhouse.database ≠ "")
    (h : s.CachesNamed settings) (t : Tenant) (k : Kind) {es : List Event} (hes : es ≠ []) :
    (∃ e, (s.serve b (.append t k es)).1 = .failed e) ↔ settings.databaseOf t = "" := by
  have hne : ¬ es.isEmpty = true := by simpa using hes
  rw [Ingestor.serve, Ingestor.append, if_neg hne]
  rcases h.deposit_cases hb hname t es with ⟨ht, s', heq, -⟩ | ⟨ht, cause, s', heq, -⟩ <;>
    simp [heq, ht]

end CachesNamed

end Ingestor

namespace ServiceRun

variable {b : Backend σ} {settings : Settings}

/-- No cache is ever without a database, by induction on the requests. -/
theorem cachesNamed_of (hb : b.WantsNames) (hname : settings.clickhouse.database ≠ "")
    (env : Environment) (store : σ) (xs : List Request) :
    (of b settings env store xs).service.CachesNamed settings := by
  induction xs using List.reverseRecOn with
  | nil => exact .new hname env store
  | append_singleton xs x ih =>
    rw [of_concat]
    exact ih.serve hb hname x

theorem wantsName_of_failed (hb : b.WantsNames) (hname : settings.clickhouse.database ≠ "")
    (env : Environment) (store : σ) (xs : List Request) :
    ∀ e, .failed e ∈ (of b settings env store xs).answers → e.WantsName settings := by
  induction xs using List.reverseRecOn with
  | nil => simp [of]
  | append_singleton xs x ih =>
    intro e he
    rw [of_concat, step, List.mem_append, List.mem_singleton] at he
    rcases he with hbefore | hlast
    · exact ih e hbefore
    · exact (cachesNamed_of hb hname env store xs).wantsName_of_serve hb hname x hlast.symm

end ServiceRun

/-! ### ClickHouse servers -/

namespace ClickHouse

/-- Whether a server refuses to make a database without a name, and takes every other query. -/
structure Server.RefusesUnnamed (server : Server) : Prop where
  refuses : ∀ sent cluster, ∃ fault, server.answer sent (.createDatabase "" cluster) = .error fault
  takes : ∀ sent q, (∀ cluster, q ≠ .createDatabase "" cluster) →
    ∃ names, server.answer sent q = .ok names

/-- Of the queries for a database that has a name none asks for one without. -/
theorem ne_createDatabase_of_mem_setup {c : ClickHouseSettings} {database : String}
    {tables : List String} {q : Query} (hname : database ≠ "") (hq : q ∈ setup c database tables)
    (cluster : Option String) : q ≠ .createDatabase "" cluster := by
  rcases mem_setup.mp hq with rfl | rfl | ⟨k, -, rfl | ⟨-, -, rfl⟩⟩ <;> simp [hname]

theorem Store.wantsNames {s : Store} (h : s.server.RefusesUnnamed) : s.backend.WantsNames := by
  intro sent database
  let create := Query.createDatabase database (scope s.settings)
  obtain ⟨tables, hlist⟩ := h.takes (sent ++ [create]) (.listTables database) (by simp)
  have hreports : s.Reports sent database tables := fun names hnames => by
    rw [← Except.ok.inj (hlist.symm.trans hnames)]
    exact fun _ => Iff.rfl
  rcases initDatabase_carriesOut hreports with
    ⟨haccepts, heq⟩ | ⟨before, q, after, fault, hplan, -, hfault, heq⟩
  · have hnamed : database ≠ "" := by
      rintro rfl
      obtain ⟨⟨names, htaken⟩, -⟩ := haccepts
      obtain ⟨fault, hrefused⟩ := h.refuses sent (scope s.settings)
      rw [hrefused] at htaken
      cases htaken
    exact iff_of_true (congrArg Prod.fst heq) hnamed
  · have hunnamed : database = "" := by
      by_contra hnamed
      have hq : q ∈ setup s.settings database tables := by simp [hplan]
      obtain ⟨names, htaken⟩ :=
        h.takes (sent ++ before) q (ne_createDatabase_of_mem_setup hnamed hq)
      rw [htaken] at hfault
      cases hfault
    refine iff_of_false (fun hok => ?_) (not_not_intro hunnamed)
    cases (congrArg Prod.fst heq).symm.trans hok

end ClickHouse

/-! ### Which requests fail -/

/-- With valid settings the database of a tenant has no name just if there are many tenants and its
id is left unnamed. In front of a store that makes a database only if it has a name, events are
refused just if they are for such a tenant, whatever was asked of the service before and in whichever
environment; and nothing else that is asked of it ever fails. -/
theorem requests_fail_for_unnamed_tenants (settings : Settings) (h : settings.validate = .ok ()) :
    (∀ r : Registry, r.settings = settings.clickhouse → ∀ t, r.databaseFor t = ""
      ↔ r.multiTenant = true ∧ settings.clickhouse.LeavesUnnamed t.tenantId) ∧
    ∀ b : Backend σ, b.WantsNames → ∀ env store xs,
      let r := ServiceRun.of b settings env store xs
      (∀ t k es, es ≠ [] → ((∃ e, (r.service.serve b (.append t k es)).1 = .failed e)
        ↔ settings.tenancy.enabled = true ∧ settings.clickhouse.LeavesUnnamed t.tenantId)) ∧
      ∀ e, .failed e ∈ r.answers → e.database = "" ∧ settings.tenancy.enabled = true ∧
        settings.clickhouse.LeavesUnnamed e.tenant.tenantId := by
  have hname : settings.clickhouse.database ≠ "" := (Settings.validate_eq_ok_iff.mp h).database
  have hunnamed (t : Tenant) : settings.databaseOf t = ""
      ↔ settings.tenancy.enabled = true ∧ settings.clickhouse.LeavesUnnamed t.tenantId :=
    Registry.databaseFor_eq_empty_iff h
      (r := .empty settings.clickhouse settings.tenancy.enabled) rfl t
  refine ⟨fun r hr => Registry.databaseFor_eq_empty_iff h hr, fun b hb env store xs => ?_⟩
  refine ⟨fun t k es hes => ?_, fun e he => ?_⟩
  · rw [← hunnamed]
    exact (ServiceRun.cachesNamed_of hb hname env store xs).failed_append_iff hb hname t k hes
  · obtain ⟨hempty, hwants⟩ := ServiceRun.wantsName_of_failed hb hname env store xs e he
    exact ⟨hempty, (hunnamed e.tenant).mp hwants⟩

/-- A map that names nothing, and a pattern that is one hole: of three tenants one is served. -/
theorem requests_fail_for_unnamed_tenants_bare_pattern :
    let settings : Settings := {
      clickhouse := {
        endpoint := "store:9000"
        tenantDbMap := Keyed.empty.insert "acme" ""
        tenantDbPattern := tenantHole }
      tenancy := { enabled := true } }
    let server : ClickHouse.Server := ⟨fun _ q => match q with
      | .createDatabase "" _ => .error ⟨"DB::Exception", 62, "Syntax error"⟩
      | _ => .ok []⟩
    let s : ClickHouse.Store := ⟨settings.clickhouse, server⟩
    let bank : Tenant := ⟨"bank", "1"⟩
    let acme : Tenant := ⟨"acme", "1"⟩
    let r := ServiceRun.of s.backend settings {} [] [.append bank .jvmGc [.jvmGc .zero]]
    settings.validate = .ok () ∧ s.backend.WantsNames ∧ r.answers = [.done] ∧
      r.service.registry.snapshot.map (·.database) = ["bank"] ∧
      ∀ t ∈ [acme, .none], settings.clickhouse.LeavesUnnamed t.tenantId ∧
        ∃ e, (r.service.serve s.backend (.append t .jvmGc [.jvmGc .zero])).1 = .failed e := by
  intro settings server s bank acme r
  have hvalid : settings.validate = .ok () := by decide +kernel
  have hwants : s.backend.WantsNames := ClickHouse.Store.wantsNames {
    refuses := fun _ _ => ⟨_, rfl⟩
    takes := fun _ q hq => by
      refine ⟨[], ?_⟩
      dsimp only [s, server]
      split
      · next cluster => exact absurd rfl (hq cluster)
      · rfl }
  obtain ⟨-, hserves⟩ := requests_fail_for_unnamed_tenants settings hvalid
  obtain ⟨hfails, -⟩ := hserves s.backend hwants {} [] [.append bank .jvmGc [.jvmGc .zero]]
  refine ⟨hvalid, hwants, by decide +kernel, by decide +kernel, ?_⟩
  have hleft : ∀ t ∈ [acme, .none], settings.clickhouse.LeavesUnnamed t.tenantId := by
    intro t ht
    rcases List.mem_pair.mp ht with rfl | rfl
    · exact .inl (by decide +kernel)
    · exact .inr ⟨by decide +kernel, rfl, 0, by decide +kernel⟩
  exact fun t ht => ⟨hleft t ht, (hfails t .jvmGc [.jvmGc .zero] (by simp)).mpr ⟨rfl, hleft t ht⟩⟩

/-- Settings may pass and leave two tenants without a name for their database. -/
theorem accepted_settings_without_name :
    let settings : Settings := {
      clickhouse := {
        endpoint := "store:9000"
        tenantDbMap := Keyed.empty.insert "acme" ""
        tenantDbPattern := tenantHole } }
    let r := Registry.empty settings.clickhouse true
    settings.validate = .ok () ∧ r.databaseFor ⟨"acme", "1"⟩ = "" ∧ r.databaseFor .none = "" := by
  decide +kernel

end Ingest
