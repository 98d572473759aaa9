import Ingest.Record.Event
import Ingest.Store.Backend
import Ingest.Tenant.Database
import Ingest.Text.Quoted

/-!
The caches of tenants: for each tenant the events that wait for the next flush, in the order in which
they came. A service for many tenants makes a tenant's cache on first use, when the store has made its
database ready; one for a single tenant has one cache, which belongs to nobody. A flush visits the
caches in an order of its own, which nothing here decides.
-/

namespace Ingest

/-- The events waiting in one tenant's cache, and where they will be written. -/
structure TenantCache where
  tenant : Tenant
  database : String
  pending : List Event

structure Registry where
  settings : ClickHouseSettings
  multiTenant : Bool
  /-- The cache of each tenant; with a single tenant, of nobody. -/
  caches : Keyed Tenant (List Event)
  /-- In which order each visit meets the caches; those that are not listed come last. -/
  order : Nat → List Tenant := fun _ => []
  /-- How many visits there were. -/
  visits : Nat := 0

/-- The database of a tenant could not be made ready. -/
structure TenantInitError where
  tenant : Tenant
  database : String
  cause : InitError
  deriving DecidableEq, Repr

/-- The error and what it rests on, outermost first. -/
def TenantInitError.causes (e : TenantInitError) : List String :=
  ("initializing database " ++ e.database ++ " for tenant " ++ Text.quoted e.tenant.tenantId)
    :: e.cause.causes

/-- A request for a cache that was refused: why, and the registry after it. -/
structure Refusal where
  error : TenantInitError
  registry : Registry

def Refusal.causes (x : Refusal) : List String := x.error.causes

namespace Registry

def empty (settings : ClickHouseSettings) (multiTenant : Bool)
    (order : Nat → List Tenant := fun _ => []) : Registry where
  settings
  multiTenant
  caches := if multiTenant then .empty else Keyed.empty.insert Tenant.none []
  order

/-- The tenant whose cache serves a tenant. -/
def scope (r : Registry) (t : Tenant) : Tenant := if r.multiTenant then t else .none

/-- The database that a tenant's records are written to. -/
def databaseFor (r : Registry) (t : Tenant) : String :=
  if r.multiTenant then r.settings.tenantDatabase t.tenantId else r.settings.database

def pending (r : Registry) (t : Tenant) : List Event := r.caches.getD (r.scope t) []

/-- Makes sure that a tenant has a cache; a new one needs its database made ready first. -/
def enroll {σ : Type} (b : Backend σ) (r : Registry) (t : Tenant) (s : σ) :
    Except Refusal Registry × σ :=
  if !r.multiTenant || r.caches.contains t then (.ok r, s)
  else
    let database := r.databaseFor t
    match b.initDatabase s database with
    | (.error cause, s) => (.error ⟨⟨t, database, cause⟩, r⟩, s)
    | (.ok _, s) => (.ok { r with caches := r.caches.insert t [] }, s)

/-- The number of a tenant's cache: caches are numbered in the order in which they were made. -/
def cacheNumber (r : Registry) (t : Tenant) : Nat := r.caches.keys.idxOf (r.scope t)

/-- Adds events to a tenant's cache. -/
def append (r : Registry) (t : Tenant) (es : List Event) : Registry :=
  { r with caches := r.caches.alter (r.scope t) fun old => old.getD [] ++ es }

/-- Empties every cache. -/
def drained (r : Registry) : Registry :=
  { r with caches := r.caches.mapValues fun _ _ => [], visits := r.visits + 1 }

/-- Every cache: those of the listed tenants first, in the order of the list. -/
def listed (r : Registry) (order : List Tenant) : List TenantCache :=
  (r.caches.arrange order).entries.map fun e => ⟨e.1, r.databaseFor e.1, e.2⟩

/-- Every cache, in the order in which the next visit meets them. -/
def snapshot (r : Registry) : List TenantCache := r.listed (r.order r.visits)

/-- Every cache, sorted by tenant. -/
def listing (r : Registry) : List TenantCache :=
  r.snapshot.mergeSort fun a b => a.tenant.le b.tenant

def tenantCount (r : Registry) : Nat := r.caches.size

end Registry

end Ingest
