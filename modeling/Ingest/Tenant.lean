/-!
Tenant identity. A request belongs to the tenant named by a tenant id and an account id together;
a request without tenant information belongs to the tenant whose two ids are empty.
-/

namespace Ingest

/-- Identity of one tenant: both ids count. -/
structure Tenant where
  tenantId : String
  accountId : String
  deriving DecidableEq, Repr, Inhabited

namespace Tenant

/-- The tenant of requests that carry none. -/
def none : Tenant := ⟨"", ""⟩

def isNone (t : Tenant) : Bool := t.tenantId.isEmpty && t.accountId.isEmpty

/-- Order of listings: by tenant id, then by account id. -/
def le (a b : Tenant) : Bool :=
  a.tenantId < b.tenantId || (a.tenantId == b.tenantId && decide (a.accountId ≤ b.accountId))

end Tenant

end Ingest
