import Std.Data.TreeMap
import Ingest.Tenant

/-!
The tenant of each trace, for requests that carry only a trace id. The cache is bounded: when it is
full, a trace it does not know yet is not taken in.
-/

namespace Ingest

structure TraceCache where
  capacity : Nat
  tenants : Std.TreeMap String Tenant := {}

namespace TraceCache

def store (c : TraceCache) (traceId : String) (t : Tenant) : TraceCache :=
  if c.tenants.contains traceId || c.tenants.size < c.capacity then
    { c with tenants := c.tenants.insert traceId t }
  else c

def tenant? (c : TraceCache) (traceId : String) : Option Tenant := c.tenants[traceId]?

/-- Marks a trace as used. What is kept does not depend on use. -/
def touch (c : TraceCache) (_ : String) : TraceCache := c

def size (c : TraceCache) : Nat := c.tenants.size

end TraceCache

end Ingest
