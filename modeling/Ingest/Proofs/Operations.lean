import Ingest.Ingestor
import Ingest.Store.Memory

/-!
Runs of a service in front of a memory store. Requests of agents and operators, and what else
happens to the service, are operations, and each gives an answer. A transcript is a service after a
run of operations, together with all that it answered.
-/

namespace Ingest

/-- What is asked of a service, and what else happens to it. -/
inductive Operation where
  | append (t : Tenant) (k : Kind) (es : List Event)
  | addSignal (x : Signal)
  | querySwitches (t : Tenant) (ip : String)
  | takeRequests (t : Tenant) (ip : String)
  | storeTrace (traceId : String) (t : Tenant)
  | traceTenant (traceId : String)
  | collect (now : UInt64)
  | flush
  | sweep
  | wait (nanos : Nat)
  | failTable (k : Kind) (fail : Bool)
  | failInit (fail : Bool)

namespace Operation

/-- The tenant that asks, if a tenant does. -/
def tenant? : Operation → Option Tenant
  | append t _ _ => some t
  | addSignal x => some x.tenant
  | querySwitches t _ => some t
  | takeRequests t _ => some t
  | storeTrace _ t => some t
  | _ => none

variable {x : Operation} {t u : Tenant}

/-- Whether an operation is a tenant's, or nobody's. -/
def concerns (x : Operation) (t : Tenant) : Bool := x.tenant?.all fun u => decide (u = t)

theorem concerns_of_some (h : x.tenant? = some u) : x.concerns t = decide (u = t) := by
  simp [concerns, h]

theorem of_not_concerns (h : x.concerns t = false) : ∃ u, x.tenant? = some u ∧ u ≠ t := by
  cases hx : x.tenant? with
  | none => simp [concerns, hx] at h
  | some u => exact ⟨u, rfl, by simpa [concerns, hx] using h⟩

theorem concerns_of_none (h : x.tenant? = none) : x.concerns t = true := by
  simp [concerns, h]

/-- The tables that fail after an operation. -/
def failing (x : Operation) (failing : List Kind) : List Kind :=
  match x with
  | failTable k fail => (({ failing } : MemoryStore).failTable k fail).failing
  | _ => failing

theorem failing_of_some (h : x.tenant? = some t) (failing : List Kind) :
    x.failing failing = failing := by
  cases x with
  | failTable => cases h
  | _ => rfl

end Operation

inductive Answer where
  | done
  | failed (e : TenantInitError)
  | switches (x : Switches)
  | requests (xs : List ProfileRequest)
  | tenant (t : Option Tenant)
  | collected (n : Nat)
  | flushed (r : FlushReport)
  deriving DecidableEq

namespace Ingestor

def perform (s : Ingestor MemoryStore) : Operation → Answer × Ingestor MemoryStore
  | .append t k es =>
    match s.append MemoryStore.backend t k es with
    | (.ok _, s) => (.done, s)
    | (.error e, s) => (.failed e, s)
  | .addSignal x => (.done, s.addSignal x)
  | .querySwitches t ip =>
    let (switches, s) := s.querySwitches t ip
    (.switches switches, s)
  | .takeRequests t ip =>
    let (requests, s) := s.takeRequests t ip
    (.requests requests, s)
  | .storeTrace traceId t => (.done, s.storeTrace traceId t)
  | .traceTenant traceId => (.tenant (s.traces.tenant? traceId), s)
  | .collect now =>
    match s.collect MemoryStore.backend now with
    | (.ok n, s) => (.collected n, s)
    | (.error e, s) => (.failed e, s)
  | .flush =>
    let (report, s) := s.flush MemoryStore.backend
    (.flushed report, s)
  | .sweep => (.done, s.sweep)
  | .wait nanos => (.done, { s with sink.clock := s.sink.clock + nanos })
  | .failTable k fail => (.done, { s with sink.store := s.sink.store.failTable k fail })
  | .failInit fail => (.done, { s with sink.store := s.sink.store.failInit fail })

end Ingestor

structure Transcript where
  service : Ingestor MemoryStore
  answers : List (Operation × Answer) := []

namespace Transcript

def step (h : Transcript) (x : Operation) : Transcript where
  service := (h.service.perform x).2
  answers := h.answers ++ [(x, (h.service.perform x).1)]

/-- A new service after operations. -/
def of (settings : Settings) (env : Environment) (xs : List Operation) : Transcript :=
  xs.foldl step { service := .new settings {} env }

theorem of_concat (settings : Settings) (env : Environment) (xs : List Operation) (x : Operation) :
    of settings env (xs ++ [x]) = (of settings env xs).step x := by
  simp [of]

/-- The answers to what a tenant asked. -/
def answersTo (h : Transcript) (t : Tenant) : List (Operation × Answer) :=
  h.answers.filter fun y => decide (y.1.tenant? = some t)

/-- The batches written to a database, first one first. -/
def batchesIn (h : Transcript) (database : String) : List Batch :=
  h.service.sink.store.batches.filter fun b => decide (b.database = database)

end Transcript

end Ingest
