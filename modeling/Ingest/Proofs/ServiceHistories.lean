import Mathlib.Data.List.Induction
import Ingest.Proofs.BatchWriting
import Ingest.Proofs.Deposits
import Ingest.Proofs.Operations

/-!
Histories of a service in front of a memory store that may fail to make databases and to take
batches. Beside the operations of tenants and operators, caches are opened and statements closed. A
history remembers how each flush found the service, and which requests failed: none, as long as
databases can be made.
-/

namespace Ingest

/-- An operation on a service, or what else is done with its caches and statements. -/
inductive ServiceStep where
  | perform (x : Operation)
  | openCache (t : Tenant)
  | closeStatement (id : Nat)
  | closeStatements

def ServiceStep.isFlush : ServiceStep → Bool
  | perform .flush => true
  | _ => false

def Answer.failure? : Answer → Option TenantInitError
  | failed e => some e
  | _ => none

/-- What a step makes of a service, and why it failed if it did. -/
def Ingestor.advance (s : Ingestor MemoryStore) :
    ServiceStep → Option TenantInitError × Ingestor MemoryStore
  | .perform x => ((s.perform x).1.failure?, (s.perform x).2)
  | .openCache t =>
    match s.openCache MemoryStore.backend t with
    | (.ok _, s) => (none, s)
    | (.error e, s) => (some e, s)
  | .closeStatement id => (none, { s with sink.statements := s.sink.statements.close id })
  | .closeStatements => (none, s.closeStatements)

structure ServiceHistory where
  service : Ingestor MemoryStore
  /-- The service as each flush found it. -/
  flushed : List (Ingestor MemoryStore) := []
  failures : List TenantInitError := []

namespace ServiceHistory

def step (h : ServiceHistory) (x : ServiceStep) : ServiceHistory where
  service := (h.service.advance x).2
  flushed := h.flushed ++ if x.isFlush then [h.service] else []
  failures := h.failures ++ (h.service.advance x).1.toList

/-- A new service after some steps. -/
def of (settings : Settings) (env : Environment) (xs : List ServiceStep) : ServiceHistory :=
  xs.foldl step { service := .new settings {} env }

theorem of_concat (settings : Settings) (env : Environment) (xs : List ServiceStep)
    (x : ServiceStep) : of settings env (xs ++ [x]) = (of settings env xs).step x := by
  simp [of]

end ServiceHistory

/-! ### Failures -/

theorem Sink.Recording.of_made {w : Sink MemoryStore} (h : w.Recording) {store : MemoryStore}
    (hstore : ∃ made, store = { w.store with initialized := made }) :
    Recording { w with store } := by
  obtain ⟨made, rfl⟩ := hstore
  exact ⟨h.filed, h.keeps, h.makes⟩

/-- Where databases can be made an operation fails nobody, one case for each operation. -/
theorem Ingestor.served_perform {s : Ingestor MemoryStore} (h : s.sink.Recording) {x : Operation}
    (hx : x ≠ .failInit true) :
    (s.perform x).1.failure? = none ∧ (s.perform x).2.sink.Recording := by
  have hmakes := MemoryStore.makes_databases h.makes
  cases x with
  | append t k es =>
    by_cases hes : es = []
    · subst hes
      exact ⟨rfl, h⟩
    · obtain ⟨s', hdeposit, hready, -, registry, store, rfl⟩ :=
        deposit_of_makes hmakes ⟨_, rfl⟩ t es
      have hperform : s.perform (.append t k es) = (.done, countAppended
          { s with registry, sink := { s.sink with store } } k es.length) := by
        simp [perform, append, hes, hdeposit]
      rw [hperform]
      exact ⟨rfl, h.of_made hready⟩
  | collect now =>
    obtain ⟨s', hcollect, hready, -, registry, store, counters, rfl⟩ :=
      collect_of_makes hmakes ⟨_, rfl⟩ now
    rw [perform, hcollect]
    exact ⟨rfl, h.of_made hready⟩
  | flush => exact ⟨rfl, (Sink.flush_memory h _ _).1⟩
  | sweep => exact ⟨rfl, h.filed.evictIdle _, h.keeps, h.makes⟩
  | failInit fail =>
    cases fail with
    | true => exact absurd rfl hx
    | false => exact ⟨rfl, h.filed, h.keeps, rfl⟩
  | failTable k fail | wait nanos => exact ⟨rfl, h.filed, h.keeps, h.makes⟩
  | addSignal | querySwitches | takeRequests | storeTrace | traceTenant => exact ⟨rfl, h⟩

theorem Ingestor.served_advance {s : Ingestor MemoryStore} (h : s.sink.Recording) {x : ServiceStep}
    (hx : x ≠ .perform (.failInit true)) :
    (s.advance x).1 = none ∧ (s.advance x).2.sink.Recording := by
  cases x with
  | perform x => exact served_perform h fun heq => hx (congrArg _ heq)
  | openCache t =>
    obtain ⟨r, store, henroll, hready, -⟩ := s.registry.enroll_of_makes
      (MemoryStore.makes_databases h.makes) t (s := s.sink.store) ⟨_, rfl⟩
    have hadvance : s.advance (.openCache t)
        = (none, { s with registry := r, sink := { s.sink with store } }) := by
      simp [advance, Ingestor.openCache, henroll]
    rw [hadvance]
    exact ⟨rfl, h.of_made hready⟩
  | closeStatement id => exact ⟨rfl, h.filed.close id, h.keeps, h.makes⟩
  | closeStatements => exact ⟨rfl, StatementCache.filed_closeAll _, h.keeps, h.makes⟩

/-- As long as databases can be made no request fails. -/
theorem ServiceHistory.failures_eq_nil (settings : Settings) (env : Environment)
    {xs : List ServiceStep} (h : ∀ x ∈ xs, x ≠ .perform (.failInit true)) :
    (of settings env xs).failures = [] := by
  have hall : (of settings env xs).failures = [] ∧
      (of settings env xs).service.sink.Recording := by
    induction xs using List.reverseRecOn with
    | nil => exact ⟨rfl, StatementCache.filed_empty _, rfl, rfl⟩
    | append_singleton xs x ih =>
      obtain ⟨hold, hnew⟩ := List.forall_mem_append.mp h
      obtain ⟨hfailures, hrecording⟩ := ih hold
      obtain ⟨hnone, hrecording'⟩ :=
        Ingestor.served_advance hrecording (hnew x (List.mem_singleton_self x))
      rw [of_concat, step, hfailures, hnone]
      exact ⟨rfl, hrecording'⟩
  exact hall.1

/-- What a flush attempts now. -/
def Ingestor.attempts (s : Ingestor MemoryStore) : List Attempt :=
  flushAttempts MemoryStore.backend s.settings.clickhouse.exportServiceClient s.registry.snapshot
    s.sink

end Ingest
