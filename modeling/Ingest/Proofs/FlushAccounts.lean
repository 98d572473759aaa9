import Mathlib.Data.List.Induction
import Ingest.Proofs.StoreCalls

/-!
What flushes count, whatever the store does. A run flushes caches into a store that answers as it
likes, and in between sweeps or closes statements and lets time pass; time passes in a flush as well,
with each use of a statement. Main statement: every batch is
counted once, as written or as lost, in the report of its flush and by kind; it is written just if the
last execution for it succeeded, and it is executed a second time only where the statement was found
closed.
-/

namespace Ingest

variable {σ : Type}

/-! ### Counting -/

/-- The attempts for batches of a kind. -/
def ofKind (k : Kind) (as : List Attempt) : List Attempt :=
  as.filter fun a => decide (a.batch.kind = k)

theorem filter_ofKind_concat (k : Kind) (p : Attempt → Bool) (as : List Attempt) (a : Attempt) :
    (ofKind k (as ++ [a])).filter p
      = (ofKind k as).filter p ++ if a.batch.kind = k ∧ p a = true then [a] else [] := by
  by_cases hk : a.batch.kind = k <;> by_cases hp : p a = true <;> simp [ofKind, hk, hp]

theorem rowCount_concat (as bs : List Attempt) : rowCount (as ++ bs) = rowCount as + rowCount bs := by
  simp [rowCount]

/-- Whether counters say of attempts: how many there were, and by kind the rows written, the rows
lost and the batches that failed. -/
structure WriteCounters.Counts (c : WriteCounters) (as : List Attempt) : Prop where
  lookups : c.hits + c.misses = as.length
  flushed : ∀ k, KindTally.count c.rowsFlushed k
    = rowCount ((ofKind k as).filter fun a => a.written)
  lost : ∀ k, KindTally.count c.rowsLost k = rowCount ((ofKind k as).filter fun a => !a.written)
  errors : ∀ k, KindTally.count c.flushErrors k = ((ofKind k as).filter fun a => !a.written).length

theorem WriteCounters.counts_new : WriteCounters.Counts {} [] :=
  ⟨rfl, fun _ => rfl, fun _ => rfl, fun _ => rfl⟩

namespace Sink

variable (b : Backend σ)

@[simp] theorem counters_prepare (w : Sink σ) (s : Statement) :
    (prepare b w s).2.counters = w.counters := by
  unfold prepare
  split <;> rfl

@[simp] theorem counters_execute (w : Sink σ) (s : Statement) (id : Nat) (rows : List Row) :
    (execute b w s id rows).2.counters = w.counters := rfl

/-- Only looking up a statement counts. -/
@[simp] theorem counters_attempt (w : Sink σ) (s : Statement) (id : Nat) (rows : List Row) :
    (attempt b w s id rows).2.counters = w.counters := by
  have hfirst := counters_execute b w s id rows
  unfold attempt
  cases hx : execute b w s id rows with
  | mk x w₁ =>
    rw [hx] at hfirst
    have hsecond := counters_prepare b w₁ s
    cases x with
    | ok _ => exact hfirst
    | error e =>
      dsimp only
      split
      · cases hp : prepare b w₁ s with
        | mk y w₂ =>
          rw [hp] at hsecond
          cases y with
          | error e => exact hsecond.trans hfirst
          | ok id => exact (counters_execute b w₂ s id rows).trans (hsecond.trans hfirst)
      · exact hfirst

/-- A write counts one look-up, as a hit or as a miss. -/
theorem counters_writeRows (w : Sink σ) (s : Statement) (rows : List Row) :
    (writeRows b w s rows).2.counters =
      if (w.statements.get s.key w.clock).1.isNone
      then { w.counters with misses := w.counters.misses + 1 }
      else { w.counters with hits := w.counters.hits + 1 } := by
  have hcounters : (writeRows b w s rows).2.counters = (Sink.obtain b w s).2.counters := by
    unfold writeRows
    cases Sink.obtain b w s with
    | mk x w' =>
      cases x with
      | error e => rfl
      | ok id => exact counters_attempt b w' s id rows
  rw [hcounters, Sink.obtain]
  simp only [lookup]
  cases w.statements.get s.key w.clock with
  | mk found statements =>
    cases found with
    | none => exact counters_prepare b _ s
    | some id => rfl

theorem counters_write (acc : FlushReport × Sink σ) (batch : Batch) :
    ∃ hits misses, hits + misses = acc.2.counters.hits + acc.2.counters.misses + 1 ∧
      (write b acc batch).2.counters =
        if (writeRows b acc.2 batch.statement batch.rows).1.isOk then
          { acc.2.counters with
            hits, misses
            rowsFlushed := KindTally.add acc.2.counters.rowsFlushed batch.kind batch.rows.length }
        else
          { acc.2.counters with
            hits, misses
            flushErrors := KindTally.add acc.2.counters.flushErrors batch.kind 1
            rowsLost := KindTally.add acc.2.counters.rowsLost batch.kind batch.rows.length } := by
  obtain ⟨report, w⟩ := acc
  obtain ⟨hits, misses, hcounters, hsum⟩ : ∃ hits misses,
      (writeRows b w batch.statement batch.rows).2.counters = { w.counters with hits, misses } ∧
        hits + misses = w.counters.hits + w.counters.misses + 1 := by
    rw [counters_writeRows]
    split
    · exact ⟨w.counters.hits, w.counters.misses + 1, rfl, by omega⟩
    · exact ⟨w.counters.hits + 1, w.counters.misses, rfl, by omega⟩
  refine ⟨hits, misses, hsum, ?_⟩
  unfold write
  cases hw : writeRows b w batch.statement batch.rows with
  | mk x w' =>
    rw [hw] at hcounters
    dsimp only at hcounters
    cases x <;> simp [hw, hcounters, Except.isOk, Except.toBool]

/-- A batch is counted once, by what came of it. -/
theorem counts_write {acc : FlushReport × Sink σ} {as : List Attempt}
    (h : acc.2.counters.Counts as) (t : Tenant) (batch : Batch) :
    (write b acc batch).2.counters.Counts (as ++
      [⟨t, batch, (writeRows b acc.2 batch.statement batch.rows).1.isOk⟩]) := by
  obtain ⟨hits, misses, hsum, hcounters⟩ := counters_write b acc batch
  have hlookups (a : Attempt) : hits + misses = (as ++ [a]).length := by
    rw [hsum, h.lookups, List.length_append, List.length_singleton]
  rw [hcounters]
  cases (writeRows b acc.2 batch.statement batch.rows).1.isOk with
  | true =>
    rw [if_pos rfl]
    refine ⟨hlookups _, fun k => ?_, fun k => ?_, fun k => ?_⟩
    · rw [filter_ofKind_concat, rowCount_concat, ← h.flushed k]
      by_cases hk : batch.kind = k <;> simp [KindTally.count_add, hk, rowCount]
    · simpa [filter_ofKind_concat] using h.lost k
    · simpa [filter_ofKind_concat] using h.errors k
  | false =>
    rw [if_neg Bool.false_ne_true]
    refine ⟨hlookups _, fun k => ?_, fun k => ?_, fun k => ?_⟩
    · simpa [filter_ofKind_concat] using h.flushed k
    · rw [filter_ofKind_concat, rowCount_concat, ← h.lost k]
      by_cases hk : batch.kind = k <;> simp [KindTally.count_add, hk, rowCount]
    · rw [filter_ofKind_concat, List.length_append, ← h.errors k]
      by_cases hk : batch.kind = k <;> simp [KindTally.count_add, hk]

theorem counts_foldl : ∀ (bs : List (Tenant × Batch)) (acc : FlushReport × Sink σ)
    {as : List Attempt}, acc.2.counters.Counts as →
      ((bs.map Prod.snd).foldl (write b) acc).2.counters.Counts (as ++ attempts b acc bs)
  | [], acc, as, h => by simpa [attempts] using h
  | (t, batch) :: bs, acc, as, h => by
    have ih := counts_foldl bs _ (counts_write b h t batch)
    rwa [List.append_assoc] at ih

end Sink

/-! ### Calls -/

/-- An attempt for a batch, and the calls it made to the store. -/
structure Writing where
  attempt : Attempt
  calls : List StoreCall

/-- Whether the calls of an attempt are all for its batch, with two executions at most, the second
one only where the first one finds the statement closed; and whether the batch was written just if
the last execution succeeded. -/
structure Writing.Settled (w : Writing) : Prop where
  about : ∀ call ∈ w.calls, ∃ answer, call = .prepare w.attempt.batch.statement answer ∨
    call = .execute w.attempt.batch.statement w.attempt.batch.rows answer
  twice : (executions w.calls).length ≤ 2
  again : ∀ x y, executions w.calls = [x, y] → saysClosed x = true
  written_iff : w.attempt.written = true ↔ (executions w.calls).getLast? = some (.ok ())

theorem Writes.settled {t : Tenant} {batch : Batch} {calls : List StoreCall} {written : Bool}
    (h : Writes batch.statement batch.rows calls written) :
    Writing.Settled ⟨⟨t, batch, written⟩, calls⟩ := by
  have hok (x : Except StoreError Unit) : x.isOk = true ↔ x = .ok () := by
    cases x <;> simp [Except.isOk, Except.toBool]
  refine ⟨h.about, ?_, ?_, ?_⟩ <;> dsimp only
  · obtain ⟨heq, -⟩ | ⟨x, heq, -⟩ | ⟨x, y, heq, -⟩ := h.executions_eq <;> simp [heq]
  · intro x y hxy
    obtain ⟨heq, -⟩ | ⟨x', heq, -⟩ | ⟨x', y', heq, hclosed, -⟩ := h.executions_eq
    · simp [heq] at hxy
    · simp [heq] at hxy
    · rw [heq] at hxy
      rw [← (List.cons.inj hxy).1]
      exact hclosed
  · obtain ⟨heq, rfl⟩ | ⟨x, heq, rfl⟩ | ⟨x, y, heq, -, rfl⟩ := h.executions_eq <;> simp [heq, hok]

namespace Sink

variable (b : Backend σ)

/-- What is done of batches written one after the other into a store that notes its calls. -/
def writings (acc : FlushReport × Sink (σ × List StoreCall)) :
    List (Tenant × Batch) → List Writing
  | [] => []
  | (t, batch) :: rest =>
    let done := writeRows b.noting acc.2 batch.statement batch.rows
    ⟨⟨t, batch, done.1.isOk⟩, done.2.store.2.drop acc.2.store.2.length⟩
      :: writings (write b.noting acc batch) rest

theorem attempt_writings : ∀ (bs : List (Tenant × Batch))
    (acc : FlushReport × Sink (σ × List StoreCall)),
    (writings b acc bs).map (·.attempt) = attempts b.noting acc bs
  | [], _ => rfl
  | (t, batch) :: bs, acc => by simp [writings, attempts, attempt_writings bs]

theorem map_writings : ∀ (bs : List (Tenant × Batch))
    (acc : FlushReport × Sink (σ × List StoreCall)),
    (writings b acc bs).map (fun w => (w.attempt.tenant, w.attempt.batch)) = bs
  | [], _ => rfl
  | (t, batch) :: bs, acc => by simp [writings, map_writings bs]

/-- The calls noted are those of the batches, each of which is settled. -/
theorem noted_writings : ∀ (bs : List (Tenant × Batch))
    (acc : FlushReport × Sink (σ × List StoreCall)), acc.2.statements.Filed →
      ((bs.map Prod.snd).foldl (write b.noting) acc).2.statements.Filed ∧
      ((bs.map Prod.snd).foldl (write b.noting) acc).2.store.2
        = acc.2.store.2 ++ (writings b acc bs).flatMap (·.calls) ∧
      ∀ w ∈ writings b acc bs, w.Settled
  | [], acc, h => by simpa [writings] using h
  | (t, batch) :: bs, acc, h => by
    obtain ⟨calls, hnoted, hfiled, hwrites⟩ :=
      writes_writeRows b h batch.statement batch.rows
    obtain ⟨hstore, hstatements⟩ := write_snd b.noting acc batch
    obtain ⟨ih, ihnoted, ihsettled⟩ :=
      noted_writings bs (write b.noting acc batch) (hstatements ▸ hfiled)
    have hcalls : (writeRows b.noting acc.2 batch.statement batch.rows).2.store.2.drop
        acc.2.store.2.length = calls := by
      rw [hnoted, List.drop_left]
    refine ⟨ih, ?_, ?_⟩
    · rw [List.map_cons, List.foldl_cons, ihnoted, hstore, hnoted]
      simp only [writings, hcalls, List.flatMap_cons, List.append_assoc]
    · simp only [writings, hcalls, List.mem_cons, forall_eq_or_imp]
      exact ⟨hwrites.settled, ihsettled⟩

end Sink

/-! ### Runs -/

inductive SinkStep where
  | flush (exportClients : Bool) (caches : List TenantCache)
  | sweep
  | closeAll
  | close (id : Nat)
  | wait (nanos : Nat)

/-- A flush of caches, with what it did and reported. -/
structure NotedFlush where
  exportClients : Bool
  caches : List TenantCache
  writings : List Writing
  report : FlushReport

structure FlushRun (σ : Type) where
  sink : Sink (σ × List StoreCall)
  flushes : List NotedFlush := []

namespace FlushRun

variable (b : Backend σ)

/-- All attempts, with their calls. -/
def writings (r : FlushRun σ) : List Writing := r.flushes.flatMap (·.writings)

def step (r : FlushRun σ) : SinkStep → FlushRun σ
  | .flush exportClients caches =>
    let (report, sink) := Ingest.flush b.noting exportClients caches r.sink
    let writings := Sink.writings b ({ tenants := caches.length }, r.sink)
      (ownedBatches exportClients caches)
    { sink, flushes := r.flushes ++ [⟨exportClients, caches, writings, report⟩] }
  | .sweep => { r with sink := r.sink.sweep }
  | .closeAll => { r with sink := r.sink.closeAll }
  | .close id => { r with sink.statements := r.sink.statements.close id }
  | .wait nanos => { r with sink.clock := r.sink.clock + nanos }

/-- A run from a new sink in front of a store. -/
def of (store : σ) (idleTimeout : Duration) (pace : Nat → Nat) (xs : List SinkStep) : FlushRun σ :=
  xs.foldl (step b) { sink := { store := (store, []), statements := { idleTimeout }, pace } }

theorem of_concat (store : σ) (idleTimeout : Duration) (pace : Nat → Nat) (xs : List SinkStep)
    (x : SinkStep) :
    of b store idleTimeout pace (xs ++ [x]) = (of b store idleTimeout pace xs).step b x := by
  simp [of]

end FlushRun

/-- Whether a flush attempted just the batches of its caches, each of them settled, and reported
what came of them. -/
structure NotedFlush.Accounted (f : NotedFlush) : Prop where
  owned : f.writings.map (fun w => (w.attempt.tenant, w.attempt.batch))
    = ownedBatches f.exportClients f.caches
  settled : ∀ w ∈ f.writings, w.attempt.batch.rows ≠ [] ∧ w.Settled
  reported : f.report = reportOf f.caches.length (f.writings.map (·.attempt))

/-- What holds of every run. -/
structure FlushRun.Accounted (r : FlushRun σ) : Prop where
  filed : r.sink.statements.Filed
  noted : r.sink.store.2 = r.writings.flatMap (·.calls)
  counts : r.sink.counters.Counts (r.writings.map (·.attempt))
  flushes : ∀ f ∈ r.flushes, f.Accounted

namespace FlushRun.Accounted

variable {b : Backend σ} {r : FlushRun σ}

theorem flush (h : r.Accounted) (exportClients : Bool) (caches : List TenantCache) :
    (r.step b (.flush exportClients caches)).Accounted := by
  let ws := Sink.writings b ({ tenants := caches.length }, r.sink)
    (ownedBatches exportClients caches)
  have hattempts : ws.map (·.attempt)
      = flushAttempts b.noting exportClients caches r.sink := Sink.attempt_writings b _ _
  obtain ⟨hfiled, hnoted, hsettled⟩ := Sink.noted_writings b (ownedBatches exportClients caches)
    ({ tenants := caches.length }, r.sink) h.filed
  have hcounts := Sink.counts_foldl b.noting (ownedBatches exportClients caches)
    ({ tenants := caches.length }, r.sink) h.counts
  rw [map_snd_ownedBatches] at hfiled hnoted hcounts
  have hlast : (r.step b (.flush exportClients caches)).writings = r.writings ++ ws := by
    simp [FlushRun.writings, FlushRun.step, ws]
  have howned : ws.map (fun w => (w.attempt.tenant, w.attempt.batch))
      = ownedBatches exportClients caches := Sink.map_writings b _ _
  refine ⟨hfiled, ?_, ?_, ?_⟩
  · rw [hlast, List.flatMap_append, ← h.noted]
    exact hnoted
  · rw [hlast, List.map_append, hattempts]
    exact hcounts
  · intro f hf
    rcases List.mem_append.mp hf with hf | hf
    · exact h.flushes f hf
    · rw [List.mem_singleton.mp hf]
      refine ⟨howned, fun w hw => ⟨?_, hsettled w hw⟩, ?_⟩
      · have hmem : (w.attempt.tenant, w.attempt.batch) ∈ ownedBatches exportClients caches := by
          rw [← howned]
          exact List.mem_map.mpr ⟨w, hw, rfl⟩
        exact Sink.rows_of_mem_ownedBatches hmem
      · have hreport := report_flush b.noting exportClients caches r.sink
        rw [← hattempts] at hreport
        exact hreport

theorem step (h : r.Accounted) : ∀ x, (r.step b x).Accounted
  | .flush exportClients caches => h.flush exportClients caches
  | .sweep => ⟨h.filed.evictIdle _, h.noted, h.counts, h.flushes⟩
  | .closeAll => ⟨StatementCache.filed_closeAll _, h.noted, h.counts, h.flushes⟩
  | .close id => ⟨h.filed.close id, h.noted, h.counts, h.flushes⟩
  | .wait _ => ⟨h.filed, h.noted, h.counts, h.flushes⟩

end FlushRun.Accounted

/-- Every run is accounted for, by induction on its steps. -/
theorem FlushRun.accounted_of (b : Backend σ) (store : σ) (idleTimeout : Duration)
    (pace : Nat → Nat) (xs : List SinkStep) :
    (FlushRun.of b store idleTimeout pace xs).Accounted := by
  induction xs using List.reverseRecOn with
  | nil => exact ⟨StatementCache.filed_empty _, rfl, WriteCounters.counts_new, by simp [of]⟩
  | append_singleton xs x ih =>
    rw [of_concat]
    exact ih.step x

/-- In every run, whatever the store answers and however long it takes: each flush attempts the
batches with rows of its caches, each once, and reports the rows of those written, the rows of the
others as lost and how many these others are. Every call to the store is for one of these batches; it
is executed twice at most, the second time only after it was found closed, and it is written just if
the last execution succeeded. Each batch was one hit or one miss of the statement cache; the counts by
kind are those of the batches written and lost; and a preparation that fails leaves the statements as
they were. -/
theorem flushes_accounted (b : Backend σ) (store : σ) (idleTimeout : Duration) (pace : Nat → Nat)
    (xs : List SinkStep) :
    let r := FlushRun.of b store idleTimeout pace xs
    let c := r.sink.counters
    let attempts := r.writings.map (·.attempt)
    (∀ f ∈ r.flushes, f.writings.map (fun w => (w.attempt.tenant, w.attempt.batch))
        = ownedBatches f.exportClients f.caches ∧
      (∀ w ∈ f.writings, w.attempt.batch.rows ≠ [] ∧ w.Settled) ∧
      f.report = reportOf f.caches.length (f.writings.map (·.attempt))) ∧
    r.sink.store.2 = r.writings.flatMap (·.calls) ∧
    c.hits + c.misses = attempts.length ∧
    (∀ k, KindTally.count c.rowsFlushed k
        = rowCount ((ofKind k attempts).filter fun a => a.written) ∧
      KindTally.count c.rowsLost k = rowCount ((ofKind k attempts).filter fun a => !a.written) ∧
      KindTally.count c.flushErrors k = ((ofKind k attempts).filter fun a => !a.written).length) ∧
    ∀ (w : Sink σ) (s : Statement) (e : StoreError), (Sink.prepare b w s).1 = .error e →
      (Sink.prepare b w s).2.statements = w.statements := by
  have h := FlushRun.accounted_of b store idleTimeout pace xs
  refine ⟨fun f hf => ⟨(h.flushes f hf).owned, (h.flushes f hf).settled, (h.flushes f hf).reported⟩,
    h.noted, h.counts.lookups, fun k => ⟨h.counts.flushed k, h.counts.lost k, h.counts.errors k⟩, ?_⟩
  intro w s e he
  unfold Sink.prepare at he ⊢
  split at he
  · rfl
  · cases he

end Ingest
