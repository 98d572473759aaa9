import Ingest.ClickHouse.Store
import Ingest.Proofs.FlushAccounts

/-!
The queries that are sent for batches, told from the calls to the store: a preparation asks for
columns, and an execution inserts unless its statement is closed or there are no rows. Main statements:
where a preparation fails nothing is inserted for the batch; for rows there is an insert at once or a
check first; and rows that are written were inserted.
-/

namespace Ingest

open ClickHouse

/-! ### Queries of calls -/

/-- The queries that a call sends to a server: none to execute a statement that is closed, or to
execute one without rows. -/
def StoreCall.queries : StoreCall → List Query
  | .prepare s _ => [.listColumns s]
  | .execute s rows answer => if saysClosed answer || rows.isEmpty then [] else [.insert s rows]

def callQueries (calls : List StoreCall) : List Query := calls.flatMap StoreCall.queries

theorem callQueries_append (calls calls' : List StoreCall) :
    callQueries (calls ++ calls') = callQueries calls ++ callQueries calls' :=
  List.flatMap_append

theorem callQueries_prepare (s : Statement) (answer : Except StoreError Unit)
    (calls : List StoreCall) :
    callQueries (.prepare s answer :: calls) = .listColumns s :: callQueries calls := rfl

/-- What an execution sends is told by its answer, which says whether its statement is closed. -/
theorem ClickHouse.Store.exists_execute_eq (s : Store) (sent : List Query) (st : Statement)
    (ready : Bool) (rows : List Row) : ∃ x, s.execute sent st ready rows
      = ({ result := x }, sent ++ (StoreCall.execute st rows x).queries) ∧ saysClosed x = !ready := by
  cases ready with
  | false =>
    refine ⟨.error st.closedError, ?_, rfl⟩
    simp [Store.execute, StoreCall.queries, saysClosed, Statement.closedError, StoreError.isClosed]
  | true =>
    by_cases hrows : rows = []
    · exact ⟨.ok (), by simp [Store.execute, StoreCall.queries, hrows], rfl⟩
    · cases hanswer : s.server.answer sent (.insert st rows) with
      | error fault =>
        refine ⟨.error (.backend st.kind.table fault), ?_, rfl⟩
        simp [Store.execute, send, StoreCall.queries, saysClosed, StoreError.isClosed, hrows,
          hanswer]
      | ok names =>
        refine ⟨.ok (), ?_, rfl⟩
        simp [Store.execute, send, StoreCall.queries, saysClosed, hrows, hanswer]

/-! ### Queries of batches -/

/-- The queries that were sent for a batch. -/
def Writing.queries (w : Writing) : List Query := callQueries w.calls

/-- Whether a statement could not be prepared for a batch. -/
def Writing.FailsToPrepare (w : Writing) : Prop := ∃ st e, .prepare st (.error e) ∈ w.calls

section Writes

variable {st t : Statement} {rows : List Row} {calls : List StoreCall} {written : Bool}
  {e : StoreError}

theorem Tries.of_failed (h : Tries st rows calls written)
    (hfailed : .prepare t (.error e) ∈ calls) :
    written = false ∧ ∃ cs, calls = cs ++ [.prepare st (.error e)] ∧
      ∀ q ∈ callQueries calls, q = .listColumns st := by
  cases h with
  | settled hx => simp at hfailed
  | unprepared hx e' =>
    simp only [List.mem_cons, reduceCtorEq, StoreCall.prepare.injEq, Except.error.injEq,
      List.not_mem_nil, or_false, false_or] at hfailed
    obtain ⟨-, rfl⟩ := hfailed
    exact ⟨rfl, [.execute st rows _], rfl, by simp [callQueries, StoreCall.queries, hx]⟩
  | again hx y => simp at hfailed

/-- A preparation that fails is the last call for its batch, for which nothing was sent but checks. -/
theorem Writes.of_failed (h : Writes st rows calls written)
    (hfailed : .prepare t (.error e) ∈ calls) :
    written = false ∧ ∃ cs, calls = cs ++ [.prepare st (.error e)] ∧
      ∀ q ∈ callQueries calls, q = .listColumns st := by
  cases h with
  | found h => exact h.of_failed hfailed
  | unprepared e' =>
    simp only [List.mem_singleton, StoreCall.prepare.injEq, Except.error.injEq] at hfailed
    obtain ⟨-, rfl⟩ := hfailed
    exact ⟨rfl, [], rfl, by simp [callQueries, StoreCall.queries]⟩
  | @prepared calls _ h =>
    obtain ⟨hwritten, cs, hcalls, hqueries⟩ := h.of_failed (by simpa using hfailed)
    refine ⟨hwritten, .prepare st (.ok ()) :: cs, by rw [hcalls]; rfl, ?_⟩
    rw [callQueries_prepare, List.forall_mem_cons]
    exact ⟨rfl, hqueries⟩

/-- For rows there is an insert at once, or a check first. -/
theorem Tries.head_queries (h : Tries st rows calls written) (hrows : rows ≠ []) :
    (callQueries calls).head? = some (.listColumns st) ∨
      (callQueries calls).head? = some (.insert st rows) := by
  cases h with
  | settled hx => exact .inr (by simp [callQueries, StoreCall.queries, hx, hrows])
  | unprepared hx e => exact .inl (by simp [callQueries, StoreCall.queries, hx])
  | again hx y => exact .inl (by simp [callQueries, StoreCall.queries, hx])

theorem Writes.head_queries (h : Writes st rows calls written) (hrows : rows ≠ []) :
    (callQueries calls).head? = some (.listColumns st) ∨
      (callQueries calls).head? = some (.insert st rows) := by
  cases h with
  | found h => exact h.head_queries hrows
  | unprepared e => exact .inl rfl
  | prepared h => exact .inl rfl

/-- Rows that are written were inserted. -/
theorem Tries.inserted (h : Tries st rows calls written) (hrows : rows ≠ [])
    (hwritten : written = true) : .insert st rows ∈ callQueries calls := by
  have hinserts {x : Except StoreError Unit} (hx : x.isOk = true) :
      StoreCall.queries (.execute st rows x) = [.insert st rows] := by
    cases x with
    | error e => cases hx
    | ok _ => simp [StoreCall.queries, saysClosed, hrows]
  cases h with
  | settled hx => simp [callQueries, hinserts hwritten]
  | unprepared hx e => cases hwritten
  | again hx y => simp [callQueries, hinserts hwritten]

theorem Writes.inserted (h : Writes st rows calls written) (hrows : rows ≠ [])
    (hwritten : written = true) : .insert st rows ∈ callQueries calls := by
  cases h with
  | found h => exact h.inserted hrows hwritten
  | unprepared e => cases hwritten
  | prepared h => exact List.mem_cons_of_mem _ (h.inserted hrows hwritten)

/-- No other table is checked. -/
theorem Writes.not_checked (h : Writes st rows calls written) (hne : st ≠ t) :
    .listColumns t ∉ callQueries calls := by
  intro hmem
  obtain ⟨call, hcall, hq⟩ := List.mem_flatMap.mp hmem
  obtain ⟨answer, rfl | rfl⟩ := h.about call hcall
  · simp only [StoreCall.queries, List.mem_singleton, Query.listColumns.injEq] at hq
    exact hne hq.symm
  · simp only [StoreCall.queries] at hq
    split at hq <;> simp at hq

end Writes

/-! ### Runs -/

variable {σ : Type}

/-- What is done of batches that are written one after the other follows the pattern of writes. -/
theorem Sink.writes_writings (b : Backend σ) : ∀ (bs : List (Tenant × Batch))
    (acc : FlushReport × Sink (σ × List StoreCall)), acc.2.statements.Filed →
      ∀ w ∈ Sink.writings b acc bs,
        Writes w.attempt.batch.statement w.attempt.batch.rows w.calls w.attempt.written
  | [], _, _ => by simp [Sink.writings]
  | (t, batch) :: bs, acc, h => by
    obtain ⟨calls, hnoted, hfiled, hwrites⟩ :=
      writes_writeRows b h batch.statement batch.rows
    obtain ⟨-, hstatements⟩ := write_snd b.noting acc batch
    have ih := writes_writings b bs (write b.noting acc batch) (hstatements ▸ hfiled)
    have hcalls : (writeRows b.noting acc.2 batch.statement batch.rows).2.store.2.drop
        acc.2.store.2.length = calls := by
      rw [hnoted, List.drop_left]
    simp only [Sink.writings, hcalls, List.mem_cons, forall_eq_or_imp]
    exact ⟨hwrites, ih⟩

theorem FlushRun.writes_of (b : Backend σ) (store : σ) (idleTimeout : Duration) (pace : Nat → Nat)
    (xs : List SinkStep) : ∀ w ∈ (FlushRun.of b store idleTimeout pace xs).writings,
      Writes w.attempt.batch.statement w.attempt.batch.rows w.calls w.attempt.written := by
  induction xs using List.reverseRecOn with
  | nil => simp [of, writings]
  | append_singleton xs x ih =>
    have hfiled := (accounted_of b store idleTimeout pace xs).filed
    rw [of_concat]
    cases x with
    | flush exportClients caches =>
      intro w hw
      simp only [writings, step, List.flatMap_append, List.mem_append] at hw
      rcases hw with hw | hw
      · exact ih w hw
      · rw [List.flatMap_singleton] at hw
        exact Sink.writes_writings b _ _ hfiled w hw
    | sweep => exact ih
    | closeAll => exact ih
    | close id => exact ih
    | wait nanos => exact ih

end Ingest
