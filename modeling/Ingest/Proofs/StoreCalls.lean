import Ingest.Proofs.BatchWriting

/-!
What a store is asked while the rows of a batch are written. A noting store answers as another one
does and keeps a list of its calls. Main statement: whatever a store answers, the calls of a write are
a preparation if no statement is cached, and an execution if there is a statement to execute; and only
if that execution finds the statement closed, another preparation and, if it succeeds, another
execution. The rows are written if the last execution succeeds.
-/

namespace Ingest

variable {σ : Type}

/-- A call to a store, with its answer. -/
inductive StoreCall where
  | prepare (s : Statement) (answer : Except StoreError Unit)
  | execute (s : Statement) (rows : List Row) (answer : Except StoreError Unit)

/-- The answers to executions. -/
def executions : List StoreCall → List (Except StoreError Unit)
  | [] => []
  | .prepare _ _ :: calls => executions calls
  | .execute _ _ answer :: calls => answer :: executions calls

/-- A store that answers as another one does, and notes what it is asked to prepare and execute. -/
def Backend.noting (b : Backend σ) : Backend (σ × List StoreCall) where
  prepare st s :=
    let (answer, store) := b.prepare st.1 s
    (answer, store, st.2 ++ [.prepare s answer])
  execute st s ready rows :=
    let (x, store) := b.execute st.1 s ready rows
    (x, store, st.2 ++ [.execute s rows x.result])
  initDatabase st database :=
    let (answer, store) := b.initDatabase st.1 database
    (answer, store, st.2)

theorem Backend.noting_prepare (b : Backend σ) (st : σ × List StoreCall) (s : Statement) :
    b.noting.prepare st s = ((b.prepare st.1 s).1, (b.prepare st.1 s).2,
      st.2 ++ [.prepare s (b.prepare st.1 s).1]) := rfl

/-- Whether an answer says that the statement is closed. -/
def saysClosed : Except StoreError Unit → Bool
  | .error e => e.isClosed
  | .ok _ => false

/-- The calls of writing rows through a statement, and whether the rows are written by them. -/
inductive Tries (s : Statement) (rows : List Row) : List StoreCall → Bool → Prop where
  | settled {x : Except StoreError Unit} (hx : saysClosed x = false) :
    Tries s rows [.execute s rows x] x.isOk
  | unprepared {x : Except StoreError Unit} (hx : saysClosed x = true) (e : StoreError) :
    Tries s rows [.execute s rows x, .prepare s (.error e)] false
  | again {x : Except StoreError Unit} (hx : saysClosed x = true) (y : Except StoreError Unit) :
    Tries s rows [.execute s rows x, .prepare s (.ok ()), .execute s rows y] y.isOk

/-- The calls of writing rows to a table, and whether the rows are written by them. -/
inductive Writes (s : Statement) (rows : List Row) : List StoreCall → Bool → Prop where
  | found {calls : List StoreCall} {written : Bool} (h : Tries s rows calls written) :
    Writes s rows calls written
  | unprepared (e : StoreError) : Writes s rows [.prepare s (.error e)] false
  | prepared {calls : List StoreCall} {written : Bool} (h : Tries s rows calls written) :
    Writes s rows (.prepare s (.ok ()) :: calls) written

variable {s : Statement} {rows : List Row} {calls : List StoreCall} {written : Bool}

theorem Tries.executions_eq (h : Tries s rows calls written) :
    (∃ x, executions calls = [x] ∧ written = x.isOk) ∨
      ∃ x y, executions calls = [x, y] ∧ saysClosed x = true ∧ written = y.isOk := by
  cases h with
  | settled hx => exact .inl ⟨_, rfl, rfl⟩
  | @unprepared x hx e =>
    refine .inl ⟨x, rfl, ?_⟩
    cases x with
    | error _ => rfl
    | ok _ => cases hx
  | again hx y => exact .inr ⟨_, y, rfl, hx, rfl⟩

theorem Tries.about (h : Tries s rows calls written) :
    ∀ call ∈ calls, ∃ answer, call = .prepare s answer ∨ call = .execute s rows answer := by
  cases h <;> simp

namespace Writes

/-- There are two executions at most, and a second one only if the first one finds the statement
closed; the rows are written if the last one succeeds. -/
theorem executions_eq (h : Writes s rows calls written) :
    (executions calls = [] ∧ written = false) ∨ (∃ x, executions calls = [x] ∧ written = x.isOk) ∨
      ∃ x y, executions calls = [x, y] ∧ saysClosed x = true ∧ written = y.isOk := by
  cases h with
  | found h => exact .inr h.executions_eq
  | unprepared e => exact .inl ⟨rfl, rfl⟩
  | prepared h => exact .inr h.executions_eq

/-- Every call is for the statement, and every execution for all the rows. -/
theorem about (h : Writes s rows calls written) :
    ∀ call ∈ calls, ∃ answer, call = .prepare s answer ∨ call = .execute s rows answer := by
  cases h with
  | found h => exact h.about
  | unprepared e => simp
  | prepared h => simpa using h.about

end Writes

namespace Sink

variable (b : Backend σ) {w : Sink (σ × List StoreCall)} {s : Statement}

theorem execute_noting {id : Nat} (h : w.statements.Serves id s) (rows : List Row) :
    ∃ x w', execute b.noting w s id rows = (x, w') ∧
      w'.store.2 = w.store.2 ++ [.execute s rows x] ∧
      (w.statements.Filed → w'.statements.Filed) := by
  refine ⟨_, _, execute_of_serves b.noting h rows, rfl, fun hfiled => ?_⟩
  dsimp only
  split
  · exact hfiled.close id
  · exact hfiled

/-- A preparation is noted. It serves the statement, or it fails and leaves the cache as it is. -/
theorem prepare_noting (h : w.statements.Filed) (s : Statement) :
    (∃ e w', prepare b.noting w s = (.error e, w') ∧ w'.statements = w.statements ∧
      w'.store.2 = w.store.2 ++ [.prepare s (.error e)]) ∨
    ∃ id w', prepare b.noting w s = (.ok id, w') ∧
      w'.statements.Serves id s ∧ w'.statements.Filed ∧
      w'.store.2 = w.store.2 ++ [.prepare s (.ok ())] := by
  rw [prepare, Backend.noting_prepare]
  cases (b.prepare w.store.1 s).1 with
  | error e => exact .inl ⟨e, _, rfl, rfl, rfl⟩
  | ok _ => exact .inr ⟨_, _, rfl, h.serves_put s w.clock, h.put s w.clock, rfl⟩

/-- Writing through a ready statement asks for an execution and, if the statement is found closed,
for another preparation and another execution. -/
theorem tries_attempt (h : w.statements.Filed) {id : Nat} (hid : w.statements.Serves id s)
    (rows : List Row) :
    ∃ calls, (attempt b.noting w s id rows).2.store.2 = w.store.2 ++ calls ∧
      (attempt b.noting w s id rows).2.statements.Filed ∧
      Tries s rows calls (attempt b.noting w s id rows).1.isOk := by
  obtain ⟨x, w₁, hexecute, hnoted, hfiled⟩ := execute_noting b hid rows
  have hfiled₁ := hfiled h
  cases x with
  | ok _ =>
    rw [attempt, hexecute]
    exact ⟨_, hnoted, hfiled₁, .settled rfl⟩
  | error e =>
    cases hclosed : e.isClosed with
    | false =>
      have heq : attempt b.noting w s id rows = (.error e, w₁) := by
        simp [attempt, hexecute, hclosed]
      rw [heq]
      exact ⟨_, hnoted, hfiled₁, .settled hclosed⟩
    | true =>
      obtain ⟨e', w₂, hprepare, hcache, hnoted₂⟩ | ⟨id', w₂, hprepare, hserves, hfiled₂, hnoted₂⟩ :=
        prepare_noting b hfiled₁ s
      · have heq : attempt b.noting w s id rows = (.error e', w₂) := by
          simp [attempt, hexecute, hclosed, hprepare]
        rw [heq, hnoted₂, hnoted, List.append_assoc, hcache]
        exact ⟨_, rfl, hfiled₁, .unprepared (x := .error e) hclosed e'⟩
      · obtain ⟨y, w₃, hexecute₃, hnoted₃, hfiled₃⟩ := execute_noting b hserves rows
        have heq : attempt b.noting w s id rows = (y, w₃) := by
          simp [attempt, hexecute, hclosed, hprepare, hexecute₃]
        rw [heq, hnoted₃, hnoted₂, hnoted, List.append_assoc, List.append_assoc]
        exact ⟨_, rfl, hfiled₃ hfiled₂, .again (x := .error e) hclosed y⟩

/-- The calls of writing rows to a table. -/
theorem writes_writeRows (h : w.statements.Filed) (s : Statement) (rows : List Row) :
    ∃ calls, (writeRows b.noting w s rows).2.store.2 = w.store.2 ++ calls ∧
      (writeRows b.noting w s rows).2.statements.Filed ∧
      Writes s rows calls (writeRows b.noting w s rows).1.isOk := by
  obtain ⟨w₁, hstore, hget, ⟨id, hfound, hobtain⟩ | ⟨-, hobtain⟩⟩ := obtain_cases b.noting w s
  · have heq : writeRows b.noting w s rows = attempt b.noting w₁ s id rows := by
      rw [writeRows, hobtain]
    obtain ⟨calls, hnoted, hfiled, htries⟩ := tries_attempt b (hget ▸ h.get s.key w.clock)
      (hget ▸ h.serves_get hfound) rows
    rw [heq, hnoted, hstore]
    exact ⟨calls, rfl, hfiled, .found htries⟩
  · obtain ⟨e, w₂, hprepare, hcache, hnoted⟩ | ⟨id, w₂, hprepare, hserves, hfiled₂, hnoted⟩ :=
      prepare_noting b (hget ▸ h.get s.key w.clock) s
    · have heq : writeRows b.noting w s rows = (.error e, w₂) := by
        rw [writeRows, hobtain, hprepare]
      rw [heq, hnoted, hcache, hstore, hget]
      exact ⟨_, rfl, h.get s.key w.clock, .unprepared e⟩
    · have heq : writeRows b.noting w s rows = attempt b.noting w₂ s id rows := by
        rw [writeRows, hobtain, hprepare]
      obtain ⟨calls, hnoted₃, hfiled, htries⟩ := tries_attempt b hfiled₂ hserves rows
      rw [heq, hnoted₃, hnoted, hstore, List.append_assoc]
      exact ⟨_, rfl, hfiled, .prepared htries⟩

end Sink

end Ingest
