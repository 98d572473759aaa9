import Ingest.Proofs.FlushAccounts
import Ingest.Proofs.LiveStatements

/-!
The statements that are prepared for batches. A store that notes its calls says which statements it
prepared. Main statement: whatever it answers, each of them has its number in the order in which they
were prepared, and each that is ready is cached; so that nothing is ready once the cache is closed.
-/

namespace Ingest

variable {σ : Type}

/-- The keys of the statements that a store prepared, first one first. -/
def preparedKeys (calls : List StoreCall) : List StatementKey :=
  calls.filterMap fun
    | .prepare s (.ok _) => some s.key
    | _ => none

theorem preparedKeys_append (calls calls' : List StoreCall) :
    preparedKeys (calls ++ calls') = preparedKeys calls ++ preparedKeys calls' :=
  List.filterMap_append

namespace Sink

/-- Whether the statements of a sink are those that its store prepared. -/
def Knows (w : Sink (σ × List StoreCall)) : Prop := w.statements.Reaches (preparedKeys w.store.2)

namespace Knows

variable {w w' : Sink (σ × List StoreCall)}

theorem congr (h : w.Knows) (hstatements : w'.statements = w.statements)
    (hnoted : w'.store.2 = w.store.2) : w'.Knows := by
  rw [Knows, hstatements, hnoted]
  exact h

/-- A call that prepares nothing changes nothing. -/
theorem noted (h : w.Knows) (call : StoreCall) (hcall : preparedKeys [call] = []) :
    w.statements.Reaches (preparedKeys (w.store.2 ++ [call])) := by
  rw [preparedKeys_append, hcall, List.append_nil]
  exact h

variable (b : Backend σ)

theorem prepare (h : w.Knows) (s : Statement) : (prepare b.noting w s).2.Knows := by
  rw [Sink.prepare, Backend.noting_prepare]
  cases (b.prepare w.store.1 s).1 with
  | error e => exact h.noted _ rfl
  | ok _ =>
    have hput := h.put s.key s w.clock
    have hkeys : preparedKeys (w.store.2 ++ [.prepare s (.ok ())])
        = preparedKeys w.store.2 ++ [s.key] := preparedKeys_append _ _
    rw [← hkeys] at hput
    exact hput

theorem obtain (h : w.Knows) (s : Statement) : (Sink.obtain b.noting w s).2.Knows := by
  obtain ⟨w₁, hstore, hget, hcases⟩ := obtain_cases b.noting w s
  have hlooked : w₁.Knows := by
    rw [Knows, hget, hstore]
    exact h.get s.key w.clock
  obtain ⟨id, -, heq⟩ | ⟨-, heq⟩ := hcases
  · rw [heq]
    exact hlooked
  · rw [heq]
    exact hlooked.prepare b s

theorem execute (h : w.Knows) (s : Statement) (id : Nat) (rows : List Row) :
    (execute b.noting w s id rows).2.Knows := by
  have hnoted := h.noted (.execute ((w.statements.ledger.statement? id).getD s) rows
    (Sink.execute b.noting w s id rows).1) rfl
  simp only [Knows, Sink.execute]
  split
  · exact hnoted.close id
  · exact hnoted

theorem attempt (h : w.Knows) (s : Statement) (id : Nat) (rows : List Row) :
    (attempt b.noting w s id rows).2.Knows := by
  have hfirst := h.execute b s id rows
  rw [Sink.attempt]
  cases hx : Sink.execute b.noting w s id rows with
  | mk x w₁ =>
    rw [hx] at hfirst
    cases x with
    | ok _ => exact hfirst
    | error e =>
      dsimp only
      split
      · have hsecond := hfirst.prepare b s
        cases hp : Sink.prepare b.noting w₁ s with
        | mk y w₂ =>
          rw [hp] at hsecond
          cases y with
          | error e => exact hsecond
          | ok id => exact hsecond.execute b s id rows
      · exact hfirst

theorem writeRows (h : w.Knows) (s : Statement) (rows : List Row) :
    (writeRows b.noting w s rows).2.Knows := by
  have hobtain := h.obtain b s
  rw [Sink.writeRows]
  cases hx : Sink.obtain b.noting w s with
  | mk x w₁ =>
    rw [hx] at hobtain
    cases x with
    | error e => exact hobtain
    | ok id => exact hobtain.attempt b s id rows

theorem foldl_write : ∀ (bs : List Batch) (acc : FlushReport × Sink (σ × List StoreCall)),
    acc.2.Knows → (bs.foldl (write b.noting) acc).2.Knows
  | [], _, h => h
  | batch :: bs, acc, h => by
    obtain ⟨hstore, hstatements⟩ := write_snd b.noting acc batch
    exact foldl_write bs _ ((h.writeRows b batch.statement batch.rows).congr hstatements
      (congrArg Prod.snd hstore))

theorem flush (h : w.Knows) (exportClients : Bool) (caches : List TenantCache) :
    (flush b.noting exportClients caches w).2.Knows :=
  foldl_write b _ ({ tenants := caches.length }, w) h

end Knows

end Sink

end Ingest
