import Ingest.Kind
import Ingest.Row

/-!
Insert statements. A statement is prepared for one table of one database and then carries batch after
batch of rows until it is closed, which it stays. The ledger numbers statements in the order in which
they were made and remembers how each stands.
-/

namespace Ingest

/-- An insert into the table of a kind in a database. -/
structure Statement where
  database : String
  kind : Kind
  deriving DecidableEq, Repr

namespace Statement

/-- The text of an insert up to its rows. -/
def insertHead (s : Statement) : String :=
  "INSERT INTO " ++ Sql.quoteName s.database ++ "." ++ s.kind.table ++ " ("
    ++ Sql.commaSeparated s.kind.columns ++ ") VALUES "

/-- The text of an insert of rows. -/
def render (s : Statement) (rows : List Row) : String := s.insertHead ++ Sql.commaSeparated rows

end Statement

/-- How a statement stands. -/
inductive Standing where
  | ready
  /-- It was ready once and has been closed. -/
  | closed
  /-- It was closed at once, in favour of one that was ready already. -/
  | refused
  deriving DecidableEq, Repr

/-- Every statement made so far, by number. -/
structure Ledger where
  entries : List (Statement × Standing) := []
  deriving DecidableEq, Repr

namespace Ledger

def size (l : Ledger) : Nat := l.entries.length

def statement? (l : Ledger) (id : Nat) : Option Statement := (l.entries[id]?).map Prod.fst

def standing? (l : Ledger) (id : Nat) : Option Standing := (l.entries[id]?).map Prod.snd

def isReady (l : Ledger) (id : Nat) : Bool := l.standing? id == some .ready

/-- Enters a new statement; its number is the size of the ledger before. -/
def enter (l : Ledger) (s : Statement) (standing : Standing) : Ledger :=
  ⟨l.entries ++ [(s, standing)]⟩

/-- Closes a statement that is ready. -/
def close (l : Ledger) (id : Nat) : Ledger :=
  ⟨l.entries.modify id fun e => if e.2 = .ready then (e.1, .closed) else e⟩

/-- The numbers of the statements that were ready once and are closed. -/
def closed (l : Ledger) : List Nat :=
  (List.range l.size).filter fun id => l.standing? id == some .closed

@[simp] theorem size_close (l : Ledger) (id : Nat) : (l.close id).size = l.size := by
  simp [close, size]

theorem standing?_close (l : Ledger) (id j : Nat) :
    (l.close id).standing? j
      = if id = j then (l.standing? j).map fun s => if s = .ready then .closed else s
        else l.standing? j := by
  simp only [close, standing?, List.getElem?_modify]
  cases h : l.entries[j]? with
  | none => simp
  | some e =>
    by_cases hij : id = j
    · by_cases hs : e.2 = .ready <;> simp [hij, hs]
    · simp [hij]

theorem standing?_enter (l : Ledger) (s : Statement) (standing : Standing) (j : Nat) :
    (l.enter s standing).standing? j = if j = l.size then some standing else l.standing? j := by
  simp only [enter, standing?, size, List.getElem?_append]
  by_cases h : j < l.entries.length
  · have hne : j ≠ l.entries.length := by omega
    simp [h, hne]
  · by_cases he : j = l.entries.length
    · simp [he]
    · have hlt : l.entries.length < j := by omega
      have hnone : l.entries[j]? = none := List.getElem?_eq_none (by omega)
      have h1 : [(s, standing)][j - l.entries.length]? = none :=
        List.getElem?_eq_none (by simp; omega)
      simp [h, he, h1]

theorem isReady_close (l : Ledger) (id j : Nat) :
    (l.close id).isReady j = (l.isReady j && decide (id ≠ j)) := by
  simp only [isReady, standing?_close]
  by_cases h : id = j
  · cases l.standing? j with
    | none => simp [h]
    | some s => cases s <;> simp [h]
  · simp [h]

end Ledger

end Ingest
