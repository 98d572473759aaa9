import Ingest.Statement
import Ingest.Text.Quoted

/-!
What the service asks of a store, and how a store can fail. A store has a state of its own and
answers three requests: to prepare the insert of a table, to execute a prepared insert with rows,
and to make a database ready for use.
-/

namespace Ingest

/-- A fault reported by a database server. -/
structure ServerFault where
  name : String
  code : Nat
  message : String
  deriving DecidableEq, Repr

namespace ServerFault

def text (f : ServerFault) : String :=
  "ERROR " ++ f.name ++ " (" ++ f.code.repr ++ "): " ++ f.message

def headline (f : ServerFault) : String := "Server error: \x60" ++ f.text ++ "\x60"

/-- The fault and what it rests on, outermost first. -/
def causes (f : ServerFault) : List String := [f.headline, f.text]

end ServerFault

/-- Why a statement could not be prepared or executed. -/
inductive StoreError where
  | backend (table : String) (fault : ServerFault)
  | unknownTable (database table : String)
  | missingColumns (database table : String) (missing : List String)
  | statementClosed (database table : String)
  | rejected (table reason : String)
  deriving DecidableEq, Repr

namespace StoreError

def message : StoreError → String
  | backend table fault => "clickhouse error on " ++ table ++ ": " ++ fault.headline
  | unknownTable database table => "table " ++ database ++ "." ++ table ++ " does not exist"
  | missingColumns database table missing =>
    "table " ++ database ++ "." ++ table ++ " is missing columns: " ++ Text.quotedList missing
  | statementClosed database table => "statement for " ++ database ++ "." ++ table ++ " is closed"
  | rejected table reason => "write to " ++ table ++ " rejected: " ++ reason

/-- The error and what it rests on, outermost first. -/
def causes : StoreError → List String
  | backend table fault => (backend table fault).message :: fault.causes
  | e => [e.message]

def isClosed : StoreError → Bool
  | statementClosed _ _ => true
  | _ => false

end StoreError

/-- Why a database could not be made ready. -/
inductive InitError where
  | unavailable (database : String)
  | creating (database : String) (fault : ServerFault)
  | listing (database : String) (error : StoreError)
  | ttl (database table : String) (fault : ServerFault)
  | distributed (database table : String) (fault : ServerFault)
  deriving DecidableEq, Repr

/-- The error and what it rests on, outermost first. -/
def InitError.causes : InitError → List String
  | unavailable database => ["database " ++ database ++ " unavailable"]
  | creating database fault => ("creating database " ++ database) :: fault.causes
  | listing database error => ("listing tables of " ++ database) :: error.causes
  | ttl database table fault => ("applying ttl to " ++ database ++ "." ++ table) :: fault.causes
  | distributed database table fault =>
    ("creating distributed table " ++ database ++ "." ++ table) :: fault.causes

/-- Several causes as one text, outermost first. -/
def causeText (causes : List String) : String := ": ".intercalate causes

/-- What came of an execution. -/
structure Execution where
  result : Except StoreError Unit
  /-- Whether the statement was closed while the store had it. -/
  closedMeanwhile : Bool := false

/-- A store with states of a type. -/
structure Backend (σ : Type) where
  prepare : σ → Statement → Except StoreError Unit × σ
  /-- Executes a statement, which may be ready or not, with rows. -/
  execute : σ → Statement → Bool → List Row → Execution × σ
  initDatabase : σ → String → Except InitError Unit × σ

/-- A batch of rows as it reached a store. -/
structure Batch where
  database : String
  kind : Kind
  rows : List Row
  deriving DecidableEq, Repr

namespace Statement

/-- The error of using a statement after it was closed. -/
def closedError (s : Statement) : StoreError := .statementClosed s.database s.kind.table

end Statement

end Ingest
