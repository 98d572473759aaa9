import Ingest.ClickHouse.Server

/-!
The store that writes to a ClickHouse server. A statement is prepared only when the server lists
every column of its table. A database is made ready by creating it, listing its tables, and bringing
the settings of each known table up to date. The state is the list of queries sent so far, so what a
request does is told by the queries it adds.
-/

namespace Ingest.ClickHouse

/-- A store is given by its settings and the server it writes to. -/
structure Store where
  settings : ClickHouseSettings
  server : Server

namespace Store

/-- The cluster, if one with a name is configured. -/
def cluster? (c : ClickHouseSettings) : Option String := c.cluster.filter fun n => !n.isEmpty

/-- Sends one query. -/
def send (s : Store) (sent : List Query) (q : Query) :
    Except ServerFault (List String) × List Query := (s.server.answer sent q, sent ++ [q])

/-- Sends queries in order, up to the first that fails. -/
def sendAll (s : Store) (sent : List Query) : List Query → Option (Query × ServerFault) × List Query
  | [] => (none, sent)
  | q :: qs =>
    match s.server.answer sent q with
    | .error fault => (some (q, fault), sent ++ [q])
    | .ok _ => sendAll s (sent ++ [q]) qs

/-- What is missing of a table: nothing when every column of its kind is listed. -/
def columnFault? (st : Statement) (listed : List String) : Option StoreError :=
  if listed.isEmpty then some (.unknownTable st.database st.kind.table)
  else
    let missing := st.kind.columns.filter fun c => decide (c ∉ listed)
    if missing.isEmpty then none
    else some (.missingColumns st.database st.kind.table missing)

def prepare (s : Store) (sent : List Query) (st : Statement) :
    Except StoreError Unit × List Query :=
  let (answer, sent) := s.send sent (.listColumns st)
  match answer with
  | .error fault => (.error (.backend st.kind.table fault), sent)
  | .ok listed =>
    match columnFault? st listed with
    | some e => (.error e, sent)
    | none => (.ok (), sent)

/-- Writes a batch. A closed statement is refused before anything is sent, and no rows are nothing to
send. -/
def execute (s : Store) (sent : List Query) (st : Statement) (ready : Bool) (rows : List Row) :
    Execution × List Query :=
  if !ready then ({ result := .error st.closedError }, sent)
  else if rows.isEmpty then ({ result := .ok () }, sent)
  else
    let (answer, sent) := s.send sent (.insert st rows)
    match answer with
    | .error fault => ({ result := .error (.backend st.kind.table fault) }, sent)
    | .ok _ => ({ result := .ok () }, sent)

/-- The sharding expression of tables without one of their own. -/
def defaultSharding : String := "rand()"

/-- The queries for one table of a database in which the given tables exist. -/
def tableQueries (c : ClickHouseSettings) (database : String) (existing : List String) (k : Kind) :
    List Query :=
  if k.table ∉ existing then []
  else
    let settings := c.tableSettings k.table
    let ttl := Query.modifyTtl ⟨database, k⟩ (cluster? c) settings.ttlDays
    match cluster? c with
    | none => [ttl]
    | some cluster =>
      if distributedTable k ∈ existing then [ttl]
      else [ttl, .createDistributed ⟨database, k⟩ cluster (settings.hash.getD defaultSharding)]

/-- The queries that bring the tables of a database up to date. -/
def upkeep (c : ClickHouseSettings) (database : String) (existing : List String) : List Query :=
  Kind.all.flatMap (tableQueries c database existing)

/-- What it means for making a database ready that a query failed. -/
def initErrorOf (database : String) (q : Query) (fault : ServerFault) : InitError :=
  match q with
  | .modifyTtl st _ _ => .ttl database st.kind.table fault
  | .createDistributed st _ _ => .distributed database (distributedTable st.kind) fault
  | .listTables _ => .listing database (.backend "system.tables" fault)
  | _ => .creating database fault

def initDatabase (s : Store) (sent : List Query) (database : String) :
    Except InitError Unit × List Query :=
  let create := Query.createDatabase database (cluster? s.settings)
  let list := Query.listTables database
  match s.send sent create with
  | (.error fault, sent) => (.error (initErrorOf database create fault), sent)
  | (.ok _, sent) =>
    match s.send sent list with
    | (.error fault, sent) => (.error (initErrorOf database list fault), sent)
    | (.ok existing, sent) =>
      match s.sendAll sent (upkeep s.settings database existing) with
      | (some (q, fault), sent) => (.error (initErrorOf database q fault), sent)
      | (none, sent) => (.ok (), sent)

def backend (s : Store) : Backend (List Query) where
  prepare := s.prepare
  execute := s.execute
  initDatabase := s.initDatabase

end Store

end Ingest.ClickHouse
