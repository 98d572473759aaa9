import Ingest.Settings
import Ingest.Sql.Quote
import Ingest.Statement

/-!
The queries that the service sends to a ClickHouse server, by what they mean, and their SQL. Names
of databases and clusters stand in quotes; a sharding expression is inserted as it was configured.
-/

namespace Ingest.ClickHouse

inductive Query where
  | createDatabase (database : String) (cluster : Option String)
  | listTables (database : String)
  | listColumns (statement : Statement)
  | modifyTtl (table : Statement) (cluster : Option String) (days : Nat)
  | createDistributed (table : Statement) (cluster sharding : String)
  | insert (statement : Statement) (rows : List Row)
  deriving DecidableEq, Repr

/-- The table over all hosts of a cluster that stands before the table of a kind. -/
def distributedTable (k : Kind) : String := k.table ++ "_all"

/-- The clause that makes a definition hold on every host of a cluster. -/
def onCluster : Option String → String
  | none => ""
  | some cluster => " ON CLUSTER " ++ Sql.quoteName cluster

def tableName (s : Statement) : String := Sql.quoteName s.database ++ "." ++ s.kind.table

def Query.text : Query → String
  | createDatabase database cluster =>
    "CREATE DATABASE IF NOT EXISTS " ++ Sql.quoteName database ++ onCluster cluster
  | listTables database =>
    "SELECT name FROM system.tables WHERE database = " ++ Sql.quoteText database
  | listColumns s =>
    "SELECT name FROM system.columns WHERE database = " ++ Sql.quoteText s.database
      ++ " AND table = '" ++ s.kind.table ++ "'"
  | modifyTtl s cluster days =>
    "ALTER TABLE " ++ tableName s ++ onCluster cluster
      ++ " MODIFY TTL toDateTime(timestamp) + toIntervalDay(" ++ days.repr ++ ")"
  | createDistributed s cluster sharding =>
    "CREATE TABLE IF NOT EXISTS " ++ Sql.quoteName s.database ++ "." ++ distributedTable s.kind
      ++ onCluster (some cluster) ++ " AS " ++ tableName s ++ " ENGINE = Distributed("
      ++ Sql.quoteText cluster ++ ", " ++ Sql.quoteText s.database ++ ", '" ++ s.kind.table ++ "', "
      ++ sharding ++ ")"
  | insert s rows => s.render rows

end Ingest.ClickHouse
