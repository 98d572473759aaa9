import Mathlib
import Ingest.ClickHouse.Store
import Ingest.Proofs.SqlLexing

/-!
The texts of queries as tokens. For each query the tokens are given here word by word, with a quoted
token for each database, cluster and table that stands in quotes. Main statements: the text of a
query is lexed as just these tokens around what is inserted as it is; and what a store sends for a
request is about the database and the tables of the request and the cluster of its settings.
-/

namespace Ingest.ClickHouse

open Sql

/-! ### Tokens -/

def words (ws : List String) : List Token := ws.map .word

/-- A table in a database. -/
def tableTokens (database table : String) : List Token := [.name database, .symbol '.', .word table]

def clusterTokens : Option String → List Token
  | none => []
  | some cluster => [.word "ON", .word "CLUSTER", .name cluster]

/-- A column, as a word or, if it is nested, as words with dots between them. -/
def dotted (column : String) : List Token :=
  [.symbol '.'].intercalate ((column.toList.splitOn '.').map fun w => [.word (String.ofList w)])

/-- The columns of a table with commas between them. -/
def columnTokens (k : Kind) : List Token := [.symbol ','].intercalate (k.columns.map dotted)

namespace Query

/-- The tokens of a query, up to what is inserted as it is. -/
def tokens : Query → List Token
  | createDatabase database cluster =>
    words ["CREATE", "DATABASE", "IF", "NOT", "EXISTS"] ++ [.name database] ++ clusterTokens cluster
  | listTables database =>
    words ["SELECT", "name", "FROM", "system"] ++ [.symbol '.']
      ++ words ["tables", "WHERE", "database"] ++ [.symbol '=', .text database]
  | listColumns s =>
    words ["SELECT", "name", "FROM", "system"] ++ [.symbol '.']
      ++ words ["columns", "WHERE", "database"] ++ [.symbol '=', .text s.database]
      ++ words ["AND", "table"] ++ [.symbol '=', .text s.kind.table]
  | modifyTtl s cluster days =>
    words ["ALTER", "TABLE"] ++ tableTokens s.database s.kind.table ++ clusterTokens cluster
      ++ words ["MODIFY", "TTL", "toDateTime"]
      ++ [.symbol '(', .word "timestamp", .symbol ')', .symbol '+']
      ++ [.word "toIntervalDay", .symbol '(', .word days.repr, .symbol ')']
  | createDistributed s cluster _ =>
    words ["CREATE", "TABLE", "IF", "NOT", "EXISTS"]
      ++ tableTokens s.database (distributedTable s.kind) ++ clusterTokens (some cluster)
      ++ [.word "AS"] ++ tableTokens s.database s.kind.table
      ++ [.word "ENGINE", .symbol '=', .word "Distributed", .symbol '(']
      ++ [.text cluster, .symbol ',', .text s.database, .symbol ',', .text s.kind.table,
        .symbol ',']
  | insert s _ =>
    words ["INSERT", "INTO"] ++ tableTokens s.database s.kind.table ++ [.symbol '(']
      ++ columnTokens s.kind ++ [.symbol ')', .word "VALUES"]

/-- What follows the tokens: a sharding expression and a parenthesis, or rows. -/
def tail : Query → String
  | createDistributed _ _ sharding => sharding ++ ")"
  | insert _ rows => commaSeparated rows
  | _ => ""

/-- The quoted tokens of a query: the names it is about. -/
def names : Query → List Token
  | createDatabase database cluster => .name database :: cluster.toList.map .name
  | listTables database => [.text database]
  | listColumns s => [.text s.database, .text s.kind.table]
  | modifyTtl s cluster _ => .name s.database :: cluster.toList.map .name
  | createDistributed s cluster _ =>
    [.name s.database, .name cluster, .name s.database, .text cluster, .text s.database,
      .text s.kind.table]
  | insert s _ => [.name s.database]

/-- A query without its names and what it inserts: left are the statement, the table, whether there
is a cluster, and the days of a lifetime. -/
def blank : Query → Query
  | createDatabase _ cluster => createDatabase "" (cluster.map fun _ => "")
  | listTables _ => listTables ""
  | listColumns s => listColumns ⟨"", s.kind⟩
  | modifyTtl s cluster days => modifyTtl ⟨"", s.kind⟩ (cluster.map fun _ => "") days
  | createDistributed s _ _ => createDistributed ⟨"", s.kind⟩ "" ""
  | insert s _ => insert ⟨"", s.kind⟩ []

/-- The days of a lifetime that a query sets, if it sets one. -/
def days? : Query → Option Nat
  | modifyTtl _ _ days => some days
  | _ => none

/-- A query with the days of a lifetime left out. -/
def undated : Query → Query
  | modifyTtl s cluster _ => modifyTtl s cluster 0
  | q => q

end Query

/-! ### Lexing -/

open Lexing

theorem isWord_table (k : Kind) : isWord k.table.toList = true := by
  cases k <;> cbv

theorem isWord_distributedTable (k : Kind) : isWord (distributedTable k).toList = true := by
  cases k <;> cbv

/-- Nothing in the name of a table needs a backslash. -/
theorem toList_quoteText_table (k : Kind) :
    (quoteText k.table).toList = '\'' :: (k.table.toList ++ ['\'']) := by
  cases k <;> cbv

theorem isWord_of_mem_columns {k : Kind} {column : String} (hcolumn : column ∈ k.columns)
    {w : List Char} (hw : w ∈ column.toList.splitOn '.') : isWord w = true := by
  have hall : (k.columns.all fun column => (column.toList.splitOn '.').all isWord) = true := by
    cases k <;> cbv
  exact List.all_eq_true.mp (List.all_eq_true.mp hall column hcolumn) w hw

theorem scan_table (k : Kind) {rest : List Char} (hrest : breaks rest = true) :
    scan gap (k.table.toList ++ rest) = after [.word k.table] (scan gap rest) := by
  rw [scan_word_append (isWord_table k) hrest, String.ofList_toList]

theorem scan_distributedTable (k : Kind) {rest : List Char} (hrest : breaks rest = true) :
    scan gap ((distributedTable k).toList ++ rest)
      = after [.word (distributedTable k)] (scan gap rest) := by
  rw [scan_word_append (isWord_distributedTable k) hrest, String.ofList_toList]

theorem scan_onCluster (cluster : Option String) (rest : List Char) :
    scan gap ((onCluster cluster).toList ++ rest)
      = after (clusterTokens cluster) (scan gap rest) := by
  cases cluster with
  | none => simp [onCluster, clusterTokens, after]
  | some cluster =>
    have hon : scan gap " ON CLUSTER ".toList = (gap, words ["ON", "CLUSTER"]) := rfl
    rw [onCluster, String.toList_append, List.append_assoc, scan_piece hon, scan_quoteName,
      after_after]
    rfl

theorem breaks_onCluster (cluster : Option String) {rest : List Char} (hrest : breaks rest = true) :
    breaks ((onCluster cluster).toList ++ rest) = true := by
  cases cluster with
  | none => exact hrest
  | some cluster =>
    rw [onCluster, String.toList_append, List.append_assoc]
    exact breaks_append rfl _

theorem scan_createDatabase (database : String) (cluster : Option String) (rest : List Char) :
    scan gap ((Query.createDatabase database cluster).text.toList ++ rest)
      = after (Query.createDatabase database cluster).tokens (scan gap rest) := by
  have hcreate : scan gap "CREATE DATABASE IF NOT EXISTS ".toList
      = (gap, words ["CREATE", "DATABASE", "IF", "NOT", "EXISTS"]) := rfl
  have htext : (Query.createDatabase database cluster).text
      = "CREATE DATABASE IF NOT EXISTS " ++ quoteName database ++ onCluster cluster := rfl
  simp only [htext, String.toList_append, List.append_assoc]
  rw [scan_piece hcreate, scan_quoteName, scan_onCluster]
  simp [Query.tokens]

theorem scan_listTables (database : String) (rest : List Char) :
    scan gap ((Query.listTables database).text.toList ++ rest)
      = after (Query.listTables database).tokens (scan gap rest) := by
  have hselect : scan gap "SELECT name FROM system.tables WHERE database = ".toList
      = (gap, words ["SELECT", "name", "FROM", "system"] ++ [Token.symbol '.']
        ++ words ["tables", "WHERE", "database"] ++ [Token.symbol '=']) := by cbv
  have htext : (Query.listTables database).text
      = "SELECT name FROM system.tables WHERE database = " ++ quoteText database := rfl
  simp only [htext, String.toList_append, List.append_assoc]
  rw [scan_piece hselect, scan_quoteText]
  simp [Query.tokens]

theorem scan_listColumns (s : Statement) (rest : List Char) :
    scan gap ((Query.listColumns s).text.toList ++ rest)
      = after (Query.listColumns s).tokens (scan gap rest) := by
  have hselect : scan gap "SELECT name FROM system.columns WHERE database = ".toList
      = (gap, words ["SELECT", "name", "FROM", "system"] ++ [Token.symbol '.']
        ++ words ["columns", "WHERE", "database"] ++ [Token.symbol '=']) := by cbv
  have hand : scan gap " AND table = ".toList
      = (gap, words ["AND", "table"] ++ [Token.symbol '=']) := rfl
  have htext : (Query.listColumns s).text
      = "SELECT name FROM system.columns WHERE database = " ++ quoteText s.database
        ++ " AND table = '" ++ s.kind.table ++ "'" := rfl
  have hpieces : (Query.listColumns s).text.toList ++ rest
      = "SELECT name FROM system.columns WHERE database = ".toList ++ ((quoteText s.database).toList
        ++ (" AND table = ".toList ++ ((quoteText s.kind.table).toList ++ rest))) := by
    simp [htext, toList_quoteText_table]
  rw [hpieces, scan_piece hselect, scan_quoteText, scan_piece hand, scan_quoteText]
  simp [Query.tokens]

theorem scan_tableName (s : Statement) {rest : List Char} (hrest : breaks rest = true) :
    scan gap ((tableName s).toList ++ rest)
      = after (tableTokens s.database s.kind.table) (scan gap rest) := by
  have hdot : scan gap ".".toList = (gap, [.symbol '.']) := rfl
  simp only [tableName, String.toList_append, List.append_assoc]
  rw [scan_quoteName, scan_piece hdot, scan_table _ hrest]
  simp [tableTokens]

theorem scan_modifyTtl (s : Statement) (cluster : Option String) (days : Nat) (rest : List Char) :
    scan gap ((Query.modifyTtl s cluster days).text.toList ++ rest)
      = after (Query.modifyTtl s cluster days).tokens (scan gap rest) := by
  have halter : scan gap "ALTER TABLE ".toList = (gap, words ["ALTER", "TABLE"]) := rfl
  have hmodify : scan gap " MODIFY TTL toDateTime(timestamp) + toIntervalDay(".toList
      = (gap, words ["MODIFY", "TTL", "toDateTime"]
        ++ [Token.symbol '(', .word "timestamp", .symbol ')', .symbol '+']
        ++ [Token.word "toIntervalDay", .symbol '(']) := by cbv
  have hclose : scan gap ")".toList = (gap, [.symbol ')']) := rfl
  have htext : (Query.modifyTtl s cluster days).text
      = "ALTER TABLE " ++ tableName s ++ onCluster cluster
        ++ " MODIFY TTL toDateTime(timestamp) + toIntervalDay(" ++ days.repr ++ ")" := rfl
  simp only [htext, String.toList_append, List.append_assoc]
  rw [scan_piece halter, scan_tableName _ (breaks_onCluster _ (breaks_append rfl _)),
    scan_onCluster, scan_piece hmodify, scan_repr _ (breaks_append rfl _),
    scan_piece hclose]
  simp [Query.tokens]

theorem scan_createDistributed (s : Statement) (cluster sharding : String) :
    scan gap (Query.createDistributed s cluster sharding).text.toList
      = after (Query.createDistributed s cluster sharding).tokens
        (scan gap (sharding ++ ")").toList) := by
  have hcreate : scan gap "CREATE TABLE IF NOT EXISTS ".toList
      = (gap, words ["CREATE", "TABLE", "IF", "NOT", "EXISTS"]) := rfl
  have hdot : scan gap ".".toList = (gap, [.symbol '.']) := rfl
  have has : scan gap " AS ".toList = (gap, [.word "AS"]) := rfl
  have hengine : scan gap " ENGINE = Distributed(".toList
      = (gap, [.word "ENGINE", .symbol '=', .word "Distributed", .symbol '(']) := rfl
  have hcomma : scan gap ", ".toList = (gap, [.symbol ',']) := rfl
  have htext : (Query.createDistributed s cluster sharding).text
      = "CREATE TABLE IF NOT EXISTS " ++ quoteName s.database ++ "." ++ distributedTable s.kind
        ++ onCluster (some cluster) ++ " AS " ++ tableName s ++ " ENGINE = Distributed("
        ++ quoteText cluster ++ ", " ++ quoteText s.database ++ ", '" ++ s.kind.table ++ "', "
        ++ sharding ++ ")" := rfl
  have hpieces : (Query.createDistributed s cluster sharding).text.toList
      = "CREATE TABLE IF NOT EXISTS ".toList ++ ((quoteName s.database).toList ++ (".".toList
        ++ ((distributedTable s.kind).toList ++ ((onCluster (some cluster)).toList ++ (" AS ".toList
        ++ ((tableName s).toList ++ (" ENGINE = Distributed(".toList ++ ((quoteText cluster).toList
        ++ (", ".toList ++ ((quoteText s.database).toList ++ (", ".toList
        ++ ((quoteText s.kind.table).toList ++ (", ".toList
        ++ (sharding ++ ")").toList))))))))))))) := by
    simp [htext, toList_quoteText_table]
  rw [hpieces, scan_piece hcreate, scan_quoteName, scan_piece hdot,
    scan_distributedTable _ (breaks_onCluster _ (breaks_append rfl _)),
    scan_onCluster, scan_piece has, scan_tableName _ (breaks_append rfl _),
    scan_piece hengine, scan_quoteText, scan_piece hcomma, scan_quoteText, scan_piece hcomma,
    scan_quoteText, scan_piece hcomma]
  simp [Query.tokens, tableTokens]

theorem scan_column {k : Kind} {column : String} (hmem : column ∈ k.columns) {rest : List Char}
    (hrest : breaks rest = true) :
    scan gap (column.toList ++ rest) = after (dotted column) (scan gap rest) := by
  have hdot : scan gap ['.'] = (gap, [.symbol '.']) := rfl
  have hne : column.toList.splitOn '.' ≠ [] := by simp
  have hitem : ∀ w ∈ column.toList.splitOn '.', ∀ rest, breaks rest = true →
      scan gap (w ++ rest) = after [.word (String.ofList w)] (scan gap rest) :=
    fun w hw _ => scan_word_append (isWord_of_mem_columns hmem hw)
  have h := scan_separated hdot (breaks · = true) (breaks_append rfl) hrest hne hitem
  rwa [List.map_id', List.intercalate_splitOn] at h

theorem scan_columns (k : Kind) {rest : List Char} (hrest : breaks rest = true) :
    scan gap ((commaSeparated k.columns).toList ++ rest)
      = after (columnTokens k) (scan gap rest) := by
  have hcomma : scan gap ", ".toList = (gap, [.symbol ',']) := rfl
  have hne : k.columns ≠ [] := by cases k <;> simp [Kind.columns]
  rw [commaSeparated, String.toList_intercalate]
  exact scan_separated hcomma (breaks · = true) (breaks_append rfl) hrest hne
    fun _ hmem _ => scan_column hmem

theorem scan_insert (s : Statement) (rows : List Row) :
    scan gap (Query.insert s rows).text.toList
      = after (Query.insert s rows).tokens (scan gap (commaSeparated rows).toList) := by
  have hinsert : scan gap "INSERT INTO ".toList = (gap, words ["INSERT", "INTO"]) := rfl
  have hopen : scan gap " (".toList = (gap, [.symbol '(']) := rfl
  have hvalues : scan gap ") VALUES ".toList = (gap, [.symbol ')', .word "VALUES"]) := rfl
  have htext : (Query.insert s rows).text
      = "INSERT INTO " ++ quoteName s.database ++ "." ++ s.kind.table ++ " ("
        ++ commaSeparated s.kind.columns ++ ") VALUES " ++ commaSeparated rows := rfl
  have hpieces : (Query.insert s rows).text.toList
      = "INSERT INTO ".toList ++ ((tableName s).toList ++ (" (".toList
        ++ ((commaSeparated s.kind.columns).toList ++ (") VALUES ".toList
        ++ (commaSeparated rows).toList)))) := by
    simp [htext, tableName]
  rw [hpieces, scan_piece hinsert, scan_tableName _ (breaks_append rfl _), scan_piece hopen,
    scan_columns _ (breaks_append rfl _), scan_piece hvalues]
  simp [Query.tokens]

/-- Every text is lexed as the tokens of its query, after which the rest is lexed on its own. -/
theorem scan_text (q : Query) :
    scan gap q.text.toList = after q.tokens (scan gap q.tail.toList) := by
  cases q with
  | createDatabase database cluster =>
    simpa [Query.tail] using scan_createDatabase database cluster []
  | listTables database => simpa [Query.tail] using scan_listTables database []
  | listColumns s => simpa [Query.tail] using scan_listColumns s []
  | modifyTtl s cluster days => simpa [Query.tail] using scan_modifyTtl s cluster days []
  | createDistributed s cluster sharding => exact scan_createDistributed s cluster sharding
  | insert s rows => exact scan_insert s rows

theorem lex_text (q : Query) : lex q.text = (lex q.tail).map (q.tokens ++ ·) := by
  rw [lex_of_scan (scan_text q), String.ofList_toList]

/-! ### Names -/

theorem filter_columnTokens (k : Kind) : (columnTokens k).filter Token.isQuoted = [] := by
  cases k <;> cbv

/-- The quoted tokens of a query are its names. -/
theorem filter_tokens (q : Query) : q.tokens.filter Token.isQuoted = q.names := by
  cases q with
  | createDatabase database cluster => cases cluster <;> rfl
  | listTables database => rfl
  | listColumns s => rfl
  | modifyTtl s cluster days => cases cluster <;> rfl
  | createDistributed s cluster sharding => rfl
  | insert s rows =>
    simp only [Query.tokens, List.filter_append, filter_columnTokens]
    rfl

/-- Without the content of quotes, the tokens of a query do not depend on its names. -/
theorem outline_tokens (q : Query) :
    q.tokens.map Token.outline = q.blank.tokens.map Token.outline := by
  cases q with
  | createDatabase database cluster => cases cluster <;> rfl
  | listTables database => rfl
  | listColumns s => rfl
  | modifyTtl s cluster days => cases cluster <;> rfl
  | createDistributed s cluster sharding => rfl
  | insert s rows => rfl

/-! ### Numbers -/

theorem filter_isNumber_tableTokens (database : String) (k : Kind) :
    (tableTokens database k.table).filter Token.isNumber = [] := by
  cases k <;> cbv

theorem filter_isNumber_columnTokens (k : Kind) : (columnTokens k).filter Token.isNumber = [] := by
  cases k <;> cbv

theorem filter_isNumber_clusterTokens (cluster : Option String) :
    (clusterTokens cluster).filter Token.isNumber = [] := by
  cases cluster <;> cbv

theorem filter_isNumber_modifyTtl (s : Statement) (cluster : Option String) (days : Nat) :
    (Query.modifyTtl s cluster days).tokens.filter Token.isNumber = [.word days.repr] := by
  have halter : (words ["ALTER", "TABLE"]).filter Token.isNumber = [] := by cbv
  have hmodify : (words ["MODIFY", "TTL", "toDateTime"]).filter Token.isNumber = [] := by cbv
  have htime : ([.symbol '(', .word "timestamp", .symbol ')', .symbol '+'] : List Token).filter
    Token.isNumber = [] := by cbv
  have hday : Token.isNumber (.word "toIntervalDay") = false := by cbv
  have hsymbol (c : Char) : Token.isNumber (.symbol c) = false := rfl
  simp only [Query.tokens, List.filter_append, halter, hmodify, htime, filter_isNumber_tableTokens,
    filter_isNumber_clusterTokens, List.nil_append]
  simp [hday, hsymbol, Token.isNumber_repr]

theorem filter_isNumber_createDistributed (s : Statement) (cluster sharding : String) :
    (Query.createDistributed s cluster sharding).tokens.filter Token.isNumber = [] := by
  obtain ⟨database, k⟩ := s
  cases k <;> cbv

/-- The only number among the tokens of a query is that of the days. -/
theorem filter_isNumber_tokens (q : Query) :
    q.tokens.filter Token.isNumber = q.days?.toList.map fun days => .word days.repr := by
  cases q with
  | createDatabase database cluster => cases cluster <;> cbv
  | listTables database => cbv
  | listColumns s => cbv
  | modifyTtl s cluster days => exact filter_isNumber_modifyTtl s cluster days
  | createDistributed s cluster sharding => exact filter_isNumber_createDistributed s cluster sharding
  | insert s rows =>
    have hinsert : (words ["INSERT", "INTO"]).filter Token.isNumber = [] := by cbv
    simp only [Query.tokens, List.filter_append, hinsert, filter_isNumber_tableTokens,
      filter_isNumber_columnTokens, List.nil_append]
    cbv

/-- Without the content of quotes and the digits of numbers, the tokens of a query do not depend on its
names and days. -/
theorem shape_tokens (q : Query) :
    q.tokens.map Token.shape = q.blank.undated.tokens.map Token.shape := by
  have hblank : q.tokens.map Token.shape = q.blank.tokens.map Token.shape := by
    have houtline := congrArg (List.map Token.shape) (outline_tokens q)
    simpa [Function.comp_def, Token.shape_outline] using houtline
  rw [hblank]
  cases q with
  | modifyTtl s cluster days => simp [Query.blank, Query.undated, Query.tokens, Token.shape_repr]
  | _ => rfl

end Ingest.ClickHouse
