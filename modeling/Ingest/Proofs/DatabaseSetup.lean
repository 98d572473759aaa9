import Ingest.Proofs.CacheBatches
import Ingest.Proofs.QueryNames

/-!
Making a database ready. What has to be sent is told here by the settings and the tables that exist:
the database is created, its tables are listed, and each table of the service that exists gets its
lifetime and, on a cluster, a table over all hosts unless there is one. Main statement: a store sends
just this, in this order and no further than the first failure; all definitions are made on the
cluster if there is one; and where the tables exist that were made, nothing but the creation of
tables is left out when it is sent again.
-/

namespace Ingest.ClickHouse

open Sql

/-! ### What has to be sent -/

/-- Whether a cluster with a name is configured. -/
def isClustered (c : ClickHouseSettings) : Bool := decide (c.cluster.getD "" ≠ "")

/-- The cluster on which definitions are made. -/
def scope (c : ClickHouseSettings) : Option String := if isClustered c then c.cluster else none

/-- The queries for a table that exists beside others. -/
def tableSetup (c : ClickHouseSettings) (database : String) (tables : List String) (k : Kind) :
    List Query :=
  .modifyTtl ⟨database, k⟩ (scope c) (c.tableSettings k.table).ttlDays ::
    if isClustered c ∧ k.table ++ "_all" ∉ tables then
      [.createDistributed ⟨database, k⟩ (c.cluster.getD "")
        ((c.tableSettings k.table).hash.getD "rand()")]
    else []

/-- The queries for a database in which the given tables exist. -/
def setup (c : ClickHouseSettings) (database : String) (tables : List String) : List Query :=
  .createDatabase database (scope c) :: .listTables database ::
    (Kind.all.filter fun k => decide (k.table ∈ tables)).flatMap (tableSetup c database tables)

/-- Either there is no cluster, or it is the one that is configured. -/
theorem scope_cases (c : ClickHouseSettings) :
    (isClustered c = false ∧ scope c = none) ∨
      (isClustered c = true ∧ scope c = some (c.cluster.getD "")) := by
  cases h : c.cluster with
  | none => simp [scope, isClustered, h]
  | some cluster => by_cases hempty : cluster = "" <;> simp [scope, isClustered, h, hempty]

theorem cluster?_eq (c : ClickHouseSettings) : Store.cluster? c = scope c := by
  cases h : c.cluster with
  | none => simp [Store.cluster?, scope, h]
  | some cluster =>
    by_cases hempty : cluster = "" <;> simp [Store.cluster?, scope, isClustered, h, hempty]

/-- The tables that exist matter only as a set. -/
theorem tableQueries_eq (c : ClickHouseSettings) (database : String) {names tables : List String}
    (hnames : ∀ name, name ∈ names ↔ name ∈ tables) (k : Kind) :
    Store.tableQueries c database names k
      = if k.table ∈ tables then tableSetup c database tables k else [] := by
  simp only [Store.tableQueries, tableSetup, Store.defaultSharding, distributedTable, cluster?_eq,
    hnames, ite_not]
  rcases scope_cases c with ⟨hclustered, hscope⟩ | ⟨hclustered, hscope⟩
  · simp [hclustered, hscope]
  · by_cases hall : k.table ++ "_all" ∈ tables <;> simp [hclustered, hscope, hall]

theorem upkeep_eq (c : ClickHouseSettings) (database : String) {names tables : List String}
    (hnames : ∀ name, name ∈ names ↔ name ∈ tables) :
    Store.upkeep c database names
      = (Kind.all.filter fun k => decide (k.table ∈ tables)).flatMap
        (tableSetup c database tables) := by
  rw [Store.upkeep, ← flatMap_filter]
  refine List.flatMap_congr fun k _ => ?_
  simp only [tableQueries_eq c database hnames k, decide_eq_true_eq]

theorem mem_setup {c : ClickHouseSettings} {database : String} {tables : List String} {q : Query} :
    q ∈ setup c database tables
      ↔ q = .createDatabase database (scope c) ∨ q = .listTables database ∨
        ∃ k : Kind, k.table ∈ tables ∧
          (q = .modifyTtl ⟨database, k⟩ (scope c) (c.tableSettings k.table).ttlDays ∨
            isClustered c = true ∧ distributedTable k ∉ tables ∧
              q = .createDistributed ⟨database, k⟩ (c.cluster.getD "")
                ((c.tableSettings k.table).hash.getD "rand()")) := by
  simp only [setup, List.mem_cons, List.mem_flatMap, List.mem_filter, Kind.mem_all, true_and,
    decide_eq_true_eq, tableSetup, distributedTable]
  refine or_congr_right (or_congr_right (exists_congr fun k => and_congr_right fun _ => ?_))
  split <;> next h => simp_all

namespace Query

/-- The table that a query creates. -/
def createdTable? : Query → Option String
  | createDistributed s _ _ => some (distributedTable s.kind)
  | _ => none

/-- Whether a query defines a database or a table. -/
def isDefinition : Query → Bool
  | createDatabase _ _ | modifyTtl _ _ _ | createDistributed _ _ _ => true
  | _ => false

/-- The tokens of the text of a query, down to its end or to quotes that are left open. -/
def lexed (q : Query) : List Token :=
  let r := Lexing.scan .gap q.text.toList
  r.2 ++ r.1.finish.getD []

end Query

/-! ### What is sent -/

/-- Whether a server takes queries, each in the light of those before it. -/
def Server.Accepts (server : Server) : List Query → List Query → Prop
  | _, [] => True
  | sent, q :: qs => (∃ names, server.answer sent q = .ok names) ∧ server.Accepts (sent ++ [q]) qs

namespace Store

/-- Whether the server, if it lists the tables of a database that is being made ready, lists these. -/
def Reports (s : Store) (sent : List Query) (database : String) (tables : List String) : Prop :=
  ∀ names, s.server.answer (sent ++ [.createDatabase database (scope s.settings)])
      (.listTables database) = .ok names →
    ∀ name, name ∈ names ↔ name ∈ tables

/-- Whether queries were sent in order: all of them if the server takes all, and otherwise those up
to the first that fails and this one, with the error that tells of it. -/
def CarriesOut (s : Store) (database : String) (sent plan : List Query)
    (r : Except InitError Unit × List Query) : Prop :=
  (s.server.Accepts sent plan ∧ r = (.ok (), sent ++ plan)) ∨
    ∃ before q after fault, plan = before ++ q :: after ∧ s.server.Accepts sent before ∧
      s.server.answer (sent ++ before) q = .error fault ∧
      r = (.error (initErrorOf database q fault), sent ++ before ++ [q])

variable {s : Store} {database : String}

/-- A query that is taken goes before what the rest comes to. -/
theorem CarriesOut.cons {sent plan : List Query} {r : Except InitError Unit × List Query} {q : Query}
    {names : List String} (hanswer : s.server.answer sent q = .ok names)
    (h : s.CarriesOut database (sent ++ [q]) plan r) : s.CarriesOut database sent (q :: plan) r := by
  rcases h with ⟨haccepts, rfl⟩ | ⟨before, p, after, fault, rfl, haccepts, hfault, rfl⟩
  · exact .inl ⟨⟨⟨names, hanswer⟩, haccepts⟩, by simp⟩
  · refine .inr ⟨q :: before, p, after, fault, rfl, ⟨⟨names, hanswer⟩, haccepts⟩, ?_, by simp⟩
    simpa using hfault

theorem CarriesOut.of_fault {sent : List Query} {q : Query} {fault : ServerFault}
    (hanswer : s.server.answer sent q = .error fault) (plan : List Query) :
    s.CarriesOut database sent (q :: plan)
      (.error (initErrorOf database q fault), sent ++ [q]) :=
  .inr ⟨[], q, plan, fault, rfl, trivial, by simpa using hanswer, by simp⟩

/-- What sending comes to as the outcome of making a database ready. -/
def outcomeOf (database : String) :
    Option (Query × ServerFault) × List Query → Except InitError Unit × List Query
  | (some (q, fault), sent) => (.error (initErrorOf database q fault), sent)
  | (none, sent) => (.ok (), sent)

theorem carriesOut_sendAll : ∀ (plan sent : List Query),
    s.CarriesOut database sent plan (outcomeOf database (s.sendAll sent plan))
  | [], sent => .inl ⟨trivial, by simp [sendAll, outcomeOf]⟩
  | q :: plan, sent => by
    cases hanswer : s.server.answer sent q with
    | error fault =>
      rw [sendAll, hanswer]
      exact .of_fault hanswer plan
    | ok names =>
      rw [sendAll, hanswer]
      exact .cons hanswer (carriesOut_sendAll plan (sent ++ [q]))

theorem initDatabase_carriesOut {sent : List Query} {tables : List String}
    (hreports : s.Reports sent database tables) :
    s.CarriesOut database sent (setup s.settings database tables)
      (s.initDatabase sent database) := by
  have hcreate : Query.createDatabase database (cluster? s.settings)
      = .createDatabase database (scope s.settings) := by rw [cluster?_eq]
  rw [setup, initDatabase, hcreate]
  simp only [send]
  cases hfirst : s.server.answer sent (.createDatabase database (scope s.settings)) with
  | error fault => exact .of_fault hfirst _
  | ok _ =>
    refine .cons hfirst ?_
    dsimp only
    cases hlist : s.server.answer (sent ++ [.createDatabase database (scope s.settings)])
        (.listTables database) with
    | error fault => exact .of_fault hlist _
    | ok names =>
      refine .cons hlist ?_
      rw [← upkeep_eq s.settings database (hreports names hlist)]
      exact carriesOut_sendAll (upkeep s.settings database names)
        (sent ++ [.createDatabase database (scope s.settings)] ++ [.listTables database])

end Store

/-! ### On the cluster -/

theorem lexed_eq (q : Query) : q.lexed = q.tokens ++
    ((Lexing.scan .gap q.tail.toList).2
      ++ (Lexing.scan .gap q.tail.toList).1.finish.getD []) := by
  rw [Query.lexed, scan_text, Lexing.after]
  exact List.append_assoc _ _ _

theorem infix_append_append {α : Type} (xs ys zs rest : List α) :
    zs <:+: xs ++ (ys ++ (zs ++ rest)) :=
  ⟨xs ++ ys, rest, by simp only [List.append_assoc]⟩

theorem cluster_ne_repr (n : Nat) : "CLUSTER" ≠ n.repr := by
  intro h
  have hletter : 'C' ∈ n.repr.toList := h ▸ by decide
  exact absurd (Text.isDigit_of_mem_repr hletter) (by decide)

theorem cluster_ne_table (k : Kind) : "CLUSTER" ≠ k.table := by
  cases k <;> decide

/-- Every definition of a database is made on the cluster if there is one, and none on a cluster
otherwise. -/
theorem onCluster_of_mem_setup {c : ClickHouseSettings} {database : String} {tables : List String}
    {q : Query} (hq : q ∈ setup c database tables) (hdefines : q.isDefinition = true) :
    if isClustered c then
      [.word "ON", .word "CLUSTER", .name (c.cluster.getD "")] <:+: q.lexed
    else Token.word "CLUSTER" ∉ q.lexed := by
  rw [lexed_eq]
  rcases scope_cases c with ⟨hclustered, hscope⟩ | ⟨hclustered, hscope⟩
  · rw [hclustered, if_neg Bool.false_ne_true]
    rcases mem_setup.mp hq with rfl | rfl | ⟨k, -, rfl | ⟨hmakes, -⟩⟩
    · simp [hscope, Query.tokens, Query.tail, words, clusterTokens, Lexing.scan, Lexing.finish]
    · cases hdefines
    · simp [hscope, Query.tokens, Query.tail, words, clusterTokens, tableTokens, Lexing.scan,
        Lexing.finish, cluster_ne_table, cluster_ne_repr]
    · rw [hclustered] at hmakes
      cases hmakes
  · rw [hclustered, if_pos rfl]
    refine List.IsInfix.trans ?_ (List.prefix_append q.tokens _).isInfix
    have htokens : [.word "ON", .word "CLUSTER", .name (c.cluster.getD "")]
      = clusterTokens (some (c.cluster.getD "")) := rfl
    rw [htokens]
    rcases mem_setup.mp hq with rfl | rfl | ⟨k, -, rfl | ⟨-, -, rfl⟩⟩
    · rw [hscope, Query.tokens]
      exact (List.suffix_append _ _).isInfix
    · cases hdefines
    · rw [hscope, Query.tokens]
      simp only [List.append_assoc]
      exact infix_append_append _ _ _ _
    · rw [Query.tokens]
      simp only [List.append_assoc]
      exact infix_append_append _ _ _ _

/-! ### Once more -/

/-- No table of the service has the name of a table over all hosts. -/
theorem table_ne_distributedTable (j k : Kind) : k.table ≠ distributedTable j := by
  intro h
  have hsuffix : "_all".toList <:+ k.table.toList := by
    rw [h, distributedTable, String.toList_append]
    exact List.suffix_append _ _
  revert hsuffix
  cases k <;> decide

theorem mem_created {c : ClickHouseSettings} {database : String} {tables : List String}
    {name : String} :
    name ∈ (setup c database tables).filterMap Query.createdTable?
      ↔ ∃ k : Kind, k.table ∈ tables ∧ isClustered c = true ∧ distributedTable k ∉ tables ∧
        name = distributedTable k := by
  simp only [List.mem_filterMap, mem_setup]
  constructor
  · rintro ⟨q, rfl | rfl | ⟨k, hk, rfl | ⟨hclustered, hall, rfl⟩⟩, hcreated⟩
    · cases hcreated
    · cases hcreated
    · cases hcreated
    · exact ⟨k, hk, hclustered, hall, (Option.some.inj hcreated).symm⟩
  · rintro ⟨k, hk, hclustered, hall, rfl⟩
    exact ⟨_, .inr (.inr ⟨k, hk, .inr ⟨hclustered, hall, rfl⟩⟩), rfl⟩

/-- The tables that are made are none of the service's own. -/
theorem table_mem_append_created {c : ClickHouseSettings} {database : String}
    {tables : List String} {k : Kind} :
    k.table ∈ tables ++ (setup c database tables).filterMap Query.createdTable?
      ↔ k.table ∈ tables := by
  rw [List.mem_append, mem_created]
  refine ⟨fun h => h.resolve_right ?_, .inl⟩
  rintro ⟨j, -, -, -, hname⟩
  exact table_ne_distributedTable j k hname

/-- Of the queries for a table only that for its lifetime makes no table. -/
theorem filter_tableSetup (c : ClickHouseSettings) (database : String) (tables : List String)
    (k : Kind) :
    (tableSetup c database tables k).filter (fun q => q.createdTable?.isNone)
      = [.modifyTtl ⟨database, k⟩ (scope c) (c.tableSettings k.table).ttlDays] := by
  rw [tableSetup]
  split <;> rfl

theorem tableSetup_again {c : ClickHouseSettings} {database : String} {tables : List String}
    {k : Kind} (hk : k.table ∈ tables) :
    tableSetup c database (tables ++ (setup c database tables).filterMap Query.createdTable?) k
      = (tableSetup c database tables k).filter fun q => q.createdTable?.isNone := by
  rw [filter_tableSetup, tableSetup, if_neg]
  rintro ⟨hclustered, hnew⟩
  rw [List.mem_append, mem_created, not_or] at hnew
  exact hnew.2 ⟨k, hk, hclustered, hnew.1, rfl⟩

theorem setup_again (c : ClickHouseSettings) (database : String) (tables : List String) :
    let plan := setup c database tables
    setup c database (tables ++ plan.filterMap Query.createdTable?)
      = plan.filter fun q => q.createdTable?.isNone := by
  intro plan
  have hfilter : plan.filter (fun q => q.createdTable?.isNone)
      = .createDatabase database (scope c) :: .listTables database ::
        (Kind.all.filter fun k => decide (k.table ∈ tables)).flatMap fun k =>
          (tableSetup c database tables k).filter fun q => q.createdTable?.isNone := by
    rw [← List.filter_flatMap]
    rfl
  rw [hfilter, setup]
  simp only [plan, table_mem_append_created]
  congr 2
  refine List.flatMap_congr fun k hk => tableSetup_again ?_
  simpa using (List.mem_filter.mp hk).2

/-- A store makes a database ready as its settings and the tables that exist tell it to, up to the
first failure. On a cluster every definition is made on the cluster. And once the tables that were
made exist as well, no table is made, and all else is sent again. -/
theorem initDatabase_follows_setup (s : Store) (sent : List Query) (database : String)
    (tables : List String) (hreports : s.Reports sent database tables) :
    let plan := setup s.settings database tables
    s.CarriesOut database sent plan (s.initDatabase sent database) ∧
    (∀ q ∈ plan, q.isDefinition = true →
      if isClustered s.settings then
        [.word "ON", .word "CLUSTER", .name (s.settings.cluster.getD "")] <:+: q.lexed
      else Token.word "CLUSTER" ∉ q.lexed) ∧
    ∀ later, s.Reports later database (tables ++ plan.filterMap Query.createdTable?) →
      s.CarriesOut database later (plan.filter fun q => q.createdTable?.isNone)
        (s.initDatabase later database) := by
  intro plan
  refine ⟨s.initDatabase_carriesOut hreports, fun q hq hdefines => onCluster_of_mem_setup hq hdefines,
    fun later hlater => ?_⟩
  have hagain := Store.initDatabase_carriesOut hlater
  rwa [setup_again] at hagain

/-- On a cluster, of two tables one stands before its hosts already. The other one is made, with a
sharding of its own, and is not made again. -/
theorem initDatabase_follows_setup_on_cluster :
    let settings : ClickHouseSettings := {
      cluster := some "east"
      ttl := [⟨["jvm_gc"], 3⟩]
      hash := [⟨["jvm_gc"], "cityHash64(pid)"⟩] }
    let tables := ["span_trace_all", "span_trace", "jvm_gc"]
    let server : Server := ⟨fun sent q => .ok (match q with
      | .listTables _ => tables ++ sent.filterMap Query.createdTable?
      | _ => [])⟩
    let s : Store := ⟨settings, server⟩
    let first := s.initDatabase [] "apo"
    let again := s.initDatabase first.2 "apo"
    let plan : List Query := [.createDatabase "apo" (some "east"), .listTables "apo",
      .modifyTtl ⟨"apo", .jvmGc⟩ (some "east") 3,
      .createDistributed ⟨"apo", .jvmGc⟩ "east" "cityHash64(pid)",
      .modifyTtl ⟨"apo", .spanTrace⟩ (some "east") 7]
    s.Reports [] "apo" tables ∧ s.Reports first.2 "apo" (tables ++ ["jvm_gc_all"]) ∧
    first.1.isOk = true ∧ first.2 = plan ∧ again.1.isOk = true ∧ again.2 = plan ++ plan.eraseIdx 3 ∧
    s.CarriesOut "apo" [] plan first ∧ s.CarriesOut "apo" first.2 (plan.eraseIdx 3) again := by
  intro settings tables server s first again plan
  have hreports : s.Reports [] "apo" tables := by
    intro names hnames name
    rw [← Except.ok.inj hnames]
    exact Iff.rfl
  have hlater : s.Reports first.2 "apo" (tables ++ ["jvm_gc_all"]) := by
    intro names hnames name
    rw [← Except.ok.inj hnames]
    exact Iff.rfl
  obtain ⟨hfirst, -, hagain⟩ := initDatabase_follows_setup s [] "apo" tables hreports
  exact ⟨hreports, hlater, by decide +kernel, by decide +kernel, by decide +kernel,
    by decide +kernel, hfirst, hagain first.2 hlater⟩

end Ingest.ClickHouse
