import Ingest.Proofs.QueryTexts
import Ingest.Proofs.RowSplitting

/-!
What names can do to the queries of a store: nothing but stand in their quotes. The queries that a
store sends for a request are told here from the request and the settings alone. Main statements:
whatever the server answers, a store sends only these; each is lexed into tokens that have the names
meant as their quoted contents and are otherwise the same for all names, and for all settings with a
cluster or without one, but for the days of a lifetime; and the text of an insert tells its database
and its rows.
-/

namespace Ingest.ClickHouse

open Sql

/-! ### Requests -/

/-- What is asked of a store. -/
inductive Request where
  | initDatabase (database : String)
  | prepare (statement : Statement)
  | execute (statement : Statement) (ready : Bool) (rows : List Row)

/-- The queries sent once a request is done. -/
def Store.sentFor (s : Store) (sent : List Query) : Request → List Query
  | .initDatabase database => (s.initDatabase sent database).2
  | .prepare statement => (s.prepare sent statement).2
  | .execute statement ready rows => (s.execute sent statement ready rows).2

/-- The queries that a request asks for under settings. -/
inductive Asks (c : ClickHouseSettings) : Request → Query → Prop where
  | create (database : String) :
    Asks c (.initDatabase database) (.createDatabase database (Store.cluster? c))
  | list (database : String) : Asks c (.initDatabase database) (.listTables database)
  | ttl (database : String) (k : Kind) :
    Asks c (.initDatabase database)
      (.modifyTtl ⟨database, k⟩ (Store.cluster? c) (c.tableSettings k.table).ttlDays)
  | distribute (database : String) (k : Kind) {cluster : String}
      (hcluster : Store.cluster? c = some cluster) :
    Asks c (.initDatabase database)
      (.createDistributed ⟨database, k⟩ cluster
        ((c.tableSettings k.table).hash.getD Store.defaultSharding))
  | columns (statement : Statement) : Asks c (.prepare statement) (.listColumns statement)
  | rows (statement : Statement) (ready : Bool) {rows : List Row} (hrows : rows ≠ []) :
    Asks c (.execute statement ready rows) (.insert statement rows)

/-- The kinds of statement. -/
inductive StatementKind where
  | createDatabase | listTables | listColumns | modifyTtl | createDistributed | insert
  deriving DecidableEq, Repr

/-- The kind of statement of a query, and the table it is about, if it is about one. -/
def Query.form : Query → StatementKind × Option Kind
  | createDatabase _ _ => (.createDatabase, none)
  | listTables _ => (.listTables, none)
  | listColumns s => (.listColumns, some s.kind)
  | modifyTtl s _ _ => (.modifyTtl, some s.kind)
  | createDistributed s _ _ => (.createDistributed, some s.kind)
  | insert s _ => (.insert, some s.kind)

/-- The statement, the table and whether there is a cluster tell all of a query but its names and the
days of a lifetime. -/
theorem Asks.blank_undated_eq {c c' : ClickHouseSettings} {r r' : Request} {q q' : Query}
    (h : Asks c r q) (h' : Asks c' r' q') (hform : q'.form = q.form)
    (hcluster : (Store.cluster? c').isSome = (Store.cluster? c).isSome) :
    q'.blank.undated = q.blank.undated := by
  have hblank : (Store.cluster? c').map (fun _ => "") = (Store.cluster? c).map fun _ => "" := by
    cases hc : Store.cluster? c <;> cases hc' : Store.cluster? c' <;> simp_all
  cases h <;> cases h' <;> simp_all [Query.form, Query.blank, Query.undated]

theorem Query.blank_eq_of_undated {q q' : Query} (h : q'.blank.undated = q.blank.undated)
    (hdays : q'.days? = q.days?) : q'.blank = q.blank := by
  cases q <;> cases q' <;> simp_all [blank, undated, days?]

namespace Store

/-- Of several queries a store sends the first ones. -/
theorem exists_sendAll_eq (s : Store) : ∀ (qs sent : List Query),
    ∃ new, (s.sendAll sent qs).2 = sent ++ new ∧ new <+: qs
  | [], sent => ⟨[], by simp [sendAll]⟩
  | q :: qs, sent => by
    cases h : s.server.answer sent q with
    | error fault => exact ⟨[q], by simp [sendAll, h]⟩
    | ok names =>
      obtain ⟨new, hnew, hfirst⟩ := exists_sendAll_eq s qs (sent ++ [q])
      refine ⟨q :: new, ?_, List.prefix_cons_inj q |>.mpr hfirst⟩
      simp [sendAll, h, hnew]

theorem asks_of_mem_tableQueries {c : ClickHouseSettings} {database : String}
    {existing : List String} {k : Kind} {q : Query} (h : q ∈ tableQueries c database existing k) :
    Asks c (.initDatabase database) q := by
  unfold tableQueries at h
  split at h
  · simp at h
  · cases hcluster : cluster? c with
    | none =>
      simp only [hcluster, List.mem_singleton] at h
      rw [h, ← hcluster]
      exact .ttl database k
    | some cluster =>
      simp only [hcluster] at h
      split at h
      · rw [List.mem_singleton.mp h, ← hcluster]
        exact .ttl database k
      · rcases List.mem_pair.mp h with rfl | rfl
        · rw [← hcluster]
          exact .ttl database k
        · exact .distribute database k hcluster

theorem asks_of_mem_upkeep {c : ClickHouseSettings} {database : String} {existing : List String}
    {q : Query} (h : q ∈ upkeep c database existing) : Asks c (.initDatabase database) q := by
  obtain ⟨k, -, hq⟩ := List.mem_flatMap.mp h
  exact asks_of_mem_tableQueries hq

theorem exists_initDatabase_eq (s : Store) (sent : List Query) (database : String) :
    ∃ new, (s.initDatabase sent database).2 = sent ++ new ∧
      ∀ q ∈ new, Asks s.settings (.initDatabase database) q := by
  let create := Query.createDatabase database (cluster? s.settings)
  let list := Query.listTables database
  have hcreate : Asks s.settings (.initDatabase database) create := .create database
  have hlist : Asks s.settings (.initDatabase database) list := .list database
  cases h₁ : s.server.answer sent create with
  | error fault =>
    exact ⟨[create], by simp [initDatabase, send, create, h₁], by simpa using hcreate⟩
  | ok names =>
    cases h₂ : s.server.answer (sent ++ [create]) list with
    | error fault =>
      exact ⟨[create, list], by simp [initDatabase, send, create, list, h₁, h₂],
        by simpa using ⟨hcreate, hlist⟩⟩
    | ok existing =>
      obtain ⟨new, hnew, hfirst⟩ := s.exists_sendAll_eq (upkeep s.settings database existing)
        (sent ++ [create] ++ [list])
      refine ⟨create :: list :: new, ?_, ?_⟩
      · have hsplit : sent ++ create :: list :: new = sent ++ [create] ++ [list] ++ new := by simp
        rw [hsplit, ← hnew]
        simp only [initDatabase, send, create, list, h₁, h₂]
        split <;> next h => rw [h]
      · simp only [List.mem_cons]
        rintro q (rfl | rfl | hq)
        · exact hcreate
        · exact hlist
        · exact asks_of_mem_upkeep (hfirst.subset hq)

/-- Whatever the server answers, a request adds only queries that it asks for. -/
theorem exists_sentFor_eq (s : Store) (sent : List Query) (r : Request) :
    ∃ new, s.sentFor sent r = sent ++ new ∧ ∀ q ∈ new, Asks s.settings r q := by
  cases r with
  | initDatabase database => exact s.exists_initDatabase_eq sent database
  | prepare statement =>
    refine ⟨[.listColumns statement], ?_, by simpa using Asks.columns statement⟩
    simp only [sentFor, prepare, send]
    cases s.server.answer sent (.listColumns statement) with
    | error fault => rfl
    | ok listed => cases h : columnFault? statement listed <;> simp [h]
  | execute statement ready rows =>
    by_cases hsend : ready = true ∧ rows ≠ []
    · obtain ⟨rfl, hrows⟩ := hsend
      refine ⟨[.insert statement rows], ?_, by simpa using Asks.rows statement true hrows⟩
      simp only [sentFor, execute, send]
      cases s.server.answer sent (.insert statement rows) <;> simp [hrows]
    · refine ⟨[], ?_, by simp⟩
      cases ready with
      | false => simp [sentFor, execute]
      | true =>
        have hrows : rows = [] := by simpa using hsend
        simp [sentFor, execute, hrows]

end Store

/-! ### Inserts -/

/-- The text of an insert tells its database and its rows. -/
theorem insert_text_inj {s t : Statement} (hkind : s.kind = t.kind) {rs us : List TableRecord}
    (h : (Query.insert s (encodeAll rs)).text = (Query.insert t (encodeAll us)).text) :
    s = t ∧ encodeAll rs = encodeAll us := by
  have hs := congrArg Prod.snd (scan_text (.insert s (encodeAll rs)))
  have ht := congrArg Prod.snd (scan_text (.insert t (encodeAll us)))
  rw [h, ht] at hs
  obtain rfl : s = t := by
    have hdatabase : s.database = t.database := by
      simp only [Query.tokens, words, tableTokens, Lexing.after, List.map_cons, List.map_nil,
        List.cons_append, List.nil_append, List.cons.injEq, Token.name.injEq] at hs
      exact hs.2.2.1.symm
    cases s; cases t; cases hdatabase; cases hkind; rfl
  refine ⟨rfl, ?_⟩
  have hrows : commaSeparated (encodeAll rs) = commaSeparated (encodeAll us) :=
    String.append_right_inj s.insertHead |>.mp h
  have hsplit := splitRows_encodeAll rs
  rw [hrows, splitRows_encodeAll us] at hsplit
  exact (Option.some.inj hsplit).symm

/-! ### Names and rows -/

/-- What a text says of its query: its tokens, of which the quoted ones are the names and the only
number is that of the days. Without the content of quotes they are those of every query that differs in
names only, and without the digits of the number as well those of every query that differs in names and
days. -/
structure Query.Faithful (q : Query) : Prop where
  lexed : Lexing.scan .gap q.text.toList = Lexing.after q.tokens (Lexing.scan .gap q.tail.toList)
  named : q.tokens.filter Token.isQuoted = q.names
  numbered : q.tokens.filter Token.isNumber = q.days?.toList.map fun days => .word days.repr
  formed : ∀ q' : Query, q'.blank = q.blank →
    q'.tokens.map Token.outline = q.tokens.map Token.outline
  shaped : ∀ q' : Query, q'.blank.undated = q.blank.undated →
    q'.tokens.map Token.shape = q.tokens.map Token.shape

theorem faithful (q : Query) : q.Faithful where
  lexed := scan_text q
  named := filter_tokens q
  numbered := filter_isNumber_tokens q
  formed q' h := by rw [outline_tokens, h, ← outline_tokens]
  shaped q' h := by rw [shape_tokens, h, ← shape_tokens]

/-- Every query that a store sends is one that the request asks for, with the names of the request
and of the settings in their quotes and nowhere else. Its tokens are, but for the content of quotes and
the number of days in a lifetime, those of every query with the statement and table, under all settings
that name a cluster if these do; with the same number of days they are the same but for the content of
quotes. And the text after VALUES is cut into just the rows of the request, so that no other insert into
the table has the same text. -/
theorem sent_texts_faithful (s : Store) (sent : List Query) (r : Request) :
    ∃ new, s.sentFor sent r = sent ++ new ∧
      ∀ q ∈ new, Asks s.settings r q ∧ q.Faithful ∧
        (∀ c' r' q', Asks c' r' q' → q'.form = q.form →
          (Store.cluster? c').isSome = (Store.cluster? s.settings).isSome →
            q'.tokens.map Token.shape = q.tokens.map Token.shape ∧
            (q'.days? = q.days? →
              q'.tokens.map Token.outline = q.tokens.map Token.outline)) ∧
        ∀ (st : Statement) (ready : Bool) (rs : List TableRecord),
          r = .execute st ready (encodeAll rs) →
            splitRows q.tail = some (encodeAll rs) ∧ (lex q.text).isSome ∧
            ∀ (st' : Statement) (rs' : List TableRecord), st'.kind = st.kind →
              (Query.insert st' (encodeAll rs')).text = q.text →
                st'.database = st.database ∧ encodeAll rs' = encodeAll rs := by
  obtain ⟨new, hnew, hasks⟩ := s.exists_sentFor_eq sent r
  refine ⟨new, hnew, fun q hq => ⟨hasks q hq, faithful q, ?_, ?_⟩⟩
  · intro c' r' q' hasks' hform hcluster
    have hundated := (hasks q hq).blank_undated_eq hasks' hform hcluster
    exact ⟨(faithful q).shaped q' hundated,
      fun hdays => (faithful q).formed q' (Query.blank_eq_of_undated hundated hdays)⟩
  · rintro st ready rs rfl
    cases hasks q hq with
    | rows _ _ hrows =>
      refine ⟨splitRows_encodeAll rs, ?_, ?_⟩
      · obtain ⟨vss, hvss⟩ := exists_encodeAll_eq rs
        simp [lex_text, Query.tail, hvss, lex_rows]
      · intro st' rs' hkind htext
        obtain ⟨rfl, hrows⟩ := insert_text_inj hkind htext
        exact ⟨rfl, hrows⟩

/-- The days of a lifetime stand in the text as a word, by which two settings are told apart that are the
same in all else. -/
theorem lifetimes_tell_texts_apart :
    let server : Server := ⟨fun _ q => .ok (match q with
      | .listTables _ => ["jvm_gc"]
      | _ => [])⟩
    let week : Store := ⟨{ ttlDays := 7 }, server⟩
    let month : Store := ⟨{ ttlDays := 30 }, server⟩
    let r : Request := .initDatabase "apo"
    ∃ q ∈ week.sentFor [] r, ∃ q' ∈ month.sentFor [] r, q'.form = q.form ∧
      Store.cluster? week.settings = none ∧ Store.cluster? month.settings = none ∧
      lex q.text = some q.tokens ∧ lex q'.text = some q'.tokens ∧
      q'.tokens.map Token.outline ≠ q.tokens.map Token.outline :=
  ⟨.modifyTtl ⟨"apo", .jvmGc⟩ none 7, by decide +kernel, .modifyTtl ⟨"apo", .jvmGc⟩ none 30,
    by decide +kernel, rfl, rfl, rfl, lex_text _, lex_text _, by decide +kernel⟩

end Ingest.ClickHouse
