import Ingest.Proofs.ClientSeries
import Ingest.Proofs.FlushedBatches

/-!
One record, several outputs. An error report gives a row and, unless it is dropped or has no tree, the
row of a propagation; a relation gives rows of calls to dependencies, and the same calls are counted in
the metrics of clients. Main statement: in every flush the rows of propagations are those of the reports
that are traced, one for each in the order of the reports, with the keys that join the two; and the
metrics grow by what the rows of calls say, whether or not these rows are exported or written.
-/

namespace Ingest

open Sql

namespace Tree

variable {α : Type}

mutual
/-- The number of nodes of a tree. -/
def size : Tree α → Nat
  | .node _ cs => forestSize cs + 1

def forestSize : List (Tree α) → Nat
  | [] => 0
  | t :: ts => size t + forestSize ts
end

mutual
theorem length_visits (path : TreePath) : ∀ t : Tree α, (t.visits path).length = t.size
  | .node v cs => by rw [visits, List.length_cons, length_forestVisits path 0 cs, size]

theorem length_forestVisits (path : TreePath) (i : Nat) :
    ∀ ts : List (Tree α), (forestVisits path i ts).length = forestSize ts
  | [] => rfl
  | t :: ts => by
    rw [forestVisits, List.length_append, length_visits (path.child i) t,
      length_forestVisits path (i + 1) ts, forestSize]
end

theorem length_walk (t : Tree α) : t.walk.length = t.size := length_visits .root t

end Tree

/-- What a row of a table says under the name of a column. -/
def Row.under (k : Kind) (row : Row) (column : String) : Option Value :=
  (readRow row).bind fun vs => (k.columns.zip vs).lookup column

theorem Row.under_renderTuple (k : Kind) (vs : List Value) (column : String) :
    Row.under k (renderTuple vs) column = (k.columns.zip vs).lookup column := by
  rw [Row.under, readRow_renderTuple, Option.bind_some]

/-! ### Reports and propagations -/

/-- The columns that join the propagation of an error to its report. -/
def joinColumns : List String := ["trace_id", "entry_service", "entry_url", "entry_span_id"]

/-- The columns with an element for each node of a tree. -/
def nodeColumns : List String :=
  ["nodes.service", "nodes.instance", "nodes.url", "nodes.is_traced", "nodes.is_error",
    "nodes.error_types", "nodes.error_msgs", "nodes.depth", "nodes.path"]

namespace ErrorReport

/-- Whether it is told how the error travelled, and the report is not dropped. -/
def isTraced (r : ErrorReport) : Bool := !r.isDrop && r.relationTree.isSome

/-- The row of a report. -/
def row (r : ErrorReport) : Row := renderTuple r.values

end ErrorReport

/-- Whether the row of a propagation goes with a report and its row. -/
structure Joins (x : ErrorReport × Row) (row : Row) : Prop where
  keys : ∀ column ∈ joinColumns,
    ∃ v, Row.under .errorReport x.2 column = some v ∧ Row.under .errorPropagation row column = some v
  nodes : ∀ tree, x.1.relationTree = some tree → ∀ column ∈ nodeColumns,
    ∃ xs, Row.under .errorPropagation row column = some (.list xs) ∧ xs.length = tree.size

namespace ErrorReport

theorem propagation?_of_not_traced {r : ErrorReport} (h : r.isTraced = false) :
    r.propagation? = none := by
  cases hdrop : r.isDrop <;> simp_all [propagation?, isTraced]

/-- A report that is traced has a propagation, whose row goes with its own. -/
theorem exists_joins {r : ErrorReport} (h : r.isTraced = true) :
    ∃ p, r.propagation? = some p ∧ Joins (r, r.row) (renderTuple p.values) := by
  obtain ⟨hdrop, htree⟩ : r.isDrop = false ∧ r.relationTree.isSome = true := by
    simpa [isTraced] using h
  obtain ⟨tree, htree⟩ := Option.isSome_iff_exists.mp htree
  refine ⟨_, by rw [propagation?, hdrop, htree]; rfl, ⟨fun column hcolumn => ?_, ?_⟩⟩
  · rw [row, Row.under_renderTuple, Row.under_renderTuple]
    simp only [joinColumns, List.mem_cons, List.not_mem_nil, or_false] at hcolumn
    obtain rfl | rfl | rfl | rfl := hcolumn <;>
      simp [Kind.columns, values, ErrorPropagation.values, joinKeys, htree, List.lookup_cons]
  · intro tree' htree' column hcolumn
    obtain rfl := Option.some.inj (htree.symm.trans htree')
    rw [Row.under_renderTuple]
    simp only [nodeColumns, List.mem_cons, List.not_mem_nil, or_false] at hcolumn
    obtain rfl | rfl | rfl | rfl | rfl | rfl | rfl | rfl | rfl := hcolumn <;>
      simp [Kind.columns, ErrorPropagation.values, textsValue, flagsValue, List.lookup_cons,
        Tree.length_walk]

end ErrorReport

theorem rowsOf_errorReport (es : List Event) :
    rowsOf es .errorReport = (es.filterMap Event.errorReport?).map ErrorReport.row := by
  induction es with
  | nil => rfl
  | cons e es ih =>
    cases e with
    | errorReport r => exact congrArg (r.row :: ·) ih
    | _ => exact ih

theorem encodeAll_errorReports (rs : List ErrorReport) :
    encodeAll (rs.map fun r => .sent (.errorReport r)) = rs.map ErrorReport.row := by
  rw [encodeAll, List.flatMap_map, List.map_eq_flatMap]
  rfl

/-- The rows of propagations go with those of the reports that are traced. -/
theorem joins_rows : ∀ rs : List ErrorReport,
    List.Forall₂ Joins ((rs.zip (rs.map ErrorReport.row)).filter fun x => x.1.isTraced)
      ((rs.filterMap ErrorReport.propagation?).flatMap ErrorPropagation.rows)
  | [] => .nil
  | r :: rs => by
    have ih := joins_rows rs
    cases htraced : r.isTraced with
    | false => simpa [htraced, ErrorReport.propagation?_of_not_traced htraced] using ih
    | true =>
      obtain ⟨p, hp, hjoins⟩ := ErrorReport.exists_joins htraced
      simpa [htraced, hp, ErrorPropagation.rows] using And.intro hjoins ih

/-! ### Calls and their metrics -/

namespace ClientMetrics

/-- The number of calls counted in all series of latencies. -/
def latencyCount (m : ClientMetrics) : Nat := (m.latency.values.map fun e => e.2.count).sum

/-- The number of calls counted in all series of errors. -/
def errorCount (m : ClientMetrics) : Nat := (m.errors.values.map fun e => e.2).sum

end ClientMetrics

/-- Whether the row of a call says that it failed. -/
def Row.isError (row : Row) : Bool :=
  decide (Row.under .serviceClient row "is_error" = some (.bool true))

theorem ServiceClient.countP_rows (p : Row → Bool) (c : ServiceClient) :
    c.rows.countP p = if p (renderTuple c.values) then 1 else 0 := by
  rw [rows, List.countP_singleton]

theorem ServiceClient.isError_row (c : ServiceClient) :
    (Row.isError (renderTuple c.values)) = c.isError := by
  rw [Row.isError, Row.under_renderTuple]
  cases h : c.isError <;> simp [Kind.columns, values, h, List.lookup_cons, Value.bool]

/-- What grows with each element by a number of its rows grows with a list by that of all its rows. -/
theorem countP_foldl {β α : Type} {F : β → Nat} {p : Row → Bool} {f : β → α → β}
    {rows : α → List Row} (h : ∀ m x, F (f m x) = F m + (rows x).countP p) :
    ∀ (xs : List α) (m : β), F (xs.foldl f m) = F m + (xs.flatMap rows).countP p
  | [], _ => rfl
  | x :: xs, m => by
    rw [List.foldl_cons, countP_foldl h xs, h, List.flatMap_cons, List.countP_append, Nat.add_assoc]

namespace ClientMetrics

variable (accountId : String)

theorem latencyCount_observeCall (m : ClientMetrics) (c : ServiceClient) :
    (observeCall accountId m c).latencyCount = m.latencyCount + 1 := by
  rw [latencyCount, latencyCount, latency_observeCall, Keyed.values, Keyed.values, List.map_map,
    List.map_map]
  refine Keyed.sum_alter _ m.latency _ _ ?_
  cases m.latency.get? ((m.labelsOf accountId c).seriesKey m.hash) <;> rfl

theorem errorCount_observeCall (m : ClientMetrics) (c : ServiceClient) :
    (observeCall accountId m c).errorCount = m.errorCount + if c.isError then 1 else 0 := by
  rw [errorCount, errorCount, errors_observeCall]
  split
  · rw [Keyed.values, Keyed.values, List.map_map, List.map_map]
    refine Keyed.sum_alter _ m.errors _ _ ?_
    cases m.errors.get? ((m.labelsOf accountId c).seriesKey m.hash) <;> rfl
  · rfl

variable {accountId}

/-- What is counted of each call by its row is counted of every drained cache by its rows. -/
theorem counted_observeEvents {F : ClientMetrics → Nat} {p : Row → Bool}
    (h : ∀ accountId m c, F (observeCall accountId m c) = F m + c.rows.countP p)
    (caches : List TenantCache) (m : ClientMetrics) :
    F (caches.foldl (fun m c => m.observeEvents c.tenant.accountId c.pending) m)
      = F m + (caches.flatMap fun c => rowsOf c.pending .serviceClient).countP p := by
  have hrelation (accountId : String) (m : ClientMetrics) (r : Relation) :
      F (observe accountId m r) = F m + (r.serviceClients.flatMap ServiceClient.rows).countP p :=
    countP_foldl (h accountId) r.serviceClients m
  have hevents (c : TenantCache) (m : ClientMetrics) :
      F (m.observeEvents c.tenant.accountId c.pending)
        = F m + (rowsOf c.pending .serviceClient).countP p := by
    rw [observeEvents, countP_foldl (hrelation c.tenant.accountId), ← List.flatMap_assoc]
    rw [rowsOf, flatMap_serviceClients, clientsOf]
  exact countP_foldl (fun m c => hevents c m) caches m

end ClientMetrics

/-- In every flush of a service, whatever its store answers and whatever waits in the caches, the rows of
reports attempted for a cache are those of its reports, and the rows of propagations go with those of
the reports that are traced, one with each, in their order. Calls to dependencies are attempted only if
they are exported; the metrics of clients, if there are any, count all of them all the same, and as
errors those whose rows say so. The attempts meant are those that the flush reports; and what it asks
of the store, if the statements are filed under their own keys, it asks for them, one after the other.
-/
theorem sinks_agree {σ : Type} (b : Backend σ) (s : Ingestor σ) :
    let exportClients := s.settings.clickhouse.exportServiceClient
    let as := flushAttempts b exportClients s.registry.snapshot s.sink
    let noted := (flush b.noting exportClients s.registry.snapshot s.sink.noting).2.store
    let clientRows (es : List Event) := encodeAll (recordsOf es .serviceClient)
    let drained := s.registry.snapshot.flatMap fun c => clientRows c.pending
    let clients := (s.flush b).2.clients
    (s.flush b).1 = reportOf s.registry.snapshot.length as ∧
    (s.sink.statements.Filed → noted.1 = (s.flush b).2.sink.store ∧ ∃ ws : List Writing,
      noted.2 = ws.flatMap (·.calls) ∧ ws.map (·.attempt) = as ∧ ∀ v ∈ ws, v.Settled) ∧
    (∀ t,
      let database := s.registry.databaseFor t
      let reports := (s.registry.caches.getD t []).filterMap Event.errorReport?
      let reportRows := encodeAll (reports.map fun r => .sent (.errorReport r))
      batchesOf as t .errorReport = batchOf database .errorReport reportRows ∧
      reportRows.length = reports.length ∧
      ∃ propagationRows,
        batchesOf as t .errorPropagation = batchOf database .errorPropagation propagationRows ∧
        List.Forall₂ Joins ((reports.zip reportRows).filter fun x => x.1.isTraced)
          propagationRows) ∧
    (∀ t, batchesOf as t .serviceClient
      = if exportClients then
          batchOf (s.registry.databaseFor t) .serviceClient
            (clientRows (s.registry.caches.getD t []))
        else []) ∧
    clients.map (·.latencyCount) = s.clients.map (·.latencyCount + drained.length) ∧
    clients.map (·.errorCount) = s.clients.map (·.errorCount + drained.countP Row.isError) := by
  intro exportClients as noted clientRows drained clients
  have hdrained : drained = s.registry.snapshot.flatMap fun c => rowsOf c.pending .serviceClient :=
    List.flatMap_congr fun c _ => encodeAll_recordsOf c.pending .serviceClient
  have hclients : clients = s.clients.map fun m =>
      s.registry.snapshot.foldl (fun m c => m.observeEvents c.tenant.accountId c.pending) m := rfl
  refine ⟨report_flush b exportClients s.registry.snapshot s.sink,
    fun hfiled => calls_flush_noting b hfiled exportClients s.registry.snapshot,
    fun t => ?_, fun t => ?_, ?_, ?_⟩
  · intro database reports reportRows
    have hrows : reportRows = reports.map ErrorReport.row := encodeAll_errorReports reports
    refine ⟨?_, by rw [hrows, List.length_map],
      rowsOf (s.registry.caches.getD t []) .errorPropagation, ?_, ?_⟩
    · rw [hrows, ← rowsOf_errorReport]
      exact batchesOf_flushAttempts b _ _ t (mem_flushedKinds.mpr (.inr (by decide)))
    · exact batchesOf_flushAttempts b _ _ t (mem_flushedKinds.mpr (.inr (by decide)))
    · rw [hrows, rowsOf, filterMap_propagation?]
      exact joins_rows reports
  · split
    · next hexport =>
      rw [batchesOf_flushAttempts b _ _ t (mem_flushedKinds.mpr (.inl hexport))]
      exact congrArg _ (encodeAll_recordsOf _ _).symm
    · next hexport =>
      have hnot : Kind.serviceClient ∉ flushedKinds exportClients := by
        simpa [mem_flushedKinds] using hexport
      exact batchesOf_of_not_mem b _ _ t hnot
  · rw [hclients, hdrained, Option.map_map]
    congr 1
    funext m
    rw [Function.comp_apply, ← List.countP_true]
    exact ClientMetrics.counted_observeEvents (p := fun _ => true)
      (fun accountId m c => ClientMetrics.latencyCount_observeCall accountId m c) _ m
  · rw [hclients, hdrained, Option.map_map]
    congr 1
    funext m
    refine ClientMetrics.counted_observeEvents (fun accountId m c => ?_) _ m
    rw [ClientMetrics.errorCount_observeCall, ServiceClient.countP_rows, ServiceClient.isError_row]

end Ingest
