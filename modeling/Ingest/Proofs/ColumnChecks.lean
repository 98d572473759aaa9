import Ingest.Proofs.Histories
import Ingest.Proofs.ObligingServer

/-!
Checks of tables. A statement is prepared by asking a ClickHouse server, which may answer any query in
any way, for the columns of its table. Main statements: what the answer of a preparation is told by;
and how the last check of a table is told from the queries that a server was sent.
-/

namespace Ingest.ClickHouse.Store

variable {s : Store} {sent : List Query} {st : Statement}

/-- Whether a server that was sent some queries lists every column of a table that is asked for. -/
def Finds (s : Store) (sent : List Query) (st : Statement) : Prop :=
  ∃ listed, s.server.answer sent (.listColumns st) = .ok listed ∧
    ∀ column ∈ st.kind.columns, column ∈ listed

/-- Whether the last query for the columns of a table found every one of them. -/
def Verified (s : Store) (st : Statement) (sent : List Query) : Prop :=
  ∃ before after, sent = before ++ .listColumns st :: after ∧ .listColumns st ∉ after ∧
    s.Finds before st

/-! ### Answers of a preparation -/

theorem columnFault?_eq_none_iff {listed : List String} :
    columnFault? st listed = none ↔ ∀ column ∈ st.kind.columns, column ∈ listed := by
  refine ⟨fun h column hcolumn => ?_, columnFault?_eq_none⟩
  simp only [columnFault?] at h
  split at h
  · cases h
  · split at h
    · next hmissing =>
      by_contra hnot
      have hmem : column ∈ st.kind.columns.filter fun c => decide (c ∉ listed) :=
        List.mem_filter.mpr ⟨hcolumn, decide_eq_true hnot⟩
      rw [List.isEmpty_iff.mp hmissing] at hmem
      cases hmem
    · cases h

/-- Preparing a statement sends one query and is answered by what the server lists. -/
theorem prepare_eq (s : Store) (sent : List Query) (st : Statement) :
    s.prepare sent st = ((match s.server.answer sent (.listColumns st) with
      | .error fault => .error (.backend st.kind.table fault)
      | .ok listed => (columnFault? st listed).elim (.ok ()) .error), sent ++ [.listColumns st]) := by
  simp only [prepare, send]
  cases s.server.answer sent (.listColumns st) with
  | error fault => rfl
  | ok listed => cases h : columnFault? st listed <;> simp [h]

/-- A statement is prepared if every column is listed, whatever else is. -/
theorem prepare_eq_ok_iff : (s.prepare sent st).1 = .ok () ↔ s.Finds sent st := by
  rw [prepare_eq, Finds]
  cases s.server.answer sent (.listColumns st) with
  | error fault => simp
  | ok listed => cases h : columnFault? st listed <;> simp [← columnFault?_eq_none_iff, h]

/-- A table is unknown if nothing is listed. -/
theorem prepare_eq_unknownTable_iff {database table : String} :
    (s.prepare sent st).1 = .error (.unknownTable database table) ↔
      s.server.answer sent (.listColumns st) = .ok [] ∧
        database = st.database ∧ table = st.kind.table := by
  rw [prepare_eq]
  cases s.server.answer sent (.listColumns st) with
  | error fault => simp
  | ok listed =>
    cases listed with
    | nil => simp [columnFault?, eq_comm]
    | cons name names =>
      simp only [columnFault?, List.isEmpty_cons, Bool.false_eq_true, if_false]
      split <;> simp

/-- Columns are missing if something is listed, but not all of them. -/
theorem prepare_eq_missingColumns_iff {database table : String} {missing : List String} :
    (s.prepare sent st).1 = .error (.missingColumns database table missing) ↔
      (∃ listed, s.server.answer sent (.listColumns st) = .ok listed ∧ listed ≠ [] ∧ missing ≠ [] ∧
        missing = st.kind.columns.filter fun c => decide (c ∉ listed)) ∧
      database = st.database ∧ table = st.kind.table := by
  rw [prepare_eq]
  cases s.server.answer sent (.listColumns st) with
  | error fault => simp
  | ok listed =>
    cases listed with
    | nil => simp [columnFault?]
    | cons name names =>
      simp only [columnFault?, List.isEmpty_cons, Bool.false_eq_true, if_false]
      split <;> simp <;> grind

/-! ### The last check -/

/-- Only a query for the columns of the table counts. -/
theorem verified_concat (q : Query) : s.Verified st (sent ++ [q]) ↔
    if q = .listColumns st then s.Finds sent st else s.Verified st sent := by
  constructor
  · rintro ⟨before, after, h, hafter, hfinds⟩
    obtain ⟨rfl, rfl, rfl⟩ | ⟨after', rfl, rfl⟩ := concat_eq_append_cons h
    · rw [if_pos rfl]
      exact hfinds
    · rw [List.mem_append, not_or] at hafter
      rw [if_neg fun heq => hafter.2 (by simp [heq])]
      exact ⟨before, after', rfl, hafter.1, hfinds⟩
  · intro h
    split at h
    · next heq => exact ⟨sent, [], by rw [heq], List.not_mem_nil, h⟩
    · next hne =>
      obtain ⟨before, after, rfl, hafter, hfinds⟩ := h
      refine ⟨before, after ++ [q], by simp, ?_, hfinds⟩
      rw [List.mem_append, not_or]
      exact ⟨hafter, fun hmem => hne (List.mem_singleton.mp hmem).symm⟩

/-- Queries for no columns of the table do not count. -/
theorem verified_append {qs : List Query} (hqs : .listColumns st ∉ qs) :
    s.Verified st (sent ++ qs) ↔ s.Verified st sent := by
  induction qs using List.reverseRecOn with
  | nil => rw [List.append_nil]
  | append_singleton qs q ih =>
    rw [List.mem_append, not_or] at hqs
    have hq : q ≠ .listColumns st := fun heq => hqs.2 (by simp [heq])
    rw [← List.append_assoc, verified_concat, if_neg hq, ih hqs.1]

end Ingest.ClickHouse.Store
