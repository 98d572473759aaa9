import Ingest.Proofs.LiveStatements

/-!
Tables that have a ready statement. Main statements: what serves a table is cached under its key, so
that one statement serves it at most; and a table comes to be served only where a statement is put in
for it, which a sink does if the store grants it.
-/

namespace Ingest

namespace StatementCache

variable {c : StatementCache} {keys : List StatementKey} {id j : Nat} {st t : Statement}

/-- What serves a table is cached under its key. -/
theorem Serves.cached (h : c.Serves id st) (hreaches : c.Reaches keys) (hfiled : c.Filed) :
    ∃ e, c.entries.get? st.key = some e ∧ e.id = id := by
  obtain ⟨key, e, -, he, rfl⟩ := hreaches.reached id h.1
  obtain ⟨s, hs, rfl⟩ := hfiled key e he
  obtain rfl : st = s := Option.some.inj (h.2.symm.trans hs)
  exact ⟨e, he, rfl⟩

theorem Serves.unique (h : c.Serves id st) (h' : c.Serves j st) (hreaches : c.Reaches keys)
    (hfiled : c.Filed) : id = j := by
  obtain ⟨e, he, rfl⟩ := h.cached hreaches hfiled
  obtain ⟨e', he', rfl⟩ := h'.cached hreaches hfiled
  rw [Option.some.inj (he.symm.trans he')]

theorem Serves.of_close (h : (c.close j).Serves id st) : c.Serves id st ∧ j ≠ id := by
  obtain ⟨hready, hs⟩ := h
  rw [StatementCache.close, Ledger.isReady_close, Bool.and_eq_true, decide_eq_true_eq] at hready
  rw [StatementCache.close, Ledger.statement?_close] at hs
  exact ⟨⟨hready.1, hs⟩, hready.2⟩

theorem Serves.of_closeEach {es : List CachedStatement} (h : (c.closeEach es).Serves id st) :
    c.Serves id st :=
  ⟨(isReady_closeEach es id |>.mp h.1).1, (statement?_closeEach es id).symm.trans h.2⟩

/-- Only what is put in comes to serve a table. -/
theorem Serves.of_step {x : CacheUse} (hx : x.putKey? = none) (h : (c.step x).Serves id st) :
    c.Serves id st := by
  cases x with
  | put key s now => cases hx
  | get key now =>
    obtain ⟨-, heq⟩ | ⟨e, -, ⟨-, hledger, -⟩ | ⟨-, heq⟩⟩ := c.get_cases key now
    · rwa [step, heq] at h
    · rw [Serves, step, hledger] at h
      exact (Serves.of_close (c := c) h).1
    · rwa [step, heq] at h
  | evictIdle now => exact Serves.of_closeEach (c := c) h
  | closeAll => exact Serves.of_closeEach (c := c) h
  | close j => exact (Serves.of_close h).1

/-- What is put in for a table serves no other one. -/
theorem Serves.of_put {now : Nat} (h : (c.put st.key st now).2.Serves id t) (hfiled : c.Filed)
    (hne : t ≠ st) : c.Serves id t := by
  obtain rfl | ⟨hready, -⟩ := (isReady_put c st.key st now id).mp h.1
  · exact absurd (Option.some.inj (h.2.symm.trans (hfiled.serves_put st now).2)) hne
  · refine ⟨hready, ?_⟩
    have hlt := Ledger.lt_size_of_isReady hready
    obtain ⟨-, -, -, -, hledger⟩ | ⟨-, -, hledger⟩ := c.put_cases st.key st now <;>
      rw [← h.2, hledger, Ledger.statement?_enter, if_neg (Nat.ne_of_lt hlt)]

/-- After a look-up that finds nothing, nothing is cached under the key. -/
theorem get?_of_not_found {key : StatementKey} {now : Nat} (h : (c.get key now).1 = none) :
    (c.get key now).2.entries.get? key = none := by
  obtain ⟨hnone, heq⟩ | ⟨e, -, ⟨-, -, hentries⟩ | ⟨-, heq⟩⟩ := c.get_cases key now
  · rw [heq, hnone]
  · rw [hentries, Keyed.get?_erase, if_pos rfl]
  · rw [heq] at h
    cases h

end StatementCache

/-- A preparation makes a table served only if the store grants it. -/
theorem Sink.serves_of_prepare {σ : Type} (b : Backend σ) {w : Sink σ} (hfiled : w.statements.Filed)
    {st t : Statement} {id : Nat} (h : (prepare b w st).2.statements.Serves id t) :
    w.statements.Serves id t ∨ t = st ∧ (b.prepare w.store st).1 = .ok () := by
  cases hb : b.prepare w.store st with
  | mk answer store =>
    rw [prepare, hb] at h
    cases answer with
    | error e => exact .inl h
    | ok _ =>
      by_cases ht : t = st
      · exact .inr ⟨ht, rfl⟩
      · exact .inl (StatementCache.Serves.of_put h hfiled ht)

end Ingest
