import Ingest.Flush

/-!
What is cached under a key. Every cached statement is about the table it is cached under, and stays
so whatever is looked up, put in, closed or swept. Main statements: what a look-up or an insertion
gives is a ready statement of just the table asked for, and so is what a sink writes through.
-/

namespace Ingest

namespace Statement

/-- A table of a database has one statement. -/
theorem key_injective {s t : Statement} (h : s.key = t.key) : s = t := by
  simp only [key, StatementKey.mk.injEq] at h
  obtain ⟨hdatabase, htable⟩ := h
  have hkind := Kind.table_injective htable
  cases s; cases t; cases hdatabase; cases hkind; rfl

end Statement

namespace Ledger

variable (l : Ledger) (id : Nat)

@[simp] theorem statement?_close (j : Nat) : (l.close id).statement? j = l.statement? j := by
  simp only [close, statement?, List.getElem?_modify]
  cases l.entries[j]? with
  | none => simp
  | some e =>
    by_cases hj : id = j
    · by_cases hs : e.2 = .ready <;> simp [hj, hs]
    · simp [hj]

theorem statement?_enter (s : Statement) (standing : Standing) (j : Nat) :
    (l.enter s standing).statement? j = if j = l.size then some s else l.statement? j := by
  rcases Nat.lt_trichotomy j l.size with hlt | rfl | hgt
  · have hne : j ≠ l.size := by omega
    rw [if_neg hne, statement?, enter, List.getElem?_append_left hlt]
    rfl
  · rw [if_pos rfl, statement?, enter, size, List.getElem?_concat_length]
    rfl
  · have hne : j ≠ l.size := by omega
    have hold : l.entries[j]? = none := List.getElem?_eq_none (Nat.le_of_lt hgt)
    have hnew : (l.enter s standing).entries[j]? = none :=
      List.getElem?_eq_none (by simpa [enter, size, Nat.succ_le_iff] using hgt)
    rw [if_neg hne, statement?, statement?, hold, hnew]

variable {l id}

theorem lt_size_of_statement? {s : Statement} (h : l.statement? id = some s) : id < l.size := by
  rw [statement?, Option.map_eq_some_iff] at h
  obtain ⟨e, he, -⟩ := h
  exact (List.getElem?_eq_some_iff.mp he).1

theorem statement?_enter_of_some {s t : Statement} {standing : Standing}
    (h : l.statement? id = some s) : (l.enter t standing).statement? id = some s := by
  have hlt := lt_size_of_statement? h
  rw [statement?_enter, if_neg (by omega), h]

theorem lt_size_of_isReady (h : l.isReady id = true) : id < l.size := by
  rw [isReady, beq_iff_eq, standing?, Option.map_eq_some_iff] at h
  obtain ⟨e, he, -⟩ := h
  exact (List.getElem?_eq_some_iff.mp he).1

theorem isReady_enter_of_isReady {t : Statement} {standing : Standing} (h : l.isReady id = true) :
    (l.enter t standing).isReady id = true := by
  have hlt := lt_size_of_isReady h
  rw [isReady, standing?_enter, if_neg (by omega)]
  exact h

end Ledger

namespace StatementCache

/-- Whether every cached statement is about the table it is cached under. -/
def Filed (c : StatementCache) : Prop :=
  ∀ key e, c.entries.get? key = some e → ∃ s, c.ledger.statement? e.id = some s ∧ s.key = key

/-- Whether a number is that of a ready statement for a table. -/
def Serves (c : StatementCache) (id : Nat) (s : Statement) : Prop :=
  c.ledger.isReady id = true ∧ c.ledger.statement? id = some s

variable {c : StatementCache}

theorem filed_empty (idleTimeout : Duration) : ({ idleTimeout } : StatementCache).Filed := by
  intro key e h
  simp at h

theorem Filed.close (h : c.Filed) (id : Nat) : (c.close id).Filed := by
  intro key e he
  simpa [StatementCache.close] using h key e he

theorem Filed.get (h : c.Filed) (key : StatementKey) (now : Nat) : (c.get key now).2.Filed := by
  unfold StatementCache.get
  split
  · exact h
  · next e he =>
    split
    · intro j d hd
      simp only [reportSize, StatementCache.close, Keyed.get?_erase] at hd ⊢
      split at hd
      · simp at hd
      · simpa using h j d hd
    · intro j d hd
      simp only [Keyed.get?_insert] at hd ⊢
      split at hd
      · next hkey =>
        cases hkey
        cases hd
        exact h key e he
      · exact h j d hd

/-- What is found is ready, and about the table that was asked for. -/
theorem Filed.serves_get (h : c.Filed) {s : Statement} {now id : Nat}
    (hfound : (c.get s.key now).1 = some id) : (c.get s.key now).2.Serves id s := by
  unfold StatementCache.get at hfound ⊢
  split at hfound
  · simp at hfound
  · next e he =>
    split at hfound
    · simp at hfound
    · next hstale =>
      obtain ⟨t, ht, hkey⟩ := h s.key e he
      obtain rfl := Statement.key_injective hkey
      simp only [Option.some.injEq] at hfound
      simp only [hstale]
      subst hfound
      have hready : c.ledger.isReady e.id = true := by
        simp only [isStale, Bool.or_eq_true, Bool.not_eq_true', not_or, Bool.not_eq_false] at hstale
        exact hstale.1
      exact ⟨hready, ht⟩

/-- What is put in is replaced by what serves its table already, or serves it from now on. -/
theorem Filed.serves_put (h : c.Filed) (s : Statement) (now : Nat) :
    (c.put s.key s now).2.Serves (c.put s.key s now).1 s := by
  have hfresh : (c.ledger.enter s .ready).isReady c.ledger.size = true := by
    simp [Ledger.isReady, Ledger.standing?_enter]
  have hentered : (c.ledger.enter s .ready).statement? c.ledger.size = some s := by
    simp [Ledger.statement?_enter]
  simp only [StatementCache.put, reportSize, Serves]
  cases he : c.entries.get? s.key with
  | none => exact ⟨hfresh, hentered⟩
  | some e =>
    obtain ⟨t, ht, hkey⟩ := h s.key e he
    obtain rfl := Statement.key_injective hkey
    cases hready : c.ledger.isReady e.id with
    | false => simpa [hready] using ⟨hfresh, hentered⟩
    | true =>
      simpa [hready] using
        ⟨Ledger.isReady_enter_of_isReady hready, Ledger.statement?_enter_of_some ht⟩

theorem Filed.put (h : c.Filed) (s : Statement) (now : Nat) : (c.put s.key s now).2.Filed := by
  have hserves := h.serves_put s now
  intro key e he
  simp only [StatementCache.put, reportSize, Keyed.get?_insert] at he hserves ⊢
  split at he
  · next hkey =>
    cases he
    exact ⟨s, hserves.2, hkey⟩
  · obtain ⟨t, ht, hkey⟩ := h key e he
    exact ⟨t, Ledger.statement?_enter_of_some ht, hkey⟩

theorem statement?_closeEach (es : List CachedStatement) (id : Nat) :
    (c.closeEach es).ledger.statement? id = c.ledger.statement? id := by
  induction es generalizing c with
  | nil => rfl
  | cons e es ih =>
    have hclose : (c.close e.id).ledger.statement? id = c.ledger.statement? id := by
      simp [StatementCache.close]
    rw [← hclose, ← ih (c := c.close e.id)]
    rfl

theorem Filed.evictIdle (h : c.Filed) (now : Nat) : (c.evictIdle now).2.Filed := by
  intro key e he
  obtain ⟨hold, -⟩ := Keyed.get?_filter_eq_some_iff.mp he
  obtain ⟨s, hs, hkey⟩ := h key e hold
  exact ⟨s, by simpa [StatementCache.evictIdle, reportSize, statement?_closeEach] using hs, hkey⟩

theorem filed_closeAll (c : StatementCache) : c.closeAll.2.Filed :=
  fun key e he => by simp [StatementCache.closeAll, reportSize] at he

end StatementCache

namespace Sink

variable {σ : Type} (b : Backend σ) {w : Sink σ}

theorem filed_prepare (h : w.statements.Filed) (s : Statement) :
    (prepare b w s).2.statements.Filed := by
  unfold prepare
  split
  · exact h
  · exact h.put s w.clock

theorem serves_prepare (h : w.statements.Filed) {s : Statement} {id : Nat}
    (hid : (prepare b w s).1 = .ok id) : (prepare b w s).2.statements.Serves id s := by
  unfold prepare at hid ⊢
  split at hid
  · cases hid
  · next store hb =>
    obtain rfl := Except.ok.inj hid
    exact h.serves_put s w.clock

/-- A statement is found, or prepared where none is found. -/
theorem obtain_cases (w : Sink σ) (s : Statement) :
    ∃ w' : Sink σ, w'.store = w.store ∧ w'.statements = (w.statements.get s.key w.clock).2 ∧
      ((∃ id, (w.statements.get s.key w.clock).1 = some id ∧ Sink.obtain b w s = (.ok id, w')) ∨
        (w.statements.get s.key w.clock).1 = none ∧ Sink.obtain b w s = prepare b w' s) := by
  simp only [Sink.obtain, lookup]
  cases w.statements.get s.key w.clock with
  | mk found statements =>
    cases found with
    | none =>
      let counters := { w.counters with misses := w.counters.misses + 1 }
      exact ⟨{ { w with statements }.tick with counters }, rfl, rfl, .inr ⟨rfl, rfl⟩⟩
    | some id =>
      let counters := { w.counters with hits := w.counters.hits + 1 }
      exact ⟨{ { w with statements }.tick with counters }, rfl, rfl, .inl ⟨id, rfl, rfl⟩⟩

theorem filed_obtain (h : w.statements.Filed) (s : Statement) :
    (Sink.obtain b w s).2.statements.Filed := by
  obtain ⟨w', -, hget, ⟨id, -, heq⟩ | ⟨-, heq⟩⟩ := obtain_cases b w s
  · rw [heq, hget]
    exact h.get s.key w.clock
  · rw [heq]
    exact filed_prepare b (hget ▸ h.get s.key w.clock) s

/-- A sink writes to a table through a ready statement of that table. -/
theorem serves_obtain (h : w.statements.Filed) {s : Statement} {id : Nat}
    (hid : (Sink.obtain b w s).1 = .ok id) : (Sink.obtain b w s).2.statements.Serves id s := by
  obtain ⟨w', -, hget, ⟨found, hfound, heq⟩ | ⟨-, heq⟩⟩ := obtain_cases b w s
  · rw [heq] at hid ⊢
    obtain rfl := Except.ok.inj hid
    rw [hget]
    exact h.serves_get hfound
  · rw [heq] at hid ⊢
    exact serves_prepare b (hget ▸ h.get s.key w.clock) hid

end Sink

end Ingest
