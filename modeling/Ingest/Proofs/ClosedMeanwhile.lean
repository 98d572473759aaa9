import Ingest.Proofs.BatchWriting
import Ingest.Proofs.ServedTables

/-!
Writing while others use the statement cache. Between the look-up of a statement and its execution
others may close statements, sweep, look up late or put statements in, so that the statement at hand
may be closed, dropped or replaced. Main statement: in front of a memory store, and whatever the others
did, rows are written once unless their table fails, through a statement that is ready and cached; and
nothing is ready without being cached.
-/

namespace Ingest

/-! ### Sound caches -/

namespace Ledger

variable (l : Ledger)

/-- The keys of the statements, by number. -/
def keys : List StatementKey := l.entries.map fun e => e.1.key

theorem getElem?_keys (id : Nat) : l.keys[id]? = (l.statement? id).map Statement.key := by
  simp [keys, statement?, Function.comp_def]

@[simp] theorem keys_enter (s : Statement) (standing : Standing) :
    (l.enter s standing).keys = l.keys ++ [s.key] := by
  simp [keys, enter]

/-- Closing changes how a statement stands, and not what it is. -/
@[simp] theorem keys_close (id : Nat) : (l.close id).keys = l.keys := by
  refine List.ext_getElem? fun j => ?_
  rw [getElem?_keys, getElem?_keys, statement?_close]

end Ledger

/-- Whether a use puts a statement in under the key of its table, if it puts one in. -/
def CacheUse.Filed : CacheUse → Prop
  | put key s _ => s.key = key
  | _ => True

namespace StatementCache

variable {c : StatementCache}

/-- What every cache keeps: each ready statement is cached under the key of its table, and what is
cached under a key is a statement of its table. -/
def Sound (c : StatementCache) : Prop := c.Reaches c.ledger.keys

theorem keys_closeEach (es : List CachedStatement) :
    (c.closeEach es).ledger.keys = c.ledger.keys := by
  refine List.ext_getElem? fun j => ?_
  rw [Ledger.getElem?_keys, Ledger.getElem?_keys, statement?_closeEach]

theorem keys_step {x : CacheUse} (hx : x.Filed) :
    (c.step x).ledger.keys = c.ledger.keys ++ x.putKey?.toList := by
  cases x with
  | put key s now =>
    obtain rfl : s.key = key := hx
    obtain ⟨e, -, -, -, hledger⟩ | ⟨-, -, hledger⟩ := c.put_cases s.key s now <;>
      simp [step, hledger, CacheUse.putKey?]
  | get key now =>
    obtain ⟨-, heq⟩ | ⟨e, -, ⟨-, hledger, -⟩ | ⟨-, heq⟩⟩ := c.get_cases key now
    · simp [step, heq, CacheUse.putKey?]
    · simp [step, hledger, CacheUse.putKey?]
    · simp [step, heq, CacheUse.putKey?]
  | evictIdle now => exact (keys_closeEach _).trans (List.append_nil _).symm
  | closeAll => exact (keys_closeEach _).trans (List.append_nil _).symm
  | close id => simp [step, StatementCache.close, CacheUse.putKey?]

theorem sound_new (idleTimeout : Duration) : ({ idleTimeout } : StatementCache).Sound :=
  reaches_used idleTimeout []

namespace Sound

theorem step (h : c.Sound) {x : CacheUse} (hx : x.Filed) : (c.step x).Sound := by
  rw [Sound, keys_step hx]
  exact Reaches.step h x

/-- Any uses keep a cache sound, and each statement what it was, by induction on them. -/
theorem uses (h : c.Sound) : ∀ us : List CacheUse, (∀ x ∈ us, x.Filed) →
    (us.foldl StatementCache.step c).Sound ∧
      c.ledger.keys <+: (us.foldl StatementCache.step c).ledger.keys := by
  intro us hus
  induction us generalizing c with
  | nil => exact ⟨h, List.prefix_rfl⟩
  | cons x us ih =>
    obtain ⟨hx, hus⟩ := List.forall_mem_cons.mp hus
    obtain ⟨hsound, hprefix⟩ := ih (h.step hx) hus
    refine ⟨hsound, List.IsPrefix.trans ?_ hprefix⟩
    rw [keys_step hx]
    exact List.prefix_append _ _

theorem filed (h : c.Sound) : c.Filed := by
  intro key e he
  have hkey := Reaches.filed h key e he
  rw [Ledger.getElem?_keys, Option.map_eq_some_iff] at hkey
  exact hkey

/-- A ready statement is cached under its key. -/
theorem cached (h : c.Sound) {id : Nat} (hid : c.ledger.isReady id = true) :
    ∃ s e, c.ledger.statement? id = some s ∧ c.entries.get? s.key = some e ∧ e.id = id := by
  obtain ⟨key, e, hkey, he, rfl⟩ := Reaches.reached h id hid
  rw [Ledger.getElem?_keys, Option.map_eq_some_iff] at hkey
  obtain ⟨s, hs, rfl⟩ := hkey
  exact ⟨s, e, hs, he, rfl⟩

theorem put (h : c.Sound) (s : Statement) (now : Nat) : (c.put s.key s now).2.Sound :=
  h.step (x := .put s.key s now) rfl

theorem get (h : c.Sound) (key : StatementKey) (now : Nat) : (c.get key now).2.Sound :=
  h.step (x := .get key now) trivial

end Sound

/-- Statements keep their numbers while keys are added. -/
theorem statement?_of_prefix {c' : StatementCache} (h : c.ledger.keys <+: c'.ledger.keys)
    {id : Nat} {s : Statement} (hs : c.ledger.statement? id = some s) :
    c'.ledger.statement? id = some s := by
  have hkey : c.ledger.keys[id]? = some s.key := by
    rw [Ledger.getElem?_keys, hs]
    rfl
  obtain ⟨keys, hkeys⟩ := h
  have hkey' : c'.ledger.keys[id]? = some s.key := by
    rw [← hkeys, List.getElem?_append_left (List.getElem?_eq_some_iff.mp hkey).1, hkey]
  rw [Ledger.getElem?_keys, Option.map_eq_some_iff] at hkey'
  obtain ⟨t, ht, hst⟩ := hkey'
  rw [ht, Statement.key_injective hst]

end StatementCache

/-! ### Writing amid other uses -/

namespace Sink

/-- Writes rows to the table of a statement, where others use the cache after the statement was found
or prepared and before it is executed. -/
def writeRowsAmid {σ : Type} (b : Backend σ) (us : List CacheUse) (w : Sink σ) (s : Statement)
    (rows : List Row) : Except StoreError Unit × Sink σ :=
  match obtain b w s with
  | (.error e, w) => (.error e, w)
  | (.ok id, w) => attempt b { w with statements := us.foldl StatementCache.step w.statements } s id rows

/-- Where nobody comes in between, rows are written as ever. -/
theorem writeRowsAmid_nil {σ : Type} (b : Backend σ) (w : Sink σ) (s : Statement)
    (rows : List Row) : writeRowsAmid b [] w s rows = writeRows b w s rows := rfl

/-- What a write of rows has come to: the store keeps them once, unless it is a dry run, or the table
fails and nothing is kept; the table has a ready statement, which is cached, and so is all that is
ready. -/
structure Settles (w : Sink MemoryStore) (s : Statement) (rows : List Row)
    (done : Except StoreError Unit × Sink MemoryStore) : Prop where
  taken : s.kind ∉ w.store.failing → done.1 = .ok () ∧ done.2.store.batches
    = w.store.batches ++ if w.store.dryRun then [] else [⟨s.database, s.kind, rows⟩]
  rejected : s.kind ∈ w.store.failing →
    (∃ e, done.1 = .error e) ∧ done.2.store.batches = w.store.batches
  cached : ∃ e, done.2.statements.entries.get? s.key = some e ∧ done.2.statements.Serves e.id s
  sound : done.2.statements.Sound

variable {w : Sink MemoryStore} {id : Nat} {s : Statement} {rows : List Row}

/-- How often a store prepared statements is of no account. -/
theorem Settles.of_store {w' : Sink MemoryStore} {done : Except StoreError Unit × Sink MemoryStore}
    (h : Settles w' s rows done) {n : Nat} (hstore : w'.store = { w.store with prepareCount := n }) :
    Settles w s rows done := by
  have htaken := h.taken
  have hrejected := h.rejected
  rw [hstore] at htaken hrejected
  exact ⟨htaken, hrejected, h.cached, h.sound⟩

/-- Through a ready statement rows are kept or rejected, at once and without a word of it being
closed. -/
theorem settles_of_serves (hsound : w.statements.Sound) (h : w.statements.Serves id s)
    (hrows : rows ≠ []) :
    Settles w s rows (execute MemoryStore.backend w s id rows) ∧
      attempt MemoryStore.backend w s id rows = execute MemoryStore.backend w s id rows := by
  obtain ⟨e, he, rfl⟩ := h.cached hsound hsound.filed
  rw [attempt, execute_of_serves _ h]
  by_cases hfails : s.kind ∈ w.store.failing
  · have hexecute : MemoryStore.backend.execute w.store s true rows
        = ({ result := .error (.rejected s.kind.table "table marked failing") }, w.store) := by
      simp [MemoryStore.backend, MemoryStore.execute, hrows, hfails]
    rw [hexecute]
    exact ⟨⟨fun hnot => absurd hfails hnot, fun _ => ⟨⟨_, rfl⟩, rfl⟩, ⟨e, he, h⟩, hsound⟩, rfl⟩
  · have hexecute : MemoryStore.backend.execute w.store s true rows
        = ({ result := .ok () }, { w.store with batches := w.store.batches
            ++ if w.store.dryRun then [] else [⟨s.database, s.kind, rows⟩] }) := by
      simp only [MemoryStore.backend, MemoryStore.execute, hfails, List.isEmpty_iff, hrows,
        Bool.not_true, Bool.false_eq_true, if_false]
      split
      · rw [List.append_nil]
      · rfl
    rw [hexecute]
    exact ⟨⟨fun _ => ⟨rfl, rfl⟩, fun hin => absurd hin hfails, ⟨e, he, h⟩, hsound⟩, rfl⟩

/-- A closed statement is refused before the store does anything. -/
theorem execute_of_closed (hs : w.statements.ledger.statement? id = some s)
    (hid : w.statements.ledger.isReady id = false) (rows : List Row) :
    execute MemoryStore.backend w s id rows = (.error s.closedError, w) := by
  simp [execute, MemoryStore.backend, MemoryStore.execute, hs, hid]

/-- A statement at hand that is ready is executed; one that is closed is prepared anew, and what is
ready then, the new one or one that others have put in before it, is executed. -/
theorem settles_attempt (hsound : w.statements.Sound)
    (hs : w.statements.ledger.statement? id = some s) (hrows : rows ≠ []) :
    Settles w s rows (attempt MemoryStore.backend w s id rows) := by
  cases hid : w.statements.ledger.isReady id with
  | true =>
    obtain ⟨hsettles, heq⟩ := settles_of_serves hsound ⟨hid, hs⟩ hrows
    rw [heq]
    exact hsettles
  | false =>
    obtain ⟨live, w', hprepare, hstore, hstatements⟩ : ∃ live w',
        prepare MemoryStore.backend w s = (.ok live, w') ∧
        w'.store = { w.store with prepareCount := w.store.prepareCount + 1 } ∧
        (live, w'.statements) = w.statements.put s.key s w.clock := ⟨_, _, rfl, rfl, rfl⟩
    have hlive : w'.statements.Serves live s := by
      have hserves := hsound.filed.serves_put s w.clock
      rwa [← hstatements] at hserves
    have hsound' : w'.statements.Sound := by
      have hput := hsound.put s w.clock
      rwa [← hstatements] at hput
    have hattempt : attempt MemoryStore.backend w s id rows
        = execute MemoryStore.backend w' s live rows := by
      rw [attempt, execute_of_closed hs hid]
      simp [Statement.closedError, StoreError.isClosed, hprepare]
    rw [hattempt]
    exact (settles_of_serves hsound' hlive hrows).1.of_store hstore

/-- A memory store always has a statement for a table, found or prepared, whatever its own state. -/
theorem obtain_of_sound (hsound : w.statements.Sound) (s : Statement) :
    ∃ id w' n, Sink.obtain MemoryStore.backend w s = (.ok id, w') ∧
      w'.store = { w.store with prepareCount := n } ∧ w'.statements.Sound ∧
      w'.statements.ledger.statement? id = some s := by
  obtain ⟨id, w', n, heq, hstore⟩ := obtain_memory w s
  have hserves := serves_obtain MemoryStore.backend hsound.filed (congrArg Prod.fst heq)
  rw [heq] at hserves
  refine ⟨id, w', n, heq, hstore, ?_, hserves.2⟩
  obtain ⟨w₁, -, hget, ⟨found, -, hobtain⟩ | ⟨-, hobtain⟩⟩ := obtain_cases MemoryStore.backend w s
  · obtain rfl : w' = w₁ := congrArg Prod.snd (heq.symm.trans hobtain)
    rw [hget]
    exact hsound.get s.key w.clock
  · have hprepared : w'.statements = (w₁.statements.put s.key s w₁.clock).2 :=
      congrArg (fun x => x.2.statements) (heq.symm.trans hobtain)
    rw [hprepared, hget]
    exact (hsound.get s.key w.clock).put s w₁.clock

theorem settles_writeRowsAmid (hsound : w.statements.Sound) {us : List CacheUse}
    (hus : ∀ x ∈ us, x.Filed) (s : Statement) (hrows : rows ≠ []) :
    Settles w s rows (writeRowsAmid MemoryStore.backend us w s rows) := by
  obtain ⟨id, w', n, heq, hstore, hsound', hs⟩ := obtain_of_sound hsound s
  obtain ⟨hused, hprefix⟩ := hsound'.uses us hus
  have hs' := StatementCache.statement?_of_prefix hprefix hs
  rw [writeRowsAmid, heq]
  exact (settles_attempt (w := { w' with statements := us.foldl StatementCache.step w'.statements })
    hused hs' hrows).of_store hstore

end Sink

/-- In front of a memory store with any sound statement cache, let others do anything with the cache
after a statement was obtained for a batch (which has rows, as the batches of a flush do) and before it
is executed: close statements, drop entries by sweeps and late look-ups, drop all of them, or put in
statements of their own. If the table does not fail the batch is written nevertheless, and kept once
(not at all by a dry run); if it fails there is an error, and nothing is kept. Either way the table has
a ready statement, which is cached under its key, and every ready statement is cached. With nothing
done in between this is how rows are written. -/
theorem closing_costs_no_rows (w : Sink MemoryStore) (hsound : w.statements.Sound)
    (us : List CacheUse) (hus : ∀ x ∈ us, x.Filed) (batch : Batch) (hrows : batch.rows ≠ []) :
    let done := Sink.writeRowsAmid MemoryStore.backend us w batch.statement batch.rows
    let c := done.2.statements
    (batch.kind ∉ w.store.failing → done.1 = .ok () ∧
      done.2.store.batches = w.store.batches ++ if w.store.dryRun then [] else [batch]) ∧
    (batch.kind ∈ w.store.failing → (∃ e, done.1 = .error e) ∧
      done.2.store.batches = w.store.batches) ∧
    (∃ e, c.entries.get? batch.statement.key = some e ∧ c.ledger.isReady e.id = true ∧
      c.ledger.statement? e.id = some batch.statement) ∧
    (∀ id, c.ledger.isReady id = true → ∃ s e, c.ledger.statement? id = some s ∧
      c.entries.get? s.key = some e ∧ e.id = id) ∧
    Sink.writeRowsAmid MemoryStore.backend [] w batch.statement batch.rows
      = Sink.writeRows MemoryStore.backend w batch.statement batch.rows := by
  have h := Sink.settles_writeRowsAmid hsound hus batch.statement hrows
  obtain ⟨e, he, hready, hs⟩ := h.cached
  exact ⟨h.taken, h.rejected, ⟨e, he, hready, hs⟩, fun id => h.sound.cached,
    Sink.writeRowsAmid_nil _ _ _ _⟩

/-- The statement that was found is closed and dropped, and another one is put in: the one prepared
after that is refused, and the batch goes through the one that was put in. -/
theorem closing_costs_no_rows_replaced :
    let s : Statement := ⟨"apo", .jvmGc⟩
    let w : Sink MemoryStore :=
      { store := {}, statements := .used ⟨300000000000⟩ [.put s.key s 0] }
    let us : List CacheUse := [.close 0, .get s.key 1, .put s.key s 2]
    let batch : Batch := ⟨"apo", .jvmGc, ["(1)"]⟩
    let done := Sink.writeRowsAmid MemoryStore.backend us w s batch.rows
    w.statements.Sound ∧ (∀ x ∈ us, x.Filed) ∧ batch.rows ≠ [] ∧
      (Sink.obtain MemoryStore.backend w s).1.toOption = some 0 ∧ done.1 = .ok () ∧
      done.2.store.batches = [batch] ∧
      done.2.statements.ledger.entries.map Prod.snd = [.closed, .ready, .refused] := by
  intro s w us batch done
  have hput : ∀ x ∈ [CacheUse.put s.key s 0], x.Filed := by simp [CacheUse.Filed]
  have hsound : w.statements.Sound := ((StatementCache.sound_new ⟨300000000000⟩).uses _ hput).1
  have hus : ∀ x ∈ us, x.Filed := by simp [us, CacheUse.Filed]
  have hrows : batch.rows ≠ [] := by simp [batch]
  obtain ⟨htaken, -⟩ := closing_costs_no_rows w hsound us hus batch hrows
  obtain ⟨hok, hbatches⟩ := htaken (by decide)
  exact ⟨hsound, hus, hrows, by decide +kernel, hok, hbatches, by decide +kernel⟩

end Ingest
