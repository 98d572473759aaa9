import Ingest.Proofs.TenantHoldings

/-!
Tenants do not see each other. Two runs of a service for many tenants are compared: one of them is
the other without all that other tenants do. Each run has an environment of its own; only the order in
which collections meet the tenant's own tallies is the same in both. Main statement: a tenant that
shares its database with none of the others gets the same answers in both runs, and the same batches
are written to its database.
-/

namespace Ingest

/-! ### What a flush writes for a tenant -/

theorem TenantCache.batches_nil (exportClients : Bool) (t : Tenant) (database : String) :
    TenantCache.batches exportClients ⟨t, database, []⟩ = [] := by
  simp [TenantCache.batches]

namespace Ingestor

variable {settings : Settings} {s : Ingestor MemoryStore} {a : Tenant} {x : Operation}

/-- Whether nothing is held of any other tenant that has a tenant's database. -/
def Idle (settings : Settings) (a : Tenant) (s : Ingestor MemoryStore) : Prop :=
  ∀ t, t ≠ a → settings.databaseOf t = settings.databaseOf a → (s.holding t).IsEmpty

/-- The batches of a tenant that can be written. -/
def writable (settings : Settings) (a : Tenant) (h : Holding) (failing : List Kind) : List Batch :=
  (TenantCache.batches settings.clickhouse.exportServiceClient
    ⟨a, settings.databaseOf a, h.pending⟩).filter fun b => decide (b.kind ∉ failing)

namespace ServesMany

/-- A flush writes the batches that are for no failing table. -/
theorem batches_flush (h : ServesMany settings s) :
    (s.perform .flush).2.sink.store.batches = s.sink.store.batches
      ++ (s.registry.snapshot.flatMap
        (TenantCache.batches settings.clickhouse.exportServiceClient)).filter
          fun b => decide (b.kind ∉ s.sink.store.failing) := by
  obtain ⟨-, -, hbatches, hwritten⟩ := Sink.flush_memory h.recording
    settings.clickhouse.exportServiceClient s.registry.snapshot
  have hattempted : (flushAttempts MemoryStore.backend settings.clickhouse.exportServiceClient
      s.registry.snapshot s.sink).map (·.batch) = s.registry.snapshot.flatMap
        (TenantCache.batches settings.clickhouse.exportServiceClient) := by
    have hmap := Sink.map_attempts MemoryStore.backend
      (ownedBatches settings.clickhouse.exportServiceClient s.registry.snapshot)
      ({ tenants := s.registry.snapshot.length }, s.sink)
    rw [← map_snd_ownedBatches, ← hmap, List.map_map]
    rfl
  have hflush : (s.perform .flush).2.sink = (Ingest.flush MemoryStore.backend
      settings.clickhouse.exportServiceClient s.registry.snapshot s.sink).2 := by
    rw [← h.settings_eq]
    rfl
  rw [hflush, hbatches, ← hattempted, List.filter_map]
  exact congrArg _ (congrArg _ (List.filter_congr hwritten))

theorem failing_flush (h : ServesMany settings s) :
    (s.perform .flush).2.sink.store.failing = s.sink.store.failing :=
  (Sink.flush_memory h.recording s.settings.clickhouse.exportServiceClient s.registry.snapshot).2.1

theorem pending_of_mem (h : ServesMany settings s) {e : Tenant × List Event}
    (he : s.registry.caches.get? e.1 = some e.2) : s.registry.pending e.1 = e.2 := by
  rw [Registry.pending, h.scope_eq, Keyed.getD, he, Option.getD_some]

/-- Of the batches of a cache, those for a tenant's database. -/
theorem filter_batches (h : ServesMany settings s) (hidle : s.Idle settings a)
    {e : Tenant × List Event} (he : s.registry.caches.get? e.1 = some e.2) :
    (TenantCache.batches settings.clickhouse.exportServiceClient
      ⟨e.1, s.registry.databaseFor e.1, e.2⟩).filter
        (fun b => decide (b.database = settings.databaseOf a))
      = if decide (e.1 = a) then TenantCache.batches settings.clickhouse.exportServiceClient
          ⟨a, settings.databaseOf a, e.2⟩ else [] := by
  rw [h.databaseFor_eq]
  by_cases ha : e.1 = a
  · rw [if_pos (decide_eq_true ha), List.filter_eq_self.mpr]
    · rw [ha]
    · intro batch hbatch
      exact decide_eq_true (ha ▸ (TenantCache.of_mem_batches hbatch).2)
  · rw [if_neg (by simpa using ha)]
    -- Another tenant's cache is empty or goes to another database.
    by_cases hsame : settings.databaseOf e.1 = settings.databaseOf a
    · have hnone : s.registry.pending e.1 = [] := (hidle e.1 ha hsame).pending
      rw [← h.pending_of_mem he, hnone, TenantCache.batches_nil, List.filter_nil]
    · rw [List.filter_eq_nil_iff]
      intro batch hbatch hdatabase
      exact hsame ((TenantCache.of_mem_batches hbatch).2.symm.trans (of_decide_eq_true hdatabase))

/-- What a flush writes to a tenant's database, if nothing is held of any other tenant that has this
database. -/
theorem batchesIn_flush (h : ServesMany settings s) (hidle : s.Idle settings a) :
    (s.perform .flush).2.sink.store.batches.filter
        (fun b => decide (b.database = settings.databaseOf a))
      = s.sink.store.batches.filter (fun b => decide (b.database = settings.databaseOf a))
        ++ writable settings a (s.holding a) s.sink.store.failing := by
  have hpending : (s.holding a).pending = (s.registry.caches.get? a).getD [] := by
    rw [holding, Registry.pending, h.scope_eq, Keyed.getD]
  have hcached : ∀ e ∈ (s.registry.caches.arrange (s.registry.order s.registry.visits)).entries,
      s.registry.caches.get? e.1 = some e.2 := by
    intro e he
    rw [← Keyed.get?_arrange, Keyed.get?_eq_some_iff.mpr he]
  rw [h.batches_flush, List.filter_append, List.filter_comm, Registry.snapshot, Registry.listed,
    List.flatMap_map, List.filter_flatMap,
    List.flatMap_congr fun e he => h.filter_batches hidle (hcached e he), flatMap_filter,
    Keyed.filter_entries, Keyed.get?_arrange, writable, hpending]
  cases s.registry.caches.get? a with
  | none => simp [TenantCache.batches_nil]
  | some es => simp

/-- Nothing comes to be held of a tenant by what nobody or somebody else does. -/
theorem idle_perform (h : ServesMany settings s) (hidle : s.Idle settings a)
    (hinit : x ≠ .failInit true)
    (hdatabase : ∀ t, x.tenant? = some t → t ≠ a → settings.databaseOf t ≠ settings.databaseOf a) :
    (s.perform x).2.Idle settings a := by
  intro u hu hsame
  have hempty := hidle u hu hsame
  rw [(h.moves x hinit).holding]
  cases hx : x.tenant? with
  | none =>
    rw [Operation.concerns_of_none hx, if_pos rfl]
    exact hempty.after hx u
  | some t =>
    have hne : t ≠ u := fun heq => hdatabase t hx (heq ▸ hu) (heq ▸ hsame)
    rw [Operation.concerns_of_some hx, decide_eq_false hne, if_neg Bool.false_ne_true]
    exact hempty

end ServesMany

/-! ### Two runs -/

/-- A service that a tenant can use without meeting another one in its database. -/
structure Apart (settings : Settings) (a : Tenant) (s : Ingestor MemoryStore) : Prop where
  serves : ServesMany settings s
  idle : s.Idle settings a

theorem Apart.perform (h : Apart settings a s) (hinit : x ≠ .failInit true)
    (hdatabase : ∀ t, x.tenant? = some t → t ≠ a → settings.databaseOf t ≠ settings.databaseOf a) :
    Apart settings a (s.perform x).2 :=
  ⟨(h.serves.moves x hinit).serves, h.serves.idle_perform h.idle hinit hdatabase⟩

end Ingestor

/-- Two transcripts that a tenant cannot tell from each other. -/
structure Transcript.Alike (settings : Settings) (a : Tenant) (h h' : Transcript) : Prop where
  holding : h.service.holding a = h'.service.holding a
  failing : h.service.sink.store.failing = h'.service.sink.store.failing
  batches : h.batchesIn (settings.databaseOf a) = h'.batchesIn (settings.databaseOf a)
  answers : h.answersTo a = h'.answersTo a

namespace Transcript

variable {settings : Settings} {a : Tenant} {h h' : Transcript} {x : Operation}

theorem answersTo_step (h : Transcript) (x : Operation) (t : Tenant) :
    (h.step x).answersTo t
      = h.answersTo t ++ if x.tenant? = some t then [(x, (h.service.perform x).1)] else [] := by
  by_cases hx : x.tenant? = some t <;> simp [step, answersTo, hx]

theorem batchesIn_step (hs : h.service.ServesMany settings) (hx : x ≠ .flush) (database : String) :
    (h.step x).batchesIn database = h.batchesIn database :=
  congrArg _ (hs.keeps x hx).batches

/-- Another tenant's operation goes unnoticed. -/
theorem Alike.aside (halike : Alike settings a h h') (hs : h.service.ServesMany settings)
    (hinit : x ≠ .failInit true) (hx : x.concerns a = false) :
    Alike settings a (h.step x) h' := by
  obtain ⟨t, ht, hne⟩ := Operation.of_not_concerns hx
  have hflush : x ≠ .flush := by
    rintro rfl
    cases ht
  refine ⟨?_, ?_, ?_, ?_⟩
  · have hholding := (hs.moves x hinit).holding a
    rw [hx, if_neg Bool.false_ne_true] at hholding
    exact hholding.trans halike.holding
  · have hfailing := (hs.keeps x hflush).failing
    rw [Operation.failing_of_some ht] at hfailing
    exact hfailing.trans halike.failing
  · rw [batchesIn_step hs hflush, halike.batches]
  · have hother : x.tenant? ≠ some a := fun heq => hne (Option.some.inj (ht.symm.trans heq))
    rw [answersTo_step, if_neg hother, List.append_nil, halike.answers]

/-- An operation of the tenant, or of nobody, has one effect in both. -/
theorem Alike.step (halike : Alike settings a h h') (hs : h.service.Apart settings a)
    (hs' : h'.service.Apart settings a) (hinit : x ≠ .failInit true) (hx : x.concerns a = true) :
    Alike settings a (h.step x) (h'.step x) := by
  have hmoves := hs.serves.moves x hinit
  have hmoves' := hs'.serves.moves x hinit
  refine ⟨?_, ?_, ?_, ?_⟩
  · have hholding := hmoves.holding a
    have hholding' := hmoves'.holding a
    rw [if_pos hx] at hholding hholding'
    rw [Transcript.step, Transcript.step, hholding, hholding', halike.holding]
  · by_cases hflush : x = .flush
    · subst hflush
      rw [Transcript.step, Transcript.step, hs.serves.failing_flush, hs'.serves.failing_flush,
        halike.failing]
    · rw [Transcript.step, Transcript.step, (hs.serves.keeps x hflush).failing,
        (hs'.serves.keeps x hflush).failing, halike.failing]
  -- Only a flush writes, and it is the one step that meets the caches of all tenants.
  · by_cases hflush : x = .flush
    · subst hflush
      have hbatches := hs.serves.batchesIn_flush hs.idle
      have hbatches' := hs'.serves.batchesIn_flush hs'.idle
      have hbefore := halike.batches
      rw [batchesIn, batchesIn] at hbefore
      rw [batchesIn, batchesIn, Transcript.step, Transcript.step, hbatches, hbatches', hbefore,
        halike.holding, halike.failing]
    · rw [batchesIn_step hs.serves hflush, batchesIn_step hs'.serves hflush, halike.batches]
  · rw [answersTo_step, answersTo_step, halike.answers]
    split
    · next ht => rw [hmoves.answer a ht, hmoves'.answer a ht, halike.holding]
    · rfl

end Transcript

/-- What a tenant and nobody do is all that a tenant notices, by induction on what is done. -/
theorem alike_filter (settings : Settings) (hmany : settings.tenancy.enabled = true) (a : Tenant)
    {env env' : Environment} (horder : env.tallyOrderOf a = env'.tallyOrderOf a) :
    ∀ xs : List Operation, (∀ x ∈ xs, x ≠ .failInit true) →
      (∀ x ∈ xs, ∀ t, x.tenant? = some t → t ≠ a →
        settings.databaseOf t ≠ settings.databaseOf a) →
      (Transcript.of settings env xs).service.Apart settings a ∧
      (Transcript.of settings env' (xs.filter (·.concerns a))).service.Apart settings a ∧
      Transcript.Alike settings a (.of settings env xs)
        (.of settings env' (xs.filter (·.concerns a))) := by
  intro xs
  induction xs using List.reverseRecOn with
  | nil =>
    intro _ _
    have hnew (env : Environment) : (Transcript.of settings env []).service.Apart settings a := by
      refine ⟨Ingestor.servesMany_new hmany, fun t _ _ => ?_⟩
      have hholding := Ingestor.holding_new settings env t
      exact ⟨congrArg Holding.pending hholding, congrArg (·.board.tallies) hholding⟩
    have hholding : (Transcript.of settings env []).service.holding a
        = (Transcript.of settings env' []).service.holding a := by
      have hnew := Ingestor.holding_new settings env a
      rw [horder] at hnew
      exact hnew.trans (Ingestor.holding_new settings env' a).symm
    exact ⟨hnew env, hnew env', hholding, rfl, rfl, rfl⟩
  | append_singleton xs x ih =>
    intro hinit hdatabase
    obtain ⟨hinits, hinit⟩ := List.forall_mem_append.mp hinit
    obtain ⟨hdatabases, hdatabase⟩ := List.forall_mem_append.mp hdatabase
    have hx := hinit x (List.mem_singleton_self x)
    have hd := hdatabase x (List.mem_singleton_self x)
    obtain ⟨hall, hown, halike⟩ := ih hinits hdatabases
    rw [List.filter_append, Transcript.of_concat]
    cases hconcerns : x.concerns a with
    | true =>
      rw [List.filter_singleton, hconcerns, cond_true, Transcript.of_concat]
      exact ⟨hall.perform hx hd, hown.perform hx hd, halike.step hall hown hx hconcerns⟩
    | false =>
      rw [List.filter_singleton, hconcerns, cond_false, List.append_nil]
      exact ⟨hall.perform hx hd, hown, halike.aside hall.serves hx hconcerns⟩

end Ingest
