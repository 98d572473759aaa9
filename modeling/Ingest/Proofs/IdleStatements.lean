import Ingest.Proofs.StandingStatements

/-!
When statements go idle. A cache is used at times that never go back, and a statement is put in only
where a look-up has just found none, as a sink does it. Main statement: a look-up finds the statement
last put in under its key if nothing closed it since and the key was last used within the idle
timeout, and else finds nothing. So it makes no difference to any use when idle statements are swept,
or whether they are.
-/

namespace Ingest.StatementCache

variable {xs : List CacheUse} {key : StatementKey} {idleTimeout : Duration}

theorem useTimes_unswept_subset (xs : List CacheUse) : useTimes (unswept xs) ⊆ useTimes xs := by
  intro t ht
  obtain ⟨x, hx, htime⟩ := List.mem_filterMap.mp ht
  exact List.mem_filterMap.mpr ⟨x, List.mem_of_mem_filter hx, htime⟩

/-- A use gives the same with all sweeps before it and with none. -/
theorem given?_unswept {x : CacheUse} (h : Tracks idleTimeout xs (used idleTimeout xs))
    (h' : Tracks idleTimeout (unswept xs) (used idleTimeout (unswept xs)))
    (hnoted : noted idleTimeout (unswept xs) = noted idleTimeout xs)
    (hnow : ∀ now, x.time? = some now → ∀ t ∈ useTimes xs, t ≤ now)
    (hput : ∀ key, x.putKey? = some key → missed (noted idleTimeout xs) key = true) :
    (used idleTimeout (unswept xs)).given? x = (used idleTimeout xs).given? x := by
  cases x with
  | put key s now =>
    have hlive := (h.put (hput key rfl) s now).2
    have hlive' := (h'.put (hnoted ▸ hput key rfl) s now).2
    rw [given?, given?, hlive, hlive', putKeys_unswept]
  | get key now =>
    have hlate := hnow now rfl
    refine Option.ext fun id => ?_
    rw [given?, given?, h.get_eq_some_iff hlate,
      h'.get_eq_some_iff fun t ht => hlate t (useTimes_unswept_subset xs ht), stands_unswept, hnoted]
  | _ => rfl

/-- Sweeps leave no trace, by induction on the uses; of the run with sweeps and the one without, it is
enough that one is prompted. -/
theorem noted_unswept (htimes : Chronological xs)
    (h : Prompted (noted idleTimeout xs) ∨ Prompted (noted idleTimeout (unswept xs))) :
    noted idleTimeout (unswept xs) = noted idleTimeout xs := by
  induction xs using List.reverseRecOn with
  | nil => rfl
  | append_singleton xs x ih =>
    obtain ⟨htimes, hnow⟩ := chronological_concat.mp htimes
    cases hx : x.isSweep with
    | true =>
      have hsame : unswept (xs ++ [x]) = unswept xs := by simp [unswept, hx]
      have hnone : (used idleTimeout xs).note x = [] := if_pos hx
      rw [hsame, noted_concat, hnone, List.append_nil] at h ⊢
      exact ih htimes h
    | false =>
      have hlast : unswept (xs ++ [x]) = unswept xs ++ [x] := by simp [unswept, hx]
      rw [hlast, prompted_noted_concat, prompted_noted_concat] at h
      have hnoted := ih htimes (h.imp And.left And.left)
      rw [hnoted, or_self] at h
      have hgiven := given?_unswept (tracks_used h.1) (tracks_used (hnoted ▸ h.1)) hnoted hnow h.2
      rw [hlast, noted_concat, noted_concat, hnoted, note, note, hgiven]

/-- In any uses of a cache at times that never go back, with statements put in only after a look-up
under their key found nothing: a look-up finds a statement just if it is the one last put in under the
key, nothing closed it since, and the key was last used no longer ago than the idle timeout; and a
statement that is put in is the one that is ready. All uses with the same but for their sweeps give
the same. -/
theorem sweeps_unobservable (idleTimeout : Duration) (xs : List CacheUse)
    (htimes : Chronological xs) (hprompted : Prompted (noted idleTimeout xs)) :
    (∀ us key now ws, xs = us ++ .get key now :: ws → ∀ id,
      ((used idleTimeout us).get key now).1 = some id ↔ Stands us key id ∧
        ∃ last, lastUsed? (noted idleTimeout us) key = some last ∧
          now - last ≤ idleTimeout.nanos) ∧
    (∀ us key s now ws, xs = us ++ .put key s now :: ws →
      ((used idleTimeout us).put key s now).1 = (putKeys us).length) ∧
    ∀ ys, Chronological ys → unswept ys = unswept xs →
      noted idleTimeout ys = noted idleTimeout xs := by
  refine ⟨fun us key now ws heq id => ?_, fun us key s now ws heq => ?_, fun ys htimes' heq => ?_⟩
  · rw [List.append_cons] at heq
    have hnow := (chronological_concat.mp (chronological_of_append (heq ▸ htimes))).2 now rfl
    have htracks := tracks_used (prompted_of_append (prompted_of_append (heq ▸ hprompted)))
    exact htracks.get_eq_some_iff hnow
  · rw [List.append_cons] at heq
    obtain ⟨hus, hput⟩ := prompted_noted_concat.mp (prompted_of_append (heq ▸ hprompted))
    exact ((tracks_used hus).put (hput key rfl) s now).2
  · have hnoted := noted_unswept htimes (.inl hprompted)
    rw [← noted_unswept htimes' (.inr (by rw [heq, hnoted]; exact hprompted)), heq, hnoted]

/-- A statement is found when the timeout is just reached, and gone when it is exceeded, whether a
sweep came first or not. -/
theorem sweeps_unobservable_at_timeout :
    let key : StatementKey := ⟨"apo", "jvm_gc"⟩
    let s : Statement := ⟨"apo", .jvmGc⟩
    let us : List CacheUse := [.get key 0, .put key s 1, .evictIdle 11]
    let xs := us ++ [.get key 11, .evictIdle 22, .get key 22, .put key s 22, .close 1, .get key 23]
    let ys : List CacheUse := [.evictIdle 0, .get key 0, .put key s 1, .get key 11, .get key 22,
      .put key s 22, .evictIdle 22, .close 1, .get key 23]
    Chronological xs ∧ Prompted (noted ⟨10⟩ xs) ∧ Chronological ys ∧ unswept ys = unswept xs ∧
      ((used ⟨10⟩ us).get key 11).1 = some 0 ∧ Stands us key 0 ∧
      lastUsed? (noted ⟨10⟩ us) key = some 1 ∧ noted ⟨10⟩ ys = noted ⟨10⟩ xs ∧
      (noted ⟨10⟩ xs).map (·.given) = [none, some 0, some 0, none, some 1, none, none] := by
  intro key s us xs ys
  have htimes : Chronological xs := by decide +kernel
  have hprompted : Prompted (noted ⟨10⟩ xs) := by decide +kernel
  have htimes' : Chronological ys := by decide +kernel
  obtain ⟨hfound, -, hsame⟩ := sweeps_unobservable ⟨10⟩ xs htimes hprompted
  have hhit : ((used ⟨10⟩ us).get key 11).1 = some 0 := by decide +kernel
  obtain ⟨hstands, -⟩ := (hfound us key 11 _ rfl 0).mp hhit
  exact ⟨htimes, hprompted, htimes', rfl, hhit, hstands, by decide +kernel, hsame ys htimes' rfl,
    by decide +kernel⟩

end Ingest.StatementCache
