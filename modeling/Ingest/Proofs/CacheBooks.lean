import Mathlib.Data.Finset.Card
import Ingest.Proofs.LiveStatements

/-!
The books of a statement cache: its gauge, its counter of evictions, and what an observer counts who
sees no more than which keys are cached before and after each use. Main statement: after any uses the
gauge tells how many entries there are, the counter how many have left by look-ups and sweeps, and
all entries ever created are there still, were evicted, or left when everything was closed. What is
closed from outside shows up in none of these until a use meets it.
-/

namespace Ingest

namespace Keyed

variable {κ ν : Type}

theorem size_filter_add (m : Keyed κ ν) (p : κ → ν → Bool) :
    (m.filter p).size + (m.filter fun k v => !p k v).size = m.size :=
  (List.length_eq_length_filter_add _).symm

variable [DecidableEq κ]

theorem size_erase {m : Keyed κ ν} {k : κ} (h : k ∈ m.keys) : (m.erase k).size + 1 = m.size := by
  have hone : (m.filter fun j _ => !decide (j ≠ k)).size = 1 := by
    obtain ⟨v, hv⟩ := Option.isSome_iff_exists.mp (contains_iff.mpr h)
    have hentry := congrArg List.length (m.filter_entries k)
    simpa [filter, size, hv] using hentry
  rw [← m.size_filter_add fun j _ => decide (j ≠ k), hone]
  rfl

theorem size_insert (m : Keyed κ ν) (k : κ) (v : ν) :
    (m.insert k v).size = if k ∈ m.keys then m.size else m.size + 1 := by
  have hkeys := congrArg List.length (m.keys_insert k v)
  have hsize (m : Keyed κ ν) : m.keys.length = m.size := List.length_map _
  rw [hsize] at hkeys
  rw [hkeys]
  split
  · exact hsize m
  · rw [List.length_append, hsize, List.length_singleton]

end Keyed

namespace StatementCache

/-! ### What an observer counts -/

/-- The keys under which something is cached. -/
def cachedKeys (c : StatementCache) : Finset StatementKey := c.entries.keys.toFinset

/-- How many keys are cached before a use and no more after it. -/
def dropped (c : StatementCache) (x : CacheUse) : Nat := (c.cachedKeys \ (c.step x).cachedKeys).card

/-- How many entries an insertion creates: one under a key that is new, and else none. -/
def created (c : StatementCache) : CacheUse → Nat
  | .put key _ _ => if key ∈ c.cachedKeys then 0 else 1
  | _ => 0

/-- How many entries a look-up or a sweep removes. -/
def evicted (c : StatementCache) : CacheUse → Nat
  | .get key now => c.dropped (.get key now)
  | .evictIdle now => c.dropped (.evictIdle now)
  | _ => 0

/-- How many statements are said to be closed, where all are. -/
def closed (c : StatementCache) : CacheUse → Nat
  | .closeAll => c.closeAll.1
  | _ => 0

/-- The sum of what is counted of each use. -/
def total (count : StatementCache → CacheUse → Nat) (c : StatementCache) : List CacheUse → Nat
  | [] => 0
  | x :: xs => count c x + (c.step x).total count xs

theorem total_concat (count : StatementCache → CacheUse → Nat) (c : StatementCache)
    (xs : List CacheUse) (x : CacheUse) :
    c.total count (xs ++ [x]) = c.total count xs + count (xs.foldl step c) x := by
  induction xs generalizing c with
  | nil => simp [total]
  | cons y ys ih => simp [total, ih, Nat.add_assoc]

end StatementCache

/-- What a cache shows after some uses, and what an observer has counted of them. -/
structure CacheBooks where
  size : Nat
  gauge : Nat
  evictions : Nat
  created : Nat
  evicted : Nat
  closed : Nat
  deriving DecidableEq

structure CacheBooks.Balanced (b : CacheBooks) : Prop where
  gauge_eq : b.gauge = b.size
  evictions_eq : b.evictions = b.evicted
  created_eq : b.created = b.size + b.evictions + b.closed

namespace StatementCache

/-- The books of a new cache after some uses. -/
def books (idleTimeout : Duration) (xs : List CacheUse) : CacheBooks :=
  let c := used idleTimeout xs
  let total (count : StatementCache → CacheUse → Nat) := StatementCache.total count { idleTimeout } xs
  { size := c.size
    gauge := c.sizeGauge
    evictions := c.evictions
    created := total created
    evicted := total evicted
    closed := total closed }

/-! ### Single uses -/

variable {c : StatementCache} {x : CacheUse}

theorem size_eq_card (c : StatementCache) : c.size = c.cachedKeys.card := by
  have hkeys : c.cachedKeys.card = c.entries.keys.length :=
    List.toFinset_card_of_nodup c.entries.nodup
  rw [hkeys, Keyed.keys, List.length_map]
  rfl

theorem cachedKeys_subset_of_filter {p : StatementKey → CachedStatement → Bool}
    (h : (c.step x).entries = c.entries.filter p) : (c.step x).cachedKeys ⊆ c.cachedKeys := by
  intro key hkey
  rw [cachedKeys, List.mem_toFinset] at hkey ⊢
  rw [h] at hkey
  exact (List.filter_sublist.map _).subset hkey

theorem dropped_add_size (h : (c.step x).cachedKeys ⊆ c.cachedKeys) :
    c.dropped x + (c.step x).size = c.size := by
  rw [dropped, size_eq_card, size_eq_card]
  exact Finset.card_sdiff_add_card_eq_card h

/-- A look-up leaves the books as they are, or drops an entry and books it. -/
theorem get_booked (c : StatementCache) (key : StatementKey) (now : Nat) :
    let c' := (c.get key now).2
    (c'.entries.keys = c.entries.keys ∧ c'.evictions = c.evictions ∧ c'.sizeGauge = c.sizeGauge) ∨
      (key ∈ c.entries.keys ∧ c'.entries = c.entries.erase key ∧
        c'.evictions = c.evictions + 1 ∧ c'.sizeGauge = c'.size) := by
  cases h : c.entries.get? key with
  | none => exact .inl (by simp [get, h])
  | some e =>
    have hkey : key ∈ c.entries.keys := Keyed.contains_iff.mp (by simp [Keyed.contains, h])
    cases hstale : c.isStale e now with
    | true => exact .inr ⟨hkey, by simp [get, h, hstale, reportSize, StatementCache.close, size]⟩
    | false => exact .inl (by simp [get, h, hstale, Keyed.keys_insert, hkey])

/-- What a look-up drops is booked as evicted. -/
theorem evictions_get (c : StatementCache) (key : StatementKey) (now : Nat) :
    (c.get key now).2.evictions = c.evictions + c.dropped (.get key now) ∧
      c.dropped (.get key now) + (c.get key now).2.size = c.size := by
  rcases c.get_booked key now with ⟨hkeys, hevictions, -⟩ | ⟨hkey, hentries, hevictions, -⟩
  · have hsame : (c.step (.get key now)).cachedKeys = c.cachedKeys := congrArg List.toFinset hkeys
    have hdropped : c.dropped (.get key now) + (c.get key now).2.size = c.size :=
      dropped_add_size hsame.subset
    have hsize : (c.get key now).2.size = c.size := by
      rw [size_eq_card, size_eq_card]
      exact congrArg Finset.card hsame
    omega
  · have hdropped : c.dropped (.get key now) + (c.get key now).2.size = c.size :=
      dropped_add_size (cachedKeys_subset_of_filter hentries)
    have hsize : (c.get key now).2.size + 1 = c.size := by
      rw [size, hentries]
      exact Keyed.size_erase hkey
    omega

/-- What a sweep drops is booked as evicted. -/
theorem evictions_evictIdle (c : StatementCache) (now : Nat) :
    (c.evictIdle now).2.evictions = c.evictions + c.dropped (.evictIdle now) ∧
      c.dropped (.evictIdle now) + (c.evictIdle now).2.size = c.size := by
  have hentries : (c.evictIdle now).2.entries = c.entries.filter fun _ e => !c.isIdle e.lastUsed now :=
    rfl
  have hdropped : c.dropped (.evictIdle now) + (c.evictIdle now).2.size = c.size :=
    dropped_add_size (cachedKeys_subset_of_filter hentries)
  have hidle : (c.entries.filter fun _ e => c.isIdle e.lastUsed now).size
      + (c.evictIdle now).2.size = c.size := c.entries.size_filter_add _
  have hevictions : (c.evictIdle now).2.evictions
      = c.evictions + (c.entries.filter fun _ e => c.isIdle e.lastUsed now).size := rfl
  omega

theorem size_entries_put (c : StatementCache) (key : StatementKey) (s : Statement) (now : Nat) :
    (c.put key s now).2.size = c.size + c.created (.put key s now) := by
  have hsize : (c.put key s now).2.size = if key ∈ c.entries.keys then c.size else c.size + 1 :=
    c.entries.size_insert key _
  simp only [hsize, created, cachedKeys, List.mem_toFinset]
  split <;> rfl

/-! ### All uses -/

theorem gauge_step (h : c.sizeGauge = c.size) : ∀ x, (c.step x).sizeGauge = (c.step x).size
  | .get key now => by
    rcases c.get_booked key now with ⟨hkeys, -, hgauge⟩ | ⟨-, -, -, hgauge⟩
    · rw [step, hgauge, h, size_eq_card, size_eq_card]
      exact congrArg (Finset.card ∘ List.toFinset) hkeys.symm
    · exact hgauge
  | .put .. => rfl
  | .evictIdle _ => rfl
  | .closeAll => rfl
  | .close _ => h

theorem evictions_step (c : StatementCache) :
    ∀ x, (c.step x).evictions = c.evictions + c.evicted x
  | .get key now => (c.evictions_get key now).1
  | .evictIdle now => (c.evictions_evictIdle now).1
  | .put .. => rfl
  | .closeAll => rfl
  | .close _ => rfl

/-- Entries come in one way and go in three. -/
theorem size_step (c : StatementCache) :
    ∀ x, c.size + c.created x = (c.step x).size + c.evicted x + c.closed x
  | .put key s now => (c.size_entries_put key s now).symm
  | .get key now => by
    have hsize := (c.evictions_get key now).2
    simp only [created, evicted, closed, step]
    omega
  | .evictIdle now => by
    have hsize := (c.evictions_evictIdle now).2
    simp only [created, evicted, closed, step]
    omega
  | .closeAll => (Nat.zero_add c.size).symm
  | .close _ => rfl

theorem books_concat (idleTimeout : Duration) (xs : List CacheUse) (x : CacheUse) :
    let c := used idleTimeout xs
    let b := books idleTimeout xs
    books idleTimeout (xs ++ [x]) =
      { size := (c.step x).size
        gauge := (c.step x).sizeGauge
        evictions := (c.step x).evictions
        created := b.created + c.created x
        evicted := b.evicted + c.evicted x
        closed := b.closed + c.closed x } := by
  simp only [books, total_concat, used_concat]
  rfl

/-- The books balance after any uses, by induction on them. -/
theorem balanced_books (idleTimeout : Duration) (xs : List CacheUse) :
    (books idleTimeout xs).Balanced := by
  induction xs using List.reverseRecOn with
  | nil => exact ⟨rfl, rfl, rfl⟩
  | append_singleton xs x ih =>
    obtain ⟨hgauge, hevictions, hcreated⟩ := ih
    have hsize := (used idleTimeout xs).size_step x
    have hstep := (used idleTimeout xs).evictions_step x
    have hold : (books idleTimeout xs).size = (used idleTimeout xs).size ∧
        (books idleTimeout xs).evictions = (used idleTimeout xs).evictions := ⟨rfl, rfl⟩
    rw [books_concat]
    refine ⟨gauge_step hgauge x, ?_, ?_⟩ <;> dsimp only <;> omega

/-- After any uses of a new cache: the gauge tells the number of entries; as many evictions are counted
as entries have gone by look-ups and sweeps; and the insertions that created an entry are as many as
there are entries, evictions, and statements said to be closed where all were. An insertion under a
key that is cached, whether its statement is ready or closed, changes none of these numbers. -/
theorem cache_books_balance (idleTimeout : Duration) (xs : List CacheUse) :
    let b := books idleTimeout xs
    b.gauge = b.size ∧ b.evictions = b.evicted ∧ b.created = b.size + b.evictions + b.closed ∧
    ∀ key s now, key ∈ (used idleTimeout xs).cachedKeys →
      books idleTimeout (xs ++ [.put key s now]) = b := by
  obtain ⟨hgauge, hevictions, hcreated⟩ := balanced_books idleTimeout xs
  refine ⟨hgauge, hevictions, hcreated, fun key s now hkey => ?_⟩
  have hnone : (used idleTimeout xs).created (.put key s now) = 0 := if_pos hkey
  have hsize : ((used idleTimeout xs).step (.put key s now)).size = (used idleTimeout xs).size := by
    rw [step, size_entries_put, hnone, Nat.add_zero]
  rw [books_concat, gauge_step hgauge, hsize, hnone]
  exact congrArg (fun g => { books idleTimeout xs with gauge := g }) hgauge.symm

example :
    let key : StatementKey := ⟨"apo", "jvm_gc"⟩
    let s : Statement := ⟨"apo", .jvmGc⟩
    books ⟨10⟩ [.put key s 0, .close 0, .put key s 5, .get key 20, .put key s 21, .closeAll]
      = ⟨0, 0, 1, 2, 1, 1⟩ := by decide +kernel

end StatementCache

end Ingest
