import Mathlib.Data.List.Induction
import Ingest.Proofs.StatementLedger

/-!
Which statements are ready, and how the cache reaches them. A cache is put to any use: statements
are put in, looked up, swept and closed, and single statements are closed from outside. Main
statement: after any uses each ready statement is the one that is cached under the key it was put in
under, so that a key has one ready statement at most and nothing ready is lost to the cache.
-/

namespace Ingest

/-- A use of a cache, or the closing of a statement from outside. -/
inductive CacheUse where
  | put (key : StatementKey) (s : Statement) (now : Nat)
  | get (key : StatementKey) (now : Nat)
  | evictIdle (now : Nat)
  | closeAll
  | close (id : Nat)

/-- The key that a statement is put in under. -/
def CacheUse.putKey? : CacheUse → Option StatementKey
  | put key _ _ => some key
  | _ => none

/-- The keys that statements were put in under, by number. -/
def putKeys (xs : List CacheUse) : List StatementKey := xs.filterMap CacheUse.putKey?

theorem putKeys_concat (xs : List CacheUse) (x : CacheUse) :
    putKeys (xs ++ [x]) = putKeys xs ++ x.putKey?.toList := by
  cases h : x.putKey? <;> simp [putKeys, h]

theorem Ledger.isReady_enter (l : Ledger) (s : Statement) (standing : Standing) (j : Nat) :
    (l.enter s standing).isReady j = if j = l.size then standing == .ready else l.isReady j := by
  rw [isReady, standing?_enter]
  split
  · cases standing <;> rfl
  · rfl

namespace StatementCache

def step (c : StatementCache) : CacheUse → StatementCache
  | .put key s now => (c.put key s now).2
  | .get key now => (c.get key now).2
  | .evictIdle now => (c.evictIdle now).2
  | .closeAll => c.closeAll.2
  | .close id => c.close id

/-- A new cache after some uses. -/
def used (idleTimeout : Duration) (xs : List CacheUse) : StatementCache :=
  xs.foldl step { idleTimeout }

theorem used_concat (idleTimeout : Duration) (xs : List CacheUse) (x : CacheUse) :
    used idleTimeout (xs ++ [x]) = (used idleTimeout xs).step x := by
  simp [used]

variable {c c' : StatementCache} {keys : List StatementKey}

/-! ### What single uses do -/

theorem isReady_closeEach (es : List CachedStatement) (id : Nat) :
    (c.closeEach es).ledger.isReady id = true ↔
      c.ledger.isReady id = true ∧ ∀ e ∈ es, e.id ≠ id := by
  induction es generalizing c with
  | nil => simp [closeEach]
  | cons e es ih =>
    have hfirst : c.closeEach (e :: es) = (c.close e.id).closeEach es := rfl
    rw [hfirst, ih, StatementCache.close, Ledger.isReady_close]
    simp [and_assoc]

theorem size_closeEach (es : List CachedStatement) :
    (c.closeEach es).ledger.size = c.ledger.size := by
  induction es generalizing c with
  | nil => rfl
  | cons e es ih =>
    have hfirst : c.closeEach (e :: es) = (c.close e.id).closeEach es := rfl
    rw [hfirst, ih, StatementCache.close, Ledger.size_close]

/-- A look-up finds nothing, drops a stale entry, or finds a ready statement and notes the use. -/
theorem get_cases (c : StatementCache) (key : StatementKey) (now : Nat) :
    (c.entries.get? key = none ∧ c.get key now = (none, c)) ∨
    ∃ e, c.entries.get? key = some e ∧
      ((c.get key now).1 = none ∧ (c.get key now).2.ledger = c.ledger.close e.id ∧
          (c.get key now).2.entries = c.entries.erase key ∨
        c.ledger.isReady e.id = true ∧ c.get key now
          = (some e.id, { c with entries := c.entries.insert key { e with lastUsed := now } })) := by
  cases h : c.entries.get? key with
  | none => exact .inl ⟨rfl, by simp [get, h]⟩
  | some e =>
    refine .inr ⟨e, rfl, ?_⟩
    cases hstale : c.isStale e now with
    | true => exact .inl (by simp [get, h, hstale, reportSize, StatementCache.close])
    | false =>
      have hready : c.ledger.isReady e.id = true := by
        simp only [isStale, Bool.or_eq_false_iff, Bool.not_eq_false'] at hstale
        exact hstale.1
      exact .inr ⟨hready, by simp [get, h, hstale]⟩

theorem get?_put (c : StatementCache) (key j : StatementKey) (s : Statement) (now : Nat) :
    (c.put key s now).2.entries.get? j
      = if key = j then some ⟨(c.put key s now).1, now⟩ else c.entries.get? j :=
  Keyed.get?_insert _ _ _ _

theorem size_put (c : StatementCache) (key : StatementKey) (s : Statement) (now : Nat) :
    (c.put key s now).2.ledger.size = c.ledger.size + 1 := by
  simp [put, reportSize, Ledger.enter, Ledger.size]

/-- A new statement is refused by the ready one of its key, or is ready from then on. -/
theorem put_cases (c : StatementCache) (key : StatementKey) (s : Statement) (now : Nat) :
    (∃ e, c.entries.get? key = some e ∧ c.ledger.isReady e.id = true ∧
        (c.put key s now).1 = e.id ∧ (c.put key s now).2.ledger = c.ledger.enter s .refused) ∨
      (∀ e, c.entries.get? key = some e → c.ledger.isReady e.id = false) ∧
        (c.put key s now).1 = c.ledger.size ∧
        (c.put key s now).2.ledger = c.ledger.enter s .ready := by
  cases h : c.entries.get? key with
  | none => exact .inr (by simp [put, h, reportSize])
  | some e =>
    cases hready : c.ledger.isReady e.id with
    | true => exact .inl ⟨e, by simp [put, h, hready, reportSize]⟩
    | false => exact .inr (by simp [put, h, hready, reportSize])

/-- After an insertion the statement it gives is ready, and whatever was ready without being cached
under the key. -/
theorem isReady_put (c : StatementCache) (key : StatementKey) (s : Statement) (now id : Nat) :
    (c.put key s now).2.ledger.isReady id = true ↔
      id = (c.put key s now).1 ∨
        c.ledger.isReady id = true ∧ ∀ e, c.entries.get? key = some e → e.id ≠ id := by
  obtain ⟨e, he, hready, hlive, hledger⟩ | ⟨hnone, hlive, hledger⟩ := c.put_cases key s now
  · have hlt := Ledger.lt_size_of_isReady hready
    rw [hlive, hledger, Ledger.isReady_enter, he]
    constructor
    · intro hid
      split at hid
      · cases hid
      · exact or_iff_not_imp_left.mpr fun hne => ⟨hid, by rintro _ ⟨⟩; exact fun h => hne h.symm⟩
    · rintro (rfl | ⟨hid, -⟩)
      · rw [if_neg (by omega), hready]
      · have hold := Ledger.lt_size_of_isReady hid
        rw [if_neg (by omega), hid]
  · rw [hlive, hledger, Ledger.isReady_enter]
    constructor
    · intro hid
      split at hid
      · next h => exact .inl h
      · refine .inr ⟨hid, fun e he heq => ?_⟩
        rw [← heq, hnone e he] at hid
        cases hid
    · rintro (rfl | ⟨hid, -⟩)
      · simp
      · have hold := Ledger.lt_size_of_isReady hid
        rw [if_neg (by omega), hid]

/-! ### What every use keeps -/

/-- Given the keys that statements were put in under: each ready statement is cached under its key,
and under each key stands a statement of that key. -/
structure Reaches (c : StatementCache) (keys : List StatementKey) : Prop where
  size_eq : c.ledger.size = keys.length
  reached : ∀ id, c.ledger.isReady id = true →
    ∃ key e, keys[id]? = some key ∧ c.entries.get? key = some e ∧ e.id = id
  filed : ∀ key e, c.entries.get? key = some e → keys[e.id]? = some key

namespace Reaches

/-- It is enough that nothing becomes ready, that no entry is of another statement than before, and
that entries are dropped only with their statements closed. -/
theorem shrink (h : c.Reaches keys) (hsize : c'.ledger.size = c.ledger.size)
    (hready : ∀ id, c'.ledger.isReady id = true → c.ledger.isReady id = true)
    (hkept : ∀ key e, c.entries.get? key = some e → c'.ledger.isReady e.id = true →
      ∃ e', c'.entries.get? key = some e' ∧ e'.id = e.id)
    (hold : ∀ key e', c'.entries.get? key = some e' →
      ∃ e, c.entries.get? key = some e ∧ e.id = e'.id) : c'.Reaches keys where
  size_eq := hsize.trans h.size_eq
  reached id hid := by
    obtain ⟨key, e, hkey, he, rfl⟩ := h.reached id (hready id hid)
    obtain ⟨e', he', heq⟩ := hkept key e he hid
    exact ⟨key, e', hkey, he', heq⟩
  filed key e' he' := by
    obtain ⟨e, he, heq⟩ := hold key e' he'
    rw [← heq]
    exact h.filed key e he

theorem close (h : c.Reaches keys) (id : Nat) : (c.close id).Reaches keys := by
  refine h.shrink (Ledger.size_close _ _) ?_ (fun key e he _ => ⟨e, he, rfl⟩)
    (fun key e he => ⟨e, he, rfl⟩)
  intro j hj
  rw [StatementCache.close, Ledger.isReady_close, Bool.and_eq_true] at hj
  exact hj.1

theorem get (h : c.Reaches keys) (key : StatementKey) (now : Nat) :
    (c.get key now).2.Reaches keys := by
  obtain ⟨-, heq⟩ | ⟨e, he, ⟨-, hledger, hentries⟩ | ⟨-, heq⟩⟩ := c.get_cases key now
  · rw [heq]
    exact h
  · have hready (j : Nat) : (c.get key now).2.ledger.isReady j = true ↔
        c.ledger.isReady j = true ∧ e.id ≠ j := by
      rw [hledger, Ledger.isReady_close]
      simp
    -- The entry that is dropped is that of the statement that is closed.
    refine h.shrink (by rw [hledger, Ledger.size_close]) (fun j hj => (hready j |>.mp hj).1) ?_ ?_
    · intro j d hd hdready
      have hne : ¬ j = key := by
        rintro rfl
        obtain rfl := Option.some.inj (he.symm.trans hd)
        exact (hready _ |>.mp hdready).2 rfl
      exact ⟨d, by rw [hentries, Keyed.get?_erase, if_neg hne, hd], rfl⟩
    · intro j d hd
      rw [hentries, Keyed.get?_erase] at hd
      split at hd
      · cases hd
      · exact ⟨d, hd, rfl⟩
  · rw [heq]
    refine h.shrink rfl (fun _ hj => hj) ?_ ?_
    · intro j d hd _
      by_cases hkey : key = j
      · subst hkey
        obtain rfl := Option.some.inj (he.symm.trans hd)
        exact ⟨{ e with lastUsed := now }, by simp, rfl⟩
      · exact ⟨d, by simp [hkey, hd], rfl⟩
    · intro j d hd
      rw [Keyed.get?_insert] at hd
      split at hd
      · next hkey =>
        cases hd
        exact ⟨e, hkey ▸ he, rfl⟩
      · exact ⟨d, hd, rfl⟩

theorem evictIdle (h : c.Reaches keys) (now : Nat) : (c.evictIdle now).2.Reaches keys := by
  let idle := c.entries.filter fun _ e => c.isIdle e.lastUsed now
  have hready (j : Nat) : (c.evictIdle now).2.ledger.isReady j = true ↔
      c.ledger.isReady j = true ∧ ∀ e ∈ idle.values, e.id ≠ j := isReady_closeEach _ _
  have hentries {key : StatementKey} {e : CachedStatement} :
      (c.evictIdle now).2.entries.get? key = some e ↔
        c.entries.get? key = some e ∧ (!c.isIdle e.lastUsed now) = true :=
    Keyed.get?_filter_eq_some_iff
  refine h.shrink (size_closeEach _) (fun j hj => (hready j |>.mp hj).1) ?_
    (fun key e he => ⟨e, (hentries.mp he).1, rfl⟩)
  intro key e he heready
  refine ⟨e, hentries.mpr ⟨he, ?_⟩, rfl⟩
  by_contra hidle
  have hmem : (key, e) ∈ idle.entries :=
    List.mem_filter.mpr ⟨Keyed.get?_eq_some_iff.mp he, by simpa using hidle⟩
  exact (hready _ |>.mp heready).2 e (List.mem_map.mpr ⟨(key, e), hmem, rfl⟩) rfl

/-- Once everything is closed, nothing is ready. -/
theorem isReady_closeAll (h : c.Reaches keys) (id : Nat) :
    c.closeAll.2.ledger.isReady id = false := by
  have hready : c.closeAll.2.ledger.isReady id = true ↔
      c.ledger.isReady id = true ∧ ∀ e ∈ c.entries.values, e.id ≠ id := isReady_closeEach _ _
  rw [Bool.eq_false_iff, Ne, hready]
  rintro ⟨hid, hall⟩
  obtain ⟨key, e, -, he, rfl⟩ := h.reached id hid
  exact hall e (List.mem_map.mpr ⟨(key, e), Keyed.get?_eq_some_iff.mp he, rfl⟩) rfl

theorem closeAll (h : c.Reaches keys) : c.closeAll.2.Reaches keys where
  size_eq := (size_closeEach _).trans h.size_eq
  reached id hid := by
    rw [h.isReady_closeAll id] at hid
    cases hid
  filed key e he := by
    have hempty : c.closeAll.2.entries = .empty := rfl
    rw [hempty, Keyed.get?_empty] at he
    cases he

theorem put (h : c.Reaches keys) (key : StatementKey) (s : Statement) (now : Nat) :
    (c.put key s now).2.Reaches (keys ++ [key]) := by
  have hold {id : Nat} {j : StatementKey} (hid : keys[id]? = some j) :
      (keys ++ [key])[id]? = some j := by
    rw [List.getElem?_append_left (List.getElem?_eq_some_iff.mp hid).1, hid]
  have hlive : (keys ++ [key])[(c.put key s now).1]? = some key := by
    obtain ⟨e, he, -, hlive, -⟩ | ⟨-, hlive, -⟩ := c.put_cases key s now
    · rw [hlive]
      exact hold (h.filed key e he)
    · rw [hlive, h.size_eq, List.getElem?_concat_length]
  refine ⟨by rw [size_put, h.size_eq, List.length_append, List.length_singleton], ?_, ?_⟩
  · intro id hid
    obtain rfl | ⟨hid, hother⟩ := c.isReady_put key s now id |>.mp hid
    · exact ⟨key, _, hlive, by rw [get?_put, if_pos rfl], rfl⟩
    · obtain ⟨j, e, hj, he, heq⟩ := h.reached id hid
      have hne : ¬ key = j := by
        rintro rfl
        exact hother e he heq
      exact ⟨j, e, hold hj, by rw [get?_put, if_neg hne, he], heq⟩
  · intro j e he
    rw [get?_put] at he
    split at he
    · next hj =>
      cases he
      exact hj ▸ hlive
    · exact hold (h.filed j e he)

theorem step (h : c.Reaches keys) (x : CacheUse) :
    (c.step x).Reaches (keys ++ x.putKey?.toList) := by
  cases x with
  | put key s now => exact h.put key s now
  | get key now => simpa [StatementCache.step, CacheUse.putKey?] using h.get key now
  | evictIdle now => simpa [StatementCache.step, CacheUse.putKey?] using h.evictIdle now
  | closeAll => simpa [StatementCache.step, CacheUse.putKey?] using h.closeAll
  | close id => simpa [StatementCache.step, CacheUse.putKey?] using h.close id

end Reaches

/-- The invariant holds after any uses, by induction on them. -/
theorem reaches_used (idleTimeout : Duration) (xs : List CacheUse) :
    (used idleTimeout xs).Reaches (putKeys xs) := by
  induction xs using List.reverseRecOn with
  | nil => exact ⟨rfl, fun id hid => by simp [used, Ledger.isReady, Ledger.standing?] at hid,
      fun key e he => by simp [used] at he⟩
  | append_singleton xs x ih =>
    rw [used_concat, putKeys_concat]
    exact ih.step x

/-- After any uses of a new cache: every statement ever put in that is still ready is the one cached
under its key, so a key has at most one ready statement. What an insertion gives is ready, cached
under the key asked for, and was put in under it; what a look-up gives is ready, and cached under the
key; and once everything is closed nothing is cached and no statement ever put in is ready. -/
theorem ready_statements_cached (idleTimeout : Duration) (xs : List CacheUse) :
    let c := used idleTimeout xs
    c.ledger.size = (putKeys xs).length ∧
    (∀ id, c.ledger.isReady id = true →
      ∃ key e, (putKeys xs)[id]? = some key ∧ c.entries.get? key = some e ∧ e.id = id) ∧
    (∀ i j key, (putKeys xs)[i]? = some key → (putKeys xs)[j]? = some key →
      c.ledger.isReady i = true → c.ledger.isReady j = true → i = j) ∧
    (∀ key s now, (c.put key s now).2.ledger.isReady (c.put key s now).1 = true ∧
      (c.put key s now).2.entries.get? key = some ⟨(c.put key s now).1, now⟩ ∧
      (putKeys (xs ++ [.put key s now]))[(c.put key s now).1]? = some key) ∧
    (∀ key now id, (c.get key now).1 = some id →
      (c.get key now).2.ledger.isReady id = true ∧
        (c.get key now).2.entries.get? key = some ⟨id, now⟩) ∧
    (∀ id, c.closeAll.2.ledger.isReady id = false) ∧ c.closeAll.2.entries = .empty := by
  have h := reaches_used idleTimeout xs
  refine ⟨h.size_eq, h.reached, ?_, ?_, ?_, h.isReady_closeAll, rfl⟩
  · intro i j key hi hj hiready hjready
    obtain ⟨key₁, e₁, hkey₁, he₁, rfl⟩ := h.reached i hiready
    obtain ⟨key₂, e₂, hkey₂, he₂, rfl⟩ := h.reached j hjready
    obtain rfl := Option.some.inj (hi.symm.trans hkey₁)
    obtain rfl := Option.some.inj (hj.symm.trans hkey₂)
    rw [Option.some.inj (he₁.symm.trans he₂)]
  · intro key s now
    have hcached := (used idleTimeout xs).get?_put key key s now
    rw [if_pos rfl] at hcached
    refine ⟨(isReady_put _ _ _ _ _).mpr (.inl rfl), hcached, ?_⟩
    rw [putKeys_concat]
    exact (h.put key s now).filed key _ hcached
  · intro key now id hid
    obtain ⟨-, heq⟩ | ⟨e, -, ⟨hnone, -⟩ | ⟨hready, heq⟩⟩ := (used idleTimeout xs).get_cases key now
    · rw [heq] at hid
      cases hid
    · rw [hnone] at hid
      cases hid
    · rw [heq] at hid ⊢
      obtain rfl := Option.some.inj hid
      exact ⟨hready, by simp⟩

end StatementCache

end Ingest
