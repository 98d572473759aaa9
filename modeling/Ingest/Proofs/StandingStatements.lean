import Ingest.Proofs.CacheHistories

/-!
What a cache knows of the statements that stand. Main statement: after any uses in which statements
are put in only where a look-up has found none, each statement that stands is cached and ready with
the time of its last use, unless it has been idle at some time; and nothing else is ready.
-/

namespace Ingest.StatementCache

variable {xs : List CacheUse} {key : StatementKey} {id : Nat} {c : StatementCache}
  {idleTimeout : Duration} {now : Nat}

/-- A look-up finds what is cached, ready and not idle. -/
theorem get_eq_some_iff : (c.get key now).1 = some id ↔
    ∃ e, c.entries.get? key = some e ∧ e.id = id ∧ c.ledger.isReady id = true ∧
      now - e.lastUsed ≤ c.idleTimeout.nanos := by
  cases h : c.entries.get? key with
  | none => simp [get, h]
  | some e =>
    cases hready : c.ledger.isReady e.id <;>
      by_cases hidle : c.idleTimeout.nanos < now - e.lastUsed <;>
        simp [get, h, isStale, isIdle, hready, hidle] <;> grind

/-- Two keys have no entries of one statement. -/
theorem Reaches.key_eq {keys : List StatementKey} (h : c.Reaches keys) {j : StatementKey}
    {d e : CachedStatement} (hd : c.entries.get? j = some d) (he : c.entries.get? key = some e)
    (hid : d.id = e.id) : j = key := by
  have hj := h.filed j d hd
  rw [hid, h.filed key e he] at hj
  exact (Option.some.inj hj).symm

/-! ### What every use keeps -/

/-- What a cache knows after uses: when its entries were last used, that a ready one is the statement
that stands, and that a statement that stands is there unless it has been idle at some time. -/
structure Tracks (idleTimeout : Duration) (xs : List CacheUse) (c : StatementCache) : Prop where
  used_eq : used idleTimeout xs = c
  idleTimeout_eq : c.idleTimeout = idleTimeout
  entry : ∀ key e, c.entries.get? key = some e →
    lastUsed? (noted idleTimeout xs) key = some e.lastUsed ∧
      (c.ledger.isReady e.id = true → Stands xs key e.id)
  kept : ∀ key id last, Stands xs key id → lastUsed? (noted idleTimeout xs) key = some last →
    (c.ledger.isReady id = true ∧ c.entries.get? key = some ⟨id, last⟩) ∨
      ∃ t ∈ useTimes xs, idleTimeout.nanos < t - last
  unmet : ∀ key, missed (noted idleTimeout xs) key = true → c.entries.get? key = none

theorem idleTimeout_step (c : StatementCache) (x : CacheUse) :
    (c.step x).idleTimeout = c.idleTimeout := by
  cases x with
  | get key now =>
    simp only [step, get]
    split
    · rfl
    · split <;> rfl
  | _ => rfl

namespace Tracks

variable {x : CacheUse}

/-- At a time that is not before any use, just what stands and was used lately is found. -/
theorem get_eq_some_iff (h : Tracks idleTimeout xs c) (hnow : ∀ t ∈ useTimes xs, t ≤ now) :
    (c.get key now).1 = some id ↔ Stands xs key id ∧
      ∃ last, lastUsed? (noted idleTimeout xs) key = some last ∧
        now - last ≤ idleTimeout.nanos := by
  rw [StatementCache.get_eq_some_iff, h.idleTimeout_eq]
  constructor
  · rintro ⟨e, he, rfl, hready, hlate⟩
    obtain ⟨hlast, hstands⟩ := h.entry key e he
    exact ⟨hstands hready, e.lastUsed, hlast, hlate⟩
  · rintro ⟨hstands, last, hlast, hlate⟩
    obtain ⟨hready, he⟩ | ⟨t, ht, hidle⟩ := h.kept key id last hstands hlast
    · exact ⟨⟨id, last⟩, he, rfl, hready, hlate⟩
    -- What was idle once is idle at every later time.
    · have hle := hnow t ht
      omega

theorem reaches (h : Tracks idleTimeout xs c) : c.Reaches (putKeys xs) := by
  rw [← h.used_eq]
  exact reaches_used idleTimeout xs

theorem used_step (h : Tracks idleTimeout xs c) (x : CacheUse) :
    used idleTimeout (xs ++ [x]) = c.step x := by
  rw [used_concat, h.used_eq]

theorem noted_step (h : Tracks idleTimeout xs c) (x : CacheUse) :
    noted idleTimeout (xs ++ [x]) = noted idleTimeout xs ++ c.note x := by
  rw [noted_concat, h.used_eq]

/-- A use that gives nothing leaves open when a key was last used. -/
theorem lastUsed?_step (h : Tracks idleTimeout xs c) (hgiven : c.given? x = none)
    (key : StatementKey) :
    lastUsed? (noted idleTimeout (xs ++ [x])) key = lastUsed? (noted idleTimeout xs) key := by
  rw [h.noted_step, note]
  split
  · rw [List.append_nil]
  · have hnone : (⟨x, c.given? x⟩ : NotedUse).usedAt? key = none := by
      simp [NotedUse.usedAt?, hgiven]
    rw [lastUsed?_concat, hnone, Option.none_or]

/-- It is enough that nothing is given, that nothing becomes ready or cached, and that what stands is
dropped only when it is idle. -/
theorem shrink (h : Tracks idleTimeout xs c) (hput : x.putKey? = none) (hgiven : c.given? x = none)
    (hready : ∀ id, (c.step x).ledger.isReady id = true →
      c.ledger.isReady id = true ∧ x ≠ .closeAll ∧ x ≠ .close id)
    (hold : ∀ key e, (c.step x).entries.get? key = some e → c.entries.get? key = some e)
    (hkept : ∀ key e, c.entries.get? key = some e → c.ledger.isReady e.id = true →
      x ≠ .closeAll → x ≠ .close e.id →
        ((c.step x).ledger.isReady e.id = true ∧ (c.step x).entries.get? key = some e) ∨
          ∃ t, x.time? = some t ∧ idleTimeout.nanos < t - e.lastUsed)
    (hunmet : ∀ key now, x = .get key now → (c.step x).entries.get? key = none) :
    Tracks idleTimeout (xs ++ [x]) (c.step x) where
  used_eq := h.used_step x
  idleTimeout_eq := (c.idleTimeout_step x).trans h.idleTimeout_eq
  entry key e he := by
    obtain ⟨hlast, hstands⟩ := h.entry key e (hold key e he)
    refine ⟨(h.lastUsed?_step hgiven key).trans hlast, fun hid => ?_⟩
    obtain ⟨hid, hall, hone⟩ := hready e.id hid
    exact stands_concat.mpr (.inr ⟨hstands hid, by simp [hput], hall, hone⟩)
  kept key id last hstands hlast := by
    rw [h.lastUsed?_step hgiven] at hlast
    rw [useTimes_concat]
    obtain ⟨s, now, rfl, -⟩ | ⟨hstands, -, hall, hone⟩ := stands_concat.mp hstands
    · cases hput
    · obtain ⟨hid, he⟩ | ⟨t, ht, hidle⟩ := h.kept key id last hstands hlast
      · obtain hthere | ⟨t, ht, hidle⟩ := hkept key ⟨id, last⟩ he hid hall hone
        · exact .inl hthere
        · exact .inr ⟨t, by simp [ht], hidle⟩
      · exact .inr ⟨t, List.mem_append_left _ ht, hidle⟩
  unmet key hmissed := by
    have hnone (hmissed : missed (noted idleTimeout xs) key = true) :
        (c.step x).entries.get? key = none := by
      cases he : (c.step x).entries.get? key with
      | none => rfl
      | some e =>
        have hthere := hold key e he
        rw [h.unmet key hmissed] at hthere
        cases hthere
    rw [h.noted_step, note] at hmissed
    split at hmissed
    · exact hnone (by simpa using hmissed)
    · rw [missed_concat] at hmissed
      split at hmissed
      · next hkey =>
        cases x with
        | get j now =>
          obtain rfl := Option.some.inj hkey
          exact hunmet j now rfl
        | put => cases hput
        | _ => cases hkey
      · exact hnone hmissed

theorem close (h : Tracks idleTimeout xs c) (id : Nat) :
    Tracks idleTimeout (xs ++ [.close id]) (c.step (.close id)) := by
  have hready (j : Nat) : (c.step (.close id)).ledger.isReady j = true ↔
      c.ledger.isReady j = true ∧ id ≠ j := by
    simp [step, StatementCache.close, Ledger.isReady_close]
  refine h.shrink rfl rfl (fun j hj => ?_) (fun _ _ he => he) (fun key e he hid _ hone => ?_)
    (fun _ _ hx => by cases hx)
  · obtain ⟨hj, hne⟩ := (hready j).mp hj
    exact ⟨hj, by simp, fun heq => hne (by cases heq; rfl)⟩
  · exact .inl ⟨(hready e.id).mpr ⟨hid, fun heq => hone (heq ▸ rfl)⟩, he⟩

theorem closeAll (h : Tracks idleTimeout xs c) :
    Tracks idleTimeout (xs ++ [.closeAll]) (c.step .closeAll) := by
  have hempty : (c.step .closeAll).entries = .empty := rfl
  refine h.shrink rfl rfl (fun j hj => ?_) (fun key e he => ?_) (fun _ _ _ _ hall _ => absurd rfl hall)
    (fun _ _ hx => nomatch hx)
  · have hnone : (c.step .closeAll).ledger.isReady j = false := h.reaches.isReady_closeAll j
    rw [hnone] at hj
    cases hj
  · rw [hempty, Keyed.get?_empty] at he
    cases he

theorem evictIdle (h : Tracks idleTimeout xs c) (now : Nat) :
    Tracks idleTimeout (xs ++ [.evictIdle now]) (c.step (.evictIdle now)) := by
  let idle := c.entries.filter fun _ e => c.isIdle e.lastUsed now
  have hready (j : Nat) : (c.step (.evictIdle now)).ledger.isReady j = true ↔
      c.ledger.isReady j = true ∧ ∀ e ∈ idle.values, e.id ≠ j := isReady_closeEach _ _
  have hentries {key : StatementKey} {e : CachedStatement} :
      (c.step (.evictIdle now)).entries.get? key = some e ↔
        c.entries.get? key = some e ∧ (!c.isIdle e.lastUsed now) = true :=
    Keyed.get?_filter_eq_some_iff
  refine h.shrink rfl rfl (fun j hj => ⟨((hready j).mp hj).1, nofun, nofun⟩)
    (fun key e he => (hentries.mp he).1) (fun key e he hid _ _ => ?_) (fun _ _ hx => nomatch hx)
  by_cases hidle : idleTimeout.nanos < now - e.lastUsed
  · exact .inr ⟨now, rfl, hidle⟩
  · have hlate : c.isIdle e.lastUsed now = false := by
      simpa [isIdle, h.idleTimeout_eq] using hidle
    refine .inl ⟨(hready e.id).mpr ⟨hid, fun d hd heq => ?_⟩, hentries.mpr ⟨he, by simp [hlate]⟩⟩
    obtain ⟨⟨j, d⟩, hmem, rfl⟩ := List.mem_map.mp hd
    obtain ⟨hj, hdidle⟩ := List.mem_filter.mp hmem
    obtain rfl := h.reaches.key_eq (Keyed.get?_eq_some_iff.mpr hj) he heq
    rw [Keyed.get?_eq_some_iff.mpr hj] at he
    obtain rfl := Option.some.inj he
    simp [hlate] at hdidle

/-- A look-up that finds nothing drops at most an entry that is closed or idle. -/
theorem get_of_miss (h : Tracks idleTimeout xs c) (hmiss : (c.get key now).1 = none) :
    Tracks idleTimeout (xs ++ [.get key now]) (c.step (.get key now)) := by
  obtain ⟨hnone, heq⟩ | ⟨e, he, ⟨-, hledger, hentries⟩ | ⟨-, heq⟩⟩ := c.get_cases key now
  · have hsame : c.step (.get key now) = c := congrArg Prod.snd heq
    refine h.shrink rfl hmiss ?_ ?_ ?_ ?_ <;> rw [hsame]
    · exact fun j hj => ⟨hj, nofun, nofun⟩
    · exact fun _ _ hd => hd
    · exact fun j d hd hready _ _ => .inl ⟨hready, hd⟩
    · rintro j t ⟨⟩
      exact hnone
  · have hready (j : Nat) : (c.step (.get key now)).ledger.isReady j = true ↔
        c.ledger.isReady j = true ∧ e.id ≠ j := by
      rw [step, hledger, Ledger.isReady_close]
      simp
    have hcached (j : StatementKey) : (c.step (.get key now)).entries.get? j
        = if j = key then none else c.entries.get? j := by
      rw [step, hentries, Keyed.get?_erase]
    refine h.shrink rfl hmiss (fun j hj => ⟨((hready j).mp hj).1, nofun, nofun⟩) ?_ ?_ ?_
    · intro j d hd
      rw [hcached] at hd
      split at hd
      · cases hd
      · exact hd
    · intro j d hd hdready _ _
      by_cases hj : j = key
      · subst hj
        refine .inr ⟨now, rfl, ?_⟩
        by_contra hlate
        have hfound : (c.get j now).1 = some d.id := StatementCache.get_eq_some_iff.mpr
          ⟨d, hd, rfl, hdready, by rw [h.idleTimeout_eq]; omega⟩
        rw [hmiss] at hfound
        cases hfound
      · refine .inl ⟨(hready d.id).mpr ⟨hdready, fun heq => hj ?_⟩, by rw [hcached, if_neg hj, hd]⟩
        exact h.reaches.key_eq hd he heq.symm
    · rintro j t ⟨⟩
      rw [hcached, if_pos rfl]
  · rw [heq] at hmiss
    cases hmiss

/-- It is enough that a use gives the statement that stands under its key from then on, that this
statement is ready and cached with the time of the use, and that all others are as before. -/
theorem renew (h : Tracks idleTimeout xs c) (hkey : x.key? = some key) (htime : x.time? = some now)
    (hgiven : c.given? x = some id)
    (hready : ∀ i, (c.step x).ledger.isReady i = true ↔ i = id ∨ c.ledger.isReady i = true)
    (hcached : ∀ j, (c.step x).entries.get? j
      = if key = j then some ⟨id, now⟩ else c.entries.get? j)
    (hstands : ∀ j i, Stands (xs ++ [x]) j i ↔ if key = j then id = i else Stands xs j i) :
    Tracks idleTimeout (xs ++ [x]) (c.step x) := by
  have hnoted : noted idleTimeout (xs ++ [x]) = noted idleTimeout xs ++ [⟨x, some id⟩] := by
    have hsweep : x.isSweep = false := by cases x <;> first | rfl | cases hkey
    rw [h.noted_step, note, hsweep, if_neg Bool.false_ne_true, hgiven]
  have hlast (j : StatementKey) : lastUsed? (noted idleTimeout (xs ++ [x])) j
      = if key = j then some now else lastUsed? (noted idleTimeout xs) j := by
    rw [hnoted, lastUsed?_concat]
    by_cases hj : key = j <;> simp [NotedUse.usedAt?, hkey, htime, hj]
  have hreaches : (c.step x).Reaches (putKeys (xs ++ [x])) := by
    rw [← h.used_step]
    exact reaches_used idleTimeout _
  refine ⟨h.used_step x, (c.idleTimeout_step x).trans h.idleTimeout_eq, ?_, ?_, ?_⟩
  · intro j e he
    rw [hlast, hstands]
    have hthere := he
    rw [hcached] at he
    split at he
    · next hj =>
      cases he
      exact ⟨if_pos hj, fun _ => by rw [if_pos hj]⟩
    · next hj =>
      rw [if_neg hj, if_neg hj]
      refine ⟨(h.entry j e he).1, fun hid => ?_⟩
      obtain heq | hold := (hready e.id).mp hid
      · exact absurd (hreaches.key_eq (by rw [hcached, if_pos rfl]) hthere heq.symm) hj
      · exact (h.entry j e he).2 hold
  · intro j i last hlive hlastj
    rw [hstands] at hlive
    rw [hlast] at hlastj
    rw [hcached, hready]
    split at hlive
    · next hj =>
      rw [if_pos hj] at hlastj
      rw [if_pos hj, ← Option.some.inj hlastj, hlive]
      exact .inl ⟨.inl rfl, rfl⟩
    · next hj =>
      rw [if_neg hj] at hlastj
      rw [if_neg hj]
      obtain ⟨hi, he⟩ | ⟨t, ht, hidle⟩ := h.kept j i last hlive hlastj
      · exact .inl ⟨.inr hi, he⟩
      · exact .inr ⟨t, by rw [useTimes_concat]; exact List.mem_append_left _ ht, hidle⟩
  · intro j hmissed
    rw [hnoted, missed_concat] at hmissed
    split at hmissed
    · cases x <;> cases hmissed
    · next hj =>
      have hne : ¬ key = j := fun heq => hj (hkey.trans (congrArg some heq))
      rw [hcached, if_neg hne]
      exact h.unmet j hmissed

/-- A look-up that finds a statement notes when. -/
theorem get_of_found (h : Tracks idleTimeout xs c) (hfound : (c.get key now).1 = some id) :
    Tracks idleTimeout (xs ++ [.get key now]) (c.step (.get key now)) := by
  obtain ⟨-, heq⟩ | ⟨e, he, ⟨hmiss, -⟩ | ⟨hready, heq⟩⟩ := c.get_cases key now
  · rw [heq] at hfound
    cases hfound
  · rw [hmiss] at hfound
    cases hfound
  · obtain rfl : e.id = id := by simpa [heq] using hfound
    have hstands := (h.entry key e he).2 hready
    have hstep : c.step (.get key now)
        = { c with entries := c.entries.insert key { e with lastUsed := now } } :=
      congrArg Prod.snd heq
    refine h.renew rfl rfl hfound (fun i => ?_) (fun j => ?_) (fun j i => ?_)
    · rw [hstep]
      exact ⟨.inr, by rintro (rfl | hi) <;> assumption⟩
    · rw [hstep, Keyed.get?_insert]
    · have hlive : Stands (xs ++ [.get key now]) j i ↔ Stands xs j i := by
        rw [stands_concat]
        simp [CacheUse.putKey?]
      rw [hlive]
      split
      · next hj => exact ⟨fun hi => (hj ▸ hstands).unique hi, fun hi => hj ▸ hi ▸ hstands⟩
      · rfl

/-- A statement that is put in where a look-up found nothing is ready from then on. -/
theorem put (h : Tracks idleTimeout xs c) (hmissed : missed (noted idleTimeout xs) key = true)
    (s : Statement) (now : Nat) :
    Tracks idleTimeout (xs ++ [.put key s now]) (c.step (.put key s now)) ∧
      (c.put key s now).1 = (putKeys xs).length := by
  have hnone := h.unmet key hmissed
  obtain ⟨e, he, -⟩ | ⟨-, hlive, hledger⟩ := c.put_cases key s now
  · rw [hnone] at he
    cases he
  · have hsize := h.reaches.size_eq
    refine ⟨h.renew rfl rfl (congrArg some hlive) (fun i => ?_) (fun j => ?_) (fun j i => ?_),
      hlive.trans hsize⟩
    · rw [step, hledger, Ledger.isReady_enter]
      by_cases hi : i = c.ledger.size <;> simp [hi]
    · rw [step, get?_put, hlive]
    · rw [stands_concat, hsize]
      by_cases hj : key = j <;> simp [CacheUse.putKey?, hj]

theorem step (h : Tracks idleTimeout xs c)
    (hput : ∀ key, x.putKey? = some key → missed (noted idleTimeout xs) key = true) :
    Tracks idleTimeout (xs ++ [x]) (c.step x) := by
  cases x with
  | put key s now => exact (h.put (hput key rfl) s now).1
  | get key now =>
    cases hgiven : (c.get key now).1 with
    | none => exact h.get_of_miss hgiven
    | some id => exact h.get_of_found hgiven
  | evictIdle now => exact h.evictIdle now
  | closeAll => exact h.closeAll
  | close id => exact h.close id

end Tracks

/-- The cache knows what stands after any uses, by induction on them. -/
theorem tracks_used (h : Prompted (noted idleTimeout xs)) :
    Tracks idleTimeout xs (used idleTimeout xs) := by
  induction xs using List.reverseRecOn with
  | nil =>
    refine ⟨rfl, rfl, fun key e he => ?_, fun key id last hstands => ?_, fun key _ => rfl⟩
    · cases he
    · obtain ⟨us, s, now, ws, heq, -⟩ := hstands
      simp at heq
  | append_singleton xs x ih =>
    obtain ⟨hprompted, hput⟩ := prompted_noted_concat.mp h
    rw [used_concat]
    exact (ih hprompted).step hput

end Ingest.StatementCache
