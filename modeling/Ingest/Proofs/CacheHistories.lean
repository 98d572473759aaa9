import Mathlib.Data.List.Basic
import Mathlib.Data.List.Induction
import Ingest.Proofs.Histories
import Ingest.Proofs.LiveStatements

/-!
Histories of a statement cache: the uses of it and what they gave. Under each key a statement stands
that was put in last, until something closes it. Main statements: what a further use makes of what
stands and of when it was last used; and sweeps have no part in either.
-/

namespace Ingest

/-! ### Uses and what they give -/

namespace CacheUse

def time? : CacheUse → Option Nat
  | put _ _ now => some now
  | get _ now => some now
  | evictIdle now => some now
  | _ => none

/-- The key that is looked up or put in under. -/
def key? : CacheUse → Option StatementKey
  | put key _ _ => some key
  | get key _ => some key
  | _ => none

def isSweep : CacheUse → Bool
  | evictIdle _ => true
  | _ => false

end CacheUse

/-- The times of uses that have one. -/
def useTimes (xs : List CacheUse) : List Nat := xs.filterMap CacheUse.time?

def Chronological (xs : List CacheUse) : Prop := (useTimes xs).Pairwise (· ≤ ·)

instance (xs : List CacheUse) : Decidable (Chronological xs) :=
  inferInstanceAs (Decidable (List.Pairwise _ _))

/-- The uses that are no sweeps. -/
def unswept (xs : List CacheUse) : List CacheUse := xs.filter fun x => !x.isSweep

/-- A use, with the statement that a look-up found or that is ready after an insertion. -/
structure NotedUse where
  use : CacheUse
  given : Option Nat

namespace NotedUse

/-- Whether it is a look-up that found nothing. -/
def isMiss : NotedUse → Bool
  | ⟨.get _ _, none⟩ => true
  | _ => false

/-- When a statement was put in or found under a key, if one was. -/
def usedAt? (n : NotedUse) (key : StatementKey) : Option Nat :=
  if n.use.key? = some key ∧ n.given.isSome then n.use.time? else none

end NotedUse

/-- Whether the last look-up or insertion under a key was a look-up that found nothing. -/
def missed (ns : List NotedUse) (key : StatementKey) : Bool :=
  (ns.filter fun n => decide (n.use.key? = some key)).getLast?.any (·.isMiss)

/-- When a statement was last put in or found under a key. -/
def lastUsed? (ns : List NotedUse) (key : StatementKey) : Option Nat :=
  (ns.filterMap fun n => n.usedAt? key).getLast?

/-- Whether each insertion follows a look-up under its key that found nothing, with no look-up or
insertion under the key in between. -/
def Prompted (ns : List NotedUse) : Prop :=
  ∀ i < ns.length, ∀ key ∈ ns[i]?.bind fun n => n.use.putKey?, missed (ns.take i) key = true

instance (ns : List NotedUse) : Decidable (Prompted ns) :=
  inferInstanceAs (Decidable (∀ i < _, _))

/-- Whether a statement is the one last put in under a key, and nothing has closed it since. -/
def Stands (xs : List CacheUse) (key : StatementKey) (id : Nat) : Prop :=
  ∃ us s now ws, xs = us ++ .put key s now :: ws ∧ (putKeys us).length = id ∧
    ∀ x ∈ ws, x.putKey? ≠ some key ∧ x ≠ .closeAll ∧ x ≠ .close id

namespace StatementCache

/-- The statement that a use gives. -/
def given? (c : StatementCache) : CacheUse → Option Nat
  | .put key s now => some (c.put key s now).1
  | .get key now => (c.get key now).1
  | _ => none

/-- What a use comes to; sweeps are not noted. -/
def note (c : StatementCache) (x : CacheUse) : List NotedUse :=
  if x.isSweep then [] else [⟨x, c.given? x⟩]

def notes (c : StatementCache) : List CacheUse → List NotedUse
  | [] => []
  | x :: xs => c.note x ++ (c.step x).notes xs

/-- What uses of a new cache come to, but for sweeps. -/
def noted (idleTimeout : Duration) (xs : List CacheUse) : List NotedUse :=
  ({ idleTimeout } : StatementCache).notes xs

theorem notes_concat (c : StatementCache) (xs : List CacheUse) (x : CacheUse) :
    c.notes (xs ++ [x]) = c.notes xs ++ (xs.foldl step c).note x := by
  induction xs generalizing c with
  | nil => simp [notes]
  | cons y ys ih => simp [notes, ih]

theorem noted_concat (idleTimeout : Duration) (xs : List CacheUse) (x : CacheUse) :
    noted idleTimeout (xs ++ [x]) = noted idleTimeout xs ++ (used idleTimeout xs).note x :=
  notes_concat _ xs x

end StatementCache

/-! ### Histories that grow -/

variable {xs : List CacheUse} {ns : List NotedUse} {key : StatementKey} {id : Nat}

theorem useTimes_concat (xs : List CacheUse) (x : CacheUse) :
    useTimes (xs ++ [x]) = useTimes xs ++ x.time?.toList := by
  cases h : x.time? <;> simp [useTimes, h]

theorem missed_concat (ns : List NotedUse) (n : NotedUse) (key : StatementKey) :
    missed (ns ++ [n]) key = if n.use.key? = some key then n.isMiss else missed ns key := by
  by_cases h : n.use.key? = some key <;> simp [missed, h]

theorem lastUsed?_concat (ns : List NotedUse) (n : NotedUse) (key : StatementKey) :
    lastUsed? (ns ++ [n]) key = (n.usedAt? key).or (lastUsed? ns key) := by
  cases h : n.usedAt? key <;> simp [lastUsed?, h]

theorem prompted_concat {n : NotedUse} :
    Prompted (ns ++ [n]) ↔
      Prompted ns ∧ ∀ key, n.use.putKey? = some key → missed ns key = true := by
  constructor
  · intro h
    refine ⟨fun i hi key hkey => ?_, fun key hkey => ?_⟩
    · have hput := h i (by simp; omega) key (by rwa [List.getElem?_append_left hi])
      rwa [List.take_append_of_le_length (Nat.le_of_lt hi)] at hput
    · have hput := h ns.length (by simp) key (by simpa using hkey)
      rwa [List.take_left] at hput
  · rintro ⟨hns, hn⟩ i hi key hkey
    rcases Nat.lt_or_eq_of_le (Nat.le_of_lt_succ (by simpa using hi)) with hlt | rfl
    · rw [List.getElem?_append_left hlt] at hkey
      rw [List.take_append_of_le_length (Nat.le_of_lt hlt)]
      exact hns i hlt key hkey
    · rw [List.take_left]
      exact hn key (by simpa using hkey)

/-- The statement that stands is the one just put in, or stood before and was neither replaced nor
closed. -/
theorem stands_concat {x : CacheUse} :
    Stands (xs ++ [x]) key id ↔
      (∃ s now, x = .put key s now ∧ (putKeys xs).length = id) ∨
        Stands xs key id ∧ x.putKey? ≠ some key ∧ x ≠ .closeAll ∧ x ≠ .close id := by
  constructor
  · rintro ⟨us, s, now, ws, heq, hid, hws⟩
    obtain ⟨rfl, rfl, rfl⟩ | ⟨ws', rfl, rfl⟩ := concat_eq_append_cons heq
    · exact .inl ⟨s, now, rfl, hid⟩
    · obtain ⟨hws, hx⟩ := List.forall_mem_append.mp hws
      exact .inr ⟨⟨us, s, now, ws', rfl, hid, hws⟩, hx x (List.mem_singleton_self x)⟩
  · rintro (⟨s, now, rfl, hid⟩ | ⟨⟨us, s, now, ws, rfl, hid, hws⟩, hx⟩)
    · exact ⟨xs, s, now, [], rfl, hid, by simp⟩
    · refine ⟨us, s, now, ws ++ [x], by simp, hid, List.forall_mem_append.mpr ⟨hws, ?_⟩⟩
      intro y hy
      rwa [List.mem_singleton.mp hy]

/-- Only the last statement of a key can stand. -/
theorem Stands.unique {i j : Nat} (hi : Stands xs key i) (hj : Stands xs key j) : i = j := by
  induction xs using List.reverseRecOn with
  | nil =>
    obtain ⟨us, s, now, ws, heq, -⟩ := hi
    simp at heq
  | append_singleton xs x ih =>
    obtain ⟨s, now, rfl, rfl⟩ | ⟨hi, hput, -⟩ := stands_concat.mp hi
    · obtain ⟨s', now', -, rfl⟩ | ⟨-, hput, -⟩ := stands_concat.mp hj
      · rfl
      · exact absurd rfl hput
    · obtain ⟨s', now', rfl, -⟩ | ⟨hj, -⟩ := stands_concat.mp hj
      · exact absurd rfl hput
      · exact ih hi hj

theorem putKeys_unswept (xs : List CacheUse) : putKeys (unswept xs) = putKeys xs := by
  rw [putKeys, unswept, List.filterMap_filter]
  refine List.filterMap_congr fun x _ => ?_
  cases x <;> rfl

/-- Sweeps neither put in nor close what stands. -/
theorem stands_unswept : Stands (unswept xs) key id ↔ Stands xs key id := by
  induction xs using List.reverseRecOn with
  | nil => rfl
  | append_singleton xs x ih =>
    rw [unswept, List.filter_append, ← unswept, stands_concat]
    cases hx : x.isSweep with
    | true =>
      obtain ⟨now, rfl⟩ : ∃ now, x = .evictIdle now := by
        cases x <;> first | exact ⟨_, rfl⟩ | simp [CacheUse.isSweep] at hx
      simp [CacheUse.isSweep, CacheUse.putKey?, ih]
    | false =>
      rw [List.filter_singleton, hx, Bool.not_false, cond_true, stands_concat, ih, putKeys_unswept]

namespace StatementCache

variable {idleTimeout : Duration}

/-- A use that puts something in is noted. -/
theorem prompted_noted_concat {x : CacheUse} :
    Prompted (noted idleTimeout (xs ++ [x])) ↔ Prompted (noted idleTimeout xs) ∧
      ∀ key, x.putKey? = some key → missed (noted idleTimeout xs) key = true := by
  rw [noted_concat, note]
  split
  · next hx =>
    have hput : x.putKey? = none := by cases x <;> first | rfl | cases hx
    simp [hput]
  · exact prompted_concat

theorem prompted_of_append {ys : List CacheUse} (h : Prompted (noted idleTimeout (xs ++ ys))) :
    Prompted (noted idleTimeout xs) := by
  induction ys using List.reverseRecOn with
  | nil => rwa [List.append_nil] at h
  | append_singleton ys y ih =>
    rw [← List.append_assoc] at h
    exact ih (prompted_noted_concat.mp h).1

end StatementCache

theorem chronological_concat {x : CacheUse} : Chronological (xs ++ [x]) ↔
    Chronological xs ∧ ∀ now, x.time? = some now → ∀ t ∈ useTimes xs, t ≤ now := by
  rw [Chronological, useTimes_concat, List.pairwise_append]
  cases x.time? with
  | none => simp [Chronological]
  | some now => simp [Chronological]

theorem chronological_of_append {ys : List CacheUse} (h : Chronological (xs ++ ys)) :
    Chronological xs :=
  h.sublist ((List.sublist_append_left xs ys).filterMap _)

end Ingest
