/-!
Finite maps kept as lists of entries in the order in which their keys first came. Everything the
service remembers per tenant, per statement or per endpoint is such a map, and the proof field says
that a key stands in one place only. The small lemmas say what each operation does to a look-up.

Who visits a map may meet its entries in any order; `arrange` puts them into the order in which they
are met. It loses and adds nothing, and every order can be had.
-/

namespace Ingest

/-- Where a sum of numbers starts: the same in modules that know of algebra and in those that do not. -/
scoped instance zeroNat : Zero Nat := ⟨0⟩

/-- A finite map: entries in order of first arrival, each key once. -/
structure Keyed (κ ν : Type) where
  entries : List (κ × ν)
  nodup : (entries.map Prod.fst).Nodup

namespace Keyed

variable {κ ν : Type}

@[ext] theorem ext {m m' : Keyed κ ν} (h : m.entries = m'.entries) : m = m' := by
  cases m; cases m'; cases h; rfl

def empty : Keyed κ ν := ⟨[], List.nodup_nil⟩

instance : Inhabited (Keyed κ ν) := ⟨empty⟩

def keys (m : Keyed κ ν) : List κ := m.entries.map Prod.fst

def values (m : Keyed κ ν) : List ν := m.entries.map Prod.snd

def size (m : Keyed κ ν) : Nat := m.entries.length

/-- The entries that satisfy `p`, in their order. -/
def filter (p : κ → ν → Bool) (m : Keyed κ ν) : Keyed κ ν :=
  ⟨m.entries.filter fun e => p e.1 e.2, m.nodup.sublist ((List.filter_sublist).map _)⟩

/-- Every value replaced by a function of its key and itself. -/
def mapValues (f : κ → ν → ν) (m : Keyed κ ν) : Keyed κ ν :=
  ⟨m.entries.map fun e => (e.1, f e.1 e.2), by simpa [Function.comp_def] using m.nodup⟩

variable [DecidableEq κ]

/-- The value first listed under a key. -/
def lookup (k : κ) : List (κ × ν) → Option ν
  | [] => none
  | e :: rest => if e.1 = k then some e.2 else lookup k rest

/-- Writes in place where the key stands, or at the end. -/
def put (k : κ) (v : ν) : List (κ × ν) → List (κ × ν)
  | [] => [(k, v)]
  | e :: rest => if e.1 = k then (k, v) :: rest else e :: put k v rest

theorem keys_put (k : κ) (v : ν) (es : List (κ × ν)) :
    (put k v es).map Prod.fst
      = if k ∈ es.map Prod.fst then es.map Prod.fst else es.map Prod.fst ++ [k] := by
  induction es with
  | nil => simp [put]
  | cons e rest ih =>
    rcases e with ⟨j, w⟩
    by_cases h : j = k
    · simp [put, h]
    · have h' : ¬ k = j := fun hkj => h hkj.symm
      simp only [put, h, if_false, List.map_cons, ih, List.mem_cons, h', false_or]
      split <;> simp

theorem nodup_put {k : κ} {v : ν} {es : List (κ × ν)} (h : (es.map Prod.fst).Nodup) :
    ((put k v es).map Prod.fst).Nodup := by
  rw [keys_put]
  split
  · exact h
  · next hk =>
    rw [List.nodup_append]
    refine ⟨h, by simp, ?_⟩
    intro a ha b hb
    simp only [List.mem_singleton] at hb
    rintro rfl
    exact hk (hb ▸ ha)

def get? (m : Keyed κ ν) (k : κ) : Option ν := lookup k m.entries

def getD (m : Keyed κ ν) (k : κ) (d : ν) : ν := (m.get? k).getD d

def contains (m : Keyed κ ν) (k : κ) : Bool := (m.get? k).isSome

/-- Sets the value of a key; a new key goes to the end. -/
def insert (m : Keyed κ ν) (k : κ) (v : ν) : Keyed κ ν := ⟨put k v m.entries, nodup_put m.nodup⟩

/-- Sets the value of a key from its present value. -/
def alter (m : Keyed κ ν) (k : κ) (f : Option ν → ν) : Keyed κ ν := m.insert k (f (m.get? k))

def erase (m : Keyed κ ν) (k : κ) : Keyed κ ν := m.filter fun j _ => decide (j ≠ k)

/-- The entries of the listed keys first, in the order of the list, and then the others. -/
def bring : List κ → List (κ × ν) → List (κ × ν)
  | [], es => es
  | k :: ks, es =>
    es.filter (fun e => decide (e.1 = k)) ++ bring ks (es.filter fun e => !decide (e.1 = k))

theorem bring_perm : ∀ (order : List κ) (es : List (κ × ν)), (bring order es).Perm es
  | [], _ => .refl _
  | _ :: ks, es => ((bring_perm ks _).append_left _).trans (List.filter_append_perm _ es)

/-- The same entries, those of the listed keys first, in the order of the list. -/
def arrange (order : List κ) (m : Keyed κ ν) : Keyed κ ν :=
  ⟨bring order m.entries, ((bring_perm order m.entries).map Prod.fst).nodup_iff.mpr m.nodup⟩

/-- The map of a list of pairs; of two pairs with one key the later wins. -/
def ofList (es : List (κ × ν)) : Keyed κ ν := es.foldl (fun m e => m.insert e.1 e.2) empty

theorem lookup_put (k j : κ) (v : ν) (es : List (κ × ν)) :
    lookup j (put k v es) = if k = j then some v else lookup j es := by
  induction es with
  | nil => simp [put, lookup]
  | cons e rest ih =>
    rcases e with ⟨i, w⟩
    by_cases h : i = k
    · subst h
      by_cases hj : i = j <;> simp [put, lookup, hj]
    · by_cases hj : i = j
      · subst hj
        have hk : ¬ k = i := fun hk => h hk.symm
        simp [put, lookup, h, hk]
      · simp [put, lookup, h, hj, ih]

theorem put_put (k : κ) (v w : ν) (es : List (κ × ν)) : put k v (put k w es) = put k v es := by
  induction es with
  | nil => simp [put]
  | cons e rest ih =>
    by_cases h : e.1 = k <;> simp [put, h, ih]

@[simp] theorem get?_empty (k : κ) : (empty : Keyed κ ν).get? k = none := rfl

@[simp] theorem get?_insert (m : Keyed κ ν) (k j : κ) (v : ν) :
    (m.insert k v).get? j = if k = j then some v else m.get? j :=
  lookup_put k j v m.entries

/-- What alters a value twice alters it once. -/
theorem alter_alter (m : Keyed κ ν) (k : κ) (f g : Option ν → ν) :
    (m.alter k f).alter k g = m.alter k fun old => g (some (f old)) := by
  refine ext ?_
  rw [alter, alter, alter, get?_insert, if_pos rfl]
  exact put_put k _ _ m.entries

theorem lookup_filter (p : κ → Bool) (k : κ) (es : List (κ × ν)) :
    lookup k (es.filter fun e => p e.1) = if p k then lookup k es else none := by
  induction es with
  | nil => simp [lookup]
  | cons e rest ih =>
    rcases e with ⟨i, w⟩
    by_cases hp : p i
    · by_cases h : i = k
      · subst h; simp [hp, lookup]
      · simp [hp, lookup, h, ih]
    · by_cases h : i = k
      · subst h; simp [hp, ih]
      · simp [hp, lookup, h, ih]

@[simp] theorem get?_erase (m : Keyed κ ν) (k j : κ) :
    (m.erase k).get? j = if j = k then none else m.get? j := by
  have h := lookup_filter (fun i => decide (i ≠ k)) j m.entries
  simp only [get?, erase, filter]
  rw [h]
  by_cases hj : j = k <;> simp [hj]

theorem lookup_eq_some_iff {k : κ} {v : ν} :
    ∀ {es : List (κ × ν)}, (es.map Prod.fst).Nodup → (lookup k es = some v ↔ (k, v) ∈ es)
  | [], _ => by simp [lookup]
  | (j, w) :: rest, h => by
    obtain ⟨hj, hrest⟩ := List.nodup_cons.mp h
    by_cases hk : j = k
    · subst hk
      have hnone : (j, v) ∉ rest := fun hmem =>
        hj (List.mem_map.mpr ⟨(j, v), hmem, rfl⟩)
      simp [lookup, hnone, eq_comm]
    · have hk' : ¬ k = j := fun h => hk h.symm
      simp [lookup, hk, hk', lookup_eq_some_iff hrest]

theorem get?_eq_some_iff {m : Keyed κ ν} {k : κ} {v : ν} :
    m.get? k = some v ↔ (k, v) ∈ m.entries :=
  lookup_eq_some_iff m.nodup

theorem contains_iff {m : Keyed κ ν} {k : κ} : m.contains k = true ↔ k ∈ m.keys := by
  rw [contains, Option.isSome_iff_exists, keys, List.mem_map]
  constructor
  · rintro ⟨v, hv⟩
    exact ⟨(k, v), get?_eq_some_iff.mp hv, rfl⟩
  · rintro ⟨⟨j, v⟩, hmem, rfl⟩
    exact ⟨v, get?_eq_some_iff.mpr hmem⟩

theorem contains_eq_false_iff {m : Keyed κ ν} {k : κ} : m.contains k = false ↔ k ∉ m.keys := by
  rw [← Bool.not_eq_true, contains_iff]

theorem keys_insert (m : Keyed κ ν) (k : κ) (v : ν) :
    (m.insert k v).keys = if k ∈ m.keys then m.keys else m.keys ++ [k] :=
  keys_put k v m.entries

/-- The entries are the keys with what is looked up under them. -/
theorem entries_eq_map (m : Keyed κ ν) (d : ν) :
    m.entries = m.keys.map fun k => (k, m.getD k d) := by
  rw [keys, List.map_map]
  have hself : ∀ e ∈ m.entries, (e.1, m.getD e.1 d) = e := by
    intro e he
    rw [getD, get?_eq_some_iff.mpr he, Option.getD_some]
  exact (List.map_id m.entries).symm.trans (List.map_congr_left fun e he => (hself e he).symm)

theorem filter_eq_of_lookup {k : κ} : ∀ {es : List (κ × ν)}, (es.map Prod.fst).Nodup →
    (es.filter fun e => decide (e.1 = k)) = (lookup k es).toList.map fun v => (k, v)
  | [], _ => rfl
  | (j, w) :: rest, h => by
    obtain ⟨hj, hrest⟩ := List.nodup_cons.mp h
    by_cases hk : j = k
    · subst hk
      have hnone : (rest.filter fun e => decide (e.1 = j)) = [] := by
        rw [List.filter_eq_nil_iff]
        intro e he heq
        exact hj (List.mem_map.mpr ⟨e, he, of_decide_eq_true heq⟩)
      simp [lookup, hnone]
    · simp [lookup, hk, filter_eq_of_lookup hrest]

/-- There is at most one entry under a key. -/
theorem filter_entries (m : Keyed κ ν) (k : κ) :
    (m.entries.filter fun e => decide (e.1 = k)) = (m.get? k).toList.map fun v => (k, v) :=
  filter_eq_of_lookup m.nodup

theorem filter_put (p : κ → Bool) (k : κ) (v : ν) (es : List (κ × ν)) :
    (put k v es).filter (fun e => p e.1)
      = if p k then put k v (es.filter fun e => p e.1) else es.filter fun e => p e.1 := by
  induction es with
  | nil => cases hp : p k <;> simp [put, hp]
  | cons e rest ih =>
    rcases e with ⟨j, w⟩
    by_cases h : j = k
    · subst h
      cases hp : p j <;> simp [put, hp]
    · cases hj : p j <;> cases hp : p k <;> simp [put, h, hj, hp] at ih ⊢ <;> exact ih

theorem get?_filter_eq_some_iff {m : Keyed κ ν} {p : κ → ν → Bool} {k : κ} {v : ν} :
    (m.filter p).get? k = some v ↔ m.get? k = some v ∧ p k v = true := by
  rw [get?_eq_some_iff, get?_eq_some_iff]
  exact List.mem_filter

theorem lookup_mapValues (f : κ → ν → ν) (k : κ) (es : List (κ × ν)) :
    lookup k (es.map fun e => (e.1, f e.1 e.2)) = (lookup k es).map (f k) := by
  induction es with
  | nil => rfl
  | cons e rest ih =>
    by_cases h : e.1 = k
    · simp [lookup, h]
    · simp [lookup, h, ih]

theorem sum_put (g : κ × ν → Nat) (k : κ) (v : ν) (es : List (κ × ν)) :
    ((put k v es).map g).sum + ((lookup k es).map fun w => g (k, w)).getD 0
      = (es.map g).sum + g (k, v) := by
  induction es with
  | nil => simp [put, lookup]
  | cons e rest ih =>
    rcases e with ⟨j, w⟩
    by_cases h : j = k
    · subst h
      simp [put, lookup]
      omega
    · simp only [put, lookup, h, if_false, List.map_cons, List.sum_cons]
      omega

/-- A sum over the entries grows by as much as the altered entry does. -/
theorem sum_alter (g : κ × ν → Nat) (m : Keyed κ ν) (k : κ) (f : Option ν → ν) {d : Nat}
    (h : g (k, f (m.get? k)) = ((m.get? k).map fun w => g (k, w)).getD 0 + d) :
    ((m.alter k f).entries.map g).sum = (m.entries.map g).sum + d := by
  have hput := sum_put g k (f (m.get? k)) m.entries
  have hold : lookup k m.entries = m.get? k := rfl
  rw [hold] at hput
  have hnew : (m.alter k f).entries = put k (f (m.get? k)) m.entries := rfl
  rw [hnew]
  omega

@[simp] theorem get?_mapValues (f : κ → ν → ν) (m : Keyed κ ν) (k : κ) :
    (m.mapValues f).get? k = (m.get? k).map (f k) :=
  lookup_mapValues f k m.entries

/-! ### The order of the entries -/

theorem entries_arrange_perm (order : List κ) (m : Keyed κ ν) :
    (m.arrange order).entries.Perm m.entries :=
  bring_perm order m.entries

theorem keys_arrange_perm (order : List κ) (m : Keyed κ ν) : (m.arrange order).keys.Perm m.keys :=
  (m.entries_arrange_perm order).map _

@[simp] theorem get?_arrange (order : List κ) (m : Keyed κ ν) (k : κ) :
    (m.arrange order).get? k = m.get? k := by
  refine Option.ext fun v => ?_
  rw [get?_eq_some_iff, get?_eq_some_iff]
  exact (m.entries_arrange_perm order).mem_iff

/-- What is left of an arrangement is arranged by what is left of the list. -/
theorem filter_bring (p : κ → Bool) : ∀ (order : List κ) (es : List (κ × ν)),
    (bring order es).filter (fun e => p e.1) = bring (order.filter p) (es.filter fun e => p e.1)
  | [], _ => rfl
  | k :: ks, es => by
    rw [bring, List.filter_append, filter_bring p ks]
    cases hk : p k with
    | true =>
      rw [List.filter_cons_of_pos hk, bring]
      simp only [List.filter_filter, Bool.and_comm]
    | false =>
      have hfirst : (es.filter fun e => decide (e.1 = k)).filter (fun e => p e.1) = [] := by
        simp only [List.filter_filter, List.filter_eq_nil_iff]
        rintro e - h
        simp only [Bool.and_eq_true, decide_eq_true_eq] at h
        rw [h.2, hk] at h
        exact Bool.false_ne_true h.1
      have hrest : (es.filter fun e => !decide (e.1 = k)).filter (fun e => p e.1)
          = es.filter fun e => p e.1 := by
        rw [List.filter_filter]
        refine List.filter_congr fun e _ => ?_
        cases he : p e.1 with
        | false => rfl
        | true =>
          have hne : e.1 ≠ k := fun h => Bool.false_ne_true (hk.symm.trans (h ▸ he))
          simp [hne]
      rw [List.filter_cons_of_neg (by simp [hk]), hfirst, hrest, List.nil_append]

theorem filter_arrange (p : κ → Bool) (order : List κ) (m : Keyed κ ν) :
    (m.arrange order).filter (fun k _ => p k)
      = (m.filter fun k _ => p k).arrange (order.filter p) :=
  ext (filter_bring p order m.entries)

theorem map_bring {μ : Type} (f : κ → ν → μ) : ∀ (order : List κ) (es : List (κ × ν)),
    (bring order es).map (fun e => (e.1, f e.1 e.2)) = bring order (es.map fun e => (e.1, f e.1 e.2))
  | [], _ => rfl
  | k :: ks, es => by
    rw [bring, bring, List.map_append, map_bring f ks, List.filter_map, List.filter_map]
    rfl

theorem arrange_mapValues (f : κ → ν → ν) (order : List κ) (m : Keyed κ ν) :
    (m.mapValues f).arrange order = (m.arrange order).mapValues f :=
  ext (map_bring f order m.entries).symm

/-- Entries in any order are those of an arrangement. -/
theorem bring_of_perm : ∀ {es' es : List (κ × ν)}, (es.map Prod.fst).Nodup → es'.Perm es →
    bring (es'.map Prod.fst) es = es'
  | [], _, _, h => h.symm.eq_nil
  | e :: rest, es, hnodup, h => by
    have hmem : e ∈ es := h.mem_iff.mp List.mem_cons_self
    have hfirst : (es.filter fun d => decide (d.1 = e.1)) = [e] := by
      rw [filter_eq_of_lookup hnodup, (lookup_eq_some_iff hnodup).mpr hmem]
      rfl
    have hnodup' : ((e :: rest).map Prod.fst).Nodup := (h.map Prod.fst).nodup_iff.mpr hnodup
    have hother : ∀ d ∈ rest, (!decide (d.1 = e.1)) = true := by
      intro d hd
      simp only [Bool.not_eq_true', decide_eq_false_iff_not]
      exact fun heq => (List.nodup_cons.mp hnodup').1 (List.mem_map.mpr ⟨d, hd, heq⟩)
    have hrest : rest.Perm (es.filter fun d => !decide (d.1 = e.1)) := by
      have hperm := h.filter fun d => !decide (d.1 = e.1)
      rwa [List.filter_cons_of_neg (by simp), List.filter_eq_self.mpr hother] at hperm
    rw [List.map_cons, bring, hfirst, bring_of_perm (hnodup.sublist
      (List.filter_sublist.map _)) hrest]
    rfl

theorem arrange_of_perm {m : Keyed κ ν} {es : List (κ × ν)} (h : es.Perm m.entries) :
    (m.arrange (es.map Prod.fst)).entries = es :=
  bring_of_perm m.nodup h

end Keyed

end Ingest
