/-!
Label maps of records: text to text, each key once, sorted by key in the order of Unicode code
points. The order is part of the type, so two maps with the same entries are written alike.
-/

namespace Ingest

/-- A label map: entries in strictly increasing order of their keys. -/
structure Labels where
  entries : List (String × String)
  sorted : entries.Pairwise fun a b => a.1 < b.1

namespace Labels

def empty : Labels := ⟨[], List.Pairwise.nil⟩

instance : Inhabited Labels := ⟨empty⟩

/-- Puts an entry where its key belongs, in the place of an entry with the same key. -/
def put (k v : String) : List (String × String) → List (String × String)
  | [] => [(k, v)]
  | e :: rest =>
    if k < e.1 then (k, v) :: e :: rest
    else if k = e.1 then (k, v) :: rest
    else e :: put k v rest

theorem key_of_mem_put {k v : String} {es : List (String × String)} {e : String × String}
    (h : e ∈ put k v es) : e = (k, v) ∨ e ∈ es := by
  induction es with
  | nil => simpa [put] using h
  | cons d rest ih =>
    simp only [put] at h
    split at h
    · simpa using h
    · split at h
      · rcases List.mem_cons.1 h with h | h
        · exact .inl h
        · exact .inr (List.mem_cons_of_mem _ h)
      · rcases List.mem_cons.1 h with h | h
        · exact .inr (h ▸ List.mem_cons_self)
        · exact (ih h).imp id (List.mem_cons_of_mem _)

theorem sorted_put {k v : String} {es : List (String × String)}
    (h : es.Pairwise fun a b => a.1 < b.1) : (put k v es).Pairwise fun a b => a.1 < b.1 := by
  induction es with
  | nil => simp [put]
  | cons d rest ih =>
    rw [List.pairwise_cons] at h
    simp only [put]
    split
    · next hk =>
      refine List.pairwise_cons.2 ⟨fun e he => ?_, List.pairwise_cons.2 h⟩
      rcases List.mem_cons.1 he with rfl | he
      · exact hk
      · exact String.lt_trans hk (h.1 e he)
    · split
      · next hk =>
        refine List.pairwise_cons.2 ⟨fun e he => ?_, h.2⟩
        show k < e.1
        rw [hk]
        exact h.1 e he
      · next hlt hne =>
        refine List.pairwise_cons.2 ⟨fun e he => ?_, ih h.2⟩
        rcases key_of_mem_put he with rfl | he
        · exact Decidable.byContradiction fun hgt =>
            hne (String.le_antisymm (String.not_lt.1 hgt) (String.not_lt.1 hlt))
        · exact h.1 e he

def insert (m : Labels) (k v : String) : Labels := ⟨put k v m.entries, sorted_put m.sorted⟩

/-- The map of a list of pairs; of two pairs with one key the later wins. -/
def ofList (es : List (String × String)) : Labels := es.foldl (fun m e => m.insert e.1 e.2) empty

end Labels

end Ingest
