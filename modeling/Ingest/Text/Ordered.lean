/-!
Sets of texts as lists in strictly increasing order of code points, so that equal sets are equal
lists. The lemmas say what is in such a list and that it is in order.
-/

namespace Ingest.Text

/-- Puts a text where it belongs, unless it is there. -/
def insertOrdered (s : String) : List String → List String
  | [] => [s]
  | t :: ts => if s < t then s :: t :: ts else if s = t then t :: ts else t :: insertOrdered s ts

/-- The distinct texts of a list, in order. -/
def ordered (xs : List String) : List String := xs.foldr insertOrdered []

theorem mem_insertOrdered {s u : String} {ts : List String} :
    u ∈ insertOrdered s ts ↔ u = s ∨ u ∈ ts := by
  induction ts with
  | nil => simp [insertOrdered]
  | cons t ts ih =>
    simp only [insertOrdered]
    split
    · simp
    · split
      · next h => simp [h]
      · simp only [List.mem_cons, ih]
        exact ⟨fun h => by rcases h with h | h | h <;> simp [h],
          fun h => by rcases h with h | h | h <;> simp [h]⟩

theorem pairwise_insertOrdered {s : String} {ts : List String} (h : ts.Pairwise (· < ·)) :
    (insertOrdered s ts).Pairwise (· < ·) := by
  induction ts with
  | nil => simp [insertOrdered]
  | cons t ts ih =>
    rw [List.pairwise_cons] at h
    simp only [insertOrdered]
    split
    · next hlt =>
      refine List.pairwise_cons.2 ⟨fun u hu => ?_, List.pairwise_cons.2 h⟩
      rcases List.mem_cons.1 hu with rfl | hu
      · exact hlt
      · exact String.lt_trans hlt (h.1 u hu)
    · split
      · exact List.pairwise_cons.2 h
      · next hlt hne =>
        refine List.pairwise_cons.2 ⟨fun u hu => ?_, ih h.2⟩
        rcases mem_insertOrdered.1 hu with rfl | hu
        · exact Decidable.byContradiction fun hgt =>
            hne (String.le_antisymm (String.not_lt.1 hgt) (String.not_lt.1 hlt))
        · exact h.1 u hu

@[simp] theorem mem_ordered {u : String} {xs : List String} : u ∈ ordered xs ↔ u ∈ xs := by
  induction xs with
  | nil => simp [ordered]
  | cons x xs ih =>
    have h : ordered (x :: xs) = insertOrdered x (ordered xs) := rfl
    rw [h, mem_insertOrdered, ih, List.mem_cons]

theorem pairwise_ordered (xs : List String) : (ordered xs).Pairwise (· < ·) := by
  induction xs with
  | nil => simp [ordered]
  | cons x xs ih => exact pairwise_insertOrdered ih

end Ingest.Text
