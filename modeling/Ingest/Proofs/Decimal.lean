/-!
Unsigned numbers in decimal digits, read from the front of a text. A number ends where the digits
end, so it is read back from its text when no digit follows, with or without zeros in front.
-/

namespace Ingest.Text

/-- Reads an unsigned number in decimal digits. -/
def readNat (cs : List Char) : Option (Nat × List Char) :=
  if (cs.takeWhile Char.isDigit).isEmpty then none
  else some (Nat.ofDigitChars 10 (cs.takeWhile Char.isDigit) 0, cs.dropWhile Char.isDigit)

/-- What follows a value does not go on with it: it begins with no digit. -/
def Ends (rest : List Char) : Prop := ∀ c ∈ rest.head?, c.isDigit = false

theorem ends_nil : Ends [] := by
  intro c hc
  cases hc

theorem ends_cons {c : Char} {rest : List Char} (hc : c.isDigit = false) : Ends (c :: rest) := by
  intro d hd
  obtain rfl : c = d := by simpa using hd
  exact hc

/-- What passes a test is split off before what does not begin with it. -/
theorem span_append {α : Type} {p : α → Bool} {xs rest : List α} (hxs : ∀ x ∈ xs, p x = true)
    (hrest : ∀ x ∈ rest.head?, p x = false) :
    (xs ++ rest).takeWhile p = xs ∧ (xs ++ rest).dropWhile p = rest := by
  rw [List.takeWhile_append_of_pos hxs, List.dropWhile_append_of_pos hxs]
  cases rest with
  | nil => exact ⟨List.append_nil xs, rfl⟩
  | cons y ys => simp [hrest y rfl]

theorem readNat_digits {ds rest : List Char} (hne : ds ≠ []) (hds : ∀ c ∈ ds, c.isDigit = true)
    (hrest : Ends rest) : readNat (ds ++ rest) = some (Nat.ofDigitChars 10 ds 0, rest) := by
  obtain ⟨htake, hdrop⟩ := span_append hds hrest
  rw [readNat, htake, hdrop, if_neg (by simpa using hne)]

theorem isDigit_of_mem_repr {n : Nat} {c : Char} (hc : c ∈ n.repr.toList) : c.isDigit = true := by
  rw [Nat.toList_repr] at hc
  exact Nat.isDigit_of_mem_toDigits (by omega) (by omega) hc

theorem exists_repr_eq_cons (n : Nat) : ∃ d ds, n.repr.toList = d :: ds ∧ d.isDigit = true := by
  cases h : n.repr.toList with
  | nil => rw [Nat.toList_repr] at h; exact absurd h Nat.toDigits_ne_nil
  | cons d ds => exact ⟨d, ds, rfl, isDigit_of_mem_repr (h ▸ List.mem_cons_self)⟩

/-- A number is read back with any number of zeros in front of it. -/
theorem readNat_zeros_repr (k n : Nat) {rest : List Char} (hrest : Ends rest) :
    readNat (List.replicate k '0' ++ n.repr.toList ++ rest) = some (n, rest) := by
  have hdigits : ∀ c ∈ List.replicate k '0' ++ n.repr.toList, c.isDigit = true := by
    intro c hc
    rcases List.mem_append.mp hc with hc | hc
    · rw [List.eq_of_mem_replicate hc]; rfl
    · exact isDigit_of_mem_repr hc
  have hne : List.replicate k '0' ++ n.repr.toList ≠ [] := by
    obtain ⟨d, ds, hd, -⟩ := exists_repr_eq_cons n
    simp [hd]
  rw [readNat_digits hne hdigits hrest, Nat.ofDigitChars_append, Nat.ofDigitChars_replicate_zero,
    Nat.mul_zero, Nat.toList_repr, Nat.ofDigitChars_ten_toDigits]

theorem readNat_repr (n : Nat) {rest : List Char} (hrest : Ends rest) :
    readNat (n.repr.toList ++ rest) = some (n, rest) :=
  readNat_zeros_repr 0 n hrest

end Ingest.Text
