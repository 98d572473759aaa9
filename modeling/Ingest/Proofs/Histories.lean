import Mathlib.Data.List.Induction

/-!
Histories: lists that grow at their end. What holds at each place of a history that has grown holds
at its last place and at each place of the history before; and of what comes repeatedly, the first
occurrences grow at their end too.
-/

namespace Ingest

variable {α : Type}

/-- A place in a history that has grown by one is the new last one, or was there before. -/
theorem concat_eq_append_cons {xs us ws : List α} {x v : α} (h : xs ++ [x] = us ++ v :: ws) :
    (us = xs ∧ v = x ∧ ws = []) ∨ ∃ ws', ws = ws' ++ [x] ∧ xs = us ++ v :: ws' := by
  rcases List.eq_nil_or_concat ws with rfl | ⟨ws', w, rfl⟩
  · obtain ⟨rfl, hlast⟩ := List.append_inj' h rfl
    exact .inl ⟨rfl, (List.cons.inj hlast).1.symm, rfl⟩
  · have hsplit : us ++ v :: ws'.concat w = us ++ v :: ws' ++ [w] := by simp
    rw [hsplit] at h
    obtain ⟨rfl, hlast⟩ := List.append_inj' h rfl
    exact .inr ⟨ws', by simp [(List.cons.inj hlast).1], rfl⟩

variable [DecidableEq α]

theorem eraseDups_concat (xs : List α) (x : α) :
    (xs ++ [x]).eraseDups = if x ∈ xs then xs.eraseDups else xs.eraseDups ++ [x] := by
  rw [List.eraseDups_append]
  by_cases h : x ∈ xs <;> simp [List.removeAll, h, List.eraseDups_cons]

theorem nodup_eraseDups (xs : List α) : xs.eraseDups.Nodup := by
  induction xs using List.reverseRecOn with
  | nil => simp
  | append_singleton xs x ih =>
    rw [eraseDups_concat]
    split
    · exact ih
    · next hx =>
      rw [List.nodup_append]
      refine ⟨ih, by simp, ?_⟩
      rintro y hy z hz rfl
      exact hx (List.mem_singleton.mp hz ▸ List.mem_eraseDups.mp hy)

end Ingest
