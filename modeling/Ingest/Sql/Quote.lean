/-!
Quoted text in SQL. Inside a pair of marks (single quotes around text, backquotes around a name) the
mark and the backslash are written with a backslash in front of them, and every other character
stands for itself. The scanner beside the writer reads one quoted text back, so that each text has
one written form.
-/

namespace Ingest.Sql

/-- The body of a quoted text: a backslash before each mark and each backslash. -/
def escape (mark : Char) : List Char → List Char
  | [] => []
  | c :: rest =>
    if c = mark ∨ c = '\\' then '\\' :: c :: escape mark rest else c :: escape mark rest

/-- Reads a body up to its closing mark: the text, and what follows the mark. -/
def scanBody (mark : Char) : List Char → Option (List Char × List Char)
  | [] => none
  | '\\' :: c :: rest => (scanBody mark rest).map fun r => (c :: r.1, r.2)
  | c :: rest =>
    if c = mark then some ([], rest) else (scanBody mark rest).map fun r => (c :: r.1, r.2)

def quoteWith (mark : Char) (s : String) : String :=
  String.ofList (mark :: escape mark s.toList ++ [mark])

/-- A text literal. -/
def quoteText (s : String) : String := quoteWith '\'' s

/-- A name as an identifier. -/
def quoteName (s : String) : String := quoteWith '\x60' s

/-- A body without marks and backslashes stands for itself. -/
theorem escape_eq_self {mark : Char} {cs : List Char} (h : ∀ c ∈ cs, c ≠ mark ∧ c ≠ '\\') :
    escape mark cs = cs := by
  induction cs with
  | nil => rfl
  | cons c cs ih =>
    obtain ⟨hc, hcs⟩ := List.forall_mem_cons.mp h
    rw [escape, if_neg (by simp [hc]), ih hcs]

theorem scanBody_escape (mark : Char) (hm : mark ≠ '\\') (s rest : List Char) :
    scanBody mark (escape mark s ++ mark :: rest) = some (s, rest) := by
  induction s with
  | nil =>
    simp only [escape, List.nil_append]
    cases rest <;> simp [scanBody, hm]
  | cons c s ih =>
    by_cases h : c = mark ∨ c = '\\'
    · simp [escape, h, scanBody, ih]
    · have hc : c ≠ '\\' := fun hc => h (.inr hc)
      have hmk : c ≠ mark := fun hc => h (.inl hc)
      simp only [escape, h, if_false, List.cons_append]
      cases hrest : escape mark s ++ mark :: rest with
      | nil => simp at hrest
      | cons d ds =>
        rw [scanBody]
        · rw [← hrest, ih]; simp [hmk]
        · simp [hc]

end Ingest.Sql
