import Ingest.Proofs.RowContents

/-!
The rows of an insert, cut apart again. The cutter goes through the text after VALUES by single
characters: a row begins with a parenthesis and ends with the first closing one that is not in
quotes. Main statement: whatever stands inside their texts, rows are cut apart as they were put
together, so the text of a batch tells its rows.
-/

namespace Ingest.Sql

/-- Where the cutter stands: between rows, in a row, in a text of the row, or after a backslash. -/
inductive Cutting where
  | between
  | row
  | text
  | escaped
  deriving DecidableEq, Repr

namespace Cutting

/-- Takes in a character of a row. -/
def next : Cutting → Char → Cutting
  | row, c => if c = '\'' then text else if c = ')' then between else row
  | text, c => if c = '\\' then escaped else if c = '\'' then row else text
  | escaped, _ => text
  | between, c => if c = '(' then row else between

/-- Cuts a text into rows, of which the first is begun; between rows are commas and blanks only. -/
def rows : Cutting → List Char → List Char → Option (List String)
  | between, _, [] => some []
  | _, _, [] => none
  | between, _, c :: cs =>
    if c = '(' ∨ c = ',' ∨ c = ' ' then rows (between.next c) [c] cs else none
  | m, begun, c :: cs =>
    if m.next c = between then (rows between [] cs).map (String.ofList (begun ++ [c]) :: ·)
    else rows (m.next c) (begun ++ [c]) cs

/-- Whether the cutter is in a row before and after a text. -/
def Inside (xs : List Char) : Prop :=
  ∀ begun rest, rows row begun (xs ++ rest) = rows row (begun ++ xs) rest

theorem inside_nil : Inside [] := by
  intro begun rest
  simp

theorem Inside.append {xs ys : List Char} (hx : Inside xs) (hy : Inside ys) :
    Inside (xs ++ ys) := by
  intro begun rest
  rw [List.append_assoc, hx, hy, List.append_assoc]

/-- A text without quotes and closing parentheses. -/
def isPlain (xs : List Char) : Bool := xs.all fun c => c != '\'' && c != ')'

theorem inside_plain : ∀ {xs : List Char}, isPlain xs = true → Inside xs
  | [], _ => inside_nil
  | c :: xs, h => by
    intro begun rest
    obtain ⟨⟨hquote, hparen⟩, hxs⟩ : (c ≠ '\'' ∧ c ≠ ')') ∧ isPlain xs = true := by
      simpa [isPlain] using h
    have ih := inside_plain hxs (begun ++ [c]) rest
    simp [rows, next, hquote, hparen, ih]

/-- Every character of a text belongs to the row, whatever it is outside the text. -/
theorem rows_escape (s begun rest : List Char) :
    rows text begun (escape '\'' s ++ '\'' :: rest)
      = rows row (begun ++ (escape '\'' s ++ ['\''])) rest := by
  induction s generalizing begun with
  | nil => simp [escape, rows, next]
  | cons c s ih =>
    by_cases h : c = '\'' ∨ c = '\\'
    · simp [escape, h, rows, next, ih]
    · have hslash : c ≠ '\\' := fun hc => h (.inr hc)
      have hquote : c ≠ '\'' := fun hc => h (.inl hc)
      simp [escape, hslash, hquote, rows, next, ih]

theorem inside_quoteText (s : String) : Inside (quoteText s).toList := by
  intro begun rest
  rw [quoteText, toList_quoteWith]
  simp [rows, next, rows_escape]

theorem inside_intercalate {sep : List Char} (hsep : Inside sep) :
    ∀ {tss : List (List Char)}, (∀ ts ∈ tss, Inside ts) → Inside (sep.intercalate tss)
  | [], _ => by simpa using inside_nil
  | [ts], h => by simpa using h ts List.mem_cons_self
  | ts :: us :: tss, h => by
    have ih := inside_intercalate hsep (fun vs hvs => h vs (List.mem_cons_of_mem ts hvs))
    rw [List.intercalate_cons_cons]
    exact ((h ts List.mem_cons_self).append hsep).append ih

theorem inside_commaSeparated {α : Type} {text : α → String} (h : ∀ x, Inside (text x).toList)
    (xs : List α) : Inside (commaSeparated (xs.map text)).toList := by
  rw [toList_commaSeparated]
  apply inside_intercalate (inside_plain rfl)
  intro ts hts
  obtain ⟨x, -, rfl⟩ := List.mem_map.mp hts
  exact h x

theorem inside_scalar (x : Scalar) : Inside x.render.toList := by
  cases x with
  | nat n =>
    apply inside_plain
    rw [isPlain, List.all_eq_true]
    intro c hc
    have hdigit := Text.isDigit_of_mem_repr hc
    have hquote : c ≠ '\'' := by rintro rfl; exact absurd hdigit (by decide)
    have hparen : c ≠ ')' := by rintro rfl; exact absurd hdigit (by decide)
    simp [hquote, hparen]
  | bool b => cases b <;> exact inside_plain rfl
  | text s => exact inside_quoteText s

theorem inside_entry (e : String × Scalar) : Inside (Value.renderEntry e).toList := by
  rw [Value.renderEntry, String.toList_append, String.toList_append]
  exact ((inside_quoteText e.1).append (inside_plain rfl)).append (inside_scalar e.2)

theorem inside_value (v : Value) : Inside v.render.toList := by
  cases v with
  | scalar x => exact inside_scalar x
  | list xs =>
    rw [Value.render, String.toList_append, String.toList_append]
    exact ((inside_plain rfl).append (inside_commaSeparated inside_scalar xs)).append
      (inside_plain rfl)
  | map es =>
    rw [Value.render, String.toList_append, String.toList_append]
    exact ((inside_plain rfl).append (inside_commaSeparated inside_entry es)).append
      (inside_plain rfl)

/-- A tuple is cut off whole. -/
theorem rows_renderTuple (vs : List Value) (begun rest : List Char) :
    rows between begun ((renderTuple vs).toList ++ rest)
      = (rows between [] rest).map (renderTuple vs :: ·) := by
  have hinside := inside_commaSeparated inside_value vs
  have htext : (renderTuple vs).toList
      = '(' :: ((commaSeparated (vs.map Value.render)).toList ++ [')']) := by
    simp [renderTuple]
  have hwhole : String.ofList ('(' :: ((commaSeparated (vs.map Value.render)).toList ++ [')']))
      = renderTuple vs := by
    rw [← htext, String.ofList_toList]
  rw [htext, List.cons_append, List.append_assoc]
  simp [rows, next, hinside ['('], hwhole]

theorem rows_separator (begun rest : List Char) :
    rows between begun (',' :: ' ' :: rest) = rows between [' '] rest := by
  simp [rows, next]

theorem rows_commaSeparated (begun : List Char) : ∀ vss : List (List Value),
    rows between begun (commaSeparated (vss.map renderTuple)).toList = some (vss.map renderTuple)
  | [] => rfl
  | [vs] => by
    have h := rows_renderTuple vs begun []
    simpa [commaSeparated, rows] using h
  | vs :: ws :: vss => by
    have ih := rows_commaSeparated [' '] (ws :: vss)
    rw [toList_commaSeparated] at ih ⊢
    simp only [List.map_cons, List.intercalate_cons_cons, List.append_assoc] at ih ⊢
    rw [rows_renderTuple, List.cons_append, List.cons_append, List.nil_append, rows_separator, ih]
    rfl

end Cutting

/-- The rows of the text after VALUES, if it is made of whole rows. -/
def splitRows (text : String) : Option (List Row) := Cutting.rows .between [] text.toList

/-- Rows are cut apart as they were put together. -/
theorem splitRows_renderTuple (vss : List (List Value)) :
    splitRows (commaSeparated (vss.map renderTuple)) = some (vss.map renderTuple) :=
  Cutting.rows_commaSeparated [] vss

/-- A parenthesis or a comma in a text cuts nothing. -/
example : splitRows "('a), (b', 1), ('\\'', 2)" = some ["('a), (b', 1)", "('\\'', 2)"] := by decide

end Ingest.Sql

namespace Ingest

open Sql

/-- The rows of records, one record after the other. -/
def encodeAll (rs : List TableRecord) : List Row := rs.flatMap TableRecord.rows

theorem TableRecord.exists_rows_eq (r : TableRecord) :
    ∃ vss : List (List Value), r.rows = vss.map renderTuple := by
  cases r with
  | sent e => exact ⟨e.tuples, rfl⟩
  | propagation p => exact ⟨[p.values], rfl⟩
  | client c => exact ⟨[c.values], rfl⟩

theorem exists_encodeAll_eq : ∀ rs : List TableRecord,
    ∃ vss : List (List Value), encodeAll rs = vss.map renderTuple
  | [] => ⟨[], rfl⟩
  | r :: rs => by
    obtain ⟨vss, hvss⟩ := r.exists_rows_eq
    obtain ⟨wss, hwss⟩ := exists_encodeAll_eq rs
    refine ⟨vss ++ wss, ?_⟩
    rw [List.map_append, ← hvss, ← hwss]
    rfl

/-- The text of a batch tells its rows. -/
theorem splitRows_encodeAll (rs : List TableRecord) :
    splitRows (commaSeparated (encodeAll rs)) = some (encodeAll rs) := by
  obtain ⟨vss, hvss⟩ := exists_encodeAll_eq rs
  rw [hvss, splitRows_renderTuple]

end Ingest
