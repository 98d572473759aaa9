import Ingest.Proofs.Decimal
import Ingest.Sql.Value

/-!
The grammar of the rows that are written, as a reader that knows nothing of records: unsigned
numbers, truth values, texts in single quotes with backslashes, lists in brackets, maps in braces,
and tuples of these in parentheses. The reader is told apart from the writer by working on single
characters, so quotes, commas and brackets inside a text are met as characters of that text. Main
statement: what the writer makes of any values is read back completely, as these values.
-/

namespace Ingest.Sql

open Text

/-- Reads a text after its opening quote. -/
def readText (cs : List Char) : Option (String × List Char) :=
  (scanBody '\'' cs).map fun r => (String.ofList r.1, r.2)

def readScalar : List Char → Option (Scalar × List Char)
  | '\'' :: cs => (readText cs).map fun r => (.text r.1, r.2)
  | 't' :: 'r' :: 'u' :: 'e' :: cs => some (.bool true, cs)
  | 'f' :: 'a' :: 'l' :: 's' :: 'e' :: cs => some (.bool false, cs)
  | cs => (readNat cs).map fun r => (.nat r.1, r.2)

/-- Reads an entry of a map: a text, a colon, a value. -/
def readEntry : List Char → Option ((String × Scalar) × List Char)
  | '\'' :: cs =>
    match readText cs with
    | some (key, ':' :: ' ' :: rest) => (readScalar rest).map fun r => ((key, r.1), r.2)
    | _ => none
  | _ => none

/-- Reads at most `fuel` items, at least one, with commas between them, up to a closing mark. -/
def readItems {α : Type} (item : List Char → Option (α × List Char)) (close : Char) :
    Nat → List Char → Option (List α × List Char)
  | 0, _ => none
  | fuel + 1, cs =>
    match item cs with
    | none => none
    | some (x, ',' :: ' ' :: rest) =>
      (readItems item close fuel rest).map fun r => (x :: r.1, r.2)
    | some (x, c :: rest) => if c = close then some ([x], rest) else none
    | some (_, []) => none

/-- Reads items up to a closing mark. Each takes a character, so there are no more than these. -/
def readSeq {α : Type} (item : List Char → Option (α × List Char)) (close : Char) :
    List Char → Option (List α × List Char)
  | [] => none
  | c :: cs => if c = close then some ([], cs) else readItems item close (c :: cs).length (c :: cs)

def readValue : List Char → Option (Value × List Char)
  | '[' :: cs => (readSeq readScalar ']' cs).map fun r => (.list r.1, r.2)
  | '\x7b' :: cs => (readSeq readEntry '\x7d' cs).map fun r => (.map r.1, r.2)
  | cs => (readScalar cs).map fun r => (.scalar r.1, r.2)

/-- Reads a row: one tuple, and nothing after it. -/
def readRow (row : String) : Option (List Value) :=
  match row.toList with
  | '(' :: cs =>
    match readSeq readValue ')' cs with
    | some (vs, []) => some vs
    | _ => none
  | _ => none

/-! ### Texts -/

theorem toList_quoteWith (mark : Char) (s : String) :
    (quoteWith mark s).toList = mark :: (escape mark s.toList ++ [mark]) := by
  simp [quoteWith]

theorem readText_escape (s : String) (rest : List Char) :
    readText (escape '\'' s.toList ++ '\'' :: rest) = some (s, rest) := by
  rw [readText, scanBody_escape '\'' (by decide)]
  simp

/-! ### Scalars and entries -/

theorem readScalar_render (x : Scalar) {rest : List Char} (hrest : Ends rest) :
    readScalar (x.render.toList ++ rest) = some (x, rest) := by
  cases x with
  | nat n =>
    obtain ⟨d, ds, hd, hdigit⟩ := exists_repr_eq_cons n
    have hread := readNat_repr n hrest
    rw [hd, List.cons_append] at hread
    rw [Scalar.render, hd, List.cons_append]
    unfold readScalar
    split
    · next h => simp only [List.cons.injEq] at h; simp [h.1] at hdigit
    · next h => simp only [List.cons.injEq] at h; simp [h.1] at hdigit
    · next h => simp only [List.cons.injEq] at h; simp [h.1] at hdigit
    · rw [hread]; rfl
  | bool b => cases b <;> simp [Scalar.render, readScalar]
  | text s =>
    rw [Scalar.render, quoteText, toList_quoteWith, List.cons_append, List.append_assoc]
    simp [readScalar, readText_escape]

theorem readEntry_render (e : String × Scalar) {rest : List Char} (hrest : Ends rest) :
    readEntry ((Value.renderEntry e).toList ++ rest) = some (e, rest) := by
  have htext : (Value.renderEntry e).toList ++ rest
      = '\'' :: (escape '\'' e.1.toList
        ++ '\'' :: (':' :: ' ' :: (e.2.render.toList ++ rest))) := by
    simp [Value.renderEntry, quoteText, toList_quoteWith]
  rw [htext, readEntry, readText_escape]
  simp [readScalar_render e.2 hrest]

/-! ### Sequences -/

section Sequences

variable {α : Type} {item : List Char → Option (α × List Char)} {text : α → List Char}
  {close : Char}

/-- A reader of items takes back what is written of one, whatever ends it. -/
def Inverts (item : List Char → Option (α × List Char)) (text : α → List Char) : Prop :=
  ∀ x rest, Ends rest → item (text x ++ rest) = some (x, rest)

/-- Whether the text of an item begins with a character other than `close`. -/
def HeadNe (close : Char) (cs : List Char) : Prop := ∃ c rest, cs = c :: rest ∧ c ≠ close

theorem readItems_intercalate (hitem : Inverts item text) (hcomma : close ≠ ',')
    (hdigit : close.isDigit = false) (rest : List Char) :
    ∀ (fuel : Nat) (xs : List α), xs ≠ [] → xs.length ≤ fuel →
      readItems item close fuel ([',', ' '].intercalate (xs.map text) ++ close :: rest)
        = some (xs, rest)
  | _, [], hne, _ => absurd rfl hne
  | 0, _ :: _, _, hfuel => by simp at hfuel
  | fuel + 1, [x], _, _ => by
    have hread := hitem x (close :: rest) (ends_cons hdigit)
    rw [List.map_singleton, List.intercalate_singleton, readItems, hread]
    split
    · next h => cases h
    · next h =>
      simp only [Option.some.injEq, Prod.mk.injEq, List.cons.injEq] at h
      exact absurd h.2.1 hcomma
    · next h =>
      simp only [Option.some.injEq, Prod.mk.injEq, List.cons.injEq] at h
      obtain ⟨rfl, rfl, rfl⟩ := h
      simp
    · next h => simp at h
  | fuel + 1, x :: y :: ys, _, hfuel => by
    have ih := readItems_intercalate hitem hcomma hdigit rest fuel (y :: ys) (by simp)
      (by simpa using hfuel)
    have hsplit : [',', ' '].intercalate ((x :: y :: ys).map text) ++ close :: rest
        = text x
          ++ (',' :: ' ' :: ([',', ' '].intercalate ((y :: ys).map text) ++ close :: rest)) := by
      simp [List.intercalate_cons_cons]
    rw [hsplit, readItems, hitem x _ (ends_cons (by decide))]
    simp only
    rw [ih]
    rfl

theorem length_le_intercalate : ∀ {tss : List (List Char)}, (∀ ts ∈ tss, HeadNe close ts) →
    tss.length ≤ ([',', ' '].intercalate tss).length
  | [], _ => by simp
  | [ts], h => by
    obtain ⟨c, cs, rfl, -⟩ := h ts (by simp)
    simp
  | ts :: us :: tss, h => by
    have ih := length_le_intercalate (fun vs hvs => h vs (List.mem_cons_of_mem ts hvs))
    rw [List.intercalate_cons_cons]
    simp only [List.length_cons, List.length_append] at ih ⊢
    omega

theorem readSeq_intercalate (hitem : Inverts item text) (hhead : ∀ x, HeadNe close (text x))
    (hcomma : close ≠ ',') (hdigit : close.isDigit = false) (xs : List α) (rest : List Char) :
    readSeq item close ([',', ' '].intercalate (xs.map text) ++ close :: rest)
      = some (xs, rest) := by
  cases xs with
  | nil => simp [readSeq]
  | cons x xs =>
    obtain ⟨c, cs, hc, hne⟩ : HeadNe close ([',', ' '].intercalate ((x :: xs).map text)) := by
      obtain ⟨c, cs, hc, hne⟩ := hhead x
      cases xs with
      | nil => exact ⟨c, cs, by simp [hc], hne⟩
      | cons y ys =>
        rw [List.map_cons, List.map_cons, List.intercalate_cons_cons, hc]
        exact ⟨c, _, rfl, hne⟩
    have hlen : (x :: xs).length ≤ ([',', ' '].intercalate ((x :: xs).map text)).length := by
      have hheads : ∀ ts ∈ (x :: xs).map text, HeadNe close ts := by
        intro ts hts
        obtain ⟨y, -, rfl⟩ := List.mem_map.mp hts
        exact hhead y
      have h := length_le_intercalate hheads
      rwa [List.length_map] at h
    have hread := readItems_intercalate hitem hcomma hdigit rest
      ([',', ' '].intercalate ((x :: xs).map text) ++ close :: rest).length (x :: xs) (by simp)
      (by rw [List.length_append]; omega)
    rw [hc] at hread ⊢
    rw [List.cons_append, readSeq, if_neg hne]
    exact hread

end Sequences

/-! ### Values and rows -/

theorem toList_commaSeparated {α : Type} (xs : List α) (text : α → String) :
    (commaSeparated (xs.map text)).toList
      = [',', ' '].intercalate (xs.map fun x => (text x).toList) := by
  rw [commaSeparated, String.toList_intercalate, List.map_map]
  rfl

/-- The first character of a scalar is a quote, a letter or a digit: no bracket of any kind. -/
theorem headNe_scalar (x : Scalar) {c : Char} (hc : c ∈ ['[', ']', '\x7b', '\x7d', ')']) :
    HeadNe c x.render.toList := by
  cases x with
  | nat n =>
    obtain ⟨d, ds, hd, hdigit⟩ := exists_repr_eq_cons n
    refine ⟨d, ds, hd, ?_⟩
    rintro rfl
    simp only [List.mem_cons, List.not_mem_nil, or_false] at hc
    rcases hc with rfl | rfl | rfl | rfl | rfl <;> exact absurd hdigit (by decide)
  | bool b =>
    cases b
    · exact ⟨'f', _, rfl, by rintro rfl; simp at hc⟩
    · exact ⟨'t', _, rfl, by rintro rfl; simp at hc⟩
  | text s => exact ⟨'\'', _, toList_quoteWith '\'' s, by rintro rfl; simp at hc⟩

theorem readValue_render (v : Value) {rest : List Char} (hrest : Ends rest) :
    readValue (v.render.toList ++ rest) = some (v, rest) := by
  cases v with
  | scalar x =>
    have hread := readScalar_render x hrest
    obtain ⟨c, cs, hc, hlist⟩ := headNe_scalar x (c := '[') (by simp)
    obtain ⟨d, ds, hd, hmap⟩ := headNe_scalar x (c := '\x7b') (by simp)
    obtain ⟨rfl, rfl⟩ : c = d ∧ cs = ds := by simpa [hc] using hd
    rw [Value.render, hc, List.cons_append, readValue]
    · rw [← List.cons_append, ← hc, hread]; rfl
    · intro _ h; exact hlist (List.cons.inj h).1
    · intro _ h; exact hmap (List.cons.inj h).1
  | list xs =>
    have htext : (Value.list xs).render.toList ++ rest
        = '[' :: ([',', ' '].intercalate (xs.map fun x => x.render.toList) ++ ']' :: rest) := by
      simp [Value.render, toList_commaSeparated]
    rw [htext, readValue, readSeq_intercalate (fun x _ h => readScalar_render x h)
      (fun x => headNe_scalar x (by simp)) (by decide) (by decide)]
    rfl
  | map es =>
    have htext : (Value.map es).render.toList ++ rest
        = '\x7b' :: ([',', ' '].intercalate (es.map fun e => (Value.renderEntry e).toList)
          ++ '\x7d' :: rest) := by
      simp [Value.render, toList_commaSeparated]
    have hhead : ∀ e, HeadNe '\x7d' (Value.renderEntry e).toList := fun e =>
      ⟨'\'', _, by simp [Value.renderEntry, quoteText, toList_quoteWith]; rfl, by decide⟩
    rw [htext, readValue, readSeq_intercalate (fun e _ h => readEntry_render e h) hhead (by decide)
      (by decide)]
    rfl

theorem headNe_value (v : Value) : HeadNe ')' v.render.toList := by
  cases v with
  | scalar x => exact headNe_scalar x (by simp)
  | list xs => exact ⟨'[', _, by simp [Value.render]; rfl, by decide⟩
  | map es => exact ⟨'\x7b', _, by simp [Value.render]; rfl, by decide⟩

/-- Reading takes back every row: the values of a tuple are told from its text alone. -/
theorem readRow_renderTuple (vs : List Value) : readRow (renderTuple vs) = some vs := by
  have htext : (renderTuple vs).toList
      = '(' :: ([',', ' '].intercalate (vs.map fun v => v.render.toList) ++ ')' :: []) := by
    simp [renderTuple, toList_commaSeparated]
  rw [readRow, htext]
  simp only
  rw [readSeq_intercalate (fun v _ h => readValue_render v h) headNe_value (by decide) (by decide)]

/-- Marks inside a text belong to the text. -/
example : readRow "('it\\'s, (1)', [7, 0], \x7b'a': 'b'\x7d, true)"
    = some [.text "it's, (1)", .list [.nat 7, .nat 0], .map [("a", .text "b")], .bool true] := by
  decide

end Ingest.Sql
