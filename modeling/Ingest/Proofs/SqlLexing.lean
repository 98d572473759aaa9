import Ingest.Proofs.TupleGrammar

/-!
SQL texts as tokens. The lexer is an automaton over single characters, as a server would run it:
words, single symbols, texts in single quotes and names in backquotes, both with backslashes. It is
told only what a quote and a backslash mean and nothing of how queries are written. Main statements:
a quoted text or name is one token with exactly that content, whatever characters it has, and the
lexer then goes on as if it had started there; and rows of values are lexed value by value.
-/

namespace Ingest.Sql

/-- What quotes stand around: texts or names. -/
inductive Quotes where
  | text
  | name
  deriving DecidableEq, Repr

def Quotes.mark : Quotes → Char
  | text => '\''
  | name => '\x60'

inductive Token where
  | word (w : String)
  /-- A text in single quotes. -/
  | text (s : String)
  /-- A name in backquotes. -/
  | name (s : String)
  | symbol (c : Char)
  deriving DecidableEq, Repr

namespace Token

/-- The token of a quoted content. -/
def quoted : Quotes → String → Token
  | .text, s => text s
  | .name, s => name s

/-- A token without the content of quotes. -/
def outline : Token → Token
  | text _ => text ""
  | name _ => name ""
  | t => t

/-- Whether a token is quoted. -/
def isQuoted : Token → Bool
  | text _ | name _ => true
  | _ => false

/-- Whether a token is a number. -/
def isNumber : Token → Bool
  | word w => w.toList.all Char.isDigit
  | _ => false

/-- A token without the content of quotes and without the digits of a number. -/
def shape : Token → Token
  | word w => if isNumber (word w) then word "" else word w
  | t => t.outline

theorem shape_outline (t : Token) : t.outline.shape = t.shape := by
  cases t <;> rfl

theorem isNumber_repr (n : Nat) : isNumber (word n.repr) = true :=
  List.all_eq_true.mpr fun _ hc => Text.isDigit_of_mem_repr hc

theorem shape_repr (n : Nat) : shape (word n.repr) = word "" := if_pos (isNumber_repr n)

end Token

/-- Where the lexer stands: between tokens, in a word, in quotes, or after a backslash in quotes;
and the characters of the token so far. -/
inductive Lexing where
  | gap
  | word (cs : List Char)
  | quoted (q : Quotes) (cs : List Char)
  | escaped (q : Quotes) (cs : List Char)
  deriving DecidableEq, Repr

def isWordChar (c : Char) : Bool := c.isAlphanum || c == '_'

def isWord (cs : List Char) : Bool := !cs.isEmpty && cs.all isWordChar

namespace Lexing

/-- Takes in the first character of a token, or one between tokens. -/
def begin (c : Char) : Lexing × List Token :=
  if c.isWhitespace then (gap, [])
  else if c = Quotes.text.mark then (quoted .text [], [])
  else if c = Quotes.name.mark then (quoted .name [], [])
  else if isWordChar c then (word [c], [])
  else (gap, [.symbol c])

/-- Takes in one character, and gives out the tokens that it ends. -/
def next : Lexing → Char → Lexing × List Token
  | gap, c => begin c
  | word cs, c =>
    if isWordChar c then (word (cs ++ [c]), [])
    else ((begin c).1, .word (String.ofList cs) :: (begin c).2)
  | quoted q cs, c =>
    if c = '\\' then (escaped q cs, [])
    else if c = q.mark then (gap, [.quoted q (String.ofList cs)])
    else (quoted q (cs ++ [c]), [])
  | escaped q cs, c => (quoted q (cs ++ [c]), [])

/-- What the end of the text ends; nothing ends in quotes. -/
def finish : Lexing → Option (List Token)
  | gap => some []
  | word cs => some [.word (String.ofList cs)]
  | _ => none

/-- Takes in characters. -/
def scan : Lexing → List Char → Lexing × List Token
  | m, [] => (m, [])
  | m, c :: cs =>
    let step := m.next c
    let rest := scan step.1 cs
    (rest.1, step.2 ++ rest.2)

end Lexing

/-- The tokens of a text, if its quotes are closed. -/
def lex (sql : String) : Option (List Token) :=
  let r := Lexing.scan .gap sql.toList
  r.1.finish.map (r.2 ++ ·)

namespace Lexing

theorem scan_append (m : Lexing) (xs ys : List Char) :
    m.scan (xs ++ ys)
      = ((scan (m.scan xs).1 ys).1, (m.scan xs).2 ++ (scan (m.scan xs).1 ys).2) := by
  induction xs generalizing m with
  | nil => simp [scan]
  | cons x xs ih => simp [scan, ih]

/-- What a lexer that gives out some tokens first gives out in all. -/
def after (ts : List Token) (r : Lexing × List Token) : Lexing × List Token := (r.1, ts ++ r.2)

@[simp] theorem after_after (ts us : List Token) (r : Lexing × List Token) :
    after ts (after us r) = after (ts ++ us) r := by
  simp [after]

/-- A piece of text that ends between tokens leaves the rest to be lexed on its own. -/
theorem scan_piece {xs : List Char} {ts : List Token} (h : scan gap xs = (gap, ts))
    (ys : List Char) : scan gap (xs ++ ys) = after ts (scan gap ys) := by
  rw [scan_append, h]
  rfl

theorem scan_word {w : List Char} (hw : ∀ c ∈ w, isWordChar c = true) (cs : List Char) :
    scan (word cs) w = (word (cs ++ w), []) := by
  induction w generalizing cs with
  | nil => simp [scan]
  | cons c w ih =>
    have hc := hw c List.mem_cons_self
    simp [scan, next, hc, ih (fun d hd => hw d (List.mem_cons_of_mem c hd))]

theorem begin_wordChar {c : Char} (hc : isWordChar c = true) : begin c = (word [c], []) := by
  have hblank : c.isWhitespace = false := by
    cases h : c.isWhitespace with
    | false => rfl
    | true =>
      simp only [Char.isWhitespace, Bool.or_eq_true, decide_eq_true_eq] at h
      rcases h with ((rfl | rfl) | rfl) | rfl <;> exact absurd hc (by decide)
  have htext : c ≠ Quotes.text.mark := by rintro rfl; exact absurd hc (by decide)
  have hname : c ≠ Quotes.name.mark := by rintro rfl; exact absurd hc (by decide)
  simp [begin, hblank, htext, hname, hc]

/-- Whether a text begins with a character that ends a word. -/
def breaks : List Char → Bool
  | [] => false
  | c :: _ => !isWordChar c

theorem breaks_append {xs : List Char} (h : breaks xs = true) (ys : List Char) :
    breaks (xs ++ ys) = true := by
  cases xs with
  | nil => simp [breaks] at h
  | cons x xs => exact h

/-- A word ends before the first character that cannot go on with it. -/
theorem scan_word_append {w : List Char} (hw : isWord w = true) {rest : List Char}
    (hrest : breaks rest = true) :
    scan gap (w ++ rest) = after [.word (String.ofList w)] (scan gap rest) := by
  have hall : scan gap w = (word w, []) := by
    cases w with
    | nil => simp [isWord] at hw
    | cons d ds =>
      obtain ⟨hd, hds⟩ : isWordChar d = true ∧ ∀ c ∈ ds, isWordChar c = true := by
        simpa [isWord] using hw
      have hword := scan_word hds [d]
      simp [scan, next, begin_wordChar hd, hword]
  cases rest with
  | nil => simp [breaks] at hrest
  | cons c rest =>
    have hc : isWordChar c = false := by simpa [breaks] using hrest
    rw [scan_append, hall]
    simp [scan, next, hc, after]

/-- Items with separators between them are lexed one by one, if each is lexed on its own before what
may follow it. -/
theorem scan_separated {α : Type} {text : α → List Char} {tokens : α → List Token}
    {sep : List Char} {sepTokens : List Token} (hsep : scan gap sep = (gap, sepTokens))
    (Follows : List Char → Prop) (hfollows : ∀ ys, Follows (sep ++ ys)) {rest : List Char}
    (hrest : Follows rest) :
    ∀ {xs : List α}, xs ≠ [] →
      (∀ x ∈ xs, ∀ rest, Follows rest →
        scan gap (text x ++ rest) = after (tokens x) (scan gap rest)) →
      scan gap (sep.intercalate (xs.map text) ++ rest)
        = after (sepTokens.intercalate (xs.map tokens)) (scan gap rest)
  | [], hne, _ => absurd rfl hne
  | [x], _, hitem => by simpa using hitem x List.mem_cons_self rest hrest
  | x :: y :: ys, _, hitem => by
    have hne : y :: ys ≠ [] := List.cons_ne_nil y ys
    have ih := scan_separated hsep Follows hfollows hrest hne
      (fun z hz => hitem z (List.mem_cons_of_mem x hz))
    simp only [List.map_cons, List.intercalate_cons_cons, List.append_assoc] at ih ⊢
    rw [hitem x List.mem_cons_self _ (hfollows _), scan_piece hsep, ih]
    simp

theorem mark_ne_backslash (q : Quotes) : q.mark ≠ '\\' := by cases q <;> decide

theorem scan_escape (q : Quotes) (s cs : List Char) :
    scan (quoted q cs) (escape q.mark s ++ [q.mark])
      = (gap, [.quoted q (String.ofList (cs ++ s))]) := by
  induction s generalizing cs with
  | nil => simp [escape, scan, next, mark_ne_backslash]
  | cons c s ih =>
    by_cases h : c = q.mark ∨ c = '\\'
    · simp [escape, h, scan, next, ih]
    · have hc : c ≠ '\\' := fun hc => h (.inr hc)
      have hmark : c ≠ q.mark := fun hmark => h (.inl hmark)
      simp [escape, hc, hmark, scan, next, ih]

/-- A quoted content is one token, whatever characters it has. -/
theorem scan_quoteWith (q : Quotes) (s : String) (rest : List Char) :
    scan gap ((quoteWith q.mark s).toList ++ rest) = after [.quoted q s] (scan gap rest) := by
  apply scan_piece
  have hbegin : begin q.mark = (quoted q [], []) := by cases q <;> rfl
  rw [toList_quoteWith]
  simp [scan, next, hbegin, scan_escape]

theorem scan_quoteText (s : String) (rest : List Char) :
    scan gap ((quoteText s).toList ++ rest) = after [.text s] (scan gap rest) :=
  scan_quoteWith .text s rest

theorem scan_quoteName (s : String) (rest : List Char) :
    scan gap ((quoteName s).toList ++ rest) = after [.name s] (scan gap rest) :=
  scan_quoteWith .name s rest

end Lexing

/-- The tokens of a text whose first pieces have been lexed. -/
theorem lex_of_scan {sql : String} {ts : List Token} {rest : List Char}
    (h : Lexing.scan .gap sql.toList = Lexing.after ts (Lexing.scan .gap rest)) :
    lex sql = (lex (String.ofList rest)).map (ts ++ ·) := by
  rw [lex, lex, h, String.toList_ofList]
  simp [Lexing.after, Option.map_map, Function.comp_def]

@[simp] theorem lex_empty : lex "" = some [] := rfl

theorem lex_of_scan_append {sql : String} {ts : List Token}
    (h : ∀ rest, Lexing.scan .gap (sql.toList ++ rest) = Lexing.after ts (Lexing.scan .gap rest)) :
    lex sql = some ts := by
  have hnil := h []
  rw [List.append_nil] at hnil
  rw [lex_of_scan hnil, String.ofList_nil, lex_empty, Option.map_some, List.append_nil]

/-! ### Values and rows -/

def Scalar.tokens : Scalar → List Token
  | nat n => [.word n.repr]
  | bool b => [.word (if b then "true" else "false")]
  | text s => [.text s]

/-- Items between two marks, with commas between them. -/
def enclosed (left right : Char) (items : List (List Token)) : List Token :=
  .symbol left :: ([.symbol ','].intercalate items ++ [.symbol right])

def entryTokens (e : String × Scalar) : List Token := [.text e.1, .symbol ':'] ++ e.2.tokens

def Value.tokens : Value → List Token
  | scalar x => x.tokens
  | list xs => enclosed '[' ']' (xs.map Scalar.tokens)
  | map es => enclosed '\x7b' '\x7d' (es.map entryTokens)

def tupleTokens (vs : List Value) : List Token := enclosed '(' ')' (vs.map Value.tokens)

namespace Lexing

theorem scan_repr (n : Nat) {rest : List Char} (hrest : breaks rest = true) :
    scan gap (n.repr.toList ++ rest) = after [.word n.repr] (scan gap rest) := by
  have hword : isWord n.repr.toList = true := by
    obtain ⟨d, ds, hd, -⟩ := Text.exists_repr_eq_cons n
    have hempty : n.repr.toList.isEmpty = false := by rw [hd]; rfl
    have hall : n.repr.toList.all isWordChar = true := by
      rw [List.all_eq_true]
      intro c hc
      simp [isWordChar, Char.isAlphanum, Text.isDigit_of_mem_repr hc]
    rw [isWord, hempty, hall]
    rfl
  rw [scan_word_append hword hrest, String.ofList_toList]

theorem scan_scalar (x : Scalar) {rest : List Char} (hrest : breaks rest = true) :
    scan gap (x.render.toList ++ rest) = after x.tokens (scan gap rest) := by
  cases x with
  | nat n => exact scan_repr n hrest
  | bool b =>
    cases b
    · exact scan_word_append (w := "false".toList) rfl hrest
    · exact scan_word_append (w := "true".toList) rfl hrest
  | text s => exact scan_quoteText s rest

theorem scan_entry (e : String × Scalar) {rest : List Char} (hrest : breaks rest = true) :
    scan gap ((Value.renderEntry e).toList ++ rest) = after (entryTokens e) (scan gap rest) := by
  have hcolon : scan gap ": ".toList = (gap, [.symbol ':']) := rfl
  simp only [Value.renderEntry, String.toList_append, List.append_assoc]
  rw [scan_quoteText, scan_piece hcolon, scan_scalar _ hrest]
  simp [entryTokens]

theorem scan_enclosed {α : Type} {text : α → String} {tokens : α → List Token} (left right : Char)
    (hopen : scan gap [left] = (gap, [.symbol left]))
    (hclose : scan gap [right] = (gap, [.symbol right])) (hbreaks : breaks [right] = true)
    (hitem : ∀ x rest, breaks rest = true →
      scan gap ((text x).toList ++ rest) = after (tokens x) (scan gap rest))
    (xs : List α) (rest : List Char) :
    scan gap (left :: ((commaSeparated (xs.map text)).toList ++ right :: rest))
      = after (enclosed left right (xs.map tokens)) (scan gap rest) := by
  have hcomma : scan gap [',', ' '] = (gap, [.symbol ',']) := rfl
  have hend : scan gap (right :: rest) = after [.symbol right] (scan gap rest) :=
    scan_piece hclose rest
  have hitems : scan gap ((commaSeparated (xs.map text)).toList ++ right :: rest)
      = after ([.symbol ','].intercalate (xs.map tokens)) (scan gap (right :: rest)) := by
    by_cases hne : xs = []
    · subst hne; rfl
    · rw [toList_commaSeparated]
      exact scan_separated hcomma (breaks · = true) (breaks_append rfl) (breaks_append hbreaks rest)
        hne fun x _ => hitem x
  rw [← List.singleton_append, scan_piece hopen, hitems, hend]
  simp [enclosed]

theorem scan_value (v : Value) {rest : List Char} (hrest : breaks rest = true) :
    scan gap (v.render.toList ++ rest) = after v.tokens (scan gap rest) := by
  cases v with
  | scalar x => exact scan_scalar x hrest
  | list xs =>
    have h := scan_enclosed '[' ']' rfl rfl rfl
      (fun x _ hrest => scan_scalar x hrest) xs rest
    simpa [Value.render, Value.tokens] using h
  | map es =>
    have h := scan_enclosed '\x7b' '\x7d' rfl rfl rfl
      (fun e _ hrest => scan_entry e hrest) es rest
    simpa [Value.render, Value.tokens] using h

theorem scan_renderTuple (vs : List Value) (rest : List Char) :
    scan gap ((renderTuple vs).toList ++ rest) = after (tupleTokens vs) (scan gap rest) := by
  have h := scan_enclosed '(' ')' rfl rfl rfl
    (fun v _ hrest => scan_value v hrest) vs rest
  simpa [renderTuple, tupleTokens] using h

end Lexing

/-- Rows are lexed one by one, and all their quotes are closed. -/
theorem lex_rows (vss : List (List Value)) :
    lex (commaSeparated (vss.map renderTuple))
      = some ([.symbol ','].intercalate (vss.map tupleTokens)) := by
  have hcomma : Lexing.scan .gap [',', ' '] = (.gap, [.symbol ',']) := rfl
  by_cases hne : vss = []
  · subst hne; rfl
  · apply lex_of_scan_append
    intro rest
    rw [toList_commaSeparated]
    exact Lexing.scan_separated hcomma (fun _ => True) (fun _ => trivial) trivial hne
      fun vs _ rest _ => Lexing.scan_renderTuple vs rest

end Ingest.Sql
