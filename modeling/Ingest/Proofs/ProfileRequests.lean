import Ingest.Json
import Ingest.Proofs.Decimal
import Ingest.Proofs.SwitchProtocol

/-!
Profile requests on their way to the agents. A request waits on the board until its node's agent
takes it, between signals that are counted, checked and collected on the same board, and it travels
as a JSON text. Main statement: what the agent of a node has taken, followed by what still waits for
it, is what was requested on that node, one text for each request and in the order of the signals; and
each text is read back as the numbers of its trace.
-/

namespace Ingest

/-! ### Objects of numbers -/

namespace Json

/-- The text of one member, a name and a number. -/
def memberText (m : String × Nat) : List Char := '"' :: m.1.toList ++ '"' :: ':' :: m.2.repr.toList

/-- The text of some members, up to the closing brace. -/
def membersText : List (String × Nat) → List Char
  | [] => ['\x7d']
  | [m] => memberText m ++ ['\x7d']
  | m :: m' :: ms => memberText m ++ ',' :: membersText (m' :: ms)

theorem length_lt_membersText (ms : List (String × Nat)) : ms.length < (membersText ms).length := by
  induction ms using membersText.induct with
  | case1 => decide
  | case2 m =>
    simp only [membersText, memberText, List.length_append, List.length_cons]
    omega
  | case3 m m' ms ih =>
    simp only [membersText, List.length_append, List.length_cons] at ih ⊢
    omega

theorem exists_membersText_eq_cons {ms : List (String × Nat)} (hne : ms ≠ []) :
    ∃ cs, membersText ms = '"' :: cs := by
  cases ms using membersText.induct with
  | case1 => exact absurd rfl hne
  | case2 m => exact ⟨_, rfl⟩
  | case3 m m' ms => exact ⟨_, rfl⟩

/-- Whether a name is written as it is. -/
def IsPlain (name : String) : Prop := ∀ c ∈ name.toList, c ≠ '"' ∧ c ≠ '\\'

variable {rest : List Char} {fuel : Nat}

theorem digitsValue_repr (n : Nat) : digitsValue n.repr.toList = n := by
  rw [Nat.toList_repr]
  exact Nat.ofDigitChars_ten_toDigits

theorem skipBlanks_cons {c : Char} (hc : isBlank c = false) : skipBlanks (c :: rest) = c :: rest := by
  rw [skipBlanks, List.dropWhile_cons_of_neg (by simp [hc])]

theorem isBlank_of_isDigit {c : Char} (hc : c.isDigit = true) : isBlank c = false := by
  rw [isBlank, ← Bool.not_eq_true]
  intro h
  simp only [Bool.or_eq_true, beq_iff_eq] at h
  rcases h with ((rfl | rfl) | rfl) | rfl <;> exact absurd hc (by decide)

theorem numeral_repr (n : Nat) (hrest : ∀ c ∈ rest.head?, isNumberChar c = false) :
    numeral (n.repr.toList ++ rest) = some (.nat n, rest) := by
  obtain ⟨d, ds, hds, -⟩ := Text.exists_repr_eq_cons n
  have hnumber : ∀ c ∈ n.repr.toList, isNumberChar c = true := fun c hc => by
    simp [isNumberChar, Text.isDigit_of_mem_repr hc]
  obtain ⟨htake, hdrop⟩ := Text.span_append hnumber hrest
  have hne : n.repr.toList.isEmpty = false := by rw [hds]; rfl
  have hdigits : n.repr.toList.all Char.isDigit = true :=
    List.all_eq_true.mpr fun c hc => Text.isDigit_of_mem_repr hc
  simp only [numeral, htake, hdrop, hne, hdigits, digitsValue_repr, Bool.false_eq_true, if_false,
    if_true]

/-- A natural number is read back where no number can go on. -/
theorem value_repr (n : Nat) (hrest : ∀ c ∈ rest.head?, isNumberChar c = false) :
    value (fuel + 1) (n.repr.toList ++ rest) = some (.nat n, rest) := by
  obtain ⟨d, ds, hds, hd⟩ := Text.exists_repr_eq_cons n
  have hskip : skipBlanks (n.repr.toList ++ rest) = n.repr.toList ++ rest := by
    rw [hds, List.cons_append, skipBlanks_cons (isBlank_of_isDigit hd)]
  have hnot {c : Char} {cs : List Char} (hc : c.isDigit = false)
      (heq : n.repr.toList ++ rest = c :: cs) : False := by
    rw [hds, List.cons_append] at heq
    obtain ⟨rfl, -⟩ := List.cons.inj heq
    exact absurd hd (by simp [hc])
  rw [value, hskip]
  split
  case h_7 => exact numeral_repr n hrest
  all_goals next heq => exact (hnot (by decide) heq).elim

theorem string_plain {cs : List Char} (hcs : ∀ c ∈ cs, c ≠ '"' ∧ c ≠ '\\') (acc : List Char) :
    string (.plain none) acc (cs ++ '"' :: rest) = some (String.ofList (acc.reverse ++ cs), rest) := by
  induction cs generalizing acc with
  | nil => simp [string]
  | cons c cs ih =>
    obtain ⟨hquote, hslash⟩ := hcs c List.mem_cons_self
    have htail := ih (fun d hd => hcs d (List.mem_cons_of_mem _ hd)) (c :: acc)
    simpa [string, hquote, hslash] using htail

/-- The parts of a member, as they are read one after the other. -/
theorem memberText_parts (fuel : Nat) {m : String × Nat} (hm : IsPlain m.1) {c : Char}
    (hc : isNumberChar c = false) (cs : List Char) :
    let rest := c :: cs
    skipBlanks (memberText m ++ rest)
      = '"' :: (m.1.toList ++ '"' :: ':' :: (m.2.repr.toList ++ rest)) ∧
    string (.plain none) [] (m.1.toList ++ '"' :: ':' :: (m.2.repr.toList ++ rest))
      = some (m.1, ':' :: (m.2.repr.toList ++ rest)) ∧
    skipBlanks (':' :: (m.2.repr.toList ++ rest)) = ':' :: (m.2.repr.toList ++ rest) ∧
    value (fuel + 1) (m.2.repr.toList ++ rest) = some (.nat m.2, rest) := by
  intro rest
  refine ⟨?_, ?_, skipBlanks_cons (by decide), value_repr m.2 (by simpa [rest] using hc)⟩
  · have htext : memberText m ++ rest
        = '"' :: (m.1.toList ++ '"' :: ':' :: (m.2.repr.toList ++ rest)) := by
      simp [memberText]
    rw [htext, skipBlanks_cons (by decide)]
  · exact (string_plain hm []).trans (by simp)

theorem members_comma (acc : List (String × Json)) {m : String × Nat} (hm : IsPlain m.1) :
    members (fuel + 2) acc (memberText m ++ ',' :: rest)
      = members (fuel + 1) ((m.1, .nat m.2) :: acc) rest := by
  obtain ⟨hquote, hname, hcolon, hvalue⟩ :=
    memberText_parts fuel hm (show isNumberChar ',' = false by decide) rest
  have hcomma : skipBlanks (',' :: rest) = ',' :: rest := skipBlanks_cons (by decide)
  rw [members]
  simp only [hquote, hname, hcolon, hvalue, hcomma]

theorem members_brace (acc : List (String × Json)) {m : String × Nat} (hm : IsPlain m.1) :
    members (fuel + 2) acc (memberText m ++ '\x7d' :: rest)
      = some (.obj ((m.1, .nat m.2) :: acc).reverse, rest) := by
  obtain ⟨hquote, hname, hcolon, hvalue⟩ :=
    memberText_parts fuel hm (show isNumberChar '\x7d' = false by decide) rest
  have hbrace : skipBlanks ('\x7d' :: rest) = '\x7d' :: rest := skipBlanks_cons (by decide)
  rw [members]
  simp only [hquote, hname, hcolon, hvalue, hbrace]

/-- The members are read up to the closing brace. -/
theorem members_membersText (acc : List (String × Json)) {ms : List (String × Nat)} (hne : ms ≠ [])
    (hms : ∀ m ∈ ms, IsPlain m.1) (hfuel : ms.length < fuel) :
    members fuel acc (membersText ms ++ rest)
      = some (.obj (acc.reverse ++ ms.map fun m => (m.1, .nat m.2)), rest) := by
  -- What was read so far goes before all others, so the induction is for any members read before.
  induction ms using membersText.induct generalizing fuel acc with
  | case1 => exact absurd rfl hne
  | case2 m =>
    obtain ⟨fuel, rfl⟩ : ∃ k, fuel = k + 2 := Nat.exists_eq_add_of_le' hfuel
    rw [membersText, List.append_assoc, List.singleton_append,
      members_brace acc (hms m List.mem_cons_self)]
    simp
  | case3 m m' ms ih =>
    obtain ⟨fuel, rfl⟩ : ∃ k, fuel = k + 2 :=
      Nat.exists_eq_add_of_le' (Nat.le_trans (by simp) hfuel)
    have htail := ih ((m.1, .nat m.2) :: acc) (List.cons_ne_nil _ _)
      (fun x hx => hms x (List.mem_cons_of_mem _ hx)) (Nat.lt_of_succ_lt_succ hfuel)
    rw [membersText, List.append_assoc, List.cons_append,
      members_comma acc (hms m List.mem_cons_self)]
    simpa using htail

theorem value_membersText {ms : List (String × Nat)} (hne : ms ≠ [])
    (hms : ∀ m ∈ ms, IsPlain m.1) (hfuel : ms.length < fuel) :
    value (fuel + 1) ('\x7b' :: membersText ms)
      = some (.obj (ms.map fun m => (m.1, .nat m.2)), []) := by
  obtain ⟨cs, hcs⟩ := exists_membersText_eq_cons hne
  have hmembers : members fuel [] (membersText ms ++ [])
      = some (.obj ([] ++ ms.map fun m => (m.1, .nat m.2)), []) := members_membersText [] hne hms hfuel
  rw [List.append_nil, hcs] at hmembers
  have hquote : skipBlanks ('"' :: cs) = '"' :: cs := skipBlanks_cons (by decide)
  rw [value, skipBlanks_cons (by decide)]
  simp only [hcs, hquote]
  exact hmembers

/-- An object of numbers is read back from its text. -/
theorem parse?_membersText {text : String} {ms : List (String × Nat)}
    (htext : text.toList = '\x7b' :: membersText ms) (hne : ms ≠ [])
    (hms : ∀ m ∈ ms, IsPlain m.1) : parse? text = some (.obj (ms.map fun m => (m.1, .nat m.2))) := by
  have hlength := length_lt_membersText ms
  have hfuel : ms.length < 2 * text.toList.length + 1 := by
    rw [htext, List.length_cons]
    omega
  have hvalue := value_membersText hne hms hfuel
  rw [← htext] at hvalue
  simp only [parse?, hvalue]
  rfl

end Json

/-! ### The text of a request -/

namespace ProfileRequest

/-- The names and numbers that a request is written with. -/
def members (r : ProfileRequest) : List (String × Nat) :=
  [("pid", r.pid.toNat), ("tid", r.tid.toNat), ("start_time", r.startTimeNs.toNat),
    ("end_time", r.endTimeNs.toNat)]

theorem toList_text (r : ProfileRequest) : r.text.toList = '\x7b' :: Json.membersText r.members := by
  -- An equation for `text` takes long to make; its definition opens at once.
  delta text
  simp [members, Json.membersText, Json.memberText]

theorem parse?_text (r : ProfileRequest) :
    Json.parse? r.text = some (.obj (r.members.map fun m => (m.1, .nat m.2))) := by
  refine Json.parse?_membersText r.toList_text (List.cons_ne_nil _ _) ?_
  simp [members, Json.IsPlain]

end ProfileRequest

/-! ### Requests that wait -/

/-- Anything that is done with a board. -/
inductive BoardStep where
  | signals (x : SignalStep)
  | take (n : AgentNode)

/-- The text that a step asks to be handed to the agent of a node. -/
def BoardStep.request? (n : AgentNode) : BoardStep → Option String
  | .signals (.add s) => if s.needProfile ∧ s.node = n then some s.request.text else none
  | _ => none

/-- The texts that some steps ask to be handed to the agent of a node. -/
def requested (n : AgentNode) (xs : List BoardStep) : List String :=
  xs.filterMap (BoardStep.request? n)

theorem requested_concat (n : AgentNode) (xs : List BoardStep) (x : BoardStep) :
    requested n (xs ++ [x]) = requested n xs ++ (x.request? n).toList := by
  cases hx : x.request? n <;> simp [requested, hx]

namespace SignalBoard

variable {b : SignalBoard} {n : AgentNode}

/-- The texts that wait for the agent of a node, first one first. -/
def waiting (b : SignalBoard) (n : AgentNode) : List String :=
  b.requests.filterMap fun r => if r.1 = n then some r.2.text else none

theorem waiting_add (b : SignalBoard) (n : AgentNode) (s : Signal) :
    (b.add s).waiting n = b.waiting n ++ (BoardStep.request? n (.signals (.add s))).toList := by
  cases hneed : s.needProfile with
  | false => simp [add, waiting, BoardStep.request?, hneed]
  | true => by_cases hn : s.node = n <;> simp [add, waiting, BoardStep.request?, hneed, hn]

theorem texts_take (b : SignalBoard) (n : AgentNode) :
    (b.take n).1.map ProfileRequest.text = b.waiting n := by
  rw [take, waiting, List.map_filterMap]
  refine List.filterMap_congr fun r _ => ?_
  split <;> rfl

theorem waiting_take (b : SignalBoard) (n m : AgentNode) :
    (b.take m).2.waiting n = if m = n then [] else b.waiting n := by
  rw [waiting, take, List.filterMap_filter]
  split
  · next hm =>
    refine List.filterMap_eq_nil_iff.mpr fun r _ => ?_
    by_cases hr : r.1 = n <;> simp [hr, hm]
  · next hm =>
    refine List.filterMap_congr fun r _ => ?_
    by_cases hr : r.1 = n
    · have hne : r.1 ≠ m := fun h => hm (h.symm.trans hr)
      simp [hne]
    · simp [hr]

end SignalBoard

/-! ### Runs -/

/-- A board, and what was taken from it, with the node that each answer was for. -/
structure Deliveries where
  board : SignalBoard := {}
  answers : List (AgentNode × List String) := []

namespace Deliveries

/-- All that the agent of a node has taken. -/
def takenBy (d : Deliveries) (n : AgentNode) : List String :=
  (d.answers.filter fun a => decide (a.1 = n)).flatMap Prod.snd

def step (d : Deliveries) : BoardStep → Deliveries
  | .signals (.add s) => { d with board := d.board.add s }
  | .signals (.query n) => { d with board := (d.board.query n).2 }
  | .signals (.collect now) => { d with board := (d.board.collect now).2 }
  | .take n =>
    { board := (d.board.take n).2
      answers := d.answers ++ [(n, (d.board.take n).1.map ProfileRequest.text)] }

/-- What some steps make of a new board. -/
def of (xs : List BoardStep) : Deliveries := xs.foldl step {}

theorem of_concat (xs : List BoardStep) (x : BoardStep) : of (xs ++ [x]) = (of xs).step x := by
  simp [of]

/-- The agent of a node takes what waits for it, and none of what waits for others. -/
theorem step_take (d : Deliveries) (n m : AgentNode) :
    (d.step (.take m)).takenBy n = d.takenBy n ++ (if m = n then d.board.waiting n else []) ∧
      (d.step (.take m)).board.waiting n = if m = n then [] else d.board.waiting n := by
  refine ⟨?_, d.board.waiting_take n m⟩
  rw [takenBy, step, d.board.texts_take m, takenBy]
  by_cases hm : m = n <;> simp [hm]

/-- What is done with signals takes nothing, and lets nothing wait but what a signal asks for. -/
theorem step_signals (d : Deliveries) (n : AgentNode) (x : SignalStep) :
    (d.step (.signals x)).takenBy n = d.takenBy n ∧
      (d.step (.signals x)).board.waiting n
        = d.board.waiting n ++ (BoardStep.request? n (.signals x)).toList := by
  cases x with
  | add s => exact ⟨rfl, d.board.waiting_add n s⟩
  | query m => exact ⟨rfl, (List.append_nil _).symm⟩
  | collect now => exact ⟨rfl, (List.append_nil _).symm⟩

theorem takenBy_append_waiting_step (d : Deliveries) (n : AgentNode) (x : BoardStep) :
    (d.step x).takenBy n ++ (d.step x).board.waiting n
      = d.takenBy n ++ d.board.waiting n ++ (x.request? n).toList := by
  cases x with
  | signals x =>
    obtain ⟨htaken, hwaiting⟩ := d.step_signals n x
    rw [htaken, hwaiting, List.append_assoc]
  | take m =>
    obtain ⟨htaken, hwaiting⟩ := d.step_take n m
    rw [htaken, hwaiting]
    by_cases hm : m = n <;> simp [hm, BoardStep.request?]

/-- What was taken and what waits is what was requested, by induction on the steps. -/
theorem takenBy_append_waiting (n : AgentNode) (xs : List BoardStep) :
    (of xs).takenBy n ++ (of xs).board.waiting n = requested n xs := by
  induction xs using List.reverseRecOn with
  | nil => rfl
  | append_singleton xs x ih =>
    rw [of_concat, takenBy_append_waiting_step, ih, requested_concat]

/-- After any signals, queries, collections and takings, of any nodes of any tenants: what the agent
of a node has taken, followed by what waits for it, is the texts requested on that node, in order. A
taking hands over all that waits for its node, and any other step that requests nothing on the node
leaves both as they are. And the text of a request is read back as an object of the process, the
thread, the start and the end of its trace, and of nothing else. -/
theorem requests_delivered_once (n : AgentNode) (xs : List BoardStep) :
    let d := of xs
    d.takenBy n ++ d.board.waiting n = requested n xs ∧
    ((d.step (.take n)).takenBy n = d.takenBy n ++ d.board.waiting n ∧
      (d.step (.take n)).board.waiting n = []) ∧
    (∀ x, x ≠ .take n → x.request? n = none →
      (d.step x).takenBy n = d.takenBy n ∧ (d.step x).board.waiting n = d.board.waiting n) ∧
    ∀ s : Signal, Json.parse? s.request.text = some (.obj
      [("pid", .nat s.trace.pid.toNat), ("tid", .nat s.trace.tid.toNat),
        ("start_time", .nat s.trace.startTimeNs.toNat), ("end_time", .nat s.trace.endTimeNs.toNat)]) := by
  intro d
  refine ⟨takenBy_append_waiting n xs, ?_, fun x hx hnone => ?_, fun s => s.request.parse?_text⟩
  · simpa using d.step_take n n
  · cases x with
    | signals x => simpa [hnone] using d.step_signals n x
    | take m =>
      have hm : m ≠ n := fun h => hx (congrArg BoardStep.take h)
      simpa [hm] using d.step_take n m

end Deliveries

end Ingest
