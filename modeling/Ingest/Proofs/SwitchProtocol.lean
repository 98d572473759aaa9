import Mathlib.Data.Finset.Basic
import Mathlib.Data.List.Induction
import Ingest.Proofs.Histories
import Ingest.Signal

/-!
The protocol between a board of signals and the agent of one node. The agent keeps a set of keys
that are switched off and follows each answer: what is to close is added, and then what is to
recover is taken out. Several endpoints may share a key, each with a status of its own. Main
statements: an answer recovers only what is switched off and silent no more; and after any signals,
queries and collections, everything silent is switched off, and nothing else unless something was
collected.
-/

namespace Ingest

/-! ### What is silent -/

namespace SignalTally

theorem status_of_next_closing {t : SignalTally} (h : t.next = .closing) :
    t.status = .init ∨ t.status = .closing := by
  cases hs : t.status with
  | init => exact .inl rfl
  | closing => exact .inr rfl
  | finished => simp [next, hs] at h

/-- Once silent, an endpoint stays silent or is seen to succeed. -/
theorem next_of_closing {t : SignalTally} (h : t.status = .closing) :
    t.next = .closing ∨ t.next = .finished := by
  simp only [next, h]
  split
  · exact .inl rfl
  · exact .inr rfl

end SignalTally

namespace SignalBoard

variable {b : SignalBoard} {n : AgentNode} {key : String}

/-- Whether an endpoint of a node that is switched by a key is silent. -/
def Closing (b : SignalBoard) (n : AgentNode) (key : String) : Prop :=
  ∃ e t, b.tallies.get? (n, e) = some t ∧ t.status = .closing ∧ e.switchKey = key

theorem mem_endpointsOf {e : SlowEndpoint} {t : SignalTally} :
    (e, t) ∈ b.endpointsOf n ↔ b.tallies.get? (n, e) = some t := by
  rw [Keyed.get?_eq_some_iff, endpointsOf, List.mem_filterMap]
  constructor
  · rintro ⟨⟨⟨m, e'⟩, t'⟩, hmem, heq⟩
    split at heq
    · next hm =>
      simp only [Option.some.injEq, Prod.mk.injEq] at heq
      obtain ⟨rfl, rfl⟩ := heq
      simp only at hm
      rwa [← hm]
    · cases heq
  · intro hmem
    exact ⟨((n, e), t), hmem, by simp⟩

theorem get?_add (s : Signal) (e : SlowEndpoint) :
    (b.add s).tallies.get? (n, e) =
      if (s.node, s.endpoint) = (n, e) then
        some (((b.tallies.get? (n, e)).getD {}).observe s.trace.isProfiled)
      else b.tallies.get? (n, e) := by
  rw [add, Keyed.alter, Keyed.get?_insert]
  by_cases h : (s.node, s.endpoint) = (n, e) <;> simp [h]

/-- A signal leaves every status as it is; an endpoint that is new is undecided. -/
theorem closing_add (s : Signal) : (b.add s).Closing n key ↔ b.Closing n key := by
  constructor
  · rintro ⟨e, t, ht, hstatus, hkey⟩
    rw [get?_add] at ht
    split at ht
    · obtain rfl := Option.some.inj ht
      cases hold : b.tallies.get? (n, e) with
      | none => simp [hold, SignalTally.observe] at hstatus
      | some t => exact ⟨e, t, hold, by simpa [hold, SignalTally.observe] using hstatus, hkey⟩
    · exact ⟨e, t, ht, hstatus, hkey⟩
  · rintro ⟨e, t, ht, hstatus, hkey⟩
    by_cases h : (s.node, s.endpoint) = (n, e)
    · exact ⟨e, t.observe s.trace.isProfiled, by simp [get?_add, h, ht], hstatus, hkey⟩
    · exact ⟨e, t, by simp [get?_add, h, ht], hstatus, hkey⟩

theorem not_closing_collect (now : UInt64) : ¬ (b.collect now).2.Closing n key := by
  rintro ⟨e, t, ht, -⟩
  simp [collect] at ht

theorem get?_query (m : AgentNode) (e : SlowEndpoint) :
    (b.query m).2.tallies.get? (n, e)
      = (b.tallies.get? (n, e)).map fun t => if n = m then t.check.2 else t :=
  Keyed.get?_mapValues _ _ _

theorem closing_query_of_ne {m : AgentNode} (h : m ≠ n) :
    (b.query m).2.Closing n key ↔ b.Closing n key := by
  have hne : ¬ n = m := fun heq => h heq.symm
  simp [Closing, get?_query, hne]

/-- After a query an endpoint is silent if its check says so. -/
theorem closing_query : (b.query n).2.Closing n key ↔
    ∃ e t, b.tallies.get? (n, e) = some t ∧ t.next = .closing ∧ e.switchKey = key := by
  simp only [Closing, get?_query, if_true, Option.map_eq_some_iff]
  constructor
  · rintro ⟨e, -, ⟨t, ht, rfl⟩, hnext, hkey⟩
    exact ⟨e, t, ht, hnext, hkey⟩
  · rintro ⟨e, t, ht, hnext, hkey⟩
    exact ⟨e, _, ⟨t, ht, rfl⟩, hnext, hkey⟩

/-! ### Answers -/

/-- The keys of the endpoints of a node whose check has a property. -/
def keysWhere (b : SignalBoard) (n : AgentNode) (p : StatusCheck → Bool) : List String :=
  (((b.endpointsOf n).map fun e => (e.1, e.2.check.1)).filter fun c => p c.2).map
    fun c => c.1.switchKey

theorem mem_keysWhere {p : StatusCheck → Bool} : key ∈ b.keysWhere n p ↔
    ∃ e t, b.tallies.get? (n, e) = some t ∧ p t.check.1 = true ∧ e.switchKey = key := by
  simp only [keysWhere, List.mem_map, List.mem_filter]
  constructor
  · rintro ⟨-, ⟨⟨⟨e, t⟩, hmem, rfl⟩, hp⟩, hkey⟩
    exact ⟨e, t, mem_endpointsOf.mp hmem, hp, hkey⟩
  · rintro ⟨e, t, ht, hp, hkey⟩
    exact ⟨_, ⟨⟨(e, t), mem_endpointsOf.mpr ht, rfl⟩, hp⟩, hkey⟩

theorem mem_close : key ∈ (b.query n).1.close ↔
    ∃ e t, b.tallies.get? (n, e) = some t ∧ (t.status = .init ∧ t.next = .closing) ∧
      e.switchKey = key := by
  have hclose : (b.query n).1.close = Text.ordered (b.keysWhere n (·.toClose)) := rfl
  rw [hclose, Text.mem_ordered, mem_keysWhere]
  simp only [SignalTally.check, Bool.and_eq_true, decide_eq_true_eq]

/-- A key recovers if an endpoint of it does and none of it is silent. -/
theorem mem_recover : key ∈ (b.query n).1.recover ↔
    (∃ e t, b.tallies.get? (n, e) = some t ∧ (t.status = .closing ∧ t.next = .finished) ∧
      e.switchKey = key) ∧ ¬ (b.query n).2.Closing n key := by
  have hrecover : (b.query n).1.recover = (Text.ordered (b.keysWhere n (·.toRecover))).filter
      fun k => decide (k ∉ b.keysWhere n (·.silent)) := rfl
  rw [hrecover, List.mem_filter, Text.mem_ordered, decide_eq_true_eq, mem_keysWhere, mem_keysWhere,
    closing_query]
  simp only [SignalTally.check, Bool.and_eq_true, decide_eq_true_eq]

theorem pairwise_close (b : SignalBoard) (n : AgentNode) :
    (b.query n).1.close.Pairwise (· < ·) := Text.pairwise_ordered _

theorem pairwise_recover (b : SignalBoard) (n : AgentNode) :
    (b.query n).1.recover.Pairwise (· < ·) := (Text.pairwise_ordered _).filter _

theorem closing_of_mem_close (h : key ∈ (b.query n).1.close) : (b.query n).2.Closing n key := by
  obtain ⟨e, t, ht, ⟨-, hnext⟩, hkey⟩ := mem_close.mp h
  exact closing_query.mpr ⟨e, t, ht, hnext, hkey⟩

theorem closing_of_mem_recover (h : key ∈ (b.query n).1.recover) : b.Closing n key := by
  obtain ⟨⟨e, t, ht, ⟨hstatus, -⟩, hkey⟩, -⟩ := mem_recover.mp h
  exact ⟨e, t, ht, hstatus, hkey⟩

/-- What was silent and does not recover is silent still. -/
theorem closing_query_of_not_mem_recover (h : b.Closing n key)
    (hrecover : key ∉ (b.query n).1.recover) : (b.query n).2.Closing n key := by
  obtain ⟨e, t, ht, hstatus, hswitch⟩ := h
  rcases SignalTally.next_of_closing hstatus with hnext | hnext
  · exact closing_query.mpr ⟨e, t, ht, hnext, hswitch⟩
  · by_contra hsilent
    exact hrecover (mem_recover.mpr ⟨⟨e, t, ht, ⟨hstatus, hnext⟩, hswitch⟩, hsilent⟩)

/-- What is silent after a query was silent before, or closes. -/
theorem closing_or_mem_close (h : (b.query n).2.Closing n key) :
    b.Closing n key ∨ key ∈ (b.query n).1.close := by
  obtain ⟨e, t, ht, hnext, hswitch⟩ := closing_query.mp h
  rcases SignalTally.status_of_next_closing hnext with hinit | hclosing
  · exact .inr (mem_close.mpr ⟨e, t, ht, ⟨hinit, hnext⟩, hswitch⟩)
  · exact .inl ⟨e, t, ht, hclosing, hswitch⟩

end SignalBoard

/-! ### The agent -/

/-- The keys switched off once an answer was followed. -/
def Switches.followed (a : Switches) (off : Finset String) : Finset String :=
  (off ∪ a.close.toFinset) \ a.recover.toFinset

theorem Switches.mem_followed {a : Switches} {off : Finset String} {key : String} :
    key ∈ a.followed off ↔ (key ∈ off ∨ key ∈ a.close) ∧ key ∉ a.recover := by
  simp [followed]

/-- The keys switched off by an agent that has followed some answers. -/
def switchedOff (as : List Switches) : Finset String := as.foldl (fun off a => a.followed off) ∅

theorem switchedOff_concat (as : List Switches) (a : Switches) :
    switchedOff (as ++ [a]) = a.followed (switchedOff as) := by
  simp [switchedOff]

/-- What answers leave switched off was switched off before, or closed by one of them. -/
theorem mem_switchedOff_append {as bs : List Switches} {key : String}
    (h : key ∈ switchedOff (as ++ bs)) : key ∈ switchedOff as ∨ ∃ c ∈ bs, key ∈ c.close := by
  induction bs using List.reverseRecOn with
  | nil => exact .inl (by simpa using h)
  | append_singleton bs b ih =>
    rw [← List.append_assoc, switchedOff_concat, Switches.mem_followed] at h
    rcases h.1 with h | h
    · rcases ih h with h | ⟨c, hc, h⟩
      · exact .inl h
      · exact .inr ⟨c, List.mem_append_left _ hc, h⟩
    · exact .inr ⟨b, List.mem_append_right _ List.mem_cons_self, h⟩

/-! ### Runs -/

inductive SignalStep where
  | add (s : Signal)
  | query (n : AgentNode)
  | collect (now : UInt64)

def SignalStep.isCollect : SignalStep → Bool
  | collect _ => true
  | _ => false

/-- A board, and what it has answered to the agent of one node. -/
structure Dialogue where
  board : SignalBoard := {}
  answers : List Switches := []

namespace Dialogue

def step (n : AgentNode) (d : Dialogue) : SignalStep → Dialogue
  | .add s => { d with board := d.board.add s }
  | .query m =>
    { board := (d.board.query m).2
      answers := if m = n then d.answers ++ [(d.board.query m).1] else d.answers }
  | .collect now => { d with board := (d.board.collect now).2 }

/-- What some steps make of a new board, as the agent of a node sees it. -/
def of (n : AgentNode) (xs : List SignalStep) : Dialogue := xs.foldl (step n) {}

theorem of_concat (n : AgentNode) (xs : List SignalStep) (x : SignalStep) :
    of n (xs ++ [x]) = (of n xs).step n x := by
  simp [of]

/-- Everything silent is switched off, and every answer recovered only what was switched off and did
not close. -/
structure Safe (n : AgentNode) (d : Dialogue) : Prop where
  covered : ∀ key, d.board.Closing n key → key ∈ switchedOff d.answers
  lawful : ∀ as a bs, d.answers = as ++ a :: bs →
    ∀ key ∈ a.recover, key ∈ switchedOff as ∧ key ∉ a.close

/-- Nothing is switched off but what is silent. -/
def Exact (n : AgentNode) (d : Dialogue) : Prop :=
  ∀ key ∈ switchedOff d.answers, d.board.Closing n key

variable {n : AgentNode} {d : Dialogue}

theorem step_query_of_ne {m : AgentNode} (hm : m ≠ n) :
    d.step n (.query m) = { d with board := (d.board.query m).2 } := by
  simp [step, hm]

theorem step_query : d.step n (.query n)
    = { board := (d.board.query n).2, answers := d.answers ++ [(d.board.query n).1] } := by
  simp [step]

/-- What an answer recovers was switched off before it, and does not close with it. -/
theorem Safe.recovers (h : d.Safe n) {key : String} (hkey : key ∈ (d.board.query n).1.recover) :
    key ∈ switchedOff d.answers ∧ key ∉ (d.board.query n).1.close :=
  ⟨h.covered key (SignalBoard.closing_of_mem_recover hkey), fun hclose =>
    (SignalBoard.mem_recover.mp hkey).2 (SignalBoard.closing_of_mem_close hclose)⟩

theorem Safe.covered_query (h : d.Safe n) {key : String}
    (hkey : (d.board.query n).2.Closing n key) :
    key ∈ switchedOff (d.answers ++ [(d.board.query n).1]) := by
  rw [switchedOff_concat, Switches.mem_followed]
  refine ⟨?_, fun hrecover => (SignalBoard.mem_recover.mp hrecover).2 hkey⟩
  exact (SignalBoard.closing_or_mem_close hkey).imp_left (h.covered key)

theorem Safe.lawful_query (h : d.Safe n) {as bs : List Switches} {a : Switches}
    (heq : d.answers ++ [(d.board.query n).1] = as ++ a :: bs) :
    ∀ key ∈ a.recover, key ∈ switchedOff as ∧ key ∉ a.close := by
  intro key hkey
  rcases concat_eq_append_cons heq with ⟨rfl, rfl, -⟩ | ⟨cs, -, hsplit⟩
  · exact h.recovers hkey
  · exact h.lawful as a cs hsplit key hkey

theorem Safe.step (h : d.Safe n) (x : SignalStep) : (d.step n x).Safe n := by
  cases x with
  | add s => exact ⟨fun key hkey => h.covered key (SignalBoard.closing_add s |>.mp hkey), h.lawful⟩
  | collect now =>
    exact ⟨fun key hkey => absurd hkey (SignalBoard.not_closing_collect now), h.lawful⟩
  | query m =>
    by_cases hm : m = n
    · subst hm
      rw [step_query]
      exact ⟨fun _ hkey => h.covered_query hkey, fun _ _ _ heq => h.lawful_query heq⟩
    · rw [step_query_of_ne hm]
      refine ⟨fun key hkey => ?_, h.lawful⟩
      exact h.covered key (SignalBoard.closing_query_of_ne hm |>.mp hkey)

/-- What an answer leaves switched off is silent after it. -/
theorem Exact.query (h : d.Exact n) {key : String}
    (hkey : key ∈ switchedOff (d.answers ++ [(d.board.query n).1])) :
    (d.board.query n).2.Closing n key := by
  rw [switchedOff_concat, Switches.mem_followed] at hkey
  obtain ⟨hoff | hclose, hrecover⟩ := hkey
  · exact SignalBoard.closing_query_of_not_mem_recover (h key hoff) hrecover
  · exact SignalBoard.closing_of_mem_close hclose

theorem Exact.step (h : d.Exact n) {x : SignalStep} (hx : x.isCollect = false) :
    (d.step n x).Exact n := by
  cases x with
  | add s => exact fun key hkey => SignalBoard.closing_add s |>.mpr (h key hkey)
  | collect now => cases hx
  | query m =>
    by_cases hm : m = n
    · subst hm
      rw [step_query]
      exact fun _ hkey => h.query hkey
    · rw [step_query_of_ne hm]
      exact fun key hkey => SignalBoard.closing_query_of_ne hm |>.mpr (h key hkey)

theorem safe_of (n : AgentNode) (xs : List SignalStep) : (of n xs).Safe n := by
  induction xs using List.reverseRecOn with
  | nil =>
    refine ⟨?_, ?_⟩
    · rintro key ⟨e, t, ht, -⟩
      simp [of] at ht
    · intro as a bs heq
      simp [of] at heq
  | append_singleton xs x ih =>
    rw [of_concat]
    exact ih.step x

theorem exact_of (n : AgentNode) (xs : List SignalStep) (h : ∀ x ∈ xs, x.isCollect = false) :
    (of n xs).Exact n := by
  induction xs using List.reverseRecOn with
  | nil => intro key hkey; simp [of, switchedOff] at hkey
  | append_singleton xs x ih =>
    rw [of_concat]
    exact (ih fun y hy => h y (List.mem_append_left _ hy)).step (h x (by simp))

/-- Between two recoveries of a key it is closed. -/
theorem Safe.closed_between (h : d.Safe n) {as bs cs : List Switches} {a b : Switches}
    (heq : d.answers = as ++ a :: (bs ++ b :: cs)) {key : String} (ha : key ∈ a.recover)
    (hb : key ∈ b.recover) : ∃ c ∈ bs, key ∈ c.close := by
  have hsplit : as ++ a :: (bs ++ b :: cs) = as ++ [a] ++ bs ++ b :: cs := by simp
  rw [hsplit] at heq
  obtain ⟨hoff, -⟩ := h.lawful _ b cs heq key hb
  rcases mem_switchedOff_append hoff with hoff | hclose
  · rw [switchedOff_concat, Switches.mem_followed] at hoff
    exact absurd ha hoff.2
  · exact hclose

end Dialogue

/-- After any steps, for the agent of any node: the next answer lists its keys in order and once,
none of them both to close and to recover; it recovers only what is switched off and has no endpoint
that is silent after it; between two recoveries of a key it was closed; everything silent is
switched off, and nothing else is as long as nothing was collected. -/
theorem switches_safe (n : AgentNode) (xs : List SignalStep) :
    let d := Dialogue.of n xs
    let answer := (d.board.query n).1
    (Dialogue.of n (xs ++ [.query n])).answers = d.answers ++ [answer] ∧
    (answer.close.Pairwise (· < ·) ∧ answer.recover.Pairwise (· < ·) ∧
      ∀ key ∈ answer.recover, key ∉ answer.close) ∧
    (∀ key ∈ answer.recover, key ∈ switchedOff d.answers) ∧
    (∀ as a bs b cs, d.answers = as ++ a :: (bs ++ b :: cs) →
      ∀ key ∈ a.recover, key ∈ b.recover → ∃ c ∈ bs, key ∈ c.close) ∧
    (∀ key ∈ answer.recover, ¬ (d.board.query n).2.Closing n key) ∧
    (∀ key, d.board.Closing n key → key ∈ switchedOff d.answers) ∧
    ((∀ x ∈ xs, x.isCollect = false) →
      ∀ key, key ∈ switchedOff d.answers ↔ d.board.Closing n key) := by
  have h := Dialogue.safe_of n xs
  refine ⟨?_, ⟨SignalBoard.pairwise_close _ n, SignalBoard.pairwise_recover _ n,
    fun key hkey => (h.recovers hkey).2⟩, fun key hkey => (h.recovers hkey).1,
    fun as a bs b cs heq key ha hb => h.closed_between heq ha hb,
    fun key hkey => (SignalBoard.mem_recover.mp hkey).2, h.covered, ?_⟩
  · rw [Dialogue.of_concat, Dialogue.step_query]
  · intro hcollect key
    exact ⟨Dialogue.exact_of n xs hcollect key, h.covered key⟩

end Ingest
