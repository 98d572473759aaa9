import Mathlib.Data.List.DropRight
import Mathlib.Data.List.Nodup
import Ingest.Proofs.SignalCounts

/-!
Switches as a function of the past. The board keeps a status for each endpoint, which a query moves
on by one place at most; here the same answers are told from counts alone: how often an endpoint was
triggered, and how often with success, since the last collection, up to now and up to the last query
before. Main statement: every answer is that of the counts, whatever the order of the signals between
two queries, and whatever the order in which the board lists its endpoints.
-/

namespace Ingest

/-! ### Counts -/

/-- What came after the last collection. -/
def sinceCollection (xs : List SignalStep) : List SignalStep := xs.rtakeWhile fun x => !x.isCollect

def SignalStep.asks (n : AgentNode) : SignalStep → Bool
  | query m => decide (m = n)
  | _ => false

/-- What came up to the last query of a node; nothing if there was none. -/
def upToQuery (n : AgentNode) (xs : List SignalStep) : List SignalStep :=
  xs.rdropWhile fun x => !x.asks n

/-- The signals of an endpoint on a node. -/
def signalsAt (n : AgentNode) (e : SlowEndpoint) (xs : List SignalStep) : List Signal :=
  (xs.filterMap SignalStep.signal?).filter fun s => decide ((s.node, s.endpoint) = (n, e))

/-- How often an endpoint on a node was triggered. -/
def triggers (n : AgentNode) (e : SlowEndpoint) (xs : List SignalStep) : Nat :=
  (signalsAt n e xs).length

/-- How often an endpoint on a node was triggered with success. -/
def successes (n : AgentNode) (e : SlowEndpoint) (xs : List SignalStep) : Nat :=
  (signalsAt n e xs).countP (·.trace.isProfiled)

section Counts

variable (n : AgentNode) (e : SlowEndpoint)

theorem successes_le_triggers (xs : List SignalStep) : successes n e xs ≤ triggers n e xs :=
  List.countP_le_length

theorem triggers_append (xs ys : List SignalStep) :
    triggers n e (xs ++ ys) = triggers n e xs + triggers n e ys := by
  simp [triggers, signalsAt]

theorem successes_append (xs ys : List SignalStep) :
    successes n e (xs ++ ys) = successes n e xs + successes n e ys := by
  simp [successes, signalsAt]

@[simp] theorem triggers_query (xs : List SignalStep) (m : AgentNode) :
    triggers n e (xs ++ [.query m]) = triggers n e xs := triggers_append n e xs [.query m]

@[simp] theorem successes_query (xs : List SignalStep) (m : AgentNode) :
    successes n e (xs ++ [.query m]) = successes n e xs := successes_append n e xs [.query m]

theorem signalsAt_add (s : Signal) :
    signalsAt n e [.add s] = if (s.node, s.endpoint) = (n, e) then [s] else [] := by
  by_cases h : (s.node, s.endpoint) = (n, e)
  · rw [if_pos h]
    exact List.filter_cons_of_pos (decide_eq_true h)
  · rw [if_neg h]
    exact List.filter_cons_of_neg (by simpa using h)

/-- Up to the last query there were no more triggers and successes than there are now. -/
theorem counts_upToQuery_le (xs : List SignalStep) :
    triggers n e (upToQuery n xs) ≤ triggers n e xs ∧
      successes n e (upToQuery n xs) ≤ successes n e xs := by
  have hsplit : upToQuery n xs ++ xs.rtakeWhile (fun x => !x.asks n) = xs :=
    List.rdropWhile_append_rtakeWhile
  have htriggers := triggers_append n e (upToQuery n xs) (xs.rtakeWhile fun x => !x.asks n)
  have hsuccesses := successes_append n e (upToQuery n xs) (xs.rtakeWhile fun x => !x.asks n)
  rw [hsplit] at htriggers hsuccesses
  omega

end Counts

/-- Where an endpoint stands once it was checked with some triggers and successes. -/
def SilentStatus.ofCounts (triggers successes : Nat) : SilentStatus :=
  if triggers = 0 then .init else if successes = 0 then .closing else .finished

namespace SilentStatus

variable {t s : Nat}

theorem ofCounts_eq_init : ofCounts t s = .init ↔ t = 0 := by
  unfold ofCounts
  split
  · simpa
  · split <;> simpa

theorem ofCounts_eq_closing : ofCounts t s = .closing ↔ 0 < t ∧ s = 0 := by
  unfold ofCounts
  split
  · simp; omega
  · split <;> simp <;> omega

theorem ofCounts_eq_finished (h : s ≤ t) : ofCounts t s = .finished ↔ 0 < s := by
  unfold ofCounts
  split
  · simp; omega
  · split <;> simp <;> omega

end SilentStatus

/-! ### What the board holds -/

/-- What steps make of the tally of an endpoint. -/
def tallyTold (n : AgentNode) (e : SlowEndpoint) (xs : List SignalStep) : SignalTally :=
  let now := sinceCollection xs
  let before := upToQuery n now
  { total := triggers n e now
    success := successes n e now
    status := .ofCounts (triggers n e before) (successes n e before) }

section Told

variable {n : AgentNode} {e : SlowEndpoint} {xs : List SignalStep}

theorem sinceCollection_concat {x : SignalStep} (hx : x.isCollect = false) :
    sinceCollection (xs ++ [x]) = sinceCollection xs ++ [x] :=
  List.rtakeWhile_concat_pos _ _ _ (by simp [hx])

theorem sinceCollection_collect (now : UInt64) : sinceCollection (xs ++ [.collect now]) = [] :=
  List.rtakeWhile_concat_neg _ _ _ (by simp [SignalStep.isCollect])

theorem upToQuery_concat {x : SignalStep} (hx : x.asks n = false) :
    upToQuery n (xs ++ [x]) = upToQuery n xs :=
  List.rdropWhile_concat_pos _ _ _ (by simp [hx])

theorem upToQuery_query : upToQuery n (xs ++ [.query n]) = xs ++ [.query n] :=
  List.rdropWhile_concat_neg _ _ _ (by simp [SignalStep.asks])

/-- An endpoint that was not triggered has a fresh tally. -/
theorem tallyTold_of_triggers_eq_zero (h : triggers n e (sinceCollection xs) = 0) :
    tallyTold n e xs = {} := by
  have hle := successes_le_triggers n e (sinceCollection xs)
  have hbefore := (counts_upToQuery_le n e (sinceCollection xs)).1
  have hsuccesses : successes n e (sinceCollection xs) = 0 := by omega
  have hnone : triggers n e (upToQuery n (sinceCollection xs)) = 0 := by omega
  simp [tallyTold, h, hsuccesses, hnone, SilentStatus.ofCounts]

theorem tallyTold_add (s : Signal) : tallyTold n e (xs ++ [.add s]) =
    if (s.node, s.endpoint) = (n, e) then (tallyTold n e xs).observe s.trace.isProfiled
    else tallyTold n e xs := by
  have hbefore : upToQuery n (sinceCollection xs ++ [.add s]) = upToQuery n (sinceCollection xs) :=
    upToQuery_concat rfl
  have htriggers : triggers n e [.add s] = if (s.node, s.endpoint) = (n, e) then 1 else 0 := by
    rw [triggers, signalsAt_add]
    split <;> rfl
  have hsuccesses : successes n e [.add s]
      = if (s.node, s.endpoint) = (n, e) then (if s.trace.isProfiled then 1 else 0) else 0 := by
    rw [successes, signalsAt_add]
    split <;> simp [List.countP_cons]
  have hnow : sinceCollection (xs ++ [.add s]) = sinceCollection xs ++ [.add s] :=
    sinceCollection_concat rfl
  simp only [tallyTold, hnow, hbefore, triggers_append, successes_append, htriggers, hsuccesses]
  split <;> rfl

/-- A query of another node changes nothing. -/
theorem tallyTold_query_of_ne {m : AgentNode} (hm : m ≠ n) :
    tallyTold n e (xs ++ [.query m]) = tallyTold n e xs := by
  have hbefore : upToQuery n (sinceCollection xs ++ [.query m]) = upToQuery n (sinceCollection xs) :=
    upToQuery_concat (by simp [SignalStep.asks, hm])
  have hnow : sinceCollection (xs ++ [.query m]) = sinceCollection xs ++ [.query m] :=
    sinceCollection_concat rfl
  simp [tallyTold, hnow, hbefore]

/-- However far the status has moved on, the next check brings it to where the counts are now. -/
theorem next_tallyTold (n : AgentNode) (e : SlowEndpoint) (xs : List SignalStep) :
    (tallyTold n e xs).next
      = .ofCounts (triggers n e (sinceCollection xs)) (successes n e (sinceCollection xs)) := by
  have hle := successes_le_triggers n e (sinceCollection xs)
  obtain ⟨htriggers, hsuccesses⟩ := counts_upToQuery_le n e (sinceCollection xs)
  simp only [SignalTally.next, tallyTold, SilentStatus.ofCounts]
  grind

theorem tallyTold_query :
    tallyTold n e (xs ++ [.query n]) = (tallyTold n e xs).check.2 := by
  have hnow : sinceCollection (xs ++ [.query n]) = sinceCollection xs ++ [.query n] :=
    sinceCollection_concat rfl
  have hcheck : (tallyTold n e xs).check.2
      = { tallyTold n e xs with status := (tallyTold n e xs).next } := rfl
  rw [hcheck, next_tallyTold]
  simp [tallyTold, hnow, upToQuery_query]

end Told

namespace Dialogue

variable {n : AgentNode} {d : Dialogue} {xs : List SignalStep}

/-- Whether the board holds of each endpoint of a node what the steps make of it. -/
def Tallied (n : AgentNode) (xs : List SignalStep) (b : SignalBoard) : Prop :=
  ∀ e, b.tallies.get? (n, e)
    = if triggers n e (sinceCollection xs) = 0 then none else some (tallyTold n e xs)

theorem Tallied.getD_eq {b : SignalBoard} (h : Tallied n xs b) (e : SlowEndpoint) :
    (b.tallies.get? (n, e)).getD {} = tallyTold n e xs := by
  rw [h e]
  split
  · next hnone => rw [tallyTold_of_triggers_eq_zero hnone]; rfl
  · rfl

theorem Tallied.add {b : SignalBoard} (h : Tallied n xs b) (s : Signal) :
    Tallied n (xs ++ [.add s]) (b.add s) := by
  intro e
  have htotal : triggers n e (sinceCollection (xs ++ [.add s]))
      = (tallyTold n e (xs ++ [.add s])).total := rfl
  rw [SignalBoard.get?_add, h.getD_eq, htotal, tallyTold_add]
  by_cases hs : (s.node, s.endpoint) = (n, e)
  · have hpos : ((tallyTold n e xs).observe s.trace.isProfiled).total ≠ 0 := Nat.succ_ne_zero _
    rw [if_pos hs, if_pos hs, if_neg hpos]
  · rw [if_neg hs, if_neg hs]
    exact h e

theorem Tallied.query {b : SignalBoard} (h : Tallied n xs b) (m : AgentNode) :
    Tallied n (xs ++ [.query m]) (b.query m).2 := by
  intro e
  have htotal : triggers n e (sinceCollection (xs ++ [.query m]))
      = (tallyTold n e (xs ++ [.query m])).total := rfl
  rw [SignalBoard.get?_query, h e, htotal]
  by_cases hm : m = n
  · subst hm
    have hsame : (tallyTold m e xs).check.2.total = triggers m e (sinceCollection xs) := rfl
    rw [tallyTold_query, hsame]
    by_cases hnone : triggers m e (sinceCollection xs) = 0 <;> simp [hnone]
  · have hne : ¬ n = m := fun heq => hm heq.symm
    have hsame : (tallyTold n e xs).total = triggers n e (sinceCollection xs) := rfl
    rw [tallyTold_query_of_ne hm, hsame]
    simp [hne]

theorem Tallied.collect {b : SignalBoard} (now : UInt64) :
    Tallied n (xs ++ [.collect now]) (b.collect now).2 := by
  intro e
  have hnone : triggers n e (sinceCollection (xs ++ [.collect now])) = 0 := by
    rw [sinceCollection_collect]
    rfl
  rw [if_pos hnone]
  rfl

theorem Tallied.step (h : Tallied n xs d.board) (x : SignalStep) :
    Tallied n (xs ++ [x]) (d.step n x).board := by
  cases x with
  | add s => exact h.add s
  | query m => exact h.query m
  | collect now => exact Tallied.collect now

/-- After any steps the board holds what they make of each endpoint, by induction on them. -/
theorem tallied_of (n : AgentNode) (xs : List SignalStep) : Tallied n xs (of n xs).board := by
  induction xs using List.reverseRecOn with
  | nil => intro e; rfl
  | append_singleton xs x ih =>
    rw [of_concat]
    exact ih.step x

/-! ### What is answered -/

theorem status_tallyTold (n : AgentNode) (e : SlowEndpoint) (xs : List SignalStep) :
    (tallyTold n e xs).status = .ofCounts (triggers n e (upToQuery n (sinceCollection xs)))
      (successes n e (upToQuery n (sinceCollection xs))) := rfl

/-- What the board knows of a property of tallies is told by the endpoints that were triggered. -/
theorem Tallied.exists_iff {b : SignalBoard} (h : Tallied n xs b) (p : SignalTally → Prop)
    (key : String) :
    (∃ e t, b.tallies.get? (n, e) = some t ∧ p t ∧ e.switchKey = key) ↔
      ∃ e : SlowEndpoint, e.switchKey = key ∧ 0 < triggers n e (sinceCollection xs) ∧
        p (tallyTold n e xs) := by
  constructor
  · rintro ⟨e, t, ht, hp, hkey⟩
    rw [h e] at ht
    split at ht
    · cases ht
    · next hsome =>
      obtain rfl := Option.some.inj ht
      exact ⟨e, hkey, Nat.pos_of_ne_zero hsome, hp⟩
  · rintro ⟨e, hkey, hpos, hp⟩
    exact ⟨e, _, by rw [h e, if_neg (Nat.pos_iff_ne_zero.mp hpos)], hp, hkey⟩

variable {key : String}

/-- A key closes through an endpoint that is triggered for the first time, and without success. -/
theorem mem_close_of (n : AgentNode) (xs : List SignalStep) :
    key ∈ ((of n xs).board.query n).1.close ↔ ∃ e : SlowEndpoint, e.switchKey = key ∧
      triggers n e (upToQuery n (sinceCollection xs)) = 0 ∧
      0 < triggers n e (sinceCollection xs) ∧ successes n e (sinceCollection xs) = 0 := by
  rw [SignalBoard.mem_close,
    (tallied_of n xs).exists_iff fun t => t.status = .init ∧ t.next = .closing]
  simp only [next_tallyTold, status_tallyTold, SilentStatus.ofCounts_eq_init,
    SilentStatus.ofCounts_eq_closing]
  refine exists_congr fun e => and_congr_right fun _ => ?_
  constructor
  · rintro ⟨-, hbefore, hnow⟩
    exact ⟨hbefore, hnow⟩
  · rintro ⟨hbefore, hnow⟩
    exact ⟨hnow.1, hbefore, hnow⟩

/-- After a query an endpoint is silent if it was triggered, and never with success. -/
theorem closing_query_of (n : AgentNode) (xs : List SignalStep) :
    ((of n xs).board.query n).2.Closing n key ↔ ∃ e : SlowEndpoint, e.switchKey = key ∧
      0 < triggers n e (sinceCollection xs) ∧ successes n e (sinceCollection xs) = 0 := by
  rw [SignalBoard.closing_query, (tallied_of n xs).exists_iff fun t => t.next = .closing]
  simp only [next_tallyTold, SilentStatus.ofCounts_eq_closing, and_self_left]

/-- A key recovers through an endpoint that succeeds for the first time after a query without any
success, unless another endpoint keeps it silent. -/
theorem mem_recover_of (n : AgentNode) (xs : List SignalStep) :
    key ∈ ((of n xs).board.query n).1.recover ↔
      (∃ e : SlowEndpoint, e.switchKey = key ∧
        0 < triggers n e (upToQuery n (sinceCollection xs)) ∧
        successes n e (upToQuery n (sinceCollection xs)) = 0 ∧
        0 < successes n e (sinceCollection xs)) ∧
      ¬ ∃ e : SlowEndpoint, e.switchKey = key ∧
        0 < triggers n e (sinceCollection xs) ∧ successes n e (sinceCollection xs) = 0 := by
  have hle (e : SlowEndpoint) := successes_le_triggers n e (sinceCollection xs)
  rw [SignalBoard.mem_recover, closing_query_of,
    (tallied_of n xs).exists_iff fun t => t.status = .closing ∧ t.next = .finished]
  refine and_congr_left fun _ => exists_congr fun e => and_congr_right fun _ => ?_
  rw [next_tallyTold, status_tallyTold, SilentStatus.ofCounts_eq_closing,
    SilentStatus.ofCounts_eq_finished (hle e)]
  constructor
  · rintro ⟨-, ⟨htriggers, hbefore⟩, hnow⟩
    exact ⟨htriggers, hbefore, hnow⟩
  · rintro ⟨htriggers, hbefore, hnow⟩
    exact ⟨Nat.lt_of_lt_of_le hnow (hle e), ⟨htriggers, hbefore⟩, hnow⟩

end Dialogue

/-! ### What the order does not matter for -/

/-- Keys that are listed in order, each once, are told from which they are. -/
theorem eq_of_increasing {ks ls : List String} (hks : ks.Pairwise (· < ·))
    (hls : ls.Pairwise (· < ·)) (h : ∀ key, key ∈ ks ↔ key ∈ ls) : ks = ls := by
  have hnodup {js : List String} (hjs : js.Pairwise (· < ·)) : js.Nodup := by
    refine hjs.imp ?_
    rintro j _ hlt rfl
    exact String.lt_irrefl j hlt
  have hperm : ks.Perm ls := (List.perm_ext_iff_of_nodup (hnodup hks) (hnodup hls)).mpr h
  exact hperm.eq_of_pairwise (fun _ _ _ _ hlt hgt => absurd hgt (String.lt_asymm hlt)) hks hls

namespace SignalBoard

variable {b b' b'' : SignalBoard}

/-- Boards that hold the same of every endpoint, in whatever order. -/
def Agree (b b' : SignalBoard) : Prop := ∀ k, b.tallies.get? k = b'.tallies.get? k

theorem Agree.refl (b : SignalBoard) : b.Agree b := fun _ => rfl

theorem Agree.trans (h : b.Agree b') (h' : b'.Agree b'') : b.Agree b'' :=
  fun k => (h k).trans (h' k)

theorem agree_of_perm (h : b.tallies.entries.Perm b'.tallies.entries) : b.Agree b' := by
  intro k
  ext t
  rw [Keyed.get?_eq_some_iff, Keyed.get?_eq_some_iff]
  exact h.mem_iff

namespace Agree

theorem add (h : b.Agree b') (s : Signal) : (b.add s).Agree (b'.add s) := by
  rintro ⟨n, e⟩
  rw [get?_add, get?_add, h (n, e)]

theorem query (h : b.Agree b') (m : AgentNode) : (b.query m).2.Agree (b'.query m).2 := by
  rintro ⟨n, e⟩
  rw [get?_query, get?_query, h (n, e)]

theorem closing_iff (h : b.Agree b') {n : AgentNode} {key : String} :
    b.Closing n key ↔ b'.Closing n key := by
  simp only [Closing, h _]

/-- Boards that agree answer alike. -/
theorem query_eq (h : b.Agree b') (n : AgentNode) : (b.query n).1 = (b'.query n).1 := by
  have hclose : (b.query n).1.close = (b'.query n).1.close := by
    refine eq_of_increasing (pairwise_close b n) (pairwise_close b' n) fun key => ?_
    simp only [mem_close, h _]
  have hrecover : (b.query n).1.recover = (b'.query n).1.recover := by
    refine eq_of_increasing (pairwise_recover b n) (pairwise_recover b' n) fun key => ?_
    rw [mem_recover, mem_recover, (h.query n).closing_iff]
    simp only [h _]
  rw [show (b.query n).1 = ⟨(b.query n).1.close, (b.query n).1.recover⟩ from rfl, hclose, hrecover]

end Agree

/-- Two signals may come in either order. -/
theorem agree_add_comm (b : SignalBoard) (s s' : Signal) :
    ((b.add s).add s').Agree ((b.add s').add s) := by
  rintro ⟨n, e⟩
  have hcomm (t : SignalTally) (p q : Bool) : (t.observe p).observe q = (t.observe q).observe p := by
    simp only [SignalTally.observe, Nat.add_right_comm]
  simp only [get?_add]
  by_cases hs : (s.node, s.endpoint) = (n, e) <;> by_cases hs' : (s'.node, s'.endpoint) = (n, e) <;>
    simp [hs, hs', hcomm]

end SignalBoard

namespace Dialogue

variable {n : AgentNode} {d d' : Dialogue}

/-- Dialogues with the same answers, and boards that agree. -/
def Agree (d d' : Dialogue) : Prop := d.answers = d'.answers ∧ d.board.Agree d'.board

theorem Agree.step (h : d.Agree d') (n : AgentNode) (x : SignalStep) :
    (d.step n x).Agree (d'.step n x) := by
  obtain ⟨hanswers, hboard⟩ := h
  cases x with
  | add s => exact ⟨hanswers, hboard.add s⟩
  | query m =>
    refine ⟨?_, hboard.query m⟩
    simp only [Dialogue.step, hanswers, hboard.query_eq m]
  | collect now => exact ⟨hanswers, fun _ => rfl⟩

theorem Agree.steps (h : d.Agree d') (n : AgentNode) (zs : List SignalStep) :
    (zs.foldl (Dialogue.step n) d).Agree (zs.foldl (Dialogue.step n) d') := by
  induction zs generalizing d d' with
  | nil => exact h
  | cons z zs ih => exact ih (h.step n z)

/-- Signals may come in any order. -/
theorem agree_of_perm {ys ys' : List Signal} (h : ys.Perm ys') (n : AgentNode) (d : Dialogue) :
    ((ys.map .add).foldl (step n) d).Agree ((ys'.map .add).foldl (step n) d) := by
  induction h generalizing d with
  | nil => exact ⟨rfl, .refl _⟩
  | cons s _ ih => exact ih (d.step n (.add s))
  | swap s s' ys =>
    have hswap : Agree { d with board := (d.board.add s').add s }
        { d with board := (d.board.add s).add s' } := ⟨rfl, d.board.agree_add_comm s' s⟩
    exact hswap.steps n (ys.map .add)
  | trans _ _ ih ih' =>
    exact ⟨(ih d).1.trans (ih' d).1, (ih d).2.trans (ih' d).2⟩

end Dialogue

/-- After any steps, for the agent of any node, with the counts of each endpoint since the last
collection, now and up to the last query before: the next answer lists in order, and once, to close
the keys of the endpoints that are triggered for the first time and without any success, and to
recover those of the endpoints that had no success before and have one now, but for the keys of
endpoints that have none yet. No answer depends on the order in which signals came between two
queries, nor on the order in which endpoints are listed. -/
theorem switches_told_by_counts (n : AgentNode) (xs : List SignalStep) :
    let board := (Dialogue.of n xs).board
    let answer := (board.query n).1
    let now := sinceCollection xs
    let before := upToQuery n now
    (Dialogue.of n (xs ++ [.query n])).answers = (Dialogue.of n xs).answers ++ [answer] ∧
    answer.close.Pairwise (· < ·) ∧ answer.recover.Pairwise (· < ·) ∧
    (∀ key, key ∈ answer.close ↔ ∃ e : SlowEndpoint, e.switchKey = key ∧
      triggers n e before = 0 ∧ 0 < triggers n e now ∧ successes n e now = 0) ∧
    (∀ key, key ∈ answer.recover ↔
      (∃ e : SlowEndpoint, e.switchKey = key ∧
        0 < triggers n e before ∧ successes n e before = 0 ∧ 0 < successes n e now) ∧
      ¬ ∃ e : SlowEndpoint, e.switchKey = key ∧ 0 < triggers n e now ∧ successes n e now = 0) ∧
    (∀ (ys ys' : List Signal) (zs : List SignalStep), ys.Perm ys' →
      (Dialogue.of n (xs ++ ys.map .add ++ zs)).answers
        = (Dialogue.of n (xs ++ ys'.map .add ++ zs)).answers) ∧
    ∀ b : SignalBoard, b.tallies.entries.Perm board.tallies.entries → (b.query n).1 = answer := by
  intro board answer now before
  refine ⟨?_, SignalBoard.pairwise_close _ n, SignalBoard.pairwise_recover _ n,
    fun key => Dialogue.mem_close_of n xs, fun key => Dialogue.mem_recover_of n xs,
    fun ys ys' zs hperm => ?_, fun b hb => (SignalBoard.agree_of_perm hb).query_eq n⟩
  · rw [Dialogue.of_concat, Dialogue.step_query]
  · have hsignals := Dialogue.agree_of_perm hperm n (Dialogue.of n xs)
    have hall := (hsignals.steps n zs).1
    simpa only [Dialogue.of, List.foldl_append] using hall

end Ingest
