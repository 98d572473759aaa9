import Ingest.Proofs.Decimal
import Ingest.Proofs.SwitchProtocol

/-!
Keys of different processes and urls do not meet. A key is a number, a dash and any text, and it is
read back in one way, because the number ends at the first dash. Main statement: keys are equal just
where process and url are; so what an agent is told of one process and url on its node stays the same
when all signals of others are left out.
-/

namespace Ingest

/-! ### Reading a key -/

namespace SlowEndpoint

theorem toList_switchKey (e : SlowEndpoint) :
    e.switchKey.toList = e.mutatedPid.toNat.repr.toList ++ '-' :: e.mutatedUrl.toList := by
  simp [switchKey]

/-- The process is the number up to the first dash, whatever the url is. -/
theorem readNat_switchKey (e : SlowEndpoint) :
    Text.readNat e.switchKey.toList = some (e.mutatedPid.toNat, '-' :: e.mutatedUrl.toList) := by
  rw [toList_switchKey, Text.readNat_repr _ (Text.ends_cons (by decide))]

theorem switchKey_eq_iff {e e' : SlowEndpoint} :
    e.switchKey = e'.switchKey ↔ e.mutatedPid = e'.mutatedPid ∧ e.mutatedUrl = e'.mutatedUrl := by
  constructor
  · intro h
    have hread := e.readNat_switchKey
    rw [h, readNat_switchKey, Option.some.injEq, Prod.mk.injEq] at hread
    obtain ⟨hpid, hurl⟩ := hread
    exact ⟨(UInt32.toNat_inj.mp hpid).symm, (String.toList_inj.mp (List.cons.inj hurl).2).symm⟩
  · rintro ⟨hpid, hurl⟩
    rw [switchKey, switchKey, hpid, hurl]

end SlowEndpoint

/-! ### Boards that agree on a key -/

namespace SignalBoard

variable {b b' : SignalBoard} {n : AgentNode} {key : String}

/-- Boards that hold the same of every endpoint of a node that is switched by a key. -/
def AgreeOn (n : AgentNode) (key : String) (b b' : SignalBoard) : Prop :=
  ∀ e : SlowEndpoint, e.switchKey = key → b.tallies.get? (n, e) = b'.tallies.get? (n, e)

namespace AgreeOn

/-- Such boards know the same of what is switched by the key. -/
theorem exists_iff (h : AgreeOn n key b b') (p : SignalTally → Prop) :
    (∃ e t, b.tallies.get? (n, e) = some t ∧ p t ∧ e.switchKey = key) ↔
      ∃ e t, b'.tallies.get? (n, e) = some t ∧ p t ∧ e.switchKey = key := by
  constructor
  · rintro ⟨e, t, ht, hp, hkey⟩
    exact ⟨e, t, (h e hkey).symm.trans ht, hp, hkey⟩
  · rintro ⟨e, t, ht, hp, hkey⟩
    exact ⟨e, t, (h e hkey).trans ht, hp, hkey⟩

theorem add (h : AgreeOn n key b b') (s : Signal) : AgreeOn n key (b.add s) (b'.add s) := by
  intro e he
  rw [get?_add, get?_add, h e he]

/-- A signal on another node, or of another key, makes no difference. -/
theorem add_aside (h : AgreeOn n key b b') {s : Signal}
    (hs : s.node = n → s.endpoint.switchKey ≠ key) : AgreeOn n key (b.add s) b' := by
  intro e he
  have hne : ¬ (s.node, s.endpoint) = (n, e) := by
    intro heq
    obtain ⟨hnode, rfl⟩ := Prod.mk.inj heq
    exact hs hnode he
  rw [get?_add, if_neg hne, h e he]

theorem query (h : AgreeOn n key b b') (m : AgentNode) :
    AgreeOn n key (b.query m).2 (b'.query m).2 := by
  intro e he
  rw [get?_query, get?_query, h e he]

theorem collect (now : UInt64) : AgreeOn n key (b.collect now).2 (b'.collect now).2 :=
  fun _ _ => rfl

theorem closing_iff (h : AgreeOn n key b b') : b.Closing n key ↔ b'.Closing n key :=
  h.exists_iff fun t => t.status = .closing

theorem mem_close_iff (h : AgreeOn n key b b') :
    key ∈ (b.query n).1.close ↔ key ∈ (b'.query n).1.close := by
  rw [mem_close, mem_close]
  exact h.exists_iff fun t => t.status = .init ∧ t.next = .closing

theorem mem_recover_iff (h : AgreeOn n key b b') :
    key ∈ (b.query n).1.recover ↔ key ∈ (b'.query n).1.recover := by
  rw [mem_recover, mem_recover, (h.query n).closing_iff]
  exact and_congr_left fun _ => h.exists_iff fun t => t.status = .closing ∧ t.next = .finished

end AgreeOn

end SignalBoard

/-! ### Two runs -/

/-- Whether answers say the same of a key. -/
def Switches.SameFor (key : String) (a a' : Switches) : Prop :=
  (key ∈ a.close ↔ key ∈ a'.close) ∧ (key ∈ a.recover ↔ key ∈ a'.recover)

/-- Whether a step is no signal, or one of a process and url on a node. -/
def SignalStep.concerns (n : AgentNode) (pid : UInt32) (url : String) : SignalStep → Bool
  | add s => decide (s.node = n ∧ s.trace.pid = pid ∧ s.trace.url = url)
  | _ => true

theorem SignalStep.of_not_concerns {n : AgentNode} {e : SlowEndpoint} {x : SignalStep}
    (h : x.concerns n e.mutatedPid e.mutatedUrl = false) :
    ∃ s, x = .add s ∧ (s.node = n → s.endpoint.switchKey ≠ e.switchKey) := by
  cases x with
  | add s =>
    refine ⟨s, rfl, fun hnode hkey => ?_⟩
    obtain ⟨hpid, hurl⟩ := SlowEndpoint.switchKey_eq_iff.mp hkey
    exact of_decide_eq_false h ⟨hnode, hpid, hurl⟩
  | query m => cases h
  | collect now => cases h

namespace Dialogue

variable {n : AgentNode} {key : String} {d d' : Dialogue}

/-- Dialogues that have said the same of a key, on boards that agree on it. -/
structure AgreeOn (n : AgentNode) (key : String) (d d' : Dialogue) : Prop where
  board : d.board.AgreeOn n key d'.board
  answers : List.Forall₂ (Switches.SameFor key) d.answers d'.answers

theorem AgreeOn.step (h : AgreeOn n key d d') (x : SignalStep) :
    AgreeOn n key (d.step n x) (d'.step n x) := by
  cases x with
  | add s => exact ⟨h.board.add s, h.answers⟩
  | collect now => exact ⟨.collect now, h.answers⟩
  | query m =>
    by_cases hm : m = n
    · subst hm
      rw [step_query, step_query]
      have hlast : Switches.SameFor key (d.board.query m).1 (d'.board.query m).1 :=
        ⟨h.board.mem_close_iff, h.board.mem_recover_iff⟩
      exact ⟨h.board.query m, List.rel_append h.answers (.cons hlast .nil)⟩
    · rw [step_query_of_ne hm, step_query_of_ne hm]
      exact ⟨h.board.query m, h.answers⟩

theorem AgreeOn.aside (h : AgreeOn n key d d') {s : Signal}
    (hs : s.node = n → s.endpoint.switchKey ≠ key) : AgreeOn n key (d.step n (.add s)) d' :=
  ⟨h.board.add_aside hs, h.answers⟩

/-- Signals of others may be left out, by induction on the steps. -/
theorem agreeOn_filter (n : AgentNode) (e : SlowEndpoint) (xs : List SignalStep) :
    AgreeOn n e.switchKey (of n xs)
      (of n (xs.filter fun x => x.concerns n e.mutatedPid e.mutatedUrl)) := by
  induction xs using List.reverseRecOn with
  | nil => exact ⟨fun _ _ => rfl, .nil⟩
  | append_singleton xs x ih =>
    rw [List.filter_append, of_concat]
    cases hx : x.concerns n e.mutatedPid e.mutatedUrl with
    | true =>
      rw [List.filter_singleton, hx, cond_true, of_concat]
      exact ih.step x
    | false =>
      obtain ⟨s, rfl, hs⟩ := SignalStep.of_not_concerns hx
      rw [List.filter_singleton, hx, cond_false, List.append_nil]
      exact ih.aside hs

end Dialogue

/-- Signals have one key just if they are of one process and one url. So for the agent of any node and
any process and url: after any signals, queries and collections, of any tenants and nodes, as many
answers were given as without all signals of another node, process or url, and each of them closes
the key, and recovers it, just if the corresponding one does. -/
theorem verdicts_apart (n : AgentNode) (e : SlowEndpoint) (xs : List SignalStep) :
    (∀ s s' : Signal, s.endpoint.switchKey = s'.endpoint.switchKey ↔
      s.trace.pid = s'.trace.pid ∧ s.trace.url = s'.trace.url) ∧
    List.Forall₂ (Switches.SameFor e.switchKey) (Dialogue.of n xs).answers
      (Dialogue.of n (xs.filter fun x => x.concerns n e.mutatedPid e.mutatedUrl)).answers :=
  ⟨fun _ _ => SlowEndpoint.switchKey_eq_iff, (Dialogue.agreeOn_filter n e xs).answers⟩

end Ingest
