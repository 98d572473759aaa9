import Ingest.Proofs.CollectedMetrics
import Ingest.Proofs.SwitchProtocol

/-!
How long a key stays switched off. A collection forgets which endpoints are silent, but the agent
keeps their keys switched off; such a key is stranded until it is closed again. Main statements:
what is switched off is what is silent or stranded; so a closed key of which no endpoint is silent
any more has been recovered, unless something was collected in between. In that case it is not
recovered, whatever succeeds.
-/

namespace Ingest

theorem SignalTally.success_of_next_closing {t : SignalTally} (h : t.next = .closing) :
    t.success = 0 := by
  by_contra hsuccess
  cases hs : t.status <;> simp [next, hs, hsuccess] at h
  split at h <;> cases h

/-- What is silent after a query has not succeeded. -/
theorem SignalBoard.success_of_closing {b : SignalBoard} {n : AgentNode} {e : SlowEndpoint}
    {t : SignalTally} (ht : (b.query n).2.tallies.get? (n, e) = some t) (hs : t.status = .closing) :
    t.success = 0 := by
  rw [get?_query, Option.map_eq_some_iff] at ht
  obtain ⟨u, -, rfl⟩ := ht
  rw [if_pos rfl] at hs ⊢
  have hsuccess : u.success = 0 := SignalTally.success_of_next_closing hs
  exact hsuccess

/-- What further answers switch on again, one of them recovers. -/
theorem exists_recover_of_not_mem {as bs : List Switches} {key : String}
    (h : key ∈ switchedOff as) (hnot : key ∉ switchedOff (as ++ bs)) :
    ∃ b ∈ bs, key ∈ b.recover := by
  induction bs using List.reverseRecOn with
  | nil => exact absurd h (by simpa using hnot)
  | append_singleton bs b ih =>
    rw [← List.append_assoc, switchedOff_concat, Switches.mem_followed] at hnot
    by_cases hbefore : key ∈ switchedOff (as ++ bs)
    · exact ⟨b, by simp, by simpa [hbefore] using hnot⟩
    · obtain ⟨b', hb', hrecover⟩ := ih hbefore
      exact ⟨b', List.mem_append_left _ hb', hrecover⟩

namespace Dialogue

variable {n : AgentNode} {d : Dialogue} {xs : List SignalStep} {x : SignalStep} {key : String}

/-! ### What one step answers -/

/-- What a step answers to the agent of a node. -/
def answered (n : AgentNode) (d : Dialogue) : SignalStep → List Switches
  | .query m => if m = n then [(d.board.query n).1] else []
  | _ => []

/-- Whether a step tells the agent of a node to close a key. -/
def Closes (n : AgentNode) (d : Dialogue) (x : SignalStep) (key : String) : Prop :=
  ∃ a ∈ d.answered n x, key ∈ a.close

/-- Whether a step tells the agent of a node to recover a key. -/
def Recovers (n : AgentNode) (d : Dialogue) (x : SignalStep) (key : String) : Prop :=
  ∃ a ∈ d.answered n x, key ∈ a.recover

theorem answers_step (d : Dialogue) (x : SignalStep) :
    (d.step n x).answers = d.answers ++ d.answered n x := by
  cases x with
  | query m => by_cases h : m = n <;> simp [step, answered, h]
  | _ => simp [step, answered]

/-- A step gives the agent of a node no answer, or that to its query. -/
theorem answered_cases (n : AgentNode) (d : Dialogue) (x : SignalStep) :
    d.answered n x = [] ∨ x = .query n ∧ d.answered n x = [(d.board.query n).1] := by
  cases x with
  | query m =>
    by_cases h : m = n
    · exact .inr ⟨congrArg _ h, by simp [answered, h]⟩
    · exact .inl (by simp [answered, h])
  | _ => exact .inl rfl

theorem mem_switchedOff_step :
    key ∈ switchedOff (d.step n x).answers ↔
      (key ∈ switchedOff d.answers ∨ d.Closes n x key) ∧ ¬ d.Recovers n x key := by
  rw [answers_step, Closes, Recovers]
  rcases answered_cases n d x with h | ⟨-, h⟩
  · simp [h]
  · simp [h, switchedOff_concat, Switches.mem_followed]

theorem answered_of_isCollect (h : x.isCollect = true) : d.answered n x = [] := by
  cases x with
  | collect now => rfl
  | _ => cases h

/-- No answer closes and recovers one key. -/
theorem not_recovers_of_closes (h : d.Closes n x key) : ¬ d.Recovers n x key := by
  obtain ⟨a, ha, hclose⟩ := h
  rintro ⟨a', ha', hrecover⟩
  rcases answered_cases n d x with hnone | ⟨-, hone⟩
  · simp [hnone] at ha
  · obtain rfl := List.mem_singleton.mp (hone ▸ ha)
    obtain rfl := List.mem_singleton.mp (hone ▸ ha')
    exact (SignalBoard.mem_recover.mp hrecover).2 (SignalBoard.closing_of_mem_close hclose)

theorem closing_of_recovers (h : d.Recovers n x key) : d.board.Closing n key := by
  obtain ⟨a, ha, hrecover⟩ := h
  rcases answered_cases n d x with hnone | ⟨-, hone⟩
  · simp [hnone] at ha
  · obtain rfl := List.mem_singleton.mp (hone ▸ ha)
    exact SignalBoard.closing_of_mem_recover hrecover

/-- What is silent after a step: nothing once it collects, and else what closes, and what was silent
before and does not recover. -/
theorem closing_step :
    (d.step n x).board.Closing n key ↔ x.isCollect = false ∧
      (d.Closes n x key ∨ d.board.Closing n key ∧ ¬ d.Recovers n x key) := by
  cases x with
  | add s => simp [step, Closes, Recovers, answered, SignalStep.isCollect, SignalBoard.closing_add]
  | collect now => simp [step, SignalStep.isCollect, SignalBoard.not_closing_collect]
  | query m =>
    by_cases hm : m = n
    · subst hm
      simp only [step_query, Closes, Recovers, answered, if_true, List.mem_singleton,
        exists_eq_left, SignalStep.isCollect, true_and]
      constructor
      · intro h
        rcases SignalBoard.closing_or_mem_close h with hbefore | hclose
        · exact .inr ⟨hbefore, fun hrecover => (SignalBoard.mem_recover.mp hrecover).2 h⟩
        · exact .inl hclose
      · rintro (hclose | ⟨hbefore, hrecover⟩)
        · exact SignalBoard.closing_of_mem_close hclose
        · exact SignalBoard.closing_query_of_not_mem_recover hbefore hrecover
    · rw [step_query_of_ne hm]
      simp [Closes, Recovers, answered, hm, SignalStep.isCollect,
        SignalBoard.closing_query_of_ne hm]

/-! ### Answers to further steps -/

/-- What steps answer that come after others. -/
def answersAfter (n : AgentNode) (ys zs : List SignalStep) : List Switches :=
  (of n (ys ++ zs)).answers.drop (of n ys).answers.length

theorem answers_append (n : AgentNode) (ys zs : List SignalStep) :
    (of n (ys ++ zs)).answers = (of n ys).answers ++ answersAfter n ys zs := by
  have hextends : (of n ys).answers <+: (of n (ys ++ zs)).answers := by
    induction zs using List.reverseRecOn with
    | nil => simp
    | append_singleton zs z ih =>
      rw [← List.append_assoc, of_concat, answers_step]
      exact ih.trans (List.prefix_append _ _)
  obtain ⟨as, has⟩ := hextends
  rw [answersAfter, ← has, List.drop_left]

theorem answersAfter_nil (n : AgentNode) (ys : List SignalStep) : answersAfter n ys [] = [] := by
  simp [answersAfter]

theorem answersAfter_concat (n : AgentNode) (ys zs : List SignalStep) (x : SignalStep) :
    answersAfter n ys (zs ++ [x]) = answersAfter n ys zs ++ (of n (ys ++ zs)).answered n x := by
  have h := answers_append n ys (zs ++ [x])
  rw [← List.append_assoc, of_concat, answers_step, answers_append, List.append_assoc] at h
  exact (List.append_cancel_left h).symm

/-! ### Stranded keys -/

/-- Whether a key was silent when something was collected, and was not closed since. -/
def Stranded (n : AgentNode) (xs : List SignalStep) (key : String) : Prop :=
  ∃ ys now zs, xs = ys ++ .collect now :: zs ∧ (of n ys).board.Closing n key ∧
    ∀ a ∈ answersAfter n ys (.collect now :: zs), key ∉ a.close

theorem not_stranded_nil : ¬ Stranded n [] key := by
  rintro ⟨ys, now, zs, h, -⟩
  simp at h

/-- A step strands what is silent if it collects, and ends what it closes. -/
theorem stranded_concat : Stranded n (xs ++ [x]) key ↔
    Stranded n xs key ∧ ¬ (of n xs).Closes n x key ∨
      x.isCollect = true ∧ (of n xs).board.Closing n key := by
  constructor
  · rintro ⟨ys, now, zs, heq, hsilent, hopen⟩
    rcases concat_eq_append_cons heq with ⟨rfl, rfl, rfl⟩ | ⟨zs, rfl, rfl⟩
    · exact .inr ⟨rfl, hsilent⟩
    · rw [← List.cons_append, answersAfter_concat, List.forall_mem_append] at hopen
      exact .inl ⟨⟨ys, now, zs, rfl, hsilent, hopen.1⟩, fun ⟨a, ha, hclose⟩ => hopen.2 a ha hclose⟩
  · rintro (⟨⟨ys, now, zs, rfl, hsilent, hopen⟩, hstep⟩ | ⟨hcollect, hsilent⟩)
    · refine ⟨ys, now, zs ++ [x], by simp, hsilent, ?_⟩
      rw [← List.cons_append, answersAfter_concat, List.forall_mem_append]
      exact ⟨hopen, fun a ha hclose => hstep ⟨a, ha, hclose⟩⟩
    · cases x with
      | collect now =>
        refine ⟨xs, now, [], rfl, hsilent, ?_⟩
        rw [← List.nil_append [SignalStep.collect now], answersAfter_concat, answersAfter_nil]
        simp [answered]
      | _ => cases hcollect

/-- What is stranded is not silent, by induction on the steps. -/
theorem not_closing_of_stranded (h : Stranded n xs key) : ¬ (of n xs).board.Closing n key := by
  induction xs using List.reverseRecOn with
  | nil => exact absurd h not_stranded_nil
  | append_singleton xs x ih =>
    rw [of_concat, closing_step]
    rintro ⟨hcollect, hclosing⟩
    rcases stranded_concat.mp h with ⟨hbefore, hopen⟩ | ⟨hcollect', -⟩
    · exact hclosing.elim hopen fun hsilent => ih hbefore hsilent.1
    · rw [hcollect] at hcollect'
      cases hcollect'

/-- What an agent has switched off is what is silent and what is stranded. A step that collects
moves keys from the one to the other, and an answer adds to the silent ones and takes from them. -/
theorem mem_switchedOff_iff (n : AgentNode) (xs : List SignalStep) (key : String) :
    key ∈ switchedOff (of n xs).answers ↔
      (of n xs).board.Closing n key ∨ Stranded n xs key := by
  induction xs using List.reverseRecOn with
  | nil =>
    have hnone : ¬ (of n []).board.Closing n key := by
      rintro ⟨e, t, ht, -⟩
      simp [of] at ht
    have hoff : key ∉ switchedOff (of n []).answers := by simp [of, switchedOff]
    exact ⟨fun h => absurd h hoff, fun h => (h.elim hnone not_stranded_nil).elim⟩
  | append_singleton xs x ih =>
    rw [of_concat, mem_switchedOff_step, closing_step, stranded_concat, ih]
    cases hcollect : x.isCollect with
    | true =>
      have hsilent : (of n xs).answered n x = [] := answered_of_isCollect hcollect
      simp [Closes, Recovers, hsilent, or_comm]
    | false =>
      simp only [true_and, Bool.false_eq_true, false_and, or_false]
      constructor
      · rintro ⟨(hsilent | hstranded) | hcloses, hrecovers⟩
        · exact .inl (.inr ⟨hsilent, hrecovers⟩)
        · by_cases hcloses : (of n xs).Closes n x key
          · exact .inl (.inl hcloses)
          · exact .inr ⟨hstranded, hcloses⟩
        · exact .inl (.inl hcloses)
      · rintro ((hcloses | ⟨hsilent, hrecovers⟩) | ⟨hstranded, -⟩)
        · exact ⟨.inr hcloses, not_recovers_of_closes hcloses⟩
        · exact ⟨.inl (.inl hsilent), hrecovers⟩
        · exact ⟨.inl (.inr hstranded), fun hrecovers =>
            not_closing_of_stranded hstranded (closing_of_recovers hrecovers)⟩

/-- As long as nothing is collected, a key that was closed is not stranded. -/
theorem not_stranded_of_closes {ys zs : List SignalStep} (h : (of n ys).Closes n x key)
    (hcollect : ∀ z ∈ zs, z.isCollect = false) : ¬ Stranded n (ys ++ [x] ++ zs) key := by
  have hx : x.isCollect = false := by
    by_contra hx
    obtain ⟨a, ha, -⟩ := h
    simp [answered_of_isCollect (by simpa using hx)] at ha
  induction zs using List.reverseRecOn with
  | nil =>
    rw [List.append_nil, stranded_concat]
    simp [h, hx]
  | append_singleton zs z ih =>
    obtain ⟨hzs, hz⟩ := List.forall_mem_append.mp hcollect
    rw [← List.append_assoc, stranded_concat, hz z (List.mem_singleton_self z)]
    rintro (⟨hstranded, -⟩ | ⟨htrue, -⟩)
    · exact ih hzs hstranded
    · cases htrue

/-- Whether a trigger of a key has succeeded since the key was last closed. -/
def SucceededSinceClosed (n : AgentNode) (xs : List SignalStep) (key : String) : Prop :=
  ∃ ys s zs, xs = ys ++ .add s :: zs ∧ s.node = n ∧ s.endpoint.switchKey = key ∧
    s.trace.isProfiled = true ∧ ∀ a ∈ answersAfter n ys (.add s :: zs), key ∉ a.close

end Dialogue

/-- After any steps and a query of the agent of a node: what is switched off is what is silent, for
lack of a success, and what is stranded; and a key that was closed and is not silent any more has
been recovered since, unless something was collected in between. -/
theorem switched_off_while_silent_or_stranded (n : AgentNode) (xs : List SignalStep)
    (key : String) :
    let d := Dialogue.of n (xs ++ [.query n])
    (key ∈ switchedOff d.answers ↔
      d.board.Closing n key ∨ Dialogue.Stranded n (xs ++ [.query n]) key) ∧
    (∀ e t, d.board.tallies.get? (n, e) = some t → t.status = .closing → t.success = 0) ∧
    (∀ ys zs, xs = ys ++ [.query n] ++ zs → key ∈ ((Dialogue.of n ys).board.query n).1.close →
      (∀ z ∈ zs, z.isCollect = false) → ¬ d.board.Closing n key →
      key ∉ switchedOff d.answers ∧
        ∃ a ∈ Dialogue.answersAfter n (ys ++ [.query n]) (zs ++ [.query n]), key ∈ a.recover) := by
  have hoff := Dialogue.mem_switchedOff_iff n (xs ++ [.query n]) key
  refine ⟨hoff, fun e t ht hs => ?_, ?_⟩
  · rw [Dialogue.of_concat, Dialogue.step_query] at ht
    exact SignalBoard.success_of_closing ht hs
  · rintro ys zs rfl hclose hcollect hsilent
    have hcloses : (Dialogue.of n ys).Closes n (.query n) key :=
      ⟨_, by simp [Dialogue.answered], hclose⟩
    have hlast : ∀ z ∈ zs ++ [.query n], z.isCollect = false := by
      simpa [SignalStep.isCollect, or_imp, forall_and] using hcollect
    have hstranded := Dialogue.not_stranded_of_closes hcloses hlast
    rw [← List.append_assoc] at hstranded
    have hnow : key ∉ switchedOff (Dialogue.of n (ys ++ [.query n] ++ zs ++ [.query n])).answers :=
      fun h => (hoff.mp h).elim hsilent hstranded
    have hthen : key ∈ switchedOff (Dialogue.of n (ys ++ [.query n])).answers := by
      rw [Dialogue.of_concat, Dialogue.mem_switchedOff_step]
      exact ⟨.inr hcloses, Dialogue.not_recovers_of_closes hcloses⟩
    refine ⟨hnow, exists_recover_of_not_mem hthen ?_⟩
    rw [← Dialogue.answers_append, ← List.append_assoc]
    exact hnow

/-- A trigger of a process fails and its key is closed; after a collection a trigger succeeds, and
yet the key stays switched off with nothing silent. -/
theorem success_after_collection_recovers_nothing :
    ¬ ∀ (n : AgentNode) (xs : List SignalStep) (key : String),
      Dialogue.SucceededSinceClosed n (xs ++ [.query n]) key →
      key ∈ switchedOff (Dialogue.of n (xs ++ [.query n])).answers →
      (Dialogue.of n (xs ++ [.query n])).board.Closing n key := by
  intro h
  let n : AgentNode := ⟨.none, "10.0.0.1"⟩
  let failing : SignalStep := .add (.ofProcess .none "10.0.0.1" 7 false false)
  let succeeding : Signal := .ofProcess .none "10.0.0.1" 7 true false
  let xs : List SignalStep := [failing, .query n, .collect 1, .add succeeding]
  have hclosed : (Dialogue.of n [failing, .query n]).board.Closing n "7-/stock" := by
    have hclose : "7-/stock" ∈ ((Dialogue.of n [failing]).board.query n).1.close := by
      decide +kernel
    exact SignalBoard.closing_of_mem_close hclose
  have hstranded : Dialogue.Stranded n (xs ++ [.query n]) "7-/stock" :=
    ⟨[failing, .query n], 1, [.add succeeding, .query n], rfl, hclosed, by decide +kernel⟩
  have hsucceeded : Dialogue.SucceededSinceClosed n (xs ++ [.query n]) "7-/stock" :=
    ⟨[failing, .query n, .collect 1], succeeding, [.query n], rfl, rfl, by decide +kernel, rfl,
      by decide +kernel⟩
  have hoff := (Dialogue.mem_switchedOff_iff n (xs ++ [.query n]) "7-/stock").mpr (.inr hstranded)
  exact Dialogue.not_closing_of_stranded hstranded (h n xs "7-/stock" hsucceeded hoff)

end Ingest
