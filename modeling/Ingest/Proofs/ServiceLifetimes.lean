import Ingest.Proofs.ServiceHistories
import Ingest.Proofs.SingleTenant
import Ingest.Service

/-!
The life of a service. Before and after it is started it is asked for this and that, time passes in
which its chores are done, statements are closed from outside and its store is disturbed. Main
statements: what every chore keeps without failing is kept as time passes; a service that is started
has those chores under way that have a period; and when it is stopped it does these once more, the
collection first, then the flush, and the closing of all statements in place of the sweep.
-/

namespace Ingest

/-! ### Schedules -/

namespace Schedule

variable {α ε : Type} {act : Chore → α → Except ε Unit × α} {P : α → Prop}

/-- The chores under way. -/
def chores (q : Schedule) : List Chore := q.tasks.map (·.chore)

theorem chores_start (q : Schedule) (c : Chore) {period : Nat} (h : period ≠ 0) :
    (q.start c period).chores = q.chores ++ [c] := by
  rw [start, if_neg h, chores, List.map_append]
  rfl

theorem chores_foldl_start : ∀ (cs : List (Chore × Nat)) (q : Schedule), (∀ c ∈ cs, c.2 ≠ 0) →
    (cs.foldl (fun q c => q.start c.1 c.2) q).chores = q.chores ++ cs.map Prod.fst
  | [], q, _ => (List.append_nil _).symm
  | c :: cs, q, h => by
    obtain ⟨hc, hcs⟩ := List.forall_mem_cons.mp h
    rw [List.foldl_cons, chores_foldl_start cs _ hcs, chores_start q c.1 hc, List.append_assoc]
    rfl

theorem chores_fire (q : Schedule) (t : Task) : (q.fire t).chores = q.chores := by
  rw [chores, chores, fire, List.map_map]
  refine List.map_congr_left fun u _ => ?_
  by_cases h : u = t
  · simp [h]
  · simp [h]

/-- What every chore keeps, without failing, is kept up to any instant. -/
theorem runUntil_keeps (hact : ∀ c a, P a → ∃ a', act c a = (.ok (), a') ∧ P a') (limit : Nat) :
    ∀ (fuel : Nat) (q : Schedule) {a : α}, P a →
      ∃ q' a', runUntil act limit fuel q a = (.ok (), q', a') ∧ q'.chores = q.chores ∧ P a'
  | 0, q, a, h => ⟨_, a, rfl, rfl, h⟩
  | fuel + 1, q, a, h => by
    rw [runUntil]
    cases q.first? with
    | none => exact ⟨_, a, rfl, rfl, h⟩
    | some t =>
      dsimp only
      split
      · obtain ⟨a₁, hact₁, h₁⟩ := hact t.chore a h
        obtain ⟨q', a', hrun, hchores, h'⟩ := runUntil_keeps hact limit fuel (q.fire t) h₁
        rw [hact₁]
        exact ⟨q', a', hrun, hchores.trans (q.chores_fire t), h'⟩
      · exact ⟨_, a, rfl, rfl, h⟩

end Schedule

theorem ClickHouseSettings.effectiveFlushInterval_ne_zero (c : ClickHouseSettings) :
    c.effectiveFlushInterval.nanos ≠ 0 := by
  rw [effectiveFlushInterval]
  split
  · decide
  · next h => simpa [Duration.isZero] using h

namespace Settings

/-- Whether the collection of signals has a period. -/
def collects (s : Settings) : Bool := s.signal.collectInterval.nanos != 0

/-- Whether the sweep of idle statements has a period. -/
def sweeps (s : Settings) : Bool := s.statementCache.idleTimeout.nanos != 0

end Settings

/-! ### Steps -/

/-- What happens to a service in front of a store that notes its calls. -/
inductive LiveStep (σ : Type) where
  | serve (x : Request)
  | closeStatement (id : Nat)
  /-- Something happens to the store; its tables begin to fail, for one. -/
  | disturb (f : σ → σ)
  | advance (millis : Nat)

namespace Service

variable {σ : Type}

/-- What a step makes of a service; a step for a tenant whose database cannot be made fails. -/
def take (b : Backend σ) (s : Service (σ × List StoreCall)) :
    LiveStep σ → Except TenantInitError Unit × Service (σ × List StoreCall)
  | .serve x =>
    match s.core.serve b.noting x with
    | (.failed e, core) => (.error e, { s with core })
    | (_, core) => (.ok (), { s with core })
  | .closeStatement id =>
    (.ok (), { s with core.sink.statements := s.core.sink.statements.close id })
  | .disturb f =>
    let (store, calls) := s.core.sink.store
    (.ok (), { s with core.sink.store := (f store, calls) })
  | .advance millis => s.advance b.noting millis

/-- Takes steps, up to the first that fails. -/
def run (b : Backend σ) : List (LiveStep σ) → Service (σ × List StoreCall) →
    Except TenantInitError Unit × Service (σ × List StoreCall)
  | [], s => (.ok (), s)
  | x :: xs, s =>
    match s.take b x with
    | (.ok _, s) => run b xs s
    | failed => failed

/-! ### Chores -/

/-- The chores that have a period, in the order in which they begin. -/
def begun (settings : Settings) : List Chore :=
  ((chores settings).filter fun c => c.2 != 0).map Prod.fst

theorem begun_eq (settings : Settings) : begun settings = .flush ::
    ((if settings.sweeps then [.sweep] else []) ++ if settings.collects then [.collect] else []) := by
  have hflush := settings.clickhouse.effectiveFlushInterval_ne_zero
  by_cases hcollect : settings.collects <;> by_cases hsweep : settings.sweeps <;>
    simp_all [begun, chores, Settings.collects, Settings.sweeps]

/-- The chores that a service ends with. -/
def lastOf (settings : Settings) : List Chore :=
  (if settings.collects then [.collect] else []) ++
    .flush :: if settings.sweeps then [.sweep] else []

theorem finishAll_append (b : Backend σ) (wallClock : UInt64) (ds : List Chore) :
    ∀ (cs : List Chore) {core core' : Ingestor σ},
      finishAll b wallClock cs core = (.ok (), core') →
        finishAll b wallClock (cs ++ ds) core = finishAll b wallClock ds core'
  | [], core, core', h => by
    obtain rfl := congrArg Prod.snd h
    rfl
  | c :: cs, core, core', h => by
    rw [finishAll] at h
    rw [List.cons_append, finishAll]
    cases hc : finish b wallClock c core with
    | mk answer core₁ =>
      rw [hc] at h
      cases answer with
      | error e => cases congrArg Prod.fst h
      | ok _ => exact finishAll_append b wallClock ds cs h

/-- Whether something is kept by every chore, which does not fail. -/
def KeptByChores (b : Backend σ) (P : Ingestor σ → Prop) : Prop :=
  ∀ wallClock c core, P core → ∃ core', act b wallClock c core = (.ok (), core') ∧ P core'

/-- Whether a service that was never stopped has some chores under way, and something holds of its
core. -/
structure Running (P : Ingestor σ → Prop) (cs : List Chore) (s : Service σ) : Prop where
  core : P s.core
  chores_eq : s.schedule.chores = cs
  finishing_eq : s.finishing = []
  stopped_eq : s.stopped = false

namespace Running

variable {b : Backend σ} {P : Ingestor σ → Prop} {cs : List Chore} {s : Service σ}

theorem settle_eq (h : s.Running P cs) : s.settle b = (.ok (), s) := by
  obtain ⟨-, -, hfinishing, -⟩ := h
  cases s
  cases hfinishing
  rfl

/-- What chores keep is kept as time passes, and the same chores stay under way. -/
theorem advance (hP : KeptByChores b P) (h : s.Running P cs) (millis : Nat) :
    ∃ s', s.advance b millis = (.ok (), s') ∧ s'.Running P cs := by
  obtain ⟨q, core, hrun, hchores, hcore⟩ := Schedule.runUntil_keeps (hP s.wallClock)
    (s.schedule.now + millis) (s.schedule.bound (s.schedule.now + millis)) s.schedule h.core
  refine ⟨{ s with schedule := q, core }, ?_,
    ⟨hcore, hchores.trans h.chores_eq, h.finishing_eq, h.stopped_eq⟩⟩
  rw [Service.advance, h.settle_eq]
  dsimp only
  rw [Schedule.advance, hrun]

/-- Once its database is ready, a service begins the chores that have a period. -/
theorem start (h : s.Running P []) {core : Ingestor σ}
    (hprepare : s.core.prepareDatabase b = (.ok (), core)) (hcore : P core) :
    ∃ s', s.start b = (.ok (), s') ∧ s'.Running P (begun core.settings) := by
  let periodic := (chores core.settings).filter fun c => c.2 != 0
  have hperiodic : ∀ c ∈ periodic, c.2 ≠ 0 := fun c hc => by simpa using (List.mem_filter.mp hc).2
  refine ⟨{ s with
    core
    schedule := periodic.foldl (fun q c => q.start c.1 c.2) s.schedule }, ?_,
    hcore, ?_, h.finishing_eq, h.stopped_eq⟩
  · rw [Service.start, hprepare]
    simp [beginChores, h.stopped_eq, periodic]
  · rw [Schedule.chores_foldl_start _ _ hperiodic, h.chores_eq]
    rfl

/-- A service ends with a last collection, flush and closing of all statements, those of them that were
under way. -/
theorem stop {settings : Settings} (h : s.Running P (begun settings)) {core : Ingestor σ}
    (hfinish : finishAll b s.wallClock (lastOf settings) s.core = (.ok (), core)) :
    ∃ s', s.stop b = (.ok (), s') ∧ s'.core = core := by
  have hlast : (stopOrder.flatMap fun c => (s.schedule.tasks.map (·.chore)).filter fun r =>
      decide (r = c)) = lastOf settings := by
    have hchores : s.schedule.tasks.map (·.chore) = begun settings := h.chores_eq
    rw [hchores, begun_eq, lastOf]
    by_cases hcollect : settings.collects <;> by_cases hsweep : settings.sweeps <;>
      simp [hcollect, hsweep, stopOrder]
  refine ⟨{ s with core, schedule := { s.schedule with tasks := [] }, stopped := true }, ?_, rfl⟩
  rw [Service.stop, h.settle_eq]
  dsimp only
  rw [hlast, hfinish]

end Running

end Service

end Ingest
