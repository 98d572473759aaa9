import Ingest.Ingestor
import Ingest.Schedule

/-!
The running service: the core and the chores it does on a schedule. It flushes, sweeps and collects
until it is stopped. Stopping collects, flushes and closes the statements, in this order, so that
nothing is left behind. A service that is started after it was stopped only finishes again, the next
time that anything runs.
-/

namespace Ingest

structure Service (σ : Type) where
  core : Ingestor σ
  schedule : Schedule := {}
  /-- Whether the service was ever stopped. -/
  stopped : Bool := false
  /-- The chores begun after a stop, which have still to finish. -/
  finishing : List Chore := []
  /-- The time of day that scheduled collections note. -/
  wallClock : UInt64 := 0

namespace Service

variable {σ : Type}

def new (settings : Settings) (store : σ) (wallClock : UInt64) (env : Environment := {}) :
    Service σ where
  core := .new settings store env
  wallClock

/-- Does a chore when it is due. -/
def act (b : Backend σ) (wallClock : UInt64) (c : Chore) (s : Ingestor σ) :
    Except TenantInitError Unit × Ingestor σ :=
  match c with
  | .flush => (.ok (), (s.flush b).2)
  | .sweep => (.ok (), s.sweep)
  | .collect =>
    match s.collect b wallClock with
    | (.error e, s) => (.error e, s)
    | (.ok _, s) => (.ok (), s)

/-- Does a chore for the last time. -/
def finish (b : Backend σ) (wallClock : UInt64) (c : Chore) (s : Ingestor σ) :
    Except TenantInitError Unit × Ingestor σ :=
  match c with
  | .sweep => (.ok (), s.closeStatements)
  | c => act b wallClock c s

/-- Finishes chores in order, up to the first that fails. -/
def finishAll (b : Backend σ) (wallClock : UInt64) :
    List Chore → Ingestor σ → Except TenantInitError Unit × Ingestor σ
  | [], s => (.ok (), s)
  | c :: cs, s =>
    match finish b wallClock c s with
    | (.ok _, s) => finishAll b wallClock cs s
    | failed => failed

/-- The chores of the service with their periods, in the order in which they begin. -/
def chores (settings : Settings) : List (Chore × Nat) :=
  [(.flush, settings.clickhouse.effectiveFlushInterval.nanos),
    (.sweep, settings.statementCache.idleTimeout.nanos),
    (.collect, settings.signal.collectInterval.nanos)]

/-- Begins the chores. -/
def beginChores (s : Service σ) : Service σ :=
  let chores := (chores s.core.settings).filter fun c => c.2 != 0
  if s.stopped then { s with finishing := s.finishing ++ chores.map Prod.fst }
  else { s with schedule := chores.foldl (fun q c => q.start c.1 c.2) s.schedule }

/-- Starts the service. -/
def start (b : Backend σ) (s : Service σ) : Except Ingestor.StartError Unit × Service σ :=
  match s.core.prepareDatabase b with
  | (.error e, core) => (.error e, { s with core })
  | (.ok _, core) => (.ok (), { s with core }.beginChores)

/-- Lets the chores begun after a stop finish. -/
def settle (b : Backend σ) (s : Service σ) : Except TenantInitError Unit × Service σ :=
  let (result, core) := finishAll b s.wallClock s.finishing s.core
  (result, { s with core, finishing := [] })

/-- Lets time pass, in which the chores that are due are done. -/
def advance (b : Backend σ) (s : Service σ) (millis : Nat) :
    Except TenantInitError Unit × Service σ :=
  match s.settle b with
  | (.error e, s) => (.error e, s)
  | (.ok _, s) =>
    let (result, schedule, core) := s.schedule.advance (act b s.wallClock) millis s.core
    (result, { s with schedule, core })

/-- The order in which chores end: what is collected can be flushed, and what is flushed needs its
statements. -/
def stopOrder : List Chore := [.collect, .flush, .sweep]

/-- Stops the service. -/
def stop (b : Backend σ) (s : Service σ) : Except TenantInitError Unit × Service σ :=
  match s.settle b with
  | (.error e, s) => (.error e, s)
  | (.ok _, s) =>
    let running := s.schedule.tasks.map (·.chore)
    let last := stopOrder.flatMap fun c => running.filter fun r => decide (r = c)
    let (result, core) := finishAll b s.wallClock last s.core
    (result, { s with core, schedule := { s.schedule with tasks := [] }, stopped := true })

end Service

end Ingest
