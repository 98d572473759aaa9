/-!
Chores that are done over and over on a schedule. Each chore has a period, counted in nanoseconds
from when it was begun, and is due at the first whole millisecond at or after each of its ticks.
Of chores due at one instant the one that was armed first comes first.
-/

namespace Ingest

/-- What the service does on its own. -/
inductive Chore where
  | flush
  | sweep
  | collect
  deriving DecidableEq, Repr

/-- The resolution of the schedule, in nanoseconds. -/
def nanosPerMilli : Nat := 1000000

/-- A chore under way. -/
structure Task where
  chore : Chore
  period : Nat
  begun : Nat
  /-- The next tick. -/
  tick : Nat
  /-- How many times any task had been armed before this one was. -/
  armed : Nat
  deriving DecidableEq, Repr

namespace Task

/-- The millisecond in which the next tick is due. -/
def due (t : Task) : Nat := (t.tick + nanosPerMilli - 1) / nanosPerMilli

/-- The first tick after an instant. -/
def tickAfter (t : Task) (now : Nat) : Nat := t.begun + ((now - t.begun) / t.period + 1) * t.period

/-- Whether a task comes before another one. -/
def before (a b : Task) : Bool := a.due < b.due || (a.due == b.due && a.armed < b.armed)

end Task

/-- The tasks under way, and the time in milliseconds. -/
structure Schedule where
  now : Nat := 0
  tasks : List Task := []
  /-- How many times a task has been armed. -/
  armings : Nat := 0
  deriving DecidableEq, Repr

namespace Schedule

/-- Begins a chore now. One without a period never comes to anything. -/
def start (s : Schedule) (c : Chore) (period : Nat) : Schedule :=
  if period = 0 then s
  else
    let begun := s.now * nanosPerMilli
    { s with
      tasks := s.tasks ++ [⟨c, period, begun, begun + period, s.armings⟩]
      armings := s.armings + 1 }

/-- The task that is due next. -/
def first? (s : Schedule) : Option Task :=
  s.tasks.foldl (fun best t =>
    match best with
    | none => some t
    | some b => if t.before b then some t else some b) none

/-- Moves on to when a task is due, and arms it for its next tick. -/
def fire (s : Schedule) (t : Task) : Schedule :=
  let now := max s.now t.due
  let next := { t with tick := t.tickAfter (now * nanosPerMilli), armed := s.armings }
  { now, tasks := s.tasks.map fun u => if u = t then next else u, armings := s.armings + 1 }

/-- At most how often chores are due up to an instant: each task is due once a millisecond at most. -/
def bound (s : Schedule) (limit : Nat) : Nat :=
  s.tasks.foldl (fun n t => n + (limit + 1 - t.due)) 0

/-- Fires everything due up to an instant in order, with the action of each chore; an action that
fails ends it. The fuel is the bound above. -/
def runUntil {α ε : Type} (act : Chore → α → Except ε Unit × α) (limit : Nat) :
    Nat → Schedule → α → Except ε Unit × Schedule × α
  | 0, s, a => (.ok (), { s with now := max s.now limit }, a)
  | fuel + 1, s, a =>
    match s.first? with
    | none => (.ok (), { s with now := max s.now limit }, a)
    | some t =>
      if t.due ≤ limit then
        match act t.chore a with
        | (.error e, a) => (.error e, s, a)
        | (.ok _, a) => runUntil act limit fuel (s.fire t) a
      else (.ok (), { s with now := max s.now limit }, a)

/-- Lets time pass. -/
def advance {α ε : Type} (act : Chore → α → Except ε Unit × α) (s : Schedule) (millis : Nat) (a : α) :
    Except ε Unit × Schedule × α :=
  let limit := s.now + millis
  runUntil act limit (s.bound limit) s a

end Schedule

end Ingest
