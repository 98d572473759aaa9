/-!
What is counted of one slow endpoint, and the protocol by which its profiling is switched off and on.
An endpoint all of whose triggers failed is reported to be closed; once a trigger has succeeded it
is reported to be recovered. A status moves only when it is checked, so signals between two checks
count as one.
-/

namespace Ingest

/-- Where an endpoint stands in the protocol. -/
inductive SilentStatus where
  /-- Not yet decided. -/
  | init
  /-- Reported to be closed, and silent since. -/
  | closing
  /-- Seen to succeed; nothing more is reported. -/
  | finished
  deriving DecidableEq, Repr, Inhabited

/-- What one check of an endpoint says. -/
structure StatusCheck where
  toClose : Bool
  toRecover : Bool
  /-- Whether the endpoint is silent after the check. -/
  silent : Bool
  deriving DecidableEq, Repr

/-- Triggers and successes of one endpoint, and its status. -/
structure SignalTally where
  total : Nat := 0
  success : Nat := 0
  status : SilentStatus := .init
  deriving DecidableEq, Repr

namespace SignalTally

/-- Counts one trigger. -/
def observe (t : SignalTally) (succeeded : Bool) : SignalTally :=
  { t with total := t.total + 1, success := t.success + if succeeded then 1 else 0 }

/-- The status after a check. -/
def next (t : SignalTally) : SilentStatus :=
  match t.status with
  | .init => if t.total = 0 then .init else if t.success = 0 then .closing else .finished
  | .closing => if t.success = 0 then .closing else .finished
  | .finished => .finished

/-- Checks the endpoint: it closes on the way from undecided to silent, and recovers on the way from
silent to finished. -/
def check (t : SignalTally) : StatusCheck × SignalTally :=
  let next := t.next
  ({ toClose := t.status = .init && next = .closing
     toRecover := t.status = .closing && next = .finished
     silent := next = .closing },
   { t with status := next })

end SignalTally

end Ingest
