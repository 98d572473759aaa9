import Ingest.Duration

/-!
Metrics as an operator sees them: families of series. A series is told from the others of its family
by its labels and holds a number or a histogram.
-/

namespace Ingest

/-- The upper bounds of the buckets of call latencies, in nanoseconds. -/
def latencyBounds : List Nat :=
  [1000000, 5000000, 10000000, 25000000, 50000000, 100000000, 250000000, 500000000, 1000000000,
    2500000000, 5000000000, 10000000000]

/-- How many observations lie at or below each bound, how many there are, and their sum. -/
structure Histogram where
  buckets : List Nat := latencyBounds.map fun _ => 0
  count : Nat := 0
  sum : Float := 0

namespace Histogram

/-- Counts one length of time; the sum is kept in seconds. -/
def observe (h : Histogram) (nanos : UInt64) : Histogram where
  buckets := (latencyBounds.zip h.buckets).map fun b =>
    if nanos.toNat ≤ b.1 then b.2 + 1 else b.2
  count := h.count + 1
  sum := h.sum + nanos.toFloat / 1000000000.0

end Histogram

inductive Sample where
  | number (n : Nat)
  | histogram (h : Histogram)
  /-- A histogram of which only the count is looked at. -/
  | timings (count : Nat)

structure Series where
  labels : List (String × String) := []
  sample : Sample

inductive FamilyKind where
  | counter | gauge | histogram
  deriving DecidableEq, Repr

structure Family where
  name : String
  help : String
  kind : FamilyKind
  series : List Series

namespace Family

/-- The beginning of every family's name. -/
def namespaceOf (name : String) : String := "apm_ingest_" ++ name

/-- A counter without labels. -/
def counter (name help : String) (n : Nat) : Family :=
  ⟨namespaceOf name, help, .counter, [⟨[], .number n⟩]⟩

/-- A gauge without labels. -/
def gauge (name help : String) (n : Nat) : Family :=
  ⟨namespaceOf name, help, .gauge, [⟨[], .number n⟩]⟩

end Family

/-- Why metrics could not be registered. -/
inductive MetricsError where
  | duplicate
  deriving DecidableEq, Repr

def MetricsError.message : MetricsError → String
  | duplicate => "Duplicate metrics collector registration attempted"

/-- Adds families to the names that are registered already, none of which may come again. -/
def registerFamilies (names : List String) (fs : List Family) : Except MetricsError (List String) :=
  if (fs.any fun f => decide (f.name ∈ names)) then .error .duplicate
  else .ok (names ++ fs.map (·.name))

end Ingest
