import Ingest.Keyed
import Ingest.Kind

/-!
Counts by kind of record. A kind that was never counted has no entry, so it has no series when the
counts are shown.
-/

namespace Ingest

abbrev KindTally := Keyed Kind Nat

namespace KindTally

def count (m : KindTally) (k : Kind) : Nat := m.getD k 0

def add (m : KindTally) (k : Kind) (n : Nat) : KindTally := m.alter k fun old => old.getD 0 + n

theorem count_add (m : KindTally) (j k : Kind) (n : Nat) :
    count (add m j n) k = count m k + if j = k then n else 0 := by
  by_cases h : j = k
  · subst h; simp [count, add, Keyed.getD, Keyed.alter]
  · simp [count, add, Keyed.getD, Keyed.alter, h]

end KindTally

end Ingest
