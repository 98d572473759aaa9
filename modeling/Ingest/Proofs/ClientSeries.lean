import Mathlib.Data.List.Induction
import Ingest.Metrics.Client

/-!
To which series a call is counted. The metrics of clients find a series by the hash of its labels written
one after the other, and a series keeps the labels with which it began; so calls with different labels,
even of different accounts, are counted in one series where these hashes are equal, as they are for
every hash where the texts are. Main statement, for every hash: under each value of it the series of
latencies has the labels of the first call and the number of all calls, and the series of errors likewise
of the calls that failed. So the numbers of calls with some labels are told exactly, unless other calls
have labels of the same hash.
-/

namespace Ingest

/-! ### Labels with one key -/

namespace ClientLabels

variable {hash : String → UInt64} {l : ClientLabels} {ls : List ClientLabels} {key : UInt64}

/-- Those of some labels that have a key. -/
def withKey (hash : String → UInt64) (key : UInt64) (ls : List ClientLabels) : List ClientLabels :=
  ls.filter fun l => decide (l.seriesKey hash = key)

/-- The first of the labels with a key, and how many have it. -/
def shared (hash : String → UInt64) (key : UInt64) (ls : List ClientLabels) :
    Option (ClientLabels × Nat) :=
  (withKey hash key ls).head?.map fun l => (l, (withKey hash key ls).length)

/-- Whether others with the same key are among some labels. -/
def Collides (hash : String → UInt64) (l : ClientLabels) (ls : List ClientLabels) : Prop :=
  ∃ l' ∈ ls, l' ≠ l ∧ l'.seriesKey hash = l.seriesKey hash

theorem mem_withKey : l ∈ withKey hash key ls ↔ l ∈ ls ∧ l.seriesKey hash = key := by
  simp [withKey]

theorem count_withKey (hash : String → UInt64) (l : ClientLabels) (ls : List ClientLabels) :
    (withKey hash (l.seriesKey hash) ls).count l = ls.count l :=
  List.count_filter (decide_eq_true rfl)

theorem not_collides_iff :
    ¬ l.Collides hash ls ↔ ∀ l' ∈ withKey hash (l.seriesKey hash) ls, l = l' := by
  simp only [Collides, mem_withKey]
  grind

theorem shared_concat (hash : String → UInt64) (key : UInt64) (ls : List ClientLabels)
    (l : ClientLabels) : shared hash key (ls ++ [l]) = if l.seriesKey hash = key
      then some (((shared hash key ls).map fun e => (e.1, e.2 + 1)).getD (l, 1))
      else shared hash key ls := by
  by_cases hl : l.seriesKey hash = key
  · have hgrown : withKey hash key (ls ++ [l]) = withKey hash key ls ++ [l] := by
      simp [withKey, hl]
    cases hfound : withKey hash key ls <;> simp [shared, hl, hgrown, hfound]
  · have hsame : withKey hash key (ls ++ [l]) = withKey hash key ls := by simp [withKey, hl]
    rw [if_neg hl, shared, hsame, shared]

theorem of_mem_shared {e : ClientLabels × Nat} (h : e ∈ shared hash key ls) :
    e.1 ∈ withKey hash key ls ∧ e.2 = (withKey hash key ls).length := by
  obtain ⟨l, hl, rfl⟩ := Option.map_eq_some_iff.mp h
  exact ⟨List.mem_of_head? hl, rfl⟩

theorem exists_shared (hl : l ∈ ls) : ∃ first, shared hash (l.seriesKey hash) ls = some first := by
  have hmem : l ∈ withKey hash (l.seriesKey hash) ls := mem_withKey.mpr ⟨hl, rfl⟩
  obtain ⟨first, rest, hfound⟩ := List.exists_cons_of_ne_nil (List.ne_nil_of_mem hmem)
  exact ⟨_, by rw [shared, hfound]; rfl⟩

end ClientLabels

namespace ClientMetrics

open ClientLabels

/-- The numbers of the series with exactly these labels. -/
def numbersOf (l : ClientLabels) (es : List (ClientLabels × Nat)) : List Nat :=
  (es.filter fun e => decide (e.1 = l)).map Prod.snd

/-- Whether series tell how often labels came: in one series, and in none if they never did. -/
def Attributed (l : ClientLabels) (ls : List ClientLabels) (es : List (ClientLabels × Nat)) : Prop :=
  numbersOf l es = if l ∈ ls then [ls.count l] else []

instance (l : ClientLabels) (ls : List ClientLabels) (es : List (ClientLabels × Nat)) :
    Decidable (Attributed l ls es) :=
  inferInstanceAs (Decidable (_ = _))

/-- One series for a key is right for labels that came if no others came with the key. -/
theorem attributed_shared_iff {hash : String → UInt64} {l : ClientLabels} {ls : List ClientLabels} :
    Attributed l ls (shared hash (l.seriesKey hash) ls).toList ↔
      (l ∈ ls → ¬ l.Collides hash ls) := by
  by_cases hl : l ∈ ls
  · obtain ⟨⟨first, n⟩, hshared⟩ := exists_shared hl
    obtain ⟨hfirst, hn⟩ := of_mem_shared hshared
    rw [Attributed, numbersOf, hshared, if_pos hl, forall_prop_of_true hl, not_collides_iff,
      ← count_withKey hash]
    by_cases hsame : first = l
    · rw [← List.count_eq_length, ← hn]
      simp [hsame, eq_comm]
    · have hother : ¬ ∀ l' ∈ withKey hash (l.seriesKey hash) ls, l = l' :=
        fun h => hsame (h first hfirst).symm
      simp [hsame, hother]
  · have hnone : ∀ e ∈ (shared hash (l.seriesKey hash) ls).toList, e.1 ≠ l := by
      rintro e he rfl
      exact hl (mem_withKey.mp (of_mem_shared (Option.mem_toList.mp he)).1).1
    simpa [Attributed, numbersOf, hl, List.filter_eq_nil_iff] using hnone

/-! ### Families of series -/

section Families

variable {ν : Type} {count : ν → Nat} {hash : String → UInt64} {l : ClientLabels}
  {ls : List ClientLabels}

/-- What one more call under some labels makes of a series, or of none. -/
def counted (l : ClientLabels) (start : ν) (f : ν → ν) (old : Option (ClientLabels × ν)) :
    ClientLabels × ν :=
  let was := old.getD (l, start)
  (was.1, f was.2)

/-- The labels of all series, with what is counted of each. -/
def numbers (count : ν → Nat) (m : Keyed UInt64 (ClientLabels × ν)) : List (ClientLabels × Nat) :=
  m.values.map fun e => (e.1, count e.2)

/-- Whether each series has the labels that came first with its key, and counts how many came. -/
def Reflects (hash : String → UInt64) (count : ν → Nat) (m : Keyed UInt64 (ClientLabels × ν))
    (ls : List ClientLabels) : Prop :=
  ∀ key, (m.get? key).map (fun e => (e.1, count e.2)) = shared hash key ls

variable {m : Keyed UInt64 (ClientLabels × ν)}

theorem Reflects.alter (h : Reflects hash count m ls) {start : ν} {f : ν → ν} (hstart : count start = 0)
    (hf : ∀ v, count (f v) = count v + 1) :
    Reflects hash count (m.alter (l.seriesKey hash) (counted l start f)) (ls ++ [l]) := by
  intro key
  rw [Keyed.alter, Keyed.get?_insert, shared_concat, ← h key]
  by_cases hkey : l.seriesKey hash = key
  · rw [if_pos hkey, if_pos hkey, hkey]
    cases m.get? key <;> simp [counted, hstart, hf]
  · rw [if_neg hkey, if_neg hkey]

/-- A series with some labels is found under their key. -/
theorem Reflects.numbersOf_eq (h : Reflects hash count m ls) (l : ClientLabels) :
    numbersOf l (numbers count m) = numbersOf l (shared hash (l.seriesKey hash) ls).toList := by
  -- A series stands under the key of its own labels, so no other entry can have these labels.
  have hkey : ∀ e ∈ m.entries, e.2.1 = l → e.1 = l.seriesKey hash := by
    rintro ⟨key, e⟩ he rfl
    have hshared := h key
    rw [Keyed.get?_eq_some_iff.mpr he] at hshared
    exact (mem_withKey.mp (of_mem_shared hshared.symm).1).2.symm
  let number (e : UInt64 × ClientLabels × ν) : ClientLabels × Nat := (e.2.1, count e.2.2)
  have hnumbers : numbers count m = m.entries.map number := List.map_map
  have hshared : (shared hash (l.seriesKey hash) ls).toList
      = (m.entries.filter fun e => decide (e.1 = l.seriesKey hash)).map number := by
    rw [← h (l.seriesKey hash), Keyed.filter_entries]
    cases m.get? (l.seriesKey hash) <;> rfl
  rw [numbersOf, numbersOf, hnumbers, hshared, List.filter_map, List.filter_map, List.filter_filter]
  congr 2
  refine List.filter_congr fun e he => ?_
  by_cases hl : e.2.1 = l <;> simp [number, hl, hkey e he]

theorem Reflects.attributed_iff (h : Reflects hash count m ls) (l : ClientLabels) :
    Attributed l ls (numbers count m) ↔ (l ∈ ls → ¬ l.Collides hash ls) := by
  rw [← attributed_shared_iff, Attributed, Attributed, h.numbersOf_eq]

end Families

/-! ### Calls -/

/-- The metrics once some relations were observed, each for an account. -/
def observing (hash : String → UInt64) (withUrl : Bool) (xs : List (String × Relation)) :
    ClientMetrics :=
  xs.foldl (fun m x => m.observe x.1 x.2) { withUrl, hash }

/-- The calls that some relations tell of, each with the account it was made for. -/
def callsOf (xs : List (String × Relation)) : List (String × ServiceClient) :=
  xs.flatMap fun x => x.2.serviceClients.map fun c => (x.1, c)

def failed (calls : List (String × ServiceClient)) : List (String × ServiceClient) :=
  calls.filter fun c => c.2.isError

/-- The labels of some calls. -/
def labelsOfCalls (withUrl : Bool) (calls : List (String × ServiceClient)) : List ClientLabels :=
  calls.map fun c => labelsOf { withUrl } c.1 c.2

/-- Whether metrics tell of some calls, in series found by their keys. -/
structure Tells (m : ClientMetrics) (hash : String → UInt64) (withUrl : Bool)
    (calls : List (String × ServiceClient)) : Prop where
  hash_eq : m.hash = hash
  withUrl_eq : m.withUrl = withUrl
  latency : Reflects hash Histogram.count m.latency (labelsOfCalls withUrl calls)
  errors : Reflects hash id m.errors (labelsOfCalls withUrl (failed calls))

variable {m : ClientMetrics} {hash : String → UInt64} {withUrl : Bool}
  {calls : List (String × ServiceClient)}

theorem latency_observeCall (accountId : String) (m : ClientMetrics) (c : ServiceClient) :
    let l := m.labelsOf accountId c
    (observeCall accountId m c).latency
      = m.latency.alter (l.seriesKey m.hash) (counted l {} fun h => h.observe c.durationNs) := rfl

theorem errors_observeCall (accountId : String) (m : ClientMetrics) (c : ServiceClient) :
    let l := m.labelsOf accountId c
    (observeCall accountId m c).errors
      = if c.isError then m.errors.alter (l.seriesKey m.hash) (counted l 0 (· + 1))
        else m.errors := rfl

theorem tells_new (hash : String → UInt64) (withUrl : Bool) :
    Tells { withUrl, hash } hash withUrl [] :=
  ⟨rfl, rfl, fun _ => rfl, fun _ => rfl⟩

theorem Tells.observeCall (h : m.Tells hash withUrl calls) (c : String × ServiceClient) :
    (m.observeCall c.1 c.2).Tells hash withUrl (calls ++ [c]) := by
  let l := labelsOf { withUrl } c.1 c.2
  have hlabels : m.labelsOf c.1 c.2 = l := by rw [labelsOf, h.withUrl_eq]; rfl
  refine ⟨h.hash_eq, h.withUrl_eq, ?_, ?_⟩
  · rw [latency_observeCall, hlabels, h.hash_eq, labelsOfCalls, List.map_append]
    exact h.latency.alter rfl fun _ => rfl
  · cases herror : c.2.isError with
    | true =>
      have hfailed : failed (calls ++ [c]) = failed calls ++ [c] := by simp [failed, herror]
      rw [errors_observeCall, hlabels, h.hash_eq, if_pos herror, hfailed, labelsOfCalls,
        List.map_append]
      exact h.errors.alter rfl fun _ => rfl
    | false =>
      have hfailed : failed (calls ++ [c]) = failed calls := by simp [failed, herror]
      rw [errors_observeCall, if_neg (by simp [herror]), hfailed]
      exact h.errors

theorem observing_eq (hash : String → UInt64) (withUrl : Bool) (xs : List (String × Relation)) :
    observing hash withUrl xs
      = (callsOf xs).foldl (fun m c => m.observeCall c.1 c.2) { withUrl, hash } := by
  rw [callsOf, List.foldl_flatMap]
  simp only [List.foldl_map]
  rfl

theorem tells_observing (hash : String → UInt64) (withUrl : Bool) (xs : List (String × Relation)) :
    (observing hash withUrl xs).Tells hash withUrl (callsOf xs) := by
  rw [observing_eq]
  induction callsOf xs using List.reverseRecOn with
  | nil => exact tells_new hash withUrl
  | append_singleton calls c ih =>
    rw [List.foldl_append]
    exact ih.observeCall c

/-- Whatever the hash: after relations of any accounts were observed, the series under a key has the
labels of the first call with this key and counts all calls with it, and so it is with the series of
errors and the calls that failed. So some labels have a series that counts the calls with just these
labels, or no series if there was no such call, unless there was one and a call with other labels has the
same key. -/
theorem clients_counted_by_key (hash : String → UInt64) (withUrl : Bool)
    (xs : List (String × Relation)) :
    let m := observing hash withUrl xs
    let all := labelsOfCalls withUrl (callsOf xs)
    let errors := labelsOfCalls withUrl (failed (callsOf xs))
    (∀ key, (m.latency.get? key).map (fun e => (e.1, e.2.count)) = shared hash key all) ∧
    (∀ key, m.errors.get? key = shared hash key errors) ∧
    ∀ l, (Attributed l all (numbers Histogram.count m.latency)
        ↔ (l ∈ all → ¬ l.Collides hash all)) ∧
      (Attributed l errors m.errors.values ↔ (l ∈ errors → ¬ l.Collides hash errors)) := by
  intro m all errors
  have htells := tells_observing hash withUrl xs
  have hvalues : m.errors.values = numbers id m.errors := (List.map_id _).symm
  refine ⟨htells.latency, fun key => ?_, fun l => ⟨htells.latency.attributed_iff l, ?_⟩⟩
  · exact Option.map_id_apply.symm.trans (htells.errors key)
  · rw [hvalues]
    exact htells.errors.attributed_iff l

/-- Labels that are written differently can have one hash. -/
example :
    let l : ClientLabels := ⟨"8yn0iYCKYHlIj4-BwPqk", "orders", "redis", "cache:6379", ""⟩
    let l' : ClientLabels := ⟨"GReLUrM4wMqfg9yzV3KQ", "orders", "redis", "cache:6379", ""⟩
    l.joined ≠ l'.joined ∧ l.seriesKey Text.digest = l'.seriesKey Text.digest := by
  decide +kernel

/-- A service's call to a cache, which failed at once. -/
def failedCallOf (service : String) : Relation :=
  let call : ClientCall := ⟨"", "redis", "cache:6379", "", 0, true⟩
  ⟨"", .node ⟨service, "", "", "", 0, true, false, false, false, [], [], none⟩
    [.node ⟨"", "", "", "", 0, false, false, false, false, [], [], some call⟩ []]⟩

/-- Two calls of different accounts are counted in one series, under the labels of the first; the
account of the second has none. -/
theorem accounts_share_series :
    let xs := [("4", failedCallOf "2fa"), ("42", failedCallOf "fa")]
    let first : ClientLabels := ⟨"4", "2fa", "redis", "cache:6379", ""⟩
    let second : ClientLabels := ⟨"42", "fa", "redis", "cache:6379", ""⟩
    let all := labelsOfCalls false (callsOf xs)
    ∀ hash,
      let m := observing hash false xs
      all = [first, second] ∧ failed (callsOf xs) = callsOf xs ∧
      numbers Histogram.count m.latency = [(first, 2)] ∧ m.errors.values = [(first, 2)] ∧
      ∀ l ∈ all, ¬ Attributed l all (numbers Histogram.count m.latency) ∧
        ¬ Attributed l all m.errors.values := by
  intro xs first second all hash m
  -- The labels are written the same, so they have one key whatever the hash.
  have hkey : second.seriesKey hash = first.seriesKey hash :=
    congrArg hash (by decide +kernel : second.joined = first.joined)
  have hlatency : m.latency = (Keyed.empty.alter (first.seriesKey hash)
      (counted first {} fun h => h.observe 0)).alter (second.seriesKey hash)
        (counted second {} fun h => h.observe 0) := rfl
  have herrors : m.errors = (Keyed.empty.alter (first.seriesKey hash)
      (counted first 0 (· + 1))).alter (second.seriesKey hash) (counted second 0 (· + 1)) := rfl
  rw [hkey, Keyed.alter_alter] at hlatency herrors
  have hcounted : numbers Histogram.count m.latency = [(first, 2)] := by rw [hlatency]; rfl
  have hfailed : m.errors.values = [(first, 2)] := by rw [herrors]; rfl
  refine ⟨by decide +kernel, by decide +kernel, hcounted, hfailed, ?_⟩
  rw [hcounted, hfailed]
  decide +kernel

end ClientMetrics

end Ingest
