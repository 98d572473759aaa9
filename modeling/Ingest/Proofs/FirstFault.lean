import Mathlib.Data.List.DropRight
import Mathlib.Data.List.Nodup
import Ingest.Proofs.DatabaseNames
import Ingest.Proofs.ServiceLifetimes

/-!
Which settings are valid, and which fault the others have. What settings have to satisfy is listed
here condition by condition: one condition for each override, and two for each table that one names,
told from what stands before it in all lists together. Main statement: settings pass if they are
valid and otherwise have the fault of the first condition that does not hold; and a service with
settings that pass begins all its chores, each with a period.
-/

namespace Ingest

namespace Text

/-- A text without the white space around it. -/
def trimmed (s : String) : String :=
  String.ofList ((s.toList.dropWhile isBlank).rdropWhile isBlank)

/-- Nothing is left of a text only if it is blank throughout. -/
theorem trimmed_eq_empty_iff {s : String} : trimmed s = "" ↔ allBlank s = true := by
  have hempty : trimmed s = "" ↔ (s.toList.dropWhile isBlank).rdropWhile isBlank = [] := by
    rw [trimmed, ← String.toList_inj]
    simp
  rw [hempty, List.rdropWhile_eq_nil_iff, allBlank, List.all_eq_true]
  constructor
  · intro h c hc
    rw [← List.takeWhile_append_dropWhile (p := isBlank) (l := s.toList), List.mem_append] at hc
    exact hc.elim List.mem_takeWhile_imp (h c)
  · exact fun h c hc => h c ((List.dropWhile_sublist _).subset hc)

end Text

theorem Duration.not_isZero_iff {d : Duration} : (!d.isZero) = true ↔ d ≠ .zero := by
  obtain ⟨nanos⟩ := d
  simp [isZero, zero]

/-! ### Conditions -/

/-- Something that settings have to satisfy, and their fault where they do not. -/
structure Condition where
  holds : Prop
  fault : SettingsFault

namespace Condition

/-- Whether a fault is that of the first condition that does not hold. -/
def FirstViolated (cs : List Condition) (fault : SettingsFault) : Prop :=
  ∃ before c after, cs = before ++ c :: after ∧ (∀ b ∈ before, b.holds) ∧ ¬ c.holds ∧
    c.fault = fault

/-- What comes of looking through conditions: a pass if all hold, or the fault of the first that
does not. -/
def Outcome {α : Type} (cs : List Condition) : Except SettingsFault α → Prop
  | .ok _ => ∀ c ∈ cs, c.holds
  | .error fault => FirstViolated cs fault

variable {c : Condition} {cs ds : List Condition} {fault fault' : SettingsFault}

theorem firstViolated_cons : FirstViolated (c :: cs) fault
    ↔ (¬ c.holds ∧ c.fault = fault) ∨ (c.holds ∧ FirstViolated cs fault) := by
  constructor
  · rintro ⟨before, d, after, heq, hbefore, hd, hfault⟩
    cases before with
    | nil =>
      obtain ⟨rfl, -⟩ := List.cons.inj heq
      exact .inl ⟨hd, hfault⟩
    | cons b before =>
      obtain ⟨rfl, rfl⟩ := List.cons.inj heq
      obtain ⟨hb, hbefore⟩ := List.forall_mem_cons.mp hbefore
      exact .inr ⟨hb, before, d, after, rfl, hbefore, hd, hfault⟩
  · rintro (⟨hc, hfault⟩ | ⟨hc, before, d, after, rfl, hbefore, hd, hfault⟩)
    · exact ⟨[], c, cs, rfl, by simp, hc, hfault⟩
    · exact ⟨c :: before, d, after, rfl, List.forall_mem_cons.mpr ⟨hc, hbefore⟩, hd, hfault⟩

theorem FirstViolated.not_all (h : FirstViolated cs fault) : ¬ ∀ c ∈ cs, c.holds := by
  obtain ⟨before, c, after, rfl, -, hc, -⟩ := h
  exact fun hall => hc (hall c (by simp))

/-- There is one first condition at most. -/
theorem FirstViolated.unique (h : FirstViolated cs fault) (h' : FirstViolated cs fault') :
    fault = fault' := by
  induction cs with
  | nil =>
    obtain ⟨before, c, after, heq, -⟩ := h
    simp at heq
  | cons c cs ih =>
    rcases firstViolated_cons.mp h with ⟨hc, rfl⟩ | ⟨hc, hrest⟩
    · rcases firstViolated_cons.mp h' with ⟨-, rfl⟩ | ⟨hc', -⟩
      · rfl
      · exact absurd hc' hc
    · rcases firstViolated_cons.mp h' with ⟨hc', -⟩ | ⟨-, hrest'⟩
      · exact absurd hc hc'
      · exact ih hrest hrest'

namespace Outcome

variable {α β : Type} {x : Except SettingsFault α} {f : α → Except SettingsFault β}

theorem nil (r : α) : Outcome [] (.ok r : Except SettingsFault α) := by simp [Outcome]

theorem violated (hc : ¬ c.holds) (cs : List Condition) :
    Outcome (c :: cs) (.error c.fault : Except SettingsFault α) :=
  firstViolated_cons.mpr (.inl ⟨hc, rfl⟩)

theorem cons (hc : c.holds) (h : Outcome cs x) : Outcome (c :: cs) x := by
  cases x with
  | error fault => exact firstViolated_cons.mpr (.inr ⟨hc, h⟩)
  | ok r => exact List.forall_mem_cons.mpr ⟨hc, h⟩

theorem prepend (hcs : ∀ c ∈ cs, c.holds) (h : Outcome ds x) : Outcome (cs ++ ds) x := by
  induction cs with
  | nil => exact h
  | cons c cs ih =>
    obtain ⟨hc, hcs⟩ := List.forall_mem_cons.mp hcs
    exact (ih hcs).cons hc

/-- Further conditions are looked through only if the first ones hold. -/
theorem append (h : Outcome cs x) (hrest : ∀ r, x = .ok r → Outcome ds (f r)) :
    Outcome (cs ++ ds) (x >>= f) := by
  cases x with
  | error fault =>
    obtain ⟨before, c, after, rfl, hbefore, hc, hfault⟩ := h
    exact ⟨before, c, after ++ ds, by simp, hbefore, hc, hfault⟩
  | ok r => exact (hrest r rfl).prepend h

theorem demand {condition : Bool} (h : condition = true ↔ c.holds) :
    Outcome [c] (Settings.demand condition c.fault) := by
  cases condition with
  | false => exact violated (by simpa using h) []
  | true => exact (nil ()).cons (h.mp rfl)

theorem eq_ok_iff {x : Except SettingsFault Unit} (h : Outcome cs x) :
    x = .ok () ↔ ∀ c ∈ cs, c.holds := by
  cases x with
  | error fault => exact ⟨fun heq => (by cases heq), fun hall => absurd hall h.not_all⟩
  | ok r => exact ⟨fun _ => h, fun _ => rfl⟩

theorem eq_error_iff (h : Outcome cs x) : x = .error fault ↔ FirstViolated cs fault := by
  cases x with
  | error fault' =>
    refine ⟨fun heq => ?_, fun hfirst => ?_⟩
    · obtain rfl := Except.error.inj heq
      exact h
    · rw [FirstViolated.unique h hfirst]
  | ok r => exact ⟨fun heq => (by cases heq), fun hfirst => absurd h hfirst.not_all⟩

end Outcome

end Condition

/-- The elements of a list, each after all that stands before it. -/
def placed {α : Type} (before : List α) : List α → List (List α × α)
  | [] => []
  | x :: xs => (before, x) :: placed (before ++ [x]) xs

namespace Settings

open Condition

/-! ### The conditions of settings -/

/-- Tables that are named after some others have to be known, and not to be among those before. -/
def tableConditions (before tables : List String) : List Condition :=
  (placed before tables).flatMap fun p =>
    [⟨∃ k : Kind, k.table = p.2, .overrideTtlUnknown p.2⟩, ⟨p.2 ∉ p.1, .overrideTtlTwice p.2⟩]

/-- The conditions of overrides that stand after some others: first of the days, then of the tables,
which count among all that were named before. -/
def ttlConditions (before ttl : List TtlOverride) : List Condition :=
  (placed before ttl).flatMap fun p =>
    ⟨0 < p.2.ttlDays, .overrideTtlZero p.2.tables⟩ ::
      tableConditions (p.1.flatMap (·.tables)) p.2.tables

def hashConditions (hash : List HashOverride) : List Condition :=
  hash.flatMap fun o =>
    ⟨Text.trimmed o.hash ≠ "", .overrideHashBlank o.tables⟩ ::
      o.tables.map fun t => ⟨∃ k : Kind, k.table = t, .overrideHashUnknown t⟩

/-- The condition of the pattern for tenants' databases. -/
def PatternFits (pattern : String) : Prop := pattern = "" ∨ ∃ u v, pattern = u ++ tenantHole ++ v

/-- All that settings have to satisfy, in the order in which it is looked at. -/
def conditions (s : Settings) : List Condition :=
  ⟨s.clickhouse.endpoint ≠ "", .noEndpoint⟩ ::
  ⟨s.clickhouse.database ≠ "", .noDatabase⟩ ::
  ⟨0 < s.clickhouse.ttlDays, .noTtl⟩ ::
  (ttlConditions [] s.clickhouse.ttl ++
    (hashConditions s.clickhouse.hash ++
      [⟨PatternFits s.clickhouse.tenantDbPattern, .patternWithoutHole⟩,
        ⟨0 < s.tenancy.traceCacheSize, .noTraceCache⟩,
        ⟨s.signal.collectInterval ≠ .zero, .noCollectInterval⟩,
        ⟨s.statementCache.idleTimeout ≠ .zero, .noIdleTimeout⟩]))

/-- Settings that a service can be run with. -/
structure Valid (s : Settings) : Prop where
  endpoint : s.clickhouse.endpoint ≠ ""
  database : s.clickhouse.database ≠ ""
  ttlDays : 0 < s.clickhouse.ttlDays
  overrideDays : ∀ o ∈ s.clickhouse.ttl, 0 < o.ttlDays
  ttlTables : ∀ o ∈ s.clickhouse.ttl, ∀ t ∈ o.tables, ∃ k : Kind, k.table = t
  /-- No table is named twice, neither in one override nor in two. -/
  ttlOnce : (s.clickhouse.ttl.flatMap (·.tables)).Nodup
  hashes : ∀ o ∈ s.clickhouse.hash, Text.trimmed o.hash ≠ ""
  hashTables : ∀ o ∈ s.clickhouse.hash, ∀ t ∈ o.tables, ∃ k : Kind, k.table = t
  pattern : PatternFits s.clickhouse.tenantDbPattern
  traceCache : 0 < s.tenancy.traceCacheSize
  collectInterval : s.signal.collectInterval ≠ .zero
  idleTimeout : s.statementCache.idleTimeout ≠ .zero

theorem tableConditions_cons (before : List String) (t : String) (ts : List String) :
    tableConditions before (t :: ts)
      = ⟨∃ k : Kind, k.table = t, .overrideTtlUnknown t⟩ :: ⟨t ∉ before, .overrideTtlTwice t⟩ ::
        tableConditions (before ++ [t]) ts := rfl

theorem ttlConditions_cons (before : List TtlOverride) (o : TtlOverride) (os : List TtlOverride) :
    ttlConditions before (o :: os)
      = ⟨0 < o.ttlDays, .overrideTtlZero o.tables⟩ ::
        (tableConditions (before.flatMap (·.tables)) o.tables
          ++ ttlConditions (before ++ [o]) os) := rfl

/-! ### All conditions together -/

/-- The tables hold their conditions if they are known and none comes twice, neither among them nor
after those before. -/
theorem forall_tableConditions_iff : ∀ {before : List String} (tables : List String), before.Nodup →
    ((∀ c ∈ tableConditions before tables, c.holds)
      ↔ (∀ t ∈ tables, ∃ k : Kind, k.table = t) ∧ (before ++ tables).Nodup)
  | before, [], h => by simpa [tableConditions, placed] using h
  | before, t :: ts, h => by
    rw [tableConditions_cons, List.forall_mem_cons, List.forall_mem_cons, List.forall_mem_cons]
    -- Those before grow by this one only if it is new; else both sides fail here.
    by_cases ht : t ∈ before
    · have htwice : ¬ (before ++ t :: ts).Nodup := fun hnodup =>
        List.disjoint_of_nodup_append hnodup ht (by simp)
      simp [ht, htwice]
    · have hnext : (before ++ [t]).Nodup := by
        simpa [List.nodup_append, h] using fun a ha (heq : a = t) => ht (heq ▸ ha)
      rw [forall_tableConditions_iff ts hnext, List.append_assoc, List.singleton_append]
      simp [ht, and_assoc]

theorem forall_ttlConditions_iff : ∀ {before : List TtlOverride} (ttl : List TtlOverride),
    (before.flatMap (·.tables)).Nodup →
      ((∀ c ∈ ttlConditions before ttl, c.holds)
        ↔ (∀ o ∈ ttl, 0 < o.ttlDays) ∧ (∀ o ∈ ttl, ∀ t ∈ o.tables, ∃ k : Kind, k.table = t) ∧
          ((before ++ ttl).flatMap (·.tables)).Nodup)
  | before, [], h => by simpa [ttlConditions, placed] using h
  | before, o :: os, h => by
    rw [ttlConditions_cons, List.forall_mem_cons, List.forall_mem_append,
      forall_tableConditions_iff o.tables h]
    have hbefore : (before ++ [o]).flatMap (·.tables) = before.flatMap (·.tables) ++ o.tables := by
      simp
    by_cases ho : (before.flatMap (·.tables) ++ o.tables).Nodup
    · have hsplit : before ++ o :: os = before ++ [o] ++ os := by simp
      rw [forall_ttlConditions_iff os (hbefore ▸ ho), hsplit, List.forall_mem_cons,
        List.forall_mem_cons]
      constructor
      · rintro ⟨hdays, ⟨hknown, -⟩, hdays', hknown', honce⟩
        exact ⟨⟨hdays, hdays'⟩, ⟨hknown, hknown'⟩, honce⟩
      · rintro ⟨⟨hdays, hdays'⟩, ⟨hknown, hknown'⟩, honce⟩
        exact ⟨hdays, ⟨hknown, ho⟩, hdays', hknown', honce⟩
    · have htwice : ¬ ((before ++ o :: os).flatMap (·.tables)).Nodup := fun hnodup => by
        rw [List.flatMap_append, List.flatMap_cons, ← List.append_assoc] at hnodup
        exact ho hnodup.of_append_left
      simp only [ho, htwice, and_false, false_and]

theorem forall_hashConditions_iff (hash : List HashOverride) :
    (∀ c ∈ hashConditions hash, c.holds)
      ↔ (∀ o ∈ hash, Text.trimmed o.hash ≠ "") ∧
        ∀ o ∈ hash, ∀ t ∈ o.tables, ∃ k : Kind, k.table = t := by
  simp only [hashConditions, List.forall_mem_flatMap, List.forall_mem_cons, List.forall_mem_map,
    forall_and]

theorem forall_conditions_iff (s : Settings) : (∀ c ∈ s.conditions, c.holds) ↔ s.Valid := by
  have httl := @forall_ttlConditions_iff [] s.clickhouse.ttl List.nodup_nil
  simp only [conditions, List.forall_mem_cons, List.forall_mem_append, List.not_mem_nil,
    httl, forall_hashConditions_iff, List.nil_append, IsEmpty.forall_iff, implies_true, and_true]
  constructor
  · rintro ⟨h₁, h₂, h₃, ⟨h₄, h₅, h₆⟩, ⟨h₇, h₈⟩, h₉, h₁₀, h₁₁, h₁₂⟩
    exact ⟨h₁, h₂, h₃, h₄, h₅, h₆, h₇, h₈, h₉, h₁₀, h₁₁, h₁₂⟩
  · rintro ⟨h₁, h₂, h₃, h₄, h₅, h₆, h₇, h₈, h₉, h₁₀, h₁₁, h₁₂⟩
    exact ⟨h₁, h₂, h₃, ⟨h₄, h₅, h₆⟩, ⟨h₇, h₈⟩, h₉, h₁₀, h₁₁, h₁₂⟩

/-! ### The checks, one by one -/

theorem isTable_iff {t : String} : isTable t = true ↔ ∃ k : Kind, k.table = t := by
  simp [isTable, Kind.ofTable?, Kind.mem_all]

/-- The tables seen are kept from the last to the first. -/
theorem outcome_checkTtlTables : ∀ before tables : List String,
    Outcome (tableConditions before tables) (checkTtlTables before.reverse tables)
  | before, [] => .nil _
  | before, t :: ts => by
    rw [checkTtlTables, tableConditions_cons]
    by_cases hknown : isTable t
    · rw [if_neg (by simp [hknown])]
      by_cases hseen : t ∈ before
      · rw [if_pos (List.mem_reverse.mpr hseen)]
        exact .cons (isTable_iff.mp hknown) (.violated (not_not_intro hseen) _)
      · rw [if_neg fun h => hseen (List.mem_reverse.mp h)]
        have hrest := outcome_checkTtlTables (before ++ [t]) ts
        rw [List.reverse_append] at hrest
        exact .cons (isTable_iff.mp hknown) (.cons hseen hrest)
    · rw [if_pos (by simp [hknown])]
      exact .violated (fun h => hknown (isTable_iff.mpr h)) _

theorem seen_of_checkTtlTables : ∀ {seen seen' : List String} (tables : List String),
    checkTtlTables seen tables = .ok seen' → seen' = tables.reverse ++ seen
  | seen, seen', [], h => (Except.ok.inj h).symm
  | seen, seen', t :: ts, h => by
    rw [checkTtlTables] at h
    split at h
    · cases h
    · split at h
      · cases h
      · rw [seen_of_checkTtlTables ts h]
        simp

theorem checkTtl_cons (seen : List String) (o : TtlOverride) (os : List TtlOverride) :
    checkTtl seen (o :: os)
      = if o.ttlDays = 0 then .error (.overrideTtlZero o.tables)
        else checkTtlTables seen o.tables >>= fun seen => checkTtl seen os := by
  rw [checkTtl]
  cases checkTtlTables seen o.tables <;> rfl

theorem outcome_checkTtl : ∀ before ttl : List TtlOverride,
    Outcome (ttlConditions before ttl) (checkTtl (before.flatMap (·.tables)).reverse ttl)
  | before, [] => .nil _
  | before, o :: os => by
    rw [checkTtl_cons, ttlConditions_cons]
    by_cases hdays : o.ttlDays = 0
    · rw [if_pos hdays]
      exact .violated (by simp [hdays]) _
    · rw [if_neg hdays]
      have htables := outcome_checkTtlTables (before.flatMap (·.tables)) o.tables
      refine .cons (Nat.pos_of_ne_zero hdays) (htables.append fun seen hseen => ?_)
      have hrest := outcome_checkTtl (before ++ [o]) os
      rw [List.flatMap_append, List.flatMap_singleton, List.reverse_append] at hrest
      rw [seen_of_checkTtlTables o.tables hseen]
      exact hrest

theorem outcome_checkHashTables : ∀ tables : List String,
    Outcome (tables.map fun t => ⟨∃ k : Kind, k.table = t, .overrideHashUnknown t⟩)
      (checkHashTables tables)
  | [] => .nil _
  | t :: ts => by
    rw [checkHashTables, List.map_cons]
    by_cases hknown : isTable t
    · rw [if_neg (by simp [hknown])]
      exact .cons (isTable_iff.mp hknown) (outcome_checkHashTables ts)
    · rw [if_pos (by simp [hknown])]
      exact .violated (fun h => hknown (isTable_iff.mpr h)) _

theorem checkHash_cons (o : HashOverride) (os : List HashOverride) :
    checkHash (o :: os)
      = if Text.allBlank o.hash then .error (.overrideHashBlank o.tables)
        else checkHashTables o.tables >>= fun _ => checkHash os := by
  rw [checkHash]
  cases checkHashTables o.tables <;> rfl

theorem outcome_checkHash : ∀ hash : List HashOverride,
    Outcome (hashConditions hash) (checkHash hash)
  | [] => .nil _
  | o :: os => by
    rw [checkHash_cons, hashConditions, List.flatMap_cons, List.cons_append]
    by_cases hblank : Text.allBlank o.hash
    · rw [if_pos hblank]
      exact .violated (not_not_intro (Text.trimmed_eq_empty_iff.mpr hblank)) _
    · rw [if_neg hblank]
      exact .cons (fun h => hblank (Text.trimmed_eq_empty_iff.mp h))
        ((outcome_checkHashTables o.tables).append fun _ _ => outcome_checkHash os)

theorem outcome_validate (s : Settings) : Outcome s.conditions s.validate := by
  have hpattern : (s.clickhouse.tenantDbPattern.isEmpty
      || Pattern.hasHole s.clickhouse.tenantDbPattern) = true
        ↔ PatternFits s.clickhouse.tenantDbPattern := by
    rw [Bool.or_eq_true, String.isEmpty_iff, Pattern.hasHole_iff, PatternFits]
  refine (Outcome.demand (by simp)).append fun _ _ => ?_
  refine (Outcome.demand (by simp)).append fun _ _ => ?_
  refine (Outcome.demand (by simp [Nat.pos_iff_ne_zero])).append fun _ _ => ?_
  refine (outcome_checkTtl [] s.clickhouse.ttl).append fun _ _ => ?_
  refine (outcome_checkHash s.clickhouse.hash).append fun _ _ => ?_
  refine (Outcome.demand hpattern).append fun _ _ => ?_
  refine (Outcome.demand (by simp [Nat.pos_iff_ne_zero])).append fun _ _ => ?_
  refine (Outcome.demand Duration.not_isZero_iff).append fun _ _ => ?_
  exact Outcome.demand Duration.not_isZero_iff

theorem validate_eq_ok_iff {s : Settings} : s.validate = .ok () ↔ s.Valid :=
  (outcome_validate s).eq_ok_iff.trans s.forall_conditions_iff

/-- Valid settings give each chore a period; that of the flush is never without one. -/
theorem Valid.period_ne_zero {s : Settings} (h : s.Valid) : ∀ c ∈ Service.chores s, c.2 ≠ 0 := by
  have hperiod {d : Duration} (hd : d ≠ .zero) : d.nanos ≠ 0 := fun hnanos =>
    hd (congrArg Duration.mk hnanos)
  rw [Service.chores, List.forall_mem_cons, List.forall_mem_cons, List.forall_mem_singleton]
  exact ⟨s.clickhouse.effectiveFlushInterval_ne_zero, hperiod h.idleTimeout,
    hperiod h.collectInterval⟩

theorem Valid.begun_eq {s : Settings} (h : s.Valid) :
    Service.begun s = [.flush, .sweep, .collect] := by
  have hall : (Service.chores s).filter (fun c => c.2 != 0) = Service.chores s :=
    List.filter_eq_self.mpr fun c hc => by simpa using h.period_ne_zero c hc
  rw [Service.begun, hall]
  rfl

end Settings

/-- Settings pass just if they are valid, and otherwise have the fault of the first condition that
does not hold. With settings that pass, the flush, the sweep and the collection all have a period, so
that a service that is started begins all three. -/
theorem validation_tells_first_fault (s : Settings) :
    (s.validate = .ok () ↔ s.Valid) ∧
    (∀ fault, s.validate = .error fault ↔ ∃ before c after, s.conditions = before ++ c :: after ∧
      (∀ b ∈ before, b.holds) ∧ ¬ c.holds ∧ c.fault = fault) ∧
    (s.validate = .ok () → (∀ c ∈ Service.chores s, c.2 ≠ 0) ∧
      Service.begun s = [.flush, .sweep, .collect]) := by
  refine ⟨Settings.validate_eq_ok_iff, fun fault => (Settings.outcome_validate s).eq_error_iff,
    fun h => ?_⟩
  have hvalid : s.Valid := Settings.validate_eq_ok_iff.mp h
  exact ⟨hvalid.period_ne_zero, hvalid.begun_eq⟩

/-- Of three faults the first is that a table comes again, in another override than before. -/
example : Settings.validate { clickhouse := {
    endpoint := "store:9000"
    ttl := [⟨["span_trace", "jvm_gc"], 3⟩, ⟨["flame_graph", "jvm_gc", "no_such_table"], 4⟩,
      ⟨[], 0⟩] } }
      = .error (.overrideTtlTwice "jvm_gc") := by
  decide +kernel

end Ingest
