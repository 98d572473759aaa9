import Mathlib.Data.List.Forall2
import Ingest.Proofs.FirstFault

/-!
What overrides say of one table. Only those that name it matter, and of these the last one; where no
table is named twice there is one at most, and then it does not matter where it stands. Main
statement: with valid settings the days of a table are those of the one override that names it, in
whatever order the overrides and their tables are written, its sharding expression is that of the
last override that names it, and overrides that do not name it change nothing.
-/

namespace Ingest

variable {α : Type} {tables : α → List String} {t : String} {os : List α}

/-! ### Overrides that name a table -/

/-- The overrides that name a table, in their order. -/
def naming (tables : α → List String) (t : String) (os : List α) : List α :=
  os.filter fun o => decide (t ∈ tables o)

theorem mem_naming {o : α} : o ∈ naming tables t os ↔ o ∈ os ∧ t ∈ tables o := by
  simp [naming]

theorem naming_eq_nil_iff : naming tables t os = [] ↔ ∀ o ∈ os, t ∉ tables o := by
  simp [naming, List.filter_eq_nil_iff]

theorem find?_reverse_eq (tables : α → List String) (t : String) (os : List α) :
    os.reverse.find? (fun o => decide (t ∈ tables o)) = (naming tables t os).getLast? := by
  rw [← List.head?_filter, List.filter_reverse, List.head?_reverse, naming]

/-- The last override that names a table is followed by others only. -/
theorem getLast?_naming {o : α} (h : (naming tables t os).getLast? = some o) :
    ∃ before after, os = before ++ o :: after ∧ t ∈ tables o ∧ ∀ o' ∈ after, t ∉ tables o' := by
  rw [← find?_reverse_eq, List.find?_eq_some_iff_append] at h
  obtain ⟨hnames, after, before, heq, hafter⟩ := h
  refine ⟨before.reverse, after.reverse, ?_, by simpa using hnames, fun o' ho' => ?_⟩
  · rw [← List.reverse_reverse os, heq]
    simp
  · simpa using hafter o' (List.mem_reverse.mp ho')

/-- Where no table is named twice, one override names it at most: two of them would name it in two
places. -/
theorem naming_of_nodup (h : (os.flatMap tables).Nodup) (t : String) :
    naming tables t os = [] ∨ ∃ o, naming tables t os = [o] := by
  obtain ⟨-, hdisjoint⟩ := List.nodup_flatMap.mp h
  have hpairwise := hdisjoint.sublist (List.filter_sublist (p := fun o => decide (t ∈ tables o)))
  match hnaming : naming tables t os with
  | [] => exact .inl rfl
  | [o] => exact .inr ⟨o, rfl⟩
  | o :: o' :: rest =>
    have hnames : ∀ x ∈ o :: o' :: rest, t ∈ tables x := fun x hx =>
      (mem_naming.mp (hnaming ▸ hx)).2
    rw [← naming, hnaming, List.pairwise_cons] at hpairwise
    exact absurd (hnames o' (by simp)) (hpairwise.1 o' (by simp) (hnames o (by simp)))

namespace ClickHouseSettings

theorem tableSettings_eq (c : ClickHouseSettings) (t : String) : c.tableSettings t
    = ⟨((naming TtlOverride.tables t c.ttl).map (·.ttlDays)).getLast?.getD c.ttlDays,
      (naming HashOverride.tables t c.hash).getLast?.map (·.hash)⟩ := by
  rw [tableSettings, find?_reverse_eq, find?_reverse_eq, List.getLast?_map]

end ClickHouseSettings

/-! ### Another order -/

/-- Whether an override of lifetimes is another one with its tables in another order. -/
def TtlOverride.Alike (o o' : TtlOverride) : Prop :=
  o.ttlDays = o'.ttlDays ∧ o.tables.Perm o'.tables

/-- Whether overrides of lifetimes are others in another order, and their tables in another order. -/
def Reordered (ttl ttl' : List TtlOverride) : Prop :=
  ∃ moved, ttl.Perm moved ∧ List.Forall₂ TtlOverride.Alike moved ttl'

namespace Reordered

variable {ttl ttl' : List TtlOverride}

theorem days_naming_of_alike (h : List.Forall₂ TtlOverride.Alike ttl ttl') (t : String) :
    (naming TtlOverride.tables t ttl).map (·.ttlDays)
      = (naming TtlOverride.tables t ttl').map (·.ttlDays) := by
  induction h with
  | nil => rfl
  | @cons o o' os os' ho _ ih =>
    have hnames : t ∈ o.tables ↔ t ∈ o'.tables := ho.2.mem_iff
    rw [naming, naming] at ih
    by_cases ht : t ∈ o'.tables <;> simp [naming, hnames, ht, ho.1, ih]

/-- The days for a table are the same, in another order. -/
theorem days_naming (h : Reordered ttl ttl') (t : String) :
    ((naming TtlOverride.tables t ttl).map (·.ttlDays)).Perm
      ((naming TtlOverride.tables t ttl').map (·.ttlDays)) := by
  obtain ⟨moved, hmoved, halike⟩ := h
  rw [← days_naming_of_alike halike t]
  exact (hmoved.filter _).map _

/-- One override at most names a table, so that there is nothing to be put in another order. -/
theorem tableSettings_eq {c : ClickHouseSettings} (h : Reordered c.ttl ttl')
    (honce : (c.ttl.flatMap (·.tables)).Nodup) (t : String) :
    { c with ttl := ttl' }.tableSettings t = c.tableSettings t := by
  have hdays : (naming TtlOverride.tables t ttl').map (·.ttlDays)
      = (naming TtlOverride.tables t c.ttl).map (·.ttlDays) := by
    have hperm := (h.days_naming t).symm
    rcases naming_of_nodup honce t with hnone | ⟨o, hone⟩
    · rw [hnone] at hperm ⊢
      exact hperm.eq_nil
    · rw [hone] at hperm ⊢
      exact List.perm_singleton.mp hperm
  simp only [ClickHouseSettings.tableSettings_eq, hdays]

end Reordered

/-- With valid settings, a table has a lifetime of some days: those of the one override that names
it, or the default where none does, however the overrides and their tables are ordered. It has the
sharding expression of the last override that names it, which says something. And as long as the
overrides that name it are the same, it has the same settings, whatever stands before, between and
after them. -/
theorem table_settings_told_by_naming (s : Settings) (h : s.validate = .ok ()) (t : String) :
    let c := s.clickhouse
    0 < (c.tableSettings t).ttlDays ∧
    ((∃ o, naming TtlOverride.tables t c.ttl = [o] ∧ (c.tableSettings t).ttlDays = o.ttlDays) ∨
      (∀ o ∈ c.ttl, t ∉ o.tables) ∧ (c.tableSettings t).ttlDays = c.ttlDays) ∧
    (∀ ttl', Reordered c.ttl ttl' → { c with ttl := ttl' }.tableSettings t = c.tableSettings t) ∧
    ((∃ before o after, c.hash = before ++ o :: after ∧ t ∈ o.tables ∧
        (∀ o' ∈ after, t ∉ o'.tables) ∧ (c.tableSettings t).hash = some o.hash ∧
        Text.trimmed o.hash ≠ "") ∨
      (∀ o ∈ c.hash, t ∉ o.tables) ∧ (c.tableSettings t).hash = none) ∧
    (∀ ttl' hash', naming TtlOverride.tables t ttl' = naming TtlOverride.tables t c.ttl →
      naming HashOverride.tables t hash' = naming HashOverride.tables t c.hash →
      { c with ttl := ttl', hash := hash' }.tableSettings t = c.tableSettings t) := by
  intro c
  have hvalid : s.Valid := Settings.validate_eq_ok_iff.mp h
  have hdays : ((∃ o, naming TtlOverride.tables t c.ttl = [o] ∧
        (c.tableSettings t).ttlDays = o.ttlDays) ∨
      (∀ o ∈ c.ttl, t ∉ o.tables) ∧ (c.tableSettings t).ttlDays = c.ttlDays) := by
    rw [c.tableSettings_eq]
    rcases naming_of_nodup hvalid.ttlOnce t with hnone | ⟨o, hone⟩
    · exact .inr ⟨naming_eq_nil_iff.mp hnone, by simp [c, hnone]⟩
    · exact .inl ⟨o, hone, by simp [c, hone]⟩
  refine ⟨?_, hdays, fun ttl' hreordered => hreordered.tableSettings_eq hvalid.ttlOnce t, ?_,
    fun ttl' hash' httl hhash => ?_⟩
  · rcases hdays with ⟨o, hone, ho⟩ | ⟨-, hdefault⟩
    · have hmem : o ∈ c.ttl := (mem_naming.mp (hone ▸ List.mem_singleton_self o)).1
      exact ho ▸ hvalid.overrideDays o hmem
    · exact hdefault ▸ hvalid.ttlDays
  · rw [c.tableSettings_eq]
    cases hlast : (naming HashOverride.tables t c.hash).getLast? with
    | none => exact .inr ⟨naming_eq_nil_iff.mp (List.getLast?_eq_none_iff.mp hlast), rfl⟩
    | some o =>
      obtain ⟨before, after, heq, ho, hafter⟩ := getLast?_naming hlast
      have hmem : o ∈ c.hash := heq ▸ by simp
      exact .inl ⟨before, o, after, heq, ho, hafter, rfl, hvalid.hashes o hmem⟩
  · simp only [ClickHouseSettings.tableSettings_eq, httl, hhash]

/-- Of two expressions for one table the later counts; the lifetimes may be given the other way
round, and other tables their own. -/
theorem table_settings_told_by_naming_later_expression :
    let s : Settings := { clickhouse := {
      endpoint := "store:9000"
      ttl := [⟨["span_trace", "jvm_gc"], 3⟩, ⟨["flame_graph"], 30⟩]
      hash := [⟨["span_trace"], "cityHash64(trace_id)"⟩, ⟨["span_trace"], "rand()"⟩] } }
    let c := s.clickhouse
    let reversed : List TtlOverride := [⟨["flame_graph"], 30⟩, ⟨["jvm_gc", "span_trace"], 3⟩]
    s.validate = .ok () ∧ c.tableSettings "span_trace" = ⟨3, some "rand()"⟩ ∧
      0 < (c.tableSettings "span_trace").ttlDays ∧
      { c with ttl := reversed }.tableSettings "span_trace" = c.tableSettings "span_trace" ∧
      { c with
        ttl := ⟨["slow_report"], 1⟩ :: c.ttl
        hash := ⟨["jvm_gc"], "pid"⟩ :: c.hash }.tableSettings "span_trace"
          = c.tableSettings "span_trace" := by
  intro s c reversed
  have hvalid : s.validate = .ok () := by decide +kernel
  obtain ⟨hdays, -, hreordered, -, hothers⟩ :=
    table_settings_told_by_naming s hvalid "span_trace"
  have hreversed : Reordered c.ttl reversed :=
    ⟨c.ttl.reverse, (List.reverse_perm _).symm,
      .cons ⟨rfl, .refl _⟩ (.cons ⟨rfl, .swap _ _ _⟩ .nil)⟩
  exact ⟨hvalid, by decide +kernel, hdays, hreordered _ hreversed,
    hothers _ _ (by decide +kernel) (by decide +kernel)⟩

end Ingest
