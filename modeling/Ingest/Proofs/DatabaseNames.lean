import Mathlib.Data.List.Basic
import Ingest.Settings.Validation

/-!
The names of tenants' databases. A hole cannot overlap another one, since its first character comes
only once in it; so a pattern splits at every hole, wherever the hole stands and whatever surrounds
it. Main statement: with settings that are valid, two tenant ids that are not in the map have one
database only if they are equal, however often the pattern repeats the id.
-/

namespace Ingest

namespace Pattern

/-! ### Where the holes are -/

variable {c : Char} {t : List Char}

section
variable {hole : List Char} {d : Char} {rest : List Char}

theorem pieces_succ (hole : List Char) (n : Nat) (d : Char) (rest : List Char) :
    pieces hole (n + 1) (d :: rest) = pieces hole n rest := by
  simp [pieces]

theorem pieces_of_hole (h : hole <+: d :: rest) :
    pieces hole 0 (d :: rest) = .hole :: pieces hole (hole.length - 1) rest := by
  rw [pieces, if_neg (Nat.lt_irrefl 0), if_pos (List.isPrefixOf_iff_prefix.mpr h)]

theorem pieces_of_not_hole (h : ¬ hole <+: d :: rest) :
    pieces hole 0 (d :: rest) = .char d :: pieces hole 0 rest := by
  rw [pieces, if_neg (Nat.lt_irrefl 0), if_neg fun hbool => h (List.isPrefixOf_iff_prefix.mp hbool)]

theorem pieces_eq_drop (hole : List Char) : ∀ (n : Nat) (cs : List Char),
    pieces hole n cs = pieces hole 0 (cs.drop n)
  | _, [] => by simp [pieces]
  | 0, _ :: _ => rfl
  | n + 1, d :: rest => by
    rw [pieces_succ, List.drop_succ_cons, pieces_eq_drop hole n rest]

end

/-- A hole that does not begin in front of another one does not reach into it. -/
theorem not_hole_append (hc : c ∉ t) {w : List Char} (hw : w ≠ []) (v : List Char)
    (h : ¬ c :: t <+: w) : ¬ c :: t <+: w ++ (c :: t ++ v) := by
  intro hmeets
  rcases List.prefix_or_prefix_of_prefix hmeets (List.prefix_append w _) with hwhole | ⟨y, hy⟩
  · exact h hwhole
  · -- The hole goes on after `w`, so its first character comes again in it.
    rw [← hy, List.prefix_append_right_inj] at hmeets
    cases y with
    | nil => exact h ⟨[], by simpa using hy.symm⟩
    | cons d y =>
      obtain ⟨d', w', rfl⟩ := List.exists_cons_of_ne_nil hw
      obtain ⟨rfl, ht⟩ := List.cons.inj hy
      obtain ⟨hd, -⟩ := List.cons_prefix_cons.mp hmeets
      exact hc (by rw [← ht, hd]; simp)

theorem pieces_hole (v : List Char) :
    pieces (c :: t) 0 (c :: t ++ v) = .hole :: pieces (c :: t) 0 v := by
  have hmeets : c :: t <+: c :: (t ++ v) := List.prefix_append (c :: t) v
  rw [List.cons_append, pieces_of_hole hmeets, pieces_eq_drop]
  simp

theorem pieces_append (hc : c ∉ t) (v : List Char) : ∀ (n : Nat) (u : List Char), n ≤ u.length →
    pieces (c :: t) n (u ++ (c :: t ++ v)) = pieces (c :: t) n u ++ .hole :: pieces (c :: t) 0 v
  | n, [], hn => by
    obtain rfl : n = 0 := Nat.le_zero.mp hn
    exact pieces_hole v
  | n + 1, d :: u, hn => by
    rw [List.cons_append, pieces_succ, pieces_succ]
    exact pieces_append hc v n u (Nat.le_of_succ_le_succ hn)
  | 0, d :: u, _ => by
    rw [List.cons_append]
    by_cases h : c :: t <+: d :: u
    · have happend : c :: t <+: d :: (u ++ (c :: t ++ v)) := h.trans (List.prefix_append _ _)
      have hlong : t.length ≤ u.length := by simpa using h.length_le
      rw [pieces_of_hole h, pieces_of_hole happend]
      exact congrArg _ (pieces_append hc v t.length u hlong)
    · have happend : ¬ c :: t <+: d :: (u ++ (c :: t ++ v)) :=
        not_hole_append hc (List.cons_ne_nil d u) v h
      rw [pieces_of_not_hole h, pieces_of_not_hole happend]
      exact congrArg _ (pieces_append hc v 0 u (Nat.zero_le _))

/-- Filling holes with the text of a hole changes nothing. -/
theorem flatMap_pieces {hole : List Char} (hne : hole ≠ []) : ∀ (n : Nat) (cs : List Char),
    (pieces hole n cs).flatMap (fillPiece hole) = cs.drop n
  | n, [] => by simp [pieces]
  | n + 1, d :: rest => by rw [pieces_succ, flatMap_pieces hne n rest, List.drop_succ_cons]
  | 0, d :: rest => by
    by_cases h : hole <+: d :: rest
    · have ih := flatMap_pieces hne (hole.length - 1) rest
      rw [pieces_of_hole h, List.flatMap_cons, ih, fillPiece, List.drop_zero]
      obtain ⟨e, hole', rfl⟩ := List.exists_cons_of_ne_nil hne
      obtain ⟨w, hw⟩ := h
      obtain ⟨rfl, rfl⟩ := List.cons.inj hw
      simp
    · rw [pieces_of_not_hole h, List.flatMap_cons, flatMap_pieces hne 0 rest]
      rfl

theorem toList_tenantHole : tenantHole.toList = '\x7b' :: "TENANT_ID\x7d".toList := by decide

/-! ### Patterns as texts -/

theorem parse_append (u v : String) :
    parse (u ++ tenantHole ++ v) = parse u ++ .hole :: parse v := by
  simp only [parse, String.toList_append, toList_tenantHole, List.append_assoc]
  exact pieces_append (by decide) v.toList 0 u.toList (Nat.zero_le _)

/-- The id stands wherever a hole does. -/
theorem fill_append (u v id : String) :
    fill (u ++ tenantHole ++ v) id = fill u id ++ id ++ fill v id := by
  rw [fill, parse_append]
  simp [fill, fillPiece, String.ofList_append, String.append_assoc]

theorem fill_tenantHole (pattern : String) : fill pattern tenantHole = pattern := by
  have hne : tenantHole.toList ≠ [] := by decide
  rw [fill, parse, flatMap_pieces hne, List.drop_zero, String.ofList_toList]

/-- A pattern has a hole if the text of a hole is somewhere in it. -/
theorem hasHole_iff {pattern : String} :
    hasHole pattern = true ↔ ∃ u v, pattern = u ++ tenantHole ++ v := by
  rw [hasHole, decide_eq_true_eq]
  constructor
  · intro hmem
    obtain ⟨xs, ys, hsplit⟩ := List.append_of_mem hmem
    refine ⟨String.ofList (xs.flatMap (fillPiece tenantHole.toList)),
      String.ofList (ys.flatMap (fillPiece tenantHole.toList)), ?_⟩
    conv_lhs => rw [← fill_tenantHole pattern, fill, hsplit]
    simp [fillPiece, String.ofList_append, String.append_assoc]
  · rintro ⟨u, v, rfl⟩
    simp [parse_append]

/-- A filled pattern is as long as its characters and a copy of the id for each hole. -/
theorem length_flatMap_fillPiece (id : List Char) (ps : List Piece) :
    (ps.flatMap (fillPiece id)).length + ps.count .hole
      = ps.length + ps.count .hole * id.length := by
  induction ps with
  | nil => simp
  | cons p ps ih =>
    cases p with
    | char c => simp [fillPiece] at ih ⊢; omega
    | hole => simp [fillPiece, Nat.add_mul] at ih ⊢; omega

theorem length_fill (pattern id : String) :
    (fill pattern id).length + (parse pattern).count .hole
      = (parse pattern).length + (parse pattern).count .hole * id.length := by
  simpa [fill, ← String.length_toList] using
    length_flatMap_fillPiece id.toList (parse pattern)

/-- A pattern with a hole tells the ids that fill it apart: names of one length come from ids of one
length, and then the id in the first hole is in the same place of both names. -/
theorem fill_inj {pattern : String} (h : hasHole pattern = true) {a b : String} :
    fill pattern a = fill pattern b ↔ a = b := by
  refine ⟨fun heq => ?_, fun heq => heq ▸ rfl⟩
  have hhole : 0 < (parse pattern).count .hole := by
    rw [hasHole, decide_eq_true_eq] at h
    exact List.count_pos_iff.mpr h
  have hlength : a.length = b.length := by
    have ha := length_fill pattern a
    have hb := length_fill pattern b
    rw [heq] at ha
    exact Nat.eq_of_mul_eq_mul_left hhole (by omega)
  obtain ⟨u, v, rfl⟩ := hasHole_iff.mp h
  have hbefore : (fill u a).length = (fill u b).length := by
    have ha := length_fill u a
    have hb := length_fill u b
    rw [hlength] at ha
    omega
  rw [fill_append, fill_append, ← String.toList_inj] at heq
  simp only [String.toList_append, List.append_assoc] at heq
  rw [← String.length_toList, ← String.length_toList] at hbefore hlength
  obtain ⟨-, hrest⟩ := List.append_inj heq hbefore
  obtain ⟨hid, -⟩ := List.append_inj hrest hlength
  exact String.toList_inj.mp hid

end Pattern

namespace Settings

/-- What comes of several checks is fine only if it is fine from each of them on. -/
theorem of_bind_eq_ok {α β : Type} {x : Except SettingsFault α} {f : α → Except SettingsFault β}
    {r : β} (h : x >>= f = .ok r) : ∃ y, x = .ok y ∧ f y = .ok r := by
  cases x with
  | error e => cases h
  | ok y => exact ⟨y, rfl, h⟩

theorem of_demand_eq_ok {condition : Bool} {fault : SettingsFault}
    (h : demand condition fault = .ok ()) : condition = true := by
  cases condition with
  | false => cases h
  | true => rfl

theorem hasHole_of_validate {s : Settings} (h : s.validate = .ok ()) :
    Pattern.hasHole s.clickhouse.tenantPattern = true := by
  obtain ⟨_, -, h⟩ := of_bind_eq_ok h
  obtain ⟨_, -, h⟩ := of_bind_eq_ok h
  obtain ⟨_, -, h⟩ := of_bind_eq_ok h
  obtain ⟨_, -, h⟩ := of_bind_eq_ok h
  obtain ⟨_, -, h⟩ := of_bind_eq_ok h
  obtain ⟨_, hpattern, -⟩ := of_bind_eq_ok h
  have hdemand := of_demand_eq_ok hpattern
  rw [ClickHouseSettings.tenantPattern]
  split
  · decide
  · next hempty => simpa [hempty] using hdemand

end Settings

namespace ClickHouseSettings

variable {c : ClickHouseSettings} {a : String}

theorem tenantDatabase_of_none (h : c.tenantDbMap.get? a = none) :
    c.tenantDatabase a = Pattern.fill c.tenantPattern a := by
  rw [tenantDatabase, h, Option.getD_none]

theorem tenantDatabase_of_some {database : String} (h : c.tenantDbMap.get? a = some database) :
    c.tenantDatabase a = database := by
  rw [tenantDatabase, h, Option.getD_some]

end ClickHouseSettings

/-- With valid settings, ids that are not in the map have one database only if they are equal, and
the name has the id wherever the pattern has a hole; an id in the map has the database it is mapped
to, whatever the pattern. -/
theorem tenant_databases_apart (s : Settings) (h : s.validate = .ok ()) :
    (∀ a b, s.clickhouse.tenantDbMap.get? a = none → s.clickhouse.tenantDbMap.get? b = none →
      (s.clickhouse.tenantDatabase a = s.clickhouse.tenantDatabase b ↔ a = b)) ∧
    (∀ a, s.clickhouse.tenantDbMap.get? a = none →
      ∀ u v, s.clickhouse.tenantPattern = u ++ tenantHole ++ v →
        s.clickhouse.tenantDatabase a = Pattern.fill u a ++ a ++ Pattern.fill v a) ∧
    (∀ a database, s.clickhouse.tenantDbMap.get? a = some database → ∀ pattern,
      { s.clickhouse with tenantDbPattern := pattern }.tenantDatabase a = database) := by
  refine ⟨fun a b ha hb => ?_, fun a ha u v hpattern => ?_, fun a database ha pattern => ?_⟩
  · rw [ClickHouseSettings.tenantDatabase_of_none ha, ClickHouseSettings.tenantDatabase_of_none hb]
    exact Pattern.fill_inj (Settings.hasHole_of_validate h)
  · rw [ClickHouseSettings.tenantDatabase_of_none ha, hpattern, Pattern.fill_append]
  · exact ClickHouseSettings.tenantDatabase_of_some
      (c := { s.clickhouse with tenantDbPattern := pattern }) ha

/-- The pattern repeats the id next to half a hole, and one of the ids is the text of a hole. -/
theorem tenant_databases_apart_repeated :
    let s : Settings := { clickhouse := {
      endpoint := "store:9000"
      tenantDbMap := Keyed.empty.insert "vip" "pinned"
      tenantDbPattern := tenantHole ++ "\x7b" ++ tenantHole ++ "\x7bTENANT" } }
    let database := s.clickhouse.tenantDatabase
    s.validate = .ok () ∧ s.clickhouse.tenantDbMap.get? tenantHole = none ∧
      s.clickhouse.tenantDbMap.get? "\x7b" = none ∧
      (database tenantHole = database "\x7b" ↔ tenantHole = "\x7b") ∧
      database "\x7b" = "\x7b\x7b\x7b\x7bTENANT" ∧ database "vip" = "pinned" := by
  intro s database
  have hvalid : s.validate = .ok () := by decide +kernel
  have hhole : s.clickhouse.tenantDbMap.get? tenantHole = none := by decide +kernel
  have hbrace : s.clickhouse.tenantDbMap.get? "\x7b" = none := by decide +kernel
  obtain ⟨hinj, hplaces, hmapped⟩ := tenant_databases_apart s hvalid
  refine ⟨hvalid, hhole, hbrace, hinj _ _ hhole hbrace, ?_, ?_⟩
  · exact (hplaces _ hbrace "" ("\x7b" ++ tenantHole ++ "\x7bTENANT") (by decide +kernel)).trans
      (by decide +kernel)
  · exact hmapped "vip" "pinned" (by decide +kernel) s.clickhouse.tenantDbPattern

end Ingest
