import Ingest.Proofs.CacheBatches
import Ingest.Proofs.RowContents
import Ingest.Proofs.TimeLiterals

/-!
Agent events, whose time is a second that may lie beyond the last date. The text of a second is given
here by its shape, a date and a time of day that the calendar has. Main statement: each event that has
a date gives one row, which names its second in this shape and is told by that event alone; an event
without a date gives none and leaves the other rows as they are.
-/

namespace Ingest

namespace Calendar

/-! ### Texts of seconds -/

/-- A year in four digits; one that has more of them stands behind a plus sign. -/
def yearChars (year : Nat) : List Char :=
  if year ≤ 9999 then digits 4 year else '+' :: year.repr.toList

/-- A date and a time of day in the shape `YYYY-MM-DD hh:mm:ss`. -/
def secondChars (d : Date) (t : TimeOfDay) : List Char :=
  yearChars d.year ++ '-' :: (digits 2 d.month ++ '-' :: (digits 2 d.day ++ ' ' ::
    (digits 2 t.hour ++ ':' :: (digits 2 t.minute ++ ':' :: digits 2 t.second))))

/-- Whether a text is a date and a time of day of the calendar, so many seconds after the epoch. -/
def Names (text : String) (s : Nat) : Prop :=
  ∃ d t, text.toList = secondChars d t ∧ d.Exists ∧ t.Exists ∧ epoch.dayNumber ≤ d.dayNumber ∧
    s = 86400 * (d.dayNumber - epoch.dayNumber) + t.seconds

theorem toList_yearText (year : Nat) : (yearText year).toList = yearChars year := by
  rw [yearText, yearChars]
  split
  · exact toList_padded_eq_digits (by decide) (by omega)
  · rw [String.toList_append]
    rfl

/-- How a date and a time of day are written, each part padded to its width. -/
theorem toList_dateText_timeText {d : Date} {t : TimeOfDay} (hd : d.Exists) (ht : t.Exists) :
    (dateText d ++ " " ++ timeText t).toList = secondChars d t := by
  obtain ⟨hmonth, hmonth', hday, hday'⟩ := hd
  obtain ⟨hhour, hminute, hsecond⟩ := ht
  have hlength := monthLength_le d.year d.month
  have htwo {n : Nat} (hn : n < 100) : (padded 2 n).toList = digits 2 n :=
    toList_padded_eq_digits (by decide) hn
  rw [secondChars, ← toList_yearText, ← htwo (n := d.month) (by omega),
    ← htwo (n := d.day) (by omega), ← htwo (n := t.hour) (by omega),
    ← htwo (n := t.minute) (by omega), ← htwo (n := t.second) (by omega)]
  simp [dateText, timeText]

/-- A text is read as the second that it names, so it names one second only. -/
theorem Names.read {text : String} {s : Nat} (h : Names text s) : readSeconds text = some s := by
  obtain ⟨d, t, htext, hd, ht, hepoch, rfl⟩ := h
  rw [← toList_dateText_timeText hd ht] at htext
  have hsplit : text.toList = (dateText d).toList ++ ' ' :: (timeText t).toList := by
    rw [htext]
    simp
  have htime : readTime (timeText t).toList = some (t, []) := by
    simpa using readTime_timeText t Text.ends_nil
  rw [readSeconds, readInstant, hsplit, readDate_dateText]
  simp [htime, hd, ht, hepoch]

theorem names_secondsText (s : Nat) : Names (secondsText s) s := by
  obtain ⟨hdate, hdays⟩ := dateOf_spec (s / 86400)
  obtain ⟨htime, hseconds⟩ := timeOf_spec (Nat.mod_lt s (by decide : 0 < 86400))
  refine ⟨_, _, toList_dateText_timeText hdate htime, hdate, htime, ?_, ?_⟩
  · rw [hdays]
    omega
  · rw [hdays, hseconds, Nat.add_sub_cancel, Nat.div_add_mod]

example : secondsText lastSecond = "+262142-12-31 23:59:59" := by decide +kernel

end Calendar

/-! ### Rows of agent events -/

/-- The text in the first column of a row. -/
def Row.firstText? (row : Row) : Option String :=
  match Sql.readRow row with
  | some (.scalar (.text t) :: _) => some t
  | _ => none

/-- The rows that agent events are written as. -/
def agentEventRows (rs : List AgentEvent) : List Row := rowsOf (rs.map .agentEvent) .agentEvent

namespace AgentEvent

/-- The values of an event as they are if its second has a date. -/
def datedValues (r : AgentEvent) : List Sql.Value :=
  [.text (Calendar.secondsText r.timestampS.toNat), .text r.name, idValue r.pid,
    labelsValue r.labels, .bool r.status]

theorem values?_eq (r : AgentEvent) :
    r.values? = if r.timestampS.toNat ≤ Calendar.lastSecond then some r.datedValues else none := by
  rw [values?, Calendar.secondsText?]
  split <;> rfl

theorem fits_datedValues (r : AgentEvent) : Fits .agentEvent r.column r.datedValues := by
  simp [Fits, Kind.columns, column, datedValues]

theorem firstText?_datedValues (r : AgentEvent) :
    Row.firstText? (Sql.renderTuple r.datedValues)
      = some (Calendar.secondsText r.timestampS.toNat) := by
  rw [Row.firstText?, Sql.readRow_renderTuple]
  rfl

end AgentEvent

theorem agentEventRows_append (rs rs' : List AgentEvent) :
    agentEventRows (rs ++ rs') = agentEventRows rs ++ agentEventRows rs' := by
  rw [agentEventRows, List.map_append, rowsOf_append]
  rfl

/-- An event is kept with its row or skipped without one. -/
theorem agentEventRows_singleton (r : AgentEvent) :
    agentEventRows [r] = if r.timestampS.toNat ≤ Calendar.lastSecond
      then [Sql.renderTuple r.datedValues] else [] := by
  have hrows : agentEventRows [r] = (r.values?.toList).map Sql.renderTuple := by
    simp [agentEventRows, rowsOf, Event.kind, Event.rows, Event.tuples]
  rw [hrows, r.values?_eq]
  split <;> rfl

/-- By induction on the events, one after the other. -/
theorem agentEventRows_eq (rs : List AgentEvent) :
    agentEventRows rs = (rs.filter fun r => decide (r.timestampS.toNat ≤ Calendar.lastSecond)).map
      fun r => Sql.renderTuple r.datedValues := by
  induction rs with
  | nil => rfl
  | cons r rs ih =>
    have hcons : agentEventRows (r :: rs) = agentEventRows [r] ++ agentEventRows rs :=
      agentEventRows_append [r] rs
    rw [hcons, agentEventRows_singleton, ih]
    by_cases h : r.timestampS.toNat ≤ Calendar.lastSecond <;> simp [h]

theorem firstText?_of_mem_singleton {r : AgentEvent} {row : Row} (h : row ∈ agentEventRows [r]) :
    row.firstText? = some (Calendar.secondsText r.timestampS.toNat) := by
  rw [agentEventRows_singleton] at h
  split at h
  · rw [List.mem_singleton.mp h]
    exact r.firstText?_datedValues
  · cases h

/-- Of any agent events, those up to the last second of the calendar give one row each, in their
order, and the others none. A row shows the contents of its event; in its first column stands a date
and time of the calendar, in four digits of the year or behind a plus sign, that is just the second of
the event and is read back as that second. The rows of some events are those of each of them alone, so
an event beyond the last second changes no other row; and rows with the same date and time are of
events of the same second. -/
theorem agent_events_kept_one_by_one :
    (∀ rs : List AgentEvent, List.Forall₂
      (fun r row => Row.Shows .agentEvent r.column row ∧ ∃ text, row.firstText? = some text ∧
        Calendar.Names text r.timestampS.toNat ∧
        Calendar.readSeconds text = some r.timestampS.toNat)
      (rs.filter fun r => decide (r.timestampS.toNat ≤ 8210266876799)) (agentEventRows rs)) ∧
    (∀ rs rs' : List AgentEvent,
      agentEventRows (rs ++ rs') = agentEventRows rs ++ agentEventRows rs') ∧
    (∀ (rs rs' : List AgentEvent) (r : AgentEvent), 8210266876799 < r.timestampS.toNat →
      agentEventRows [r] = [] ∧ agentEventRows (rs ++ r :: rs') = agentEventRows (rs ++ rs')) ∧
    ∀ (r r' : AgentEvent) (row row' : Row), row ∈ agentEventRows [r] → row' ∈ agentEventRows [r'] →
      row.firstText? = row'.firstText? → r.timestampS = r'.timestampS := by
  refine ⟨fun rs => ?_, agentEventRows_append, fun rs rs' r hlate => ⟨?_, ?_⟩, ?_⟩
  · rw [agentEventRows_eq, Calendar.lastSecond, List.forall₂_map_right_iff, List.forall₂_same]
    intro r _
    have hnames := Calendar.names_secondsText r.timestampS.toNat
    exact ⟨r.fits_datedValues.shows, _, r.firstText?_datedValues, hnames, hnames.read⟩
  · rw [agentEventRows_singleton, Calendar.lastSecond, if_neg (Nat.not_le.mpr hlate)]
  · rw [agentEventRows_eq, agentEventRows_eq, Calendar.lastSecond, List.filter_append,
      List.filter_cons_of_neg (by simpa using hlate), List.filter_append]
  · intro r r' row row' hrow hrow' htext
    rw [firstText?_of_mem_singleton hrow, firstText?_of_mem_singleton hrow'] at htext
    have hread := Calendar.readSeconds_secondsText r.timestampS.toNat
    rw [Option.some.inj htext, Calendar.readSeconds_secondsText] at hread
    exact (UInt64.toNat_inj.mp (Option.some.inj hread)).symm

end Ingest
