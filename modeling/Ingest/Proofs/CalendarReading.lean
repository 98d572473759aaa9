import Mathlib.Tactic.IntervalCases
import Ingest.Calendar
import Ingest.Proofs.Decimal

/-!
Dates and times read back from their text. The calendar here is counted out year by year and month
by month, with the rule of leap years as the only rule, and a text with a day, month or time that
does not exist is not read. Main statement: the text of an instant is read back as that instant, so
every instant is written with a date and a time that exist, and no two are written alike.
-/

namespace Ingest.Calendar

open Text

/-! ### Counting days -/

def isLeap (year : Nat) : Bool := year % 4 = 0 && (year % 100 ≠ 0 || year % 400 = 0)

def yearLength (year : Nat) : Nat := if isLeap year then 366 else 365

def monthLength (year month : Nat) : Nat :=
  if month = 2 then (if isLeap year then 29 else 28)
  else if month ∈ [4, 6, 9, 11] then 30
  else 31

/-- The days of all years from the year 0 up to a year. -/
def daysBeforeYear : Nat → Nat
  | 0 => 0
  | year + 1 => daysBeforeYear year + yearLength year

/-- The days of a year in its first months, so many of them. -/
def daysOfMonths (year : Nat) : Nat → Nat
  | 0 => 0
  | month + 1 => daysOfMonths year month + monthLength year (month + 1)

namespace Date

/-- Whether the calendar has a date. -/
def Exists (d : Date) : Prop :=
  1 ≤ d.month ∧ d.month ≤ 12 ∧ 1 ≤ d.day ∧ d.day ≤ monthLength d.year d.month

instance (d : Date) : Decidable d.Exists := by unfold Exists; infer_instance

/-- The days from the first of January of the year 0. -/
def dayNumber (d : Date) : Nat :=
  daysBeforeYear d.year + daysOfMonths d.year (d.month - 1) + (d.day - 1)

end Date

namespace TimeOfDay

/-- Whether a day has a time. -/
def Exists (t : TimeOfDay) : Prop := t.hour < 24 ∧ t.minute < 60 ∧ t.second < 60

instance (t : TimeOfDay) : Decidable t.Exists := by unfold Exists; infer_instance

def seconds (t : TimeOfDay) : Nat := 3600 * t.hour + 60 * t.minute + t.second

end TimeOfDay

/-- The Unix epoch. -/
def epoch : Date := ⟨1970, 1, 1⟩

theorem daysBeforeYear_succ (year : Nat) :
    daysBeforeYear (year + 1) = 365 * (year + 1) + year / 4 - year / 100 + year / 400 + 1 := by
  induction year with
  | zero => rfl
  | succ year ih =>
    rw [daysBeforeYear, ih, yearLength, isLeap]
    simp only [Bool.and_eq_true, Bool.or_eq_true, decide_eq_true_eq]
    split <;> omega

theorem dayNumber_epoch : epoch.dayNumber = 719528 := by
  have h := daysBeforeYear_succ 1969
  simp only [Nat.reduceAdd] at h
  simp [Date.dayNumber, epoch, daysOfMonths, h]

/-- A year reckoned from March has 306 days up to the next January, and then one or two months. -/
theorem ofMarchYear_spec {year day : Nat} (hday : day < 365 ∨ (day = 365 ∧ isLeap (year + 1))) :
    (ofMarchYear year day).Exists ∧
      (ofMarchYear year day).dayNumber + 306 = daysBeforeYear (year + 1) + day := by
  obtain ⟨m, hm⟩ : ∃ m, m = (5 * day + 2) / 153 := ⟨_, rfl⟩
  have hlt : m < 12 := by omega
  rw [ofMarchYear, ← hm]
  by_cases hm10 : m < 10
  · rw [if_pos hm10, daysBeforeYear, yearLength]
    cases hleap : isLeap year <;> interval_cases m <;>
      simp [Date.Exists, Date.dayNumber, daysOfMonths, monthLength, hleap] <;> omega
  · rw [if_neg hm10]
    cases hleap : isLeap (year + 1) <;> rw [hleap] at hday <;> interval_cases m <;>
      simp [Date.Exists, Date.dayNumber, daysOfMonths, monthLength, hleap] at hday ⊢ <;> omega

/-- Cutting days into cycles of 400, 100, 4 and 1 years loses none and never leaves a day over. -/
theorem ofMarchDays_spec (n : Nat) :
    (ofMarchDays n).Exists ∧ (ofMarchDays n).dayNumber = n + 60 := by
  obtain ⟨era, hera⟩ : ∃ era, era = n / 146097 := ⟨_, rfl⟩
  obtain ⟨inEra, hinEra⟩ : ∃ inEra, inEra = n % 146097 := ⟨_, rfl⟩
  obtain ⟨century, hcentury⟩ : ∃ c, c = min (inEra / 36524) 3 := ⟨_, rfl⟩
  obtain ⟨inCentury, hinCentury⟩ : ∃ r, r = inEra - 36524 * century := ⟨_, rfl⟩
  obtain ⟨cycle, hcycle⟩ : ∃ q, q = inCentury / 1461 := ⟨_, rfl⟩
  obtain ⟨inCycle, hinCycle⟩ : ∃ r, r = inCentury % 1461 := ⟨_, rfl⟩
  obtain ⟨rest, hrest⟩ : ∃ y, y = min (inCycle / 365) 3 := ⟨_, rfl⟩
  obtain ⟨day, hday⟩ : ∃ d, d = inCycle - 365 * rest := ⟨_, rfl⟩
  obtain ⟨year, hyear⟩ : ∃ y, y = 400 * era + 100 * century + 4 * cycle + rest := ⟨_, rfl⟩
  have hsplit : ofMarchDays n = ofMarchYear year day := by
    simp only [ofMarchDays, ← hera, ← hinEra, ← hcentury, ← hinCentury, ← hcycle, ← hinCycle,
      ← hrest, ← hday, ← hyear]
  have hbounds : century ≤ 3 ∧ cycle ≤ 24 ∧ rest ≤ 3 ∧ day ≤ 365 := by omega
  have hlast : day < 365 ∨ (day = 365 ∧ isLeap (year + 1)) := by
    simp only [isLeap, Bool.and_eq_true, Bool.or_eq_true, decide_eq_true_eq]
    omega
  obtain ⟨hexists, hnumber⟩ := ofMarchYear_spec hlast
  have h4 : year / 4 = 100 * era + 25 * century + cycle := by omega
  have h100 : year / 100 = 4 * era + century := by omega
  have h400 : year / 400 = era := by omega
  rw [daysBeforeYear_succ, h4, h100, h400] at hnumber
  rw [hsplit]
  exact ⟨hexists, by omega⟩

theorem dateOf_spec (days : Nat) :
    (dateOf days).Exists ∧ (dateOf days).dayNumber = days + epoch.dayNumber := by
  obtain ⟨hexists, hnumber⟩ := ofMarchDays_spec (days + epochOffset)
  rw [dateOf, dayNumber_epoch]
  exact ⟨hexists, by rw [hnumber, epochOffset]⟩

theorem timeOf_spec {s : Nat} (hs : s < 86400) : (timeOf s).Exists ∧ (timeOf s).seconds = s := by
  simp only [timeOf, TimeOfDay.Exists, TimeOfDay.seconds]
  omega

/-! ### Reading -/

/-- Reads a number and the mark after it. -/
def readUpTo (mark : Char) (cs : List Char) : Option (Nat × List Char) :=
  match readNat cs with
  | some (n, c :: rest) => if c = mark then some (n, rest) else none
  | _ => none

/-- Reads a date and the blank after it; a year above 9999 has a plus sign. -/
def readDate (cs : List Char) : Option (Date × List Char) := do
  let (year, cs) ← readUpTo '-' (if cs.head? = some '+' then cs.tail else cs)
  let (month, cs) ← readUpTo '-' cs
  let (day, cs) ← readUpTo ' ' cs
  some (⟨year, month, day⟩, cs)

/-- Reads a time of day, to the second. -/
def readTime (cs : List Char) : Option (TimeOfDay × List Char) := do
  let (hour, cs) ← readUpTo ':' cs
  let (minute, cs) ← readUpTo ':' cs
  let (second, cs) ← readNat cs
  some (⟨hour, minute, second⟩, cs)

/-- Reads the seconds from the epoch to a date and time that exist. -/
def readInstant (cs : List Char) : Option (Nat × List Char) := do
  let (d, cs) ← readDate cs
  let (t, cs) ← readTime cs
  if d.Exists ∧ t.Exists ∧ epoch.dayNumber ≤ d.dayNumber then
    some (86400 * (d.dayNumber - epoch.dayNumber) + t.seconds, cs)
  else none

/-- The seconds after the epoch that a text names. -/
def readSeconds (text : String) : Option Nat :=
  match readInstant text.toList with
  | some (s, []) => some s
  | _ => none

/-- The nanoseconds after the epoch that a text names with nine decimals of the second. -/
def readNanos (text : String) : Option Nat :=
  match readInstant text.toList with
  | some (s, '.' :: decimals) =>
    match readNat decimals with
    | some (n, []) => if decimals.length = 9 then some (1000000000 * s + n) else none
    | _ => none
  | _ => none

/-! ### Reading what is written -/

theorem toList_padded (width n : Nat) :
    (padded width n).toList = List.replicate (width - n.repr.length) '0' ++ n.repr.toList := by
  simp [padded]

theorem length_padded {width n : Nat} (h : n.repr.length ≤ width) :
    (padded width n).toList.length = width := by
  rw [toList_padded, List.length_append, List.length_replicate, String.length_toList]
  omega

theorem readUpTo_padded {mark : Char} (hmark : mark.isDigit = false) (width n : Nat)
    (rest : List Char) :
    readUpTo mark ((padded width n).toList ++ mark :: rest) = some (n, rest) := by
  rw [readUpTo, toList_padded, readNat_zeros_repr _ _ (ends_cons hmark)]
  simp

/-- The text of a year begins with a plus sign just where the reader passes over one. -/
theorem readUpTo_yearText (year : Nat) (rest : List Char) :
    let cs := (yearText year).toList ++ '-' :: rest
    readUpTo '-' (if cs.head? = some '+' then cs.tail else cs) = some (year, rest) := by
  intro cs
  by_cases h : year ≤ 9999
  · have hcs : cs = (padded 4 year).toList ++ '-' :: rest := by simp [cs, yearText, h]
    have hdigit : cs.head? ≠ some '+' := by
      rw [hcs, toList_padded]
      obtain ⟨d, ds, hd, hdig⟩ := exists_repr_eq_cons year
      rw [hd]
      cases 4 - year.repr.length with
      | zero =>
        simp only [List.replicate_zero, List.nil_append, List.cons_append, List.head?_cons, ne_eq,
          Option.some.injEq]
        rintro rfl
        exact absurd hdig (by decide)
      | succ k => simp [List.replicate_succ]
    rw [if_neg hdigit, hcs, readUpTo_padded (by decide)]
  · have hcs : cs = '+' :: (year.repr.toList ++ '-' :: rest) := by simp [cs, yearText, h]
    rw [hcs, if_pos (by rfl), List.tail_cons, readUpTo, readNat_repr _ (ends_cons (by decide))]
    simp

theorem readDate_dateText (d : Date) (rest : List Char) :
    readDate ((dateText d).toList ++ ' ' :: rest) = some (d, rest) := by
  have htext : (dateText d).toList ++ ' ' :: rest = (yearText d.year).toList ++ '-' ::
      ((padded 2 d.month).toList ++ '-' :: ((padded 2 d.day).toList ++ ' ' :: rest)) := by
    simp [dateText]
  rw [htext, readDate, readUpTo_yearText]
  simp [readUpTo_padded]

theorem readTime_timeText (t : TimeOfDay) {rest : List Char} (hrest : Ends rest) :
    readTime ((timeText t).toList ++ rest) = some (t, rest) := by
  have htext : (timeText t).toList ++ rest = (padded 2 t.hour).toList ++ ':' ::
      ((padded 2 t.minute).toList ++ ':' :: ((padded 2 t.second).toList ++ rest)) := by
    simp [timeText]
  have hsecond : readNat ((padded 2 t.second).toList ++ rest) = some (t.second, rest) := by
    rw [toList_padded, readNat_zeros_repr _ _ hrest]
  rw [htext, readTime]
  simp [readUpTo_padded, hsecond]

theorem readInstant_secondsText (s : Nat) {rest : List Char} (hrest : Ends rest) :
    readInstant ((secondsText s).toList ++ rest) = some (s, rest) := by
  have htext : (secondsText s).toList ++ rest = (dateText (dateOf (s / 86400))).toList ++ ' ' ::
      ((timeText (timeOf (s % 86400))).toList ++ rest) := by
    simp [secondsText]
  obtain ⟨hdate, hdays⟩ := dateOf_spec (s / 86400)
  obtain ⟨htime, hseconds⟩ := timeOf_spec (Nat.mod_lt s (by decide : 0 < 86400))
  have hsum : 86400 * (s / 86400) + s % 86400 = s := Nat.div_add_mod s 86400
  rw [htext, readInstant, readDate_dateText]
  simp [readTime_timeText _ hrest, hdate, htime, hdays, hseconds, hsum]

theorem readSeconds_secondsText (s : Nat) : readSeconds (secondsText s) = some s := by
  have h := readInstant_secondsText s ends_nil
  rw [List.append_nil] at h
  rw [readSeconds, h]

theorem length_repr_le_nine {n : Nat} (h : n < 1000000000) : n.repr.length ≤ 9 := by
  rw [← String.length_toList, Nat.toList_repr]
  exact (Nat.length_toDigits_le_iff (by decide) (by decide)).mpr h

theorem readNanos_nanosText (ns : Nat) : readNanos (nanosText ns) = some ns := by
  obtain ⟨decimals, hdecimals⟩ : ∃ cs, cs = (padded 9 (ns % 1000000000)).toList := ⟨_, rfl⟩
  have htext : (nanosText ns).toList
      = (secondsText (ns / 1000000000)).toList ++ '.' :: decimals := by
    simp [nanosText, hdecimals]
  have hread : readNat decimals = some (ns % 1000000000, []) := by
    have h := readNat_zeros_repr (9 - (ns % 1000000000).repr.length) (ns % 1000000000) ends_nil
    rwa [List.append_nil, ← toList_padded, ← hdecimals] at h
  have hlen : decimals.length = 9 := by
    rw [hdecimals, length_padded (length_repr_le_nine (Nat.mod_lt ns (by decide)))]
  rw [readNanos, htext, readInstant_secondsText _ (ends_cons (by decide))]
  simp only [hread, hlen, if_true]
  rw [Nat.div_add_mod]

end Ingest.Calendar
