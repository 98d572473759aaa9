import Mathlib.Data.String.Basic
import Ingest.Proofs.CalendarReading
import Ingest.Row

/-!
Times as literals of an insert. A literal is put together here from digits, a fixed number of them
for each part of a date and a time of day, and it is told apart from how numbers are written. Main
statement: every word of nanoseconds is written as such a literal, of a date and a time that exist
and are that instant; so the order of literals as texts is the order of instants.
-/

namespace Ingest.Calendar

/-! ### Digits -/

/-- The last digits of a number, so many of them. -/
def digits : Nat → Nat → List Char
  | 0, _ => []
  | width + 1, n => digits width (n / 10) ++ [(n % 10).digitChar]

@[simp] theorem length_digits (width n : Nat) : (digits width n).length = width := by
  induction width generalizing n with
  | zero => rfl
  | succ width ih => rw [digits, List.length_append, ih, List.length_singleton]

theorem isDigit_of_mem_digits {width n : Nat} {c : Char} (hc : c ∈ digits width n) :
    c.isDigit = true := by
  induction width generalizing n with
  | zero => cases hc
  | succ width ih =>
    rcases List.mem_append.mp hc with hc | hc
    · exact ih hc
    · rw [List.mem_singleton.mp hc]
      rw [Nat.isDigit_digitChar]
      exact decide_eq_true (by omega)

theorem digits_zero (width : Nat) : digits width 0 = List.replicate width '0' := by
  induction width with
  | zero => rfl
  | succ width ih => rw [digits, ih, List.replicate_succ']; rfl

/-- A number that is padded to a width is its last digits, if they are all. -/
theorem toList_padded_eq_digits {width n : Nat} (hwidth : 0 < width) (h : n < 10 ^ width) :
    (padded width n).toList = digits width n := by
  rw [toList_padded, ← String.length_toList, Nat.toList_repr]
  induction width generalizing n with
  | zero => omega
  | succ width ih =>
    by_cases hn : n < 10
    · have hdiv : n / 10 = 0 := by omega
      have hmod : n % 10 = n := by omega
      rw [Nat.toDigits_of_lt_base hn, digits, hdiv, hmod, digits_zero]
      rfl
    · have hdiv : n / 10 < 10 ^ width := by omega
      have hwidth' : 0 < width := by
        rcases Nat.eq_zero_or_pos width with rfl | hpos
        · omega
        · exact hpos
      rw [Nat.toDigits_of_base_le (by decide) (by omega), digits, ← ih hwidth' hdiv]
      simp

theorem append_lt_append_iff : ∀ {xs ys : List Char}, xs.length = ys.length →
    ∀ us vs : List Char, xs ++ us < ys ++ vs ↔ xs < ys ∨ xs = ys ∧ us < vs
  | [], [], _, us, vs => by simp
  | x :: xs, y :: ys, h, us, vs => by
    have ih := append_lt_append_iff (Nat.succ.inj h) us vs
    simp only [List.cons_append, List.cons_lt_cons_iff, ih, List.cons.injEq]
    tauto

theorem digitChar_lt_iff {a b : Nat} (ha : a < 10) (hb : b < 10) :
    a.digitChar < b.digitChar ↔ a < b := by
  interval_cases a <;> interval_cases b <;> decide

theorem digits_inj {width a b : Nat} (ha : a < 10 ^ width) (hb : b < 10 ^ width)
    (h : digits width a = digits width b) : a = b := by
  induction width generalizing a b with
  | zero =>
    simp only [pow_zero, Nat.lt_one_iff] at ha hb
    rw [ha, hb]
  | succ width ih =>
    obtain ⟨hfirst, hlast⟩ := List.append_inj' h rfl
    have hdiv : a / 10 = b / 10 := ih (by omega) (by omega) hfirst
    have hchar : (a % 10).digitChar = (b % 10).digitChar := (List.cons.inj hlast).1
    have hle := mt (digitChar_lt_iff (a := a % 10) (b := b % 10) (by omega) (by omega)).mpr
      (hchar ▸ Char.lt_irrefl _)
    have hge := mt (digitChar_lt_iff (a := b % 10) (b := a % 10) (by omega) (by omega)).mpr
      (hchar ▸ Char.lt_irrefl _)
    omega

/-- Digits are compared from the first one on as numbers are. -/
theorem digits_lt_iff {width a b : Nat} (ha : a < 10 ^ width) (hb : b < 10 ^ width) :
    digits width a < digits width b ↔ a < b := by
  induction width generalizing a b with
  | zero =>
    simp only [pow_zero, Nat.lt_one_iff] at ha hb
    simp [ha, hb]
  | succ width ih =>
    have ha' : a / 10 < 10 ^ width := by omega
    have hb' : b / 10 < 10 ^ width := by omega
    have heq : digits width (a / 10) = digits width (b / 10) ↔ a / 10 = b / 10 :=
      ⟨digits_inj ha' hb', fun h => by rw [h]⟩
    have hlast : (a % 10).digitChar < (b % 10).digitChar ↔ a % 10 < b % 10 :=
      digitChar_lt_iff (by omega) (by omega)
    rw [digits, digits, append_lt_append_iff (by simp), ih ha' hb', heq, List.cons_lt_cons_iff, hlast]
    simp only [List.not_lt_nil, and_false, or_false]
    omega

/-- Digits before a mark are compared first, and then what follows the mark. -/
theorem digits_mark_lt_iff {width a b : Nat} (ha : a < 10 ^ width) (hb : b < 10 ^ width)
    (mark : Char) (us vs : List Char) :
    digits width a ++ mark :: us < digits width b ++ mark :: vs ↔ a < b ∨ a = b ∧ us < vs := by
  have heq : digits width a = digits width b ↔ a = b :=
    ⟨digits_inj ha hb, fun h => by rw [h]⟩
  rw [append_lt_append_iff (by simp), digits_lt_iff ha hb, heq, List.cons_lt_cons_iff]
  simp

/-! ### The order of dates and times -/

theorem monotone_daysBeforeYear : Monotone daysBeforeYear :=
  monotone_nat_of_le_succ fun year => by rw [daysBeforeYear]; omega

theorem monotone_daysOfMonths (year : Nat) : Monotone (daysOfMonths year) :=
  monotone_nat_of_le_succ fun month => by rw [daysOfMonths]; omega

theorem monthLength_le (year month : Nat) : monthLength year month ≤ 31 := by
  rw [monthLength]
  split
  · split <;> omega
  · split <;> omega

theorem daysOfMonths_twelve (year : Nat) : daysOfMonths year 12 = yearLength year := by
  rw [yearLength]
  split <;> next h => simp [daysOfMonths, monthLength, h]

namespace Date

/-- A date comes before the end of its month. -/
theorem Exists.dayNumber_lt {d : Date} (h : d.Exists) :
    d.dayNumber < daysBeforeYear d.year + daysOfMonths d.year d.month := by
  obtain ⟨hmonth, -, hday, hlength⟩ := h
  obtain ⟨m, hm⟩ : ∃ m, d.month = m + 1 := ⟨d.month - 1, by omega⟩
  rw [dayNumber, hm, Nat.add_sub_cancel, daysOfMonths, ← hm]
  omega

/-- Whether a date comes before another one, by year, month and day. -/
def Before (d e : Date) : Prop :=
  d.year < e.year ∨ d.year = e.year ∧ (d.month < e.month ∨ d.month = e.month ∧ d.day < e.day)

theorem Before.dayNumber_lt {d e : Date} (h : d.Before e) (hd : d.Exists) :
    d.dayNumber < e.dayNumber := by
  have hend := hd.dayNumber_lt
  have hstart : daysBeforeYear e.year + daysOfMonths e.year (e.month - 1) ≤ e.dayNumber := by
    rw [dayNumber]
    omega
  rcases h with hyear | ⟨hyear, hmonth | ⟨hmonth, hday⟩⟩
  · have hmonths : daysOfMonths d.year d.month ≤ yearLength d.year := by
      rw [← daysOfMonths_twelve]
      exact monotone_daysOfMonths d.year hd.2.1
    have hyears : daysBeforeYear (d.year + 1) ≤ daysBeforeYear e.year :=
      monotone_daysBeforeYear hyear
    rw [daysBeforeYear] at hyears
    omega
  · have hmonths : daysOfMonths d.year d.month ≤ daysOfMonths d.year (e.month - 1) :=
      monotone_daysOfMonths d.year (by omega)
    rw [← hyear] at hstart
    omega
  · obtain ⟨-, -, hfirst, -⟩ := hd
    rw [dayNumber, dayNumber, hyear, hmonth]
    omega

theorem before_trichotomy (d e : Date) : d.Before e ∨ d = e ∨ e.Before d := by
  cases d
  cases e
  simp only [Before, Date.mk.injEq]
  omega

end Date

namespace TimeOfDay

/-- Whether a time of day comes before another one, by hour, minute and second. -/
def Before (t u : TimeOfDay) : Prop :=
  t.hour < u.hour ∨ t.hour = u.hour ∧
    (t.minute < u.minute ∨ t.minute = u.minute ∧ t.second < u.second)

theorem Before.seconds_lt {t u : TimeOfDay} (h : t.Before u) (ht : t.Exists) (hu : u.Exists) :
    t.seconds < u.seconds := by
  simp only [Before, Exists, seconds] at *
  omega

theorem before_trichotomy (t u : TimeOfDay) : t.Before u ∨ t = u ∨ u.Before t := by
  cases t
  cases u
  simp only [Before, TimeOfDay.mk.injEq]
  omega

end TimeOfDay

/-! ### Literals -/

/-- An instant of the calendar, with nanoseconds of the second. -/
structure Instant where
  date : Date
  time : TimeOfDay
  nanos : Nat

namespace Instant

/-- Whether the calendar has an instant that is not before the epoch and has a year of four digits. -/
structure Exists (i : Instant) : Prop where
  date : i.date.Exists
  time : i.time.Exists
  nanos : i.nanos < 1000000000
  epoch : epoch.dayNumber ≤ i.date.dayNumber
  year : i.date.year ≤ 9999

/-- The nanoseconds since the epoch. -/
def sinceEpoch (i : Instant) : Nat :=
  1000000000 * (86400 * (i.date.dayNumber - epoch.dayNumber) + i.time.seconds) + i.nanos

/-- An instant in the shape `YYYY-MM-DD hh:mm:ss.nnnnnnnnn`. -/
def chars (i : Instant) : List Char :=
  digits 4 i.date.year ++ '-' :: (digits 2 i.date.month ++ '-' :: (digits 2 i.date.day ++ ' ' ::
    (digits 2 i.time.hour ++ ':' :: (digits 2 i.time.minute ++ ':' :: (digits 2 i.time.second ++
      '.' :: digits 9 i.nanos)))))

/-- An instant in quotes. -/
def literal (i : Instant) : String := String.ofList ('\'' :: (i.chars ++ ['\'']))

/-- Whether each part of an instant has no more digits than its literal gives it. -/
structure Bounds (i : Instant) : Prop where
  year : i.date.year < 10 ^ 4
  month : i.date.month < 10 ^ 2
  day : i.date.day < 10 ^ 2
  hour : i.time.hour < 10 ^ 2
  minute : i.time.minute < 10 ^ 2
  second : i.time.second < 10 ^ 2
  nanos : i.nanos < 10 ^ 9

theorem Exists.bounds {i : Instant} (h : i.Exists) : i.Bounds := by
  obtain ⟨⟨hmonth, hmonth', hday, hday'⟩, ⟨hhour, hminute, hsecond⟩, hnanos, -, hyear⟩ := h
  have hlength := monthLength_le i.date.year i.date.month
  constructor <;> omega

/-- Whether an instant comes before another one, by date, time of day and nanoseconds. -/
def Before (i j : Instant) : Prop :=
  i.date.Before j.date ∨ i.date = j.date ∧
    (i.time.Before j.time ∨ i.time = j.time ∧ i.nanos < j.nanos)

theorem before_trichotomy (i j : Instant) : i.Before j ∨ i = j ∨ j.Before i := by
  obtain ⟨date, time, nanos⟩ := i
  obtain ⟨date', time', nanos'⟩ := j
  rcases date.before_trichotomy date' with h | rfl | h
  · exact .inl (.inl h)
  · rcases time.before_trichotomy time' with h | rfl | h
    · exact .inl (.inr ⟨rfl, .inl h⟩)
    · rcases Nat.lt_trichotomy nanos nanos' with h | rfl | h
      · exact .inl (.inr ⟨rfl, .inr ⟨rfl, h⟩⟩)
      · exact .inr (.inl rfl)
      · exact .inr (.inr (.inr ⟨rfl, .inr ⟨rfl, h⟩⟩))
    · exact .inr (.inr (.inr ⟨rfl, .inl h⟩))
  · exact .inr (.inr (.inl h))

theorem Before.sinceEpoch_lt {i j : Instant} (h : i.Before j) (hi : i.Exists) (hj : j.Exists) :
    i.sinceEpoch < j.sinceEpoch := by
  obtain ⟨hdate, htime, hnanos, hepoch, -⟩ := hi
  obtain ⟨-, htime', hnanos', -, -⟩ := hj
  have hday : i.time.seconds < 86400 := by
    simp only [TimeOfDay.Exists, TimeOfDay.seconds] at htime ⊢
    omega
  rw [sinceEpoch, sinceEpoch]
  rcases h with hbefore | ⟨hsame, hbefore | ⟨hsame', hbefore⟩⟩
  · have hlt := hbefore.dayNumber_lt hdate
    omega
  · have hlt := hbefore.seconds_lt htime htime'
    rw [hsame]
    omega
  · rw [hsame, hsame']
    omega

/-- Three parts are compared one after the other as they are compared together. -/
theorem three_parts_iff {lt₁ eq₁ lt₂ eq₂ lt₃ eq₃ rest : Prop} :
    lt₁ ∨ eq₁ ∧ (lt₂ ∨ eq₂ ∧ (lt₃ ∨ eq₃ ∧ rest))
      ↔ (lt₁ ∨ eq₁ ∧ (lt₂ ∨ eq₂ ∧ lt₃)) ∨ (eq₁ ∧ eq₂ ∧ eq₃) ∧ rest := by
  tauto

/-- Literals are compared part by part. -/
theorem literal_lt_iff {i j : Instant} (hi : i.Exists) (hj : j.Exists) :
    i.literal < j.literal ↔ i.Before j := by
  have hi' := hi.bounds
  have hj' := hj.bounds
  simp only [String.lt_iff_toList_lt, literal, chars, String.toList_ofList, List.append_assoc,
    List.cons_append]
  rw [List.cons_lt_cons_iff, digits_mark_lt_iff hi'.year hj'.year,
    digits_mark_lt_iff hi'.month hj'.month, digits_mark_lt_iff hi'.day hj'.day,
    digits_mark_lt_iff hi'.hour hj'.hour, digits_mark_lt_iff hi'.minute hj'.minute,
    digits_mark_lt_iff hi'.second hj'.second, digits_mark_lt_iff hi'.nanos hj'.nanos]
  obtain ⟨⟨_, _, _⟩, ⟨_, _, _⟩, _⟩ := i
  obtain ⟨⟨_, _, _⟩, ⟨_, _, _⟩, _⟩ := j
  simp only [Before, Date.Before, TimeOfDay.Before, Date.mk.injEq, TimeOfDay.mk.injEq,
    Char.lt_irrefl, false_or, true_and, List.not_lt_nil, and_false, or_false]
  exact three_parts_iff.trans (or_congr_right (and_congr_right fun _ => three_parts_iff))

/-- How an instant with a year of four digits is written. -/
theorem toList_text {i : Instant} (h : i.Exists) :
    (dateText i.date ++ " " ++ timeText i.time ++ "." ++ padded 9 i.nanos).toList = i.chars := by
  have hbounds := h.bounds
  rw [chars, dateText, timeText, yearText, if_pos h.year]
  simp only [String.toList_append, toList_padded_eq_digits (by decide) hbounds.year,
    toList_padded_eq_digits (by decide) hbounds.month,
    toList_padded_eq_digits (by decide) hbounds.day,
    toList_padded_eq_digits (by decide) hbounds.hour,
    toList_padded_eq_digits (by decide) hbounds.minute,
    toList_padded_eq_digits (by decide) hbounds.second,
    toList_padded_eq_digits (by decide) hbounds.nanos]
  simp

/-- Nothing in an instant needs a backslash. -/
theorem escape_chars (i : Instant) : Sql.escape '\'' i.chars = i.chars := by
  have hdigits (width n : Nat) : ∀ c ∈ digits width n, c ≠ '\'' ∧ c ≠ '\\' := by
    intro c hc
    have hdigit := isDigit_of_mem_digits hc
    constructor <;> rintro rfl <;> exact absurd hdigit (by decide)
  apply Sql.escape_eq_self
  simp only [chars, List.forall_mem_append, List.forall_mem_cons]
  exact ⟨hdigits _ _, by decide, hdigits _ _, by decide, hdigits _ _, by decide, hdigits _ _,
    by decide, hdigits _ _, by decide, hdigits _ _, by decide, hdigits _ _⟩

theorem sinceEpoch_lt_iff {i j : Instant} (hi : i.Exists) (hj : j.Exists) :
    i.sinceEpoch < j.sinceEpoch ↔ i.literal < j.literal := by
  rw [literal_lt_iff hi hj]
  refine ⟨fun hlt => ?_, fun h => h.sinceEpoch_lt hi hj⟩
  rcases before_trichotomy i j with h | rfl | h
  · exact h
  · exact absurd hlt (Nat.lt_irrefl _)
  · exact absurd hlt (Nat.lt_asymm (h.sinceEpoch_lt hj hi))

end Instant

/-! ### Times of records -/

/-- The instant so many nanoseconds after the epoch. -/
def instantOf (ns : Nat) : Instant :=
  ⟨dateOf (ns / 1000000000 / 86400), timeOf (ns / 1000000000 % 86400), ns % 1000000000⟩

/-- Years of more than four digits begin long after the last word of nanoseconds. -/
theorem year_le {d : Date} (h : d.dayNumber < 3000000) : d.year ≤ 9999 := by
  by_contra hyear
  have hmono : daysBeforeYear 10000 ≤ daysBeforeYear d.year := monotone_daysBeforeYear (by omega)
  have hvalue : daysBeforeYear 10000 = 3652425 := daysBeforeYear_succ 9999
  rw [Date.dayNumber] at h
  omega

theorem exists_instantOf {ns : Nat} (h : ns < 2 ^ 64) : (instantOf ns).Exists := by
  obtain ⟨hdate, hdays⟩ := dateOf_spec (ns / 1000000000 / 86400)
  obtain ⟨htime, -⟩ := timeOf_spec (Nat.mod_lt (ns / 1000000000) (by decide : 0 < 86400))
  have hepoch := dayNumber_epoch
  refine ⟨hdate, htime, Nat.mod_lt ns (by decide), ?_, year_le ?_⟩
  · rw [instantOf, hdays]
    omega
  · rw [instantOf, hdays]
    omega

theorem sinceEpoch_instantOf (ns : Nat) : (instantOf ns).sinceEpoch = ns := by
  obtain ⟨-, hdays⟩ := dateOf_spec (ns / 1000000000 / 86400)
  obtain ⟨-, hseconds⟩ := timeOf_spec (Nat.mod_lt (ns / 1000000000) (by decide : 0 < 86400))
  simp only [Instant.sinceEpoch, instantOf, hdays, hseconds]
  omega

theorem toList_nanosText {ns : Nat} (h : ns < 2 ^ 64) :
    (nanosText ns).toList = (instantOf ns).chars := by
  have htext := Instant.toList_text (exists_instantOf h)
  rw [← htext, nanosText, secondsText]
  simp only [instantOf]

/-- A word of nanoseconds is written as the literal of an instant. -/
theorem timeValue_render (ns : UInt64) : (timeValue ns).render = (instantOf ns.toNat).literal := by
  have hrender : (timeValue ns).render = Sql.quoteText (nanosText ns.toNat) := by
    rw [timeValue_eq]
    rfl
  rw [hrender, Instant.literal, Sql.quoteText, Sql.quoteWith, toList_nanosText ns.toNat_lt,
    Instant.escape_chars]
  rfl

/-- Every word of nanoseconds has a date, so that the epoch never stands for it. It is written as the
literal of an instant of the calendar which is so many nanoseconds after the epoch, and its text is
read back as that number. So one word is less than another exactly if its literal comes first. -/
theorem timeValue_exact_and_ordered :
    (∀ ns : UInt64, ∃ (text : String) (i : Instant),
      nanosText? ns.toNat = some text ∧ (timeValue ns).render = Sql.quoteText text ∧
      (timeValue ns).render = i.literal ∧ i.Exists ∧ i.sinceEpoch = ns.toNat ∧
      readNanos text = some ns.toNat) ∧
    ∀ a b : UInt64, a < b ↔ (timeValue a).render < (timeValue b).render := by
  refine ⟨fun ns => ⟨nanosText ns.toNat, instantOf ns.toNat, nanosText?_toNat ns, ?_,
    timeValue_render ns, exists_instantOf ns.toNat_lt, sinceEpoch_instantOf ns.toNat,
    readNanos_nanosText ns.toNat⟩, fun a b => ?_⟩
  · rw [timeValue_eq]
    rfl
  · rw [timeValue_render, timeValue_render, ← Instant.sinceEpoch_lt_iff
      (exists_instantOf a.toNat_lt) (exists_instantOf b.toNat_lt), sinceEpoch_instantOf,
      sinceEpoch_instantOf, UInt64.lt_iff_toNat_lt]

end Ingest.Calendar
