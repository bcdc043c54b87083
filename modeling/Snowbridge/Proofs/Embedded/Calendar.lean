import Mathlib.Tactic.IntervalCases
import Snowbridge.Embedded.Calendar

/-!
# The calendar

The calendar is told by its leap years, the lengths of its months and the date that follows a date
(`CivilDate.next`). A date belongs to a count of days if that many steps lead to it from the first
day of 1970, or from it to that day (`IsDay`). The number of a date, counted from the first day of
the year one, grows by one with each step (`dayNumber_next`) and is different for different dates
(`dayNumber_injective`); so the date that is computed from a count of days is the one that belongs
to it (`isDay_iff`).
-/

namespace Snowbridge.Embedded

/-! ## Dates -/

/-- Every fourth year is a leap year, except that of the full centuries only every fourth is. -/
def IsLeapYear (year : Int) : Prop := 4 ∣ year ∧ (100 ∣ year → 400 ∣ year)

instance (year : Int) : Decidable (IsLeapYear year) :=
  inferInstanceAs (Decidable (4 ∣ year ∧ (100 ∣ year → 400 ∣ year)))

/-- The number of leap days in a year. -/
def leapDays (year : Int) : Nat := if IsLeapYear year then 1 else 0

/-- The number of days in a month. -/
def monthLength (year : Int) (month : Nat) : Nat :=
  if month = 2 then 28 + leapDays year
  else if month = 4 ∨ month = 6 ∨ month = 9 ∨ month = 11 then 30
  else 31

namespace CivilDate

/-- A day that the calendar has. -/
structure IsValid (d : CivilDate) : Prop where
  month_pos : 1 ≤ d.month
  month_le : d.month ≤ 12
  day_pos : 1 ≤ d.day
  day_le : d.day ≤ monthLength d.year d.month

/-- The day after a day. -/
def next (d : CivilDate) : CivilDate :=
  if d.day < monthLength d.year d.month then ⟨d.year, d.month, d.day + 1⟩
  else if d.month < 12 then ⟨d.year, d.month + 1, 1⟩
  else ⟨d.year + 1, 1, 1⟩

end CivilDate

/-- The date of a count of days from 1970, reached from the first day of that year by steps forward
or backward. -/
inductive IsDay : Int → CivilDate → Prop where
  | epoch : IsDay 0 ⟨1970, 1, 1⟩
  | next {n : Int} {d : CivilDate} (h : IsDay n d) : IsDay (n + 1) d.next
  | previous {n : Int} {d : CivilDate} (hd : d.IsValid) (h : IsDay (n + 1) d.next) : IsDay n d

/-! ## Numbers of dates -/

/-- The days of the years before a year, from the year one. -/
def daysBeforeYear (year : Int) : Int :=
  365 * (year - 1) + (year - 1) / 4 - (year - 1) / 100 + (year - 1) / 400

/-- The days of a year before a month. -/
def daysBeforeMonth (year : Int) : Nat → Nat
  | 0 | 1 => 0
  | month + 2 => daysBeforeMonth year (month + 1) + monthLength year (month + 1)

/-- The number of a date, where the first day of the year one has the number one. -/
def CivilDate.dayNumber (d : CivilDate) : Int :=
  daysBeforeYear d.year + daysBeforeMonth d.year d.month + d.day

/-- A year has one leap day or none, and it has one exactly if it is a leap year. -/
theorem leapDays_cases (year : Int) :
    leapDays year = 1 ∧ IsLeapYear year ∨ leapDays year = 0 ∧ ¬ IsLeapYear year := by
  unfold leapDays
  split
  · next h => exact .inl ⟨rfl, h⟩
  · next h => exact .inr ⟨rfl, h⟩

/-- The closed form of `daysBeforeYear` grows by the length of each year. -/
theorem daysBeforeYear_succ (year : Int) :
    daysBeforeYear (year + 1) = daysBeforeYear year + 365 + leapDays year := by
  unfold daysBeforeYear
  rcases leapDays_cases year with ⟨hdays, hleap⟩ | ⟨hdays, hleap⟩
  · rw [hdays]
    unfold IsLeapYear at hleap
    omega
  · rw [hdays]
    unfold IsLeapYear at hleap
    omega

theorem daysBeforeYear_mono {y z : Int} (h : y ≤ z) : daysBeforeYear y ≤ daysBeforeYear z := by
  unfold daysBeforeYear
  omega

/-- The recursion of `daysBeforeMonth`, for a month that there is. -/
theorem daysBeforeMonth_succ (year : Int) {month : Nat} (h : 1 ≤ month) :
    daysBeforeMonth year (month + 1) = daysBeforeMonth year month + monthLength year month := by
  obtain ⟨m, rfl⟩ := Nat.exists_eq_add_of_le' h
  rfl

theorem daysBeforeMonth_mono (year : Int) {m n : Nat} (h : m ≤ n) :
    daysBeforeMonth year m ≤ daysBeforeMonth year n := by
  induction n, h using Nat.le_induction with
  | base => exact Nat.le_refl _
  | succ n hn ih =>
    cases n with
    | zero => exact ih
    | succ n => exact Nat.le_trans ih (Nat.le_add_right _ _)

/-- All months together are the year. -/
theorem daysBeforeMonth_end (year : Int) : daysBeforeMonth year 13 = 365 + leapDays year := by
  simp [daysBeforeMonth, monthLength]
  omega

/-- A month has 28 to 31 days. -/
theorem monthLength_bounds (year : Int) (month : Nat) :
    28 ≤ monthLength year month ∧ monthLength year month ≤ 31 := by
  have hleap := leapDays_cases year
  unfold monthLength
  split
  · omega
  · split
    · decide
    · decide

namespace CivilDate

variable {d e : CivilDate}

/-- A date lies behind the days before its month, and not behind those of the month. -/
theorem IsValid.month_bounds (h : d.IsValid) :
    daysBeforeMonth d.year d.month < daysBeforeMonth d.year d.month + d.day ∧
      daysBeforeMonth d.year d.month + d.day ≤ daysBeforeMonth d.year (d.month + 1) := by
  have hpos := h.day_pos
  have hle := h.day_le
  rw [daysBeforeMonth_succ d.year h.month_pos]
  omega

/-- A date lies behind the days before its year, and not behind those of the year. -/
theorem IsValid.year_bounds (h : d.IsValid) :
    daysBeforeYear d.year < d.dayNumber ∧ d.dayNumber ≤ daysBeforeYear (d.year + 1) := by
  have hmonth := h.month_bounds.2
  have hend := daysBeforeMonth_mono d.year (Nat.add_le_add_right h.month_le 1)
  have hpos := h.day_pos
  rw [daysBeforeMonth_end] at hend
  rw [daysBeforeYear_succ, dayNumber]
  omega

/-- A year has begun if the days before it have passed. -/
theorem IsValid.le_year_iff (h : d.IsValid) (year : Int) :
    year ≤ d.year ↔ daysBeforeYear year < d.dayNumber := by
  obtain ⟨hlow, hhigh⟩ := h.year_bounds
  constructor
  · intro hle
    exact Int.lt_of_le_of_lt (daysBeforeYear_mono hle) hlow
  · intro hlt
    refine Int.not_lt.1 fun hyear => ?_
    have hyears := daysBeforeYear_mono (Int.add_one_le_of_lt hyear)
    omega

/-- Of two dates the one with the smaller number has no later year. -/
theorem year_le_of_dayNumber_le (hd : d.IsValid) (he : e.IsValid)
    (h : d.dayNumber ≤ e.dayNumber) : d.year ≤ e.year :=
  (he.le_year_iff _).2 (Int.lt_of_lt_of_le hd.year_bounds.1 h)

/-- In one year the date with the smaller number has no later month. -/
theorem month_le_of_dayNumber_le (hd : d.IsValid) (he : e.IsValid) (hyear : d.year = e.year)
    (h : d.dayNumber ≤ e.dayNumber) : d.month ≤ e.month := by
  refine Nat.not_lt.1 fun hlt => ?_
  have hmonths := daysBeforeMonth_mono e.year (show e.month + 1 ≤ d.month from hlt)
  have hlow := hd.month_bounds.1
  have hhigh := he.month_bounds.2
  unfold dayNumber at h
  rw [hyear] at h hlow
  omega

/-- Different dates have different numbers. -/
theorem dayNumber_injective (hd : d.IsValid) (he : e.IsValid) (h : d.dayNumber = e.dayNumber) :
    d = e := by
  have hyear : d.year = e.year := Int.le_antisymm
    (year_le_of_dayNumber_le hd he (Int.le_of_eq h))
    (year_le_of_dayNumber_le he hd (Int.le_of_eq h.symm))
  have hmonth : d.month = e.month := Nat.le_antisymm
    (month_le_of_dayNumber_le hd he hyear (Int.le_of_eq h))
    (month_le_of_dayNumber_le he hd hyear.symm (Int.le_of_eq h.symm))
  have hday : d.day = e.day := by
    unfold dayNumber at h
    rw [hyear, hmonth] at h
    omega
  cases d
  cases e
  simp_all

/-- The day after a valid day is valid, so the calendar never leaves its dates. -/
theorem IsValid.next (h : d.IsValid) : d.next.IsValid := by
  have hfirst : ∀ year month, 1 ≤ monthLength year month := fun year month =>
    Nat.le_trans (by decide) (monthLength_bounds year month).1
  -- within a month, at the end of a month and at the end of a year
  unfold CivilDate.next
  split
  · next hday => exact ⟨h.month_pos, h.month_le, Nat.le_add_left 1 _, hday⟩
  · split
    · next hmonth => exact ⟨Nat.le_add_left 1 _, hmonth, Nat.le_refl 1, hfirst _ _⟩
    · exact ⟨Nat.le_refl 1, Nat.le_add_left 1 11, Nat.le_refl 1, hfirst _ _⟩

/-- The number of a date grows by one with each step of the calendar. -/
theorem dayNumber_next (h : d.IsValid) : d.next.dayNumber = d.dayNumber + 1 := by
  -- the day past the end of a month is the first of the next one, and so for years
  have hle := h.day_le
  unfold CivilDate.next
  split
  · simp only [dayNumber]
    omega
  · next hday =>
    have hlast : d.day = monthLength d.year d.month := Nat.le_antisymm hle (Nat.not_lt.1 hday)
    split
    · simp only [dayNumber, daysBeforeMonth_succ d.year h.month_pos, hlast]
      omega
    · next hmonth =>
      have hyear : d.month = 12 := Nat.le_antisymm h.month_le (Nat.not_lt.1 hmonth)
      have hend := daysBeforeMonth_end d.year
      rw [daysBeforeMonth_succ d.year (by decide)] at hend
      have hfirst : daysBeforeMonth (d.year + 1) 1 = 0 := rfl
      simp only [dayNumber, daysBeforeYear_succ, hlast, hyear, hfirst]
      omega

end CivilDate

/-! ## The date of a number -/

/-- The date in a year that starts with March, some days after its first day. -/
def dateInMarchYear (year : Int) (day : Nat) : CivilDate :=
  let monthFromMarch := (5 * day + 2) / 153
  let month := if monthFromMarch < 10 then monthFromMarch + 3 else monthFromMarch - 9
  ⟨year + (if month ≤ 2 then 1 else 0), month, day - (153 * monthFromMarch + 2) / 5 + 1⟩

/-- A year from March to February has a leap day if the calendar year in which it ends has one. Its
date with a number of days behind the first of March is valid, and its number counts those days. -/
theorem dateInMarchYear_spec {year : Int} {day : Nat} (h : day < 365 + leapDays (year + 1)) :
    (dateInMarchYear year day).IsValid ∧
      (dateInMarchYear year day).dayNumber = daysBeforeYear (year + 1) - 305 + day := by
  have hyear := daysBeforeYear_succ year
  have hmonth : (5 * day + 2) / 153 < 12 := by
    have hleap := leapDays_cases (year + 1)
    omega
  unfold dateInMarchYear
  generalize hm : (5 * day + 2) / 153 = m at hmonth
  -- one case for each month
  interval_cases m
  all_goals
    refine ⟨⟨?_, ?_, ?_, ?_⟩, ?_⟩ <;>
      simp only [CivilDate.dayNumber, daysBeforeMonth, monthLength, Nat.reduceLT, Nat.reduceLeDiff,
        Nat.reduceAdd, Nat.reduceSub, Nat.reduceEqDiff, reduceIte, or_false, false_or,
        Int.add_zero] <;>
      omega

/-- The year of an era of 400 years in which a day of it lies, with the years counted from March. -/
def yearInEra (day : Nat) : Nat := (day - day / 1460 + day / 36524 - day / 146096) / 365

/-- The place of a day in an era: its century, the span of four years in the century, the year in
the span and the day in the year. A year has one day more than 365 only if it is the last of its
span, and the last span of a century only if the century is the last one. -/
structure EraPlace (day century span year rest : Nat) : Prop where
  sum : day = 36524 * century + 1461 * span + 365 * year + rest
  century_le : century ≤ 3
  span_le : span ≤ 24
  year_le : year ≤ 3
  rest_le : rest ≤ 365
  leap : rest = 365 → year = 3 ∧ (span = 24 → century = 3)

/-- Every day of an era has a place in it. The last century of the era and the last year of a span
are a day longer than the others, so the division stops at them. -/
theorem exists_eraPlace {day : Nat} (h : day < 146097) :
    ∃ century span year rest, EraPlace day century span year rest := by
  -- the fourth century has one day more, so the quotient is capped
  obtain ⟨century, inCentury, rfl, hcentury, hin⟩ : ∃ c r, day = 36524 * c + r ∧ c ≤ 3 ∧
      (r < 36524 ∨ c = 3 ∧ r = 36524) := by
    refine ⟨min 3 (day / 36524), day - 36524 * min 3 (day / 36524), ?_⟩
    omega
  obtain ⟨span, inSpan, rfl, hspan⟩ : ∃ s r, inCentury = 1461 * s + r ∧ r < 1461 :=
    ⟨inCentury / 1461, inCentury % 1461, by omega, by omega⟩
  -- likewise the fourth year of a span
  obtain ⟨year, rest, rfl, hyear, hrest⟩ : ∃ y r, inSpan = 365 * y + r ∧ y ≤ 3 ∧
      (r < 365 ∨ y = 3 ∧ r = 365) := by
    refine ⟨min 3 (inSpan / 365), inSpan - 365 * min 3 (inSpan / 365), ?_⟩
    omega
  exact ⟨century, span, year, rest, by omega, hcentury, by omega, hyear, by omega, by omega⟩

namespace EraPlace

variable {day century span year rest : Nat} (h : EraPlace day century span year rest)
include h

/-- As many times 1460 days have passed as there were leap days before the day, and one more where
the span is so far on that the days of the year have caught up with them. -/
theorem spans : ∃ extra, day / 1460 = 25 * century + span + extra ∧
    (extra = 0 ∧ rest < 365 ∨ extra = 1 ∧ 1 ≤ rest) := by
  obtain ⟨rfl, hcentury, hspan, hyear, hrest, hleap⟩ := h
  -- a century and a span leave 24 days and one day over when they are counted in steps of 1460
  by_cases hfull : 1460 ≤ 24 * century + span + 365 * year + rest
  · refine ⟨1, Nat.div_eq_of_lt_le ?_ ?_, .inr ⟨rfl, ?_⟩⟩ <;> omega
  · refine ⟨0, Nat.div_eq_of_lt_le ?_ ?_, .inl ⟨rfl, ?_⟩⟩ <;> omega

/-- As many times 36524 days have passed as centuries, and one more on the last day of the era. -/
theorem centuries : day / 36524 = century + day / 146096 := by
  obtain ⟨hday, hcentury, hspan, hyear, hrest, hleap⟩ := h
  by_cases hend : day = 146096
  · subst hend
    omega
  · rw [Nat.div_eq_of_lt (show day < 146096 by omega)]
    refine Nat.div_eq_of_lt_le ?_ ?_ <;> omega

/-- The year found within an era is the one in which the day lies. -/
theorem yearInEra_eq : yearInEra day = 100 * century + 4 * span + year := by
  obtain ⟨extra, hspans, hextra⟩ := h.spans
  rw [yearInEra, hspans, h.centuries]
  generalize day / 146096 = last
  obtain ⟨rfl, -, -, -, hrest, -⟩ := h
  refine Nat.div_eq_of_lt_le ?_ ?_ <;> omega

/-- The rest is what remains of the day without the days of the years before, counted from March. -/
theorem rest_eq : day - (365 * yearInEra day + yearInEra day / 4 - yearInEra day / 100) = rest := by
  rw [h.yearInEra_eq]
  obtain ⟨rfl, -, hspan, hyear, -, -⟩ := h
  omega

/-- The days before the year in all eras. -/
theorem daysBeforeYear_eq (era : Int) :
    daysBeforeYear (era * 400 + yearInEra day + 1) = 146097 * era + day - rest := by
  rw [h.yearInEra_eq, daysBeforeYear]
  obtain ⟨rfl, hcentury, hspan, hyear, -, -⟩ := h
  push_cast
  omega

/-- The day lies within its year. -/
theorem rest_lt (era : Int) : rest < 365 + leapDays (era * 400 + yearInEra day + 1) := by
  rcases leapDays_cases (era * 400 + yearInEra day + 1) with ⟨hdays, -⟩ | ⟨hdays, hleap⟩
  · have hrest := h.rest_le
    omega
  · rw [h.yearInEra_eq] at hleap
    obtain ⟨-, hcentury, hspan, hyear, hrest, hlast⟩ := h
    unfold IsLeapYear at hleap
    push_cast at hleap
    omega

end EraPlace

/-- The computation in terms of `yearInEra` and `dateInMarchYear`. -/
theorem dateFromMarch_eq (n : Int) {day : Nat} (h : (n.fmod 146097).toNat = day) :
    dateFromMarch n = dateInMarchYear (n.fdiv 146097 * 400 + yearInEra day)
      (day - (365 * yearInEra day + yearInEra day / 4 - yearInEra day / 100)) := by
  subst h
  rfl

/-- The date some days after the first of March of the year zero, which has the number -305. -/
theorem dateFromMarch_spec (n : Int) :
    (dateFromMarch n).IsValid ∧ (dateFromMarch n).dayNumber = n - 305 := by
  have hmod : n.fmod 146097 = n % 146097 := Int.fmod_eq_emod_of_nonneg n (by decide)
  have hdiv : n.fdiv 146097 = n / 146097 := Int.fdiv_eq_ediv_of_nonneg n (by decide)
  obtain ⟨day, hday⟩ : ∃ day : Nat, (n.fmod 146097).toNat = day := ⟨_, rfl⟩
  -- the era is told by the quotient, the place in it by the remainder
  obtain ⟨century, span, year, rest, hplace⟩ :=
    exists_eraPlace (show day < 146097 by rw [hmod] at hday; omega)
  rw [dateFromMarch_eq n hday, hplace.rest_eq]
  obtain ⟨hvalid, hnumber⟩ := dateInMarchYear_spec (hplace.rest_lt (n.fdiv 146097))
  refine ⟨hvalid, ?_⟩
  rw [hnumber, hplace.daysBeforeYear_eq, hdiv]
  rw [hmod] at hday
  omega

/-! ## The date of a count of days -/

/-- The date of a count of days from 1970, if all years were supported. -/
def dateOf (n : Int) : CivilDate := dateFromMarch (n + epochDay + 305)

/-- The computed date is one that the calendar has. -/
theorem isValid_dateOf (n : Int) : (dateOf n).IsValid := (dateFromMarch_spec _).1

/-- The number of the computed date is the count of days from which it is computed, with the days
before 1970. -/
theorem dayNumber_dateOf (n : Int) : (dateOf n).dayNumber = n + epochDay := by
  rw [dateOf, (dateFromMarch_spec _).2, Int.add_sub_cancel]

/-- One day later the date is the next one. -/
theorem dateOf_succ (n : Int) : dateOf (n + 1) = (dateOf n).next := by
  have hvalid := isValid_dateOf n
  refine CivilDate.dayNumber_injective (isValid_dateOf _) hvalid.next ?_
  rw [CivilDate.dayNumber_next hvalid, dayNumber_dateOf, dayNumber_dateOf]
  omega

/-- The date that is computed from a count of days is the one to which the steps of the calendar
lead. -/
theorem isDay_iff {n : Int} {d : CivilDate} : IsDay n d ↔ d = dateOf n := by
  constructor
  · intro h
    -- every step leads to the computed date, since its number grows by one
    induction h with
    | epoch => rfl
    | next _ ih => rw [ih, dateOf_succ]
    | previous hd _ ih =>
      refine CivilDate.dayNumber_injective hd (isValid_dateOf _) ?_
      have hnext := congrArg CivilDate.dayNumber ih
      rw [CivilDate.dayNumber_next hd, dayNumber_dateOf] at hnext
      rw [dayNumber_dateOf]
      omega
  · rintro rfl
    -- the steps lead forward from the first day of 1970, and backward to the days before it
    induction n with
    | zero => exact .epoch
    | succ n ih =>
      rw [dateOf_succ]
      exact .next ih
    | pred n ih =>
      refine .previous (isValid_dateOf _) ?_
      rwa [← dateOf_succ, Int.sub_add_cancel]

end Snowbridge.Embedded
