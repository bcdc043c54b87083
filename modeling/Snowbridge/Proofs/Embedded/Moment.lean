import Snowbridge.Embedded.Engine
import Snowbridge.Proofs.Embedded.DateText
import Snowbridge.Proofs.Results

/-!
# Cells of dates and times

A cell of a date or of an instant tells a `Moment`. Over a calendar that is faithful
(`Calendar.Faithful`) its value is that moment's text, or null if the year is not supported
(`value_of_toValue`). Long before the words end in which microseconds are counted, the supported
years do, so microseconds that become the nearest word (`toInt_micros`) tell no wrong instant.
Nothing guards the sum that gives the number of a day, and it overflows for the last days that 32
bits count (`exists_toValue_iff`).
-/

namespace Snowbridge.Embedded

/-! ## Moments -/

/-- What a cell of dates or of times tells: a day, counted from 1970, or an instant in microseconds
from the start of that year. -/
inductive Moment where
  | day (n : Int)
  | instant (micros : Int)

namespace Moment

/-- The day in which a moment lies. -/
def dayCount : Moment → Int
  | day n => n
  | instant micros => micros / dayMicros

/-- What stands behind the date in the text of a moment. -/
def timeText : Moment → List Char
  | day _ => []
  | instant micros => ' ' :: writeTime (micros % dayMicros).toNat

/-- A value tells a moment: it is the text of the date to which the calendar leads and of the time,
and null if the year of the date is not supported. -/
def Reads (m : Moment) (v : Value) : Prop :=
  ∃ d, IsDay m.dayCount d ∧
    v = if inYearRange d.year then .text (String.ofList (d.write ++ m.timeText)) else .null

/-- Date and time of a moment. -/
def text (m : Moment) : List Char := (dateOf m.dayCount).write ++ m.timeText

/-- The value that tells a moment. -/
def value (m : Moment) : Value :=
  if inYearRange (dateOf m.dayCount).year then .text (String.ofList m.text) else .null

/-- Every moment is told by one value only, since the steps of the calendar lead to one date
only. -/
theorem reads_iff {m : Moment} {v : Value} : m.Reads v ↔ v = m.value := by
  simp only [Reads, isDay_iff, exists_eq_left, value, text]

/-- Days with the same text are the same day. -/
theorem dayCount_eq_of_write {m n : Moment}
    (h : (dateOf m.dayCount).write = (dateOf n.dayCount).write) : m.dayCount = n.dayCount := by
  have hnumbers := congrArg CivilDate.dayNumber
    (write_injective (isValid_dateOf _) (isValid_dateOf _) h)
  rw [dayNumber_dateOf, dayNumber_dateOf] at hnumbers
  exact add_right_cancel hnumbers

/-- The text of a moment is not that of another one. The first blank tells where the date ends, and
a day has none. -/
theorem text_injective {m n : Moment} (h : m.text = n.text) : m = n := by
  -- a blank stands in the text of an instant only
  have hblank : ∀ k : Moment, ' ' ∈ k.text ↔ ∃ micros, k = .instant micros := by
    intro k
    cases k with
    | day a => simpa [text, timeText] using blank_not_mem_write _
    | instant a => simp [text, timeText]
  cases m with
  | day a =>
    cases n with
    | day b =>
      have hdays := dayCount_eq_of_write (m := .day a) (n := .day b)
        (by simpa only [text, timeText, List.append_nil] using h)
      exact congrArg day hdays
    | instant b =>
      obtain ⟨_, hday⟩ := (hblank (.day a)).1 (by rw [h]; exact (hblank _).2 ⟨b, rfl⟩)
      cases hday
  | instant a =>
    cases n with
    | day b =>
      obtain ⟨_, hday⟩ := (hblank (.day b)).1 (by rw [← h]; exact (hblank _).2 ⟨a, rfl⟩)
      cases hday
    | instant b =>
      have htime : ∀ k : Int, (k % dayMicros).toNat < 86400000000 := by
        intro k
        simp only [dayMicros]
        omega
      -- both texts are cut at their first blank
      obtain ⟨hdates, -, htimes⟩ := (List.append_cons_inj_of_notMem (blank_not_mem_write _)
        (blank_not_mem_writeTime _)).1 h
      have hdays := dayCount_eq_of_write (m := .instant a) (n := .instant b) hdates
      have hrest := writeTime_injective (htime a) (htime b) htimes
      simp only [dayCount, dayMicros] at hdays hrest
      exact congrArg instant (by omega)

end Moment

/-- The days of the supported years. -/
theorem inYearRange_dateOf (n : Int) :
    inYearRange (dateOf n).year = true ↔ -96465292 ≤ n ∧ n ≤ 95026236 := by
  -- the days before the first supported year and those up to the end of the last one
  have hfirst : daysBeforeYear (-262143) = epochDay - 96465293 := by decide
  have hlast : daysBeforeYear 262143 = epochDay + 95026236 := by decide
  have hfrom := (isValid_dateOf n).le_year_iff (-262143)
  have hto := (isValid_dateOf n).le_year_iff 262143
  rw [dayNumber_dateOf] at hfrom hto
  simp only [inYearRange, Bool.and_eq_true, decide_eq_true_eq]
  omega

namespace Moment

/-- The value of a moment as it is computed from the number of its day. -/
theorem value_eq (m : Moment) : m.value = Cell.ofText?
    ((CivilDate.ofDayNumber? (m.dayCount + epochDay)).map fun d => d.write ++ m.timeText) := by
  have hdate : CivilDate.ofDayNumber? (m.dayCount + epochDay) =
      if inYearRange (dateOf m.dayCount).year then some (dateOf m.dayCount) else none := rfl
  rw [hdate, value, text]
  split <;> rfl

/-- Far from the supported years every moment is null. -/
theorem value_eq_null {m : Moment} (h : m.dayCount < -96465292 ∨ 95026236 < m.dayCount) :
    m.value = .null := by
  refine if_neg fun hyear => ?_
  rw [inYearRange_dateOf] at hyear
  omega

/-- The text of a moment is not that of another one. -/
theorem value_injective {m n : Moment} (h : m.value = n.value) (hnull : m.value ≠ .null) :
    m = n := by
  -- a value that is not null is the text of its moment
  have htext : ∀ {k : Moment}, k.value ≠ .null → k.value = .text (String.ofList k.text) := by
    intro k hk
    unfold value at hk ⊢
    split at hk
    · next hyear => exact if_pos hyear
    · exact absurd rfl hk
  have hnull' : n.value ≠ .null := by rwa [← h]
  rw [htext hnull, htext hnull'] at h
  exact text_injective (String.ofList_injective (Value.text.inj h))

end Moment

/-! ## Calendars -/

/-- A calendar that gives the text of the very day and of the very instant if the year is supported,
and none if not. It counts days from the first one of the year one. -/
structure Calendar.Faithful (cal : Calendar) : Prop where
  date : ∀ n : Int32, (Moment.day (n.toInt - epochDay)).Reads (Cell.ofText? (cal.date? n))
  instant : ∀ micros : Int64,
    (Moment.instant micros.toInt).Reads (Cell.ofText? (cal.instant? micros))

/-- The computed calendar is faithful, so what is proved over faithful calendars is not about
none. -/
theorem faithful_gregorian : gregorian.Faithful where
  date n := by
    rw [Moment.reads_iff, Moment.value_eq]
    simp only [Moment.dayCount, Moment.timeText, Int.sub_add_cancel, List.append_nil]
    rfl
  instant micros := by
    have hdiv : micros.toInt.fdiv dayMicros = micros.toInt / dayMicros :=
      Int.fdiv_eq_ediv_of_nonneg _ (by decide)
    have hmod : micros.toInt.fmod dayMicros = micros.toInt % dayMicros :=
      Int.fmod_eq_emod_of_nonneg _ (by decide)
    rw [Moment.reads_iff, Moment.value_eq]
    show Cell.ofText? (writeInstant? micros.toInt) = _
    rw [writeInstant?, hdiv, hmod]
    rfl

/-! ## Words -/

/-- The sum of two words is the exact one. -/
theorem sum32_eq_ok_iff {a b c : Int32} :
    sum32 a b = .ok c ↔ c.toInt = a.toInt + b.toInt := by
  have hlow := c.le_toInt
  have hhigh := c.toInt_lt
  have hmin : Int32.minValue.toInt = -2 ^ 31 := Int32.toInt_minValue
  have hmax : Int32.maxValue.toInt = 2 ^ 31 - 1 := Int32.toInt_maxValue
  simp only [sum32, hmin, hmax, Bool.and_eq_true, decide_eq_true_eq]
  split
  · rw [Except.ok.injEq, ← Int32.toInt_inj, Int32.toInt_ofInt_of_le (by omega) (by omega), eq_comm]
  · simp only [reduceCtorEq, false_iff]
    omega

/-- There is a sum if the exact one fits 32 bits. -/
theorem exists_sum32_iff {a b : Int32} :
    (∃ c, sum32 a b = .ok c) ↔ -2 ^ 31 ≤ a.toInt + b.toInt ∧ a.toInt + b.toInt < 2 ^ 31 := by
  simp only [sum32_eq_ok_iff]
  constructor
  · rintro ⟨c, hc⟩
    exact hc ▸ ⟨c.le_toInt, c.toInt_lt⟩
  · rintro ⟨hlow, hhigh⟩
    exact ⟨Int32.ofInt (a.toInt + b.toInt), Int32.toInt_ofInt_of_le hlow hhigh⟩

/-- The integer of 64 bits that is nearest to an integer: the integer itself, or the end that lies
towards it. -/
def nearest (n : Int) : Int := max (-2 ^ 63) (min (2 ^ 63 - 1) n)

/-- A saturated word is the nearest one. -/
theorem toInt_saturated (n : Int) : (saturated n).toInt = nearest n := by
  have hmin : Int64.minValue.toInt = -2 ^ 63 := Int64.toInt_minValue
  have hmax : Int64.maxValue.toInt = 2 ^ 63 - 1 := Int64.toInt_maxValue
  unfold saturated nearest
  rw [hmin, hmax]
  split
  · rw [hmin]
    omega
  · split
    · rw [hmax]
      omega
    · rw [Int64.toInt_ofInt_of_le (by omega) (by omega)]
      omega

/-- A count of time in microseconds, with a part of a microsecond dropped. -/
def TimeUnit.exactMicros (u : TimeUnit) (count : Int) : Int :=
  match u with
  | .second => count * 1000000
  | .millisecond => count * 1000
  | .microsecond => count
  | .nanosecond => count.tdiv 1000

/-- Microseconds never wrap around: where 64 bits do not hold the exact count, they are the nearest
word. -/
theorem toInt_micros (unit : TimeUnit) (count : Int64) :
    (unit.micros count).toInt = nearest (unit.exactMicros count.toInt) := by
  -- microseconds stand as they are and nanoseconds are divided, so only larger units may exceed the
  -- word
  have hlow := count.le_toInt
  have hhigh := count.toInt_lt
  cases unit with
  | second => exact toInt_saturated _
  | millisecond => exact toInt_saturated _
  | microsecond =>
    simp only [TimeUnit.micros, TimeUnit.exactMicros, nearest]
    omega
  | nanosecond =>
    have hquotient : -2 ^ 63 ≤ count.toInt.tdiv 1000 ∧ count.toInt.tdiv 1000 < 2 ^ 63 := by
      rcases Int.le_total 0 count.toInt with h | h
      · rw [Int.tdiv_eq_ediv_of_nonneg h]
        omega
      · rw [← Int.neg_neg count.toInt, Int.neg_tdiv, Int.tdiv_eq_ediv_of_nonneg (by omega)]
        omega
    simp only [TimeUnit.micros, TimeUnit.exactMicros, nearest]
    rw [Int64.toInt_ofInt_of_le hquotient.1 hquotient.2]
    omega

/-! ## Cells -/

/-- The moment that a cell tells. -/
def Cell.moment? : Cell → Option Moment
  | .date days => some (.day days.toInt)
  | .instant unit count => some (.instant (unit.exactMicros count.toInt))
  | _ => none

section Cells

variable {cal : Calendar} {c : Cell} {m : Moment} {v : Value}

/-- The value of a date cell tells its day. -/
theorem value_of_toValue_date (hcal : cal.Faithful) {days : Int32}
    (h : (Cell.date days).toValue cal = .ok v) : v = (Moment.day days.toInt).value := by
  rw [Cell.toValue] at h
  cases hsum : sum32 days (Int32.ofInt epochDay) with
  | error e => simp [hsum, Except.map] at h
  | ok n =>
    have hepoch : (Int32.ofInt epochDay).toInt = epochDay := by decide
    have hn := sum32_eq_ok_iff.1 hsum
    have hread := Moment.reads_iff.1 (hcal.date n)
    rw [hn, hepoch, Int.add_sub_cancel] at hread
    rw [hsum] at h
    rw [← hread]
    exact (Except.ok.inj h).symm

/-- An instant cell tells its instant. Where microseconds become the nearest word, neither the
instant nor the one it is taken for has a supported year. -/
theorem toValue_instant (hcal : cal.Faithful) (unit : TimeUnit) (count : Int64) :
    (Cell.instant unit count).toValue cal =
      .ok (Moment.instant (unit.exactMicros count.toInt)).value := by
  have hvalue := Moment.reads_iff.1 (hcal.instant (unit.micros count))
  have hword := toInt_micros unit count
  rw [nearest] at hword
  rw [Cell.toValue, hvalue]
  by_cases hfits : -2 ^ 63 ≤ unit.exactMicros count.toInt ∧ unit.exactMicros count.toInt < 2 ^ 63
  · rw [show (unit.micros count).toInt = unit.exactMicros count.toInt by omega]
  · -- the end of the words lies on the same side of the supported years as the exact count
    rw [Moment.value_eq_null, Moment.value_eq_null]
    · simp only [Moment.dayCount, dayMicros]
      omega
    · simp only [Moment.dayCount, dayMicros]
      omega

/-- A cell has no value but the one that tells its moment. -/
theorem value_of_toValue (hcal : cal.Faithful) (h : c.moment? = some m)
    (hv : c.toValue cal = .ok v) : v = m.value := by
  cases c with
  | date days =>
    obtain rfl := Option.some.inj h
    exact value_of_toValue_date hcal hv
  | instant unit count =>
    obtain rfl := Option.some.inj h
    rw [toValue_instant hcal, Except.ok.injEq] at hv
    exact hv.symm
  | _ => cases h

/-- The number of a day overflows for the last days that 32 bits count, and nothing else does. -/
theorem exists_toValue_iff (cal : Calendar) (c : Cell) :
    (∃ v, c.toValue cal = .ok v) ↔ ∀ days, c = .date days → days.toInt < 2 ^ 31 - epochDay := by
  cases c with
  | date days =>
    have hlow := days.le_toInt
    have hepoch : (Int32.ofInt epochDay).toInt = epochDay := by decide
    have hsum := exists_sum32_iff (a := days) (b := Int32.ofInt epochDay)
    rw [hepoch] at hsum
    have hvalue : (∃ v, (Cell.date days).toValue cal = .ok v) ↔
        ∃ n, sum32 days (Int32.ofInt epochDay) = .ok n := by
      rw [Cell.toValue]
      cases sum32 days (Int32.ofInt epochDay) with
      | error e => simp [Except.map]
      | ok n => simp [Except.map]
    rw [hvalue, hsum]
    simp only [Cell.date.injEq, forall_eq', epochDay]
    omega
  | _ => exact iff_of_true ⟨_, rfl⟩ fun _ hdate => by cases hdate

/-- A query ends the program exactly if its reply has a row with such a day in one of its
columns. -/
theorem exists_query_iff (cal : Calendar) (replies : List CellReply) (sql : String)
    (params : List Value) (s : Session) :
    (∃ answered, query cal replies sql params s = .ok answered) ↔
      ∀ columns rows, replies[s.log.length]? = some (.rows columns rows) → ∀ row ∈ rows,
        ∀ i < columns.length, ∀ days, row[i]? = some (.date days) →
          days.toInt < 2 ^ 31 - epochDay := by
  -- a row has its values exactly if each of its cells in a named column has one
  have hrow : ∀ (columns : List String) (row : List Cell),
      (∃ values, valuesOf cal columns row = .ok values) ↔
        ∀ i < columns.length, ∀ days, row[i]? = some (.date days) →
          days.toInt < 2 ^ 31 - epochDay := by
    intro columns row
    simp only [valuesOf, exists_mapM_eq_ok_iff, List.mem_range, exists_toValue_iff]
    refine forall₂_congr fun i _ => forall_congr' fun days => ?_
    rw [List.getD_eq_getElem?_getD]
    cases row[i]? <;> simp
  unfold query
  cases hreply : replies[s.log.length]? with
  | none => exact iff_of_true ⟨_, rfl⟩ fun _ _ h => nomatch h
  | some reply =>
    cases reply with
    | rows columns rows =>
      have hcells : (∃ values, rows.mapM (valuesOf cal columns) = .ok values) ↔
          ∀ row ∈ rows, ∀ i < columns.length, ∀ days, row[i]? = some (.date days) →
            days.toInt < 2 ^ 31 - epochDay := by
        simp only [exists_mapM_eq_ok_iff, hrow]
      have hread : (∃ answered, (CellReply.read cal sql (.rows columns rows)).map
          (fun _ => (Session.execute sql params).run s) = .ok answered) ↔
          ∃ values, rows.mapM (valuesOf cal columns) = .ok values := by
        rw [CellReply.read]
        cases rows.mapM (valuesOf cal columns) <;> simp [Except.map]
      refine (hread.trans hcells).trans ⟨?_, fun h => h columns rows rfl⟩
      intro h columns' rows' heq
      cases heq
      exact h
    | affected n => exact iff_of_true ⟨_, rfl⟩ fun _ _ h => nomatch h
    | fails reason => exact iff_of_true ⟨_, rfl⟩ fun _ _ h => nomatch h

/-- Over a faithful calendar a cell that tells a moment is exact or null, if it has a value. It is
the text of its day or of its instant, null only if the year is not supported, and no other moment
has its text. A cell has a value unless the number of its day overflows, which happens for the last
days that 32 bits count; microseconds are the exact count or the word nearest to it. -/
theorem moment_cells_exact_iff (hcal : cal.Faithful) (h : c.moment? = some m) :
    ((∃ v, c.toValue cal = .ok v) ↔
      ∀ days, c = .date days → days.toInt < 2 ^ 31 - epochDay) ∧
    (∀ v, c.toValue cal = .ok v → m.Reads v ∧
      ∀ (c' : Cell) (m' : Moment), c'.moment? = some m' → c'.toValue cal = .ok v →
        v ≠ .null → m = m') ∧
    ∀ unit count, c = .instant unit count →
      (unit.micros count).toInt = nearest (unit.exactMicros count.toInt) := by
  -- whether there is a value, what it tells, and the microseconds
  refine ⟨exists_toValue_iff cal c, ?_, fun unit count _ => toInt_micros unit count⟩
  intro v hv
  have hvalue := value_of_toValue hcal h hv
  refine ⟨Moment.reads_iff.2 hvalue, ?_⟩
  intro c' m' h' hv' hnull
  rw [hvalue] at hv' hnull
  exact Moment.value_injective (value_of_toValue hcal h' hv') hnull

end Cells

/-- The leap day of 2024. -/
theorem moment_cells_exact_leapDay :
    gregorian.Faithful ∧ (Cell.date 19782).moment? = some (.day 19782) ∧
      (Cell.date 19782).toValue gregorian = .ok (.text "2024-02-29") ∧
      (Moment.day 19782).Reads (.text "2024-02-29") := by
  have hmoment : (Cell.date 19782).moment? = some (.day 19782) := rfl
  obtain ⟨hvalue, hreads, -⟩ := moment_cells_exact_iff faithful_gregorian hmoment
  have hbound : ∀ days, Cell.date 19782 = .date days → days.toInt < 2 ^ 31 - epochDay := by
    intro days hdays
    obtain rfl := Cell.date.inj hdays
    decide
  obtain ⟨v, hv⟩ := hvalue.2 hbound
  obtain rfl : v = .text "2024-02-29" := (Except.ok.inj hv).symm
  exact ⟨faithful_gregorian, hmoment, hv, (hreads _ hv).1⟩

/-- For a date without end the engine gives the last day that 32 bits count. Its number
overflows. -/
theorem toValue_endlessDate :
    (Cell.date 2147483647).moment? = some (.day 2147483647) ∧
      (Cell.date 2147483647).toValue gregorian = .error {} := by
  exact ⟨rfl, rfl⟩

end Snowbridge.Embedded
