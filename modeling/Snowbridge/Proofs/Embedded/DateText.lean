import Mathlib.Data.List.Basic
import Snowbridge.Proofs.Embedded.Calendar

/-!
# Texts of dates and times

A number is read back from its digits, whatever zeros stand before them, so the parts of a text of
fixed length tell their numbers. The text of a valid date is not that of another one
(`write_injective`): month and day have two digits each, and the year is told by its digits and its
sign. The text of a time of a day is not that of another one either (`writeTime_injective`); what
its fraction leaves out are zeros at the end.
-/

namespace Snowbridge.Embedded

/-! ## Digits -/

/-- Zeros before a number do not change what its digits say. -/
theorem ofDigitChars_padded (width n : Nat) : Nat.ofDigitChars 10 (padded width n) 0 = n := by
  rw [padded, Nat.ofDigitChars_append, Nat.ofDigitChars_replicate_zero, Nat.mul_zero,
    Nat.ofDigitChars_ten_toDigits]

/-- The number is read back from its digits, however many zeros stand before them. -/
theorem padded_injective {v w n m : Nat} (h : padded v n = padded w m) : n = m := by
  rw [← ofDigitChars_padded v n, h, ofDigitChars_padded]

/-- A number that fits its width is padded to exactly that width. -/
theorem length_padded {width n : Nat} (hwidth : 0 < width) (h : n < 10 ^ width) :
    (padded width n).length = width := by
  have hdigits := (Nat.length_toDigits_le_iff (by decide) hwidth).2 h
  rw [padded, List.length_append, List.length_replicate]
  omega

/-- Hours, minutes, seconds, months and days are written with two digits. -/
theorem length_padded_two {n : Nat} (h : n < 100) : (padded 2 n).length = 2 :=
  length_padded (by decide) h

theorem isDigit_of_mem_padded {width n : Nat} {c : Char} (h : c ∈ padded width n) :
    c.isDigit = true := by
  rcases List.mem_append.1 h with h | h
  · rw [List.eq_of_mem_replicate h]
    rfl
  · exact Nat.isDigit_of_mem_toDigits (by decide) (by decide) h

/-- Only digits stand in a padded number. -/
theorem not_mem_padded {width n : Nat} {c : Char} (h : c.isDigit = false) :
    c ∉ padded width n := by
  intro hmem
  rw [isDigit_of_mem_padded hmem] at h
  cases h

theorem blank_not_mem_padded (width n : Nat) : ' ' ∉ padded width n := not_mem_padded rfl

/-! ## Dates -/

/-- The three forms of a year: four digits, more than four after a plus sign, and a negative year
after a minus sign. -/
theorem writeYear_cases (year : Int) :
    (0 ≤ year ∧ writeYear year = padded 4 year.toNat) ∨
      (0 ≤ year ∧ writeYear year = '+' :: padded 4 year.natAbs) ∨
      (year < 0 ∧ writeYear year = '-' :: padded 4 year.natAbs) := by
  unfold writeYear
  split
  · next h =>
    simp only [Bool.and_eq_true, decide_eq_true_eq] at h
    exact .inl ⟨h.1, rfl⟩
  · split
    · next h => exact .inr (.inr ⟨h, rfl⟩)
    · next h => exact .inr (.inl ⟨Int.not_lt.1 h, rfl⟩)

theorem filter_isDigit_padded (width n : Nat) :
    (padded width n).filter Char.isDigit = padded width n :=
  List.filter_eq_self.2 fun _ => isDigit_of_mem_padded

/-- The digits of a year are those of its distance from the year zero. -/
theorem filter_isDigit_writeYear (year : Int) :
    (writeYear year).filter Char.isDigit = padded 4 year.natAbs := by
  rcases writeYear_cases year with ⟨hyear, h⟩ | ⟨-, h⟩ | ⟨-, h⟩
  · rw [h, filter_isDigit_padded, show year.toNat = year.natAbs by omega]
  · rw [h, List.filter_cons_of_neg (by decide), filter_isDigit_padded]
  · rw [h, List.filter_cons_of_neg (by decide), filter_isDigit_padded]

/-- A year before the year zero is told by its sign. -/
theorem minus_mem_writeYear (year : Int) : '-' ∈ writeYear year ↔ year < 0 := by
  have hpadded : ∀ n, '-' ∉ padded 4 n := fun n => not_mem_padded rfl
  rcases writeYear_cases year with ⟨hyear, h⟩ | ⟨hyear, h⟩ | ⟨hyear, h⟩
  · rw [h]
    exact iff_of_false (hpadded _) (Int.not_lt.2 hyear)
  · rw [h, List.mem_cons]
    exact iff_of_false (by simpa using hpadded _) (Int.not_lt.2 hyear)
  · rw [h]
    exact iff_of_true List.mem_cons_self hyear

/-- A year is told by its digits and its sign. -/
theorem writeYear_injective {y z : Int} (h : writeYear y = writeYear z) : y = z := by
  have hdigits := congrArg (List.filter Char.isDigit) h
  rw [filter_isDigit_writeYear, filter_isDigit_writeYear] at hdigits
  have habs := padded_injective hdigits
  have hsign := minus_mem_writeYear z
  rw [← h, minus_mem_writeYear] at hsign
  omega

/-- The text of a date holds no blank. -/
theorem blank_not_mem_write (d : CivilDate) : ' ' ∉ d.write := by
  have hyear : ' ' ∉ writeYear d.year := by
    rcases writeYear_cases d.year with ⟨-, h⟩ | ⟨-, h⟩ | ⟨-, h⟩ <;> simp [h, blank_not_mem_padded]
  simp [CivilDate.write, hyear, blank_not_mem_padded]

/-- The text of a date is not that of another one: month and day have two digits each, and the year
is what stands before them. -/
theorem write_injective {d e : CivilDate} (hd : d.IsValid) (he : e.IsValid)
    (h : d.write = e.write) : d = e := by
  have hmonth : ∀ {x : CivilDate}, x.IsValid → (padded 2 x.month).length = 2 := by
    intro x hx
    have hle := hx.month_le
    exact length_padded_two (by omega)
  have hday : ∀ {x : CivilDate}, x.IsValid → (padded 2 x.day).length = 2 := by
    intro x hx
    have hle := hx.day_le
    have hlength := (monthLength_bounds x.year x.month).2
    exact length_padded_two (by omega)
  unfold CivilDate.write at h
  -- years have no fixed length, so the text is cut from its end
  obtain ⟨hyears, hrest⟩ := List.append_inj' h (by simp [hmonth hd, hmonth he, hday hd, hday he])
  obtain ⟨hmonths, hdays⟩ := List.append_inj (List.cons.inj hrest).2 (by rw [hmonth hd, hmonth he])
  have hy := writeYear_injective hyears
  have hm := padded_injective hmonths
  have hd := padded_injective (List.cons.inj hdays).2
  cases d
  cases e
  simp_all

/-! ## Times -/

/-- Hours, minutes and seconds. -/
def writeClock (seconds : Nat) : List Char :=
  padded 2 (seconds / 3600) ++
    ':' :: (padded 2 (seconds / 60 % 60) ++ ':' :: padded 2 (seconds % 60))

/-- The fraction of a second in microseconds. -/
def writeFraction (fraction : Nat) : List Char :=
  if fraction == 0 then []
  else if fraction % 1000 == 0 then '.' :: padded 3 (fraction / 1000)
  else '.' :: padded 6 fraction

/-- The text of a time is that of its whole seconds followed by that of the fraction. -/
theorem writeTime_eq (micros : Nat) :
    writeTime micros = writeClock (micros / 1000000) ++ writeFraction (micros % 1000000) := rfl

theorem blank_not_mem_writeTime (micros : Nat) : ' ' ∉ writeTime micros := by
  rw [writeTime_eq, writeClock, writeFraction]
  split
  · simp [blank_not_mem_padded]
  · split <;> simp [blank_not_mem_padded]

/-- The clock of a day has a fixed length, so the fraction can be cut off behind it. -/
theorem length_writeClock {seconds : Nat} (h : seconds < 86400) :
    (writeClock seconds).length = 8 := by
  have hours : (padded 2 (seconds / 3600)).length = 2 := length_padded_two (by omega)
  have minutes : (padded 2 (seconds / 60 % 60)).length = 2 := length_padded_two (by omega)
  have rest : (padded 2 (seconds % 60)).length = 2 := length_padded_two (by omega)
  simp [writeClock, hours, minutes, rest]

/-- A clock tells its hours, minutes and seconds. -/
theorem writeClock_injective {s t : Nat} (hs : s < 86400) (ht : t < 86400)
    (h : writeClock s = writeClock t) : s = t := by
  unfold writeClock at h
  -- two digits each: the clock is cut at fixed places
  obtain ⟨hours, hrest⟩ := List.append_inj h
    (by rw [length_padded_two (by omega), length_padded_two (by omega)])
  obtain ⟨minutes, hseconds⟩ := List.append_inj (List.cons.inj hrest).2
    (by rw [length_padded_two (by omega), length_padded_two (by omega)])
  have h1 := padded_injective hours
  have h2 := padded_injective minutes
  have h3 := padded_injective (List.cons.inj hseconds).2
  omega

/-- A fraction is read back from its digits. Of the six digits of a fraction those that are missing
are zeros at its end. -/
theorem ofDigitChars_writeFraction {f : Nat} (hf : f < 1000000) :
    Nat.ofDigitChars 10 (writeFraction f).tail 0 * 10 ^ (7 - (writeFraction f).length) = f := by
  -- no digits for a whole second, three for whole milliseconds, else six
  unfold writeFraction
  split
  · next h => exact (eq_of_beq h).symm
  · split
    · next h =>
      rw [List.tail_cons, ofDigitChars_padded, List.length_cons,
        length_padded (by decide) (by omega)]
      exact Nat.div_mul_cancel (Nat.dvd_of_mod_eq_zero (eq_of_beq h))
    · rw [List.tail_cons, ofDigitChars_padded, List.length_cons, length_padded (by decide) hf]
      exact Nat.mul_one f

/-- A fraction tells its microseconds, whether written with three digits or with six. -/
theorem writeFraction_injective {f g : Nat} (hf : f < 1000000) (hg : g < 1000000)
    (h : writeFraction f = writeFraction g) : f = g := by
  rw [← ofDigitChars_writeFraction hf, h, ofDigitChars_writeFraction hg]

/-- The text of a time of a day is not that of another one. -/
theorem writeTime_injective {t u : Nat} (ht : t < 86400000000) (hu : u < 86400000000)
    (h : writeTime t = writeTime u) : t = u := by
  have hts : t / 1000000 < 86400 := by omega
  have hus : u / 1000000 < 86400 := by omega
  rw [writeTime_eq, writeTime_eq] at h
  -- the clock has a fixed length and is read first
  obtain ⟨hclocks, hfractions⟩ := List.append_inj h
    (by rw [length_writeClock hts, length_writeClock hus])
  have hseconds := writeClock_injective hts hus hclocks
  have hrest := writeFraction_injective (Nat.mod_lt t (by decide)) (Nat.mod_lt u (by decide))
    hfractions
  rw [← Nat.div_add_mod t 1000000, hseconds, hrest, Nat.div_add_mod]

end Snowbridge.Embedded
