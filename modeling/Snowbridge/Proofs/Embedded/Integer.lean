import Mathlib.Algebra.Group.Int.Defs
import Mathlib.Data.Int.Init
import Snowbridge.Embedded.Cell

/-!
# Integer cells

The number of an integer cell shows in the text of its value, whatever its size, and different
numbers show differently (`label_inj`). Of a size that 64 bits hold, the number never wraps around;
of a larger one it is a word as long as it fits. So each cell is read exactly, apart from the cells
of the largest size: the name of that size stays in their text, and they match no cell of another
size (`integer_cells_exact_iff`).
-/

namespace Snowbridge.Embedded

variable {k l : IntegerKind} {n m : Int}

/-- An integer is read exactly: as a word with sign if there is one for it, else as its digits, and
its text is its decimal form either way. -/
structure ReadsExactly (n : Int) (v : Value) : Prop where
  fits : ∀ i : Int64, i.toInt = n → v = .int i
  exceeds : (∀ i : Int64, i.toInt ≠ n) → v = .text (toString n)
  text : v.asText = some (toString n)

/-! ## Words -/

/-- The range test as an inequality between integers. -/
theorem inInt64_iff : Decimal.inInt64 n = true ↔ -2 ^ 63 ≤ n ∧ n < 2 ^ 63 := by
  simp only [Decimal.inInt64, Int64.toInt_minValue, Int64.toInt_maxValue, Bool.and_eq_true,
    decide_eq_true_eq]
  omega

/-- A number in the range is the value of its word. -/
theorem toInt_ofInt (h : Decimal.inInt64 n = true) : (Int64.ofInt n).toInt = n := by
  rw [inInt64_iff] at h
  exact Int64.toInt_ofInt_of_le h.1 h.2

theorem inInt64_toInt (i : Int64) : Decimal.inInt64 i.toInt = true :=
  inInt64_iff.2 ⟨i.le_toInt, i.toInt_lt⟩

/-- The number itself where it fits 64 bits, and its digits where it does not. -/
def exactValue (n : Int) : Value :=
  if Decimal.inInt64 n then .int (Int64.ofInt n) else .text (toString n)

/-- The value that is meant to be exact is so. -/
theorem readsExactly_exactValue (n : Int) : ReadsExactly n (exactValue n) := by
  unfold exactValue
  constructor
  · rintro i rfl
    rw [if_pos (inInt64_toInt i), Int64.ofInt_toInt]
  · intro hnone
    rw [if_neg fun hfits => hnone _ (toInt_ofInt hfits)]
  · split
    · next hfits => rw [Value.asText, toInt_ofInt hfits]
    · rfl

/-- The integers of a size that 64 bits hold with sign fit 64 bits. -/
theorem inInt64_of_holds (hk : k ≠ .unsignedBig ∧ k ≠ .huge ∧ k ≠ .unsignedHuge)
    (h : k.holds n = true) : Decimal.inInt64 n = true := by
  rw [inInt64_iff]
  cases k <;> simp [IntegerKind.holds, Int.pow_eq] at h hk ⊢ <;> omega

/-- An integer of a size that may exceed 64 bits is written in digits only if it does. -/
theorem ofInteger_huge (n : Int) : Cell.ofInteger .huge n = exactValue n := by
  cases hfits : Decimal.inInt64 n <;> simp [Cell.ofInteger, exactValue, Decimal.toInt64?, hfits]

/-- A size other than the largest has its integers as they are. -/
theorem ofInteger_eq (hk : k ≠ .unsignedHuge) (h : k.holds n = true) :
    Cell.ofInteger k n = exactValue n := by
  by_cases hwide : k = .unsignedBig ∨ k = .huge
  · rcases hwide with rfl | rfl
    · exact ofInteger_huge n
    · exact ofInteger_huge n
  · rw [not_or] at hwide
    rw [exactValue, if_pos (inInt64_of_holds ⟨hwide.1, hwide.2, hk⟩ h)]
    cases k with
    | unsignedBig => exact absurd rfl hwide.1
    | huge => exact absurd rfl hwide.2
    | unsignedHuge => exact absurd rfl hk
    | _ => rfl

/-! ## Texts -/

/-- The text of an integer cell. -/
def label (k : IntegerKind) (n : Int) : String :=
  if k = .unsignedHuge then "UHugeInt(" ++ toString n ++ ")" else toString n

/-- The text under which a cell is compared is its label. -/
theorem asText_ofInteger (h : k.holds n = true) :
    (Cell.ofInteger k n).asText = some (label k n) := by
  unfold label
  split
  · next hk =>
    subst hk
    rfl
  · next hk => rw [ofInteger_eq hk h, (readsExactly_exactValue n).text]

theorem not_mem_repr {c : Char} (hdigit : c.isDigit = false) (a : Nat) : c ∉ a.repr.toList := by
  intro hmem
  rw [Nat.toList_repr] at hmem
  have hc := Nat.isDigit_of_mem_toDigits (by decide) (by decide) hmem
  rw [hdigit] at hc
  cases hc

/-- A decimal number has digits and perhaps a sign. -/
theorem not_mem_toString {c : Char} (hdigit : c.isDigit = false) (hsign : c ≠ '-') (n : Int) :
    c ∉ (toString n).toList := by
  rw [Int.toString_eq_repr, Int.repr_eq_if]
  split
  · exact not_mem_repr hdigit _
  · rw [String.toList_append]
    intro hmem
    rcases List.mem_append.1 hmem with hmem | hmem
    · exact hsign (List.mem_singleton.1 hmem)
    · exact not_mem_repr hdigit _ hmem

/-- A number is read back from its digits. -/
theorem eq_of_repr_eq {a b : Nat} (h : a.repr = b.repr) : a = b := by
  have hdigits := congrArg String.toList h
  rw [Nat.toList_repr, Nat.toList_repr] at hdigits
  rw [← Nat.ofDigitChars_ten_toDigits (n := a), hdigits, Nat.ofDigitChars_ten_toDigits]

/-- A number is told by its decimal form. -/
theorem toString_inj : toString n = toString m ↔ n = m := by
  refine ⟨fun h => ?_, congrArg toString⟩
  -- the sign tells a negative number from the others
  have hsign : ∀ a b : Nat, a.repr ≠ "-" ++ b.repr := by
    intro a b hab
    refine not_mem_repr (c := '-') (by decide) a ?_
    rw [hab]
    simp
  rw [Int.toString_eq_repr, Int.toString_eq_repr, Int.repr_eq_if, Int.repr_eq_if] at h
  split at h
  · split at h
    · have := eq_of_repr_eq h
      omega
    · exact absurd h (hsign _ _)
  · split at h
    · exact absurd h.symm (hsign _ _)
    · have := eq_of_repr_eq (String.append_right_inj _ |>.1 h)
      omega

/-- The name of the largest size is no part of a decimal number. -/
theorem named_ne_toString (n m : Int) : "UHugeInt(" ++ toString n ++ ")" ≠ toString m := by
  intro h
  have hmem : 'U' ∈ ("UHugeInt(" ++ toString n ++ ")").toList := by simp
  rw [h] at hmem
  exact not_mem_toString (by decide) (by decide) m hmem

/-- Texts of cells are equal if their numbers are and both or none of them have the largest size. -/
theorem label_inj : label k n = label l m ↔
    n = m ∧ (k = .unsignedHuge ↔ l = .unsignedHuge) := by
  unfold label
  -- whether the name of the largest size stands in the text tells the sizes apart
  by_cases hk : k = .unsignedHuge
  · by_cases hl : l = .unsignedHuge
    · rw [if_pos hk, if_pos hl, String.append_left_inj, String.append_right_inj, toString_inj]
      simp [hk, hl]
    · rw [if_pos hk, if_neg hl]
      exact iff_of_false (named_ne_toString n m) fun h => hl (h.2.1 hk)
  · by_cases hl : l = .unsignedHuge
    · rw [if_neg hk, if_pos hl]
      exact iff_of_false (named_ne_toString m n).symm fun h => hk (h.2.2 hl)
    · rw [if_neg hk, if_neg hl, toString_inj]
      simp [hk, hl]

/-! ## Cells -/

/-- An integer cell has a value, which is read exactly unless the cell has the largest size. The
values of two cells match if their numbers are equal and both or none of them have the largest size.
-/
theorem integer_cells_exact_iff (cal : Calendar) (hn : k.holds n = true) (hm : l.holds m = true) :
    ∃ v w, (Cell.integer k n).toValue cal = .ok v ∧ (Cell.integer l m).toValue cal = .ok w ∧
      (ReadsExactly n v ↔ k ≠ .unsignedHuge) ∧
      (v.agrees w = true ↔ n = m ∧ (k = .unsignedHuge ↔ l = .unsignedHuge)) := by
  refine ⟨Cell.ofInteger k n, Cell.ofInteger l m, rfl, rfl, ?_, ?_⟩
  · constructor
    -- the text of a cell of the largest size is no decimal number
    · rintro hexact rfl
      have htext := hexact.text
      rw [asText_ofInteger hn] at htext
      exact named_ne_toString n n (Option.some.inj htext)
    · intro hk
      rw [ofInteger_eq hk hn]
      exact readsExactly_exactValue n
  · rw [Value.agrees, beq_iff_eq, asText_ofInteger hn, asText_ofInteger hm, Option.some_inj,
      label_inj]

/-- The largest number of 64 bits without sign, in two sizes. -/
theorem integer_cells_exact_allOnes :
    IntegerKind.unsignedBig.holds (2 ^ 64 - 1) = true ∧ IntegerKind.huge.holds (2 ^ 64 - 1) = true ∧
      ∃ v w, (Cell.integer .unsignedBig (2 ^ 64 - 1)).toValue gregorian = .ok v ∧
        (Cell.integer .huge (2 ^ 64 - 1)).toValue gregorian = .ok w ∧
        ReadsExactly (2 ^ 64 - 1) v ∧ v.agrees w = true := by
  have hbig : IntegerKind.unsignedBig.holds (2 ^ 64 - 1) = true := by decide
  have hhuge : IntegerKind.huge.holds (2 ^ 64 - 1) = true := by decide
  obtain ⟨v, w, hv, hw, hexact, hagrees⟩ := integer_cells_exact_iff gregorian hbig hhuge
  exact ⟨hbig, hhuge, v, w, hv, hw, hexact.2 (by decide), hagrees.2 ⟨rfl, by decide⟩⟩

/-- A small number of the largest size is not read as a number, and matches no equal one. -/
theorem not_readsExactly_unsignedHuge : IntegerKind.unsignedHuge.holds 5 = true ∧
    (Cell.integer .unsignedHuge 5).toValue gregorian = .ok (.text "UHugeInt(5)") ∧
    (Cell.integer .huge 5).toValue gregorian = .ok (.int 5) ∧
    ¬ ReadsExactly 5 (.text "UHugeInt(5)") ∧
    (Value.text "UHugeInt(5)").agrees (.int 5) = false := by
  refine ⟨by decide, rfl, rfl, fun hexact => ?_, by decide +kernel⟩
  have hfits := hexact.fits 5 (by decide)
  cases hfits

end Snowbridge.Embedded
