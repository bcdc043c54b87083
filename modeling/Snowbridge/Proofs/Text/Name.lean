import Snowbridge.Text.Case

/-!
# Names in any case

Names are the same if they differ in the case of ASCII letters alone, so they are the same exactly
if their forms in lower case are equal (`sameName_iff`), and spellings of one name may stand for
each other (`sameName_congr`).
-/

namespace Snowbridge.Text

variable {a b : String}

/-- Sameness of names as an equation between their characters. -/
theorem sameName_iff :
    sameName a b = true ↔ a.toList.map foldAscii = b.toList.map foldAscii := beq_iff_eq

theorem sameName_comm (a b : String) : sameName a b = sameName b a := by
  rw [Bool.eq_iff_iff, sameName_iff, sameName_iff]
  exact eq_comm

/-- Sameness of names as an equation between their forms in lower case. -/
theorem sameName_iff_foldedAscii : sameName a b = true ↔ foldedAscii a = foldedAscii b := by
  rw [sameName_iff, foldedAscii, foldedAscii, ← String.toList_inj, String.toList_map,
    String.toList_map]

theorem sameName_eq_false_iff : sameName a b = false ↔ foldedAscii a ≠ foldedAscii b := by
  rw [← Bool.not_eq_true, sameName_iff_foldedAscii]

/-- Spellings of one name are the same as any other name or not. -/
theorem sameName_congr (h : sameName a b = true) (c : String) : sameName c a = sameName c b := by
  rw [Bool.eq_iff_iff, sameName_iff, sameName_iff, sameName_iff.1 h]

end Snowbridge.Text
