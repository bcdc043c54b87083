import Mathlib.Logic.Basic
import Snowbridge.Catalog.ColumnType

/-!
# Lengths, precisions and scales

Two tables decide about the word of a type: one gives the type, the other says whether the size of
that type is a length. Each word of the second table names a type with a length, so no other type is
given one. But some words that name such a type are missing from the second table, and so are all
words that name no type and count as texts (`hasLength_ofType_iff`). What stands in the parentheses
after such a word is taken for a precision and a scale (`sizesAgree_iff`).
-/

namespace Snowbridge.Catalog

/-! ## Words -/

/-- The words that name a type. -/
def knownWords : List String := numberWords ++ typeWords.flatMap Prod.fst

/-- Words of texts that are missing from the words whose size is a length. -/
def varyingWords : List String := ["CHAR VARYING", "NCHAR VARYING"]

/-- A word that makes a type a text although its size is not taken for a length. -/
def IsStray (word : String) : Prop := word ∈ varyingWords ∨ word ∉ knownWords

/-- The known words are those of the two tables of types. -/
theorem mem_knownWords {word : String} :
    word ∈ knownWords ↔ word ∈ numberWords ∨ ∃ e ∈ typeWords, word ∈ e.1 := by
  rw [knownWords, List.mem_append, List.mem_flatMap]

/-- In the table of types, a word names a type with a length exactly if it is in `lengthWords` or is
one of two varying words that were left out there. -/
theorem hasLength_iff_of_mem_typeWords : ∀ e ∈ typeWords, ∀ word ∈ e.1,
    (e.2.hasLength = true ↔ word ∈ lengthWords ∨ word ∈ varyingWords) := by
  decide +kernel

/-- No word of `lengthWords` is a stray. -/
theorem not_isStray_of_mem_lengthWords {word : String} (h : word ∈ lengthWords) :
    ¬ IsStray word := by
  have hall : ∀ word ∈ lengthWords, word ∉ varyingWords ∧ word ∈ knownWords := by
    decide +kernel
  obtain ⟨hvarying, hknown⟩ := hall word h
  exact fun hstray => hstray.elim hvarying fun hunknown => hunknown hknown

/-- The words of exact numbers are neither in `lengthWords` nor strays. -/
theorem not_mem_of_mem_numberWords {word : String} (h : word ∈ numberWords) :
    word ∉ lengthWords ∧ ¬ IsStray word := by
  have hall : ∀ word ∈ numberWords, word ∉ lengthWords ∧ word ∉ varyingWords := by
    decide +kernel
  obtain ⟨hlength, hvarying⟩ := hall word h
  refine ⟨hlength, fun hstray => hstray.elim hvarying fun hunknown => ?_⟩
  exact hunknown (mem_knownWords.2 (.inl h))

/-- A type has a length exactly if its word is in `lengthWords` or is a stray. -/
theorem hasLength_ofType_iff (s : String) : (ColumnType.ofType s).hasLength = true ↔
    (splitType s).1 ∈ lengthWords ∨ IsStray (splitType s).1 := by
  rw [ColumnType.ofType]
  generalize (splitType s).1 = word
  by_cases hnumber : word ∈ numberWords
  · obtain ⟨hlength, hstray⟩ := not_mem_of_mem_numberWords hnumber
    have hneither : ¬ (word ∈ lengthWords ∨ IsStray word) := fun h => h.elim hlength hstray
    rw [if_pos (List.contains_iff_mem.2 hnumber), iff_false_right hneither]
    split <;> decide
  · rw [if_neg (by rwa [List.contains_iff_mem])]
    cases hfind : typeWords.find? fun e => e.1.contains word with
    | none =>
      -- a word without a type counts as a text
      have hunknown : word ∉ knownWords := by
        rw [mem_knownWords]
        rintro (hnumber' | ⟨e, he, hword⟩)
        · exact hnumber hnumber'
        · exact List.find?_eq_none.1 hfind e he (List.contains_iff_mem.2 hword)
      exact iff_of_true rfl (.inr (.inr hunknown))
    | some e =>
      have hmem : e ∈ typeWords := List.mem_of_find?_eq_some hfind
      have hword : word ∈ e.1 := by simpa using List.find?_some hfind
      have hknown : word ∈ knownWords := mem_knownWords.2 (.inr ⟨e, hmem, hword⟩)
      rw [IsStray, or_iff_left (not_not_intro hknown)]
      exact hasLength_iff_of_mem_typeWords e hmem word hword

/-! ## Sizes -/

/-- The pieces between the commas in the parentheses of a type, without blanks around them. -/
def sizeTexts (s : String) : List String :=
  match (splitType s).2 with
  | none => []
  | some inner => (splitCommas inner).map fun p => String.ofList (Text.trim p)

/-- The number that the first piece stands for. -/
def givenSize? (s : String) : Option Nat :=
  (sizeTexts s)[0]?.bind (Decimal.readNat? (Nat.pow 2 64))

/-- The number that the second piece stands for. -/
def givenScale? (s : String) : Option Nat :=
  (sizeTexts s)[1]?.bind (Decimal.readNat? (Nat.pow 2 32))

/-- The sizes of a type in terms of its word and of the numbers in its parentheses. -/
theorem ofType_eq (s : String) : TypeSize.ofType s =
    if (splitType s).1 ∈ lengthWords then { length := givenSize? s }
    else { precision := (givenSize? s).filter (· < Nat.pow 2 32), scale := givenScale? s } := by
  rw [TypeSize.ofType, givenSize?, givenScale?, sizeTexts]
  rcases splitType s with ⟨word, none | inner⟩
  · -- without parentheses all three are missing, whatever the word is
    exact (ite_self ({} : TypeSize)).symm
  · exact if_congr List.contains_iff_mem rfl rfl

/-- The sizes of a type agree with its class: the size of a type with a length is that length, with
no precision and no scale, and any other type has no length. -/
def SizesAgree (s : String) : Prop :=
  if (ColumnType.ofType s).hasLength then TypeSize.ofType s = { length := givenSize? s }
  else (TypeSize.ofType s).length = none

/-- The sizes of a type agree with its class unless its word is a stray and a number is given as
size or scale. -/
theorem sizesAgree_iff (s : String) : SizesAgree s ↔
    ¬ (IsStray (splitType s).1 ∧ ((givenSize? s).isSome = true ∨ (givenScale? s).isSome = true)) := by
  have hclass := hasLength_ofType_iff s
  have hsize := ofType_eq s
  unfold SizesAgree
  by_cases hlength : (splitType s).1 ∈ lengthWords
  · rw [if_pos hlength] at hsize
    rw [if_pos (hclass.2 (.inl hlength)), hsize, iff_true_left rfl]
    exact fun h => not_isStray_of_mem_lengthWords hlength h.1
  · rw [if_neg hlength] at hsize
    rw [or_iff_right hlength] at hclass
    by_cases hstray : IsStray (splitType s).1
    · rw [if_pos (hclass.2 hstray), hsize, and_iff_right hstray]
      cases givenSize? s <;> cases givenScale? s <;> simp
    · rw [if_neg (mt hclass.1 hstray), hsize, iff_true_left rfl]
      exact fun h => hstray h.1

/-- `CHAR VARYING(10)` is a text with a precision, and an unknown type a text with a scale. -/
theorem not_sizesAgree_strays :
    (ColumnType.ofType "CHAR VARYING(10)" = .string ∧
      TypeSize.ofType "CHAR VARYING(10)" = { precision := some 10 } ∧
      ¬ SizesAgree "CHAR VARYING(10)") ∧
    ColumnType.ofType "VECTOR(FLOAT, 3)" = .string ∧
      TypeSize.ofType "VECTOR(FLOAT, 3)" = { scale := some 3 } ∧
      ¬ SizesAgree "VECTOR(FLOAT, 3)" := by
  unfold SizesAgree
  decide +kernel

end Snowbridge.Catalog
