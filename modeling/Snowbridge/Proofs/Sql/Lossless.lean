import Mathlib.Logic.Function.Defs
import Snowbridge.Proofs.Sql.Name

/-!
# Quoting is lossless

An identifier and a literal are each written as one run. A scan from outside shows no character of
it and is outside again at its end, whatever quotes the content holds, and the content is read back
from between the outer quotes (`OneRun`). A qualified name is a row of runs with points between
them; since its parts are read back from it (`quotedNames_quoteName`), different names are never
written alike.
-/

namespace Snowbridge.Sql

/-- A text is written as one run of a quote that closes itself and hides all that it holds. -/
structure OneRun (quote : Char) (content written : String) : Prop where
  hidden : ∀ shown ∈ outsideFlags none written.toList, shown = false
  closed : OpenQuote.after none written.toList = none
  readBack : ∃ inner, written.toList = quote :: (inner ++ [quote]) ∧
    String.ofList (undoubled quote inner) = content

/-- No character is told to be outside exactly if there are no characters outside. -/
theorem outsideChars_eq_nil_iff {q : OpenQuote} {cs : List Char} :
    outsideChars q cs = [] ↔ ∀ shown ∈ outsideFlags q cs, shown = false := by
  induction cs generalizing q with
  | nil => simp [outsideFlags]
  | cons c cs ih =>
    rw [outsideFlags, List.forall_mem_cons]
    cases hc : q.outside c with
    | true => simp [outsideChars_cons_of_outside hc]
    | false => simp [outsideChars_cons_of_not_outside hc, ih]

/-- A quoted run of either quote has the three properties. -/
theorem OneRun.of_toList {quote : Char} {content written : String} (hq : isQuote quote = true)
    (h : written.toList = quotedRun quote content.toList) : OneRun quote content written := by
  constructor
  · rw [← outsideChars_eq_nil_iff, h]
    exact outsideChars_quotedRun hq content.toList
  · rw [h]
    exact after_quotedRun hq content.toList
  · refine ⟨doubled quote content.toList, h, ?_⟩
    rw [undoubled_doubled, String.ofList_toList]

/-- The parts of a qualified name are read back from it. A quote in a part is doubled, so that a
part with a point between quotes is not taken for two. -/
theorem quotedNames_quoteName (parts : List String) :
    quotedNames none (quoteName parts).toList = parts := by
  have hread : quotedNames none ((String.intercalate "."
      (parts.map fun name => quoteIdentifier name ++ "")).toList ++ []) = parts ++ [] :=
    quotedNames_intercalate (by decide) (by decide) (by decide) parts (by decide)
  simpa [quoteName, quotedNames] using hread

/-- An identifier and a literal are one run each, from which the text is read back, and qualified
names with different parts are written differently. -/
theorem quoting_lossless :
    (∀ name, OneRun '"' name (quoteIdentifier name)) ∧
      (∀ s, OneRun '\'' s ("'" ++ escapeLiteral s ++ "'")) ∧ Function.Injective quoteName := by
  refine ⟨fun name => ?_, fun s => ?_, fun parts parts' hwritten => ?_⟩
  · exact OneRun.of_toList rfl (toList_quoteIdentifier name)
  · exact OneRun.of_toList rfl (toList_quoteLiteral s)
  -- a name that can be read back determines its parts
  · rw [← quotedNames_quoteName parts, hwritten, quotedNames_quoteName]

end Snowbridge.Sql
