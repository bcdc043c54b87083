import Snowbridge.Proofs.Filter.Render
import Snowbridge.Proofs.Sql.Placeholder

/-!
# Placeholders of predicates

A predicate has a value for each of its placeholders, as long as the expressions of columns take no
values of their own. Nothing of the filter's text reaches the predicate but its shape, so this holds
of every filter.
-/

namespace Snowbridge.Filter

open Catalog (Column)
open Sql (Takes)

variable {k : Context} {sql : List Char} {params : List Value}

/-- The expression of a column, if it has one, has no placeholder and closes its runs. -/
def TakesNone (c : Column) : Prop := ∀ e, c.filterExpression = some e → Takes e.toList 0

/-! ## Parts of predicates -/

/-- A blank between two texts takes no values. -/
theorem takes_spaced {xs ys : List Char} {m n : Nat} (hx : Takes xs m) (hy : Takes ys n) :
    Takes (spaced xs ys) (m + n) := by
  have hblank : Takes [' '] 0 := Takes.bare (by decide)
  have hall := hx.append (hblank.append hy)
  rwa [Nat.zero_add] at hall

/-- The words of an operator take no values. -/
theorem takes_operator (o : Operator) : Takes o.sql.toList 0 := by
  apply Takes.bare
  cases o <;> decide

/-- The word of a connective takes no values. -/
theorem takes_connective (c : Connective) : Takes c.sql.toList 0 := by
  apply Takes.bare
  cases c <;> decide

/-- The word of negation takes no values. -/
theorem takes_not {cs : List Char} {n : Nat} (h : Takes cs n) :
    Takes (spaced "NOT".toList cs) n := by
  have hword : Takes "NOT".toList 0 := Takes.bare (by decide)
  have hall := takes_spaced hword h
  rwa [Nat.zero_add] at hall

/-- What stands for a column takes no values. -/
theorem takes_target {c : Column} {text : List Char} (hc : TakesNone c)
    (h : k.target c = .ok text) : Takes text 0 := by
  unfold Context.target at h
  cases he : c.filterExpression with
  | none =>
    simp only [he, Except.ok.injEq] at h
    rw [← h]
    exact Takes.quoteIdentifier c.name
  | some e =>
    cases hcheck : checkExpression k.parser k.dialect c.name e with
    | error fault => simp [he, hcheck, Except.map] at h
    | ok _ =>
      simp only [he, hcheck, Except.map, Except.ok.injEq] at h
      rw [← h]
      exact hc e he

/-- What stands for an operand takes the values of the operand. -/
theorem RendersOperand.takes {c : Column} {o : Operator} {operand : Operand} {text : List Char}
    (h : RendersOperand k c o operand (some text) params) : Takes text params.length := by
  cases h with
  | scalar _ => exact Takes.of_unquoted (by decide)
  | list hvs =>
    rw [← hvs.length_eq]
    exact (Takes.placeholders _).enclose

/-- A clause takes the values of its operand. -/
theorem takes_clause (negated : Bool) {c : Column} {o : Operator} {text : List Char}
    {operand : Operand} {shown : Option (List Char)} (ht : Takes text 0)
    (ho : RendersOperand k c o operand shown params) :
    Takes (renderClause negated o text shown) params.length := by
  have hop := takes_operator o
  cases shown with
  | none =>
    cases ho
    have hclause := takes_spaced ht hop
    simp only [renderClause]
    split
    · exact takes_not hclause.enclose
    · exact hclause
  | some value =>
    have hvalue := takes_spaced hop ho.takes
    rw [Nat.zero_add] at hvalue
    have hclause := takes_spaced ht hvalue
    rw [Nat.zero_add] at hclause
    simp only [renderClause]
    split
    -- the word of negation stands behind the target, in front of the whole or nowhere
    · have hnot := takes_spaced ht (takes_not hvalue)
      rwa [Nat.zero_add] at hnot
    · split
      · exact takes_not hclause.enclose
      · exact hclause

/-! ## Predicates -/

/-- A predicate takes the values that are bound for it. -/
theorem Renders.takes (hk : ∀ c ∈ k.columns, TakesNone c) {t : Tree} (h : Renders k t sql params) :
    Takes sql params.length := by
  induction h with
  | @compare c column _ _ _ hcolumn htarget hoperand =>
    have hnone := hk column (List.mem_of_find?_eq_some hcolumn)
    have hclause := takes_clause c.negated (takes_target hnone htarget) hoperand
    -- the parentheses at the ends of a comparison take no values
    have hopened : Takes (List.replicate c.opened '(') 0 :=
      Takes.replicate (by decide) c.opened
    have hclosed : Takes (List.replicate c.closed ')') 0 :=
      Takes.replicate (by decide) c.closed
    have hall := hopened.append (hclause.append hclosed)
    rwa [Nat.zero_add, Nat.add_zero] at hall
  | group _ ih => exact ih.enclose
  | @join connective _ _ _ _ _ _ _ _ ihl ihr =>
    have hright := takes_spaced (takes_connective connective) ihr
    rw [Nat.zero_add] at hright
    rw [List.length_append]
    exact takes_spaced ihl hright
  | notGroup _ ih => exact takes_not ih
  | not _ _ ih => exact takes_not ih.enclose

/-- A translated filter has as many values as placeholders. -/
theorem takes_translate (hk : ∀ c ∈ k.columns, TakesNone c) {filter : String} {p : Predicate}
    (h : translate k filter = .ok (some p)) : Takes p.sql.toList p.params.length := by
  obtain ⟨t, -, hrenders⟩ := exists_of_translate h
  exact hrenders.takes hk

end Snowbridge.Filter
