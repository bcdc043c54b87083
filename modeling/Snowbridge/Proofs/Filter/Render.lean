import Snowbridge.Filter.Predicate
import Snowbridge.Proofs.Results

/-!
# Derivations of predicates

A tree that is rendered has a derivation, one step for each of its nodes (`Renders`), and a tree
with a derivation is rendered so (`render_eq_ok_iff`).
-/

namespace Snowbridge.Filter

open Catalog (Column)

variable {k : Context} {sql : List Char} {params : List Value}

/-! ## Operands -/

/-- What stands for the operand of a comparison with a column, and its values: one for a scalar, one
for each item of a list, and none if there is no operand. -/
inductive RendersOperand (k : Context) (c : Column) (o : Operator) :
    Operand → Option (List Char) → List Value → Prop where
  | none : RendersOperand k c o .none none []
  | scalar {raw : String} {v : Value} (hv : bindValue k.named c o raw = .ok v) :
      RendersOperand k c o (.scalar raw) (some ['?']) [v]
  | list {items : List String} {vs : List Value}
      (hvs : List.Forall₂ (fun item v => bindValue k.named c o item = .ok v) items vs) :
      RendersOperand k c o (.list items)
        (some ('(' :: ((Sql.placeholders items.length).toList ++ [')']))) vs

/-- An operand is rendered as its derivation says. -/
theorem renderOperand_eq_ok_iff {c : Column} {o : Operator} {operand : Operand}
    {text : Option (List Char)} :
    renderOperand k c o operand = .ok (text, params) ↔
      RendersOperand k c o operand text params := by
  constructor
  · intro h
    cases operand with
    | none =>
      cases h
      exact .none
    | scalar raw =>
      cases hv : bindValue k.named c o raw with
      | error e => simp [renderOperand, hv, Except.map] at h
      | ok v =>
        simp only [renderOperand, hv, Except.map, Except.ok.injEq, Prod.mk.injEq] at h
        obtain ⟨rfl, rfl⟩ := h
        exact .scalar hv
    | list items =>
      cases hvs : items.mapM (bindValue k.named c o) with
      | error e => simp [renderOperand, hvs, Except.map] at h
      | ok vs =>
        simp only [renderOperand, hvs, Except.map, Except.ok.injEq, Prod.mk.injEq] at h
        obtain ⟨rfl, rfl⟩ := h
        exact .list (mapM_eq_ok_iff.1 hvs)
  · intro h
    cases h with
    | none => rfl
    | scalar hv =>
      rw [renderOperand, hv]
      rfl
    | list hvs =>
      rw [renderOperand, mapM_eq_ok_iff.2 hvs]
      rfl

/-! ## Trees -/

/-- The text of a tree's predicate and its values, from the texts and values of its parts. -/
inductive Renders (k : Context) : Tree → List Char → List Value → Prop where
  | compare {c : Comparison} {column : Column} {text : List Char} {operand : Option (List Char)}
      {params : List Value} (hcolumn : k.column? c.field = some column)
      (htarget : k.target column = .ok text)
      (hoperand : RendersOperand k column c.operator c.operand operand params) :
      Renders k (.compare c) (List.replicate c.opened '(' ++
        (renderClause c.negated c.operator text operand ++ List.replicate c.closed ')')) params
  | group {inner : Tree} {sql : List Char} {params : List Value} (h : Renders k inner sql params) :
      Renders k (.group inner) ('(' :: (sql ++ [')'])) params
  | join {connective : Connective} {left right : Tree} {l r : List Char} {ps qs : List Value}
      (hl : Renders k left l ps) (hr : Renders k right r qs) :
      Renders k (.join connective left right) (spaced l (spaced connective.sql.toList r)) (ps ++ qs)
  | notGroup {inner : Tree} {sql : List Char} {params : List Value}
      (h : Renders k (.group inner) sql params) :
      Renders k (.not (.group inner)) (spaced "NOT".toList sql) params
  | not {inner : Tree} {sql : List Char} {params : List Value} (hinner : ∀ t, inner ≠ .group t)
      (h : Renders k inner sql params) :
      Renders k (.not inner) (spaced "NOT".toList ('(' :: (sql ++ [')']))) params

/-- A comparison that is rendered has a derivation. -/
theorem renders_of_renderComparison {c : Comparison}
    (h : renderComparison k c = .ok (sql, params)) : Renders k (.compare c) sql params := by
  unfold renderComparison at h
  cases hcolumn : k.column? c.field with
  | none => simp [hcolumn] at h
  | some column =>
    cases htarget : k.target column with
    | error e => simp [hcolumn, htarget, bind, Except.bind] at h
    | ok text =>
      cases hoperand : renderOperand k column c.operator c.operand with
      | error e => simp [hcolumn, htarget, hoperand, bind, Except.bind] at h
      | ok r =>
        simp only [hcolumn, htarget, hoperand, bind, Except.bind, Except.ok.injEq,
          Prod.mk.injEq] at h
        obtain ⟨rfl, rfl⟩ := h
        exact .compare hcolumn htarget (renderOperand_eq_ok_iff.1 hoperand)

/-- A tree that is rendered has a derivation. -/
theorem renders_of_render {t : Tree} (h : render k t = .ok (sql, params)) :
    Renders k t sql params := by
  induction t generalizing sql params with
  | compare c => exact renders_of_renderComparison h
  | group inner ih =>
    cases hi : render k inner with
    | error e => simp [render, hi, Except.map] at h
    | ok r =>
      simp only [render, hi, Except.map, Except.ok.injEq, Prod.mk.injEq] at h
      obtain ⟨rfl, rfl⟩ := h
      exact .group (ih hi)
  | join connective left right ihl ihr =>
    cases hl : render k left with
    | error e => simp [render, hl, Except.bind] at h
    | ok l =>
      cases hr : render k right with
      | error e => simp [render, hl, hr, Except.bind, Except.map] at h
      | ok r =>
        simp only [render, hl, hr, Except.bind, Except.map, Except.ok.injEq, Prod.mk.injEq] at h
        obtain ⟨rfl, rfl⟩ := h
        exact .join (ihl hl) (ihr hr)
  | not inner ih =>
    cases hi : render k inner with
    | error e => simp [render, hi, Except.map] at h
    | ok r =>
      simp only [render, hi, Except.map, Except.ok.injEq] at h
      -- only a group stands in parentheses of its own already
      cases inner with
      | group t =>
        cases h
        exact .notGroup (ih hi)
      | compare c =>
        cases h
        exact .not (fun _ => by simp) (ih hi)
      | join connective left right =>
        cases h
        exact .not (fun _ => by simp) (ih hi)
      | not t =>
        cases h
        exact .not (fun _ => by simp) (ih hi)

/-- A derivation is one of what is rendered. -/
theorem Renders.render_eq {t : Tree} (h : Renders k t sql params) :
    render k t = .ok (sql, params) := by
  induction h with
  | compare hcolumn htarget hoperand =>
    simp only [render, renderComparison, hcolumn, htarget, renderOperand_eq_ok_iff.2 hoperand, bind,
      Except.bind]
  | group _ ih =>
    rw [render, ih]
    rfl
  | join _ _ ihl ihr =>
    rw [render, ihl, ihr]
    rfl
  | notGroup _ ih =>
    rw [render, ih]
    rfl
  | @not inner _ _ hinner _ ih =>
    rw [render, ih]
    cases inner with
    | group t => exact absurd rfl (hinner t)
    | compare _ => rfl
    | join _ _ _ => rfl
    | not _ => rfl

/-- A translated filter has a tree, which is rendered as its predicate. -/
theorem exists_of_translate {filter : String} {p : Predicate}
    (h : translate k filter = .ok (some p)) :
    ∃ t, Tree.ofText filter = .ok (some t) ∧ Renders k t p.sql.toList p.params := by
  unfold translate at h
  -- neither a fault nor a blank filter has a predicate
  cases ht : Tree.ofText filter with
  | error e => simp [ht] at h
  | ok found =>
    cases found with
    | none => simp [ht] at h
    | some tree =>
      cases hr : render k tree with
      | error e => simp [ht, hr, Except.map] at h
      | ok fragment =>
        simp only [ht, hr, Except.map, Except.ok.injEq, Option.some.injEq] at h
        refine ⟨tree, rfl, ?_⟩
        rw [← h, String.toList_ofList]
        exact renders_of_render hr

end Snowbridge.Filter
