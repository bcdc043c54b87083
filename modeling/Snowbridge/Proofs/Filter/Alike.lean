import Snowbridge.Proofs.Filter.Parenthesis

/-!
# Filters that differ in their values

Two filters are alike if their trees differ only in the texts of values and in how a field is
spelled that names the same column. Their predicates have one text, whatever the values and the
parameters are (`Tree.Alike.sql_eq`), and a filter that is alike to a translated one can fail only
for a value of its own (`Tree.Alike.isValueFault`). So no value reaches the text of a predicate.
-/

namespace Snowbridge.Filter

open Catalog (Column)

/-! ## Trees that are alike -/

/-- Operands of one kind, with as many values. -/
inductive Operand.Alike : Operand → Operand → Prop where
  | none : Alike .none .none
  | scalar (raw other : String) : Alike (.scalar raw) (.scalar other)
  | list {items others : List String} (h : items.length = others.length) :
      Alike (.list items) (.list others)

/-- Comparisons that differ only in the texts of their values and in the spelling of one field. -/
structure Comparison.Alike (k : Context) (c d : Comparison) : Prop where
  opened : c.opened = d.opened
  closed : c.closed = d.closed
  field : c.field = d.field ∨ ∃ column, k.column? c.field = some column ∧
    k.column? d.field = some column
  negated : c.negated = d.negated
  operator : c.operator = d.operator
  operand : c.operand.Alike d.operand

/-- Trees of one shape, with comparisons that are alike. -/
inductive Tree.Alike (k : Context) : Tree → Tree → Prop where
  | not {t u : Tree} (h : Alike k t u) : Alike k (.not t) (.not u)
  | join (connective : Connective) {t u t' u' : Tree} (hl : Alike k t t') (hr : Alike k u u') :
      Alike k (.join connective t u) (.join connective t' u')
  | group {t u : Tree} (h : Alike k t u) : Alike k (.group t) (.group u)
  | compare {c d : Comparison} (h : c.Alike k d) : Alike k (.compare c) (.compare d)

/-- Comparisons that are alike are about one column. -/
theorem Comparison.Alike.column?_eq {k : Context} {c d : Comparison} (h : c.Alike k d) :
    k.column? c.field = k.column? d.field := by
  rcases h.field with hfield | ⟨column, hc, hd⟩
  · rw [hfield]
  · rw [hc, hd]

/-! ## One text -/

variable {k : Context} {named other : Named}

/-- Placeholders depend on the number of values only. -/
theorem Operand.Alike.text_eq {c : Column} {o : Operator} {a b : Operand} (h : a.Alike b)
    {text text' : Option (List Char)} {ps qs : List Value}
    (ha : RendersOperand { k with named := named } c o a text ps)
    (hb : RendersOperand { k with named := other } c o b text' qs) :
    text = text' ∧ ps.length = qs.length := by
  cases h with
  | none =>
    cases ha
    cases hb
    exact ⟨rfl, rfl⟩
  | scalar =>
    cases ha
    cases hb
    exact ⟨rfl, rfl⟩
  | list hlength =>
    cases ha with
    | list hps =>
      cases hb with
      | list hqs =>
        refine ⟨by rw [hlength], ?_⟩
        rw [← hps.length_eq, ← hqs.length_eq, hlength]

/-- Trees that are alike become one text, with as many values. -/
theorem Tree.Alike.sql_eq {t u : Tree} (h : t.Alike k u) {sql sql' : List Char}
    {ps qs : List Value} (ht : Renders { k with named := named } t sql ps)
    (hu : Renders { k with named := other } u sql' qs) :
    sql = sql' ∧ ps.length = qs.length := by
  induction h generalizing sql sql' ps qs with
  | not hinner ih =>
    cases ht with
    | notGroup ht =>
      -- what is alike to a group is a group
      cases hinner with
      | group _ =>
        cases hu with
        | notGroup hu =>
          obtain ⟨rfl, hlength⟩ := ih ht hu
          exact ⟨rfl, hlength⟩
        | not hne _ => exact absurd rfl (hne _)
    | not hne ht =>
      cases hu with
      | notGroup hu =>
        cases hinner with
        | group _ => exact absurd rfl (hne _)
      | not _ hu =>
        obtain ⟨rfl, hlength⟩ := ih ht hu
        exact ⟨rfl, hlength⟩
  | join connective _ _ ihl ihr =>
    cases ht with
    | join hl hr =>
      cases hu with
      | join hl' hr' =>
        obtain ⟨rfl, hleft⟩ := ihl hl hl'
        obtain ⟨rfl, hright⟩ := ihr hr hr'
        exact ⟨rfl, by rw [List.length_append, List.length_append, hleft, hright]⟩
  | group _ ih =>
    cases ht with
    | group ht =>
      cases hu with
      | group hu =>
        obtain ⟨rfl, hlength⟩ := ih ht hu
        exact ⟨rfl, hlength⟩
  | @compare c d hcomparison =>
    cases ht with
    | compare hcolumn htarget hoperand =>
      cases hu with
      | compare hcolumn' htarget' hoperand' =>
        -- both fields name one column, so both texts start with what stands for it
        have hsame : k.column? c.field = k.column? d.field := hcomparison.column?_eq
        obtain rfl := Option.some.inj (hcolumn.symm.trans (hsame.trans hcolumn'))
        obtain rfl := Except.ok.inj (htarget.symm.trans htarget')
        rw [← hcomparison.operator] at hoperand'
        obtain ⟨rfl, hlength⟩ := hcomparison.operand.text_eq hoperand hoperand'
        rw [hcomparison.opened, hcomparison.closed, hcomparison.negated, hcomparison.operator]
        exact ⟨rfl, hlength⟩

/-! ## Faults of values -/

/-- Faults that tell of a value: a parameter that is not given, or a value that a column cannot
hold. -/
inductive FilterError.IsValueFault : FilterError → Prop where
  | missingParameter (name : String) : IsValueFault (.missingParameter name)
  | invalidValue (field value expected : String) :
      IsValueFault (.invalidValue field value expected)

/-- A value is not read only if it names a parameter that is not given. -/
theorem isValueFault_of_readScalar {raw : String} {e : FilterError}
    (h : readScalar named raw = .error e) : e.IsValueFault := by
  -- only the lookup of a parameter can fail
  simp only [readScalar] at h
  split at h
  · split at h
    · cases h
    · cases h
      exact .missingParameter _
  · split at h
    · cases h
    · cases h

/-- A value is not cast only if the column cannot hold it. -/
theorem isValueFault_of_cast {c : Column} {v : Value} {e : FilterError}
    (h : cast c v = .error e) : e.IsValueFault := by
  simp only [cast] at h
  split at h
  · cases h
  · split at h
    · cases h
    · cases h
      exact .invalidValue _ _ _

/-- Binding a value fails where it is read or cast, and nowhere else. -/
theorem isValueFault_of_bindValue {c : Column} {o : Operator} {raw : String} {e : FilterError}
    (h : bindValue named c o raw = .error e) : e.IsValueFault := by
  cases hv : readScalar named raw with
  | error e' =>
    simp only [bindValue, hv, bind, Except.bind, Except.error.injEq] at h
    rw [← h]
    exact isValueFault_of_readScalar hv
  | ok v =>
    -- patterns skip the cast, so there is nothing left to fail
    simp only [bindValue, hv, bind, Except.bind] at h
    split at h
    · split at h
      · cases h
      · cases h
    · exact isValueFault_of_cast h

/-- Where an operand is not rendered, one of its values is at fault. -/
theorem isValueFault_of_renderOperand {c : Column} {o : Operator} {operand : Operand}
    {e : FilterError} (h : renderOperand k c o operand = .error e) : e.IsValueFault := by
  cases operand with
  | none => cases h
  | scalar raw =>
    cases hv : bindValue k.named c o raw with
    | error e' =>
      simp only [renderOperand, hv, Except.map, Except.error.injEq] at h
      rw [← h]
      exact isValueFault_of_bindValue hv
    | ok v => simp [renderOperand, hv, Except.map] at h
  | list items =>
    cases hvs : items.mapM (bindValue k.named c o) with
    | error e' =>
      simp only [renderOperand, hvs, Except.map, Except.error.injEq] at h
      -- the fault of a list is that of one of its items
      obtain ⟨item, -, hitem⟩ := exists_of_mapM_eq_error hvs
      rw [← h]
      exact isValueFault_of_bindValue hitem
    | ok vs => simp [renderOperand, hvs, Except.map] at h

/-- A tree that is alike to a rendered one is rendered, unless one of its values is at fault. -/
theorem Tree.Alike.isValueFault {t u : Tree} (h : t.Alike k u) {sql : List Char}
    {ps : List Value} (ht : Renders { k with named := named } t sql ps) {e : FilterError}
    (hu : render { k with named := other } u = .error e) : e.IsValueFault := by
  induction h generalizing sql ps e with
  | @not t u hinner ih =>
    obtain ⟨sql', ht'⟩ : ∃ sql', Renders { k with named := named } t sql' ps := by
      cases ht with
      | notGroup ht => exact ⟨_, ht⟩
      | not _ ht => exact ⟨_, ht⟩
    cases hr : render { k with named := other } u with
    | error e' =>
      simp only [render, hr, Except.map, Except.error.injEq] at hu
      rw [← hu]
      exact ih ht' hr
    | ok r => simp [render, hr, Except.map] at hu
  | @join connective _ _ t' u' _ _ ihl ihr =>
    cases ht with
    | join hl hr =>
      -- the left side is rendered first, and only if it succeeds the right one
      cases hl' : render { k with named := other } t' with
      | error e' =>
        simp only [render, hl', Except.bind, Except.error.injEq] at hu
        rw [← hu]
        exact ihl hl hl'
      | ok r =>
        cases hr' : render { k with named := other } u' with
        | error e' =>
          simp only [render, hl', hr', Except.bind, Except.map, Except.error.injEq] at hu
          rw [← hu]
          exact ihr hr hr'
        | ok s => simp [render, hl', hr', Except.bind, Except.map] at hu
  | @group _ u _ ih =>
    cases ht with
    | group ht =>
      cases hr : render { k with named := other } u with
      | error e' =>
        simp only [render, hr, Except.map, Except.error.injEq] at hu
        rw [← hu]
        exact ih ht hr
      | ok r => simp [render, hr, Except.map] at hu
  | @compare c d hcomparison =>
    cases ht with
    | @compare _ column text _ _ hcolumn htarget _ =>
      -- the column is known and its expression is accepted, since both are the other tree's
      have hcolumn' : Context.column? { k with named := other } d.field = some column :=
        hcomparison.column?_eq.symm.trans hcolumn
      have htarget' : Context.target { k with named := other } column = .ok text := htarget
      cases hr : renderOperand { k with named := other } column d.operator d.operand with
      | error e' =>
        simp only [render, renderComparison, hcolumn', htarget', hr, bind, Except.bind,
          Except.error.injEq] at hu
        rw [← hu]
        exact isValueFault_of_renderOperand hr
      | ok r =>
        simp [render, renderComparison, hcolumn', htarget', hr, bind, Except.bind] at hu

/-! ## Filters that are alike -/

/-- Filters that are alike are translated into predicates of one text, with as many values, for all
parameters. If one of them is translated, then the other one can fail only for its values. -/
theorem translate_of_alike {filter filter' : String} {t u : Tree} (h : t.Alike k u)
    (ht : Tree.ofText filter = .ok (some t)) (hu : Tree.ofText filter' = .ok (some u))
    {p : Predicate} (hp : translate { k with named := named } filter = .ok (some p)) :
    (∀ q, translate { k with named := other } filter' = .ok (some q) →
      p.sql = q.sql ∧ p.params.length = q.params.length) ∧
    ∀ e, translate { k with named := other } filter' = .error e → e.IsValueFault := by
  obtain ⟨t', ht', hrenders⟩ := exists_of_translate hp
  obtain rfl : t = t' := by simpa using ht.symm.trans ht'
  constructor
  · intro q hq
    obtain ⟨u', hu', hrenders'⟩ := exists_of_translate hq
    obtain rfl : u = u' := by simpa using hu.symm.trans hu'
    obtain ⟨hsql, hlength⟩ := h.sql_eq hrenders hrenders'
    exact ⟨String.toList_inj.1 hsql, hlength⟩
  · intro e he
    -- a fault of the translation is one of the rendering, since the text is read
    cases hr : render { k with named := other } u with
    | error e' =>
      simp only [translate, hu, hr, Except.map, Except.error.injEq] at he
      rw [← he]
      exact h.isValueFault hrenders hr
    | ok r => simp [translate, hu, hr, Except.map] at he

/-- The negation of a list, for one column in any spelling. -/
def notListed (name : String) (items : List String) : Tree :=
  .not (.group (.compare ⟨0, 0, name, false, .isIn, .list items⟩))

/-- The two trees differ in the case of the field and in the texts of both items. -/
theorem alike_notListed : (notListed "ID" ["1", ":low"]).Alike idContext
    (notListed "id" [":low", "'25'"]) :=
  .not (.group (.compare ⟨rfl, rfl, .inr ⟨_, rfl, rfl⟩, rfl, rfl, .list rfl⟩))

/-- The tree of the first spelling. -/
theorem ofText_notListed : Tree.ofText "NOT (ID IN (1, :low))" =
    .ok (some (notListed "ID" ["1", ":low"])) := by
  have hnot : afterNot? (Text.trim (Text.trim "NOT (ID IN (1, :low))".toList)) =
      some "(ID IN (1, :low))".toList := by decide
  have hgroup : insideGroup? (Text.trim "(ID IN (1, :low))".toList) =
      some "ID IN (1, :low)".toList := by decide
  have hreads : Reads (fun _ _ => True) (Text.trim "NOT (ID IN (1, :low))".toList)
      (notListed "ID" ["1", ":low"]) := by
    refine .not hnot (.group (by decide) (by decide) (by decide) hgroup ?_)
    exact .compare (by decide) (by decide) (by decide) (by decide) rfl trivial
  exact ofText_eq_some_iff.2 ⟨by decide, hreads.read_eq⟩

/-- The tree of the spelling in lower case, with the parameter in another place. -/
theorem ofText_notListed_lower : Tree.ofText "not (id in (:low, '25'))" =
    .ok (some (notListed "id" [":low", "'25'"])) := by
  have hnot : afterNot? (Text.trim (Text.trim "not (id in (:low, '25'))".toList)) =
      some "(id in (:low, '25'))".toList := by decide
  have hgroup : insideGroup? (Text.trim "(id in (:low, '25'))".toList) =
      some "id in (:low, '25')".toList := by decide
  have hreads : Reads (fun _ _ => True) (Text.trim "not (id in (:low, '25'))".toList)
      (notListed "id" [":low", "'25'"]) := by
    refine .not hnot (.group (by decide) (by decide) (by decide) hgroup ?_)
    exact .compare (by decide) (by decide) (by decide) (by decide) rfl trivial
  exact ofText_eq_some_iff.2 ⟨by decide, hreads.read_eq⟩

theorem translate_notListed : translate { idContext with named := [("low", .int 5)] }
    "NOT (ID IN (1, :low))" =
      .ok (some ⟨"NOT (\"ID\" IN (?, ?))", [.int 1, .int 5]⟩) := by
  rw [translate, ofText_notListed]
  rfl

/-- With other values and another parameter the text is the same. -/
theorem translate_alike_notListed :
    (∀ q, translate { idContext with named := [("low", .int 7)] } "not (id in (:low, '25'))" =
      .ok (some q) → "NOT (\"ID\" IN (?, ?))" = q.sql ∧ 2 = q.params.length) ∧
    ∀ e, translate { idContext with named := [("low", .int 7)] } "not (id in (:low, '25'))" =
      .error e → e.IsValueFault :=
  translate_of_alike alike_notListed ofText_notListed ofText_notListed_lower translate_notListed

end Snowbridge.Filter
