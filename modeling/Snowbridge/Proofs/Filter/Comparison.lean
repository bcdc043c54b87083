import Snowbridge.Proofs.Filter.Operator
import Snowbridge.Proofs.Filter.Parenthesis
import Snowbridge.Proofs.Sql.Offset
import Snowbridge.Proofs.Sql.Pieces

/-!
# Comparisons and their texts

What a comparison is read from. The parts of its text are taken apart one after another: the
parentheses at the ends, the operator, the field with a word of negation at its end, and the value.
Each part has one lemma that says what it takes off, and `readComparison_eq_ok_iff` puts them
together.
-/

namespace Snowbridge.Filter

/-! ## Operators -/

/-- A place of an operator in a text. -/
theorem Operator.exists_of_find? {cs : List Char} {found : OperatorMatch}
    (h : Operator.find? cs = some found) :
    (found.token, found.operator) ∈ Operator.tokens ∧
      ∃ w, cs = found.before ++ (w ++ found.after) ∧
        w.map Text.foldAscii = found.token.toList.map Text.foldAscii := by
  obtain ⟨⟨token, operator⟩, hmem, hplace⟩ := List.exists_of_findSome?_eq_some h
  obtain ⟨⟨before, after⟩, hsplit, heq⟩ := Option.map_eq_some_iff.1 hplace
  cases heq
  exact ⟨hmem, Sql.exists_of_splitAtWord? hsplit⟩

/-- An operator is the first of a text: no token that comes earlier in the table occurs outside
quoted runs, and its own token occurs nowhere further to the left. -/
structure Operator.IsFirst (o : Operator) (token : String) (cs before : List Char) : Prop where
  earlier : ∃ earlier later, Operator.tokens = earlier ++ (token, o) :: later ∧
    ∀ t ∈ earlier, ∀ other, ¬Sql.Occurs t.1.toList none cs other
  occurs : Sql.Occurs token.toList none cs before
  least : ∀ other, Sql.Occurs token.toList none cs other → before.length ≤ other.length

/-- The operator that is found is the first of the text. -/
theorem Operator.isFirst_of_find? {cs : List Char} {found : OperatorMatch}
    (h : Operator.find? cs = some found) :
    found.operator.IsFirst found.token cs found.before := by
  -- the search goes along the table and takes the first token that occurs
  obtain ⟨earlier, ⟨token, operator⟩, later, htokens, hplace, hnone⟩ :=
    List.findSome?_eq_some_iff.1 h
  obtain ⟨⟨before, after⟩, hsplit, heq⟩ := Option.map_eq_some_iff.1 hplace
  cases heq
  obtain ⟨hoccurs, hleast⟩ := Sql.occurs_of_splitAtWord? hsplit
  exact ⟨⟨earlier, later, htokens, fun t ht => Sql.not_occurs_of_splitAtWord?
    (Option.map_eq_none_iff.1 (hnone t ht))⟩, hoccurs, hleast⟩

/-- The tokens of operators that take a value, from a sign to words between blanks. -/
def valueTokens : List String :=
  [">=", "<=", "!=", "<>", "=", ">", "<", " GTE ", " LTE ", " NE ", " EQ ", " GT ", " LT ", " IN ",
    " ILIKE ", " LIKE ", " CONTAINS ", " STARTS WITH ", " ENDS WITH "]

/-- Where an operator without a value is the first, none that takes one occurs: all of these come
earlier in the table. -/
theorem Operator.IsFirst.not_occurs {o : Operator} {token : String} {cs before : List Char}
    (h : o.IsFirst token cs before) (ho : o.operandKind = .none) :
    ∀ token ∈ valueTokens, ∀ other, ¬Sql.Occurs token.toList none cs other := by
  obtain ⟨earlier, later, htokens, hnone⟩ := h.earlier
  -- by the table: every token with a value stands before every one without
  have hall : ∀ i < Operator.tokens.length, ∀ t ∈ Operator.tokens[i]?,
      t.2.operandKind = .none → ∀ token ∈ valueTokens,
        ∃ t ∈ Operator.tokens.take i, t.1 = token := by
    decide
  intro token' htoken'
  have hplace : (token, o) ∈ Operator.tokens[earlier.length]? := by simp [htokens]
  have hlength : earlier.length < Operator.tokens.length := by simp [htokens]
  obtain ⟨t, ht, rfl⟩ := hall earlier.length hlength _ hplace ho token' htoken'
  refine hnone t ?_
  rwa [htokens, List.take_left] at ht

/-- Behind a text of idle characters an operator is found no earlier than at its end, so an opening
parenthesis there stands before the operator. -/
theorem Operator.opening_mem_before {front rest : List Char} {found : OperatorMatch}
    (hidle : ∀ c ∈ front, Operator.IsIdle c) (hopening : '(' ∈ front)
    (h : Operator.find? (front ++ rest) = some found) : '(' ∈ found.before := by
  obtain ⟨htoken, w, htext, hw⟩ := Operator.exists_of_find? h
  have hnone : '(' ∉ w := by
    have hall : ∀ t ∈ Operator.tokens, '(' ∉ t.1.toList.map Text.foldAscii := by decide
    have hword := hall _ htoken
    rw [← hw] at hword
    exact fun hmem => hword (Text.mem_map_foldAscii rfl hmem)
  rw [← List.append_assoc] at htext
  -- the operator ends behind the front, or it lies within the front
  rcases List.append_eq_append_iff.1 htext with ⟨xs, hfront, -⟩ | ⟨xs, hfront, -⟩
  · have hmem : '(' ∈ found.before ++ w := by
      rw [hfront]
      exact List.mem_append_left xs hopening
    exact (List.mem_append.1 hmem).resolve_right hnone
  · -- the operator would stand within the idle characters
    obtain ⟨c, hc, hown⟩ := Operator.exists_not_isIdle htoken hw
    refine absurd (hidle c ?_) hown
    rw [hfront]
    exact List.mem_append_left xs (List.mem_append_right _ hc)

/-! ## Fields -/

/-- The text that negates a field. -/
theorem exists_of_beforeNot? {field name : List Char} (h : beforeNot? field = some name) :
    ∃ blanks w, field = name ++ (blanks ++ w) ∧ (∀ c ∈ blanks, Text.isBlank c = true) ∧
      w.map Text.foldAscii = " NOT".toList.map Text.foldAscii := by
  simp only [beforeNot?] at h
  split at h
  · next hcut =>
    obtain ⟨-, hword⟩ := Bool.and_eq_true_iff.1 hcut
    -- the word is the last four characters, with the blanks before it trimmed
    obtain ⟨blanks, hname, hblank⟩ := Text.exists_blanks_trimRight
      (field.take (field.length - 4))
    refine ⟨blanks, field.drop (field.length - 4), ?_, hblank, eq_of_beq hword⟩
    rw [← Option.some.inj h, ← List.append_assoc, ← hname, List.take_append_drop]
  · cases h

/-- A word of negation takes no opening parenthesis off a field. -/
theorem opening_mem_of_beforeNot? {field name : List Char} (h : beforeNot? field = some name)
    (hmem : '(' ∈ field) : '(' ∈ name := by
  obtain ⟨blanks, w, rfl, hblank, hw⟩ := exists_of_beforeNot? h
  rcases List.mem_append.1 hmem with hname | hrest
  · exact hname
  -- neither a blank nor a letter is a parenthesis
  · rcases List.mem_append.1 hrest with hblanks | hword
    · exact absurd rfl (plain_of_isBlank hblank _ hblanks).2.1
    · have hfold := Text.mem_map_foldAscii (rfl : Text.foldAscii '(' = '(') hword
      rw [hw] at hfold
      exact absurd hfold (by decide)

/-! ## Values -/

/-- The items of a list are what stands between its commas. -/
theorem exists_of_listItems? {value : List Char} {items : List (List Char)}
    (h : listItems? value = some items) : ∃ inside pieces, value = '(' :: (inside ++ [')']) ∧
      Sql.IsCut ',' inside pieces ∧ items = pieces.map Text.trim := by
  have hcomma : Sql.IsSeparator ',' := ⟨rfl, by decide, by decide⟩
  unfold listItems? at h
  split at h
  · next r =>
    split at h
    · next hlast =>
      refine ⟨r.dropLast, _, ?_, hcomma.isCut_splitTopLevel _, (Option.some.inj h).symm⟩
      obtain ⟨front, rfl⟩ := List.getLast?_eq_some_iff.1 (eq_of_beq hlast)
      rw [List.dropLast_concat]
    · cases h
  · cases h

/-- What an operand keeps of a value: nothing if the operator takes none, all of it if it is one
value, and of a list in parentheses the items, cut at each comma that stands neither in quotes nor
in parentheses of its own. -/
inductive KeepsValue (o : Operator) (value : List Char) : Operand → Prop where
  | none (ho : o.operandKind = .none) : KeepsValue o value .none
  | scalar (ho : o.operandKind = .scalar) (hne : value ≠ []) :
      KeepsValue o value (.scalar (String.ofList value))
  | list (ho : o.operandKind = .list) {inside : List Char} {pieces : List (List Char)}
      (htext : value = '(' :: (inside ++ [')'])) (hpieces : Sql.IsCut ',' inside pieces)
      (hne : ∀ piece ∈ pieces, Text.trim piece ≠ []) :
      KeepsValue o value (.list (pieces.map fun piece => String.ofList (Text.trim piece)))

/-- What an operand is. -/
def Operand.kind : Operand → OperandKind
  | .none => .none
  | .scalar _ => .scalar
  | .list _ => .list

/-- What is kept of a value has the form that the operator asks for. -/
theorem KeepsValue.kind_eq {o : Operator} {value : List Char} {operand : Operand}
    (h : KeepsValue o value operand) : operand.kind = o.operandKind := by
  cases h with
  | none ho => exact ho.symm
  | scalar ho _ => exact ho.symm
  | list ho _ _ _ => exact ho.symm

/-- The operand that is read keeps its value. -/
theorem keepsValue_of_readOperand {o : Operator} {field : String} {value : List Char}
    {operand : Operand} (h : readOperand o field value = .ok operand) :
    KeepsValue o value operand := by
  simp only [readOperand] at h
  -- by the form of the operand: none, a list, one value
  split at h
  · next ho =>
    cases h
    exact .none ho
  · next ho =>
    split at h
    · cases h
    · next items hitems =>
      split at h
      · cases h
      · next hempty =>
        cases h
        obtain ⟨inside, pieces, htext, hpieces, rfl⟩ := exists_of_listItems? hitems
        rw [List.map_map]
        refine .list ho htext hpieces fun piece hpiece hnil => hempty ?_
        exact List.any_eq_true.2
          ⟨_, List.mem_map_of_mem hpiece, by rw [hnil]; rfl⟩
  · next ho =>
    split at h
    · cases h
    · next hempty =>
      cases h
      exact .scalar ho fun hnil => hempty (by rw [hnil]; rfl)

/-! ## Comparisons -/

/-- How a comparison is read from its text: `found` is its operator and `name` is its field. -/
structure ReadsAs (cs : List Char) (c : Comparison) (found : OperatorMatch) (name : List Char) :
    Prop where
  place : Operator.find? (Text.trim (splitEnds cs).1) = some found
  opened : c.opened = (cs.takeWhile (· == '(')).length
  closed : c.closed = (splitEnds cs).2 - borrowed (Text.trim found.after) (splitEnds cs).2
  negated : if c.negated then beforeNot? (Text.trim found.before) = some name
    else beforeNot? (Text.trim found.before) = none ∧ name = Text.trim found.before
  field : c.field = String.ofList name
  nonempty : name ≠ []
  operator : c.operator = found.operator
  operand : readOperand found.operator c.field (Text.trim found.after ++
    List.replicate (borrowed (Text.trim found.after) (splitEnds cs).2) ')') = .ok c.operand

/-- Where a comparison is read, its text has the parts of one. -/
theorem exists_of_readComparison {cs : List Char} {c : Comparison}
    (h : readComparison cs = .ok c) : ∃ found name, ReadsAs cs c found name := by
  have hends : splitTrailing ')' (cs.dropWhile (· == '(')) = splitEnds cs := rfl
  cases hplace : Operator.find? (Text.trim (splitEnds cs).1) with
  | none => simp [readComparison, hends, hplace] at h
  | some found =>
    -- the two cases differ in the field and in the flag only
    cases hname : beforeNot? (Text.trim found.before) with
    | none =>
      simp only [readComparison, hends, hplace, hname] at h
      split at h
      · cases h
      · next hempty =>
        split at h
        · cases h
        · next operand hoperand =>
          cases h
          exact ⟨found, _, hplace, rfl, rfl, ⟨hname, rfl⟩, rfl, by simpa using hempty, rfl,
            hoperand⟩
    | some name =>
      simp only [readComparison, hends, hplace, hname] at h
      split at h
      · cases h
      · next hempty =>
        split at h
        · cases h
        · next operand hoperand =>
          cases h
          exact ⟨found, name, hplace, rfl, rfl, hname, rfl, by simpa using hempty, rfl, hoperand⟩

/-- A text with the parts of a comparison is read as that one. -/
theorem ReadsAs.readComparison_eq {cs name : List Char} {c : Comparison} {found : OperatorMatch}
    (h : ReadsAs cs c found name) : readComparison cs = .ok c := by
  have hends : splitTrailing ')' (cs.dropWhile (· == '(')) = splitEnds cs := rfl
  have hempty : name.isEmpty = false := List.isEmpty_eq_false_iff.2 h.nonempty
  obtain ⟨opened, closed, field, negated, operator, operand⟩ := c
  obtain ⟨hplace, rfl, rfl, hnegated, rfl, -, rfl, hoperand⟩ := h
  cases negated with
  | true =>
    have hname : beforeNot? (Text.trim found.before) = some name := hnegated
    simp only [readComparison, hends, hplace, hname, hempty, hoperand]
    rfl
  | false =>
    obtain ⟨hname, rfl⟩ : beforeNot? (Text.trim found.before) = none ∧ _ := hnegated
    simp only [readComparison, hends, hplace, hname, hempty, hoperand]
    rfl

/-- A text is read as a comparison exactly if it has the parts of it. -/
theorem readComparison_eq_ok_iff {cs : List Char} {c : Comparison} :
    readComparison cs = .ok c ↔ ∃ found name, ReadsAs cs c found name := by
  constructor
  · exact exists_of_readComparison
  · rintro ⟨found, name, h⟩
    exact h.readComparison_eq

end Snowbridge.Filter
