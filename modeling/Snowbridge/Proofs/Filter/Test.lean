import Snowbridge.Proofs.Filter.Atom

/-!
# Tests of columns

A comparison of a column of texts with one literal in either kind of quotes. Between blanks and
parentheses it is still read as such a comparison, but what stands between the literal and the last
run of closing parentheses goes into its value (`Test.readComparison_eq`). If a parenthesis is among
it, then the value is not the text of the literal (`Test.valueWith_ne`).
-/

namespace Snowbridge.Filter

open Catalog (Column)
open Sql (OpenQuote)

variable {k : Context}

/-- A comparison of a column of texts with a literal. -/
structure Test (k : Context) where
  name : List Char
  column : Column
  sign : Sign
  quote : Char
  text : String
  nonempty : name ≠ []
  plain : ∀ c ∈ name, IsWordChar c
  known : k.column? (String.ofList name) = some column
  accepted : ∃ target, k.target column = .ok target
  textual : IsTextual column.type
  quoted : Sql.isQuote quote = true

namespace Test

/-! ## Texts -/

/-- The literal of a test. -/
def literal (t : Test k) : List Char := Sql.quotedRun t.quote t.text.toList

/-- A test as a part of a filter. -/
def source (t : Test k) : List Char := phrase [t.name, t.sign.word, t.literal]

/-- What is bound for a test: the text of its literal, with the wildcards of its operator. -/
def value (t : Test k) : Value := .text (t.sign.front ++ t.text ++ t.sign.back)

/-- The operator of a test between blanks. -/
def middle (t : Test k) : List Char := ' ' :: (t.sign.word ++ [' '])

/-- The text of a test, taken apart. -/
theorem source_eq (t : Test k) : t.source = t.name ++ (t.middle ++ t.literal) := by
  simp [source, middle, phrase_three]

/-- What a test starts with. -/
def lead (t : Test k) : Lead where
  name := t.name
  sign := t.middle
  nonempty := t.nonempty
  plain := t.plain
  unquoted := fun c hc => (t.sign.plain c hc).1

/-- After a test no quote is open. -/
theorem after_source (t : Test k) : OpenQuote.after none t.source = none := by
  rw [source_eq]
  exact (t.lead.after_append t.literal).trans (Sql.after_quotedRun t.quoted _)

/-- A test shows no parentheses. -/
theorem forall_outsideChars_source (t : Test k) :
    ∀ c ∈ Sql.outsideChars none t.source, c ≠ '(' ∧ c ≠ ')' := by
  intro c hc
  have hshown : Sql.outsideChars none t.source = t.name ++ (t.middle ++ []) := by
    rw [source_eq, ← Sql.outsideChars_quotedRun t.quoted t.text.toList]
    exact t.lead.outsideChars_append t.literal
  rw [hshown, List.append_nil] at hc
  rcases List.mem_append.1 hc with hname | hmiddle
  · have hmark := (t.plain c hname).2.2
    exact ⟨fun h => hmark (by rw [h]; decide), fun h => hmark (by rw [h]; decide)⟩
  · exact (t.sign.plain c hmiddle).2

theorem exists_source_eq_cons (t : Test k) : ∃ c cs, t.source = c :: cs ∧ IsWordChar c := by
  rw [source_eq]
  exact t.lead.exists_append_eq_cons t.literal

/-- A test ends with the quote of its literal. -/
theorem exists_source_eq_concat (t : Test k) : ∃ cs, t.source = cs ++ [t.quote] := by
  refine ⟨t.name ++ (t.middle ++ t.quote :: Sql.doubled t.quote t.text.toList), ?_⟩
  rw [source_eq, literal, Sql.quotedRun]
  simp only [List.append_assoc, List.cons_append]

theorem isBlank_quote (t : Test k) : Text.isBlank t.quote = false :=
  Sql.isBlank_of_isQuote t.quoted

theorem quote_ne_closing (t : Test k) : t.quote ≠ ')' := by
  rcases Sql.eq_of_isQuote t.quoted with hquote | hquote
  · rw [hquote]
    decide
  · rw [hquote]
    decide

/-- Blanks before a test are taken off, and those at the end of what follows it. -/
theorem trim_append (t : Test k) {b : List Char} (hb : Blanks b) (ys : List Char) :
    Text.trim (b ++ (t.source ++ ys)) = t.source ++ Text.trimRight ys := by
  obtain ⟨c, cs, hstart, hc⟩ := t.exists_source_eq_cons
  obtain ⟨front, hend⟩ := t.exists_source_eq_concat
  refine Text.trim_blanks_append hb (by rw [hstart]; exact List.cons_ne_nil c cs) ?_ ?_ ys
  · rw [hstart]
    rintro c' ⟨⟩
    exact hc.1
  · rw [hend, List.getLast?_concat]
    rintro c' ⟨⟩
    exact t.isBlank_quote

/-- A test starts with no word of negation. -/
theorem afterNot?_source_append (t : Test k) (cs : List Char) :
    afterNot? (t.source ++ cs) = none := by
  obtain ⟨c, word, hword, hblank, hc⟩ := t.sign.exists_word_eq_cons
  rw [source_eq, middle, hword]
  simp only [List.append_assoc, List.cons_append]
  exact afterWord?_name (by decide) t.plain hblank hc

/-! ## Readings -/

/-- A test as a comparison, with the parentheses at its ends and what follows its literal. -/
def comparison (t : Test k) (opened closed : Nat) (trail : List Char) : Comparison :=
  ⟨opened, closed, String.ofList t.name, false, t.sign.operator,
    .scalar (String.ofList (t.literal ++ trail))⟩

/-- What follows a literal goes into the value, but the blanks at its end. -/
theorem trim_literal_append (t : Test k) {b : List Char} (hb : Blanks b) (trail : List Char) :
    Text.trim (b ++ (t.literal ++ trail)) = t.literal ++ Text.trimRight trail := by
  have hlast : t.literal.getLast? = some t.quote := by
    rw [literal, Sql.quotedRun, ← List.cons_append]
    exact List.getLast?_concat
  have hend : ∀ c, t.literal.getLast? = some c → Text.isBlank c = false := by
    rw [hlast]
    rintro c ⟨⟩
    exact t.isBlank_quote
  refine Text.trim_blanks_append hb (List.cons_ne_nil _ _) ?_ hend trail
  rintro c ⟨⟩
  exact t.isBlank_quote

/-- The operator of a test is found, whatever closing parentheses and blanks follow the test. -/
theorem exists_found (t : Test k) {ys : List Char} (h : IsBack ys) :
    ∃ found, Operator.find? (t.source ++ ys) = some found ∧
      found.operator = t.sign.operator ∧ Text.trim found.before = t.name ∧
      Text.trim found.after = t.literal ++ Text.trimRight ys := by
  obtain ⟨found, hfound, hoperator, hbefore, hafter⟩ := t.sign.exists_found
  have hrest : t.literal ++ ys =
      t.quote :: (Sql.doubled t.quote t.text.toList ++ t.quote :: ys) := by
    simp [literal, Sql.quotedRun]
  have hidle : ∀ c ∈ ys, Operator.IsIdle c := by
    intro c hc
    rcases h c hc with rfl | hblank
    · exact .inr (by decide)
    · exact .inl hblank
  -- the literal hides what it holds, and parentheses and blanks form no operator
  have hconceals := Operator.conceals_run t.quoted t.text.toList (Operator.conceals_idle hidle)
  have hplace : Operator.find? (t.name ++ (t.middle ++ (t.literal ++ ys))) =
      (Operator.find? t.middle).map fun found => { found with
        before := t.name ++ found.before
        after := found.after ++ (t.literal ++ ys) } := by
    refine Operator.find?_between_of_forall t.plain fun token htoken => ?_
    rw [hrest]
    exact Operator.splitAtWord?_quote htoken t.quoted t.lead.unquoted.after hconceals
  have hsource : t.source ++ ys = t.name ++ (t.middle ++ (t.literal ++ ys)) := by
    rw [source_eq, List.append_assoc, List.append_assoc]
  have hsign : Operator.find? t.middle = some found := hfound
  rw [hsource, hplace, hsign]
  exact ⟨_, rfl, hoperator, t.lead.trim_name hbefore, t.trim_literal_append hafter ys⟩

/-- The operand of a test is its literal with all that follows it. -/
theorem readOperand_eq (t : Test k) (name : String) (ys : List Char) :
    readOperand t.sign.operator name (t.literal ++ ys) =
      .ok (.scalar (String.ofList (t.literal ++ ys))) := by
  have hempty : (t.literal ++ ys).isEmpty = false := rfl
  simp [readOperand, t.sign.operandKind_eq, hempty]

theorem startsQuoted_literal (t : Test k) (ys : List Char) :
    startsQuoted (t.literal ++ ys) = true := t.quoted

/-- A value that starts with a quote borrows no parenthesis. -/
theorem borrowed_literal (t : Test k) (ys : List Char) (closed : Nat) :
    borrowed (t.literal ++ ys) closed = 0 := by
  rw [borrowed, if_pos (t.startsQuoted_literal ys)]

/-- What stands before the last run of closing parentheses, without the blanks there. -/
def trail (back : List Char) : List Char := Text.trimRight (splitTrailing ')' back).1

/-- Only closing parentheses and blanks trail behind a literal. -/
theorem isBack_trail {back : List Char} (h : IsBack back) : IsBack (trail back) := by
  obtain ⟨ys, hys, -⟩ := Text.exists_blanks_trimRight (splitTrailing ')' back).1
  intro c hc
  refine h c ?_
  rw [← splitTrailing_append ')' back, hys]
  exact List.mem_append_left _ (List.mem_append_left _ hc)

/-- The parentheses at the ends of a text are told from the test in it. -/
theorem splitEnds_eq (t : Test k) {cs lead back : List Char}
    (hcs : cs.dropWhile (· == '(') = lead ++ (t.source ++ back)) :
    splitEnds cs = (lead ++ (t.source ++ (splitTrailing ')' back).1),
      (splitTrailing ')' back).2) := by
  obtain ⟨front, hfront⟩ := t.exists_source_eq_concat
  have hrun := splitTrailing_concat_append t.quote_ne_closing (lead ++ front) back
  rw [splitEnds, hcs, hfront]
  simpa only [List.append_assoc] using hrun

/-- What is read from a test behind opening parentheses and blanks. -/
theorem readComparison_eq (t : Test k) {cs lead back : List Char}
    (hcs : cs.dropWhile (· == '(') = lead ++ (t.source ++ back)) (hlead : Blanks lead)
    (hback : IsBack back) : readComparison cs = .ok (t.comparison
      (cs.takeWhile (· == '(')).length (splitTrailing ')' back).2 (trail back)) := by
  have hends := t.splitEnds_eq hcs
  obtain ⟨found, hplace, hoperator, hbefore, hafter⟩ := t.exists_found (isBack_trail hback)
  have hvalue : Text.trim found.after = t.literal ++ trail back := by
    rw [hafter, trail, Text.trimRight_trimRight]
  rw [readComparison_eq_ok_iff]
  refine ⟨found, t.name, {
    place := ?_
    opened := rfl
    closed := ?_
    negated := ?_
    field := rfl
    nonempty := t.nonempty
    operator := hoperator.symm
    operand := ?_ }⟩
  · rw [hends, t.trim_append hlead]
    exact hplace
  · rw [hends, hvalue, t.borrowed_literal]
    rfl
  · exact ⟨by rw [hbefore]; exact beforeNot?_name t.plain, hbefore.symm⟩
  · rw [hends, hvalue, t.borrowed_literal, hoperator, List.replicate_zero, List.append_nil]
    exact t.readOperand_eq _ _

/-! ## Values -/

/-- What is bound for a test with a text behind its literal. -/
def valueWith (t : Test k) (ys : List Char) : Value :=
  .text (t.sign.front ++ String.ofList (unquote (t.literal ++ ys)) ++ t.sign.back)

/-- With nothing behind its literal a test has its own value. -/
theorem valueWith_nil (t : Test k) : t.valueWith [] = t.value := by
  rw [valueWith, value, List.append_nil, literal, unquote_quotedRun t.quoted,
    String.ofList_toList]

/-- A closing parenthesis behind a literal is bound with it, and with the quotes. -/
theorem valueWith_ne (t : Test k) {ys : List Char} (hys : ys.getLast? = some ')') :
    t.valueWith ys ≠ t.value := by
  have hlast : (Sql.doubled t.quote t.text.toList ++ [t.quote] ++ ys).getLast? = some ')' := by
    rw [List.getLast?_append, hys]
    rfl
  -- the quotes are taken off only if the last character is one
  have hunquote : unquote (t.literal ++ ys) = t.literal ++ ys := by
    rw [literal, Sql.quotedRun, List.cons_append, unquote, insideQuotes?, insideQuotes?, hlast]
    simp
  intro heq
  rw [valueWith, value, hunquote, Value.text.injEq] at heq
  -- both have the same wildcards, so the literal would be no longer than its text
  have hlength := congrArg (fun s => s.toList.length) heq
  have hdoubled := Sql.length_le_doubled t.quote t.text.toList
  simp only [literal, Sql.quotedRun, List.cons_append, List.length_cons, List.length_append,
    String.toList_append, String.toList_ofList] at hlength
  omega

/-- What a test between parentheses is rendered as. -/
theorem renders (t : Test k) (m n : Nat) {ys : List Char} (hys : Text.trimRight ys = ys) :
    ∃ sql, Renders k (.compare (t.comparison m n ys)) sql [t.valueWith ys] := by
  obtain ⟨target, htarget⟩ := t.accepted
  have htrim : Text.trim (t.literal ++ ys) = t.literal ++ ys := by
    have hblanks := t.trim_literal_append (List.forall_mem_nil _) ys
    rwa [List.nil_append, hys] at hblanks
  have hbind := bindValue_of_startsQuoted k.named t.textual t.sign.operator
    (t.startsQuoted_literal ys) htrim
  rw [t.sign.pattern_eq] at hbind
  exact ⟨_, .compare (c := t.comparison m n ys) t.known htarget (.scalar hbind)⟩

end Test

end Snowbridge.Filter
