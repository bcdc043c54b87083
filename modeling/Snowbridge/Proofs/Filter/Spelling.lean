import Snowbridge.Proofs.Filter.Comparison

/-!
# Spellings of filters

A tree keeps the text that it was read from. Between the texts of its parts there are only blanks,
one word of negation or one connective, and the parentheses of groups (`Spells`), and the text of a
comparison is the field, the operator and the value, with parentheses at its ends (`Spelled`). The
only text that is lost is what follows an operator that takes no value, and no operator that takes
one occurs in it. Whatever follows another operator belongs to the value, also behind the closing
quote of a literal; so a value that starts with a quote is a complete literal exactly if nothing
stands there (`isLiteral_iff`).
-/

namespace Snowbridge.Filter

open Sql (OpenQuote)

/-! ## Words between parts -/

section Words

variable {cs left right : List Char} {k : Connective} {q : OpenQuote}

/-- A connective splits a text if it joins two parts of it. -/
theorem Joins.splitAtConnective?_ne_none (h : Joins k q cs left right) :
    splitAtConnective? k q cs ≠ none := by
  obtain ⟨⟨between, rfl, hjoint⟩, ⟨front, rfl, hfront⟩, tail, rfl⟩ := h
  -- the place is found at the latest where the left part ends
  induction front generalizing q with
  | nil =>
    obtain rfl : q = none := hfront
    have hplace : afterConnective? k (between ++ '(' :: tail) ≠ none := by
      rw [afterConnective?_joint hjoint, if_pos rfl]
      exact Option.some_ne_none _
    show splitAtConnective? k none (')' :: (between ++ '(' :: tail)) ≠ none
    simp only [splitAtConnective?]
    split
    · exact Option.some_ne_none _
    · next hnone => exact absurd hnone hplace
  | cons c front ih =>
    simp only [List.cons_append, splitAtConnective?]
    split
    · exact Option.some_ne_none _
    · rw [ne_eq, Option.map_eq_none_iff]
      exact ih hfront

end Words

/-! ## Literals -/

/-- A complete literal: a quote, a text in which that quote stands only doubled, and the quote. -/
def IsLiteral (cs : List Char) : Prop :=
  ∃ quote content, Sql.isQuote quote = true ∧ cs = quote :: (Sql.doubled quote content ++ [quote])

/-- The values of an operand as they are written. -/
def Operand.texts : Operand → List (List Char)
  | .none => []
  | .scalar raw => [raw.toList]
  | .list items => items.map String.toList

/-- What follows the first quote of one kind that is not doubled. -/
def behind? (quote : Char) : List Char → Option (List Char)
  | [] => none
  | [c] => if c = quote then some [] else none
  | c :: d :: cs =>
    if c = quote then if d = quote then behind? quote cs else some (d :: cs)
    else behind? quote (d :: cs)

/-- What stands behind the quote that closes the literal at the start of a text, if one closes
it. -/
def behindLiteral? : List Char → Option (List Char)
  | [] => none
  | quote :: cs => behind? quote cs

section Behind

variable {quote : Char} {cs rest : List Char}

theorem behind?_cons_of_ne {c : Char} (hc : c ≠ quote) (cs : List Char) :
    behind? quote (c :: cs) = behind? quote cs := by
  cases cs with
  | nil => simp [behind?, hc]
  | cons d cs => rw [behind?, if_neg hc]

/-- Behind doubled quotes and the quote that closes stands the rest. -/
theorem behind?_doubled_append (hrest : rest.head? ≠ some quote) (content : List Char) :
    behind? quote (Sql.doubled quote content ++ quote :: rest) = some rest := by
  induction content with
  | nil =>
    cases rest with
    | nil => simp [Sql.doubled, behind?]
    | cons d rest =>
      have hd : d ≠ quote := by simpa using hrest
      simp [Sql.doubled, behind?, hd]
  | cons c content ih =>
    rw [Sql.doubled_cons]
    -- a doubled quote is passed over as a pair
    by_cases hc : c = quote
    · rw [if_pos hc]
      simpa [behind?] using ih
    · rw [if_neg hc, List.append_assoc, List.singleton_append, behind?_cons_of_ne hc, ih]

/-- Up to the quote that closes a literal every such quote is doubled. -/
theorem exists_of_behind? (h : behind? quote cs = some rest) :
    ∃ content, cs = Sql.doubled quote content ++ quote :: rest := by
  -- the cases: nothing is left, one character that closes or not, a doubled quote, the quote that
  -- closes, any other character
  fun_induction behind? quote cs with
  | case1 => cases h
  | case2 =>
    cases h
    exact ⟨[], rfl⟩
  | case3 => cases h
  | case4 cs ih =>
    obtain ⟨content, rfl⟩ := ih h
    exact ⟨quote :: content, by rw [Sql.doubled_cons, if_pos rfl]; rfl⟩
  | case5 d cs hd =>
    cases h
    exact ⟨[], rfl⟩
  | case6 c d cs hc ih =>
    obtain ⟨content, hcontent⟩ := ih h
    exact ⟨c :: content, by rw [hcontent, Sql.doubled_cons, if_neg hc]; rfl⟩

/-- A text that starts with a quote is a complete literal exactly if a quote closes it and nothing
stands behind that quote. -/
theorem isLiteral_iff (h : startsQuoted cs = true) :
    IsLiteral cs ↔ behindLiteral? cs = some [] := by
  constructor
  · rintro ⟨quote, content, -, rfl⟩
    exact behind?_doubled_append (by simp) content
  · intro hbehind
    cases cs with
    | nil => cases h
    | cons quote cs =>
      obtain ⟨content, rfl⟩ := exists_of_behind? hbehind
      exact ⟨quote, content, h, rfl⟩

end Behind

/-! ## Comparisons -/

/-- How many closing parentheses a value lacks. One that starts with a quote lacks none. -/
def missing (value : List Char) : Nat :=
  if startsQuoted value then 0
  else (Sql.outsideChars none value).count '(' - (Sql.outsideChars none value).count ')'

/-- How the text of a comparison is spelled: between parentheses at its ends, what stands before the
operator, the operator in any case of its letters, and what stands after it. The field is all that
stands before the operator, and the operand keeps all that stands after it, with as many of the
closing parentheses as it lacks. Only an operator that takes no value keeps nothing, and then no
operator that takes one occurs anywhere in the text. -/
structure Spelled (cs : List Char) (c : Comparison) (before word after : List Char)
    (taken : Nat) : Prop where
  text : ∃ b b', Blanks b ∧ Blanks b' ∧ cs = List.replicate c.opened '(' ++
    (b ++ (before ++ (word ++ after)) ++ b' ++ List.replicate (taken + c.closed) ')')
  operator : ∃ token, c.operator.IsFirst token (before ++ (word ++ after)) before ∧
    SameWord word token.toList
  field : ∃ b b' not, Blanks b ∧ Blanks b' ∧ before = b ++ (c.field.toList ++ (not ++ b')) ∧
    if c.negated then ∃ b'' w, not = b'' ++ w ∧ Blanks b'' ∧ SameWord w " NOT".toList else not = []
  lacking : taken = min (missing (Text.trim after)) (taken + c.closed)
  value : KeepsValue c.operator (Text.trim after ++ List.replicate taken ')') c.operand
  literal : ∀ text ∈ c.operand.texts, startsQuoted text = true →
    (IsLiteral text ↔ behindLiteral? text = some [])
  dropped : c.operand = .none → ∀ token ∈ valueTokens, ∀ other,
    ¬Sql.Occurs token.toList none (before ++ (word ++ after)) other

/-- A value borrows the parentheses that it lacks, as far as there are any. -/
theorem borrowed_eq (value : List Char) (closing : Nat) :
    borrowed value closing = min (missing value) closing := by
  unfold borrowed missing
  split
  · exact (Nat.zero_min closing).symm
  · rfl

/-- The ends of a text are parentheses, and blanks stand between them and what is read. -/
theorem exists_ends (cs : List Char) : ∃ b b', Blanks b ∧ Blanks b' ∧
    cs = List.replicate (cs.takeWhile (· == '(')).length '(' ++
      (b ++ Text.trim (splitEnds cs).1 ++ b' ++ List.replicate (splitEnds cs).2 ')') := by
  obtain ⟨b, b', hcore, hb, hb'⟩ := Text.exists_blanks_trim (splitEnds cs).1
  refine ⟨b, b', hb, hb', ?_⟩
  -- the run at the start, the run at the end, and between them the text that is trimmed
  have hstart := List.takeWhile_append_dropWhile (p := (· == '(')) (l := cs)
  have hend := splitTrailing_append ')' (cs.dropWhile (· == '('))
  rw [takeWhile_eq_replicate, ← hend] at hstart
  rw [List.append_assoc b, ← hcore]
  exact hstart.symm

/-- The field is all that stands before an operator. -/
theorem ReadsAs.field_spelled {cs name : List Char} {c : Comparison} {found : OperatorMatch}
    (h : ReadsAs cs c found name) : ∃ b b' not, Blanks b ∧ Blanks b' ∧
      found.before = b ++ (c.field.toList ++ (not ++ b')) ∧
      if c.negated then ∃ b'' w, not = b'' ++ w ∧ Blanks b'' ∧ SameWord w " NOT".toList
      else not = [] := by
  obtain ⟨b, b', hbefore, hb, hb'⟩ := Text.exists_blanks_trim found.before
  have hnegated := h.negated
  have hfield : c.field.toList = name := by rw [h.field, String.toList_ofList]
  -- a negated field has the word of negation behind it
  cases hnot : c.negated with
  | true =>
    rw [hnot, if_pos rfl] at hnegated
    obtain ⟨b'', w, hname, hb'', hw⟩ := exists_of_beforeNot? hnegated
    rw [hname] at hbefore
    refine ⟨b, b', b'' ++ w, hb, hb', ?_, b'', w, rfl, hb'', hw⟩
    rw [hbefore, hfield, List.append_assoc name]
  | false =>
    rw [hnot] at hnegated
    obtain ⟨-, rfl⟩ := hnegated
    refine ⟨b, b', [], hb, hb', ?_, rfl⟩
    rw [hfield, List.nil_append]
    exact hbefore

/-- Every comparison that is read is spelled by its text. -/
theorem exists_spelled_of_readComparison {cs : List Char} {c : Comparison}
    (h : readComparison cs = .ok c) : ∃ before word after taken,
      Spelled cs c before word after taken := by
  obtain ⟨found, name, hreads⟩ := exists_of_readComparison h
  obtain ⟨-, word, hcore, hword⟩ := Operator.exists_of_find? hreads.place
  have hfirst := Operator.isFirst_of_find? hreads.place
  rw [hcore, ← hreads.operator] at hfirst
  obtain ⟨b, b', hb, hb', htext⟩ := exists_ends cs
  have hkept := keepsValue_of_readOperand hreads.operand
  rw [← hreads.operator] at hkept
  -- the closing parentheses are those that the value takes and those that are left
  have hclosed : borrowed (Text.trim found.after) (splitEnds cs).2 + c.closed =
      (splitEnds cs).2 := by
    rw [hreads.closed, borrowed_eq]
    omega
  refine ⟨found.before, word, found.after, borrowed (Text.trim found.after) (splitEnds cs).2, {
    text := ?_
    operator := ⟨found.token, hfirst, hword⟩
    field := hreads.field_spelled
    lacking := ?_
    value := hkept
    literal := fun text _ hquoted => isLiteral_iff hquoted
    dropped := ?_ }⟩
  · rw [hcore, ← hreads.opened] at htext
    rw [hclosed]
    exact ⟨b, b', hb, hb', htext⟩
  · rw [hclosed]
    exact borrowed_eq _ _
  · intro hnone
    have hkind := hkept.kind_eq
    rw [hnone] at hkind
    exact hfirst.not_occurs hkind.symm

/-! ## Filters -/

/-- How a tree is spelled: the texts of its parts with one word between them. No comparison holds a
connective between a closing parenthesis and an opening one. -/
inductive Spells : List Char → Tree → Prop where
  | blanks {cs b b' : List Char} {t : Tree} (hb : Blanks b) (hb' : Blanks b') (h : Spells cs t) :
      Spells (b ++ (cs ++ b')) t
  | not {w b rest : List Char} {inner : Tree} (hw : SameWord w "NOT".toList) (hb : Blanks b)
      (hstart : ∃ tail, rest = '(' :: tail) (h : Spells rest inner) :
      Spells (w ++ (b ++ rest)) (.not inner)
  | join {k : Connective} {cs left right : List Char} {l r : Tree}
      (hjoins : Joins k none cs left right) (hl : Spells left l) (hr : Spells right r) :
      Spells cs (.join k l r)
  | group {inside : List Char} {inner : Tree} (h : Spells inside inner) :
      Spells ('(' :: (inside ++ [')'])) (.group inner)
  | compare {cs before word after : List Char} {taken : Nat} {c : Comparison}
      (hspelled : Spelled cs c before word after taken)
      (hwhole : ∀ k left right, ¬Joins k none cs left right) : Spells cs (.compare c)

theorem Spells.of_trim {cs : List Char} {t : Tree} (h : Spells (Text.trim cs) t) : Spells cs t := by
  obtain ⟨b, b', hcs, hb, hb'⟩ := Text.exists_blanks_trim cs
  have hall := Spells.blanks hb hb' h
  rwa [← hcs] at hall

/-- Where no connective splits a text, none joins two parts of it. -/
theorem not_joins {cs : List Char} (ha : splitAtConnective? .and none cs = none)
    (ho : splitAtConnective? .or none cs = none) (k : Connective) (left right : List Char) :
    ¬Joins k none cs left right := by
  intro hjoins
  cases k with
  | and => exact hjoins.splitAtConnective?_ne_none ha
  | or => exact hjoins.splitAtConnective?_ne_none ho

/-- A filter with a derivation is spelled by its tree. -/
theorem Reads.spells {P : List Char → Comparison → Prop} {cs : List Char} {t : Tree}
    (h : Reads P cs t) : Spells cs t := by
  induction h with
  | not hn _ ih =>
    obtain ⟨w, b, hcs, hw, hb, hstart⟩ := exists_of_afterNot? hn
    have hall := Spells.not hw hb hstart ih
    rw [← hcs] at hall
    exact hall.of_trim
  | and _ ha _ _ ihl ihr => exact (Spells.join (joins_of_splitAtConnective? ha) ihl ihr).of_trim
  | or _ _ ho _ _ ihl ihr => exact (Spells.join (joins_of_splitAtConnective? ho) ihl ihr).of_trim
  | group _ _ _ hg _ ih =>
    have hall := Spells.group ih
    rw [← (leavesOver_of_insideGroup? hg).2] at hall
    exact hall.of_trim
  | compare _ ha ho _ hc _ =>
    obtain ⟨before, word, after, taken, hspelled⟩ := exists_spelled_of_readComparison hc
    exact (Spells.compare hspelled (not_joins ha ho)).of_trim

/-- Every filter that is accepted is spelled by its tree, so that no part of its text is lost but
what follows an operator that takes no value. -/
theorem spells_of_ofText {filter : String} {t : Tree} (h : Tree.ofText filter = .ok (some t)) :
    Spells filter.toList t :=
  (reads_of_read (ofText_eq_some_iff.1 h).2).spells.of_trim

/-! ## What is lost or becomes part of a value -/

/-- The values of a comparison that start with a quote are complete literals. -/
def HoldsLiterals (c : Comparison) : Prop :=
  ∀ text ∈ c.operand.texts, startsQuoted text = true → IsLiteral text

/-- Only blanks and parentheses follow an operator that takes no value. -/
def EndsAtOperator (cs : List Char) (c : Comparison) : Prop :=
  c.operator.operandKind = .none → ∀ found name, ReadsAs cs c found name →
    ∀ d ∈ found.after, Text.isBlank d = true ∨ d = '(' ∨ d = ')'

/-- A conjunction of two comparisons with literals, without parentheses. -/
def bareConjunction : String := "a = 'x' AND b = 'y'"

/-- The one comparison that is read from it. -/
def literalComparison : Comparison := ⟨0, 0, "a", false, .equal, .scalar "'x' AND b = 'y'"⟩

/-- Without parentheses beside it the conjunction is not found, and the value goes on to the end. -/
theorem ofText_bareConjunction :
    Tree.ofText bareConjunction = .ok (some (.compare literalComparison)) := by
  have hreads : Reads (fun _ _ => True) (Text.trim bareConjunction.toList)
      (.compare literalComparison) :=
    .compare (by decide) (by decide) (by decide) (by decide) rfl trivial
  exact ofText_eq_some_iff.2 ⟨by decide, hreads.read_eq⟩

/-- The second comparison is part of the value of the first, behind the closing quote. -/
theorem spells_bareConjunction :
    Tree.ofText bareConjunction = .ok (some (.compare literalComparison)) ∧
    Spells bareConjunction.toList (.compare literalComparison) ∧
    behindLiteral? "'x' AND b = 'y'".toList = some " AND b = 'y'".toList :=
  ⟨ofText_bareConjunction, spells_of_ofText ofText_bareConjunction, by decide⟩

/-- A literal shows nothing outside its quotes. -/
theorem IsLiteral.outsideChars {cs : List Char} (h : IsLiteral cs) :
    Sql.outsideChars none cs = [] := by
  obtain ⟨quote, content, hquote, rfl⟩ := h
  exact Sql.outsideChars_quotedRun hquote content

/-- The value shows characters outside its quotes, which no literal does. -/
theorem not_holdsLiterals_literalComparison : ¬HoldsLiterals literalComparison := by
  intro hholds
  -- the value starts with a quote
  have hliteral := hholds _ (List.mem_singleton_self _) (by decide)
  have hshown := hliteral.outsideChars
  revert hshown
  decide

/-- A conjunction of two operators without values. -/
def bareNulls : String := "a IS NULL AND b IS NULL"

/-- The one comparison that is read from it. -/
def nullComparison : Comparison := ⟨0, 0, "a", false, .isNull, .none⟩

theorem ofText_bareNulls : Tree.ofText bareNulls = .ok (some (.compare nullComparison)) := by
  have hreads : Reads (fun _ _ => True) (Text.trim bareNulls.toList) (.compare nullComparison) :=
    .compare (by decide) (by decide) (by decide) (by decide) rfl trivial
  exact ofText_eq_some_iff.2 ⟨by decide, hreads.read_eq⟩

theorem not_endsAtOperator_nullComparison :
    ¬EndsAtOperator (Text.trim bareNulls.toList) nullComparison := by
  intro hends
  have hreads : ReadsAs (Text.trim bareNulls.toList) nullComparison
      ⟨.isNull, " IS NULL", ['a'], " AND b IS NULL".toList⟩ ['a'] :=
    ⟨rfl, rfl, rfl, ⟨by decide, rfl⟩, rfl, by decide, rfl, rfl⟩
  have hletter := hends rfl _ _ hreads 'A' (by decide)
  revert hletter
  decide

theorem Reads.of_compare {P : List Char → Comparison → Prop} {cs : List Char} {c : Comparison}
    (h : Reads P cs (.compare c)) : P (Text.trim cs) c := by
  cases h with
  | compare _ _ _ _ _ hp => exact hp

/-- A value that starts with a quote may go on behind the closing one, and an operator that takes no
value may be followed by more than blanks and parentheses. -/
theorem exists_swallowed :
    (¬∀ filter t, Tree.ofText filter = .ok (some t) →
      Reads (fun _ c => HoldsLiterals c) (Text.trim filter.toList) t) ∧
    ¬∀ filter t, Tree.ofText filter = .ok (some t) →
      Reads EndsAtOperator (Text.trim filter.toList) t := by
  refine ⟨fun hall => ?_, fun hall => ?_⟩
  · exact not_holdsLiterals_literalComparison (hall _ _ ofText_bareConjunction).of_compare
  · exact not_endsAtOperator_nullComparison (hall _ _ ofText_bareNulls).of_compare

end Snowbridge.Filter
