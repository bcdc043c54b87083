import Snowbridge.Proofs.Filter.Binding
import Snowbridge.Proofs.Filter.Test

/-!
# Chunks of filters

When a filter is split at all its connectives, a chunk is left for each of its tests: what opens
before the test, the test, and what closes after it. A chunk that opens as many parentheses as it
closes is taken apart from the outside in, with its words of negation and its blanks
(`binds_of_count_eq`). Any other chunk is read as one comparison at once, where only the runs of
parentheses at the ends are told from the field and the value; so it binds the text of its literal
only if nothing but blanks stands between them and the test (`Chunk.binds_iff`).
-/

namespace Snowbridge.Filter

open Sql (OpenQuote)

variable {k : Context} {κ : Connective} {front back : List Char}

/-! ## Fronts -/

/-- What may stand before the text of a test: opening parentheses, blanks, and words of negation,
each before an opening parenthesis. -/
inductive IsFront : List Char → Prop where
  | nil : IsFront []
  | blank {c : Char} {cs : List Char} (hc : Text.isBlank c = true) (h : IsFront cs) :
      IsFront (c :: cs)
  | opening {cs : List Char} (h : IsFront cs) : IsFront ('(' :: cs)
  | not {w b cs : List Char} (hw : SameWord w "NOT".toList) (hb : Blanks b) (h : IsFront cs) :
      IsFront (w ++ (b ++ '(' :: cs))

/-- One front behind another is a front. -/
theorem IsFront.append {xs ys : List Char} (hx : IsFront xs) (hy : IsFront ys) :
    IsFront (xs ++ ys) := by
  induction hx with
  | nil => exact hy
  | blank hc _ ih => exact .blank hc ih
  | opening _ ih => exact .opening ih
  | not hw hb _ ih =>
    rw [List.append_assoc, List.append_assoc]
    exact .not hw hb ih

/-- Blanks alone are a front. -/
theorem isFront_blanks {b : List Char} (h : Blanks b) : IsFront b := by
  induction b with
  | nil => exact .nil
  | cons c b ih =>
    exact .blank (h c List.mem_cons_self) (ih fun d hd => h d (List.mem_cons_of_mem c hd))

/-- The word of negation starts with a letter. -/
theorem exists_cons_of_sameWord {w : List Char} (h : SameWord w "NOT".toList) :
    ∃ c w', w = c :: w' ∧ Text.isBlank c = false ∧ c ≠ '(' := by
  cases w with
  | nil => cases h
  | cons c w =>
    -- a blank and a parenthesis are their own folded forms, and neither is a letter
    have hfold : Text.foldAscii c = 'n' := (List.cons.inj h).1
    refine ⟨c, w, rfl, ?_, ?_⟩
    · cases hblank : Text.isBlank c with
      | false => rfl
      | true =>
        rw [Text.foldAscii_of_isBlank hblank] at hfold
        rw [hfold] at hblank
        cases hblank
    · rintro rfl
      cases hfold

/-- A front holds neither quotes nor closing parentheses, nor anything of an operator. -/
theorem IsFront.forall_mem (h : IsFront front) :
    ∀ c ∈ front, Sql.isQuote c = false ∧ c ≠ ')' ∧ Operator.IsIdle c := by
  have hblank : ∀ c, Text.isBlank c = true →
      Sql.isQuote c = false ∧ c ≠ ')' ∧ Operator.IsIdle c :=
    fun c hc => ⟨(plain_blank hc).1, (plain_blank hc).2.2, .inl hc⟩
  have hopening : Sql.isQuote '(' = false ∧ '(' ≠ ')' ∧ Operator.IsIdle '(' :=
    ⟨by decide, by decide, .inr (by decide)⟩
  induction h with
  | nil => exact List.forall_mem_nil _
  | blank hc _ ih => exact List.forall_mem_cons.2 ⟨hblank _ hc, ih⟩
  | opening _ ih => exact List.forall_mem_cons.2 ⟨hopening, ih⟩
  | @not w b cs hw hb _ ih =>
    intro c hc
    rcases List.mem_append.1 hc with hword | hrest
    -- the characters of the word, in any case
    · have hplain : Sql.Plain w := plain_of_folded (by decide) hw
      have hfold : Text.foldAscii c ∈ w.map Text.foldAscii := List.mem_map_of_mem hword
      rw [hw] at hfold
      refine ⟨(hplain c hword).1, (hplain c hword).2.2, .inr ?_⟩
      have hall : ∀ d ∈ "NOT".toList.map Text.foldAscii, d ∈ ['(', ')', 'n', 'o', 't'] := by
        decide
      exact hall _ hfold
    · rcases List.mem_append.1 hrest with hblanks | htail
      · exact hblank c (hb c hblanks)
      · rcases List.mem_cons.1 htail with rfl | hcs
        · exact hopening
        · exact ih c hcs

/-- A front that is not blank opens a parenthesis. -/
theorem IsFront.opening_mem (h : IsFront front) (hne : ¬Blanks front) : '(' ∈ front := by
  induction h with
  | nil => exact absurd (List.forall_mem_nil _) hne
  | blank hc _ ih =>
    refine List.mem_cons_of_mem _ (ih fun hblanks => hne ?_)
    exact List.forall_mem_cons.2 ⟨hc, hblanks⟩
  | opening _ _ => exact List.mem_cons_self
  | not _ _ _ _ =>
    exact List.mem_append_right _ (List.mem_append_right _ List.mem_cons_self)

/-- Behind the parentheses that a front starts with stands a front. -/
theorem IsFront.dropWhile (h : IsFront front) : IsFront (front.dropWhile (· == '(')) := by
  induction h with
  | nil => exact .nil
  | @blank c cs hc h _ =>
    have hne : (c == '(') = false := beq_false_of_ne (plain_blank hc).2.1
    rw [List.dropWhile_cons, hne]
    exact .blank hc h
  | opening _ ih => exact ih
  | @not w b cs hw hb h _ =>
    -- a word of negation stops the run of parentheses
    obtain ⟨c, w', rfl, -, hc⟩ := exists_cons_of_sameWord hw
    have hne : (c == '(') = false := beq_false_of_ne hc
    rw [List.cons_append, List.dropWhile_cons, hne, if_neg Bool.false_ne_true]
    exact .not hw hb h

/-! ## Chunks -/

/-- A test with what opens before it and what closes after it. -/
structure Chunk (k : Context) where
  front : List Char
  test : Test k
  back : List Char
  opening : IsFront front
  closing : IsBack back

namespace Chunk

/-- A chunk as a part of a filter. -/
def source (c : Chunk k) : List Char := c.front ++ (c.test.source ++ c.back)

/-- A chunk starts and ends with a parenthesis. -/
structure Enclosed (c : Chunk k) : Prop where
  start : ∃ cs, c.front = '(' :: cs
  finish : ∃ cs, c.back = cs ++ [')']

theorem Enclosed.endsClosed {c : Chunk k} (h : c.Enclosed) : EndsClosed c.back := by
  obtain ⟨cs, hback⟩ := h.finish
  rw [hback]
  intro d hd
  rw [List.getLast?_concat] at hd
  exact (Option.some.inj hd).symm

/-- Behind a front and a test no quote is open. -/
theorem after_front_test (c : Chunk k) :
    OpenQuote.after none (c.front ++ c.test.source) = none := by
  have hunquoted : Sql.Unquoted c.front := fun d hd => (c.opening.forall_mem d hd).1
  rw [OpenQuote.after_append, hunquoted.after, c.test.after_source]

/-- A front is shown as it is, since it holds no quotes. -/
theorem outsideChars_front_test (c : Chunk k) : Sql.outsideChars none
    (c.front ++ c.test.source) = c.front ++ Sql.outsideChars none c.test.source := by
  have hunquoted : Sql.Unquoted c.front := fun d hd => (c.opening.forall_mem d hd).1
  rw [Sql.outsideChars_append, hunquoted.after, hunquoted.outsideChars]

/-- No parenthesis closes before the back of a chunk. -/
theorem forall_outsideChars_front_test (c : Chunk k) :
    ∀ d ∈ Sql.outsideChars none (c.front ++ c.test.source), d ≠ ')' := by
  intro d hd
  rw [outsideChars_front_test] at hd
  rcases List.mem_append.1 hd with hd | hd
  · exact (c.opening.forall_mem d hd).2.1
  · exact (c.test.forall_outsideChars_source d hd).2

/-- Up to the back of a chunk, parentheses open in its front only. -/
theorem count_outsideChars_front_test (c : Chunk k) :
    (Sql.outsideChars none (c.front ++ c.test.source)).count '(' = c.front.count '(' := by
  have hnone : (Sql.outsideChars none c.test.source).count '(' = 0 :=
    List.count_eq_zero_of_not_mem fun h => (c.test.forall_outsideChars_source _ h).1 rfl
  rw [outsideChars_front_test, List.count_append, hnone, Nat.add_zero]

/-- After a chunk that ends with a parenthesis a connective may stand at once. -/
theorem splitAtConnective?_source_append (c : Chunk k) (hend : EndsClosed c.back)
    (hne : c.back ≠ []) (ys : List Char) :
    splitAtConnective? κ none (c.source ++ ys) =
      match afterConnective? κ ys with
      | some right => some (c.source, right)
      | none => (splitAtConnective? κ none ys).map fun (left, right) =>
          (c.source ++ left, right) := by
  have hsource : ∀ zs, c.source ++ zs = (c.front ++ c.test.source) ++ (c.back ++ zs) := by
    intro zs
    simp only [source, List.append_assoc]
  rw [hsource, splitAtConnective?_append c.forall_outsideChars_front_test, after_front_test,
    splitAtConnective?_back c.closing hend hne]
  cases afterConnective? κ ys with
  | some right => simp [source]
  | none => simp [Option.map_map, Function.comp_def, source]

/-- A chunk holds no connective. -/
theorem splitAtConnective?_source (c : Chunk k) (hend : EndsClosed c.back) :
    splitAtConnective? κ none c.source = none := by
  -- with an empty back the chunk is its front and its test, which show no closing parenthesis
  by_cases hne : c.back = []
  · have hfront := splitAtConnective?_append (k := κ) c.forall_outsideChars_front_test []
    rw [after_front_test, List.append_nil] at hfront
    rw [source, hne, List.append_nil, hfront]
    rfl
  · have hall := c.splitAtConnective?_source_append (κ := κ) hend hne []
    rw [List.append_nil, afterConnective?_nil] at hall
    rw [hall]
    rfl

/-- The parenthesis that a chunk starts with closes at its end if as many close in it as open. -/
theorem insideGroup?_source (c : Chunk k) (hend : EndsClosed c.back) {cs : List Char}
    (hfront : c.front = '(' :: cs) : insideGroup? c.source =
      if c.front.count '(' = c.back.count ')'
      then some (cs ++ (c.test.source ++ c.back.dropLast)) else none := by
  have hcloses : closesAtEnd none 0 c.source =
      decide (c.front.count '(' = c.back.count ')') := by
    -- no parenthesis closes before the back, which starts as deep as the front opens
    have hdepth : (0 : Int) + (c.front.count '(' : Nat) = (cs.count '(' + 1 : Nat) := by
      rw [hfront, List.count_cons_self]
      omega
    have hsource : c.source = (c.front ++ c.test.source) ++ c.back := by
      simp only [source, List.append_assoc]
    rw [hsource, closesAtEnd_append c.forall_outsideChars_front_test, after_front_test,
      count_outsideChars_front_test, hdepth, closesAtEnd_back c.closing hend, hfront,
      List.count_cons_self, decide_eq_decide]
    exact eq_comm
  have hsource : c.source = '(' :: (cs ++ (c.test.source ++ c.back)) := by
    rw [source, hfront]
    rfl
  rw [hsource] at hcloses ⊢
  rw [insideGroup?, hcloses]
  -- the last character is the closing parenthesis, and what is between is the rest of the front,
  -- the test and the rest of the back
  by_cases hcount : c.front.count '(' = c.back.count ')'
  · have hne : c.back ≠ [] := by
      intro hnil
      rw [hfront, hnil, List.count_cons_self] at hcount
      cases hcount
    obtain ⟨last, hlast⟩ := Option.isSome_iff_exists.1 (List.getLast?_isSome.2 hne)
    have hclosing : (cs ++ (c.test.source ++ c.back)).getLast? = some ')' := by
      rw [List.getLast?_append, List.getLast?_append, hlast, hend last hlast]
      rfl
    have hdrop : (cs ++ (c.test.source ++ c.back)).dropLast =
        cs ++ (c.test.source ++ c.back.dropLast) := by
      rw [List.dropLast_append_of_ne_nil (List.append_ne_nil_of_right_ne_nil _ hne),
        List.dropLast_append_of_ne_nil hne]
    rw [hclosing, if_pos hcount, decide_eq_true hcount, hdrop]
    rfl
  · rw [if_neg hcount, decide_eq_false hcount, Bool.and_false]
    rfl

/-- A chunk without blanks at its ends. -/
theorem trim_source (c : Chunk k) (hstart : ∀ d, c.front.head? = some d → Text.isBlank d = false)
    (hend : EndsClosed c.back) : Text.trim c.source = c.source := by
  obtain ⟨first, cs, htest, hfirst⟩ := c.test.exists_source_eq_cons
  obtain ⟨ds, hlast⟩ := c.test.exists_source_eq_concat
  apply Text.trim_eq_self
  · rw [source, htest]
    cases hfront : c.front with
    | nil =>
      rintro d ⟨⟩
      exact hfirst.1
    | cons e es =>
      rintro d ⟨⟩
      exact hstart e (by rw [hfront]; rfl)
  · intro d hd
    rw [source, List.getLast?_append, List.getLast?_append] at hd
    cases hback : c.back.getLast? with
    | none =>
      rw [hback, hlast, List.getLast?_concat] at hd
      cases hd
      exact c.test.isBlank_quote
    | some e =>
      rw [hback] at hd
      cases hd
      rw [hend _ hback]
      decide

/-! ## Blanks at the end -/

/-- A chunk without the blanks at its end. -/
def tidy (c : Chunk k) : Chunk k where
  front := c.front
  test := c.test
  back := Text.trimRight c.back
  opening := c.opening
  closing := by
    obtain ⟨ys, hys, -⟩ := Text.exists_blanks_trimRight c.back
    exact fun d hd => c.closing d (by rw [hys]; exact List.mem_append_left ys hd)

/-- Without its blanks the back of a chunk is empty or ends with a parenthesis. -/
theorem endsClosed_tidy (c : Chunk k) : EndsClosed c.tidy.back := by
  intro d hd
  rcases c.tidy.closing d (List.mem_of_getLast? hd) with rfl | hblank
  · rfl
  · rw [Text.isBlank_of_getLast?_trimRight hd] at hblank
    cases hblank

/-- The blanks at the end of a chunk close no parenthesis. -/
theorem count_tidy (c : Chunk k) : c.tidy.back.count ')' = c.back.count ')' := by
  obtain ⟨ys, hys, hblank⟩ := Text.exists_blanks_trimRight c.back
  have hnone : ys.count ')' = 0 :=
    List.count_eq_zero_of_not_mem fun h => (plain_blank (hblank _ h)).2.2 rfl
  have hcount := congrArg (List.count ')') hys
  rw [List.count_append, hnone, Nat.add_zero] at hcount
  exact hcount.symm

/-- The blanks at the end of a chunk are taken off where it is read. -/
theorem trim_tidy (c : Chunk k) : Text.trim c.tidy.source = Text.trim c.source := by
  obtain ⟨ys, hys, hblank⟩ := Text.exists_blanks_trimRight c.back
  have hsource : c.source = c.tidy.source ++ ys := by
    simp only [source, tidy, List.append_assoc]
    rw [← hys]
  rw [hsource, Text.trim_append_blanks hblank]

/-! ## Chunks as comparisons -/

/-- The run of parentheses that a chunk starts with belongs to its front. -/
theorem dropWhile_source (c : Chunk k) : c.source.dropWhile (· == '(') =
    c.front.dropWhile (· == '(') ++ (c.test.source ++ c.back) := by
  obtain ⟨first, cs, htest, hfirst⟩ := c.test.exists_source_eq_cons
  have hne : (first == '(') = false :=
    beq_false_of_ne fun h => hfirst.2.2 (by rw [h]; decide)
  have hstop : (c.test.source ++ c.back).dropWhile (· == '(') = c.test.source ++ c.back := by
    rw [htest, List.cons_append, List.dropWhile_cons, hne, if_neg Bool.false_ne_true]
  rw [source, List.dropWhile_append, hstop]
  split
  · next hempty =>
    rw [List.isEmpty_iff.1 hempty]
    rfl
  · rfl

/-- Nothing but blanks between the parentheses at the start of a chunk and its test. -/
def BareFront (c : Chunk k) : Prop := Blanks (c.front.dropWhile (· == '('))

/-- A chunk that is no group and has nothing but blanks before its test binds the literal of the
test with what follows it. -/
theorem binds_of_bareFront (c : Chunk k)
    (hstart : ∀ d, c.front.head? = some d → Text.isBlank d = false) (hend : EndsClosed c.back)
    (hgroup : insideGroup? c.source = none) (hbare : c.BareFront) :
    Binds k c.source [c.test.valueWith (Test.trail c.back)] := by
  have htrim := c.trim_source hstart hend
  -- nothing before the test is a word of negation
  have hnot : afterNot? c.source = none := by
    rw [source]
    cases hfront : c.front with
    | nil => exact c.test.afterNot?_source_append c.back
    | cons d front =>
      by_cases hd : d = '('
      · rw [hd]
        rfl
      · have hblank : Text.isBlank d = true := by
          apply hbare d
          rw [hfront, List.dropWhile_cons, if_neg (by simpa using hd)]
          exact List.mem_cons_self
        rw [hstart d (by rw [hfront]; rfl)] at hblank
        cases hblank
  have hread := c.test.readComparison_eq c.dropWhile_source hbare c.closing
  obtain ⟨sql, hrenders⟩ := c.test.renders (c.source.takeWhile (· == '(')).length
    (splitTrailing ')' c.back).2 (Text.trimRight_trimRight (splitTrailing ')' c.back).1)
  rw [binds_compare_iff]
  · exact ⟨_, sql, by rw [htrim]; exact hread, hrenders⟩
  · rw [htrim, hnot]
  · intro κ
    rw [htrim, c.splitAtConnective?_source hend]
  · rw [htrim, hgroup]

/-- If no column is named with an opening parenthesis, no field with one names a column. -/
theorem opening_not_mem_field (hcolumns : ∀ column ∈ k.columns, '(' ∉ column.name.toList)
    {field : String} {column : Catalog.Column} (h : k.column? field = some column) :
    '(' ∉ field.toList := by
  intro hmem
  rw [Context.column?] at h
  have hsame : Text.sameName column.name field = true := by simpa using List.find?_some h
  have hfold := Text.mem_map_foldAscii (rfl : Text.foldAscii '(' = '(') hmem
  rw [← eq_of_beq hsame] at hfold
  obtain ⟨d, hd, heq⟩ := List.mem_map.1 hfold
  -- only letters are folded, and a parenthesis is none
  by_cases hfixed : Text.foldAscii d = d
  · rw [hfixed] at heq
    rw [heq] at hd
    exact hcolumns column (List.mem_of_find?_eq_some h) hd
  · have hname := isNameChar_foldAscii (isNameChar_of_foldAscii_ne hfixed)
    rw [heq] at hname
    cases hname

/-- What is read from a chunk with more before its test than blanks has an opening parenthesis in
its field. -/
theorem opening_mem_field (c : Chunk k) (hbare : ¬c.BareFront) {comparison : Comparison}
    (h : readComparison c.source = .ok comparison) : '(' ∈ comparison.field.toList := by
  obtain ⟨found, name, hreads⟩ := exists_of_readComparison h
  have hlead := c.opening.dropWhile
  obtain ⟨b, hb, hblank⟩ := Text.exists_blanks_trimLeft (c.front.dropWhile (· == '('))
  have hmem := hlead.opening_mem hbare
  have hidle := hlead.forall_mem
  rw [hb] at hmem hidle
  have hopening := (List.mem_append.1 hmem).resolve_left
    fun hin => (plain_blank (hblank _ hin)).2.1 rfl
  obtain ⟨d, ds, hd⟩ := List.exists_cons_of_ne_nil (List.ne_nil_of_mem hopening)
  obtain ⟨front, hlast⟩ := c.test.exists_source_eq_concat
  -- trimmed, the text still starts with what holds the parenthesis and ends with the test
  have htrim : Text.trim (splitEnds c.source).1 = Text.trimLeft (c.front.dropWhile (· == '(')) ++
      (c.test.source ++ Text.trimRight (splitTrailing ')' c.back).1) := by
    have hwhole := Text.trim_blanks_append hblank
      (List.append_ne_nil_of_left_ne_nil (List.ne_nil_of_mem hopening) c.test.source) ?_ ?_
      (splitTrailing ')' c.back).1
    · rw [c.test.splitEnds_eq c.dropWhile_source]
      rw [← List.append_assoc, ← List.append_assoc, ← hb, List.append_assoc,
        List.append_assoc] at hwhole
      exact hwhole
    · rw [hd]
      rintro e ⟨⟩
      exact Text.isBlank_of_trimLeft_eq_cons hd
    · rw [hlast, ← List.append_assoc, List.getLast?_concat]
      rintro e ⟨⟩
      exact c.test.isBlank_quote
  have hplace := hreads.place
  rw [htrim] at hplace
  -- no operator starts within a front, so the parenthesis stands before the one that is found
  have hbefore := Operator.opening_mem_before
    (fun e he => (hidle e (List.mem_append_right b he)).2.2) hopening hplace
  have hfield := Text.mem_trim (by decide : Text.isBlank '(' = false) hbefore
  have hnegated := hreads.negated
  rw [hreads.field, String.toList_ofList]
  split at hnegated
  · exact opening_mem_of_beforeNot? hnegated hfield
  · rw [hnegated.2]
    exact hfield

/-- A chunk that is no group and has more before its test than blanks binds nothing: its field holds
a parenthesis, and no column is named so. -/
theorem bareFront_of_binds (c : Chunk k) (hcolumns : ∀ column ∈ k.columns, '(' ∉ column.name.toList)
    (hclosed : c.Enclosed) (hgroup : insideGroup? c.source = none) {params : List Value}
    (h : Binds k c.source params) : c.BareFront := by
  by_cases hbare : c.BareFront
  -- read as one comparison the chunk has a field with a parenthesis, which no column has
  · exact hbare
  · obtain ⟨cs, hfront⟩ := hclosed.start
    have hend := hclosed.endsClosed
    have htrim := c.trim_source (by rw [hfront]; rintro d ⟨⟩; decide) hend
    have hnot : afterNot? c.source = none := by
      rw [source, hfront]
      rfl
    rw [binds_compare_iff (by rw [htrim, hnot])
      (fun κ => by rw [htrim, c.splitAtConnective?_source hend]) (by rw [htrim, hgroup])] at h
    obtain ⟨comparison, sql, hread, hrenders⟩ := h
    rw [htrim] at hread
    cases hrenders with
    | compare hcolumn _ _ =>
      exact absurd (c.opening_mem_field hbare hread) (opening_not_mem_field hcolumns hcolumn)

/-! ## Chunks that match -/

/-- A chunk that is a test alone binds the text of its literal. -/
theorem binds_of_nil (c : Chunk k) (hfront : c.front = []) (hback : c.back = []) :
    Binds k c.source [c.test.value] := by
  -- the text starts with a letter of the name
  have hgroup : insideGroup? c.source = none := by
    obtain ⟨first, cs, htest, hfirst⟩ := c.test.exists_source_eq_cons
    rw [source, hfront, htest]
    unfold insideGroup?
    split
    · next r heq =>
      cases heq
      exact absurd hfirst (by decide)
    · rfl
  have hbare : c.BareFront := by
    rw [BareFront, hfront]
    exact List.forall_mem_nil _
  have hbinds := c.binds_of_bareFront (by rw [hfront]; exact fun d hd => nomatch hd)
    (by rw [hback]; exact fun d hd => nomatch hd) hgroup hbare
  rw [hback] at hbinds
  rw [← c.test.valueWith_nil]
  exact hbinds

/-- A chunk within one more pair of parentheses binds what it does. -/
theorem binds_group (c : Chunk k) {params : List Value} (h : Binds k c.source params)
    (hcount : c.front.count '(' = c.back.count ')') :
    Binds k ('(' :: (c.source ++ [')'])) params := by
  have hgroup : IsBack (c.back ++ [')']) := by
    intro d hd
    rcases List.mem_append.1 hd with hd | hd
    · exact c.closing d hd
    · exact .inl (List.mem_singleton.1 hd)
  have hclosed : EndsClosed (c.back ++ [')']) := by
    intro d hd
    rw [List.getLast?_concat] at hd
    exact (Option.some.inj hd).symm
  -- with the pair of parentheses it is a chunk again, whose whole text is a group
  let outer : Chunk k := ⟨'(' :: c.front, c.test, c.back ++ [')'], .opening c.opening, hgroup⟩
  have hsource : '(' :: (c.source ++ [')']) = outer.source := by
    simp [source, outer]
  have htrim := outer.trim_source (by rintro d ⟨⟩; decide) hclosed
  rw [hsource]
  apply Filter.binds_group _ _ _ h
  · rw [htrim, ← hsource]
    rfl
  · intro κ
    rw [htrim, outer.splitAtConnective?_source hclosed]
  · rw [htrim, outer.insideGroup?_source hclosed rfl, if_pos]
    · simp [outer, source]
    · simp [outer, hcount]

/-- If what a front leaves behind its first parenthesis binds the text of the literal, so does the
whole. -/
theorem binds_opening {cs : List Char} (h : IsFront cs) (t : Test k)
    (ih : ∀ back, IsBack back → cs.count '(' = back.count ')' →
      Binds k (cs ++ (t.source ++ back)) [t.value])
    (hback : IsBack back) (hcount : cs.count '(' + 1 = back.count ')') :
    Binds k ('(' :: (cs ++ (t.source ++ back))) [t.value] := by
  -- without the blanks at its end it is a pair of parentheses around a chunk that matches
  let whole : Chunk k := ⟨'(' :: cs, t, back, .opening h, hback⟩
  have htidy := whole.count_tidy
  have hne : whole.tidy.back ≠ [] := by
    intro hnil
    rw [hnil] at htidy
    have hzero : 0 = back.count ')' := htidy
    omega
  obtain ⟨back', hconcat⟩ := whole.endsClosed_tidy.exists_concat hne
  have hback' : IsBack back' := by
    intro d hd
    refine whole.tidy.closing d ?_
    rw [hconcat]
    exact List.mem_append_left _ hd
  have hcount' : cs.count '(' = back'.count ')' := by
    rw [hconcat, List.count_append, List.count_singleton_self] at htidy
    have htotal : back'.count ')' + 1 = back.count ')' := htidy
    omega
  -- the last parenthesis of the back closes the first one of the front
  have hgroup := Chunk.binds_group ⟨cs, t, back', h, hback'⟩ (ih back' hback' hcount') hcount'
  have hsource : whole.tidy.source = '(' :: ((cs ++ (t.source ++ back')) ++ [')']) := by
    rw [source, hconcat]
    simp [whole, tidy]
  refine Binds.congr ?_ whole.trim_tidy
  rw [hsource]
  exact hgroup

/-- A chunk that closes as many parentheses as it opens binds the text of its literal. -/
theorem binds_of_count_eq (c : Chunk k) (hcount : c.front.count '(' = c.back.count ')') :
    Binds k c.source [c.test.value] := by
  -- on the front, from the outside in: a parenthesis takes one off the back, and a word of negation
  -- leaves what stands behind it
  obtain ⟨front, t, back, hfront, hback⟩ := c
  induction hfront generalizing back with
  | nil =>
    let c : Chunk k := ⟨[], t, back, .nil, hback⟩
    refine Binds.congr (c.tidy.binds_of_nil rfl ?_) c.trim_tidy
    by_cases hne : c.tidy.back = []
    · exact hne
    · obtain ⟨back', hconcat⟩ := c.endsClosed_tidy.exists_concat hne
      have htidy := c.count_tidy
      rw [hconcat, List.count_append, List.count_singleton_self] at htidy
      have hzero : 0 = back.count ')' := hcount
      have htotal : back'.count ')' + 1 = back.count ')' := htidy
      omega
  | @blank d cs hd h ih =>
    have hcount' : cs.count '(' = back.count ')' := by
      rw [← List.count_cons_of_ne (plain_blank hd).2.1]
      exact hcount
    refine Binds.congr (ih back hback hcount') ?_
    exact (Text.trim_blanks (List.forall_mem_singleton.2 hd) _).symm
  | @opening cs h ih =>
    have hcount' : cs.count '(' + 1 = back.count ')' := by
      rw [← List.count_cons_self]
      exact hcount
    exact binds_opening h t ih hback hcount'
  | @not w b cs hw hb h ih =>
    let c : Chunk k := ⟨w ++ (b ++ '(' :: cs), t, back, .not hw hb h, hback⟩
    have hword : Sql.Plain w := plain_of_folded (by decide) hw
    -- a word of negation stands before a parenthesis, which it opens
    have hopened : (w ++ (b ++ '(' :: cs)).count '(' = cs.count '(' + 1 := by
      have hw0 : w.count '(' = 0 := List.count_eq_zero_of_not_mem fun hin => (hword _ hin).2.1 rfl
      have hb0 : b.count '(' = 0 :=
        List.count_eq_zero_of_not_mem fun hin => (plain_blank (hb _ hin)).2.1 rfl
      rw [List.count_append, List.count_append, hw0, hb0, List.count_cons_self, Nat.zero_add,
        Nat.zero_add]
    have hcount' : cs.count '(' + 1 = c.tidy.back.count ')' := by
      rw [c.count_tidy, ← hopened]
      exact hcount
    have htrim : Text.trim c.tidy.source = c.tidy.source := by
      refine c.tidy.trim_source ?_ c.endsClosed_tidy
      obtain ⟨d, w', hcons, hd, -⟩ := exists_cons_of_sameWord hw
      intro e he
      have hhead : (w ++ (b ++ '(' :: cs)).head? = some e := he
      rw [hcons] at hhead
      cases hhead
      exact hd
    have hsource : c.tidy.source = w ++ (b ++ '(' :: (cs ++ (t.source ++ c.tidy.back))) := by
      simp [c, source, tidy]
    have hnot : afterNot? (Text.trim c.tidy.source) =
        some ('(' :: (cs ++ (t.source ++ c.tidy.back))) := by
      rw [htrim, hsource, afterNot?_word hw hb]
    refine Binds.congr ((binds_not_iff hnot).2 ?_) c.trim_tidy
    exact binds_opening h t ih c.tidy.closing hcount'

/-! ## Legible chunks -/

/-- Chunks that bind the text of their literal: they close as many parentheses as they open, or
nothing but blanks stands between their test and the runs of parentheses at their ends. -/
def Legible (c : Chunk k) : Prop :=
  c.front.count '(' = c.back.count ')' ∨ c.BareFront ∧ Blanks (splitTrailing ')' c.back).1

instance (c : Chunk k) : Decidable c.Legible :=
  inferInstanceAs (Decidable (c.front.count '(' = c.back.count ')' ∨
    (∀ d ∈ c.front.dropWhile (· == '('), Text.isBlank d = true) ∧
      ∀ d ∈ (splitTrailing ')' c.back).1, Text.isBlank d = true))

/-- A chunk that starts with a parenthesis does not start with a blank. -/
theorem Enclosed.isBlank_head {c : Chunk k} (h : c.Enclosed) :
    ∀ d, c.front.head? = some d → Text.isBlank d = false := by
  obtain ⟨cs, hfront⟩ := h.start
  rw [hfront]
  rintro d ⟨⟩
  decide

/-- A chunk that closes more or fewer parentheses than it opens is no group. -/
theorem Enclosed.insideGroup?_source {c : Chunk k} (h : c.Enclosed)
    (hcount : c.front.count '(' ≠ c.back.count ')') : insideGroup? c.source = none := by
  obtain ⟨cs, hfront⟩ := h.start
  rw [c.insideGroup?_source h.endsClosed hfront, if_neg hcount]

/-- A legible chunk binds the text of its literal. -/
theorem binds_of_legible (c : Chunk k) (hclosed : c.Enclosed) (h : c.Legible) :
    Binds k c.source [c.test.value] := by
  by_cases hcount : c.front.count '(' = c.back.count ')'
  · exact c.binds_of_count_eq hcount
  · obtain ⟨hbare, hblanks⟩ := h.resolve_left hcount
    have hbinds := c.binds_of_bareFront hclosed.isBlank_head hclosed.endsClosed
      (hclosed.insideGroup?_source hcount) hbare
    rw [Test.trail, Text.trimRight_eq_nil hblanks, c.test.valueWith_nil] at hbinds
    exact hbinds

/-- Any other chunk binds another value, if it binds one at all. -/
theorem exists_of_binds (c : Chunk k) (hcolumns : ∀ column ∈ k.columns, '(' ∉ column.name.toList)
    (hclosed : c.Enclosed) {params : List Value} (h : Binds k c.source params) :
    ∃ v, params = [v] ∧ (v = c.test.value → c.Legible) := by
  by_cases hcount : c.front.count '(' = c.back.count ')'
  · exact ⟨c.test.value, h.unique (c.binds_of_count_eq hcount), fun _ => .inl hcount⟩
  · have hgroup := hclosed.insideGroup?_source hcount
    have hbare := c.bareFront_of_binds hcolumns hclosed hgroup h
    have hbinds := c.binds_of_bareFront hclosed.isBlank_head hclosed.endsClosed hgroup hbare
    -- the value is the literal with what trails behind it
    refine ⟨_, h.unique hbinds, fun hvalue => .inr ⟨hbare, ?_⟩⟩
    obtain ⟨ys, hys, hblank⟩ := Text.exists_blanks_trimRight (splitTrailing ')' c.back).1
    by_cases hnil : Test.trail c.back = []
    · rw [Test.trail] at hnil
      rw [hys, hnil]
      exact hblank
    · -- a parenthesis that is left over goes into the value
      refine absurd hvalue (c.test.valueWith_ne ?_)
      obtain ⟨last, hlast⟩ := Option.isSome_iff_exists.1 (List.getLast?_isSome.2 hnil)
      rcases Test.isBack_trail c.closing last (List.mem_of_getLast? hlast) with rfl | hlast'
      · exact hlast
      · rw [Text.isBlank_of_getLast?_trimRight hlast] at hlast'
        cases hlast'

end Chunk

end Snowbridge.Filter
