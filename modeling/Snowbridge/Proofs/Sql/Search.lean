import Snowbridge.Proofs.Sql.Quoted
import Snowbridge.Proofs.Text.Parts

/-!
# What searches find

A search for a word or for a delimiter takes a text apart, and the parts with what was found between
them are the text again.
-/

namespace Snowbridge.Sql

/-! ## Words -/

section Words

variable {word cs before rest : List Char} {q : OpenQuote}

/-- What was found is the word, up to the case of its letters. -/
theorem exists_of_splitAtWord? (h : splitAtWord? word q cs = some (before, rest)) :
    ∃ w, cs = before ++ (w ++ rest) ∧ w.map Text.foldAscii = word.map Text.foldAscii := by
  induction cs generalizing q before with
  | nil => simp [splitAtWord?] at h
  | cons c cs ih =>
    simp only [splitAtWord?] at h
    -- the word stands here, or it is found in the rest
    split at h
    · next r hr =>
      cases h
      split at hr
      · exact Text.exists_word_of_dropFolded? hr
      · cases hr
    · obtain ⟨⟨b, r⟩, hbr, heq⟩ := Option.map_eq_some_iff.1 h
      cases heq
      obtain ⟨w, rfl, hw⟩ := ih hbr
      exact ⟨w, rfl, hw⟩

/-- A word is sought past characters that it does not start with. -/
theorem splitAtWord?_append {c : Char} {xs : List Char}
    (h : ∀ d ∈ outsideChars q xs, Text.foldAscii d ≠ Text.foldAscii c) (ys : List Char) :
    splitAtWord? (c :: word) q (xs ++ ys) =
      (splitAtWord? (c :: word) (q.after xs) ys).map fun (b, r) => (xs ++ b, r) := by
  induction xs generalizing q with
  | nil => simp
  | cons d xs ih =>
    obtain ⟨hfirst, hrest⟩ := forall_mem_outsideChars_cons.1 h
    -- the word cannot start at a character that differs from its first one
    have hhere : (if q.outside d then Text.dropFolded? (c :: word) (d :: (xs ++ ys)) else none) =
        none := by
      split
      · next hout =>
        rw [Text.dropFolded?, if_neg (by simpa using Ne.symm (hfirst hout))]
      · rfl
    rw [List.cons_append, splitAtWord?, hhere, ih hrest, OpenQuote.after_cons]
    simp only [Option.map_map]
    rfl

/-- A word does not reach over a character that it does not hold. -/
theorem dropFolded?_border {d : Char} (hd : Text.foldAscii d ∉ word.map Text.foldAscii)
    (xs ys : List Char) : Text.dropFolded? word (xs ++ d :: ys) =
      (Text.dropFolded? word xs).map (· ++ d :: ys) := by
  induction word generalizing xs with
  | nil => rfl
  | cons p word ih =>
    rw [List.map_cons, List.mem_cons, not_or] at hd
    cases xs with
    | nil =>
      have hne : (Text.foldAscii p == Text.foldAscii d) = false := beq_false_of_ne (Ne.symm hd.1)
      simp [Text.dropFolded?, hne]
    | cons c xs =>
      simp only [List.cons_append, Text.dropFolded?]
      split
      · exact ih hd.2 xs
      · rfl

/-- A word that is not found behind a character that it does not hold is sought before it. -/
theorem splitAtWord?_border {d : Char} (hd : Text.foldAscii d ∉ word.map Text.foldAscii)
    (hword : word ≠ []) {xs ys : List Char}
    (hrest : splitAtWord? word ((q.after xs).step d) ys = none) :
    splitAtWord? word q (xs ++ d :: ys) =
      (splitAtWord? word q xs).map fun (b, r) => (b, r ++ d :: ys) := by
  induction xs generalizing q with
  | nil =>
    have hhere : Text.dropFolded? word (d :: ys) = none := by
      obtain ⟨p, word, rfl⟩ := List.exists_cons_of_ne_nil hword
      rw [List.map_cons, List.mem_cons, not_or] at hd
      rw [Text.dropFolded?, if_neg (by simpa using Ne.symm hd.1)]
    rw [OpenQuote.after_nil] at hrest
    simp [splitAtWord?, hhere, hrest]
  | cons c xs ih =>
    -- the border moves along the text with the search
    have htail := ih hrest
    rw [List.cons_append, splitAtWord?, splitAtWord?, htail, ← List.cons_append,
      dropFolded?_border hd]
    cases q.outside c with
    | false =>
      simp only [Bool.false_eq_true, if_false, Option.map_map]
      rfl
    | true =>
      cases Text.dropFolded? word (c :: xs) with
      | none =>
        simp only [if_true, Option.map_none, Option.map_map]
        rfl
      | some r => rfl

end Words

/-! ## Delimiters -/

section Delimiters

variable {delimiter : Char}

/-- A character in front of the first piece stands in front of all. -/
theorem intercalate_cons_head (separator : List Char) (c : Char) (p : List Char)
    (ps : List (List Char)) :
    separator.intercalate ((c :: p) :: ps) = c :: separator.intercalate (p :: ps) := by
  cases ps with
  | nil => simp
  | cons next ps => simp only [List.intercalate_cons_cons, List.cons_append]

/-- The pieces from any place on make up the rest of the text. -/
theorem intercalate_splitFrom (q : OpenQuote) (depth : Int) (cs : List Char) :
    [delimiter].intercalate
      ((splitFrom delimiter q depth cs).1 :: (splitFrom delimiter q depth cs).2) = cs := by
  -- a character joins the first piece, or it is a delimiter and a piece starts after it
  induction cs generalizing q depth with
  | nil => rfl
  | cons c cs ih =>
    simp only [splitFrom]
    split
    · rw [intercalate_cons_head, ih]
    · split
      · rw [intercalate_cons_head, ih]
      · split
        · rw [intercalate_cons_head, ih]
        · split
          · next hdelimiter =>
            obtain ⟨hc, -⟩ := Bool.and_eq_true_iff.1 hdelimiter
            rw [List.intercalate_cons_cons, ih, eq_of_beq hc]
            rfl
          · rw [intercalate_cons_head, ih]

/-- The pieces with the delimiter between them are the text. -/
theorem intercalate_splitTopLevel (cs : List Char) :
    [delimiter].intercalate (splitTopLevel delimiter cs) = cs :=
  intercalate_splitFrom none 0 cs

/-- How many more parentheses a text opens than it closes outside its runs. -/
def opened (q : OpenQuote) (cs : List Char) : Int :=
  (outsideChars q cs).count '(' - (outsideChars q cs).count ')'

@[simp] theorem opened_nil (q : OpenQuote) : opened q [] = 0 := rfl

/-- The depth over two texts is the sum of the depths, where the second text starts with the open
quote at the end of the first. -/
theorem opened_append (q : OpenQuote) (xs ys : List Char) :
    opened q (xs ++ ys) = opened q xs + opened (q.after xs) ys := by
  simp only [opened, outsideChars_append, List.count_append]
  omega

theorem opened_cons (q : OpenQuote) (c : Char) (cs : List Char) :
    opened q (c :: cs) = opened q [c] + opened (q.step c) cs :=
  opened_append q [c] cs

/-- The depth of a scan stays within the length of what it has passed: for a text of fewer than
`2 ^ 31` characters a word of 32 bits holds every depth. -/
theorem natAbs_opened_le (q : OpenQuote) (cs : List Char) : (opened q cs).natAbs ≤ cs.length := by
  have hlength := (outsideChars_sublist q cs).length_le
  have hopening := List.count_le_length (a := '(') (l := outsideChars q cs)
  have hclosing := List.count_le_length (a := ')') (l := outsideChars q cs)
  rw [opened]
  omega

/-- A character that is neither a quote nor a parenthesis. -/
structure IsSeparator (delimiter : Char) : Prop where
  unquoted : isQuote delimiter = false
  ne_opening : delimiter ≠ '('
  ne_closing : delimiter ≠ ')'

/-- At the top level a separator ends a piece, and what follows it is split as a text of its own. -/
theorem IsSeparator.splitFrom (hd : IsSeparator delimiter) (cs : List Char) :
    Sql.splitFrom delimiter none 0 (delimiter :: cs) = ([], splitTopLevel delimiter cs) := by
  simp [Sql.splitFrom, splitTopLevel, OpenQuote.outside, hd.unquoted, hd.ne_opening, hd.ne_closing]

/-- Each delimiter in a text stands within a run or between parentheses. -/
def Undivided (delimiter : Char) (q : OpenQuote) (depth : Int) (cs : List Char) : Prop :=
  ∀ before after, cs = before ++ delimiter :: after →
    q.after before ≠ none ∨ depth + opened q before ≠ 0

/-- A text is undivided if its first character ends no piece and the rest is undivided from
there. -/
theorem undivided_cons_iff {q : OpenQuote} {depth : Int} {c : Char} {cs : List Char} :
    Undivided delimiter q depth (c :: cs) ↔ (c = delimiter → q ≠ none ∨ depth ≠ 0) ∧
      Undivided delimiter (q.step c) (depth + opened q [c]) cs := by
  constructor
  · intro h
    refine ⟨?_, fun before after hcs => ?_⟩
    · rintro rfl
      simpa using h [] cs rfl
    · have hhere := h (c :: before) after (by rw [hcs, List.cons_append])
      rwa [opened_cons q c before, ← Int.add_assoc] at hhere
  · rintro ⟨hfirst, htail⟩ before after hcs
    cases before with
    | nil => simpa using hfirst (List.cons.inj hcs).1
    | cons d before =>
      obtain ⟨rfl, hrest⟩ := List.cons.inj hcs
      have hhere := htail before after hrest
      rwa [Int.add_assoc, ← opened_cons] at hhere

theorem undivided_nil (q : OpenQuote) (depth : Int) : Undivided delimiter q depth [] := by
  intro before after h
  simp at h

/-- Whether a text is divided is decided by a scan of it. -/
instance decidableUndivided (q : OpenQuote) (depth : Int) :
    (cs : List Char) → Decidable (Undivided delimiter q depth cs)
  | [] => isTrue (undivided_nil q depth)
  | c :: cs =>
    haveI := decidableUndivided (q.step c) (depth + opened q [c]) cs
    decidable_of_iff _ undivided_cons_iff.symm

/-- A text is undivided if its parts are, each from where the scan enters it. -/
theorem undivided_append_iff {q : OpenQuote} {depth : Int} {xs ys : List Char} :
    Undivided delimiter q depth (xs ++ ys) ↔ Undivided delimiter q depth xs ∧
      Undivided delimiter (q.after xs) (depth + opened q xs) ys := by
  induction xs generalizing q depth with
  | nil => simp [undivided_nil]
  | cons x xs ih =>
    rw [List.cons_append, undivided_cons_iff, undivided_cons_iff, ih, opened_cons q x xs,
      ← Int.add_assoc, and_assoc, OpenQuote.after_cons]

/-- A character that does not separate joins the first piece. -/
theorem splitFrom_cons {q : OpenQuote} {depth : Int} {c : Char}
    (h : c = delimiter → q ≠ none ∨ depth ≠ 0) (cs : List Char) :
    splitFrom delimiter q depth (c :: cs) =
      (c :: (splitFrom delimiter (q.step c) (depth + opened q [c]) cs).1,
        (splitFrom delimiter (q.step c) (depth + opened q [c]) cs).2) := by
  cases hout : q.outside c with
  -- within a run every character goes on with the piece
  | false =>
    have hopened : opened q [c] = 0 := by
      simp [opened, outsideChars_cons_of_not_outside hout]
    simp [splitFrom, hout, hopened]
  | true =>
    obtain rfl := OpenQuote.eq_none_of_outside hout
    have hstep : OpenQuote.step none c = none := by
      simpa [OpenQuote.outside, OpenQuote.step] using hout
    have hopened : opened none [c] = [c].count '(' - [c].count ')' := by
      rw [opened, outsideChars_cons_of_outside hout]
      rfl
    rw [hstep]
    -- a parenthesis changes the depth, and any other character leaves it
    by_cases ho : c = '('
    · subst ho
      rw [hopened]
      rfl
    · by_cases hc : c = ')'
      · subst hc
        rw [hopened]
        rfl
      · have hzero : opened none [c] = 0 := by simp [hopened, ho, hc]
        have hseparate : (c == delimiter && depth == 0) = false := by
          simpa using h
        simp [splitFrom, hout, ho, hc, hseparate, hzero]

/-- A text that is not divided belongs to one piece. -/
theorem splitFrom_undivided {q : OpenQuote} {depth : Int} {xs : List Char}
    (h : Undivided delimiter q depth xs) (ys : List Char) :
    splitFrom delimiter q depth (xs ++ ys) =
      (xs ++ (splitFrom delimiter (q.after xs) (depth + opened q xs) ys).1,
        (splitFrom delimiter (q.after xs) (depth + opened q xs) ys).2) := by
  induction xs generalizing q depth with
  | nil => simp
  | cons x xs ih =>
    obtain ⟨hfirst, htail⟩ := undivided_cons_iff.1 h
    rw [List.cons_append, splitFrom_cons hfirst, ih htail, opened_cons q x xs, ← Int.add_assoc]
    rfl

/-- A text that may stand between delimiters: it is not divided itself, and the text behind it
starts outside of its runs and parentheses. -/
structure IsPiece (delimiter : Char) (cs : List Char) : Prop where
  undivided : Undivided delimiter none 0 cs
  closed : OpenQuote.after none cs = none
  level : opened none cs = 0

/-- Two texts that may stand between delimiters may stand there together. -/
theorem IsPiece.append {xs ys : List Char} (hx : IsPiece delimiter xs)
    (hy : IsPiece delimiter ys) : IsPiece delimiter (xs ++ ys) := by
  constructor
  · rw [undivided_append_iff, hx.closed, hx.level]
    exact ⟨hx.undivided, hy.undivided⟩
  · rw [OpenQuote.after_append, hx.closed, hy.closed]
  · rw [opened_append, hx.closed, hx.level, hy.level, Int.zero_add]

/-- A text may stand between delimiters if it shows neither delimiters nor parentheses outside its
runs. -/
theorem IsPiece.of_outsideChars {cs : List Char} (hquote : isQuote delimiter = false)
    (hclosed : OpenQuote.after none cs = none)
    (h : ∀ c ∈ outsideChars none cs, c ≠ delimiter ∧ c ≠ '(' ∧ c ≠ ')') :
    IsPiece delimiter cs := by
  refine ⟨fun before after hcs => .inl fun hopen => ?_, hclosed, ?_⟩
  · have hout : OpenQuote.outside none delimiter = true := by
      rw [OpenQuote.outside, hquote]
      rfl
    -- a delimiter outside every run would be shown
    have hmem : delimiter ∈ outsideChars none cs := by
      rw [hcs, outsideChars_append, hopen, outsideChars_cons_of_outside hout]
      simp
    exact (h delimiter hmem).1 rfl
  · have ho : (outsideChars none cs).count '(' = 0 :=
      List.count_eq_zero_of_not_mem fun hmem => (h '(' hmem).2.1 rfl
    have hc : (outsideChars none cs).count ')' = 0 :=
      List.count_eq_zero_of_not_mem fun hmem => (h ')' hmem).2.2 rfl
    rw [opened, ho, hc]
    rfl

/-- Pieces with delimiters between them are split into these pieces again. -/
theorem splitTopLevel_intercalate (hd : IsSeparator delimiter) {pieces : List (List Char)}
    (hne : pieces ≠ []) (h : ∀ p ∈ pieces, IsPiece delimiter p) :
    splitTopLevel delimiter ([delimiter].intercalate pieces) = pieces := by
  have hsplit : ∀ {p : List Char}, IsPiece delimiter p → ∀ ys,
      splitFrom delimiter none 0 (p ++ ys) =
        (p ++ (splitFrom delimiter none 0 ys).1, (splitFrom delimiter none 0 ys).2) := by
    intro p hp ys
    rw [splitFrom_undivided hp.undivided, hp.closed, hp.level, Int.zero_add]
  induction pieces with
  | nil => exact absurd rfl hne
  | cons p pieces ih =>
    have hp := h p List.mem_cons_self
    cases pieces with
    | nil =>
      have hlast := hsplit hp []
      rw [List.append_nil] at hlast
      simp [splitTopLevel, hlast, splitFrom]
    | cons next pieces =>
      have hrest := ih (by simp) fun q hq => h q (List.mem_cons_of_mem p hq)
      rw [List.intercalate_cons_cons, List.append_assoc, List.singleton_append, splitTopLevel,
        hsplit hp, hd.splitFrom, hrest, List.append_nil]

/-- Items of a list, with a comma and a blank between them, are read again. -/
theorem map_trim_splitTopLevel {items : List (List Char)} (hne : items ≠ [])
    (h : ∀ x ∈ items, IsPiece ',' x ∧ Text.trim x = x) :
    (splitTopLevel ',' ([',', ' '].intercalate items)).map Text.trim = items := by
  obtain ⟨first, rest, rfl⟩ := List.exists_cons_of_ne_nil hne
  obtain ⟨hfirst, hrest⟩ := List.forall_mem_cons.1 h
  -- each item but the first is a piece with a blank in front
  have hpieces : [',', ' '].intercalate (first :: rest) =
      [','].intercalate (first :: rest.map (' ' :: ·)) := by
    clear h hne hfirst hrest
    induction rest generalizing first with
    | nil => rfl
    | cons next rest ih =>
      rw [List.map_cons, List.intercalate_cons_cons, List.intercalate_cons_cons, ih,
        intercalate_cons_head]
      simp
  have hblank : IsPiece ',' [' '] := .of_outsideChars rfl rfl (by decide)
  rw [hpieces, splitTopLevel_intercalate ⟨rfl, by decide, by decide⟩ (List.cons_ne_nil _ _)]
  · have htrim : ∀ x ∈ rest, (Text.trim ∘ (' ' :: ·)) x = x := fun x hx =>
      (Text.trim_blanks (List.forall_mem_singleton.2 rfl) x).trans (hrest x hx).2
    rw [List.map_cons, hfirst.2, List.map_map, List.map_congr_left htrim, List.map_id']
  · rw [List.forall_mem_cons]
    refine ⟨hfirst.1, fun p hp => ?_⟩
    obtain ⟨x, hx, rfl⟩ := List.mem_map.1 hp
    exact hblank.append (hrest x hx).1

end Delimiters

end Snowbridge.Sql
