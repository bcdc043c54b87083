import Snowbridge.Proofs.Sql.Search

/-!
# Pieces of a text

The pieces of a text with the delimiter between them are the text, and no piece is divided further.
Both rest on what the scan knows where a piece starts: no run is open there and as many parentheses
have been closed as opened, which is how the scan of a whole text starts. So a delimiter separates
exactly if this holds in front of it (`separates_iff`). A quote or a parenthesis never separates,
since the scan takes it for what it is.
-/

namespace Snowbridge.Sql

variable {delimiter : Char}

/-- The delimiter between two texts separates them: a piece ends in front of it and one starts
behind it. -/
def Separates (delimiter : Char) (before after : List Char) : Prop :=
  ∃ front rest, splitTopLevel delimiter (before ++ delimiter :: after) = front ++ rest ∧
    front ≠ [] ∧ rest ≠ [] ∧
    [delimiter].intercalate front = before ∧ [delimiter].intercalate rest = after

/-- A character goes on with a piece, or it is the delimiter at the top level. -/
theorem goesOn_or_divides (delimiter c : Char) (q : OpenQuote) (depth : Int) :
    (c = delimiter → q ≠ none ∨ depth ≠ 0) ∨ (delimiter = c ∧ q = none ∧ depth = 0) := by
  by_cases hc : c = delimiter → q ≠ none ∨ depth ≠ 0
  · exact .inl hc
  · right
    simpa [eq_comm] using hc

/-! ## The scan at a separator -/

namespace IsSeparator

variable (hd : IsSeparator delimiter)
include hd

/-- A separator opens no run. -/
theorem step : OpenQuote.step none delimiter = none := by
  simp [OpenQuote.step, hd.unquoted]

/-- A separator changes no depth. -/
theorem opened (cs : List Char) : opened none (delimiter :: cs) = Sql.opened none cs := by
  have hout : OpenQuote.outside none delimiter = true := by
    simp [OpenQuote.outside, hd.unquoted]
  rw [opened_cons, hd.step, Sql.opened, outsideChars_cons_of_outside hout]
  simp [hd.ne_opening, hd.ne_closing]

/-- No piece is divided: within it each delimiter stands in a run or between parentheses, where the
scan of the first piece goes on from its start and the others start at the top level. -/
theorem undivided_splitFrom (q : OpenQuote) (depth : Int) (cs : List Char) :
    Undivided delimiter q depth (Sql.splitFrom delimiter q depth cs).1 ∧
      ∀ p ∈ (Sql.splitFrom delimiter q depth cs).2, Undivided delimiter none 0 p := by
  induction cs generalizing q depth with
  | nil => exact ⟨undivided_nil q depth, fun p hp => absurd hp List.not_mem_nil⟩
  | cons c cs ih =>
    -- the character goes on with the first piece, or the first piece ends empty in front of it
    rcases goesOn_or_divides delimiter c q depth with hc | ⟨rfl, rfl, rfl⟩
    · obtain ⟨hfirst, hothers⟩ := ih (q.step c) (depth + Sql.opened q [c])
      rw [splitFrom_cons hc]
      exact ⟨undivided_cons_iff.2 ⟨hc, hfirst⟩, hothers⟩
    · obtain ⟨hfirst, hothers⟩ := ih none 0
      rw [hd.splitFrom]
      refine ⟨undivided_nil none 0, fun p hp => ?_⟩
      rcases List.mem_cons.1 hp with rfl | hp
      · exact hfirst
      · exact hothers p hp

/-- If a piece ends where a part of the text ends, then the scan is at the top level there. The
pieces up to that place are those of the part, so the induction goes along the text with them. -/
theorem topLevel_of_splitFrom {q : OpenQuote} {depth : Int} {cs : List Char}
    {front rest : List (List Char)}
    (h : (Sql.splitFrom delimiter q depth cs).1 :: (Sql.splitFrom delimiter q depth cs).2 =
      front ++ rest) (hfront : front ≠ []) (hrest : rest ≠ []) :
    q.after ([delimiter].intercalate front) = none ∧
      depth + Sql.opened q ([delimiter].intercalate front) = 0 := by
  obtain ⟨first, front, rfl⟩ := List.exists_cons_of_ne_nil hfront
  induction cs generalizing q depth first front with
  | nil =>
    obtain ⟨-, hnil⟩ := List.cons.inj h
    exact absurd (List.append_eq_nil_iff.1 hnil.symm).2 hrest
  | cons c cs ih =>
    rcases goesOn_or_divides delimiter c q depth with hc | ⟨rfl, rfl, rfl⟩
    · -- the character is the first of the first piece
      rw [splitFrom_cons hc, List.cons_append] at h
      obtain ⟨rfl, htail⟩ := List.cons.inj h
      obtain ⟨hafter, hlevel⟩ := ih _ front (congrArg _ htail) (List.cons_ne_nil _ _)
      rw [intercalate_cons_head, OpenQuote.after_cons,
        opened_cons q c ([delimiter].intercalate _), ← Int.add_assoc]
      exact ⟨hafter, hlevel⟩
    · rw [hd.splitFrom, List.cons_append] at h
      obtain ⟨rfl, htail⟩ := List.cons.inj h
      -- the part ends at this delimiter, or it goes on with the next piece
      cases front with
      | nil => exact ⟨rfl, rfl⟩
      | cons next front =>
        have hnext := ih next front htail (List.cons_ne_nil _ _)
        rw [List.intercalate_cons_cons, List.nil_append, List.singleton_append,
          OpenQuote.after_cons, hd.step, hd.opened]
        exact hnext

/-- A separator at the top level divides the pieces into those of the two texts around it. -/
theorem splitFrom_append {q : OpenQuote} {depth : Int} {xs : List Char}
    (hafter : q.after xs = none) (hlevel : depth + Sql.opened q xs = 0) (ys : List Char) :
    Sql.splitFrom delimiter q depth (xs ++ delimiter :: ys) =
      ((Sql.splitFrom delimiter q depth xs).1,
        (Sql.splitFrom delimiter q depth xs).2 ++ splitTopLevel delimiter ys) := by
  induction xs generalizing q depth with
  | nil =>
    -- the separator comes next and the scan is at the top level
    obtain rfl : q = none := hafter
    obtain rfl : depth = 0 := by simpa using hlevel
    exact hd.splitFrom ys
  | cons x xs ih =>
    rw [OpenQuote.after_cons] at hafter
    rcases goesOn_or_divides delimiter x q depth with hx | ⟨rfl, rfl, rfl⟩
    · rw [opened_cons, ← Int.add_assoc] at hlevel
      rw [List.cons_append, splitFrom_cons hx, splitFrom_cons hx, ih hafter hlevel]
    · rw [hd.step] at hafter
      rw [hd.opened] at hlevel
      rw [List.cons_append, hd.splitFrom, hd.splitFrom, splitTopLevel, ih hafter hlevel]
      rfl

end IsSeparator

/-! ## Pieces -/

/-- A quote or a parenthesis never ends a piece. -/
theorem splitFrom_of_not_separator (hd : ¬ IsSeparator delimiter) (q : OpenQuote) (depth : Int)
    (cs : List Char) : splitFrom delimiter q depth cs = (cs, []) := by
  induction cs generalizing q depth with
  | nil => rfl
  | cons c cs ih =>
    simp only [splitFrom, ih]
    split
    · rfl
    · next hout =>
      split
      · rfl
      · next hopening =>
        split
        · rfl
        · next hclosing =>
          have hne : c ≠ delimiter := by
            rintro rfl
            refine hd ⟨?_, by simpa using hopening, by simpa using hclosing⟩
            simpa [OpenQuote.outside, OpenQuote.eq_none_of_outside (by simpa using hout)] using hout
          simp [hne]

/-- By a quote or a parenthesis a text is not split. -/
theorem splitTopLevel_of_not_separator (hd : ¬ IsSeparator delimiter) (cs : List Char) :
    splitTopLevel delimiter cs = [cs] := by
  rw [splitTopLevel, splitFrom_of_not_separator hd]

/-- A text that is not divided is its only piece. -/
theorem splitTopLevel_undivided {cs : List Char} (h : Undivided delimiter none 0 cs) :
    splitTopLevel delimiter cs = [cs] := by
  have hall := splitFrom_undivided h []
  rw [List.append_nil] at hall
  simp [splitTopLevel, hall, splitFrom]

/-- A piece is its only piece. -/
theorem splitTopLevel_piece {cs p : List Char} (h : p ∈ splitTopLevel delimiter cs) :
    splitTopLevel delimiter p = [p] := by
  by_cases hd : IsSeparator delimiter
  · obtain ⟨hfirst, hothers⟩ := hd.undivided_splitFrom none 0 cs
    rcases List.mem_cons.1 h with rfl | h
    · exact splitTopLevel_undivided hfirst
    · exact splitTopLevel_undivided (hothers p h)
  · exact splitTopLevel_of_not_separator hd p

/-- A delimiter separates if it is no quote and no parenthesis, no run is open in front of it, and
as many parentheses have been closed as opened. -/
theorem separates_iff {before after : List Char} : Separates delimiter before after ↔
    IsSeparator delimiter ∧ OpenQuote.after none before = none ∧
      (parenthesisCounts before).1 = (parenthesisCounts before).2 := by
  have hcounts : opened none before = 0 ↔
      (parenthesisCounts before).1 = (parenthesisCounts before).2 := by
    simp only [opened, parenthesisCounts]
    omega
  rw [← hcounts]
  constructor
  · rintro ⟨front, rest, hpieces, hfront, hrest, rfl, -⟩
    have hd : IsSeparator delimiter := by
      -- by another delimiter the text is its only piece, which is not two
      refine Classical.byContradiction fun hd => ?_
      rw [splitTopLevel_of_not_separator hd] at hpieces
      have hlength := congrArg List.length hpieces
      have hpos := List.length_pos_iff.2 hfront
      have hpos' := List.length_pos_iff.2 hrest
      simp only [List.length_append, List.length_singleton] at hlength
      omega
    obtain ⟨hafter, hlevel⟩ := hd.topLevel_of_splitFrom hpieces hfront hrest
    exact ⟨hd, hafter, by simpa using hlevel⟩
  · rintro ⟨hd, hafter, hlevel⟩
    refine ⟨splitTopLevel delimiter before, splitTopLevel delimiter after, ?_,
      List.cons_ne_nil _ _, List.cons_ne_nil _ _, intercalate_splitTopLevel before,
      intercalate_splitTopLevel after⟩
    rw [splitTopLevel, hd.splitFrom_append hafter (by simpa using hlevel)]
    rfl

/-- A text is cut into pieces at each delimiter at its top level, where no run is open and as many
parentheses have been closed as opened, and nowhere else. -/
structure IsCut (delimiter : Char) (cs : List Char) (pieces : List (List Char)) : Prop where
  nonempty : pieces ≠ []
  text : [delimiter].intercalate pieces = cs
  divides : ∀ before after, cs = before ++ delimiter :: after →
    ((∃ front rest, pieces = front ++ rest ∧ front ≠ [] ∧ rest ≠ [] ∧
      [delimiter].intercalate front = before ∧ [delimiter].intercalate rest = after) ↔
      OpenQuote.after none before = none ∧
        (parenthesisCounts before).1 = (parenthesisCounts before).2)

/-- By any other character a text is cut as it should be. -/
theorem IsSeparator.isCut_splitTopLevel (hd : IsSeparator delimiter) (cs : List Char) :
    IsCut delimiter cs (splitTopLevel delimiter cs) where
  nonempty := List.cons_ne_nil _ _
  text := intercalate_splitTopLevel cs
  divides := by
    rintro before after rfl
    exact separates_iff.trans (and_iff_right hd)

/-- The pieces of a text make up the text and are not divided further, and a delimiter in it
separates exactly outside of runs and between as many opening as closing parentheses. -/
theorem splitTopLevel_lossless (delimiter : Char) (cs : List Char) :
    [delimiter].intercalate (splitTopLevel delimiter cs) = cs ∧
      (∀ p ∈ splitTopLevel delimiter cs, splitTopLevel delimiter p = [p]) ∧
      ∀ before after, cs = before ++ delimiter :: after →
        (Separates delimiter before after ↔ IsSeparator delimiter ∧
          OpenQuote.after none before = none ∧
          (parenthesisCounts before).1 = (parenthesisCounts before).2) :=
  ⟨intercalate_splitTopLevel cs, fun _ hp => splitTopLevel_piece hp, fun _ _ _ => separates_iff⟩

end Snowbridge.Sql
