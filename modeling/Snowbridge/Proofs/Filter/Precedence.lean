import Snowbridge.Filter.Tree
import Snowbridge.Proofs.Filter.Sentence

/-!
# Trees by precedence

The tree of a filter says in what order its connectives apply (`Tree.sentence`). Without parentheses
for that order only precedence is left, which tells what stands between the connectives apart from
groups and negations (`Tree.series`). Both say the same, whichever comparisons hold, exactly if no
conjunction of the tree has a disjunction as a part of its own (`faithful_iff`): the comparisons are
independent, so where a disjunction is a part of a conjunction some of them tell the two readings
apart.
-/

namespace Snowbridge.Filter

variable {t : Tree}

/-! ## Trees -/

/-- What a comparison says. One whose operator takes no word of negation is negated as a whole. -/
def Comparison.sentence (c : Comparison) : Sentence Comparison :=
  if c.negated && !c.operator.takesNot then .not (.atom c) else .atom c

/-- What a tree says of its comparisons. -/
def Tree.sentence : Tree → Sentence Comparison
  | .compare c => c.sentence
  | .group inner => inner.sentence
  | .join κ left right => .join κ left.sentence right.sentence
  | .not inner => .not inner.sentence

/-- What stands between the connectives of a tree outside its groups and negations, where only
precedence tells in which order they apply. -/
def Tree.series : Tree → Series Comparison
  | .compare c => .last c.sentence
  | .group inner => .last (Series.byPrecedence inner.series)
  | .join κ left right => left.series.join κ right.series
  | .not inner => .last (.not (Series.byPrecedence inner.series))

/-- Whether a tree joins its parts by a disjunction. -/
def Tree.IsDisjunction : Tree → Prop
  | .join .or _ _ => True
  | _ => False

/-- No conjunction has a disjunction as one of its parts, unless in a group or a negation. -/
def Tree.Straight : Tree → Prop
  | .compare _ => True
  | .group inner => inner.Straight
  | .join .and left right =>
    (¬left.IsDisjunction ∧ left.Straight) ∧ (¬right.IsDisjunction ∧ right.Straight)
  | .join .or left right => left.Straight ∧ right.Straight
  | .not inner => inner.Straight

/-- The series of a tree has the comparisons of the tree, in their order. -/
theorem atoms_series (t : Tree) : Series.atoms t.series = t.sentence.atoms := by
  induction t with
  | compare c => rfl
  | group inner ih => rw [Tree.series, Series.atoms, Series.atoms_byPrecedence, ih, Tree.sentence]
  | join κ left right ihl ihr =>
    rw [Tree.series, Series.atoms_join, ihl, ihr, Tree.sentence, Sentence.atoms]
  | not inner ih =>
    rw [Tree.series, Series.atoms, Sentence.atoms, Series.atoms_byPrecedence, ih, Tree.sentence,
      Sentence.atoms]

/-- The series of a tree has as many comparisons as the tree. -/
theorem size_series (t : Tree) : Series.size t.series = t.sentence.size := by
  rw [Series.size, atoms_series, Sentence.size]

/-- What stands between the connectives of a tree depends on its own comparisons only. -/
theorem agree_splice {b : Bool} (t : Tree) (v w : Nat → Bool) :
    Series.Agree b (splice t.sentence.size v w) t.series ↔ Series.Agree b v t.series :=
  Series.agree_congr fun _ hi => splice_of_lt (by rwa [size_series] at hi)

/-- What a tree says by precedence depends on its own comparisons only. -/
theorem holds_splice_series (t : Tree) (v w : Nat → Bool) :
    (Series.byPrecedence t.series).holds (splice t.sentence.size v w) =
      (Series.byPrecedence t.series).holds v := by
  have hsplice := (Series.byPrecedence t.series).holds_splice v w
  rwa [Series.size_byPrecedence, size_series] at hsplice

/-- The parts of a tree have comparisons of their own, which may hold or not independently. -/
theorem holds_splice_join (κ : Connective) (left right : Tree) (v w : Nat → Bool) :
    (Tree.join κ left right).sentence.holds (splice left.sentence.size v w) =
      κ.apply (left.sentence.holds v) (right.sentence.holds w) := by
  rw [Tree.sentence, Sentence.holds, Sentence.holds_splice, behind_splice]

/-- There are comparisons to make a tree and all that stands between its connectives true, and
others to make all of it false. -/
theorem exists_agree (t : Tree) (b : Bool) :
    ∃ v, t.sentence.holds v = b ∧ Series.Agree b v t.series := by
  induction t generalizing b with
  | compare c =>
    by_cases hnot : (c.negated && !c.operator.takesNot) = true
    · refine ⟨fun _ => !b, ?_⟩
      simp [Tree.sentence, Tree.series, Comparison.sentence, hnot, Series.Agree, Sentence.holds]
    · refine ⟨fun _ => b, ?_⟩
      simp [Tree.sentence, Tree.series, Comparison.sentence, hnot, Series.Agree, Sentence.holds]
  | group inner ih =>
    obtain ⟨v, hsentence, hseries⟩ := ih b
    exact ⟨v, hsentence, hseries.holds⟩
  | join κ left right ihl ihr =>
    obtain ⟨vl, hlsentence, hlseries⟩ := ihl b
    obtain ⟨vr, hrsentence, hrseries⟩ := ihr b
    -- the comparisons of the right part are numbered behind those of the left one
    refine ⟨splice left.sentence.size vl vr, ?_, ?_⟩
    · rw [holds_splice_join, hlsentence, hrsentence, Connective.apply_self]
    · rw [Tree.series, Series.agree_join, size_series, behind_splice, agree_splice]
      exact ⟨hlseries, hrseries⟩
  | not inner ih =>
    obtain ⟨v, hsentence, hseries⟩ := ih !b
    refine ⟨v, ?_, ?_⟩
    · rw [Tree.sentence, Sentence.holds, hsentence, Bool.not_not]
    · rw [Tree.series, Series.Agree, Sentence.holds, hseries.holds, Bool.not_not]

/-! ## Trees by precedence -/

/-- The tree and its series say the same, whichever comparisons hold. -/
def Tree.Faithful (t : Tree) : Prop :=
  ∀ v, (Series.byPrecedence t.series).holds v = t.sentence.holds v

section Join

variable {left right : Tree}

/-- A disjunction joins what both of its parts say. -/
theorem faithful_or : (Tree.join .or left right).Faithful ↔ left.Faithful ∧ right.Faithful := by
  constructor
  · intro h
    constructor
    -- with the other part false the disjunction says what this part says
    · intro v
      obtain ⟨w, hright, hseries⟩ := exists_agree right false
      have hv := h (splice left.sentence.size v w)
      rw [holds_splice_join, Tree.series, Series.holds_join_or, size_series, holds_splice_series,
        behind_splice, hseries.holds, hright] at hv
      simpa [Connective.apply] using hv
    · intro v
      obtain ⟨w, hleft, hseries⟩ := exists_agree left false
      have hv := h (splice left.sentence.size w v)
      rw [holds_splice_join, Tree.series, Series.holds_join_or, size_series, holds_splice_series,
        behind_splice, hseries.holds, hleft] at hv
      simpa [Connective.apply] using hv
  · rintro ⟨hl, hr⟩ v
    rw [Tree.series, Series.holds_join_or, size_series, hl v, hr, Tree.sentence, Sentence.holds]
    rfl

/-- In a conjunction the left part has no disjunction outside groups: if all before the disjunction
holds, then so does the predicate, but not the tree. -/
theorem not_mem_left_links (h : (Tree.join .and left right).Faithful) :
    Connective.or ∉ left.series.links := by
  intro hmem
  obtain ⟨before, after, heq⟩ := Chain.exists_eq_join hmem
  obtain ⟨v, -, hleft⟩ := exists_agree left true
  obtain ⟨w, hright, -⟩ := exists_agree right false
  have hv := h (splice left.sentence.size v w)
  have hagree := (agree_splice left v w).2 hleft
  -- the part before the disjunction holds and decides the whole
  rw [heq, Series.agree_join] at hagree
  rw [holds_splice_join, hright, Tree.series, heq, Chain.join_assoc, Series.holds_join_or,
    hagree.1.holds] at hv
  simp [Connective.apply] at hv

/-- In a conjunction the right part has no disjunction outside groups, likewise: if all behind the
disjunction holds, then so does the predicate, but not the tree. -/
theorem not_mem_right_links (h : (Tree.join .and left right).Faithful) :
    Connective.or ∉ right.series.links := by
  intro hmem
  obtain ⟨before, after, heq⟩ := Chain.exists_eq_join hmem
  obtain ⟨v, hleft, -⟩ := exists_agree left false
  obtain ⟨w, -, hright⟩ := exists_agree right true
  have hv := h (splice left.sentence.size v w)
  -- the part behind the disjunction holds and decides the whole
  rw [heq, Series.agree_join] at hright
  rw [holds_splice_join, hleft, Tree.series, heq, ← Chain.join_assoc, Series.holds_join_or,
    Series.size_join, size_series, ← behind_behind, behind_splice, hright.2.holds] at hv
  simp [Connective.apply] at hv

/-- A conjunction joins what both of its parts say, if neither has a disjunction outside groups. -/
theorem faithful_and : (Tree.join .and left right).Faithful ↔
    (Connective.or ∉ left.series.links ∧ left.Faithful) ∧
      (Connective.or ∉ right.series.links ∧ right.Faithful) := by
  constructor
  · intro h
    have hl := not_mem_left_links h
    have hr := not_mem_right_links h
    refine ⟨⟨hl, fun v => ?_⟩, hr, fun v => ?_⟩
    -- with the other part true the conjunction says what this part says
    · obtain ⟨w, hright, hseries⟩ := exists_agree right true
      have hv := h (splice left.sentence.size v w)
      rw [holds_splice_join, Tree.series, Series.holds_join_and _ hl hr, size_series,
        holds_splice_series, behind_splice, hseries.holds, hright] at hv
      simpa [Connective.apply] using hv
    · obtain ⟨w, hleft, hseries⟩ := exists_agree left true
      have hv := h (splice left.sentence.size w v)
      rw [holds_splice_join, Tree.series, Series.holds_join_and _ hl hr, size_series,
        holds_splice_series, behind_splice, hseries.holds, hleft] at hv
      simpa [Connective.apply] using hv
  · rintro ⟨⟨hnl, hl⟩, hnr, hr⟩ v
    rw [Tree.series, Series.holds_join_and _ hnl hnr, size_series, hl v, hr, Tree.sentence,
      Sentence.holds]
    rfl

end Join

/-- In a straight tree only a disjunction has a disjunction between its parts. -/
theorem isDisjunction_of_straight (h : t.Straight) (hor : Connective.or ∈ t.series.links) :
    t.IsDisjunction := by
  induction t with
  | compare c => cases hor
  | group inner _ => cases hor
  | not inner _ => cases hor
  | join κ left right ihl ihr =>
    cases κ with
    | or => trivial
    | and =>
      obtain ⟨⟨hnl, hl⟩, hnr, hr⟩ := h
      rw [Tree.series, Chain.links_join, List.mem_append, List.mem_cons] at hor
      -- the disjunction would make one of the parts a disjunction itself
      rcases hor with hleft | hlink | hright
      · exact absurd (ihl hl hleft) hnl
      · cases hlink
      · exact absurd (ihr hr hright) hnr

/-- A disjunction has one between its parts. -/
theorem mem_links_of_isDisjunction (h : t.IsDisjunction) : Connective.or ∈ t.series.links := by
  cases t with
  | compare c => cases h
  | group inner => cases h
  | not inner => cases h
  | join κ left right =>
    cases κ with
    | and => cases h
    | or =>
      rw [Tree.series, Chain.links_join]
      exact List.mem_append_right _ List.mem_cons_self

/-- What SQL reads by precedence is what the tree says exactly if no conjunction has a disjunction
as one of its parts. -/
theorem faithful_iff (t : Tree) : t.Faithful ↔ t.Straight := by
  induction t with
  | compare c => exact iff_of_true (fun _ => rfl) trivial
  | group inner ih => exact ih
  | not inner ih =>
    rw [Tree.Straight, ← ih]
    constructor
    · intro h v
      exact Bool.not_inj (h v)
    · intro h v
      exact congrArg not (h v)
  | join κ left right ihl ihr =>
    cases κ with
    | or => rw [faithful_or, ihl, ihr, Tree.Straight]
    | and =>
      rw [faithful_and, ihl, ihr, Tree.Straight]
      constructor
      · rintro ⟨⟨hnl, hl⟩, hnr, hr⟩
        exact ⟨⟨fun h => hnl (mem_links_of_isDisjunction h), hl⟩,
          fun h => hnr (mem_links_of_isDisjunction h), hr⟩
      · rintro ⟨⟨hnl, hl⟩, hnr, hr⟩
        exact ⟨⟨fun h => hnl (isDisjunction_of_straight hl h), hl⟩,
          fun h => hnr (isDisjunction_of_straight hr h), hr⟩

end Snowbridge.Filter
