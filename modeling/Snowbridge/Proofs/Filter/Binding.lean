import Snowbridge.Proofs.Filter.Render
import Snowbridge.Proofs.Filter.Tree

/-!
# Values that filters bind

Which values a filter binds, if it is translated at all, follows from the values that the parts of
its text bind (`binds_not_iff`, `binds_join_iff`, `binds_compare_iff`). There is at most one list of
them (`Binds.unique`).
-/

namespace Snowbridge.Filter

variable {k : Context} {cs rest left right inside xs ys : List Char} {params : List Value}

/-- A text is read as a filter that is rendered with these values. -/
def Binds (k : Context) (cs : List Char) (params : List Value) : Prop :=
  ∃ t sql, Reads (fun _ _ => True) cs t ∧ Renders k t sql params

theorem Binds.congr (h : Binds k xs params) (htrim : Text.trim xs = Text.trim ys) :
    Binds k ys params := by
  obtain ⟨t, sql, hreads, hrenders⟩ := h
  exact ⟨t, sql, hreads.congr htrim, hrenders⟩

/-- Blanks around a text do not change which values it binds. -/
theorem binds_congr (htrim : Text.trim xs = Text.trim ys) :
    Binds k xs params ↔ Binds k ys params := by
  constructor
  · exact fun h => h.congr htrim
  · exact fun h => h.congr htrim.symm

/-- A text binds one list of values at most. -/
theorem Binds.unique {params' : List Value} (h : Binds k cs params) (h' : Binds k cs params') :
    params = params' := by
  obtain ⟨t, sql, hreads, hrenders⟩ := h
  obtain ⟨t', sql', hreads', hrenders'⟩ := h'
  -- the text is read as one tree, and the tree is rendered in one way
  have htree := hreads.read_eq.symm.trans hreads'.read_eq
  rw [Except.ok.injEq] at htree
  subst htree
  have hfragment := hrenders.render_eq.symm.trans hrenders'.render_eq
  simp only [Except.ok.injEq, Prod.mk.injEq] at hfragment
  exact hfragment.2

/-! ## Parts of a text -/

/-- A negated text binds what the text binds. -/
theorem binds_not_iff (hn : afterNot? (Text.trim cs) = some rest) :
    Binds k cs params ↔ Binds k rest params := by
  constructor
  · rintro ⟨t, sql, hreads, hrenders⟩
    have hread := hreads.read_eq
    rw [read_not hn] at hread
    cases hrest : Tree.read rest with
    | error e => simp [hrest, Except.map] at hread
    | ok inner =>
      simp only [hrest, Except.map, Except.ok.injEq] at hread
      subst hread
      cases hrenders with
      | notGroup h => exact ⟨_, _, reads_of_read hrest, h⟩
      | not _ h => exact ⟨_, _, reads_of_read hrest, h⟩
  · rintro ⟨t, sql, hreads, hrenders⟩
    -- a negated group is rendered without parentheses of its own, with the same values
    by_cases hgroup : ∃ inner, t = .group inner
    · obtain ⟨inner, rfl⟩ := hgroup
      exact ⟨_, _, .not hn hreads, .notGroup hrenders⟩
    · exact ⟨_, _, .not hn hreads, .not (fun inner h => hgroup ⟨inner, h⟩) hrenders⟩

/-- A text that is split at a connective binds what its parts bind. -/
theorem binds_join_iff {κ : Connective} (hn : afterNot? (Text.trim cs) = none)
    (hplace : splitAtConnective? κ none (Text.trim cs) = some (left, right))
    (hearlier : κ = .or → splitAtConnective? .and none (Text.trim cs) = none) :
    Binds k cs params ↔
      ∃ qs rs, Binds k left qs ∧ Binds k right rs ∧ params = qs ++ rs := by
  have hread : Tree.read cs =
      (Tree.read left).bind fun l => (Tree.read right).map fun r => .join κ l r := by
    cases κ with
    | and => exact read_and hn hplace
    | or => exact read_or hn (hearlier rfl) hplace
  constructor
  · rintro ⟨t, sql, hreads, hrenders⟩
    have ht := hreads.read_eq
    rw [hread] at ht
    cases hl : Tree.read left with
    | error e => simp [hl, Except.bind] at ht
    | ok l =>
      cases hr : Tree.read right with
      | error e => simp [hl, hr, Except.bind, Except.map] at ht
      | ok r =>
        simp only [hl, hr, Except.bind, Except.map, Except.ok.injEq] at ht
        subst ht
        cases hrenders with
        | join hlrenders hrrenders =>
          exact ⟨_, _, ⟨l, _, reads_of_read hl, hlrenders⟩, ⟨r, _, reads_of_read hr, hrrenders⟩,
            rfl⟩
  · rintro ⟨qs, rs, ⟨l, lsql, hl, hlrenders⟩, ⟨r, rsql, hr, hrrenders⟩, rfl⟩
    refine ⟨.join κ l r, _, reads_of_read ?_, .join hlrenders hrrenders⟩
    rw [hread, hl.read_eq, hr.read_eq]
    rfl

/-- A group binds what stands in it. -/
theorem binds_group (hn : afterNot? (Text.trim cs) = none)
    (ha : ∀ κ, splitAtConnective? κ none (Text.trim cs) = none)
    (hg : insideGroup? (Text.trim cs) = some inside) (h : Binds k inside params) :
    Binds k cs params := by
  obtain ⟨t, sql, hreads, hrenders⟩ := h
  exact ⟨_, _, .group hn (ha .and) (ha .or) hg hreads, .group hrenders⟩

/-- A text that is not taken apart binds what the comparison in it does. -/
theorem binds_compare_iff (hn : afterNot? (Text.trim cs) = none)
    (ha : ∀ κ, splitAtConnective? κ none (Text.trim cs) = none)
    (hg : insideGroup? (Text.trim cs) = none) :
    Binds k cs params ↔ ∃ c sql, readComparison (Text.trim cs) = .ok c ∧
      Renders k (.compare c) sql params := by
  constructor
  · rintro ⟨t, sql, hreads, hrenders⟩
    have ht := hreads.read_eq
    rw [read_compare hn (ha .and) (ha .or) hg] at ht
    cases hc : readComparison (Text.trim cs) with
    | error e => simp [hc, Except.map] at ht
    | ok c =>
      simp only [hc, Except.map, Except.ok.injEq] at ht
      subst ht
      exact ⟨c, sql, rfl, hrenders⟩
  · rintro ⟨c, sql, hc, hrenders⟩
    exact ⟨_, _, .compare hn (ha .and) (ha .or) hg hc trivial, hrenders⟩

/-! ## Filters -/

/-- A blank text binds nothing. -/
theorem not_binds_of_trim_eq_nil (h : Text.trim cs = []) : ¬Binds k cs params := by
  rw [binds_compare_iff (by rw [h]; rfl) (by rw [h]; exact fun κ => rfl) (by rw [h]; rfl), h]
  rintro ⟨c, sql, hread, -⟩
  have hnone : readComparison [] = .error (.unparsable "") := rfl
  rw [hnone] at hread
  cases hread

/-- A filter is translated with the values that its text binds. -/
theorem exists_translate_iff {filter : String} :
    (∃ sql, translate k filter = .ok (some ⟨sql, params⟩)) ↔ Binds k filter.toList params := by
  constructor
  · rintro ⟨sql, h⟩
    obtain ⟨t, htext, hrenders⟩ := exists_of_translate h
    have hreads := reads_of_read (ofText_eq_some_iff.1 htext).2
    exact ⟨t, _, hreads.congr (Text.trim_trim filter.toList), hrenders⟩
  · intro h
    have hne : Text.trim filter.toList ≠ [] := fun hnil => not_binds_of_trim_eq_nil hnil h
    obtain ⟨t, sql, hreads, hrenders⟩ := h
    have hread := (hreads.congr (Text.trim_trim filter.toList).symm).read_eq
    refine ⟨String.ofList sql, ?_⟩
    rw [translate, ofText_eq_some_iff.2 ⟨hne, hread⟩]
    simp only [hrenders.render_eq, Except.map]

end Snowbridge.Filter
