import Snowbridge.Filter.Tree
import Snowbridge.Proofs.Text.Parts

/-!
# Derivations of filters

A filter that is read has a derivation, one step for each node of its tree (`Reads`): each step
says which place the text was split at and that no earlier rule applied. A property of the leaves
may be carried along the derivation.
-/

namespace Snowbridge.Filter

/-- The derivations of trees from texts in which `P` holds of each comparison and its text. -/
inductive Reads (P : List Char → Comparison → Prop) : List Char → Tree → Prop where
  | not {cs rest : List Char} {inner : Tree} (hn : afterNot? (Text.trim cs) = some rest)
      (hr : Reads P rest inner) : Reads P cs (.not inner)
  | and {cs left right : List Char} {l r : Tree} (hn : afterNot? (Text.trim cs) = none)
      (ha : splitAtConnective? .and none (Text.trim cs) = some (left, right))
      (hl : Reads P left l) (hr : Reads P right r) : Reads P cs (.join .and l r)
  | or {cs left right : List Char} {l r : Tree} (hn : afterNot? (Text.trim cs) = none)
      (ha : splitAtConnective? .and none (Text.trim cs) = none)
      (ho : splitAtConnective? .or none (Text.trim cs) = some (left, right))
      (hl : Reads P left l) (hr : Reads P right r) : Reads P cs (.join .or l r)
  | group {cs inside : List Char} {inner : Tree} (hn : afterNot? (Text.trim cs) = none)
      (ha : splitAtConnective? .and none (Text.trim cs) = none)
      (ho : splitAtConnective? .or none (Text.trim cs) = none)
      (hg : insideGroup? (Text.trim cs) = some inside) (hi : Reads P inside inner) :
      Reads P cs (.group inner)
  | compare {cs : List Char} {c : Comparison} (hn : afterNot? (Text.trim cs) = none)
      (ha : splitAtConnective? .and none (Text.trim cs) = none)
      (ho : splitAtConnective? .or none (Text.trim cs) = none)
      (hg : insideGroup? (Text.trim cs) = none) (hc : readComparison (Text.trim cs) = .ok c)
      (hp : P (Text.trim cs) c) : Reads P cs (.compare c)

/-- A text is read as what is left of it after trimming. -/
theorem Reads.congr {P : List Char → Comparison → Prop} {xs ys : List Char} {t : Tree}
    (h : Reads P xs t) (htrim : Text.trim xs = Text.trim ys) : Reads P ys t := by
  cases h with
  | not hn hr => exact .not (htrim ▸ hn) hr
  | and hn ha hl hr => exact .and (htrim ▸ hn) (htrim ▸ ha) hl hr
  | or hn ha ho hl hr => exact .or (htrim ▸ hn) (htrim ▸ ha) (htrim ▸ ho) hl hr
  | group hn ha ho hg hi => exact .group (htrim ▸ hn) (htrim ▸ ha) (htrim ▸ ho) (htrim ▸ hg) hi
  | compare hn ha ho hg hc hp =>
    exact .compare (htrim ▸ hn) (htrim ▸ ha) (htrim ▸ ho) (htrim ▸ hg) (htrim ▸ hc) (htrim ▸ hp)

/-! ## The cases of a reading -/

section Cases

variable {cs rest left right inside : List Char}

/-- A word of negation in front of a parenthesis is taken off first. -/
theorem read_not (hn : afterNot? (Text.trim cs) = some rest) :
    Tree.read cs = (Tree.read rest).map .not := by
  rw [Tree.read]
  split
  · next rest' h =>
    rw [hn] at h
    cases h
    rfl
  · next h => simp [hn] at h

/-- Without such a word the text is split at its first conjunction. -/
theorem read_and (hn : afterNot? (Text.trim cs) = none)
    (ha : splitAtConnective? .and none (Text.trim cs) = some (left, right)) :
    Tree.read cs =
      (Tree.read left).bind fun l => (Tree.read right).map fun r => .join .and l r := by
  rw [Tree.read]
  split
  · next h => simp [hn] at h
  · split
    · next h =>
      rw [ha] at h
      cases h
      rfl
    · next h => simp [ha] at h

/-- Without a conjunction it is split at its first disjunction. -/
theorem read_or (hn : afterNot? (Text.trim cs) = none)
    (ha : splitAtConnective? .and none (Text.trim cs) = none)
    (ho : splitAtConnective? .or none (Text.trim cs) = some (left, right)) :
    Tree.read cs =
      (Tree.read left).bind fun l => (Tree.read right).map fun r => .join .or l r := by
  rw [Tree.read]
  split
  · next h => simp [hn] at h
  · split
    · next h => simp [ha] at h
    · split
      · next h =>
        rw [ho] at h
        cases h
        rfl
      · next h => simp [ho] at h

/-- Without either a pair of parentheses around all is taken off. -/
theorem read_group (hn : afterNot? (Text.trim cs) = none)
    (ha : splitAtConnective? .and none (Text.trim cs) = none)
    (ho : splitAtConnective? .or none (Text.trim cs) = none)
    (hg : insideGroup? (Text.trim cs) = some inside) :
    Tree.read cs = (Tree.read inside).map .group := by
  rw [Tree.read]
  split
  · next h => simp [hn] at h
  · split
    · next h => simp [ha] at h
    · split
      · next h => simp [ho] at h
      · split
        · next h =>
          rw [hg] at h
          cases h
          rfl
        · next h => simp [hg] at h

/-- What is left is a comparison. -/
theorem read_compare (hn : afterNot? (Text.trim cs) = none)
    (ha : splitAtConnective? .and none (Text.trim cs) = none)
    (ho : splitAtConnective? .or none (Text.trim cs) = none)
    (hg : insideGroup? (Text.trim cs) = none) :
    Tree.read cs = (readComparison (Text.trim cs)).map .compare := by
  rw [Tree.read]
  split
  · next h => simp [hn] at h
  · split
    · next h => simp [ha] at h
    · split
      · next h => simp [ho] at h
      · split
        · next h => simp [hg] at h
        · rfl

end Cases

/-! ## Derivations and readings -/

/-- A text that is read has a derivation. -/
theorem reads_of_read {cs : List Char} {t : Tree} (h : Tree.read cs = .ok t) :
    Reads (fun _ _ => True) cs t := by
  -- the cases are a negation, a conjunction, a disjunction, a group and a comparison
  induction cs using Tree.read.induct generalizing t
  case case1 cs _ _ rest hn _ ih =>
    rw [read_not hn] at h
    cases hr : Tree.read rest with
    | error e => simp [hr, Except.map] at h
    | ok inner =>
      simp only [hr, Except.map, Except.ok.injEq] at h
      rw [← h]
      exact Reads.not hn (ih hr)
  case case2 cs _ _ hn left right ha _ _ ihl ihr =>
    rw [read_and hn ha] at h
    cases hl : Tree.read left with
    | error e => simp [hl, Except.bind] at h
    | ok l =>
      cases hr : Tree.read right with
      | error e => simp [hl, hr, Except.bind, Except.map] at h
      | ok r =>
        simp only [hl, hr, Except.bind, Except.map, Except.ok.injEq] at h
        rw [← h]
        exact Reads.and hn ha (ihl hl) (ihr hr)
  case case3 cs _ _ hn ha left right ho _ _ ihl ihr =>
    rw [read_or hn ha ho] at h
    cases hl : Tree.read left with
    | error e => simp [hl, Except.bind] at h
    | ok l =>
      cases hr : Tree.read right with
      | error e => simp [hl, hr, Except.bind, Except.map] at h
      | ok r =>
        simp only [hl, hr, Except.bind, Except.map, Except.ok.injEq] at h
        rw [← h]
        exact Reads.or hn ha ho (ihl hl) (ihr hr)
  case case4 cs _ _ hn ha ho inside hg _ ih =>
    rw [read_group hn ha ho hg] at h
    cases hi : Tree.read inside with
    | error e => simp [hi, Except.map] at h
    | ok inner =>
      simp only [hi, Except.map, Except.ok.injEq] at h
      rw [← h]
      exact Reads.group hn ha ho hg (ih hi)
  case case5 cs _ _ hn ha ho hg =>
    rw [read_compare hn ha ho hg] at h
    cases hc : readComparison (Text.trim cs) with
    | error e => simp [hc, Except.map] at h
    | ok c =>
      simp only [hc, Except.map, Except.ok.injEq] at h
      rw [← h]
      exact Reads.compare hn ha ho hg hc trivial

/-- A derivation is one of what is read. -/
theorem Reads.read_eq {P : List Char → Comparison → Prop} {cs : List Char} {t : Tree}
    (h : Reads P cs t) : Tree.read cs = .ok t := by
  induction h with
  | not hn _ ih =>
    rw [read_not hn, ih]
    rfl
  | and hn ha _ _ ihl ihr =>
    rw [read_and hn ha, ihl, ihr]
    rfl
  | or hn ha ho _ _ ihl ihr =>
    rw [read_or hn ha ho, ihl, ihr]
    rfl
  | group hn ha ho hg _ ih =>
    rw [read_group hn ha ho hg, ih]
    rfl
  | compare hn ha ho hg hc _ =>
    rw [read_compare hn ha ho hg, hc]
    rfl

/-- A filter has the tree of its trimmed text, unless it is blank. -/
theorem ofText_eq_some_iff {filter : String} {t : Tree} :
    Tree.ofText filter = .ok (some t) ↔
      Text.trim filter.toList ≠ [] ∧ Tree.read (Text.trim filter.toList) = .ok t := by
  unfold Tree.ofText
  cases hcs : Text.trim filter.toList with
  | nil => simp
  | cons c cs =>
    -- a text that is not blank is read as a tree or not at all
    cases hread : Tree.read (c :: cs) with
    | error e => simp [hread, Except.map]
    | ok u => simp [hread, Except.map]

end Snowbridge.Filter
