import Snowbridge.Filter.Operator
import Snowbridge.Proofs.Chain

/-!
# Sentences

What a condition says of its atoms: which of them are negated, and how connectives join them.
A series of sentences with connectives between them makes up one sentence if a conjunction binds
tighter than a disjunction (`Series.byPrecedence`). A disjunction between two series then joins what
they say on their own, but a conjunction only if neither of them holds a disjunction.
-/

namespace Snowbridge.Filter

/-- A condition that is made of atoms. -/
inductive Sentence (α : Type) where
  | atom (a : α)
  | not (inner : Sentence α)
  | join (connective : Connective) (left right : Sentence α)

variable {α β : Type} {v w : Nat → Bool}

/-! ## Truth -/

/-- What a connective makes of two truth values. -/
def Connective.apply : Connective → Bool → Bool → Bool
  | .and, a, b => a && b
  | .or, a, b => a || b

@[simp] theorem Connective.apply_self (κ : Connective) (b : Bool) : κ.apply b b = b := by
  cases κ
  · exact Bool.and_self b
  · exact Bool.or_self b

/-- The truth values behind the first `n`. -/
def behind (n : Nat) (v : Nat → Bool) : Nat → Bool := fun i => v (n + i)

/-- The truth values of `v` as far as the first `n`, with those of `w` behind them. -/
def splice (n : Nat) (v w : Nat → Bool) : Nat → Bool := fun i => if i < n then v i else w (i - n)

/-- Behind the first truth values of a splice stand those of the second row. -/
@[simp] theorem behind_splice (n : Nat) (v w : Nat → Bool) : behind n (splice n v w) = w := by
  funext i
  rw [behind, splice, if_neg (Nat.not_lt.2 (Nat.le_add_right n i)), Nat.add_sub_cancel_left]

/-- Skipping twice is skipping the sum. -/
theorem behind_behind (m n : Nat) (v : Nat → Bool) : behind n (behind m v) = behind (m + n) v := by
  funext i
  simp only [behind, Nat.add_assoc]

/-- The first truth values of a splice are those of the first row. -/
theorem splice_of_lt {i n : Nat} (h : i < n) : splice n v w i = v i := if_pos h

namespace Sentence

/-- The atoms from left to right. -/
def atoms : Sentence α → List α
  | atom a => [a]
  | not s => s.atoms
  | join _ l r => l.atoms ++ r.atoms

/-- The number of atoms. -/
def size (s : Sentence α) : Nat := s.atoms.length

@[simp] theorem size_join (κ : Connective) (l r : Sentence α) :
    (join κ l r).size = l.size + r.size := List.length_append

/-- A sentence with other atoms. -/
def map (f : α → β) : Sentence α → Sentence β
  | atom a => atom (f a)
  | not s => not (s.map f)
  | join κ l r => join κ (l.map f) (r.map f)

/-- The truth of a sentence, from those of its atoms, which are numbered from left to right. -/
def holds (v : Nat → Bool) : Sentence α → Bool
  | atom _ => v 0
  | not s => !s.holds v
  | join κ l r => κ.apply (l.holds v) (r.holds (behind l.size v))

/-- The atoms of a sentence with other atoms. -/
theorem atoms_map (f : α → β) (s : Sentence α) : (s.map f).atoms = s.atoms.map f := by
  induction s with
  | atom a => rfl
  | not s ih => exact ih
  | join κ l r ihl ihr => simp only [map, atoms, ihl, ihr, List.map_append]

/-- The truth of a sentence does not depend on what its atoms are. -/
theorem holds_map (f : α → β) (s : Sentence α) (v : Nat → Bool) :
    (s.map f).holds v = s.holds v := by
  induction s generalizing v with
  | atom a => rfl
  | not s ih => rw [map, holds, holds, ih]
  | join κ l r ihl ihr => simp only [map, holds, ihl, ihr, size, atoms_map, List.length_map]

/-- The truth of a sentence depends on its own atoms only. -/
theorem holds_congr {s : Sentence α} (h : ∀ i < s.size, v i = w i) : s.holds v = s.holds w := by
  induction s generalizing v w with
  | atom a => exact h 0 Nat.one_pos
  | not s ih => rw [holds, holds, ih h]
  | join κ l r ihl ihr =>
    -- the atoms of the left part come first, those of the right part behind them
    have hl : ∀ i < l.size, v i = w i := by
      intro i hi
      exact h i (by simp; omega)
    have hr : ∀ i < r.size, behind l.size v i = behind l.size w i := by
      intro i hi
      exact h _ (by simpa using hi)
    rw [holds, holds, ihl hl, ihr hr]

/-- The truth of a sentence does not depend on the truth values behind its atoms. -/
theorem holds_splice (s : Sentence α) (v w : Nat → Bool) :
    s.holds (splice s.size v w) = s.holds v := holds_congr fun _ => splice_of_lt

end Sentence

/-! ## Series -/

/-- Sentences with connectives between them, as they stand in a text. -/
abbrev Series (α : Type) := Chain (Sentence α) Connective

namespace Series

variable {c : Series α}

/-- The atoms from left to right. -/
def atoms : Series α → List α
  | .last s => s.atoms
  | .more s _ rest => s.atoms ++ atoms rest

/-- The number of atoms. -/
def size (c : Series α) : Nat := (atoms c).length

/-- The atoms of two series with a connective between them. -/
theorem atoms_join (l : Series α) (κ : Connective) (r : Series α) :
    atoms (l.join κ r) = atoms l ++ atoms r := by
  induction l with
  | last s => rfl
  | more s _ rest ih => simp only [Chain.join, atoms, ih, List.append_assoc]

theorem size_join (l : Series α) (κ : Connective) (r : Series α) :
    size (l.join κ r) = size l + size r := by
  rw [size, atoms_join, List.length_append]
  rfl

theorem size_more (s : Sentence α) (κ : Connective) (rest : Series α) :
    size (.more s κ rest) = s.size + size rest := List.length_append

/-- A sentence with what a disjunction joins to it. -/
def close : Sentence α × Option (Sentence α) → Sentence α
  | (s, none) => s
  | (s, some t) => .join .or s t

/-- The conjunction of the sentences before the first disjunction, and what those behind it make
up. -/
def group : Series α → Sentence α × Option (Sentence α)
  | .last s => (s, none)
  | .more s .and rest => (.join .and s (group rest).1, (group rest).2)
  | .more s .or rest => (s, some (close (group rest)))

/-- What a series makes up if conjunctions bind tighter than disjunctions. -/
def byPrecedence (c : Series α) : Sentence α := close (group c)

/-- Grouping keeps the atoms and their order. -/
theorem atoms_group (c : Series α) :
    (group c).1.atoms ++ ((group c).2.elim [] Sentence.atoms) = atoms c := by
  induction c with
  | last s => exact List.append_nil _
  | more s κ rest ih =>
    cases κ with
    | and => simp only [group, Sentence.atoms, atoms, List.append_assoc, ih]
    | or =>
      rw [atoms, ← ih]
      simp only [group, Option.elim_some]
      -- whether a disjunction follows in the rest
      rcases group rest with ⟨s', _ | t⟩
      · simp [close]
      · rfl

/-- What a series makes up has its atoms in their order. -/
theorem atoms_byPrecedence (c : Series α) : (byPrecedence c).atoms = atoms c := by
  rw [← atoms_group c, byPrecedence]
  rcases group c with ⟨s, _ | t⟩
  · simp [close]
  · rfl

theorem size_byPrecedence (c : Series α) : (byPrecedence c).size = size c := by
  rw [Sentence.size, atoms_byPrecedence, size]

/-- Grouping does not depend on what the atoms are. -/
theorem group_map (f : α → β) (c : Series α) :
    group (c.map (Sentence.map f)) = ((group c).1.map f, (group c).2.map (Sentence.map f)) := by
  induction c with
  | last s => rfl
  | more s κ rest ih =>
    cases κ with
    | and => simp only [Chain.map, group, ih, Sentence.map]
    | or =>
      simp only [Chain.map, group, ih]
      rcases group rest with ⟨s', _ | t⟩
      · rfl
      · rfl

/-- What a series makes up does not depend on what its atoms are. -/
theorem byPrecedence_map (f : α → β) (c : Series α) :
    byPrecedence (c.map (Sentence.map f)) = (byPrecedence c).map f := by
  rw [byPrecedence, group_map, byPrecedence]
  rcases group c with ⟨s, _ | t⟩
  · rfl
  · rfl

/-- A series without a disjunction is one conjunction. -/
theorem group_of_and (h : Connective.or ∉ c.links) : group c = (byPrecedence c, none) := by
  induction c with
  | last s => rfl
  | more s κ rest ih =>
    cases κ with
    | and =>
      have hrest := ih fun hmem => h (List.mem_cons_of_mem _ hmem)
      rw [byPrecedence, group, hrest]
      rfl
    | or => exact absurd List.mem_cons_self h

/-- Without a disjunction a series is a conjunction from its first sentence on. -/
theorem byPrecedence_and {s : Sentence α} {rest : Series α} (h : Connective.or ∉ rest.links) :
    byPrecedence (.more s .and rest) = .join .and s (byPrecedence rest) := by
  rw [byPrecedence, group, group_of_and h]
  rfl

/-- The first disjunction splits a series. -/
theorem byPrecedence_join_or {l : Series α} (h : Connective.or ∉ l.links) (r : Series α) :
    byPrecedence (l.join .or r) = .join .or (byPrecedence l) (byPrecedence r) := by
  -- all before the first disjunction is one group
  have hgroup : group (l.join .or r) = (byPrecedence l, some (byPrecedence r)) := by
    induction l with
    | last s => rfl
    | more s κ rest ih =>
      cases κ with
      | and =>
        have hrest : Connective.or ∉ rest.links := fun hmem => h (List.mem_cons_of_mem _ hmem)
        rw [byPrecedence_and hrest, Chain.join, group, ih hrest]
      | or => exact absurd List.mem_cons_self h
  rw [byPrecedence, hgroup]
  rfl

/-! ### Truth -/

/-- The truth of a series, read from the left: `acc` says whether all sentences since the last
disjunction hold. -/
def holdsFrom (acc : Bool) (v : Nat → Bool) : Series α → Bool
  | .last s => acc && s.holds v
  | .more s .and rest => holdsFrom (acc && s.holds v) (behind s.size v) rest
  | .more s .or rest => acc && s.holds v || holdsFrom true (behind s.size v) rest

/-- Read from the left, a series says what its groups do. -/
theorem holdsFrom_eq (acc : Bool) (v : Nat → Bool) (c : Series α) :
    holdsFrom acc v c = (acc && (group c).1.holds v ||
      (group c).2.elim false fun t => t.holds (behind (group c).1.size v)) := by
  induction c generalizing acc v with
  | last s => simp [holdsFrom, group]
  | more s κ rest ih =>
    -- a conjunction adds to the group that is read, and a disjunction starts another
    cases κ with
    | and =>
      rw [holdsFrom, ih, group]
      simp only [Sentence.holds, Connective.apply, Sentence.size_join, behind_behind,
        Bool.and_assoc]
    | or =>
      rw [holdsFrom, ih, group]
      rcases group rest with ⟨s', _ | t⟩
      · simp [close]
      · simp [close, Sentence.holds, Connective.apply]

/-- Read from the left, a series says what it makes up by precedence. -/
theorem holds_byPrecedence (v : Nat → Bool) (c : Series α) :
    (byPrecedence c).holds v = holdsFrom true v c := by
  rw [holdsFrom_eq, byPrecedence]
  rcases group c with ⟨s, _ | t⟩
  · simp [close]
  · simp [close, Sentence.holds, Connective.apply]

/-- A disjunction starts a new conjunction behind it. -/
theorem holdsFrom_join_or (acc : Bool) (v : Nat → Bool) (l r : Series α) :
    holdsFrom acc v (l.join .or r) =
      (holdsFrom acc v l || holdsFrom true (behind (size l) v) r) := by
  induction l generalizing acc v with
  | last s => rfl
  | more s κ rest ih =>
    cases κ with
    | and => simp only [Chain.join, holdsFrom, ih, size_more, behind_behind]
    | or => simp only [Chain.join, holdsFrom, ih, size_more, behind_behind, Bool.or_assoc]

/-- A conjunction goes on from a series without a disjunction. -/
theorem holdsFrom_join_and (acc : Bool) (v : Nat → Bool) {l : Series α}
    (h : Connective.or ∉ l.links) (r : Series α) :
    holdsFrom acc v (l.join .and r) = holdsFrom (holdsFrom acc v l) (behind (size l) v) r := by
  induction l generalizing acc v with
  | last s => rfl
  | more s κ rest ih =>
    cases κ with
    | and =>
      have hrest : Connective.or ∉ rest.links := fun hmem => h (List.mem_cons_of_mem _ hmem)
      simp only [Chain.join, holdsFrom, ih _ _ hrest, size_more, behind_behind]
    | or => exact absurd List.mem_cons_self h

/-- Without a disjunction, what was read before has to hold as well. -/
theorem holdsFrom_of_and (acc : Bool) (v : Nat → Bool) (h : Connective.or ∉ c.links) :
    holdsFrom acc v c = (acc && holdsFrom true v c) := by
  rw [holdsFrom_eq, holdsFrom_eq true, group_of_and h]
  simp

/-- A disjunction joins what the series on its sides make up. -/
theorem holds_join_or (v : Nat → Bool) (l r : Series α) :
    (byPrecedence (l.join .or r)).holds v =
      ((byPrecedence l).holds v || (byPrecedence r).holds (behind (size l) v)) := by
  simp only [holds_byPrecedence, holdsFrom_join_or]

/-- A conjunction joins what the series on its sides make up, if neither holds a disjunction. -/
theorem holds_join_and (v : Nat → Bool) {l r : Series α} (hl : Connective.or ∉ l.links)
    (hr : Connective.or ∉ r.links) : (byPrecedence (l.join .and r)).holds v =
      ((byPrecedence l).holds v && (byPrecedence r).holds (behind (size l) v)) := by
  simp only [holds_byPrecedence, holdsFrom_join_and _ _ hl]
  exact holdsFrom_of_and _ _ hr

/-- All sentences have the same truth value. -/
def Agree (b : Bool) (v : Nat → Bool) : Series α → Prop
  | .last s => s.holds v = b
  | .more s _ rest => s.holds v = b ∧ Agree b (behind s.size v) rest

/-- Two series agree if all sentences on both sides do. -/
theorem agree_join {b : Bool} {l : Series α} {κ : Connective} {r : Series α} :
    Agree b v (l.join κ r) ↔ Agree b v l ∧ Agree b (behind (size l) v) r := by
  induction l generalizing v with
  | last s => exact Iff.rfl
  | more s _ rest ih =>
    rw [Chain.join, Agree, Agree, ih, size_more, behind_behind, and_assoc]

/-- Whether the sentences of a series agree depends on their own atoms only. -/
theorem agree_congr {b : Bool} {c : Series α} (h : ∀ i < size c, v i = w i) :
    Agree b v c ↔ Agree b w c := by
  induction c generalizing v w with
  | last s =>
    rw [Agree, Agree, Sentence.holds_congr h]
  | more s κ rest ih =>
    rw [size_more] at h
    -- the atoms of the first sentence, and those of the others behind them
    have hs : ∀ i < s.size, v i = w i := by
      intro i hi
      exact h i (by omega)
    have hrest : ∀ i < size rest, behind s.size v i = behind s.size w i := by
      intro i hi
      exact h _ (by omega)
    rw [Agree, Agree, Sentence.holds_congr hs, ih hrest]

/-- If all sentences have one truth value, then what they make up has it too. -/
theorem Agree.holds {b : Bool} {c : Series α} (h : Agree b v c) :
    (byPrecedence c).holds v = b := by
  -- what was read before may fail only if the sentences fail as well
  have hfrom : ∀ acc, (b = true → acc = true) → holdsFrom acc v c = b := by
    induction c generalizing v with
    | last s =>
      intro acc hacc
      cases b with
      | true => rw [holdsFrom, hacc rfl, Bool.true_and, h]
      | false => rw [holdsFrom, h, Bool.and_false]
    | more s κ rest ih =>
      obtain ⟨hs, hrest⟩ := h
      intro acc hacc
      cases κ with
      | and =>
        rw [holdsFrom]
        refine ih hrest _ fun hb => ?_
        rw [hacc hb, hs, hb, Bool.and_self]
      | or =>
        rw [holdsFrom, ih hrest true fun _ => rfl, hs]
        cases b with
        | true => exact Bool.or_true _
        | false => rw [Bool.and_false, Bool.or_false]
  rw [holds_byPrecedence]
  exact hfrom true fun _ => rfl

end Series

end Snowbridge.Filter
