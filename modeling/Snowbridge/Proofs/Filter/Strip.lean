import Snowbridge.Proofs.Filter.Leaf
import Snowbridge.Sql.Expression

/-!
# Strips of atoms

A filter is split at the first place of a connective, however deep that lies, so the parts of a
condition are no conditions: `((a) AND (b)) OR (c)` falls into `((a)` and `(b)) OR (c)`. But they
are strips: atoms between runs of parentheses, with a connective between a closing and an opening
one. Where a strip is split there are strips on both sides (`Strip.splitAtConnective?_source`), so
it is read and rendered with its atoms, its connectives and every parenthesis in their places
(`Strip.reads`). A condition is one of the strips (`Condition.translate_source`).
-/

namespace Snowbridge.Filter

open Sql (OpenQuote)

variable {k : Context}

/-- Leaves with connectives between them. Beside each connective one parenthesis more is closed and
opened than the leaves say. -/
inductive Strip (k : Context) where
  | last (leaf : Leaf k)
  | more (leaf : Leaf k) (link : Link) (rest : Strip k)

/-! ## Texts -/

section Print

variable (atom : Atom k → List Char) (link : Link → List Char)

/-- The text of a strip, from the texts of its atoms and connectives. -/
def Strip.print : Strip k → List Char
  | last leaf => leaf.print atom
  | more leaf l rest => leaf.print atom ++ (')' :: (link l ++ '(' :: rest.print))

end Print

namespace Strip

/-- A strip as a part of a filter. -/
def source (s : Strip k) : List Char := s.print Atom.source Link.source

/-- A strip as a part of a predicate. -/
def sql (s : Strip k) : List Char := s.print Atom.sql Link.sql

/-- The atoms of a strip from left to right. -/
def atoms : Strip k → List (Atom k)
  | last leaf => [leaf.atom]
  | more leaf _ rest => leaf.atom :: rest.atoms

/-- The texts of a strip from left to right. -/
def params (s : Strip k) : List Value := s.atoms.flatMap Atom.params

/-- How many connectives a strip has. -/
def links : Strip k → Nat
  | last _ => 0
  | more _ _ rest => rest.links + 1

/-- A strip with one more parenthesis at its start. -/
def enter : Strip k → Strip k
  | last leaf => last leaf.enter
  | more leaf l rest => more leaf.enter l rest

/-- A strip with one more parenthesis at its end. -/
def leave : Strip k → Strip k
  | last leaf => last leaf.leave
  | more leaf l rest => more leaf l rest.leave

/-- Two strips with a connective between them. -/
def join : Strip k → Link → Strip k → Strip k
  | last leaf, l, right => more leaf l right
  | more leaf l' rest, l, right => more leaf l' (rest.join l right)

/-- The strips before and after the first place of a connective. -/
def splitAt? (κ : Connective) : Strip k → Option (Strip k × Link × Strip k)
  | last _ => none
  | more leaf l rest =>
    if l.connective = κ then some (last leaf, l, rest)
    else (rest.splitAt? κ).map fun (left, l', right) => (more leaf l left, l', right)

section Print

variable (atom : Atom k → List Char) (link : Link → List Char) (s : Strip k)

theorem print_enter : s.enter.print atom link = '(' :: s.print atom link := by
  cases s with
  | last leaf => rfl
  | more leaf l rest => rfl

theorem print_leave : s.leave.print atom link = s.print atom link ++ [')'] := by
  induction s with
  | last leaf => exact leaf.print_leave atom
  | more leaf l rest ih => simp [leave, print, ih]

/-- Beside a connective one parenthesis more is closed and opened. -/
theorem print_join (l : Link) (right : Strip k) : (s.join l right).print atom link =
    s.print atom link ++ (')' :: (link l ++ '(' :: right.print atom link)) := by
  induction s with
  | last leaf => rfl
  | more leaf l' rest ih => simp [join, print, ih]

end Print

variable {s left right : Strip k} {l : Link} {κ : Connective}

@[simp] theorem atoms_enter (s : Strip k) : s.enter.atoms = s.atoms := by
  cases s <;> rfl

@[simp] theorem atoms_leave (s : Strip k) : s.leave.atoms = s.atoms := by
  induction s with
  | last leaf => rfl
  | more leaf l rest ih => simp [leave, atoms, ih]

@[simp] theorem atoms_join (s : Strip k) (l : Link) (right : Strip k) :
    (s.join l right).atoms = s.atoms ++ right.atoms := by
  induction s with
  | last leaf => rfl
  | more leaf l' rest ih => simp [join, atoms, ih]

@[simp] theorem links_enter (s : Strip k) : s.enter.links = s.links := by
  cases s <;> rfl

@[simp] theorem links_leave (s : Strip k) : s.leave.links = s.links := by
  induction s with
  | last leaf => rfl
  | more leaf l rest ih => simp [leave, links, ih]

@[simp] theorem links_join (s : Strip k) (l : Link) (right : Strip k) :
    (s.join l right).links = s.links + right.links + 1 := by
  induction s with
  | last leaf => simp [join, links]
  | more leaf l' rest ih =>
    simp only [join, links, ih]
    omega

/-- The sides of a split with the connective between them are the strip. -/
theorem eq_join_of_splitAt? (h : s.splitAt? κ = some (left, l, right)) :
    l.connective = κ ∧ s = left.join l right := by
  induction s generalizing left with
  | last leaf => cases h
  | more leaf l' rest ih =>
    rw [splitAt?] at h
    split at h
    -- the first connective is the one that is sought
    · next hl =>
      cases h
      exact ⟨hl, rfl⟩
    · obtain ⟨⟨left', l'', right'⟩, hrest, heq⟩ := Option.map_eq_some_iff.1 h
      cases heq
      obtain ⟨hl, rfl⟩ := ih hrest
      exact ⟨hl, rfl⟩

/-- A strip without connectives is one leaf. -/
theorem exists_eq_last (ha : s.splitAt? .and = none) (ho : s.splitAt? .or = none) :
    ∃ leaf, s = last leaf := by
  cases s with
  | last leaf => exact ⟨leaf, rfl⟩
  | more leaf l rest =>
    simp only [splitAt?] at ha ho
    -- a connective of either kind would be a place to split
    cases hl : l.connective <;> simp [hl] at ha ho

end Strip

/-! ## Scans of strips -/

/-- A connective holds neither quotes nor closing parentheses. -/
theorem Link.plain (l : Link) : ∀ c ∈ l.source, Sql.isQuote c = false ∧ c ≠ ')' := by
  have hall : ∀ e ∈ links,
      ((' ' :: (e.2.1.toList ++ [' '])).all fun c => !Sql.isQuote c && c != ')') = true := by
    decide
  intro c hc
  have hc' := List.all_eq_true.1 (hall _ l.known) c hc
  simpa using hc'

theorem Link.word_mem_spellings (l : Link) : l.word.toList ∈ l.connective.spellings := by
  have hall : ∀ e ∈ links, e.2.1.toList ∈ e.1.spellings := by decide
  exact hall _ l.known

/-- The word in a predicate is that of the table. -/
theorem Link.connective_sql (l : Link) : l.connective.sql = l.name := by
  have hall : ∀ e ∈ links, e.1.sql = e.2.2 := by decide
  exact hall _ l.known

/-- A connective in a filter is found where it is one of its words. -/
theorem Link.afterConnective?_source (κ : Connective) (l : Link) (cs : List Char) :
    afterConnective? κ (l.source ++ '(' :: cs) =
      if l.connective = κ then some ('(' :: cs) else none := by
  have hblank : Blanks [' '] := List.forall_mem_singleton.2 rfl
  exact afterConnective?_joint ⟨[' '], l.word.toList, [' '], rfl, hblank, hblank, _,
    l.word_mem_spellings, rfl⟩ cs

namespace Strip

variable {s left right : Strip k} {l : Link} {κ : Connective}

theorem source_enter (s : Strip k) : s.enter.source = '(' :: s.source := s.print_enter _ _

theorem source_more (leaf : Leaf k) (l : Link) (rest : Strip k) :
    (more leaf l rest).source = leaf.leave.source ++ (l.source ++ '(' :: rest.source) := by
  have hleave : leaf.leave.source = leaf.source ++ [')'] := leaf.print_leave Atom.source
  rw [hleave, List.append_assoc]
  rfl

/-- A strip is split where a connective joins two strips, with a parenthesis more on each side. -/
theorem splitAtConnective?_source (κ : Connective) (s : Strip k) :
    splitAtConnective? κ none s.source =
      (s.splitAt? κ).map fun (left, _, right) => (left.leave.source, right.enter.source) := by
  induction s with
  | last leaf => exact leaf.splitAtConnective?_source κ
  | more leaf l rest ih =>
    rw [source_more, leaf.splitAtConnective?_leave, l.afterConnective?_source, splitAt?]
    by_cases hl : l.connective = κ
    · simp only [hl, if_true, Option.map_some, source_enter]
      rfl
    · -- the place is sought further on, from the parenthesis behind this connective
      have hopening : ∀ c ∈ Sql.outsideChars none (l.source ++ ['(']), c ≠ ')' := by
        intro c hc
        rcases List.mem_append.1 (Sql.mem_of_mem_outsideChars hc) with hc | hc
        · exact (l.plain c hc).2
        · rw [List.mem_singleton.1 hc]
          decide
      have hafter : OpenQuote.after none (l.source ++ ['(']) = none := by
        have hunquoted : Sql.Unquoted l.source := fun c hc => (l.plain c hc).1
        rw [OpenQuote.after_append, hunquoted.after]
        rfl
      have hrest := splitAtConnective?_append (k := κ) hopening rest.source
      rw [hafter, ih, List.append_assoc] at hrest
      simp only [hl, if_false]
      rw [← List.singleton_append, hrest]
      cases rest.splitAt? κ with
      | none => rfl
      | some found =>
        obtain ⟨left, l', right⟩ := found
        have hleft : (more leaf l left).leave.source =
            leaf.leave.source ++ (l.source ++ '(' :: left.leave.source) :=
          source_more leaf l left.leave
        simp [hleft]

/-- A strip starts with a leaf. -/
theorem exists_source_eq_append (s : Strip k) :
    ∃ (leaf : Leaf k) (cs : List Char), s.source = leaf.source ++ cs := by
  cases s with
  | last leaf => exact ⟨leaf, [], (List.append_nil _).symm⟩
  | more leaf l rest => exact ⟨leaf.leave, _, source_more leaf l rest⟩

/-- A strip ends with a leaf. -/
theorem exists_source_eq_append_leaf (s : Strip k) :
    ∃ (leaf : Leaf k) (cs : List Char), s.source = cs ++ leaf.source := by
  induction s with
  | last leaf => exact ⟨leaf, [], rfl⟩
  | more leaf l rest ih =>
    obtain ⟨leaf', cs, hrest⟩ := ih
    refine ⟨leaf', leaf.leave.source ++ (l.source ++ '(' :: cs), ?_⟩
    rw [source_more, hrest]
    simp only [List.append_assoc, List.cons_append]

/-- A strip is no negation. -/
theorem afterNot?_source (s : Strip k) : afterNot? s.source = none := by
  obtain ⟨leaf, cs, hsource⟩ := s.exists_source_eq_append
  rw [hsource]
  exact leaf.afterNot?_source_append cs

theorem trim_source (s : Strip k) : Text.trim s.source = s.source := by
  obtain ⟨leaf, cs, hfirst⟩ := s.exists_source_eq_append
  obtain ⟨leaf', cs', hlast⟩ := s.exists_source_eq_append_leaf
  obtain ⟨c, ds, hstart, hc, -⟩ := leaf.exists_source_eq_cons
  obtain ⟨ds', d, hend, hd⟩ := leaf'.exists_source_eq_concat
  rw [hstart] at hfirst
  rw [hend, ← List.append_assoc] at hlast
  exact Text.trim_eq_self_of_ends hfirst hlast hc hd

/-! ## Readings of strips -/

/-- A strip that is split is read as a connective between its parts. -/
theorem read_join (h : s.splitAt? κ = some (left, l, right))
    (hearlier : κ = .or → s.splitAt? .and = none) :
    Tree.read s.source = (Tree.read left.leave.source).bind fun t =>
      (Tree.read right.enter.source).map fun u => .join κ t u := by
  have hnot : afterNot? (Text.trim s.source) = none := by rw [s.trim_source, s.afterNot?_source]
  have hplace : splitAtConnective? κ none (Text.trim s.source) =
      some (left.leave.source, right.enter.source) := by
    rw [s.trim_source, s.splitAtConnective?_source, h]
    rfl
  cases κ with
  | and => exact read_and hnot hplace
  | or =>
    refine read_or hnot ?_ hplace
    rw [s.trim_source, s.splitAtConnective?_source, hearlier rfl]
    rfl

/-- The predicate of a strip is that of its sides, with the connective between them. -/
theorem sql_join (left : Strip k) (l : Link) (right : Strip k) : (left.join l right).sql =
    spaced left.leave.sql (spaced l.connective.sql.toList right.enter.sql) := by
  have hleave : left.leave.sql = left.sql ++ [')'] := left.print_leave _ _
  have henter : right.enter.sql = '(' :: right.sql := right.print_enter _ _
  have hjoin : (left.join l right).sql = left.sql ++ (')' :: (l.sql ++ '(' :: right.sql)) :=
    left.print_join _ _ l right
  rw [hleave, henter, hjoin, Link.sql, l.connective_sql]
  simp [spaced]

/-- A strip is read, and rendered with its atoms and connectives and all its parentheses in their
places. -/
theorem reads (s : Strip k) :
    ∃ t, Tree.read s.source = .ok t ∧ Renders k t s.sql s.params := by
  induction hn : s.links using Nat.strongRecOn generalizing s with
  | ind n ih =>
    -- both parts of a strip that is split have fewer connectives, wherever the place is
    have hjoin : ∀ {κ left l right}, s.splitAt? κ = some (left, l, right) →
        (κ = .or → s.splitAt? .and = none) →
        ∃ t, Tree.read s.source = .ok t ∧ Renders k t s.sql s.params := by
      intro κ left l right hsplit hearlier
      obtain ⟨rfl, rfl⟩ := eq_join_of_splitAt? hsplit
      rw [links_join] at hn
      obtain ⟨t, ht, htrenders⟩ := ih _ (by rw [links_leave]; omega) left.leave rfl
      obtain ⟨u, hu, hurenders⟩ := ih _ (by rw [links_enter]; omega) right.enter rfl
      refine ⟨.join l.connective t u, ?_, ?_⟩
      · rw [read_join hsplit hearlier, ht, hu]
        rfl
      · have hrenders : Renders k (.join l.connective t u) _ _ := .join htrenders hurenders
        rw [← sql_join, params, params, atoms_leave, atoms_enter, ← List.flatMap_append,
          ← atoms_join left l right] at hrenders
        exact hrenders
    cases ha : s.splitAt? .and with
    | some found => exact hjoin ha fun h => nomatch h
    | none =>
      cases ho : s.splitAt? .or with
      | some found => exact hjoin ho fun _ => ha
      | none =>
        obtain ⟨leaf, rfl⟩ := exists_eq_last ha ho
        obtain ⟨t, hread, hrenders⟩ := leaf.reads
        refine ⟨t, hread, ?_⟩
        rw [params, atoms, List.flatMap_singleton]
        exact hrenders

end Strip

/-! ## Conditions as strips -/

mutual

/-- A condition as a strip. -/
def Condition.strip : Condition k → Strip k
  | .atom a => .last ⟨0, a, 0⟩
  | .operands os => os.strip.enter.leave

/-- Operands as a strip, without the first and the last parenthesis. -/
def Operands.strip : Operands k → Strip k
  | .one c => c.strip
  | .more c l os => c.strip.join l os.strip

end

section Print

variable (atom : Atom k → List Char) (link : Link → List Char)

mutual

/-- A condition and its strip are printed alike, in a filter and in a predicate. -/
theorem Condition.print_strip (c : Condition k) :
    c.strip.print atom link = c.print atom link := by
  cases c with
  | atom a =>
    rw [Condition.strip, Condition.print, Strip.print, Leaf.print]
    simp
  | operands os =>
    rw [Condition.strip, Condition.print, Strip.print_leave, Strip.print_enter]
    exact os.print_strip

theorem Operands.print_strip (os : Operands k) :
    '(' :: (os.strip.print atom link ++ [')']) = os.print atom link := by
  cases os with
  | one c => rw [Operands.strip, Operands.print, c.print_strip]
  | more c l os =>
    rw [Operands.strip, Operands.print, Strip.print_join, c.print_strip, ← os.print_strip]
    simp

end

end Print

mutual

/-- A condition and its strip have the same atoms. -/
theorem Condition.atoms_strip (c : Condition k) : c.strip.atoms = c.atoms := by
  cases c with
  | atom a => rfl
  | operands os =>
    rw [Condition.strip, Strip.atoms_leave, Strip.atoms_enter, Condition.atoms]
    exact os.atoms_strip

theorem Operands.atoms_strip (os : Operands k) : os.strip.atoms = os.atoms := by
  cases os with
  | one c =>
    rw [Operands.strip, Operands.atoms]
    exact c.atoms_strip
  | more c l os =>
    rw [Operands.strip, Operands.atoms, Strip.atoms_join, c.atoms_strip, os.atoms_strip]

end

/-- A condition is translated into the predicate with its connectives and all its parentheses in
their places, a placeholder for each of its texts, and the texts in the order of the
placeholders. -/
theorem Condition.translate_source (c : Condition k) :
    translate k (String.ofList c.source) = .ok (some ⟨String.ofList c.sql, c.params⟩) := by
  have hsource : c.strip.source = c.source := c.print_strip Atom.source Link.source
  have hsql : c.strip.sql = c.sql := c.print_strip Atom.sql Link.sql
  have hparams : c.strip.params = c.params := by rw [Strip.params, c.atoms_strip, params]
  obtain ⟨t, hread, hrenders⟩ := c.strip.reads
  have htext : Tree.ofText (String.ofList c.source) = .ok (some t) := by
    rw [ofText_eq_some_iff, String.toList_ofList, ← hsource, c.strip.trim_source]
    -- the text is not blank, since a strip starts with a leaf
    refine ⟨?_, hread⟩
    obtain ⟨leaf, cs, happend⟩ := c.strip.exists_source_eq_append
    obtain ⟨d, ds, hleaf, -⟩ := leaf.exists_source_eq_cons
    rw [happend, hleaf]
    exact List.cons_ne_nil _ _
  rw [translate, htext]
  simp only [hrenders.render_eq, hsql, hparams, Except.map]

/-- A table with one column, which holds texts. -/
def ownerContext : Context where
  columns := [Catalog.Column.ofType "OWNER" "VARCHAR(64)"]
  parser := Sql.Expression.parse

/-- The column by its name in lower case. -/
def owner : Field ownerContext where
  name := "owner".toList
  column := Catalog.Column.ofType "OWNER" "VARCHAR(64)"
  nonempty := by decide
  plain := by decide
  known := rfl
  unexpressed := rfl
  textual := by decide

/-- A conjunction within a disjunction, with parentheses within a literal and every kind of
wildcard. -/
def nestedCondition : Condition ownerContext :=
  .operands (.more
    (.operands (.more
      (.atom (.compare owner ⟨⟨"=", .equal, "=", "", ""⟩, by decide⟩ "it's) AND ("))
      ⟨.and, "&&", "AND", by decide⟩ (.one (.atom (.isIn owner "a" ["b"])))))
    ⟨.or, "OR", "OR", by decide⟩ (.more (.atom (.isNull owner))
    ⟨.or, "||", "OR", by decide⟩ (.more
      (.atom (.compare owner ⟨⟨"CONTAINS", .contains, "LIKE", "%", "%"⟩, by decide⟩ "c"))
    ⟨.or, "OR", "OR", by decide⟩ (.more
      (.atom (.compare owner ⟨⟨"STARTS WITH", .startsWith, "LIKE", "", "%"⟩, by decide⟩ "s"))
    ⟨.or, "OR", "OR", by decide⟩ (.one
      (.atom (.compare owner ⟨⟨"ENDS WITH", .endsWith, "LIKE", "%", ""⟩, by decide⟩ "e")))))))

theorem translate_nestedCondition : translate ownerContext
    ("((owner = 'it''s) AND (') && (owner IN ('a', 'b'))) OR (owner IS NULL) || " ++
      "(owner CONTAINS 'c') OR (owner STARTS WITH 's') OR (owner ENDS WITH 'e')") =
      .ok (some ⟨"((\"OWNER\" = ?) AND (\"OWNER\" IN (?, ?))) OR (\"OWNER\" IS NULL) OR " ++
        "(\"OWNER\" LIKE ?) OR (\"OWNER\" LIKE ?) OR (\"OWNER\" LIKE ?)",
        [.text "it's) AND (", .text "a", .text "b", .text "%c%", .text "s%", .text "%e"]⟩) := by
  have htranslate := nestedCondition.translate_source
  have hsource : String.ofList nestedCondition.source =
      "((owner = 'it''s) AND (') && (owner IN ('a', 'b'))) OR (owner IS NULL) || " ++
        "(owner CONTAINS 'c') OR (owner STARTS WITH 's') OR (owner ENDS WITH 'e')" := by
    decide +kernel
  have hsql : String.ofList nestedCondition.sql =
      "((\"OWNER\" = ?) AND (\"OWNER\" IN (?, ?))) OR (\"OWNER\" IS NULL) OR " ++
        "(\"OWNER\" LIKE ?) OR (\"OWNER\" LIKE ?) OR (\"OWNER\" LIKE ?)" := by
    decide +kernel
  rw [hsource, hsql] at htranslate
  exact htranslate

end Snowbridge.Filter
