import Snowbridge.Proofs.Filter.Atom
import Snowbridge.Proofs.Filter.Scan

/-!
# Leaves

An atom between runs of parentheses, which need not match. It is read as a comparison that keeps the
parentheses, or if they all come in pairs as a comparison within groups, and in both cases rendered
with its parentheses as they were (`Leaf.reads`).
-/

namespace Snowbridge.Filter

open Sql (OpenQuote)

variable {k : Context}

/-- A run of opening parentheses, an atom and a run of closing ones. -/
structure Leaf (k : Context) where
  opened : Nat
  atom : Atom k
  closed : Nat

namespace Leaf

/-- The text of a leaf, from the text of its atom. -/
def print (atom : Atom k → List Char) (l : Leaf k) : List Char :=
  List.replicate l.opened '(' ++ (atom l.atom ++ List.replicate l.closed ')')

/-- A leaf as a part of a filter. -/
def source (l : Leaf k) : List Char := l.print Atom.source

/-- A leaf with one more opening parenthesis. -/
def enter (l : Leaf k) : Leaf k := { l with opened := l.opened + 1 }

/-- A leaf with one more closing parenthesis. -/
def leave (l : Leaf k) : Leaf k := { l with closed := l.closed + 1 }

/-- One more parenthesis in front of a leaf. -/
theorem print_enter (atom : Atom k → List Char) (l : Leaf k) :
    l.enter.print atom = '(' :: l.print atom := rfl

/-- One more parenthesis behind a leaf. -/
theorem print_leave (atom : Atom k → List Char) (l : Leaf k) :
    l.leave.print atom = l.print atom ++ [')'] := by
  simp [leave, print, List.replicate_succ']

/-! ## Scans -/

/-- A leaf without the parentheses at its end. -/
def front (l : Leaf k) : List Char := List.replicate l.opened '(' ++ l.atom.core

/-- The text of a leaf up to its atom, and all the parentheses that close at its end. -/
theorem source_eq (l : Leaf k) :
    l.source = l.front ++ List.replicate (l.closed + l.atom.extra) ')' := by
  rw [source, print, l.atom.source_eq, front, Nat.add_comm, List.replicate_add]
  simp only [List.append_assoc]

theorem unquoted_openings (n : Nat) : Sql.Unquoted (List.replicate n '(') := fun c hc => by
  rw [List.eq_of_mem_replicate hc]
  rfl

/-- Behind the front of a leaf no quote is open. -/
theorem after_front (l : Leaf k) : OpenQuote.after none l.front = none := by
  rw [front, OpenQuote.after_append, (unquoted_openings l.opened).after]
  exact l.atom.after_core

/-- The parentheses at the start of a leaf stand outside every run. -/
theorem outsideChars_front (l : Leaf k) : Sql.outsideChars none l.front =
    List.replicate l.opened '(' ++ Sql.outsideChars none l.atom.core := by
  have hopenings := unquoted_openings l.opened
  rw [front, Sql.outsideChars_append, hopenings.outsideChars, hopenings.after]

/-- No parenthesis closes before the end of a leaf. -/
theorem forall_outsideChars_front (l : Leaf k) :
    ∀ c ∈ Sql.outsideChars none l.front, c ≠ ')' := by
  intro c hc
  rw [outsideChars_front] at hc
  rcases List.mem_append.1 hc with hc | hc
  · rw [List.eq_of_mem_replicate hc]
    decide
  · exact ne_of_mem_of_not_mem hc l.atom.not_mem_outsideChars_core

/-- The parentheses that a leaf opens are those at its start and the one of a list. -/
theorem count_outsideChars_front (l : Leaf k) :
    (Sql.outsideChars none l.front).count '(' = l.opened + l.atom.extra := by
  rw [outsideChars_front, List.count_append, List.count_replicate_self,
    l.atom.count_outsideChars_core]

/-- A leaf holds no connective. -/
theorem splitAtConnective?_source (κ : Connective) (l : Leaf k) :
    splitAtConnective? κ none l.source = none := by
  rw [source_eq, splitAtConnective?_append l.forall_outsideChars_front, after_front]
  -- a connective may stand only behind a closing parenthesis, and nothing follows the last one
  cases l.closed + l.atom.extra with
  | zero => rfl
  | succ n =>
    have hclosings := splitAtConnective?_closings (k := κ) n []
    rw [List.append_nil, afterConnective?_nil] at hclosings
    rw [hclosings]
    rfl

/-- After a leaf that closes a parenthesis a connective may stand at once. -/
theorem splitAtConnective?_leave (κ : Connective) (l : Leaf k) (ys : List Char) :
    splitAtConnective? κ none (l.leave.source ++ ys) =
      match afterConnective? κ ys with
      | some right => some (l.leave.source, right)
      | none => (splitAtConnective? κ none ys).map fun (left, right) =>
          (l.leave.source ++ left, right) := by
  have hclosed : l.leave.closed + l.leave.atom.extra = l.closed + l.atom.extra + 1 :=
    Nat.add_right_comm _ _ _
  rw [source_eq, hclosed, List.append_assoc,
    splitAtConnective?_append l.leave.forall_outsideChars_front, after_front,
    splitAtConnective?_closings]
  cases afterConnective? κ ys with
  | some right => rfl
  | none => simp [Option.map_map, Function.comp_def]

/-- The parenthesis that a leaf starts with closes at its end if as many close as open. -/
theorem closesAtEnd_source {l : Leaf k} (h : 0 < l.opened) :
    closesAtEnd none 0 l.source = decide (l.closed = l.opened) := by
  have hdepth : (0 : Int) + (l.opened + l.atom.extra : Nat) =
      (l.opened - 1 + l.atom.extra + 1 : Nat) := by omega
  rw [source_eq, closesAtEnd_append l.forall_outsideChars_front, after_front,
    count_outsideChars_front, hdepth, closesAtEnd_closings, decide_eq_decide]
  omega

/-- A leaf starts with a parenthesis or a name. -/
theorem exists_source_eq_cons (l : Leaf k) : ∃ c cs, l.source = c :: cs ∧
    Text.isBlank c = false ∧ (l.opened = 0 → c ≠ '(') := by
  obtain ⟨c, cs, hcore, hc⟩ := l.atom.exists_core_eq_cons
  rw [source_eq, front]
  cases l.opened with
  | zero =>
    rw [hcore]
    exact ⟨c, _, rfl, hc.1, fun _ => (ne_of_mem_of_not_mem List.mem_cons_self hc.2.2).symm⟩
  | succ n => exact ⟨'(', _, rfl, by decide, fun h => nomatch h⟩

/-- A leaf does not end with a blank. -/
theorem exists_source_eq_concat (l : Leaf k) : ∃ cs c, l.source = cs ++ [c] ∧
    Text.isBlank c = false := by
  obtain ⟨cs, c, hcore, hc, -⟩ := l.atom.exists_core_eq_concat
  rw [source_eq, front]
  cases l.closed + l.atom.extra with
  | zero =>
    refine ⟨List.replicate l.opened '(' ++ cs, c, ?_, hc⟩
    rw [hcore, List.replicate_zero, List.append_nil, List.append_assoc]
  | succ n =>
    rw [List.replicate_succ', ← List.append_assoc]
    exact ⟨_, ')', rfl, by decide⟩

/-- A leaf between two parentheses is a group if as many parentheses close in it as open. -/
theorem insideGroup?_source_of_eq {l : Leaf k} (h : l.closed = l.opened) :
    insideGroup? l.enter.leave.source = some l.source := by
  have hcloses : closesAtEnd none 0 l.enter.leave.source = true := by
    rw [closesAtEnd_source (Nat.succ_pos l.opened), decide_eq_true_eq]
    exact congrArg Nat.succ h
  have hsource : l.enter.leave.source = '(' :: (l.source ++ [')']) := print_leave _ l.enter
  rw [hsource] at hcloses ⊢
  have hlast : (l.source ++ [')']).getLast? = some ')' := List.getLast?_concat
  rw [insideGroup?, hlast, hcloses, List.dropLast_concat]
  rfl

/-- Else a leaf is no group. -/
theorem insideGroup?_source_of_ne {l : Leaf k} (h : 0 < l.opened → l.closed ≠ l.opened) :
    insideGroup? l.source = none := by
  obtain ⟨c, cs, hsource, -, hstart⟩ := l.exists_source_eq_cons
  unfold insideGroup?
  split
  -- a leaf that starts with a parenthesis does not close it at its end
  · next r hr =>
    have hopened : 0 < l.opened := by
      refine Nat.pos_of_ne_zero fun hzero => hstart hzero ?_
      rw [hsource] at hr
      exact (List.cons.inj hr).1
    have hcloses := closesAtEnd_source hopened
    rw [hr, decide_eq_false (h hopened)] at hcloses
    rw [hcloses, Bool.and_false]
    rfl
  · rfl

/-! ## Readings -/

/-- A word of negation does not start a leaf. -/
theorem afterNot?_source_append (l : Leaf k) (cs : List Char) :
    afterNot? (l.source ++ cs) = none := by
  obtain ⟨opened, a, closed⟩ := l
  cases opened with
  | zero =>
    obtain ⟨c, sign, hsign, hblank, hc⟩ := a.exists_middle_eq_cons
    rw [source_eq, front, Atom.core, hsign]
    simp only [List.replicate_zero, List.nil_append, List.append_assoc, List.cons_append]
    exact afterWord?_name (by decide) a.field.isWordChar hblank hc
  | succ n => rfl

/-- A leaf is no negation. -/
theorem afterNot?_source (l : Leaf k) : afterNot? l.source = none := by
  have hnot := l.afterNot?_source_append []
  rwa [List.append_nil] at hnot

/-- A leaf has no blanks at its ends. -/
theorem trim_source (l : Leaf k) : Text.trim l.source = l.source := by
  obtain ⟨c, cs, hstart, hc, -⟩ := l.exists_source_eq_cons
  obtain ⟨ds, d, hend, hd⟩ := l.exists_source_eq_concat
  exact Text.trim_eq_self_of_ends hstart hend hc hd

/-- A leaf that is no group is read as a comparison with all its parentheses. -/
theorem read_source_of_ne {l : Leaf k} (h : 0 < l.opened → l.closed ≠ l.opened) :
    Tree.read l.source = .ok (.compare (l.atom.comparison l.opened l.closed)) := by
  have hcomparison := l.atom.readComparison_eq l.opened l.closed
  rw [← List.append_assoc, ← front, ← source_eq] at hcomparison
  rw [read_compare, l.trim_source, hcomparison]
  · rfl
  · rw [l.trim_source, l.afterNot?_source]
  · rw [l.trim_source, l.splitAtConnective?_source]
  · rw [l.trim_source, l.splitAtConnective?_source]
  · rw [l.trim_source, insideGroup?_source_of_ne h]

/-- A leaf that is a group is read as what stands inside it. -/
theorem read_source_of_eq {l : Leaf k} (h : l.closed = l.opened) :
    Tree.read l.enter.leave.source = (Tree.read l.source).map .group := by
  have htrim := l.enter.leave.trim_source
  apply read_group
  · rw [htrim, afterNot?_source]
  · rw [htrim, splitAtConnective?_source]
  · rw [htrim, splitAtConnective?_source]
  · rw [htrim, insideGroup?_source_of_eq h]

/-- A leaf is read as its atom, in as many groups as it has pairs of parentheses if they all come in
pairs. -/
theorem reads (l : Leaf k) :
    ∃ t, Tree.read l.source = .ok t ∧ Renders k t (l.print Atom.sql) l.atom.params := by
  -- pairs of parentheses are groups, and any other run stays with the comparison
  by_cases h : l.closed = l.opened
  · obtain ⟨n, a, n'⟩ := l
    obtain rfl : n' = n := h
    -- each pair of parentheses around the atom makes one group
    induction n' with
    | zero => exact ⟨_, read_source_of_ne fun h => absurd h (Nat.lt_irrefl 0), a.renders 0 0⟩
    | succ n ih =>
      obtain ⟨t, hread, hrenders⟩ := ih
      refine ⟨.group t, ?_, ?_⟩
      · have hgroup := read_source_of_eq (l := ⟨n, a, n⟩) rfl
        rw [hread] at hgroup
        exact hgroup
      · have hgroup := Renders.group hrenders
        rw [← List.cons_append, ← print_enter, ← print_leave] at hgroup
        exact hgroup
  · exact ⟨_, read_source_of_ne fun _ => h, l.atom.renders l.opened l.closed⟩

end Leaf

end Snowbridge.Filter
