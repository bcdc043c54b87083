import Snowbridge.Proofs.Filter.Render
import Snowbridge.Proofs.Filter.Split
import Snowbridge.Proofs.Filter.Tree
import Snowbridge.Sql.Expression

/-!
# Parentheses of filters and predicates

A predicate stands in parentheses next to other conditions, so its own parentheses have to match.
They come from two places: what the tree of a filter encloses, which always matches, and the
parentheses at the ends of its comparisons, which are kept as they are in the filter's text. So a
predicate leaves over what the tree does (`leavesOver_render`), and the tree what the text does, as
long as each comparison keeps the parentheses of its text (`Reads.unmatched`).
-/

namespace Snowbridge.Filter

open Catalog (Column)
open Sql (LeavesOver Unmatched)

/-! ## Trees -/

/-- The parentheses that a comparison keeps at its ends. -/
def Comparison.unmatched (c : Comparison) : Unmatched := .opens c.opened + .closes c.closed

/-- What the parentheses of a tree leave over. -/
def Tree.unmatched : Tree → Unmatched
  | .compare c => c.unmatched
  | .group inner => inner.unmatched.enclosed
  | .join _ left right => left.unmatched + right.unmatched
  | .not inner =>
    match inner with
    | .group _ => inner.unmatched
    | _ => inner.unmatched.enclosed

/-! ## Predicates -/

/-- A blank between two texts changes nothing of what they leave over. -/
theorem leavesOver_spaced {xs ys : List Char} {u v : Unmatched} (hx : LeavesOver xs u)
    (hy : LeavesOver ys v) : LeavesOver (spaced xs ys) (u + v) := by
  have hblank : LeavesOver [' '] 0 := LeavesOver.plain (by decide)
  have hall := hx.append (hblank.append hy)
  simpa [spaced] using hall

/-- The words of an operator leave nothing over. -/
theorem leavesOver_operator (o : Operator) : LeavesOver o.sql.toList 0 := by
  apply LeavesOver.plain
  cases o <;> decide

/-- The word of a connective leaves nothing over. -/
theorem leavesOver_connective (k : Connective) : LeavesOver k.sql.toList 0 := by
  apply LeavesOver.plain
  cases k <;> decide

/-- The word of negation leaves nothing over. -/
theorem leavesOver_not {cs : List Char} {u : Unmatched} (h : LeavesOver cs u) :
    LeavesOver (spaced "NOT".toList cs) u := by
  have hword : LeavesOver "NOT".toList 0 := LeavesOver.plain (by decide)
  have hall := leavesOver_spaced hword h
  rwa [zero_add] at hall

/-- What stands for an operand matches its own parentheses. -/
theorem RendersOperand.leavesOver {k : Context} {c : Column} {o : Operator} {operand : Operand}
    {text : List Char} {params : List Value}
    (h : RendersOperand k c o operand (some text) params) : LeavesOver text 0 := by
  cases h with
  | scalar _ => exact LeavesOver.plain (by decide)
  | list _ => exact (LeavesOver.placeholders _).enclose

/-- A clause matches its own parentheses if what stands for its column and its operand do. -/
theorem leavesOver_clause (negated : Bool) (o : Operator) {target : List Char}
    {operand : Option (List Char)} (ht : LeavesOver target 0)
    (ho : ∀ text, operand = some text → LeavesOver text 0) :
    LeavesOver (renderClause negated o target operand) 0 := by
  have hop := leavesOver_operator o
  cases operand with
  | none =>
    have hclause := leavesOver_spaced ht hop
    simp only [renderClause]
    split
    · exact leavesOver_not hclause.enclose
    · exact hclause
  | some text =>
    -- the word of negation stands behind the target, in front of the whole or nowhere
    have hvalue := leavesOver_spaced hop (ho text rfl)
    simp only [renderClause]
    split
    · exact leavesOver_spaced ht (leavesOver_not hvalue)
    · split
      · exact leavesOver_not (leavesOver_spaced ht hvalue).enclose
      · exact leavesOver_spaced ht hvalue

/-- A predicate with a derivation leaves over what its tree does. -/
theorem Renders.leavesOver {k : Context} (hk : ∀ c ∈ k.columns, c.filterExpression = none)
    {t : Tree} {sql : List Char} {params : List Value} (h : Renders k t sql params) :
    LeavesOver sql t.unmatched := by
  induction h with
  | @compare c column text operand params hcolumn htarget hoperand =>
    have hnone : column.filterExpression = none := hk column (List.mem_of_find?_eq_some hcolumn)
    have htext : (Sql.quoteIdentifier column.name).toList = text := by
      simpa [Context.target, hnone] using htarget
    have hvalue : ∀ value, operand = some value → LeavesOver value 0 := by
      rintro value rfl
      exact hoperand.leavesOver
    have hclause := leavesOver_clause c.negated c.operator
      (LeavesOver.quoteIdentifier column.name) hvalue
    rw [htext] at hclause
    have hall := (LeavesOver.opening c.opened).append
      (hclause.append (LeavesOver.closing c.closed))
    simpa [Tree.unmatched, Comparison.unmatched] using hall
  | group _ ih => exact ih.enclose
  | @join connective _ _ _ _ _ _ _ _ ihl ihr =>
    have hright := leavesOver_spaced (leavesOver_connective connective) ihr
    have hall := leavesOver_spaced ihl hright
    rwa [zero_add] at hall
  | notGroup _ ih => exact leavesOver_not ih
  | @not inner _ _ hinner _ ih =>
    have hall := leavesOver_not ih.enclose
    -- only a group stands in parentheses of its own already
    cases inner with
    | group t => exact absurd rfl (hinner t)
    | compare _ => exact hall
    | join _ _ _ => exact hall
    | not _ => exact hall

/-- A predicate leaves over what its tree does. -/
theorem leavesOver_render {k : Context} (hk : ∀ c ∈ k.columns, c.filterExpression = none)
    {t : Tree} {sql : List Char} {params : List Value} (h : render k t = .ok (sql, params)) :
    LeavesOver sql t.unmatched :=
  (renders_of_render h).leavesOver hk

/-! ## Comparisons -/

/-- A comparison keeps the parentheses of its text: those at its ends are all that the text leaves
over. -/
def KeepsParentheses (cs : List Char) (c : Comparison) : Prop := c.unmatched = Sql.unmatched cs

/-- What stands between the parentheses at the ends of a text, and how many close there. -/
def splitEnds (cs : List Char) : List Char × Nat := splitTrailing ')' (cs.dropWhile (· == '('))

/-- A run of one character is told by its length. -/
theorem takeWhile_eq_replicate (c : Char) (cs : List Char) :
    cs.takeWhile (· == c) = List.replicate (cs.takeWhile (· == c)).length c := by
  refine List.eq_replicate_iff.2 ⟨rfl, fun d hd => ?_⟩
  exact eq_of_beq (List.all_eq_true.1 List.all_takeWhile d hd)

/-- A run at the end of a text is part of it. -/
theorem splitTrailing_append (c : Char) (cs : List Char) :
    (splitTrailing c cs).1 ++ List.replicate (splitTrailing c cs).2 c = cs := by
  -- the run at the end is the run at the head of the reversed text
  have hrun := takeWhile_eq_replicate c cs.reverse
  have hcs : cs.reverse.takeWhile (· == c) ++ cs.reverse.dropWhile (· == c) = cs.reverse :=
    List.takeWhile_append_dropWhile
  unfold splitTrailing
  dsimp only
  rw [← List.reverse_replicate, ← hrun, ← List.reverse_append, hcs, List.reverse_reverse]

/-! ## Filters -/

/-- Blanks at the ends of a text leave nothing over. -/
theorem unmatched_trim (cs : List Char) : Sql.unmatched (Text.trim cs) = Sql.unmatched cs := by
  obtain ⟨xs, ys, hcs, hx, hy⟩ := Text.exists_blanks_trim cs
  have hall : Sql.unmatched cs = Sql.unmatched (xs ++ (Text.trim cs ++ ys)) :=
    congrArg Sql.unmatched hcs
  rw [hall, (plain_of_isBlank hx).unmatched_append, (plain_of_isBlank hy).append_unmatched]

/-- What is taken off the head of a text as an opening leaves nothing over. -/
theorem Opening.unmatched {cs rest : List Char} (h : Opening cs rest) :
    Sql.unmatched cs = Sql.unmatched rest := by
  obtain ⟨before, rfl, hplain⟩ := h.text
  exact hplain.unmatched_append rest

/-- A cut leaves over what its two sides do, since it stands outside every run. -/
theorem Cut.unmatched {cs left right : List Char} (h : Cut none cs left right) :
    Sql.unmatched cs = Sql.unmatched left + Sql.unmatched right := by
  obtain ⟨between, rfl, hplain⟩ := h.text
  rw [Sql.unmatched_append h.closed, hplain.unmatched_append]

/-- What leaves nothing over may be negated. -/
theorem unmatched_not {inner : Tree} (h : inner.unmatched = 0) :
    (Tree.not inner).unmatched = 0 := by
  have henclosed : inner.unmatched.enclosed = 0 := by rw [h, Unmatched.enclosed_zero]
  cases inner with
  | group _ => exact h
  | compare _ => exact henclosed
  | join _ _ _ => exact henclosed
  | not _ => exact henclosed

/-- Both parts of a cut keep their parentheses, so the whole does. -/
theorem unmatched_join {cs left right : List Char} {l r : Tree} {k : Connective}
    (h : Cut none (Text.trim cs) left right) (hn : afterNot? (Text.trim cs) = none)
    (hl : afterNot? (Text.trim left) = none → l.unmatched = Sql.unmatched left)
    (hr : afterNot? (Text.trim right) = none → r.unmatched = Sql.unmatched right) :
    (Tree.join k l r).unmatched = Sql.unmatched cs := by
  rw [Tree.unmatched, hl (h.afterNot?_left hn), hr h.afterNot?_right, ← h.unmatched,
    unmatched_trim]

/-- If its comparisons keep their parentheses, then a filter that starts with no negation leaves
over what its text does. A negation puts what follows between parentheses of its own, so with one
this holds only of a text that leaves nothing over. -/
theorem Reads.unmatched {cs : List Char} {t : Tree} (h : Reads KeepsParentheses cs t) :
    (afterNot? (Text.trim cs) = none → t.unmatched = Sql.unmatched cs) ∧
      (Sql.unmatched cs = 0 → t.unmatched = 0) := by
  -- both parts go through the induction together: the parts of a cut have no negation in front and
  -- may leave something over, while what is negated or grouped leaves nothing over
  induction h with
  | @not cs rest inner hn _ ih =>
    refine ⟨fun h => by simp [hn] at h, fun hcs => ?_⟩
    have hrest : Sql.unmatched rest = 0 := by
      rw [← (opening_of_afterNot? hn).unmatched, unmatched_trim, hcs]
    exact unmatched_not (ih.2 hrest)
  | and hn ha _ _ ihl ihr =>
    have hjoin := unmatched_join (k := .and) (cut_of_splitAtConnective? ha) hn ihl.1 ihr.1
    exact ⟨fun _ => hjoin, fun hcs => hjoin.trans hcs⟩
  | or hn _ ho _ _ ihl ihr =>
    have hjoin := unmatched_join (k := .or) (cut_of_splitAtConnective? ho) hn ihl.1 ihr.1
    exact ⟨fun _ => hjoin, fun hcs => hjoin.trans hcs⟩
  | @group cs inside inner _ _ _ hg _ ih =>
    obtain ⟨hinside, htext⟩ := leavesOver_of_insideGroup? hg
    have hcs : Sql.unmatched cs = 0 := by
      rw [← unmatched_trim, htext, hinside.enclose.leftover, Sql.Unmatched.enclosed_zero]
    have hgroup : (Tree.group inner).unmatched = 0 := by
      rw [Tree.unmatched, ih.2 hinside.leftover, Sql.Unmatched.enclosed_zero]
    exact ⟨fun _ => hgroup.trans hcs.symm, fun _ => hgroup⟩
  | @compare cs c _ _ _ _ _ hp =>
    have hkeeps : c.unmatched = Sql.unmatched cs := by rw [hp, unmatched_trim]
    exact ⟨fun _ => hkeeps, fun hcs => hkeeps.trans hcs⟩

/-- A filter with a derivation becomes what its tree is rendered as. -/
theorem translate_of_reads {P : List Char → Comparison → Prop} {k : Context} {filter : String}
    {t : Tree} (hne : Text.trim filter.toList ≠ []) (h : Reads P (Text.trim filter.toList) t) :
    translate k filter =
      (render k t).map fun (sql, params) => some ⟨String.ofList sql, params⟩ := by
  have htext := ofText_eq_some_iff.2 ⟨hne, h.read_eq⟩
  rw [translate, htext]

/-- Without expressions of columns, the predicate of a filter is balanced exactly if the tree of the
filter leaves nothing over. It does so if the text of the filter is balanced and every comparison in
it keeps its parentheses. -/
theorem balanced_translate {k : Context} (hk : ∀ c ∈ k.columns, c.filterExpression = none)
    {filter : String} {p : Predicate} (h : translate k filter = .ok (some p)) :
    (Sql.Balanced p.sql.toList ↔
      ∃ t, Tree.ofText filter = .ok (some t) ∧ t.unmatched = 0) ∧
    ((∃ t, Reads KeepsParentheses (Text.trim filter.toList) t) → Sql.Balanced filter.toList →
      Sql.Balanced p.sql.toList) := by
  unfold translate at h
  cases ht : Tree.ofText filter with
  | error e => simp [ht] at h
  | ok found =>
    cases found with
    | none => simp [ht] at h
    | some tree =>
      cases hr : render k tree with
      | error e => simp [ht, hr, Except.map] at h
      | ok fragment =>
        obtain ⟨sql, params⟩ := fragment
        simp only [ht, hr, Except.map, Except.ok.injEq, Option.some.injEq] at h
        have hsql : p.sql.toList = sql := by rw [← h, String.toList_ofList]
        -- the predicate leaves over what the tree does
        have hiff : Sql.Balanced p.sql.toList ↔ tree.unmatched = 0 := by
          rw [Sql.balanced_iff, hsql, (leavesOver_render hk hr).leftover]
        refine ⟨?_, ?_⟩
        · rw [hiff]
          constructor
          · intro hzero
            exact ⟨tree, rfl, hzero⟩
          · rintro ⟨t, heq, hzero⟩
            simp only [Except.ok.injEq, Option.some.injEq] at heq
            rw [heq, hzero]
        · rintro ⟨t, hreads⟩ hbalanced
          -- the derivation is one of the tree that was read
          have hread := (ofText_eq_some_iff.1 ht).2
          rw [hreads.read_eq, Except.ok.injEq] at hread
          rw [hiff, ← hread]
          apply hreads.unmatched.2
          rw [unmatched_trim]
          exact (Sql.balanced_iff _).1 hbalanced

/-- A table with one column, which has no expression. -/
def idContext : Context where
  columns := [Column.ofType "ID" "NUMBER(38,0)"]
  parser := Sql.Expression.parse

theorem filterExpression_idContext : ∀ c ∈ idContext.columns, c.filterExpression = none := by
  intro c hc
  rw [List.mem_singleton.1 hc]
  rfl

/-- The comparison of the column with a number. -/
def idComparison (opened closed : Nat) (number : String) : Comparison :=
  ⟨opened, closed, "ID", false, .equal, .scalar number⟩

/-- The tree of `(ID = 1) OR (ID = 2)`, whose comparisons have no parentheses left. -/
theorem reads_groups : Reads KeepsParentheses "(ID = 1) OR (ID = 2)".toList
    (.join .or (.group (.compare (idComparison 0 0 "1")))
      (.group (.compare (idComparison 0 0 "2")))) := by
  have hcut : splitAtConnective? .or none (Text.trim "(ID = 1) OR (ID = 2)".toList) =
      some ("(ID = 1)".toList, "(ID = 2)".toList) := by decide
  have hleft : insideGroup? (Text.trim "(ID = 1)".toList) = some "ID = 1".toList := by decide
  have hright : insideGroup? (Text.trim "(ID = 2)".toList) = some "ID = 2".toList := by decide
  refine .or (by decide) (by decide) hcut ?_ ?_
  · refine .group (by decide) (by decide) (by decide) hleft ?_
    exact .compare (by decide) (by decide) (by decide) (by decide) rfl rfl
  · refine .group (by decide) (by decide) (by decide) hright ?_
    exact .compare (by decide) (by decide) (by decide) (by decide) rfl rfl

/-- The predicate of that filter. -/
theorem translate_groups : translate idContext "(ID = 1) OR (ID = 2)" =
    .ok (some ⟨"(\"ID\" = ?) OR (\"ID\" = ?)", [.int 1, .int 2]⟩) := by
  rw [translate_of_reads (by decide) reads_groups]
  rfl

/-- Groups on both sides of a connective stay groups. -/
theorem balanced_translate_groups : Sql.Balanced "(\"ID\" = ?) OR (\"ID\" = ?)".toList :=
  (balanced_translate filterExpression_idContext translate_groups).2 ⟨_, reads_groups⟩
    ((Sql.balanced_iff _).2 (by decide))

/-- A filter whose parentheses cross a connective. -/
theorem reads_crossing : Reads KeepsParentheses "ID = 1) OR (ID = 2".toList
    (.join .or (.compare (idComparison 0 1 "1")) (.compare (idComparison 1 0 "2"))) := by
  have hcut : splitAtConnective? .or none (Text.trim "ID = 1) OR (ID = 2".toList) =
      some ("ID = 1)".toList, "(ID = 2".toList) := by decide
  refine .or (by decide) (by decide) hcut ?_ ?_
  · exact .compare (by decide) (by decide) (by decide) (by decide) rfl rfl
  · exact .compare (by decide) (by decide) (by decide) (by decide) rfl rfl

/-- The predicate of that filter has the parentheses in the places of the text. -/
theorem translate_crossing : translate idContext "ID = 1) OR (ID = 2" =
    .ok (some ⟨"\"ID\" = ?) OR (\"ID\" = ?", [.int 1, .int 2]⟩) := by
  rw [translate_of_reads (by decide) reads_crossing]
  rfl

/-- Parentheses that cross a connective are translated as they are: the predicate closes one that
it has not opened. -/
theorem exists_unbalanced_translate : ¬∀ k : Context, (∀ c ∈ k.columns, c.filterExpression = none) →
    ∀ (filter : String) (p : Predicate), translate k filter = .ok (some p) →
      Sql.Balanced p.sql.toList := by
  intro hall
  have hbalanced := hall _ filterExpression_idContext _ _ translate_crossing
  rw [Sql.balanced_iff] at hbalanced
  revert hbalanced
  decide

end Snowbridge.Filter
