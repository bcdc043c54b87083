import Mathlib.Algebra.Order.BigOperators.Group.List
import Mathlib.Algebra.Order.Group.Nat
import Snowbridge.Proofs.Filter.Parenthesis
import Snowbridge.Proofs.Filter.Phrase
import Snowbridge.Proofs.Filter.Precedence
import Snowbridge.Sql.Expression

/-!
# What predicates say

A predicate is a row of phrases, one for each comparison, group and negation, with the connectives
of the tree between them (`Renders.exists_phrased`). SQL reads it by precedence, and its atoms are
the comparisons of the tree. So the predicate says what the tree says, whichever comparisons hold,
exactly if no conjunction of the tree has a disjunction as one of its parts. The expression of a
column is read with the rest as it is written, so it has to stand on its own (`StandsAlone`).
-/

namespace Snowbridge.Filter

open Catalog (Column)
open Sql (Lexes Token)

variable {k : Context} {d : Sql.Dialect} {t : Tree}

/-! ## Clauses -/

/-- The word of negation in front of a text is one more token. -/
theorem lexes_not {cs : List Char} {ts : List Token} (h : Lexes d cs ts) :
    Lexes d (spaced "NOT".toList cs) (.word "NOT" :: ts) :=
  (Lexes.keyword (by decide)).spaced h

/-- A connective is one token. -/
theorem lexes_connective (κ : Connective) : Lexes d κ.sql.toList [κ.token] := by
  cases κ
  · exact Lexes.keyword (by decide)
  · exact Lexes.keyword (by decide)

/-- The spelling of an operator is a phrase. -/
theorem exists_lexes_operator (d : Sql.Dialect) (o : Operator) :
    ∃ ts, Lexes d o.sql.toList ts ∧ IsPhrase ts ∧ ts ≠ [] := by
  have hnull : Lexes d "IS NULL".toList [.word "IS", .word "NULL"] :=
    (Lexes.keyword (w := "IS") (by decide)).spaced (Lexes.keyword (w := "NULL") (by decide))
  have hnotNull : Lexes d "IS NOT NULL".toList [.word "IS", .word "NOT", .word "NULL"] :=
    (Lexes.keyword (w := "IS") (by decide)).spaced
      (lexes_not (Lexes.keyword (w := "NULL") (by decide)))
  cases o with
  | isNull => exact ⟨_, hnull, by decide, by decide⟩
  | isNotNull => exact ⟨_, hnotNull, by decide, by decide⟩
  | isIn => exact ⟨_, Lexes.keyword (by decide), by decide, by decide⟩
  | like => exact ⟨_, Lexes.keyword (by decide), by decide, by decide⟩
  | ilike => exact ⟨_, Lexes.keyword (by decide), by decide, by decide⟩
  | contains => exact ⟨_, Lexes.keyword (by decide), by decide, by decide⟩
  | startsWith => exact ⟨_, Lexes.keyword (by decide), by decide, by decide⟩
  | endsWith => exact ⟨_, Lexes.keyword (by decide), by decide, by decide⟩
  | _ => exact ⟨_, Lexes.comparisonSign (by decide), by decide, by decide⟩

/-- The tokens of a list of placeholders close all that they open, which is nothing. -/
theorem exists_lexes_placeholders (d : Sql.Dialect) (n : Nat) :
    ∃ ts, Lexes d (Sql.placeholders n).toList ts ∧ Matched ts := by
  have hmark : ∀ {cs : List Char} {ts : List Token}, Lexes d cs ts →
      Lexes d ('?' :: cs) (.placeholder "?" :: ts) := by
    intro cs ts h
    cases d
    · exact .token rfl rfl rfl (fun _ => rfl) h
    · exact .token rfl rfl rfl (fun _ => rfl) h
  have hcomma : ∀ {cs : List Char} {ts : List Token}, Lexes d cs ts →
      Lexes d (',' :: ' ' :: cs) (.sign "," :: ts) := by
    intro cs ts h
    cases d
    · exact .token rfl rfl rfl (fun _ => rfl) (.blank rfl h)
    · exact .token rfl rfl rfl (fun _ => rfl) (.blank rfl h)
  rw [Sql.placeholders, String.toList_intercalate, List.map_replicate]
  -- a placeholder, and a comma with a blank before each further one
  induction n with
  | zero => exact ⟨[], .nil, rfl⟩
  | succ n ih =>
    cases n with
    | zero => exact ⟨[.placeholder "?"], hmark .nil, rfl⟩
    | succ n =>
      obtain ⟨ts, hlexes, hmatched⟩ := ih
      rw [List.replicate_succ, List.replicate_succ, List.intercalate_cons_cons,
        ← List.replicate_succ]
      exact ⟨_, hmark (hcomma hlexes), hmatched⟩

/-- What stands for an operand is a phrase. -/
theorem RendersOperand.exists_lexes {c : Column} {o : Operator} {operand : Operand}
    {text : List Char} {params : List Value}
    (h : RendersOperand k c o operand (some text) params) :
    ∃ ts, Lexes d text ts ∧ IsPhrase ts := by
  cases h with
  | scalar _ =>
    refine ⟨[.placeholder "?"], ?_, by decide⟩
    cases d
    · exact .one rfl rfl rfl fun _ => rfl
    · exact .one rfl rfl rfl fun _ => rfl
  | @list items _ _ =>
    obtain ⟨ts, hlexes, hmatched⟩ := exists_lexes_placeholders d items.length
    exact ⟨_, hlexes.enclose, hmatched.enclose⟩

/-! ## Expressions -/

/-- An expression whose text is complete: it ends outside comments and closes what it opens. -/
def IsComplete (d : Sql.Dialect) (text : List Char) : Prop :=
  ∃ ts, Lexes d text ts ∧ Matched ts ∧ ts ≠ []

/-- An expression that stands on its own in front of an operator: moreover no connective stands
outside its brackets, choices and ranges, and no word of negation in front. -/
def StandsAlone (d : Sql.Dialect) (text : List Char) : Prop :=
  ∃ ts, Lexes d text ts ∧ IsPhrase ts ∧ ts ≠ [] ∧ negated? ts = none

/-- The name of a column stands on its own. -/
theorem standsAlone_quoteIdentifier (name : String) :
    StandsAlone d (Sql.quoteIdentifier name).toList :=
  ⟨_, Lexes.quoteIdentifier name, rfl, List.cons_ne_nil _ _, rfl⟩

/-- What stands on its own is complete. -/
theorem StandsAlone.isComplete {text : List Char} (h : StandsAlone d text) : IsComplete d text := by
  obtain ⟨ts, hlexes, hphrase, hne, -⟩ := h
  exact ⟨ts, hlexes, hphrase.matched, hne⟩

/-- Whether a text stands on its own is told by its tokens, since it has one row of them. -/
theorem standsAlone_iff {text : List Char} {ts : List Token} (hlexes : Lexes d text ts)
    (hne : ts ≠ []) : StandsAlone d text ↔ IsPhrase ts ∧ negated? ts = none := by
  constructor
  · rintro ⟨us, hus, hphrase, -, hnot⟩
    obtain rfl := hlexes.unique hus
    exact ⟨hphrase, hnot⟩
  · rintro ⟨hphrase, hnot⟩
    exact ⟨ts, hlexes, hphrase, hne, hnot⟩

/-- The expressions of all columns are complete. -/
def Context.Complete (k : Context) : Prop :=
  ∀ c ∈ k.columns, ∀ e, c.filterExpression = some e → IsComplete k.dialect e.toList

/-- The expression of the column that a comparison names, if it has one, stands on its own. -/
def Context.StandsAlone (k : Context) (c : Comparison) : Prop :=
  ∀ column e, k.column? c.field = some column → column.filterExpression = some e →
    Filter.StandsAlone k.dialect e.toList

/-- What stands for a column is its name or its expression. -/
theorem exists_of_target {c : Column} {text : List Char} (h : k.target c = .ok text) :
    (c.filterExpression = none ∧ text = (Sql.quoteIdentifier c.name).toList) ∨
      ∃ e, c.filterExpression = some e ∧ text = e.toList := by
  -- an expression stands for its column once the parser has accepted it
  cases he : c.filterExpression with
  | none =>
    simp only [Context.target, he, Except.ok.injEq] at h
    exact .inl ⟨rfl, h.symm⟩
  | some e =>
    rw [Context.target, he] at h
    cases hcheck : checkExpression k.parser k.dialect c.name e with
    | error fault => simp [hcheck, Except.map] at h
    | ok u =>
      simp only [hcheck, Except.map, Except.ok.injEq] at h
      exact .inr ⟨e, rfl, h.symm⟩

/-- An expression that the parser accepts stands for its column as it is written. -/
theorem target_of_accepted {c : Column} {e : String} (he : c.filterExpression = some e)
    (haccepted : k.parser k.dialect e = .ok none) : k.target c = .ok e.toList := by
  simp only [Context.target, he, checkExpression, haccepted]
  rfl

/-- What stands for a column is complete if all expressions of the table are. -/
theorem isComplete_target (hk : k.Complete) {c : Column} (hc : c ∈ k.columns) {text : List Char}
    (h : k.target c = .ok text) : IsComplete k.dialect text := by
  rcases exists_of_target h with ⟨-, rfl⟩ | ⟨e, he, rfl⟩
  · exact (standsAlone_quoteIdentifier c.name).isComplete
  · exact hk c hc e he

/-- What stands for the column of a comparison stands on its own if its expression does. -/
theorem standsAlone_target_iff {c : Comparison} {column : Column} {text : List Char}
    (hcolumn : k.column? c.field = some column) (htarget : k.target column = .ok text) :
    Filter.StandsAlone k.dialect text ↔ k.StandsAlone c := by
  -- a column without expression is written by its name
  rcases exists_of_target htarget with ⟨hnone, rfl⟩ | ⟨e, he, rfl⟩
  · refine iff_of_true (standsAlone_quoteIdentifier column.name) ?_
    intro column' e' hcolumn' he'
    rw [hcolumn, Option.some.injEq] at hcolumn'
    rw [← hcolumn', hnone] at he'
    cases he'
  · constructor
    · intro h column' e' hcolumn' he'
      rw [hcolumn, Option.some.injEq] at hcolumn'
      rw [← hcolumn', he, Option.some.injEq] at he'
      rwa [← he']
    · exact fun h => h column e hcolumn he

/-! ## Comparisons -/

/-- The text of a comparison that is not negated as a whole is that of its column with an operator
behind it. -/
theorem exists_lexes_clause {negated : Bool} {o : Operator} {text : List Char}
    {operand : Option (List Char)} {head : List Token}
    (hneg : negated = true → o.takesNot = true) (hhead : Lexes d text head)
    (hoperand : ∀ cs, operand = some cs → ∃ ts, Lexes d cs ts ∧ IsPhrase ts) :
    ∃ rest, Lexes d (renderClause negated o text operand) (head ++ rest) ∧ IsPhrase rest ∧
      rest ≠ [] := by
  obtain ⟨op, hop, hopPhrase, hopne⟩ := exists_lexes_operator d o
  cases operand with
  | none =>
    have hclause : renderClause negated o text none = spaced text o.sql.toList := by
      -- the word of negation stands between the target and the operator
      cases negated with
      | false => rfl
      | true => simp [renderClause, hneg rfl]
    rw [hclause]
    exact ⟨op, hhead.spaced hop, hopPhrase, hopne⟩
  | some cs =>
    obtain ⟨value, hvalue, hvaluePhrase⟩ := hoperand cs rfl
    have hrest := hopPhrase.append hvaluePhrase
    cases negated with
    | false =>
      have hrestne : op ++ value ≠ [] := fun h => hopne (List.append_eq_nil_iff.1 h).1
      exact ⟨_, hhead.spaced (hop.spaced hvalue), hrest, hrestne⟩
    | true =>
      have hclause : renderClause true o text (some cs) =
          spaced text (spaced "NOT".toList (spaced o.sql.toList cs)) := by
        simp [renderClause, hneg rfl]
      rw [hclause]
      exact ⟨_, hhead.spaced (lexes_not (hop.spaced hvalue)), hrest.not, List.cons_ne_nil _ _⟩

/-- Tokens with an operator behind them are one atom exactly if they stand on their own. -/
theorem read_eq_atom_iff {head rest : List Token} (hhead : Matched head) (hne : head ≠ [])
    (hrest : IsPhrase rest) (hrestne : rest ≠ []) :
    Sentence.read (head ++ rest) = .atom (head ++ rest) ↔
      IsPhrase head ∧ negated? head = none := by
  have hnegated : negated? (head ++ rest) = (negated? head).map (· ++ rest) := by
    obtain ⟨t, ts, rfl⟩ := List.exists_cons_of_ne_nil hne
    rw [List.cons_append, negated?, negated?]
    split
    · rfl
    · rfl
  constructor
  -- a cut or a negation in the head would be one of the whole
  · intro hread
    have hcut : cut? (head ++ rest) = none := by
      cases hcut : cut? (head ++ rest) with
      | none => rfl
      | some parts =>
        rw [Sentence.read_cut hcut] at hread
        cases hread
    refine ⟨hhead.isPhrase (cut?_of_append hcut), ?_⟩
    cases hnot : negated? head with
    | none => rfl
    | some inner =>
      rw [hnot] at hnegated
      rw [Sentence.read_not hcut hnegated] at hread
      cases hread
  · rintro ⟨hphrase, hnot⟩
    rw [hnot] at hnegated
    exact Sentence.read_atom (hphrase.append hrest).cut? hnegated
      (hphrase.enclosed?_append hne hrestne)

/-- An operator that takes no word of negation is negated as a whole, in parentheses. -/
theorem renderClause_eq (negated : Bool) (o : Operator) (text : List Char)
    (operand : Option (List Char)) : renderClause negated o text operand =
      if negated && !o.takesNot then
        spaced "NOT".toList ('(' :: (renderClause (negated && o.takesNot) o text operand ++ [')']))
      else renderClause (negated && o.takesNot) o text operand := by
  cases negated with
  | false => simp
  | true =>
    cases hnot : o.takesNot with
    | true => simp
    | false =>
      cases operand with
      | none => simp [renderClause, hnot]
      | some value => simp [renderClause, hnot]

/-- A comparison without parentheses at its ends, negated only by a word that its operator takes. -/
def Comparison.positive (c : Comparison) : Comparison :=
  { c with opened := 0, closed := 0, negated := c.negated && c.operator.takesNot }

/-- The tokens of a comparison in a predicate, without the parentheses at its ends and without a
negation of the whole. -/
def Context.clause? (k : Context) (c : Comparison) : Option (List Token) :=
  match renderComparison k c.positive with
  | .ok (text, _) => Sql.lexed? k.dialect (String.ofList text)
  | .error _ => none

/-- The tokens of a comparison that is not negated as a whole are one atom exactly if the expression
of its column stands on its own. -/
theorem exists_clause (hk : k.Complete) {c : Comparison} {column : Column} {text : List Char}
    {operand : Option (List Char)} {params : List Value} (hcolumn : k.column? c.field = some column)
    (htarget : k.target column = .ok text)
    (hoperand : RendersOperand k column c.operator c.operand operand params) :
    ∃ ts, Lexes k.dialect
        (renderClause (c.negated && c.operator.takesNot) c.operator text operand) ts ∧
      k.clause? c = some ts ∧ Matched ts ∧
      (Sentence.read ts = .atom ts ↔ k.StandsAlone c) := by
  have hvalue : ∀ cs, operand = some cs → ∃ ts, Lexes k.dialect cs ts ∧ IsPhrase ts := by
    rintro cs rfl
    exact hoperand.exists_lexes
  have hneg : (c.negated && c.operator.takesNot) = true → c.operator.takesNot = true := by
    simp
  obtain ⟨head, hhead, hmatched, hne⟩ :=
    isComplete_target hk (List.mem_of_find?_eq_some hcolumn) htarget
  obtain ⟨rest, hlexes, hrest, hrestne⟩ := exists_lexes_clause hneg hhead hvalue
  refine ⟨head ++ rest, hlexes, ?_, hmatched.append hrest.matched, ?_⟩
  · -- the comparison is rendered alike without the parentheses at its ends and without its negation
    have hrender := (Renders.compare (c := c.positive) hcolumn htarget hoperand).render_eq
    rw [render] at hrender
    rw [Context.clause?, hrender]
    apply Lexes.lexed?_eq
    simpa [Comparison.positive] using hlexes
  · rw [read_eq_atom_iff hmatched hne hrest hrestne, ← standsAlone_iff hhead hne,
      standsAlone_target_iff hcolumn htarget]

/-- What the tokens of a predicate say of the comparisons. -/
def readClauses (ts : List Token) : Sentence (Option (List Token)) :=
  (Sentence.read ts).map some

/-- Parentheses say what they enclose. -/
theorem readClauses_enclose {ts : List Token} (h : Matched ts) :
    readClauses (.sign "(" :: (ts ++ [.sign ")"])) = readClauses ts :=
  congrArg (Sentence.map some) h.read_enclose

/-- A negated phrase says the negation of what it says. -/
theorem readClauses_not {ts : List Token} (h : IsPhrase ts) :
    readClauses (.word "NOT" :: ts) = .not (readClauses ts) :=
  congrArg (Sentence.map some) h.read_not

/-- Tokens that are a row of phrases, which say what a series says. -/
def Phrased (k : Context) (ts : List Token) (s : Series Comparison) : Prop :=
  ∃ c : Chain (List Token) Connective, ts = phrases c ∧ (∀ xs ∈ c.items, IsPhrase xs) ∧
    c.map readClauses = s.map (Sentence.map k.clause?)

namespace Phrased

variable {ts us : List Token} {s : Series Comparison}

/-- A row of phrases closes all that it opens. -/
theorem matched (h : Phrased k ts s) : Matched ts := by
  obtain ⟨c, rfl, hc, -⟩ := h
  exact matched_phrases hc

/-- The phrases are read as what the series makes up by precedence. -/
theorem read (h : Phrased k ts s) :
    readClauses ts = (Series.byPrecedence s).map k.clause? := by
  obtain ⟨c, rfl, hc, hread⟩ := h
  rw [readClauses, Sentence.read_phrases hc, ← Series.byPrecedence_map, ← Series.byPrecedence_map,
    Chain.map_map, ← hread]
  rfl

theorem last {s : Sentence Comparison} (hphrase : IsPhrase ts)
    (hread : readClauses ts = s.map k.clause?) : Phrased k ts (.last s) := by
  refine ⟨.last ts, rfl, ?_, ?_⟩
  · intro xs hxs
    rwa [List.mem_singleton.1 hxs]
  · rw [Chain.map, Chain.map, hread]

/-- A row of one phrase is that phrase. -/
theorem isPhrase {s : Sentence Comparison} (h : Phrased k ts (.last s)) : IsPhrase ts := by
  obtain ⟨c, rfl, hc, hread⟩ := h
  cases c with
  | last xs => exact hc xs List.mem_cons_self
  | more xs κ rest => cases hread

theorem join {κ : Connective} {l r : Series Comparison} (hl : Phrased k ts l)
    (hr : Phrased k us r) : Phrased k (ts ++ ([κ.token] ++ us)) (l.join κ r) := by
  obtain ⟨c, rfl, hc, hread⟩ := hl
  obtain ⟨c', rfl, hc', hread'⟩ := hr
  refine ⟨c.join κ c', (Chain.text_join c κ c').symm, ?_, ?_⟩
  · intro xs hxs
    rw [Chain.items_join, List.mem_append] at hxs
    rcases hxs with hxs | hxs
    · exact hc xs hxs
    · exact hc' xs hxs
  · rw [Chain.map_join, hread, hread', Chain.map_join]

/-- In parentheses there is one phrase. -/
theorem enclose (h : Phrased k ts s) :
    Phrased k (.sign "(" :: (ts ++ [.sign ")"])) (.last (Series.byPrecedence s)) :=
  last h.matched.enclose (by rw [readClauses_enclose h.matched, h.read])

theorem not {s : Sentence Comparison} (h : Phrased k ts (.last s)) :
    Phrased k (.word "NOT" :: ts) (.last (.not s)) :=
  last h.isPhrase.not (by rw [readClauses_not h.isPhrase, h.read]; rfl)

end Phrased

/-! ## Predicates -/

/-- The atoms that the tokens of a comparison are read as. -/
def Context.clauseAtoms (k : Context) (c : Comparison) : List (List Token) :=
  (k.clause? c).elim [] fun ts => (Sentence.read ts).atoms

/-- Tokens that are read as the atoms of their comparisons, from left to right. They say what a
series says if the expressions of the columns stand on their own. -/
structure Worded (k : Context) (ts : List Token) (s : Sentence Comparison)
    (c : Series Comparison) : Prop where
  matched : Matched ts
  clauses : ∀ a ∈ s.atoms, ∃ us, k.clause? a = some us ∧
    (Sentence.read us = .atom us ↔ k.StandsAlone a)
  atoms : (Sentence.read ts).atoms = s.atoms.flatMap k.clauseAtoms
  phrased : (∀ a ∈ s.atoms, k.StandsAlone a) → Phrased k ts c

namespace Worded

variable {ts us : List Token} {s s' : Sentence Comparison} {c c' : Series Comparison}

theorem clause {a : Comparison} (hmatched : Matched ts) (hclause : k.clause? a = some ts)
    (hread : Sentence.read ts = .atom ts ↔ k.StandsAlone a) :
    Worded k ts (.atom a) (.last (.atom a)) where
  matched := hmatched
  clauses := by
    intro a' ha'
    obtain rfl := List.mem_singleton.1 ha'
    exact ⟨ts, hclause, hread⟩
  atoms := by
    rw [Sentence.atoms, List.flatMap_singleton, Context.clauseAtoms, hclause, Option.elim_some]
  phrased := by
    intro halone
    have hatom := hread.2 (halone a (List.mem_singleton_self a))
    -- an atom has no place to cut
    have hcut : cut? ts = none := by
      cases hcut : cut? ts with
      | none => rfl
      | some parts =>
        rw [Sentence.read_cut hcut] at hatom
        cases hatom
    refine .last (hmatched.isPhrase hcut) ?_
    rw [readClauses, hatom, Sentence.map, Sentence.map, hclause]

/-- Parentheses make one phrase of what they enclose. -/
theorem enclose (h : Worded k ts s c) :
    Worded k (.sign "(" :: (ts ++ [.sign ")"])) s (.last (Series.byPrecedence c)) where
  matched := h.matched.enclose.matched
  clauses := h.clauses
  atoms := by rw [h.matched.read_enclose, h.atoms]
  phrased := fun halone => (h.phrased halone).enclose

theorem not (h : Worded k ts s (.last s')) (hphrase : IsPhrase ts) :
    Worded k (.word "NOT" :: ts) (.not s) (.last (.not s')) where
  matched := hphrase.not.matched
  clauses := h.clauses
  atoms := by
    rw [hphrase.read_not]
    exact h.atoms
  phrased := fun halone => (h.phrased halone).not

theorem join {κ : Connective} (hl : Worded k ts s c) (hr : Worded k us s' c') :
    Worded k (ts ++ ([κ.token] ++ us)) (.join κ s s') (c.join κ c') where
  matched := hl.matched.connect κ hr.matched
  clauses := by
    intro a ha
    rcases List.mem_append.1 ha with ha | ha
    · exact hl.clauses a ha
    · exact hr.clauses a ha
  atoms := by
    have hatoms := Sentence.atoms_read_connect hl.matched κ hr.matched
    rw [hl.atoms, hr.atoms] at hatoms
    rw [Sentence.atoms, List.flatMap_append]
    exact hatoms
  phrased := fun halone =>
    (hl.phrased fun a ha => halone a (List.mem_append_left _ ha)).join
      (hr.phrased fun a ha => halone a (List.mem_append_right _ ha))

/-- The atoms are the comparisons exactly if the expressions of their columns stand on their own:
what does not stand on its own loses tokens. -/
theorem atoms_eq_iff (h : Worded k ts s c) :
    (Sentence.read ts).atoms.map some = s.atoms.map k.clause? ↔ ∀ a ∈ s.atoms, k.StandsAlone a := by
  have hclause : ∀ a ∈ s.atoms, ∃ us, k.clause? a = some us ∧
      k.clauseAtoms a = (Sentence.read us).atoms ∧
      (Sentence.read us = .atom us ↔ k.StandsAlone a) := by
    intro a ha
    obtain ⟨us, hus, hread⟩ := h.clauses a ha
    exact ⟨us, hus, by rw [Context.clauseAtoms, hus, Option.elim_some], hread⟩
  rw [h.atoms]
  constructor
  · intro heq
    -- both sides have as many tokens, and no comparison gives more than it has
    have hsum := congrArg (fun l => (l.map fun o => o.elim 0 List.length).sum) heq
    simp only [List.map_map, List.flatMap_def, List.map_flatten, List.sum_flatten] at hsum
    intro a ha
    by_contra halone
    refine absurd hsum (Nat.ne_of_lt (List.sum_lt_sum _ _ ?_ ⟨a, ha, ?_⟩))
    · intro b hb
      obtain ⟨us, hus, hatoms, -⟩ := hclause b hb
      simp only [Function.comp_apply, List.map_map, hus, hatoms]
      exact Sentence.kept_read_le us
    · obtain ⟨us, hus, hatoms, hread⟩ := hclause a ha
      simp only [Function.comp_apply, List.map_map, hus, hatoms]
      exact (Sentence.read_eq_atom_or_kept_lt us).resolve_left fun hatom => halone (hread.1 hatom)
  · intro halone
    rw [List.map_flatMap, List.map_eq_flatMap]
    refine List.flatMap_congr fun a ha => ?_
    obtain ⟨us, hus, hatoms, hread⟩ := hclause a ha
    rw [hatoms, hread.2 (halone a ha), hus]
    rfl

end Worded

/-- No comparison keeps parentheses at its ends. -/
def Tree.Bare : Tree → Prop
  | .compare c => c.opened = 0 ∧ c.closed = 0
  | .group inner => inner.Bare
  | .join _ left right => left.Bare ∧ right.Bare
  | .not inner => inner.Bare

/-- The tokens of a comparison are one atom, with a negation of the whole in front of it where the
operator takes none. -/
theorem exists_worded_comparison (hk : k.Complete) {c : Comparison} {column : Column}
    {text : List Char} {operand : Option (List Char)} {params : List Value}
    (hcolumn : k.column? c.field = some column) (htarget : k.target column = .ok text)
    (hoperand : RendersOperand k column c.operator c.operand operand params) :
    ∃ ts, Lexes k.dialect (renderClause c.negated c.operator text operand) ts ∧
      Worded k ts c.sentence (.last c.sentence) := by
  obtain ⟨ts, hlexes, hclause, hmatched, hread⟩ := exists_clause hk hcolumn htarget hoperand
  have hatom := Worded.clause hmatched hclause hread
  rw [renderClause_eq, Comparison.sentence]
  -- negated as a whole the comparison stands in parentheses behind the word
  split
  · exact ⟨_, lexes_not hlexes.enclose, hatom.enclose.not hmatched.enclose⟩
  · exact ⟨ts, hlexes, hatom⟩

/-- The tokens of a predicate are read as the atoms of the tree's comparisons. If the expressions of
the columns stand on their own, then the tokens are a row of phrases: one for each comparison, group
and negation that stands in no other, with the connectives of the tree between them. -/
theorem Renders.exists_worded (hk : k.Complete) {sql : List Char} {params : List Value}
    (h : Renders k t sql params) (hbare : t.Bare) :
    ∃ ts, Lexes k.dialect sql ts ∧ Worded k ts t.sentence t.series ∧
      ∀ inner, t = .group inner → IsPhrase ts := by
  induction h with
  | @compare c column text operand params hcolumn htarget hoperand =>
    obtain ⟨ts, hlexes, hworded⟩ := exists_worded_comparison hk hcolumn htarget hoperand
    obtain ⟨hopened, hclosed⟩ := hbare
    refine ⟨ts, ?_, hworded, fun _ h => nomatch h⟩
    simpa [hopened, hclosed] using hlexes
  | group _ ih =>
    obtain ⟨ts, hlexes, hworded, -⟩ := ih hbare
    exact ⟨_, hlexes.enclose, hworded.enclose, fun _ _ => hworded.matched.enclose⟩
  | @join κ _ _ _ _ _ _ _ _ ihl ihr =>
    obtain ⟨ts, hlexes, hworded, -⟩ := ihl hbare.1
    obtain ⟨us, hlexes', hworded', -⟩ := ihr hbare.2
    exact ⟨_, hlexes.spaced ((lexes_connective κ).spaced hlexes'), hworded.join hworded',
      fun _ h => nomatch h⟩
  | notGroup _ ih =>
    obtain ⟨ts, hlexes, hworded, hphrase⟩ := ih hbare
    exact ⟨_, lexes_not hlexes, hworded.not (hphrase _ rfl), fun _ h => nomatch h⟩
  | not _ _ ih =>
    obtain ⟨ts, hlexes, hworded, -⟩ := ih hbare
    exact ⟨_, lexes_not hlexes.enclose, hworded.enclose.not hworded.matched.enclose,
      fun _ h => nomatch h⟩

/-- The expressions of the columns that a tree names stand on their own. -/
def Tree.StandsAlone (k : Context) (t : Tree) : Prop :=
  ∀ c ∈ t.sentence.atoms, k.StandsAlone c

/-- A predicate is read as the atoms of its comparisons, and if the expressions of the columns stand
on their own, then as what the series of the tree makes up by precedence. -/
theorem exists_ofSql? (hk : k.Complete) {filter : String}
    (ht : Tree.ofText filter = .ok (some t)) (hbare : t.Bare) {p : Predicate}
    (h : translate k filter = .ok (some p)) :
    ∃ s, Sentence.ofSql? k.dialect p.sql = some s ∧
      (s.atoms.map some = t.sentence.atoms.map k.clause? ↔ t.StandsAlone k) ∧
      (t.StandsAlone k → ∀ v, s.holds v = (Series.byPrecedence t.series).holds v) := by
  obtain ⟨t', ht', hrenders⟩ := exists_of_translate h
  rw [ht, Except.ok.injEq, Option.some.injEq] at ht'
  subst ht'
  obtain ⟨ts, hlexes, hworded, -⟩ := hrenders.exists_worded hk hbare
  -- the sentence is what the tokens of the predicate are read as
  refine ⟨Sentence.read ts, ?_, hworded.atoms_eq_iff, fun halone v => ?_⟩
  · rw [Sentence.ofSql?, hlexes.lexed?_eq]
    rfl
  · rw [← Sentence.holds_map some, ← readClauses, (hworded.phrased halone).read,
      Sentence.holds_map]

/-- If no comparison keeps parentheses at its ends and the expressions of the columns are complete,
then the atoms of a predicate are the comparisons of the tree, from left to right, exactly if the
expressions of their columns stand on their own. What the predicate then says of them, read by
precedence, is what the tree says, whichever of them hold, exactly if no conjunction in the tree has
a disjunction as one of its parts. -/
theorem translate_holds_iff (hk : k.Complete) {filter : String}
    (ht : Tree.ofText filter = .ok (some t)) (hbare : t.Bare) {p : Predicate}
    (h : translate k filter = .ok (some p)) :
    ∃ s, Sentence.ofSql? k.dialect p.sql = some s ∧
      (s.atoms.map some = t.sentence.atoms.map k.clause? ↔ t.StandsAlone k) ∧
      (t.StandsAlone k → ((∀ v, s.holds v = t.sentence.holds v) ↔ t.Straight)) := by
  obtain ⟨s, hs, hatoms, hholds⟩ := exists_ofSql? hk ht hbare h
  refine ⟨s, hs, hatoms, fun halone => ?_⟩
  -- reading by precedence keeps the meaning of a tree exactly if the tree is straight
  rw [← faithful_iff, Tree.Faithful]
  simp only [hholds halone]

/-- An expression with conjunctions of its own, one of them between the bounds of a range. -/
def branching : String := "CASE WHEN A BETWEEN 1 AND 9 AND B = 2 THEN A ELSE C END"

/-- Both conjunctions of the expression belong to it: one to the range and one to the choice. -/
theorem standsAlone_branching (d : Sql.Dialect) : StandsAlone d branching.toList := by
  have hlexes : Lexes d branching.toList
      [.word "CASE", .word "WHEN", .word "A", .word "BETWEEN", .number "1", .word "AND",
        .number "9", .word "AND", .word "B", .sign "=", .number "2", .word "THEN", .word "A",
        .word "ELSE", .word "C", .word "END"] := by
    cases d
    all_goals
      repeat
        first
        | exact .nil
        | refine .blank rfl ?_
        | refine .token rfl rfl rfl (fun _ => rfl) ?_
  exact ⟨_, hlexes, by decide, List.cons_ne_nil _ _, rfl⟩

/-- A column with that expression. -/
def branchingColumn : Column :=
  { Column.ofType "D" "INT" with filterExpression := some branching }

/-- A table with that column and three others. -/
def letterContext : Context where
  columns := [Column.ofType "A" "INT", Column.ofType "B" "INT", Column.ofType "C" "INT",
    branchingColumn]
  parser := Sql.Expression.parse

/-- The only expression of the table stands on its own. -/
theorem standsAlone_letterContext {c : Column} (hc : c ∈ letterContext.columns) {e : String}
    (he : c.filterExpression = some e) : StandsAlone .snowflake e.toList := by
  simp only [letterContext, List.mem_cons, List.not_mem_nil, or_false] at hc
  rcases hc with rfl | rfl | rfl | rfl
  · cases he
  · cases he
  · cases he
  · cases he
    exact standsAlone_branching .snowflake

theorem complete_letterContext : letterContext.Complete :=
  fun _ hc _ he => (standsAlone_letterContext hc he).isComplete

/-- So every tree over the table does. -/
theorem standsAlone_tree (t : Tree) : t.StandsAlone letterContext :=
  fun _ _ _ _ hcolumn he => standsAlone_letterContext (List.mem_of_find?_eq_some hcolumn) he

/-- The comparison of a column with a number. -/
def letterIs (name : String) (negated : Bool) (number : String) : Comparison :=
  ⟨0, 0, name, negated, .equal, .scalar number⟩

/-- A conjunction of a comparison and a negation. -/
def conjunctionTree : Tree :=
  .join .and (.group (.compare (letterIs "a" false "1")))
    (.group (.not (.group (.compare (letterIs "d" true "2")))))

/-- The tree of the filter `(a = 1) AND (not (d NOT = 2))`. -/
theorem reads_conjunctionTree : Reads (fun _ _ => True)
    (Text.trim "(a = 1) AND (not (d NOT = 2))".toList) conjunctionTree := by
  have hcut : splitAtConnective? .and none
      (Text.trim (Text.trim "(a = 1) AND (not (d NOT = 2))".toList)) =
        some ("(a = 1)".toList, "(not (d NOT = 2))".toList) := by decide
  have hleft : insideGroup? (Text.trim "(a = 1)".toList) = some "a = 1".toList := by decide
  have hright : insideGroup? (Text.trim "(not (d NOT = 2))".toList) =
      some "not (d NOT = 2)".toList := by decide
  have hnot : afterNot? (Text.trim "not (d NOT = 2)".toList) = some "(d NOT = 2)".toList := by
    decide
  have hinner : insideGroup? (Text.trim "(d NOT = 2)".toList) = some "d NOT = 2".toList := by decide
  refine .and (by decide) hcut ?_ ?_
  · refine .group (by decide) (by decide) (by decide) hleft ?_
    exact .compare (by decide) (by decide) (by decide) (by decide) rfl trivial
  · refine .group (by decide) (by decide) (by decide) hright (.not hnot ?_)
    refine .group (by decide) (by decide) (by decide) hinner ?_
    exact .compare (by decide) (by decide) (by decide) (by decide) rfl trivial

/-- The predicate of that conjunction. -/
def conjunctionPredicate : Predicate where
  sql := "(\"A\" = ?) AND (NOT (NOT (" ++ branching ++ " = ?)))"
  params := [.int 1, .int 2]

/-- The predicate of that filter, with the negations of the tree and of the operator. -/
theorem translate_conjunction : translate letterContext "(a = 1) AND (not (d NOT = 2))" =
    .ok (some conjunctionPredicate) := by
  have hparse : letterContext.parser letterContext.dialect branching = .ok none :=
    eq_ok_of_toOption (by decide +kernel)
  have htarget : letterContext.target branchingColumn = .ok branching.toList :=
    target_of_accepted rfl hparse
  have hleft := Renders.compare (k := letterContext) (c := letterIs "a" false "1") rfl rfl
    (.scalar rfl)
  have hright := Renders.compare (k := letterContext) (c := letterIs "d" true "2") rfl htarget
    (.scalar rfl)
  have hrenders : Renders letterContext conjunctionTree _ _ :=
    hleft.group.join hright.group.notGroup.group
  rw [translate_of_reads (by decide) reads_conjunctionTree, hrenders.render_eq]
  rfl

/-- Groups and negations keep what they enclose, and the conjunctions of a choice are its own. -/
theorem translate_holds_conjunction :
    ∃ s, Sentence.ofSql? .snowflake conjunctionPredicate.sql = some s ∧
      s.atoms.map some = conjunctionTree.sentence.atoms.map letterContext.clause? ∧
      ∀ v, s.holds v = conjunctionTree.sentence.holds v := by
  have htext := ofText_eq_some_iff.2 ⟨by decide, reads_conjunctionTree.read_eq⟩
  have hbare : conjunctionTree.Bare := ⟨⟨rfl, rfl⟩, rfl, rfl⟩
  have hstraight : conjunctionTree.Straight := ⟨⟨id, trivial⟩, id, trivial⟩
  have halone := standsAlone_tree conjunctionTree
  obtain ⟨s, hs, hatoms, hholds⟩ := translate_holds_iff complete_letterContext htext hbare
    translate_conjunction
  exact ⟨s, hs, hatoms.2 halone, (hholds halone).2 hstraight⟩

/-- A predicate says of the comparisons what the tree says, whichever of them hold. -/
def SaysTree (k : Context) (t : Tree) (p : Predicate) : Prop :=
  ∃ s, Sentence.ofSql? k.dialect p.sql = some s ∧
    s.atoms.map some = t.sentence.atoms.map k.clause? ∧ ∀ v, s.holds v = t.sentence.holds v

/-- A disjunction that is split off by the conjunction behind it. -/
def disjunctionFirst : Tree :=
  .join .and (.join .or (.group (.compare (letterIs "a" false "1")))
    (.group (.compare (letterIs "b" false "2")))) (.group (.compare (letterIs "c" false "3")))

/-- The tree of the filter `(a = 1) OR (b = 2) AND (c = 3)`: it is cut at the conjunction first. -/
theorem reads_disjunctionFirst : Reads (fun _ _ => True)
    (Text.trim "(a = 1) OR (b = 2) AND (c = 3)".toList) disjunctionFirst := by
  have hand : splitAtConnective? .and none
      (Text.trim (Text.trim "(a = 1) OR (b = 2) AND (c = 3)".toList)) =
        some ("(a = 1) OR (b = 2)".toList, "(c = 3)".toList) := by decide
  have hor : splitAtConnective? .or none (Text.trim "(a = 1) OR (b = 2)".toList) =
      some ("(a = 1)".toList, "(b = 2)".toList) := by decide
  have ha : insideGroup? (Text.trim "(a = 1)".toList) = some "a = 1".toList := by decide
  have hb : insideGroup? (Text.trim "(b = 2)".toList) = some "b = 2".toList := by decide
  have hc : insideGroup? (Text.trim "(c = 3)".toList) = some "c = 3".toList := by decide
  refine .and (by decide) hand (.or (by decide) (by decide) hor ?_ ?_) ?_
  · refine .group (by decide) (by decide) (by decide) ha ?_
    exact .compare (by decide) (by decide) (by decide) (by decide) rfl trivial
  · refine .group (by decide) (by decide) (by decide) hb ?_
    exact .compare (by decide) (by decide) (by decide) (by decide) rfl trivial
  · refine .group (by decide) (by decide) (by decide) hc ?_
    exact .compare (by decide) (by decide) (by decide) (by decide) rfl trivial

/-- The predicate of that filter has the connectives in the order of the text. -/
theorem translate_disjunctionFirst : translate letterContext "(a = 1) OR (b = 2) AND (c = 3)" =
    .ok (some ⟨"(\"A\" = ?) OR (\"B\" = ?) AND (\"C\" = ?)", [.int 1, .int 2, .int 3]⟩) := by
  rw [translate_of_reads (by decide) reads_disjunctionFirst]
  rfl

/-- If the first comparison alone holds, then so does the predicate, but not the tree. -/
theorem not_saysTree_disjunctionFirst : ¬SaysTree letterContext disjunctionFirst
    ⟨"(\"A\" = ?) OR (\"B\" = ?) AND (\"C\" = ?)", [.int 1, .int 2, .int 3]⟩ := by
  have htext := ofText_eq_some_iff.2 ⟨by decide, reads_disjunctionFirst.read_eq⟩
  have hbare : disjunctionFirst.Bare := ⟨⟨⟨rfl, rfl⟩, rfl, rfl⟩, rfl, rfl⟩
  rintro ⟨s, hs, -, htree⟩
  obtain ⟨s', hs', -, hholds⟩ := exists_ofSql? complete_letterContext htext hbare
    translate_disjunctionFirst
  rw [hs, Option.some.injEq] at hs'
  subst hs'
  -- only the first comparison holds
  have hfirst := hholds (standsAlone_tree _) fun i => i == 0
  rw [htree] at hfirst
  cases hfirst

/-- A column whose expression is a disjunction. -/
def choiceColumn : Column :=
  { Column.ofType "X" "INT" with filterExpression := some "A OR B" }

/-- A table with that column. -/
def choiceContext : Context where
  columns := [choiceColumn]
  parser := Sql.Expression.parse

/-- The expression `A OR B` closes all that it opens, though it does not stand on its own. -/
theorem complete_choiceContext : choiceContext.Complete := by
  intro c hc e he
  obtain rfl := List.mem_singleton.1 hc
  cases he
  have hlexes : Lexes .snowflake "A OR B".toList [.word "A", .word "OR", .word "B"] :=
    .token rfl rfl rfl (fun _ => rfl) (.blank rfl (.token rfl rfl rfl (fun _ => rfl)
      (.blank rfl (.one rfl rfl rfl fun _ => rfl))))
  exact ⟨_, hlexes, rfl, List.cons_ne_nil _ _⟩

/-- The comparison of a column with a number, without parentheses. -/
def choiceTree : Tree := .compare (letterIs "x" false "1")

theorem reads_choiceTree : Reads (fun _ _ => True) (Text.trim "x = 1".toList) choiceTree :=
  .compare (by decide) (by decide) (by decide) (by decide) rfl trivial

theorem translate_choice : translate choiceContext "x = 1" =
    .ok (some ⟨"A OR B = ?", [.int 1]⟩) := by
  have hparse : choiceContext.parser choiceContext.dialect "A OR B" = .ok none :=
    eq_ok_of_toOption (by decide +kernel)
  have htarget : choiceContext.target choiceColumn = .ok "A OR B".toList :=
    target_of_accepted rfl hparse
  have hvalue : bindValue choiceContext.named choiceColumn .equal "1" = .ok (.int 1) := rfl
  have hcolumn : choiceContext.column? "x" = some choiceColumn := rfl
  have hrender : render choiceContext choiceTree = .ok ("A OR B = ?".toList, [.int 1]) :=
    (Renders.compare (c := letterIs "x" false "1") hcolumn htarget (.scalar hvalue)).render_eq
  rw [translate_of_reads (by decide) reads_choiceTree, hrender]
  rfl

/-- The comparison of a disjunction is read as a disjunction. -/
theorem not_saysTree_choice : ¬SaysTree choiceContext choiceTree ⟨"A OR B = ?", [.int 1]⟩ := by
  have hread : Sentence.ofSql? .snowflake "A OR B = ?" =
      some (.join .or (.atom [.word "A"]) (.atom [.word "B", .sign "=", .placeholder "?"])) := by
    have hlexed : Sql.lexed? .snowflake "A OR B = ?" =
        some [.word "A", .word "OR", .word "B", .sign "=", .placeholder "?"] := by decide
    rw [Sentence.ofSql?, hlexed, Option.map_some, Sentence.read_cut (κ := .or) rfl,
      Sentence.read_atom rfl rfl rfl, Sentence.read_atom rfl rfl rfl]
  rintro ⟨s, hs, hatoms, -⟩
  have hs' : Sentence.ofSql? .snowflake "A OR B = ?" = some s := hs
  rw [hread, Option.some.injEq] at hs'
  -- the tree has one comparison, and the sentence has two atoms
  have hlength := congrArg List.length hatoms
  rw [List.length_map, List.length_map, ← hs'] at hlength
  cases hlength

/-- Not every predicate says what the tree says: a conjunction may have a disjunction as its part,
and the expression of a column may hold a connective. -/
theorem exists_misread :
    (¬∀ (k : Context) (filter : String) (t : Tree) (p : Predicate), k.Complete →
      Tree.ofText filter = .ok (some t) → t.Bare → translate k filter = .ok (some p) →
        t.StandsAlone k → SaysTree k t p) ∧
    ¬∀ (k : Context) (filter : String) (t : Tree) (p : Predicate), k.Complete →
      Tree.ofText filter = .ok (some t) → t.Bare → translate k filter = .ok (some p) →
        t.Straight → SaysTree k t p := by
  constructor
  · intro hall
    -- a disjunction before a conjunction, over expressions that stand on their own
    have htext := ofText_eq_some_iff.2 ⟨by decide, reads_disjunctionFirst.read_eq⟩
    have hbare : disjunctionFirst.Bare := ⟨⟨⟨rfl, rfl⟩, rfl, rfl⟩, rfl, rfl⟩
    exact not_saysTree_disjunctionFirst (hall _ _ _ _ complete_letterContext htext hbare
      translate_disjunctionFirst (standsAlone_tree _))
  · intro hall
    -- one comparison alone, over a column whose expression is a disjunction
    have htext := ofText_eq_some_iff.2 ⟨by decide, reads_choiceTree.read_eq⟩
    exact not_saysTree_choice (hall _ _ _ _ complete_choiceContext htext ⟨rfl, rfl⟩
      translate_choice trivial)

end Snowbridge.Filter
