import Snowbridge.Proofs.Filter.Comparison
import Snowbridge.Proofs.Filter.Condition
import Snowbridge.Proofs.Filter.Render
import Snowbridge.Proofs.Filter.Scan

/-!
# Atoms between parentheses

What is read from an atom with parentheses at its ends, and what that is rendered as. The text of an
atom is its name, the sign of its operator and its literals; only a list closes a parenthesis, which
counts with those that follow the atom (`Atom.extra`).
-/

namespace Snowbridge.Filter

open Sql (OpenQuote)

variable {k : Context}

/-! ## Literals -/

theorem phrase_two (a b : List Char) : phrase [a, b] = a ++ ' ' :: b := by
  simp [phrase]

theorem phrase_three (a b c : List Char) : phrase [a, b, c] = a ++ ' ' :: (b ++ ' ' :: c) := by
  simp [phrase]

/-- The quoted texts of the grammar are the runs that the program writes. -/
theorem enquoted_eq_quotedRun (quote : Char) (text : String) :
    enquoted quote text = Sql.quotedRun quote text.toList := by
  simp only [enquoted, Sql.quotedRun, Sql.doubled, beq_iff_eq]

/-- Literals with commas between them. -/
def literals (texts : List String) : List Char :=
  [',', ' '].intercalate (texts.map fun text => (Sql.quoteLiteral text).toList)

/-- A list of the grammar is a list of literals between parentheses. -/
theorem listed_enquoted (texts : List String) :
    listed (texts.map (enquoted '\'')) = '(' :: (literals texts ++ [')']) := by
  have hliteral : enquoted '\'' = fun text => (Sql.quoteLiteral text).toList := by
    funext text
    rw [enquoted_eq_quotedRun, Sql.toList_quoteLiteral]
  rw [listed, literals, hliteral]

/-- A list of placeholders is what the program writes for as many values. -/
theorem listed_placeholders {α : Type} (xs : List α) :
    listed (xs.map fun _ => ['?']) = '(' :: ((Sql.placeholders xs.length).toList ++ [')']) := by
  rw [listed, Sql.placeholders, String.toList_intercalate, List.map_replicate, List.map_const']
  rfl

section Literals

variable (first next text : String) (rest : List String)

/-- The recursion of `literals`. -/
theorem literals_cons_cons : literals (first :: next :: rest) =
    (Sql.quoteLiteral first).toList ++ (',' :: ' ' :: literals (next :: rest)) := by
  simp only [literals, List.map_cons, List.intercalate_cons_cons, List.append_assoc]
  rfl

theorem literals_singleton : literals [first] = (Sql.quoteLiteral first).toList := by
  simp [literals]

/-- A literal shows no character outside its run. -/
theorem outsideChars_quoteLiteral :
    Sql.outsideChars none (Sql.quoteLiteral text).toList = [] := by
  rw [Sql.toList_quoteLiteral]
  exact Sql.outsideChars_quotedRun rfl _

/-- After a literal no quote is open. -/
theorem after_quoteLiteral : OpenQuote.after none (Sql.quoteLiteral text).toList = none := by
  rw [Sql.toList_quoteLiteral]
  exact Sql.after_quotedRun rfl _

/-- A literal has no blanks at its ends. -/
theorem trim_quoteLiteral :
    Text.trim (Sql.quoteLiteral text).toList = (Sql.quoteLiteral text).toList := by
  rw [Sql.toList_quoteLiteral]
  exact Sql.trim_quotedRun rfl _

theorem trim_blanks_quoteLiteral {b : List Char} (hb : ∀ c ∈ b, Text.isBlank c = true) :
    Text.trim (b ++ (Sql.quoteLiteral text).toList) = (Sql.quoteLiteral text).toList :=
  (Text.trim_blanks hb _).trans (trim_quoteLiteral text)

/-- After literals no quote is open. -/
theorem after_literals : OpenQuote.after none (literals (first :: rest)) = none := by
  induction rest generalizing first with
  | nil =>
    rw [literals_singleton]
    exact after_quoteLiteral first
  | cons next rest ih =>
    rw [literals_cons_cons, OpenQuote.after_append, after_quoteLiteral]
    exact ih next

/-- Literals show only what stands between them. -/
theorem mem_outsideChars_literals {first : String} {rest : List String} {c : Char}
    (h : c ∈ Sql.outsideChars none (literals (first :: rest))) : c = ',' ∨ c = ' ' := by
  induction rest generalizing first with
  | nil =>
    rw [literals_singleton, outsideChars_quoteLiteral] at h
    cases h
  | cons next rest ih =>
    rw [literals_cons_cons, Sql.outsideChars_append, outsideChars_quoteLiteral,
      after_quoteLiteral] at h
    -- the comma, the blank, and what the other literals show
    rcases List.mem_cons.1 h with rfl | h
    · exact .inl rfl
    · rcases List.mem_cons.1 h with rfl | h
      · exact .inr rfl
      · exact ih h

/-- Literals end with a quote. -/
theorem exists_literals_eq_concat : ∃ front, literals (first :: rest) = front ++ ['\''] := by
  induction rest generalizing first with
  | nil =>
    rw [literals_singleton, Sql.toList_quoteLiteral]
    exact ⟨'\'' :: Sql.doubled '\'' first.toList, rfl⟩
  | cons next rest ih =>
    obtain ⟨front, hfront⟩ := ih next
    rw [literals_cons_cons, hfront]
    exact ⟨(Sql.quoteLiteral first).toList ++ (',' :: ' ' :: front), by simp⟩

/-- No operator is found in literals, since each of them conceals what it holds. -/
theorem hidden_literals : Operator.Hidden (literals (first :: rest)) := by
  right
  induction rest generalizing first with
  | nil =>
    rw [literals_singleton, Sql.toList_quoteLiteral]
    exact ⟨_, rfl, Operator.conceals_run rfl _ (Operator.conceals_nil none)⟩
  | cons next rest ih =>
    obtain ⟨ys, hys, hconceals⟩ := ih next
    -- the comma and the blank between two literals form no operator
    have hcomma : Operator.Conceals none [',', ' '] := by decide
    have hrest : Operator.Conceals none ([',', ' '] ++ '\'' :: ys) :=
      Operator.conceals_quote rfl rfl hcomma hconceals
    refine ⟨_, ?_, Operator.conceals_run rfl first.toList hrest⟩
    rw [literals_cons_cons, Sql.toList_quoteLiteral, hys]
    simp [Sql.quotedRun]

/-- A literal may stand between commas, whatever commas it holds. -/
theorem isPiece_quoteLiteral : Sql.IsPiece ',' (Sql.quoteLiteral text).toList := by
  refine .of_outsideChars rfl (after_quoteLiteral text) ?_
  rw [outsideChars_quoteLiteral]
  exact List.forall_mem_nil _

/-- The items of a list of literals are the literals. -/
theorem listItems?_literals :
    listItems? ('(' :: (literals (first :: rest) ++ [')'])) =
      some ((first :: rest).map fun text => (Sql.quoteLiteral text).toList) := by
  have hlast : ((literals (first :: rest) ++ [')']).getLast? == some ')') = true := by
    rw [List.getLast?_concat]
    rfl
  have hitems : ∀ x ∈ (first :: rest).map fun text => (Sql.quoteLiteral text).toList,
      Sql.IsPiece ',' x ∧ Text.trim x = x :=
    List.forall_mem_map.2 fun text _ => ⟨isPiece_quoteLiteral text, trim_quoteLiteral text⟩
  rw [listItems?, if_pos hlast, List.dropLast_concat]
  exact congrArg some (Sql.map_trim_splitTopLevel (List.cons_ne_nil _ _) hitems)

end Literals

namespace Atom

/-! ## The parts of an atom -/

/-- The column that an atom is about. -/
def field : Atom k → Field k
  | compare field _ _ => field
  | isIn field _ _ => field
  | isNull field => field
  | isNotNull field => field

/-- The operator of an atom. -/
def operator : Atom k → Operator
  | compare _ sign _ => sign.operator
  | isIn _ _ _ => .isIn
  | isNull _ => .isNull
  | isNotNull _ => .isNotNull

/-- What stands between the name and the literals of an atom. -/
def middle : Atom k → List Char
  | compare _ sign _ => ' ' :: (sign.word ++ [' '])
  | isIn _ _ _ => " IN (".toList
  | isNull _ => " IS NULL".toList
  | isNotNull _ => " IS NOT NULL".toList

/-- The literals of an atom. -/
def values : Atom k → List Char
  | compare _ _ text => (Sql.quoteLiteral text).toList
  | isIn _ first rest => literals (first :: rest)
  | isNull _ => []
  | isNotNull _ => []

/-- How many parentheses an atom closes at its end. -/
def extra : Atom k → Nat
  | isIn _ _ _ => 1
  | _ => 0

/-- An atom without the parentheses at its end. -/
def core (a : Atom k) : List Char := a.field.name ++ (a.middle ++ a.values)

/-- The text of an atom, taken apart. -/
theorem source_eq (a : Atom k) : a.source = a.core ++ List.replicate a.extra ')' := by
  cases a with
  | compare field sign text =>
    show phrase [field.name, sign.word, enquoted '\'' text] =
      (field.name ++ ((' ' :: (sign.word ++ [' '])) ++ (Sql.quoteLiteral text).toList)) ++ []
    rw [enquoted_eq_quotedRun, ← Sql.toList_quoteLiteral, phrase_three]
    simp only [List.append_assoc, List.cons_append, List.nil_append, List.append_nil]
  | isIn field first rest =>
    show phrase [field.name, "IN".toList, listed ((first :: rest).map (enquoted '\''))] =
      (field.name ++ (" IN (".toList ++ literals (first :: rest))) ++ [')']
    rw [listed_enquoted, phrase_three, List.append_assoc, List.append_assoc]
    rfl
  | isNull field =>
    show phrase [field.name, "IS NULL".toList] = (field.name ++ (" IS NULL".toList ++ [])) ++ []
    rw [phrase_two, List.append_nil, List.append_nil]
    rfl
  | isNotNull field =>
    show phrase [field.name, "IS NOT NULL".toList] =
      (field.name ++ (" IS NOT NULL".toList ++ [])) ++ []
    rw [phrase_two, List.append_nil, List.append_nil]
    rfl

end Atom

/-! ## Values of literals -/

/-- The content of a run is read back, of either quote. -/
theorem unquote_quotedRun {quote : Char} (hquote : Sql.isQuote quote = true) (cs : List Char) :
    unquote (Sql.quotedRun quote cs) = cs := by
  have hlast : (Sql.doubled quote cs ++ [quote]).getLast? = some quote := List.getLast?_concat
  rw [unquote, Sql.quotedRun, insideQuotes?, insideQuotes?]
  rcases Sql.eq_of_isQuote hquote with rfl | rfl
  · simp [hlast, Sql.undoubled_doubled]
  · simp [hlast, Sql.undoubled_doubled]

/-- What starts with a quote is neither a parameter nor null. -/
theorem readScalar_of_startsQuoted (named : Named) {cs : List Char} (hcs : startsQuoted cs = true)
    (htrim : Text.trim cs = cs) :
    readScalar named (String.ofList cs) = .ok (.text (String.ofList (unquote cs))) := by
  cases cs with
  | nil => cases hcs
  | cons c cs =>
    -- a text that starts with a quote is no keyword and no parameter
    have hnull : Text.sameFolded (c :: cs) "null".toList = false := by
      rcases Sql.eq_of_isQuote hcs with rfl | rfl <;> rfl
    have hname : parameterName? (c :: cs) = none := by
      rcases Sql.eq_of_isQuote hcs with rfl | rfl <;> rfl
    simp only [readScalar, String.toList_ofList, htrim, hname, hnull]
    rfl

/-- A column for texts holds every text. -/
theorem cast_text {c : Catalog.Column} (h : IsTextual c.type) (text : String) :
    cast c (.text text) = .ok (.text text) := by
  obtain ⟨hinteger, hdecimal, hdouble, hboolean⟩ := h
  -- none of the types that convert is one for texts
  have hconvert : convert? c.type (.text text) = some (.text text) := by
    rw [convert?, if_neg (by rw [hinteger]; decide)]
    · rfl
    all_goals assumption
  simp [cast, hconvert, Value.isNull]

/-- What starts with a quote is bound as a text, with the wildcards of the operator. -/
theorem bindValue_of_startsQuoted (named : Named) {c : Catalog.Column} (h : IsTextual c.type)
    (o : Operator) {cs : List Char} (hcs : startsQuoted cs = true) (htrim : Text.trim cs = cs) :
    bindValue named c o (String.ofList cs) =
      .ok (.text (o.pattern (String.ofList (unquote cs)))) := by
  simp only [bindValue, readScalar_of_startsQuoted named hcs htrim, bind, Except.bind]
  -- a pattern skips the cast, and any other operator adds no wildcards
  cases hpattern : o.isPattern with
  | true => rfl
  | false =>
    have hplain : o.pattern (String.ofList (unquote cs)) = String.ofList (unquote cs) := by
      cases o <;> first | rfl | cases hpattern
    rw [hplain, if_neg Bool.false_ne_true]
    exact cast_text h _

/-- A literal is bound as its text, with the wildcards of the operator. -/
theorem bindValue_quoteLiteral (named : Named) {c : Catalog.Column} (h : IsTextual c.type)
    (o : Operator) (text : String) :
    bindValue named c o (Sql.quoteLiteral text) = .ok (.text (o.pattern text)) := by
  have hrun := Sql.toList_quoteLiteral text
  have hquoted : startsQuoted (Sql.quoteLiteral text).toList = true := by
    rw [hrun]
    rfl
  have hbind := bindValue_of_startsQuoted named h o hquoted (trim_quoteLiteral text)
  rw [hrun, unquote_quotedRun rfl, ← hrun, String.ofList_toList, String.ofList_toList] at hbind
  exact hbind

/-- A clause with an operand is its target, its operator and the operand. -/
theorem renderClause_some (o : Operator) (target operand : List Char) :
    renderClause false o target (some operand) =
      spaced target (spaced o.sql.toList operand) := rfl

/-! ## Signs -/

namespace Sign

variable (s : Sign)

/-- The sign of an operator holds neither quotes nor parentheses. -/
theorem plain : ∀ c ∈ ' ' :: (s.word ++ [' ']), Sql.isQuote c = false ∧ c ≠ '(' ∧ c ≠ ')' := by
  -- by the table of comparisons
  have hall : ∀ e ∈ comparisons, ((' ' :: (e.source.toList ++ [' '])).all fun c =>
      !Sql.isQuote c && (c != '(' && c != ')')) = true := by
    decide
  intro c hc
  have hc' := List.all_eq_true.1 (hall s.toSpelling s.known) c hc
  simpa using hc'

/-- The sign of a comparison starts with a character that is neither a blank nor a parenthesis. -/
theorem exists_word_eq_cons :
    ∃ c word, s.word = c :: word ∧ Text.isBlank c = false ∧ c ≠ '(' := by
  have hall : ∀ e ∈ comparisons, (e.source.toList.head?.any fun c =>
      !Text.isBlank c && c != '(') = true := by
    decide
  obtain ⟨c, hc, hown⟩ := (Option.any_eq_true _ _).1 (hall s.toSpelling s.known)
  obtain ⟨word, hword⟩ := List.head?_eq_some_iff.1 hc
  exact ⟨c, word, hword, by simpa using hown⟩

/-- Every comparison takes one value. -/
theorem operandKind_eq : s.operator.operandKind = .scalar := by
  have hall : ∀ e ∈ comparisons, e.operator.operandKind = .scalar := by decide
  exact hall s.toSpelling s.known

/-- The spelling in a predicate is that of the table. -/
theorem operator_sql : s.operator.sql = s.sql := by
  have hall : ∀ e ∈ comparisons, e.operator.sql = e.sql := by decide
  exact hall s.toSpelling s.known

/-- The wildcards that an operator adds are those of the table. -/
theorem pattern_eq (text : String) : s.operator.pattern text = s.front ++ text ++ s.back := by
  have hall : ∀ e ∈ comparisons, e.operator.pattern text = e.front ++ text ++ e.back := by
    simp [comparisons, Operator.pattern]
  exact hall s.toSpelling s.known

/-- In the sign of an operator that operator is found, and no other, with nothing but blanks beside
its token. -/
theorem exists_found :
    ∃ found, Operator.find? (' ' :: (s.word ++ [' '])) = some found ∧
      found.operator = s.operator ∧ (∀ c ∈ found.before, Text.isBlank c = true) ∧
      ∀ c ∈ found.after, Text.isBlank c = true := by
  have hall : ∀ e ∈ comparisons, ∃ found ∈ Operator.find? (' ' :: (e.source.toList ++ [' '])),
      found.operator = e.operator ∧ found.before.all Text.isBlank = true ∧
        found.after.all Text.isBlank = true := by
    decide
  obtain ⟨found, hfound, hoperator, hbefore, hafter⟩ := hall s.toSpelling s.known
  exact ⟨found, hfound, hoperator, List.all_eq_true.1 hbefore, List.all_eq_true.1 hafter⟩

end Sign

/-- The characters of a name are letters, digits and `_`. -/
theorem Field.isWordChar (field : Field k) : ∀ c ∈ field.name, IsWordChar c := by
  intro c hc
  refine isWordChar_of_isNameChar ?_
  simpa [isNameChar] using field.plain c hc

namespace Atom

/-! ## Scans -/

/-- No operator is found in the literals of an atom. -/
theorem hidden_values (a : Atom k) : Operator.Hidden a.values := by
  cases a with
  | compare field sign text =>
    have hliteral := hidden_literals text []
    rwa [literals_singleton] at hliteral
  | isIn field first rest => exact hidden_literals first rest
  | isNull field => exact .inl rfl
  | isNotNull field => exact .inl rfl

/-- What stands between the name and the literals holds no quotes. -/
theorem unquoted_middle (a : Atom k) : Sql.Unquoted a.middle := by
  cases a with
  | compare field sign text => exact fun c hc => (sign.plain c hc).1
  | isIn field first rest => exact (by decide : Sql.Unquoted " IN (".toList)
  | isNull field => exact (by decide : Sql.Unquoted " IS NULL".toList)
  | isNotNull field => exact (by decide : Sql.Unquoted " IS NOT NULL".toList)

/-- What an atom starts with. -/
def lead (a : Atom k) : Lead where
  name := a.field.name
  sign := a.middle
  nonempty := a.field.nonempty
  plain := a.field.isWordChar
  unquoted := a.unquoted_middle

/-- After an atom no quote is open. -/
theorem after_core (a : Atom k) : OpenQuote.after none a.core = none := by
  refine (a.lead.after_append a.values).trans ?_
  cases a with
  | compare field sign text => exact after_quoteLiteral text
  | isIn field first rest => exact after_literals first rest
  | isNull field => rfl
  | isNotNull field => rfl

/-- An atom shows its name, its sign and what stands between its literals. -/
theorem outsideChars_core (a : Atom k) : Sql.outsideChars none a.core =
    a.field.name ++ (a.middle ++ Sql.outsideChars none a.values) :=
  a.lead.outsideChars_append a.values

/-- The literals of an atom show no parentheses. -/
theorem not_mem_outsideChars_values (a : Atom k) {c : Char} (hc : c ≠ ',' ∧ c ≠ ' ') :
    c ∉ Sql.outsideChars none a.values := by
  intro hmem
  cases a with
  | compare field sign text =>
    rw [values, outsideChars_quoteLiteral] at hmem
    cases hmem
  | isIn field first rest =>
    rcases mem_outsideChars_literals hmem with rfl | rfl
    · exact hc.1 rfl
    · exact hc.2 rfl
  | isNull field => cases hmem
  | isNotNull field => cases hmem

/-- An atom closes no parenthesis before its end. -/
theorem not_mem_outsideChars_core (a : Atom k) : ')' ∉ Sql.outsideChars none a.core := by
  have hsign : ')' ∉ a.middle := by
    cases a with
    | compare field sign text => exact fun hmem => (sign.plain ')' hmem).2.2 rfl
    | isIn field first rest => exact (by decide : ')' ∉ " IN (".toList)
    | isNull field => exact (by decide : ')' ∉ " IS NULL".toList)
    | isNotNull field => exact (by decide : ')' ∉ " IS NOT NULL".toList)
  rw [outsideChars_core, List.mem_append, List.mem_append]
  -- name, sign and literals each show none
  rintro (hname | hmem | hvalues)
  · exact a.lead.not_mem_name (by decide) hname
  · exact hsign hmem
  · exact a.not_mem_outsideChars_values (by decide) hvalues

/-- An atom opens as many parentheses as it closes at its end. -/
theorem count_outsideChars_core (a : Atom k) :
    (Sql.outsideChars none a.core).count '(' = a.extra := by
  have hname := List.count_eq_zero_of_not_mem (a.lead.not_mem_name (c := '(') (by decide))
  have hvalues := List.count_eq_zero_of_not_mem
    (a.not_mem_outsideChars_values (c := '(') (by decide))
  have hsign : a.middle.count '(' = a.extra := by
    cases a with
    | compare field sign text =>
      exact List.count_eq_zero_of_not_mem fun hmem => (sign.plain '(' hmem).2.1 rfl
    | isIn field first rest => exact (by decide : " IN (".toList.count '(' = 1)
    | isNull field => exact (by decide : " IS NULL".toList.count '(' = 0)
    | isNotNull field => exact (by decide : " IS NOT NULL".toList.count '(' = 0)
  rw [outsideChars_core, List.count_append, List.count_append, hvalues, hsign, Nat.add_zero]
  exact (congrArg (· + a.extra) hname).trans (Nat.zero_add _)

/-! ## Ends -/

/-- The sign of an atom starts with one blank and a character of its own. -/
theorem exists_middle_eq_cons (a : Atom k) :
    ∃ c cs, a.middle = ' ' :: c :: cs ∧ Text.isBlank c = false ∧ c ≠ '(' := by
  cases a with
  | compare field sign text =>
    obtain ⟨c, word, hword, hown⟩ := sign.exists_word_eq_cons
    have hsign : (compare field sign text).middle = ' ' :: c :: (word ++ [' ']) := by
      show ' ' :: (sign.word ++ [' ']) = _
      rw [hword]
      rfl
    exact ⟨c, _, hsign, hown⟩
  | isIn field first rest => exact ⟨'I', "N (".toList, rfl, by decide, by decide⟩
  | isNull field => exact ⟨'I', "S NULL".toList, rfl, by decide, by decide⟩
  | isNotNull field => exact ⟨'I', "S NOT NULL".toList, rfl, by decide, by decide⟩

/-- An atom starts with a character of its name. -/
theorem exists_core_eq_cons (a : Atom k) : ∃ c cs, a.core = c :: cs ∧ IsWordChar c :=
  a.lead.exists_append_eq_cons a.values

/-- An atom without the parentheses at its end does not end with a blank or one of them. -/
theorem exists_core_eq_concat (a : Atom k) :
    ∃ cs c, a.core = cs ++ [c] ∧ Text.isBlank c = false ∧ c ≠ ')' := by
  have hend : ∃ cs c, a.middle ++ a.values = cs ++ [c] ∧ Text.isBlank c = false ∧ c ≠ ')' := by
    have hquote : ∀ {sign text front : List Char}, text = front ++ ['\''] →
        ∃ cs c, sign ++ text = cs ++ [c] ∧ Text.isBlank c = false ∧ c ≠ ')' := by
      rintro sign text front rfl
      exact ⟨sign ++ front, '\'', (List.append_assoc _ _ _).symm, by decide, by decide⟩
    cases a with
    | compare field sign text =>
      obtain ⟨front, hfront⟩ := exists_literals_eq_concat text []
      rw [literals_singleton] at hfront
      exact hquote hfront
    | isIn field first rest =>
      obtain ⟨front, hfront⟩ := exists_literals_eq_concat first rest
      exact hquote hfront
    | isNull field => exact ⟨" IS NUL".toList, 'L', rfl, by decide, by decide⟩
    | isNotNull field => exact ⟨" IS NOT NUL".toList, 'L', rfl, by decide, by decide⟩
  obtain ⟨cs, c, hcs, hc⟩ := hend
  exact ⟨a.field.name ++ cs, c, by rw [core, hcs, List.append_assoc], hc⟩

/-! ## Readings -/

/-- The operand of an atom. -/
def operand : Atom k → Operand
  | compare _ _ text => .scalar (Sql.quoteLiteral text)
  | isIn _ first rest => .list ((first :: rest).map Sql.quoteLiteral)
  | isNull _ => .none
  | isNotNull _ => .none

/-- An atom between parentheses as a comparison. -/
def comparison (a : Atom k) (opened closed : Nat) : Comparison :=
  ⟨opened, closed, String.ofList a.field.name, false, a.operator, a.operand⟩

/-- The operand of a comparison is its literal. -/
theorem readOperand_compare (sign : Sign) (name : String) (text : String) :
    readOperand sign.operator name (Sql.quoteLiteral text).toList =
      .ok (.scalar (Sql.quoteLiteral text)) := by
  have hempty : (Sql.quoteLiteral text).toList.isEmpty = false := by
    rw [Sql.toList_quoteLiteral]
    rfl
  simp [readOperand, sign.operandKind_eq, hempty]

/-- The operands of a list are its literals. -/
theorem readOperand_isIn (name : String) (first : String) (rest : List String) :
    readOperand .isIn name ('(' :: (literals (first :: rest) ++ [')'])) =
      .ok (.list ((first :: rest).map Sql.quoteLiteral)) := by
  have hempty : ∀ text : String, (Sql.quoteLiteral text).toList.isEmpty = false := by
    intro text
    rw [Sql.toList_quoteLiteral]
    rfl
  have hkind : Operator.isIn.operandKind = .list := rfl
  rw [readOperand, hkind]
  simp only [listItems?_literals]
  rw [if_neg (by simp [hempty])]
  simp [List.map_map]

/-- A list that is still open has no blanks at its ends. -/
theorem trim_literals (first : String) (rest : List String) :
    Text.trim ('(' :: literals (first :: rest)) = '(' :: literals (first :: rest) := by
  obtain ⟨front, hfront⟩ := exists_literals_eq_concat first rest
  have hend : '(' :: literals (first :: rest) = ('(' :: front) ++ ['\''] := by
    rw [hfront, List.cons_append]
  exact Text.trim_eq_self_of_ends rfl hend (by decide) (by decide)

/-- A list that is still open borrows the parenthesis that closes it. -/
theorem borrowed_literals (first : String) (rest : List String) (closing : Nat) :
    borrowed ('(' :: literals (first :: rest)) (closing + 1) = 1 := by
  have hshown : Sql.outsideChars none ('(' :: literals (first :: rest)) =
      '(' :: Sql.outsideChars none (literals (first :: rest)) := rfl
  -- the literals show no parentheses, so the list itself has one to close
  have hnone : ∀ c : Char, c ≠ ',' ∧ c ≠ ' ' →
      (Sql.outsideChars none (literals (first :: rest))).count c = 0 := by
    intro c hc
    refine List.count_eq_zero_of_not_mem fun hmem => ?_
    rcases mem_outsideChars_literals hmem with rfl | rfl
    · exact hc.1 rfl
    · exact hc.2 rfl
  have hquoted : startsQuoted ('(' :: literals (first :: rest)) = false := rfl
  simp [borrowed, hquoted, Sql.parenthesisCounts, hshown, hnone]

/-- In the sign of an atom its operator is found, and what follows there is its operand, which
borrows the parenthesis that a list closes. -/
theorem exists_found (a : Atom k) : ∃ found, Operator.find? a.middle = some found ∧
    found.operator = a.operator ∧ (∀ c ∈ found.before, Text.isBlank c = true) ∧
    (∀ closing, borrowed (Text.trim (found.after ++ a.values)) (closing + a.extra) = a.extra) ∧
    ∀ name, readOperand a.operator name (Text.trim (found.after ++ a.values) ++
      List.replicate a.extra ')') = .ok a.operand := by
  have hnothing : ∀ closing, borrowed (Text.trim ([] ++ [])) (closing + 0) = 0 := by
    intro closing
    simp [borrowed, Text.trim, Text.trimLeft, Text.trimRight, startsQuoted, Sql.parenthesisCounts]
  cases a with
  | compare field sign text =>
    obtain ⟨found, hplace, hoperator, hbefore, hafter⟩ := sign.exists_found
    have hvalue : Text.trim (found.after ++ (compare field sign text).values) =
        (Sql.quoteLiteral text).toList := trim_blanks_quoteLiteral text hafter
    refine ⟨found, hplace, hoperator, hbefore, ?_⟩
    rw [hvalue]
    constructor
    · rw [Sql.toList_quoteLiteral]
      exact fun _ => rfl
    · intro name
      show readOperand sign.operator name ((Sql.quoteLiteral text).toList ++ []) = _
      rw [List.append_nil]
      exact readOperand_compare sign name text
  | isIn field first rest =>
    have hvalue : Text.trim (['('] ++ (isIn field first rest).values) =
        '(' :: literals (first :: rest) := trim_literals first rest
    refine ⟨⟨.isIn, " IN ", [], ['(']⟩, rfl, rfl, List.forall_mem_nil _, ?_⟩
    rw [hvalue]
    exact ⟨borrowed_literals first rest, fun name => readOperand_isIn name first rest⟩
  | isNull field =>
    exact ⟨⟨.isNull, " IS NULL", [], []⟩, rfl, rfl, List.forall_mem_nil _, hnothing,
      fun name => rfl⟩
  | isNotNull field =>
    exact ⟨⟨.isNotNull, " IS NOT NULL", [], []⟩, rfl, rfl, List.forall_mem_nil _, hnothing,
      fun name => rfl⟩

/-- An atom has no blanks at its ends. -/
theorem trim_core (a : Atom k) : Text.trim a.core = a.core := by
  obtain ⟨c, cs, hstart, hc⟩ := a.exists_core_eq_cons
  obtain ⟨ds, d, hend, hd, -⟩ := a.exists_core_eq_concat
  exact Text.trim_eq_self_of_ends hstart hend hc.1 hd

/-- The parentheses at the ends of an atom are told from those in it. -/
theorem splitEnds_core (a : Atom k) (m n : Nat) :
    ((List.replicate m '(' ++ (a.core ++ List.replicate n ')')).takeWhile (· == '(')).length = m ∧
      splitEnds (List.replicate m '(' ++ (a.core ++ List.replicate n ')')) = (a.core, n) := by
  have hrun : ∀ e ∈ List.replicate m '(', (e == '(') = true := fun e he => by
    rw [List.eq_of_mem_replicate he]
    rfl
  obtain ⟨c, cs, hstart, hc⟩ := a.exists_core_eq_cons
  obtain ⟨ds, d, hend, -, hd⟩ := a.exists_core_eq_concat
  have hstop : (c == '(') = false :=
    beq_false_of_ne (ne_of_mem_of_not_mem List.mem_cons_self hc.2.2).symm
  constructor
  · rw [List.takeWhile_append_of_pos hrun, hstart, List.cons_append, List.takeWhile_cons, hstop]
    simp
  · rw [splitEnds, List.dropWhile_append_of_pos hrun, hstart, List.cons_append,
      List.dropWhile_cons, hstop, if_neg Bool.false_ne_true, ← List.cons_append, ← hstart, hend]
    exact splitTrailing_replicate hd ds n

/-- What is read from an atom between parentheses. -/
theorem readComparison_eq (a : Atom k) (m n : Nat) :
    readComparison (List.replicate m '(' ++ (a.core ++ List.replicate (n + a.extra) ')')) =
      .ok (a.comparison m n) := by
  obtain ⟨found, hplace, hoperator, hbefore, hborrowed, hoperand⟩ := a.exists_found
  obtain ⟨hopened, hends⟩ := a.splitEnds_core m (n + a.extra)
  have hname : Text.trim (a.field.name ++ found.before) = a.field.name := a.lead.trim_name hbefore
  have hwhole := Operator.find?_between a.field.isWordChar a.unquoted_middle a.hidden_values
  rw [hplace] at hwhole
  -- the parts are those that the grammar put together
  rw [readComparison_eq_ok_iff]
  refine ⟨{ found with
    before := a.field.name ++ found.before
    after := found.after ++ a.values }, a.field.name, {
      place := ?_
      opened := hopened.symm
      closed := ?_
      negated := ?_
      field := rfl
      nonempty := a.field.nonempty
      operator := hoperator.symm
      operand := ?_ }⟩
  · rw [hends, a.trim_core]
    exact hwhole
  · rw [hends, hborrowed n]
    exact (Nat.add_sub_cancel n a.extra).symm
  · exact ⟨by rw [hname]; exact beforeNot?_name a.field.isWordChar, hname.symm⟩
  · rw [hends, hborrowed n, hoperator]
    exact hoperand _

/-! ## Predicates -/

/-- What stands for an atom in a predicate. -/
theorem exists_rendersOperand (a : Atom k) : ∃ operand,
    RendersOperand k a.field.column a.operator a.operand operand a.params ∧
      renderClause false a.operator a.field.sql operand = a.sql := by
  cases a with
  | compare field sign text =>
    have hbind := bindValue_quoteLiteral k.named field.textual sign.operator text
    rw [sign.pattern_eq] at hbind
    refine ⟨some ['?'], .scalar hbind, ?_⟩
    show renderClause false sign.operator field.sql (some ['?']) =
      phrase [field.sql, sign.sql.toList, ['?']]
    rw [renderClause_some, sign.operator_sql, phrase_three]
    rfl
  | isIn field first rest =>
    -- each item is bound on its own
    have hbind : List.Forall₂ (fun item v => bindValue k.named field.column .isIn item = .ok v)
        ((first :: rest).map Sql.quoteLiteral) ((first :: rest).map Value.text) := by
      rw [List.forall₂_map_left_iff, List.forall₂_map_right_iff, List.forall₂_same]
      exact fun text _ => bindValue_quoteLiteral k.named field.textual .isIn text
    refine ⟨_, .list hbind, ?_⟩
    show renderClause false .isIn field.sql (some _) =
      phrase [field.sql, "IN".toList, listed ((first :: rest).map fun _ => ['?'])]
    rw [renderClause_some, List.length_map, listed_placeholders, phrase_three]
    rfl
  | isNull field => exact ⟨none, .none, (phrase_two _ _).symm⟩
  | isNotNull field => exact ⟨none, .none, (phrase_two _ _).symm⟩

/-- What an atom is rendered as between the parentheses at its ends. -/
theorem renders (a : Atom k) (m n : Nat) : Renders k (.compare (a.comparison m n))
    (List.replicate m '(' ++ (a.sql ++ List.replicate n ')')) a.params := by
  have htarget : k.target a.field.column = .ok a.field.sql := by
    rw [Context.target, a.field.unexpressed, Field.sql, enquoted_eq_quotedRun,
      ← Sql.toList_quoteIdentifier]
  obtain ⟨operand, hoperand, hsql⟩ := a.exists_rendersOperand
  have hrenders := Renders.compare (c := a.comparison m n) a.field.known htarget hoperand
  rw [← hsql]
  exact hrenders

end Atom

end Snowbridge.Filter
