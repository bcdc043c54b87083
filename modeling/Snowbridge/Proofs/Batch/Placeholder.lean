import Snowbridge.Proofs.Batch.Binding
import Snowbridge.Proofs.Batch.Issue
import Snowbridge.Proofs.Filter.Parenthesis
import Snowbridge.Proofs.Filter.Placeholder
import Snowbridge.Sql.Expression

/-!
# Placeholders of statements

Every statement about rows that a batch sends has as many values as placeholders, whatever names the
table and its columns have and whatever the engine replies. The text of a statement and its values
are put together apart from each other, so for each form of a statement the parts of the text are
counted and compared with the parts of the values.
-/

namespace Snowbridge.Batch

open Catalog (Column Table)
open Sql (Takes)

/-- The columns of a table are written as their names, and their expressions take no values. -/
structure WellQuoted (t : Table) : Prop where
  quoted : ∀ c ∈ t.columns, c.quotedName = Sql.quoteIdentifier c.name
  expressions : ∀ c ∈ t.columns, Filter.TakesNone c

/-- A request has as many values as placeholders. -/
def LinedUp (r : Request) : Prop := Sql.placeholderCount r.sql = r.params.length

instance (r : Request) : Decidable (LinedUp r) :=
  inferInstanceAs (Decidable (Sql.placeholderCount r.sql = r.params.length))

theorem linedUp_of_takes {sql : String} {params : List Value} (h : Takes sql.toList params.length) :
    LinedUp ⟨sql, params⟩ := h.placeholderCount_eq

namespace WellQuoted

variable {t : Table}

/-! ## Names -/

theorem takes_quotedName (t : Table) : Takes t.quotedName.toList 0 := by
  unfold Table.quotedName
  split
  · exact Takes.quoteIdentifier t.name
  · exact Takes.quoteName _

theorem takes_column (h : WellQuoted t) {c : Column} (hc : c ∈ t.columns) :
    Takes c.quotedName.toList 0 := by
  rw [h.quoted c hc]
  exact Takes.quoteIdentifier c.name

/-- A comparison of a column with its placeholder takes one value. -/
theorem takes_equals (h : WellQuoted t) {c : Column} (hc : c ∈ t.columns) :
    Takes (equals c).toList 1 := by
  have hmark : Takes " = ?".toList 1 := Takes.of_unquoted (by decide)
  have hall := (h.takes_column hc).append hmark
  rwa [← String.toList_append] at hall

/-- A list of such comparisons takes one value for each column. -/
theorem takes_equalities (h : WellQuoted t) {sep : String} (hsep : Takes sep.toList 0)
    {cs : List Column} (hcs : ∀ c ∈ cs, c ∈ t.columns) :
    Takes (String.intercalate sep (cs.map equals)).toList cs.length := by
  have hall : Takes (String.intercalate sep (cs.map equals)).toList
      ((cs.map equals).length * 1) := by
    refine Takes.intercalate hsep fun part hpart => ?_
    obtain ⟨c, hc, rfl⟩ := List.mem_map.1 hpart
    exact h.takes_equals (hcs c hc)
  rwa [List.length_map, Nat.mul_one] at hall

theorem mem_columns_of_keyColumns {keys : List Column} (hkeys : keyColumns t = .ok keys)
    {c : Column} (hc : c ∈ keys) : c ∈ t.columns := by
  unfold keyColumns at hkeys
  split at hkeys
  · cases hkeys
  · rw [← Except.ok.inj hkeys] at hc
    exact Table.mem_columns_of_mem_primaryKeyColumns hc

theorem takes_keyPredicate (h : WellQuoted t) {keys : List Column}
    (hkeys : ∀ c ∈ keys, c ∈ t.columns) : Takes (keyPredicate keys).toList keys.length :=
  h.takes_equalities (Takes.bare (by decide)) hkeys

/-! ## Conditions -/

/-- A statement with a condition takes the values of the condition. -/
theorem takes_where {word condition : String} {n : Nat} (hword : Takes word.toList 0)
    (hcondition : Takes condition.toList n) :
    Takes (word ++ t.quotedName ++ " WHERE " ++ condition).toList n := by
  have hwhere : Takes " WHERE ".toList 0 := Takes.bare (by decide)
  have hall := ((hword.string_append (takes_quotedName t)).string_append hwhere).string_append
    hcondition
  rwa [Nat.zero_add] at hall

/-- The predicate of `count` identifiers takes a value for each key column of each. -/
theorem takes_idPredicate (h : WellQuoted t) {keys : List Column}
    (hkeys : ∀ c ∈ keys, c ∈ t.columns) (count : Nat) :
    Takes (idPredicate keys count).toList (count * keys.length) := by
  have hopen : Takes "(".toList 0 := Takes.bare (by decide)
  have hclose : Takes ")".toList 0 := Takes.bare (by decide)
  unfold idPredicate
  split
  -- a key of one column, by a list
  · next key =>
    have hin : Takes " IN (".toList 0 := Takes.bare (by decide)
    have hkey := h.takes_column (hkeys key (List.mem_singleton_self key))
    have hall := ((hkey.string_append hin).string_append (Takes.placeholders count)).string_append
      hclose
    rw [List.length_singleton, Nat.mul_one]
    rwa [Nat.zero_add] at hall
  -- a longer key, by one group for each identifier
  · have hor : Takes " OR ".toList 0 := Takes.bare (by decide)
    have hone := (hopen.string_append (h.takes_keyPredicate hkeys)).string_append hclose
    rw [Nat.zero_add, Nat.add_zero] at hone
    have hparts : Takes (String.intercalate " OR "
        (List.replicate count ("(" ++ keyPredicate keys ++ ")"))).toList
        ((List.replicate count ("(" ++ keyPredicate keys ++ ")")).length * keys.length) :=
      Takes.intercalate hor fun part hpart => List.eq_of_mem_replicate hpart ▸ hone
    have hall := (hopen.string_append hparts).string_append hclose
    rwa [List.length_replicate, Nat.zero_add, Nat.add_zero] at hall

/-- The predicate of a batch, if any, is the translation of its filter. -/
theorem exists_of_predicate {s : Setup} {filter : Option String} {named : Filter.Named}
    {p : Filter.Predicate} (hf : s.predicate filter named = .ok (some p)) :
    ∃ text, Filter.translate ⟨s.table.columns, named, s.dialect, s.parser⟩ text = .ok (some p) := by
  cases filter with
  | none => cases hf
  | some text =>
    refine ⟨text, ?_⟩
    rw [Setup.predicate_some] at hf
    cases htext : Filter.translate ⟨s.table.columns, named, s.dialect, s.parser⟩ text with
    | error e =>
      rw [htext] at hf
      cases hf
    | ok found =>
      rw [htext] at hf
      rw [Except.ok.inj hf]

/-- What the filter adds to a predicate takes the values of the filter. -/
theorem takes_narrowing {s : Setup} (h : WellQuoted s.table) {filter : Option String}
    {named : Filter.Named} {f : Option Filter.Predicate}
    (hf : s.predicate filter named = .ok f) :
    Takes (narrowing f).toList (filterValues f).length := by
  cases f with
  | none => exact ⟨rfl, rfl⟩
  | some p =>
    have hopen : Takes " AND (".toList 0 := Takes.bare (by decide)
    have hclose : Takes ")".toList 0 := Takes.bare (by decide)
    obtain ⟨text, htext⟩ := exists_of_predicate hf
    have hfilter := Filter.takes_translate h.expressions htext
    have hall := (hopen.string_append hfilter).string_append hclose
    rwa [Nat.zero_add, Nat.add_zero] at hall

/-- The predicate of a scope takes the values of the scope. -/
theorem takes_scope {s : Setup} (h : WellQuoted s.table) {ids : List Identifier}
    {filter : Option String} {named : Filter.Named} {f : Option Filter.Predicate}
    {query : String × List Value} (hf : s.predicate filter named = .ok f)
    (hscope : scope s.table ids f = .ok query) : Takes query.1.toList query.2.length := by
  obtain ⟨keys, hkeys, hall, rfl⟩ := exists_of_scope hscope
  have hids := h.takes_idPredicate (fun c hc => mem_columns_of_keyColumns hkeys hc) ids.length
  rw [List.length_append, length_flatten_of_forall hall]
  exact hids.string_append (h.takes_narrowing hf)

/-! ## Assignments -/

/-- A list of columns takes no values. -/
theorem takes_columnList (h : WellQuoted t) {as : List Assignment}
    (has : ∀ a ∈ as, a.1 ∈ t.columns) :
    Takes (commaSeparated (as.map fun a => a.1.quotedName)).toList 0 := by
  have hcomma : Takes ", ".toList 0 := Takes.bare (by decide)
  refine (Takes.intercalate hcomma ?_ : Takes _ ((as.map fun a => a.1.quotedName).length * 0))
  intro part hpart
  obtain ⟨a, ha, rfl⟩ := List.mem_map.1 hpart
  exact h.takes_column (has a ha)

/-- An UPDATE takes a value for each assignment, followed by those of its condition. -/
theorem takes_updateText (h : WellQuoted t) {sets : List Assignment}
    (hsets : ∀ a ∈ sets, a.1 ∈ t.columns) {condition : String} {n : Nat}
    (hcondition : Takes condition.toList n) :
    Takes (updateText t sets condition).toList (sets.length + n) := by
  have hupdate : Takes "UPDATE ".toList 0 := Takes.bare (by decide)
  have hset : Takes " SET ".toList 0 := Takes.bare (by decide)
  have hwhere : Takes " WHERE ".toList 0 := Takes.bare (by decide)
  have hcolumns : ∀ c ∈ sets.map Prod.fst, c ∈ t.columns := by
    intro c hc
    obtain ⟨a, ha, rfl⟩ := List.mem_map.1 hc
    exact hsets a ha
  have hcomma : Takes ", ".toList 0 := Takes.bare (by decide)
  have hassign := h.takes_equalities hcomma hcolumns
  rw [List.map_map, List.length_map] at hassign
  have hall := ((((hupdate.string_append (takes_quotedName t)).string_append hset).string_append
    hassign).string_append hwhere).string_append hcondition
  rwa [Nat.zero_add] at hall

/-! ## Records -/

/-- An INSERT writes as many placeholders as it has assignments. -/
theorem linedUp_insertRecord (h : WellQuoted t) {as : List Assignment}
    (has : ∀ a ∈ as, a.1 ∈ t.columns) {r : Request} (hr : insertRecord t as = .ok r) :
    LinedUp r := by
  unfold insertRecord at hr
  split at hr
  · cases hr
  · split at hr
    · cases hr
    · rw [← Except.ok.inj hr]
      have hinsert : Takes "INSERT INTO ".toList 0 := Takes.bare (by decide)
      have hopen : Takes " (".toList 0 := Takes.bare (by decide)
      have hvalues : Takes ") VALUES (".toList 0 := Takes.bare (by decide)
      have hclose : Takes ")".toList 0 := Takes.bare (by decide)
      have hall := (((((hinsert.string_append (takes_quotedName t)).string_append
        hopen).string_append (h.takes_columnList has)).string_append hvalues).string_append
        (Takes.placeholders as.length)).string_append hclose
      apply linedUp_of_takes
      rw [List.length_map]
      rwa [Nat.zero_add] at hall

/-- An UPDATE by key takes the assigned values and the values of the key. -/
theorem linedUp_updateRecord (h : WellQuoted t) {as : List Assignment}
    (has : ∀ a ∈ as, a.1 ∈ t.columns) {keyParams : List Value}
    (hkeys : keyParams.length = t.primaryKeyColumns.length) {r : Request}
    (hr : updateRecord t as keyParams = .ok r) : LinedUp r := by
  simp only [updateRecord] at hr
  split at hr
  · cases hr
  · rw [← Except.ok.inj hr]
    have hcondition := h.takes_keyPredicate fun _ => Table.mem_columns_of_mem_primaryKeyColumns
    apply linedUp_of_takes
    rw [List.length_append, List.length_map, hkeys]
    exact h.takes_updateText (fun a ha => has a (List.mem_of_mem_filter ha)) hcondition

/-- A DELETE by key takes the values of the key. -/
theorem linedUp_deleteRecord (h : WellQuoted t) {keyParams : List Value}
    (hkeys : keyParams.length = t.primaryKeyColumns.length) :
    LinedUp (deleteRecord t keyParams) := by
  have hcondition := h.takes_keyPredicate fun _ => Table.mem_columns_of_mem_primaryKeyColumns
  apply linedUp_of_takes
  rw [hkeys]
  exact takes_where (Takes.bare (by decide)) hcondition

/-- Each of the three statements for a record has as many values as placeholders. -/
theorem linedUp_writeRecord (h : WellQuoted t) {verb : WriteVerb} {fields : Record} {r : Request}
    (hr : writeRecord t verb fields = .ok r) : LinedUp r := by
  obtain ⟨as, has, hverb⟩ := exists_of_writeRecord hr
  have hcolumns := (named_iff.1 has).mem_columns
  cases verb with
  | create => exact h.linedUp_insertRecord hcolumns hverb
  | update =>
    obtain ⟨params, hkeys, hupdate⟩ := hverb
    exact h.linedUp_updateRecord hcolumns (length_of_mapM hkeys) hupdate
  | delete =>
    obtain ⟨params, hkeys, rfl⟩ := hverb
    exact h.linedUp_deleteRecord (length_of_mapM hkeys)

/-! ## All statements -/

variable {s : Setup} {e : Engine}

theorem linedUp_selectRequest {query : String × List Value}
    (hquery : Takes query.1.toList query.2.length) : LinedUp (s.selectRequest query) :=
  linedUp_of_takes (takes_where (Takes.bare (by decide)) hquery)

theorem linedUp_deleteRequest {query : String × List Value}
    (hquery : Takes query.1.toList query.2.length) : LinedUp (s.deleteRequest query) :=
  linedUp_of_takes (takes_where (Takes.bare (by decide)) hquery)

/-- The predicate of a read-back takes the values of the key. -/
theorem takes_readBackQuery (h : WellQuoted t) {fields : Record} {query : String × List Value}
    (hquery : readBackQuery? t fields = some query) : Takes query.1.toList query.2.length := by
  simp only [readBackQuery?] at hquery
  split at hquery
  · cases hquery
  · obtain ⟨params, hparams, rfl⟩ := Option.map_eq_some_iff.1 hquery
    rw [length_of_mapM_eq_some hparams]
    exact h.takes_keyPredicate fun _ => Table.mem_columns_of_mem_primaryKeyColumns

/-- An UPDATE by identifiers takes the assigned values and those of its scope. -/
theorem linedUp_updateRequest (h : WellQuoted s.table) {ids : List Identifier} {fields : Record}
    {filter : Option String} {named : Filter.Named} {r : Request}
    (hr : s.updateRequest ids fields filter named = .ok r) : LinedUp r := by
  obtain ⟨sets, f, target, hsets, hf, hscope, rfl⟩ := Setup.exists_of_updateRequest hr
  apply linedUp_of_takes
  rw [List.length_append, List.length_map]
  exact h.takes_updateText (named_of_updateFields hsets).mem_columns (h.takes_scope hf hscope)

/-- Every form of statement that a batch sends has as many values as placeholders, except for the
engine's own text for BEGIN. -/
theorem linedUp_of_issued (h : WellQuoted s.table) {offers : Record → Prop} {r : Request}
    (hr : Issued s e offers r) : r = e.beginRequest ∨ LinedUp r := by
  cases hr with
  | begin => exact Or.inl rfl
  | commit => exact Or.inr (by decide)
  | rollback => exact Or.inr (by decide)
  | write _ hwrite => exact Or.inr (h.linedUp_writeRecord hwrite)
  | readBack hquery => exact Or.inr (linedUp_selectRequest (h.takes_readBackQuery hquery))
  | fetch hf hscope => exact Or.inr (linedUp_selectRequest (h.takes_scope hf hscope))
  | delete hf hscope => exact Or.inr (linedUp_deleteRequest (h.takes_scope hf hscope))
  | update _ hupdate => exact Or.inr (h.linedUp_updateRequest hupdate)

end WellQuoted

/-- Every statement that a batch sends has as many values as placeholders, whatever the engine
replies, except for the engine's own text for BEGIN. So has every translated filter. -/
theorem Operation.placeholders_line_up {s : Setup} (h : WellQuoted s.table) (op : Operation)
    (p : Progress) :
    (∀ r ∈ sentBetween p (op.stop s p), r = p.session.engine.beginRequest ∨ LinedUp r) ∧
    ∀ k : Filter.Context, (∀ c ∈ k.columns, Filter.TakesNone c) →
      ∀ (filter : String) (f : Filter.Predicate), Filter.translate k filter = .ok (some f) →
        Sql.placeholderCount f.sql = f.params.length := by
  constructor
  · intro r hr
    exact h.linedUp_of_issued (op.issued s p r hr)
  · intro k hk filter f hf
    exact (Filter.takes_translate hk hf).placeholderCount_eq

/-- A table whose names have quotes, placeholders and points, with a key of two columns. -/
def oddlyNamed : Table where
  schema := "A?"
  name := "B\"?\"'"
  kind := .table
  columns := [Column.ofType "I?" "NUMBER(38,0)", Column.ofType "K\"?." "VARCHAR(64)",
    Column.ofType "'?" "VARCHAR(64)"]
  primaryKeys := ["I?", "K\"?."]

theorem wellQuoted_oddlyNamed : WellQuoted oddlyNamed := by
  have hcolumns : ∀ c ∈ oddlyNamed.columns,
      ∃ name typeText, c = Column.ofType name typeText := by
    intro c hc
    simp only [oddlyNamed, List.mem_cons, List.not_mem_nil, or_false] at hc
    rcases hc with rfl | rfl | rfl
    · exact ⟨_, _, rfl⟩
    · exact ⟨_, _, rfl⟩
    · exact ⟨_, _, rfl⟩
  constructor
  · intro c hc
    obtain ⟨name, typeText, rfl⟩ := hcolumns c hc
    rfl
  · intro c hc e he
    obtain ⟨name, typeText, rfl⟩ := hcolumns c hc
    cases he

/-- An update of two rows of the table. -/
def renameOdd : Operation :=
  .updateByIds [[.int 1, .text "a"], [.int 2, .text "b"]] [("'?", .str "z")] none []

/-- A batch that begins, updates, reads back and has its COMMIT refused, and a predicate of two
groups. -/
theorem placeholders_line_up_odd :
    let s : Setup := { table := oddlyNamed, policy := .rollBack, parser := Sql.Expression.parse }
    let engine : Engine :=
      .scripted "queue" true [⟨"UPDATE", [.affected 2]⟩, ⟨"COMMIT", [.fails (.execution "gone")]⟩]
    let p : Progress := { session := { engine := engine } }
    (sentBetween p (renameOdd.stop s p)).length = 4 ∧
      (∀ r ∈ sentBetween p (renameOdd.stop s p), r = engine.beginRequest ∨ LinedUp r) ∧
      Sql.placeholderCount "(\"ID\" = ?) OR (\"ID\" = ?)" = 2 := by
  intro s engine p
  have hall := Operation.placeholders_line_up (s := s) wellQuoted_oddlyNamed renameOdd p
  refine ⟨by decide +kernel, hall.1, ?_⟩
  refine hall.2 Filter.idContext (fun c hc e he => ?_) _ _ Filter.translate_groups
  rw [Filter.filterExpression_idContext c hc] at he
  cases he

end Snowbridge.Batch
