import Mathlib.Data.List.Lex
import Mathlib.Data.List.Perm.Basic
import Mathlib.Data.String.Basic
import Snowbridge.Catalog.Constraint
import Snowbridge.Proofs.Results

/-!
# Constraints as groups of rows

Rows are gathered as if they were grouped by their keys first. A constraint tells what the rows of
its key tell, in their order, and no other row has a say in it (`Gathers`). The keys are kept in
order, so the groups alone decide the result: rows of different constraints may be interleaved in any
way.
-/

namespace Snowbridge

/-! ## Cells that are lacking -/

/-- A row lacks a cell that is missing, null or blank. -/
def Row.Lacks (r : Row) (column : String) : Prop :=
  r.get? column = none ∨ r.get? column = some .null ∨
    ∃ text, r.text? column = some text ∧ Text.isBlankText text = true

theorem Value.asText_eq_none_iff {v : Value} : v.asText = none ↔ v = .null := by
  cases v <;> simp [Value.asText]

/-- `nonBlank?` finds nothing exactly in the cells that a row lacks. -/
theorem Row.nonBlank?_eq_none_iff {r : Row} {column : String} :
    r.nonBlank? column = none ↔ r.Lacks column := by
  rw [Row.nonBlank?, Option.filter_eq_none_iff, Row.Lacks, Row.text?]
  cases hcell : r.get? column with
  | none => simp
  | some v =>
    cases htext : v.asText with
    | none =>
      rw [Value.asText_eq_none_iff] at htext
      simp [htext, Value.asText]
    | some text =>
      have hnull : v ≠ .null := by
        rintro rfl
        cases htext
      simp [htext, hnull]

namespace Catalog

variable {key other : ConstraintKey} {c start : Constraint} {r : Row} {rs done : List Row}
  {m m' : ConstraintMap}

/-! ## The rows of a key -/

/-- The key that a row names, if it lacks no part of it. -/
def keyOf? (r : Row) : Option ConstraintKey := do
  let schema ← r.nonBlank? "table_schema"
  let table ← r.nonBlank? "table_name"
  let name ← r.nonBlank? "constraint_name"
  some ⟨Text.lowered schema, Text.lowered table, Text.lowered name⟩

/-- A row names no key exactly if it lacks one of the three parts. -/
theorem keyOf?_eq_none_iff :
    keyOf? r = none ↔
      r.Lacks "table_schema" ∨ r.Lacks "table_name" ∨ r.Lacks "constraint_name" := by
  simp only [← Row.nonBlank?_eq_none_iff, keyOf?]
  cases r.nonBlank? "table_schema" with
  | none => simp
  | some schema =>
    cases r.nonBlank? "table_name" with
    | none => simp
    | some table => cases r.nonBlank? "constraint_name" <;> simp

/-- The key of a row is its three cells in lower case. -/
theorem exists_of_keyOf? (h : keyOf? r = some key) :
    ∃ schema table name, r.nonBlank? "table_schema" = some schema ∧
      r.nonBlank? "table_name" = some table ∧ r.nonBlank? "constraint_name" = some name ∧
      key = ⟨Text.lowered schema, Text.lowered table, Text.lowered name⟩ := by
  obtain ⟨schema, hschema, h⟩ := Option.bind_eq_some_iff.1 h
  obtain ⟨table, htable, h⟩ := Option.bind_eq_some_iff.1 h
  obtain ⟨name, hname, h⟩ := Option.bind_eq_some_iff.1 h
  exact ⟨schema, table, name, hschema, htable, hname, (Option.some.inj h).symm⟩

/-- The rows that name a key, in their order. -/
def rowsOf (key : ConstraintKey) (rs : List Row) : List Row :=
  rs.filter fun r => keyOf? r = some key

/-- One more row belongs to the group of its key and to no other. -/
theorem rowsOf_concat (hkey : keyOf? r = some key) (other : ConstraintKey) (rs : List Row) :
    rowsOf other (rs ++ [r]) =
      if other = key then rowsOf other rs ++ [r] else rowsOf other rs := by
  rw [rowsOf, List.filter_append, List.filter_singleton, hkey]
  by_cases hsame : other = key
  · simp [hsame, rowsOf]
  · simp [hsame, Ne.symm hsame, rowsOf]

theorem mem_rowsOf : r ∈ rowsOf key rs ↔ r ∈ rs ∧ keyOf? r = some key := by
  rw [rowsOf, List.mem_filter, decide_eq_true_eq]

theorem mem_of_rowsOf_eq_cons {first : Row} (h : rowsOf key done = first :: rs) :
    first ∈ done ∧ keyOf? first = some key := mem_rowsOf.1 (h ▸ List.mem_cons_self)

/-- Adjacent rows with different keys may be swapped without changing any group. -/
theorem rowsOf_swap {a b : Row} (hne : keyOf? a ≠ keyOf? b) (before after : List Row)
    (key : ConstraintKey) :
    rowsOf key (before ++ b :: a :: after) = rowsOf key (before ++ a :: b :: after) := by
  simp only [rowsOf, List.filter_append, List.filter_cons, decide_eq_true_eq]
  by_cases ha : keyOf? a = some key
  · have hb : keyOf? b ≠ some key := fun hb => hne (ha.trans hb.symm)
    rw [if_neg hb, if_pos ha, if_pos ha, if_neg hb]
  · rw [if_neg ha, if_neg ha]

/-! ## One constraint -/

/-- The constraint that a row starts, with the parts of its key as the row spells them. -/
def startOf (r : Row) : Constraint :=
  Constraint.ofRow r ((r.nonBlank? "table_schema").getD "") ((r.nonBlank? "table_name").getD "")
    ((r.nonBlank? "constraint_name").getD "")

/-- The constraint that the rows of one key make. -/
def gathered? : List Row → Option Constraint
  | [] => none
  | first :: rest => some ((first :: rest).foldl Constraint.addRow (startOf first))

/-- The constraint of a group grows row by row. -/
theorem gathered?_concat (rs : List Row) (r : Row) :
    gathered? (rs ++ [r]) = some (((gathered? rs).getD (startOf r)).addRow r) := by
  cases rs with
  | nil => rfl
  | cons first rest =>
    rw [List.cons_append, gathered?, ← List.cons_append, List.foldl_concat]
    rfl

/-- The rows of a group only append their column names. -/
theorem foldl_addRow (c : Constraint) (rs : List Row) :
    rs.foldl Constraint.addRow c =
      { c with
        columns := c.columns ++ rs.filterMap fun r => r.nonBlank? "column_name",
        referencedColumns :=
          c.referencedColumns ++ rs.filterMap fun r => r.nonBlank? "referenced_column_name" } := by
  have hcons : ∀ (column : String) (r : Row) (rs : List Row),
      (r :: rs).filterMap (fun r => r.nonBlank? column) =
        (r.nonBlank? column).toList ++ rs.filterMap fun r => r.nonBlank? column := by
    intro column r rs
    rw [List.filterMap_cons]
    cases r.nonBlank? column <;> rfl
  induction rs generalizing c with
  | nil => simp
  | cons r rs ih =>
    rw [List.foldl_cons, ih, hcons, hcons, ← List.append_assoc, ← List.append_assoc]
    rfl

/-- A constraint tells what the first row of its key tells, and lists the columns of all of them. -/
structure GatheredFrom (c : Constraint) (first : Row) (rs : List Row) : Prop where
  tableSchema : first.nonBlank? "table_schema" = some c.tableSchema
  table : first.nonBlank? "table_name" = some c.table
  name : first.nonBlank? "constraint_name" = some c.name
  type : c.type = (first.text? "constraint_type").getD ""
  schema : c.schema = (first.nonBlank? "constraint_schema").getD c.tableSchema
  referencedSchema : c.referencedSchema = first.nonBlank? "referenced_table_schema"
  referencedTable : c.referencedTable = first.nonBlank? "referenced_table_name"
  updateRule : c.updateRule = first.nonBlank? "update_rule"
  deleteRule : c.deleteRule = first.nonBlank? "delete_rule"
  columns : c.columns = rs.filterMap fun r => r.nonBlank? "column_name"
  referencedColumns : c.referencedColumns = rs.filterMap fun r => r.nonBlank? "referenced_column_name"

/-- A group makes a constraint with the texts of its first row and the columns of all its rows. -/
theorem gatheredFrom_of_gathered? {first : Row} (hkey : keyOf? first = some key)
    (h : gathered? (first :: rs) = some c) : GatheredFrom c first (first :: rs) := by
  obtain ⟨schema, table, name, hschema, htable, hname, -⟩ := exists_of_keyOf? hkey
  rw [gathered?, foldl_addRow, startOf, hschema, htable, hname] at h
  obtain rfl := Option.some.inj h
  exact {
    tableSchema := hschema
    table := htable
    name := hname
    type := rfl
    schema := rfl
    referencedSchema := rfl
    referencedTable := rfl
    updateRule := rfl
    deleteRule := rfl
    columns := rfl
    referencedColumns := rfl }

/-! ## Constraints in the order of their keys -/

/-- Keys are linearly ordered by their paths. -/
theorem ConstraintKey.path_lt_of_ne (hne : other ≠ key) (hlt : ¬ key.path < other.path) :
    other.path < key.path := by
  rcases lt_trichotomy other.path key.path with hlt' | heq | hgt
  · exact hlt'
  · refine absurd ?_ hne
    cases other
    cases key
    simpa [ConstraintKey.path] using heq
  · exact absurd hgt hlt

namespace ConstraintMap

/-- The keys are in order, so each stands once. -/
def Ordered (m : ConstraintMap) : Prop := m.Pairwise fun a b => a.1.path < b.1.path

/-- Lookup compares keys in turn. -/
theorem lookup_cons (k : ConstraintKey) (c : Constraint) (m : ConstraintMap)
    (other : ConstraintKey) :
    ((k, c) :: m).lookup other = if other = k then some c else m.lookup other := by
  rw [List.lookup_cons]
  by_cases hsame : other = k
  · rw [beq_iff_eq.2 hsame, if_pos hsame]
  · rw [beq_eq_false_iff_ne.2 hsame, if_neg hsame]

/-- A key below the first entry of an ordered map is below all entries. -/
theorem Ordered.lt_all {e : ConstraintKey × Constraint} (h : Ordered (e :: m))
    (hlt : key.path < e.1.path) : ∀ e' ∈ e :: m, key.path < e'.1.path := by
  rw [List.forall_mem_cons]
  exact ⟨hlt, fun e' he' => lt_trans hlt ((List.pairwise_cons.1 h).1 e' he')⟩

/-- A key below all entries is not in the map. -/
theorem lookup_eq_none (h : ∀ e ∈ m, key.path < e.1.path) : m.lookup key = none := by
  rw [List.lookup_eq_none_iff]
  intro e he
  rw [bne_iff_ne]
  rintro rfl
  exact lt_irrefl _ (h e he)

/-- Adding a row changes the entry of its key only. -/
theorem lookup_addRow (h : Ordered m) (key : ConstraintKey) (start : Constraint) (r : Row)
    (other : ConstraintKey) :
    (addRow key start r m).lookup other =
      if other = key then some (((m.lookup key).getD start).addRow r) else m.lookup other := by
  -- induction on the map: the row meets its key, goes before the first key above it, or goes on
  induction m with
  | nil => exact lookup_cons key _ [] other
  | cons e m ih =>
    obtain ⟨k, c⟩ := e
    have hrest := (List.pairwise_cons.1 h).2
    rw [addRow]
    split
    · next hsame =>
      subst hsame
      rw [lookup_cons, lookup_cons, lookup_cons, if_pos rfl]
      split <;> rfl
    · next hne =>
      split
      · next hlt =>
        have hmissing : List.lookup key ((k, c) :: m) = none := lookup_eq_none (h.lt_all hlt)
        rw [hmissing, lookup_cons]
        rfl
      · rw [lookup_cons, ih hrest, lookup_cons, lookup_cons, if_neg (Ne.symm hne)]
        by_cases hother : other = k
        · rw [if_pos hother, if_neg (hother ▸ hne), if_pos hother]
        · rw [if_neg hother, if_neg hother]

/-- Adding a row adds no key but its own. -/
theorem mem_keys_addRow {e : ConstraintKey × Constraint} (h : e ∈ addRow key start r m) :
    e.1 = key ∨ ∃ e' ∈ m, e.1 = e'.1 := by
  induction m with
  | nil => exact .inl (congrArg Prod.fst (List.mem_singleton.1 h))
  | cons e' m ih =>
    obtain ⟨k, c⟩ := e'
    rw [addRow] at h
    split at h
    · rcases List.mem_cons.1 h with rfl | hrest
      · exact .inr ⟨_, List.mem_cons_self, rfl⟩
      · exact .inr ⟨e, List.mem_cons_of_mem _ hrest, rfl⟩
    · split at h
      · rcases List.mem_cons.1 h with rfl | hrest
        · exact .inl rfl
        · exact .inr ⟨e, hrest, rfl⟩
      · rcases List.mem_cons.1 h with rfl | hrest
        · exact .inr ⟨_, List.mem_cons_self, rfl⟩
        · rcases ih hrest with hkey | ⟨e', he', hkey⟩
          · exact .inl hkey
          · exact .inr ⟨e', List.mem_cons_of_mem _ he', hkey⟩

/-- Adding a row keeps the map ordered. -/
theorem Ordered.addRow (h : Ordered m) (key : ConstraintKey) (start : Constraint) (r : Row) :
    Ordered (ConstraintMap.addRow key start r m) := by
  -- the same three cases as in `lookup_addRow`
  induction m with
  | nil => exact List.pairwise_singleton _ _
  | cons e m ih =>
    obtain ⟨k, c⟩ := e
    obtain ⟨hfirst, hrest⟩ := List.pairwise_cons.1 h
    rw [ConstraintMap.addRow]
    split
    · exact List.pairwise_cons.2 ⟨hfirst, hrest⟩
    · next hne =>
      split
      · next hlt => exact List.pairwise_cons.2 ⟨h.lt_all hlt, h⟩
      · next hlt =>
        refine List.pairwise_cons.2 ⟨?_, ih hrest⟩
        intro e he
        rcases mem_keys_addRow he with hkey | ⟨e', he', hkey⟩
        · rw [hkey]
          exact ConstraintKey.path_lt_of_ne hne hlt
        · rw [hkey]
          exact hfirst e' he'

/-- In an ordered map, membership is lookup. -/
theorem Ordered.mem_iff (h : Ordered m) : (key, c) ∈ m ↔ m.lookup key = some c := by
  induction m with
  | nil => simp
  | cons e m ih =>
    obtain ⟨k, d⟩ := e
    obtain ⟨hfirst, hrest⟩ := List.pairwise_cons.1 h
    rw [lookup_cons, List.mem_cons, ih hrest, Prod.mk.injEq]
    split
    · next hsame =>
      subst hsame
      -- the key does not stand again in the rest
      have hmissing : m.lookup key = none := lookup_eq_none hfirst
      simp [hmissing, eq_comm]
    · next hne => simp [hne]

/-- Ordered maps are equal if all lookups agree. -/
theorem Ordered.eq (h : Ordered m) (h' : Ordered m')
    (hlookup : ∀ key, m.lookup key = m'.lookup key) : m = m' := by
  have hnodup : ∀ {m : ConstraintMap}, Ordered m → m.Nodup := by
    intro m h
    refine List.Pairwise.imp (fun hlt heq => ?_) h
    exact lt_irrefl _ (heq ▸ hlt)
  have hperm : m.Perm m' := by
    rw [List.perm_ext_iff_of_nodup (hnodup h) (hnodup h')]
    rintro ⟨key, c⟩
    rw [h.mem_iff, h'.mem_iff, hlookup]
  exact hperm.eq_of_pairwise (fun a b _ _ hlt hgt => absurd hgt (lt_asymm hlt)) h h'

end ConstraintMap

/-! ## All rows -/

/-- What is gathered after some rows: for each key the constraint of its rows, and the keys in
order. -/
structure Gathers (done : List Row) (m : ConstraintMap) : Prop where
  ordered : m.Ordered
  lookup (key : ConstraintKey) : m.lookup key = gathered? (rowsOf key done)

theorem Gathers.nil : Gathers [] [] := ⟨.nil, fun _ => rfl⟩

/-- The step of the loop: a row is added to the group of its key. -/
theorem Gathers.concat (h : Gathers done m) (hkey : keyOf? r = some key) :
    Gathers (done ++ [r]) (ConstraintMap.addRow key (startOf r) r m) where
  ordered := h.ordered.addRow key (startOf r) r
  lookup := by
    intro other
    rw [ConstraintMap.lookup_addRow h.ordered, rowsOf_concat hkey]
    split
    · next hsame => rw [hsame, gathered?_concat, h.lookup]
    · exact h.lookup other

/-- The loop on a row that names a key. -/
theorem gatherRows_cons (hkey : keyOf? r = some key) (m : ConstraintMap) (rs : List Row) :
    gatherRows m (r :: rs) = gatherRows (ConstraintMap.addRow key (startOf r) r m) rs := by
  obtain ⟨schema, table, name, hschema, htable, hname, rfl⟩ := exists_of_keyOf? hkey
  rw [gatherRows, requiredCell, requiredCell, requiredCell, startOf, hschema, htable, hname]
  rfl

/-- The loop fails at a row that names none. -/
theorem gatherRows_cons_error (hkey : keyOf? r = none) (m : ConstraintMap) (rs : List Row) :
    ∃ e, gatherRows m (r :: rs) = .error e := by
  rw [gatherRows, requiredCell, requiredCell, requiredCell]
  rw [keyOf?] at hkey
  cases hschema : r.nonBlank? "table_schema" with
  | none => exact ⟨_, rfl⟩
  | some schema =>
    cases htable : r.nonBlank? "table_name" with
    | none => exact ⟨_, rfl⟩
    | some table =>
      cases hname : r.nonBlank? "constraint_name" with
      | none => exact ⟨_, rfl⟩
      | some name =>
        rw [hschema, htable, hname] at hkey
        cases hkey

/-- Run of the loop: rows that all name keys are gathered. -/
theorem Gathers.gatherRows (h : Gathers done m) (hkeys : ∀ r ∈ rs, keyOf? r ≠ none) :
    ∃ m', Catalog.gatherRows m rs = .ok m' ∧ Gathers (done ++ rs) m' := by
  induction rs generalizing done m with
  | nil => exact ⟨m, rfl, by rwa [List.append_nil]⟩
  | cons r rs ih =>
    obtain ⟨hr, hrest⟩ := List.forall_mem_cons.1 hkeys
    obtain ⟨key, hkey⟩ := Option.ne_none_iff_exists'.1 hr
    obtain ⟨m', hrun, hm'⟩ := ih (h.concat hkey) hrest
    refine ⟨m', ?_, ?_⟩
    · rw [gatherRows_cons hkey, hrun]
    · rwa [List.append_assoc] at hm'

/-- A row without a key fails the whole loop, wherever it stands. -/
theorem gatherRows_error (hr : r ∈ rs) (hkey : keyOf? r = none) (m : ConstraintMap) :
    ∃ e, gatherRows m rs = .error e := by
  induction rs generalizing m with
  | nil => cases hr
  | cons first rest ih =>
    cases hfirst : keyOf? first with
    | none => exact gatherRows_cons_error hfirst m rest
    | some key =>
      rw [gatherRows_cons hfirst]
      rcases List.mem_cons.1 hr with rfl | hrest
      · rw [hkey] at hfirst
        cases hfirst
      · exact ih hrest _

/-- The keys of the map are those that the rows name. -/
theorem Gathers.exists_mem_iff (h : Gathers rs m) (key : ConstraintKey) :
    (∃ c, (key, c) ∈ m) ↔ ∃ r ∈ rs, keyOf? r = some key := by
  simp only [h.ordered.mem_iff, h.lookup]
  constructor
  · rintro ⟨c, hc⟩
    cases hrows : rowsOf key rs with
    | nil =>
      rw [hrows] at hc
      cases hc
    | cons first rest => exact ⟨first, mem_of_rowsOf_eq_cons hrows⟩
  · rintro ⟨r, hr⟩
    have hmem : r ∈ rowsOf key rs := mem_rowsOf.2 hr
    obtain ⟨first, rest, hrows⟩ := List.exists_cons_of_ne_nil (List.ne_nil_of_mem hmem)
    exact ⟨_, by rw [hrows, gathered?]⟩

/-- Each entry of the map is gathered from the group of its key. -/
theorem Gathers.gatheredFrom (h : Gathers rs m) (hmem : (key, c) ∈ m) :
    ∃ first rest, rowsOf key rs = first :: rest ∧ GatheredFrom c first (first :: rest) := by
  rw [h.ordered.mem_iff, h.lookup] at hmem
  cases hrows : rowsOf key rs with
  | nil =>
    rw [hrows] at hmem
    cases hmem
  | cons first rest =>
    rw [hrows] at hmem
    exact ⟨first, rest, rfl, gatheredFrom_of_gathered? (mem_of_rowsOf_eq_cons hrows).2 hmem⟩

/-- The map depends on the groups alone. -/
theorem Gathers.eq {rs' : List Row} (h : Gathers rs m) (h' : Gathers rs' m')
    (hrows : ∀ key, rowsOf key rs' = rowsOf key rs) : m' = m := by
  refine h'.ordered.eq h.ordered fun key => ?_
  rw [h'.lookup, h.lookup, hrows]

/-- `gatherConstraints` gathers all rows, or some row names no key. -/
theorem gatherConstraints_cases (s : RowSet) :
    (∃ m, gatherConstraints s = .ok m ∧ Gathers s.toList m ∧ ∀ r ∈ s.toList, keyOf? r ≠ none) ∨
      ∃ e, gatherConstraints s = .error e ∧ ∃ r ∈ s.toList, keyOf? r = none := by
  by_cases hkeys : ∀ r ∈ s.toList, keyOf? r ≠ none
  · obtain ⟨m, hrun, hm⟩ := Gathers.nil.gatherRows hkeys
    exact .inl ⟨m, hrun, hm, hkeys⟩
  · obtain ⟨r, hr, hkey⟩ : ∃ r ∈ s.toList, keyOf? r = none := by simpa using hkeys
    obtain ⟨e, he⟩ := gatherRows_error hr hkey []
    exact .inr ⟨e, he, r, hr, hkey⟩

/-- Gathering fails exactly if a row lacks a part of its key. Otherwise the map is ordered by key,
has the keys that the rows name, and each constraint has the texts of the first row of its key and
the columns of all of them. Reordering rows changes nothing if each group keeps its order. -/
theorem gatherConstraints_groups (s : RowSet) :
    ((∃ e, gatherConstraints s = .error e) ↔
      ∃ r ∈ s.toList, r.Lacks "table_schema" ∨ r.Lacks "table_name" ∨ r.Lacks "constraint_name") ∧
    ∀ m, gatherConstraints s = .ok m →
      m.Ordered ∧
      (∀ key, (∃ c, (key, c) ∈ m) ↔ ∃ r ∈ s.toList, keyOf? r = some key) ∧
      (∀ key c, (key, c) ∈ m →
        ∃ first rest, rowsOf key s.toList = first :: rest ∧ GatheredFrom c first (first :: rest)) ∧
      ∀ s' : RowSet, s'.toList.Perm s.toList →
        (∀ key, rowsOf key s'.toList = rowsOf key s.toList) → gatherConstraints s' = .ok m := by
  simp only [← keyOf?_eq_none_iff]
  -- the rows are all gathered, or one of them names no key
  rcases gatherConstraints_cases s with ⟨m, hok, hgathers, hkeys⟩ | ⟨e, herror, hlacks⟩
  · refine ⟨⟨?_, ?_⟩, ?_⟩
    · rintro ⟨e, he⟩
      rw [hok] at he
      cases he
    · rintro ⟨r, hr, hkey⟩
      exact absurd hkey (hkeys r hr)
    · intro m' hm'
      obtain rfl := Except.ok.inj (hok.symm.trans hm')
      refine ⟨hgathers.ordered, hgathers.exists_mem_iff, fun _ _ => hgathers.gatheredFrom, ?_⟩
      intro s' hperm hrows
      rcases gatherConstraints_cases s' with ⟨m', hok', hgathers', -⟩ | ⟨-, -, r, hr, hkey⟩
      · rw [hok', hgathers.eq hgathers' hrows]
      · exact absurd hkey (hkeys r (hperm.mem_iff.1 hr))
  · refine ⟨⟨fun _ => hlacks, fun _ => ⟨e, herror⟩⟩, ?_⟩
    intro m hm
    rw [herror] at hm
    cases hm

/-- A row for a column of a key of sales. -/
def keyRow (table name column : String) : List Value :=
  [.text "SALES", .text table, .text name, .text " ", .text column]

/-- Rows of two keys of two columns, in an order that mixes them. The second row of the one key spells
it in lower case. -/
def mixedKeys : RowSet where
  columns := ["table_schema", "table_name", "constraint_name", "constraint_schema", "column_name"]
  rows := [keyRow "ORDERS" "PK" "REGION", keyRow "LINES" "PK" "ORDER_ID", keyRow "orders" "pk" "ID",
    keyRow "LINES" "PK" "LINE"]

/-- The same rows, those of each key together. -/
def groupedKeys : RowSet where
  columns := mixedKeys.columns
  rows := [keyRow "ORDERS" "PK" "REGION", keyRow "orders" "pk" "ID", keyRow "LINES" "PK" "ORDER_ID",
    keyRow "LINES" "PK" "LINE"]

/-- Two keys whose rows are interleaved, one of them spelled in two cases. -/
theorem gatherConstraints_groups_mixedKeys :
    ∃ m c, gatherConstraints mixedKeys = .ok m ∧ gatherConstraints groupedKeys = .ok m ∧
      (⟨"sales", "orders", "pk"⟩, c) ∈ m ∧ c.columns = ["REGION", "ID"] := by
  obtain ⟨-, hgathered⟩ := gatherConstraints_groups mixedKeys
  obtain ⟨m, hrun⟩ : ∃ m, gatherConstraints mixedKeys = .ok m :=
    exists_eq_ok_of_toBool (by decide +kernel)
  obtain ⟨-, hkeys, hfrom, hmixed⟩ := hgathered m hrun
  have hfound : ∃ r ∈ mixedKeys.toList, keyOf? r = some ⟨"sales", "orders", "pk"⟩ :=
    ⟨_, List.mem_cons_self, by decide +kernel⟩
  obtain ⟨c, hc⟩ := (hkeys _).2 hfound
  obtain ⟨first, rest, hof, hgather⟩ := hfrom _ c hc
  have hcolumns : c.columns = ["REGION", "ID"] := by
    rw [hgather.columns, ← hof]
    decide +kernel
  have hrows : ∀ key, rowsOf key groupedKeys.toList = rowsOf key mixedKeys.toList :=
    rowsOf_swap (by decide +kernel) [⟨mixedKeys.columns, keyRow "ORDERS" "PK" "REGION"⟩]
      [⟨mixedKeys.columns, keyRow "LINES" "PK" "LINE"⟩]
  exact ⟨m, c, hrun, hmixed groupedKeys (.cons _ (.swap _ _ _)) hrows, hc, hcolumns⟩

end Catalog

end Snowbridge
