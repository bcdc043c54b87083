import Mathlib.Data.List.Induction
import Mathlib.Data.List.Nodup
import Snowbridge.Proofs.Catalog.Table

/-!
# Tables from additions

A table is put together from columns and from names of its key, which come in any order. It has one
column for each name up to the case of ASCII letters, in the order in which the names were first
added (`foldedNames_addAll`), and so it is with the names of its key (`foldedKeys_addAll`). The
column of a name is the one that was added last: what comes after it can only mark it
(`column?_addAll_of_lacks`). A table that was new therefore tells of its additions all that a search
for a name may ask (`reflects_addAll_fresh`).
-/

namespace Snowbridge

/-! ## Lists without repetition -/

section EraseDups

variable {α : Type} [DecidableEq α]

/-- `eraseDups` of a list with one more element at its end appends the element if it is new. -/
theorem eraseDups_concat (as : List α) (a : α) :
    (as ++ [a]).eraseDups = if a ∈ as then as.eraseDups else as.eraseDups ++ [a] := by
  rw [List.eraseDups_append, List.removeAll, List.filter_singleton]
  by_cases hmem : a ∈ as
  · simp [hmem]
  · simp only [hmem, List.elem_eq_mem, decide_false, Bool.not_false, if_false]
    rfl

/-- `eraseDups` leaves no duplicates. -/
theorem nodup_eraseDups (as : List α) : as.eraseDups.Nodup := by
  induction as using List.reverseRecOn with
  | nil => exact .nil
  | append_singleton as a ih =>
    rw [eraseDups_concat]
    split
    · exact ih
    · next hnew =>
      rw [← List.concat_eq_append, List.nodup_concat, List.mem_eraseDups]
      exact ⟨hnew, ih⟩

/-- The first occurrence of an element is placed by the number of distinct elements before it. -/
theorem getElem?_eraseDups_append {as : List α} {a : α} (h : a ∉ as) (bs : List α) :
    (as ++ a :: bs).eraseDups[as.eraseDups.length]? = some a := by
  have hkept : (a :: bs).removeAll as = a :: bs.removeAll as := by
    rw [List.removeAll, List.filter_cons_of_pos (by simpa using h)]
    rfl
  rw [List.eraseDups_append, List.getElem?_append_right (Nat.le_refl _), Nat.sub_self, hkept,
    List.eraseDups_cons]
  rfl

/-- A fold whose steps each append at most one new member collects the members in the order of their
first occurrence, each once. -/
theorem collected_foldl {σ β : Type} (members : σ → List α) {step : σ → β → σ} {new? : β → Option α}
    (hstep : ∀ s b, members (step s b) = (new? b).elim (members s) fun a =>
      if a ∈ members s then members s else members s ++ [a])
    {s : σ} (hempty : members s = []) (bs : List β) :
    members (bs.foldl step s) = (bs.filterMap new?).eraseDups := by
  induction bs using List.reverseRecOn with
  | nil => exact hempty
  | append_singleton bs b ih =>
    rw [List.foldl_concat, hstep, ih, List.filterMap_append]
    cases hb : new? b with
    | none =>
      rw [List.filterMap_cons_none hb, List.filterMap_nil, List.append_nil]
      rfl
    | some a =>
      rw [List.filterMap_cons_some hb, List.filterMap_nil, eraseDups_concat]
      exact if_congr List.mem_eraseDups rfl rfl

end EraseDups

namespace Catalog

/-! ## Additions -/

/-- A column that is added to a table, or a name that is added to its key. -/
inductive Addition where
  | column (c : Column)
  | key (name : String)

namespace Addition

/-- The name of the column that is added, in lower case. -/
def columnName? : Addition → Option String
  | column c => some (Text.foldedAscii c.name)
  | key _ => none

/-- The name that is added to the key, in lower case. -/
def keyName? : Addition → Option String
  | column _ => none
  | key name => some (Text.foldedAscii name)

/-- Whether a name is added to the key. -/
def isKey (wanted : String) : Addition → Bool
  | column _ => false
  | key name => Text.sameName name wanted

end Addition

/-- The names of the columns that are added, each once, in the order in which they come first. -/
def columnNames (as : List Addition) : List String := (as.filterMap Addition.columnName?).eraseDups

/-- The names that are added to the key, each once, in the order in which they come first. -/
def keyNames (as : List Addition) : List String := (as.filterMap Addition.keyName?).eraseDups

/-- No column of a name is added. -/
def Lacks (as : List Addition) (name : String) : Prop :=
  ∀ c, .column c ∈ as → Text.sameName c.name name = false

/-- The column, marked as part of the key if it was so before or if `inKey` holds. -/
def Column.markedIf (c : Column) (inKey : Bool) : Column :=
  { c with isPrimaryKey := c.isPrimaryKey || inKey }

namespace Column

variable (c : Column)

@[simp] theorem markedIf_false : c.markedIf false = c := by
  simp [markedIf]

@[simp] theorem markedIf_true : c.markedIf true = Table.marked c := by
  simp [markedIf, Table.marked]

@[simp] theorem markedIf_markedIf (inKey inKey' : Bool) :
    (c.markedIf inKey).markedIf inKey' = c.markedIf (inKey || inKey') := by
  simp [markedIf, Bool.or_assoc]

end Column

section Names

variable {as : List Addition} {name : String}

/-- A name is among those of the added columns exactly if some added column has that name up to
case. -/
theorem mem_filterMap_columnName? : Text.foldedAscii name ∈ as.filterMap Addition.columnName? ↔
    ∃ c, .column c ∈ as ∧ Text.sameName c.name name = true := by
  rw [List.mem_filterMap]
  constructor
  · rintro ⟨a, ha, hname⟩
    cases a with
    | column c => exact ⟨c, ha, Text.sameName_iff_foldedAscii.2 (Option.some.inj hname)⟩
    | key _ => cases hname
  · rintro ⟨c, hc, hname⟩
    exact ⟨.column c, hc, congrArg some (Text.sameName_iff_foldedAscii.1 hname)⟩

/-- `Lacks` by lower-case names. -/
theorem lacks_iff :
    Lacks as name ↔ Text.foldedAscii name ∉ as.filterMap Addition.columnName? := by
  rw [mem_filterMap_columnName?]
  simp only [Lacks, not_exists, not_and, Bool.not_eq_true]

end Names

namespace Table

variable {t : Table} {as : List Addition} {name : String}

/-- The table with one addition more. -/
def add (t : Table) : Addition → Table
  | .column c => t.addColumn c
  | .key name => t.addPrimaryKey name

/-- The table with additions, one after the other. -/
def addAll (t : Table) (as : List Addition) : Table := as.foldl add t

/-- A new table, which has no columns and no key. -/
def fresh (schema name : String) (kind : TableKind) : Table :=
  { schema := schema, name := name, kind := kind }

/-! ## The column of a name -/

/-- An addition without a column of that name changes the column found only by its key mark. -/
theorem column?_add_of_lacks {a : Addition} (h : Lacks [a] name) (t : Table) :
    (t.add a).column? name = (t.column? name).map fun c => c.markedIf (a.isKey name) := by
  cases a with
  | column c =>
    have hother : Text.sameName c.name name = false := h c List.mem_cons_self
    rw [add, column?_addColumn, hother, if_neg Bool.false_ne_true]
    simp [Addition.isKey]
  | key key =>
    rw [add, column?_addPrimaryKey, Addition.isKey]
    cases Text.sameName key name with
    | false => simp
    | true =>
      have hmarked : (fun c : Column => c.markedIf true) = marked :=
        funext Column.markedIf_true
      rw [if_pos rfl, hmarked]

/-- Without a new column of that name, a sequence of additions changes the column found only by its
key mark. -/
theorem column?_addAll_of_lacks (h : Lacks as name) (t : Table) :
    (t.addAll as).column? name =
      (t.column? name).map fun c => c.markedIf (as.any (Addition.isKey name)) := by
  induction as generalizing t with
  | nil => simp [addAll]
  | cons a as ih =>
    have hfirst : Lacks [a] name := by
      intro c hc
      exact h c (List.mem_cons.2 (.inl (List.mem_singleton.1 hc)))
    have hrest : Lacks as name := fun c hc => h c (List.mem_cons_of_mem a hc)
    have hstep : (t.addAll (a :: as)).column? name = ((t.add a).addAll as).column? name := rfl
    rw [hstep, ih hrest, column?_add_of_lacks hfirst, Option.map_map, List.any_cons]
    simp only [Function.comp_def, Column.markedIf_markedIf]

/-- The last added column of a name is the one found, marked if the name is added to the key after
it. -/
theorem column?_addAll_last {c : Column} {after : List Addition}
    (hname : Text.sameName c.name name = true) (h : Lacks after name) (t : Table)
    (before : List Addition) :
    (t.addAll (before ++ .column c :: after)).column? name =
      some (c.markedIf (after.any (Addition.isKey name))) := by
  have hsplit : t.addAll (before ++ .column c :: after) =
      ((t.addAll before).addColumn c).addAll after := List.foldl_append
  rw [hsplit, column?_addAll_of_lacks h, column?_addColumn, if_pos hname]
  rfl

/-! ## The names of all columns -/

/-- One addition appends at most one name, and only if it is new. -/
theorem foldedNames_add (t : Table) (a : Addition) :
    (t.add a).columns.map (fun d => Text.foldedAscii d.name) =
      a.columnName?.elim (t.columns.map fun d => Text.foldedAscii d.name) fun name =>
        if name ∈ t.columns.map fun d => Text.foldedAscii d.name then
          t.columns.map fun d => Text.foldedAscii d.name
        else (t.columns.map fun d => Text.foldedAscii d.name) ++ [name] := by
  cases a with
  | column c =>
    rw [add, foldedNames_addColumn]
    exact if_congr (isSome_column?_iff t c.name) rfl rfl
  | key key => exact foldedNames_addPrimaryKey t key

/-- The names of the columns are those added, in the order of their first addition, each once. -/
theorem foldedNames_addAll (hempty : t.columns = []) (as : List Addition) :
    (t.addAll as).columns.map (fun d => Text.foldedAscii d.name) = columnNames as :=
  collected_foldl (fun t : Table => t.columns.map fun d => Text.foldedAscii d.name) foldedNames_add
    (List.map_eq_nil_iff.2 hempty) as

/-- No two columns share a name up to case. -/
theorem nodup_foldedNames_addAll (hempty : t.columns = []) (as : List Addition) :
    ((t.addAll as).columns.map fun d => Text.foldedAscii d.name).Nodup := by
  rw [foldedNames_addAll hempty]
  exact nodup_eraseDups _

/-- The column of a name stands where the name was first added: behind the distinct names before
it. -/
theorem getElem?_columns_addAll (hempty : t.columns = []) {c : Column} {before : List Addition}
    (hname : Text.sameName c.name name = true) (h : Lacks before name) (after : List Addition) :
    (t.addAll (before ++ .column c :: after)).columns[(columnNames before).length]? =
      (t.addAll (before ++ .column c :: after)).column? name := by
  have hsame := Text.sameName_iff_foldedAscii.1 hname
  rw [lacks_iff, ← hsame] at h
  have hplace : (columnNames (before ++ .column c :: after))[(columnNames before).length]? =
      some (Text.foldedAscii c.name) := by
    rw [columnNames, List.filterMap_append]
    exact getElem?_eraseDups_append h _
  rw [← foldedNames_addAll hempty, List.getElem?_map] at hplace
  obtain ⟨d, hd, hdname⟩ := Option.map_eq_some_iff.1 hplace
  rw [hd, column?_of_mem (nodup_foldedNames_addAll hempty _) (List.mem_of_getElem? hd)
    (hdname.trans hsame)]

/-- One addition appends at most one name to the key, and only if it is new. -/
theorem foldedKeys_add (t : Table) (a : Addition) :
    (t.add a).primaryKeys.map Text.foldedAscii =
      a.keyName?.elim (t.primaryKeys.map Text.foldedAscii) fun name =>
        if name ∈ t.primaryKeys.map Text.foldedAscii then t.primaryKeys.map Text.foldedAscii
        else t.primaryKeys.map Text.foldedAscii ++ [name] := by
  cases a with
  | column c =>
    rw [add, primaryKeys_addColumn]
    rfl
  | key key =>
    rw [add, addPrimaryKey, apply_ite (List.map Text.foldedAscii), List.map_append]
    exact if_congr (isPrimaryKey_iff t key) rfl rfl

/-- The names of the key are those added to it, in the order of their first addition, each once. -/
theorem foldedKeys_addAll (hempty : t.primaryKeys = []) (as : List Addition) :
    (t.addAll as).primaryKeys.map Text.foldedAscii = keyNames as :=
  collected_foldl (fun t : Table => t.primaryKeys.map Text.foldedAscii) foldedKeys_add
    (List.map_eq_nil_iff.2 hempty) as

/-- The key columns are the names of the key for which a column was added, in the order of the
key. -/
theorem foldedNames_primaryKeyColumns_addAll (hcolumns : t.columns = [])
    (hkeys : t.primaryKeys = []) (as : List Addition) :
    (t.addAll as).primaryKeyColumns.map (fun d => Text.foldedAscii d.name) =
      (keyNames as).filter fun key => key ∈ columnNames as := by
  rw [foldedNames_primaryKeyColumns, foldedKeys_addAll hkeys, foldedNames_addAll hcolumns]

end Table

/-! ## What a table tells of its additions -/

/-- A table finds for a name the column that was added last, marked if the name was then added to the
key. It stands where the first column of that name was added, behind those of all names before. The
columns of the key follow the order in which the names of the key were first added. No two columns
have the same name up to case, and no two names of the key are the same. -/
structure Reflects (as : List Addition) (t : Table) : Prop where
  columns_apart : t.columns.Pairwise fun c d => Text.sameName c.name d.name = false
  keys_apart : t.primaryKeys.Pairwise fun a b => Text.sameName a b = false
  found_iff : ∀ name, (t.column? name).isSome = true ↔
    ∃ c, .column c ∈ as ∧ Text.sameName c.name name = true
  last : ∀ name before c after, as = before ++ .column c :: after →
    Text.sameName c.name name = true → Lacks after name →
      t.column? name = some (c.markedIf (after.any (Addition.isKey name)))
  first : ∀ name before c after, as = before ++ .column c :: after →
    Text.sameName c.name name = true → Lacks before name →
      t.columns[(columnNames before).length]? = t.column? name
  keyColumns : t.primaryKeyColumns.map (fun c => Text.foldedAscii c.name) =
    (keyNames as).filter fun key => key ∈ columnNames as
  keyColumns_found : ∀ c ∈ t.primaryKeyColumns, t.column? c.name = some c
  keyColumns_apart : t.primaryKeyColumns.Pairwise fun c d => Text.sameName c.name d.name = false

/-- Distinct lower-case names belong to members whose names differ in more than case. -/
theorem apart_of_nodup {α : Type} {name : α → String} {xs : List α}
    (h : (xs.map fun x => Text.foldedAscii (name x)).Nodup) :
    xs.Pairwise fun x y => Text.sameName (name x) (name y) = false :=
  (List.pairwise_map.1 h).imp Text.sameName_eq_false_iff.2

namespace Table

/-- A table that starts empty reflects any sequence of additions. -/
theorem reflects_addAll_fresh (schema name : String) (kind : TableKind) (as : List Addition) :
    Reflects as ((fresh schema name kind).addAll as) := by
  have hnames := foldedNames_addAll (t := fresh schema name kind) rfl as
  have hkeys := foldedKeys_addAll (t := fresh schema name kind) rfl as
  have hkeyColumns := foldedNames_primaryKeyColumns_addAll (t := fresh schema name kind) rfl rfl as
  have hnodup := nodup_foldedNames_addAll (t := fresh schema name kind) rfl as
  -- each field is one of the lemmas above, at the empty table
  refine
    { columns_apart := apart_of_nodup hnodup
      keys_apart := apart_of_nodup ?keys_apart
      found_iff := ?found_iff
      last := ?last
      first := ?first
      keyColumns := hkeyColumns
      keyColumns_found := ?keyColumns_found
      keyColumns_apart := apart_of_nodup ?keyColumns_apart }
  case keys_apart =>
    rw [hkeys]
    exact nodup_eraseDups _
  case found_iff =>
    intro name
    rw [isSome_column?_iff, hnames, columnNames, List.mem_eraseDups, mem_filterMap_columnName?]
  case last =>
    rintro name before c after rfl hname hlast
    exact column?_addAll_last hname hlast _ before
  case first =>
    rintro name before c after rfl hname hfirst
    exact getElem?_columns_addAll rfl hname hfirst after
  case keyColumns_found =>
    intro c hc
    exact column?_of_mem hnodup (mem_columns_of_mem_primaryKeyColumns hc) rfl
  case keyColumns_apart =>
    rw [hkeyColumns]
    exact (nodup_eraseDups _).filter _

/-- A column keeps its place when it is added again, but not the mark of the key. -/
example :
    let t := (fresh "SALES" "ORDERS" .table).addAll
      [.column (Column.ofType "ID" "NUMBER(38,0)"), .key "Phone", .key "id",
        .column (Column.ofType "Email" "VARCHAR(100)"), .key "ID",
        .column (Column.ofType "EMAIL" "VARCHAR(200)"), .column (Column.ofType "Id" "NUMBER(9,0)")]
    t.columns.map Column.name = ["Id", "EMAIL"] ∧ t.primaryKeys = ["Phone", "id"] ∧
      t.primaryKeyColumns.map Column.name = ["Id"] ∧
      (t.column? "id").map Column.isPrimaryKey = some false := by
  decide +kernel

end Table

end Catalog

end Snowbridge
