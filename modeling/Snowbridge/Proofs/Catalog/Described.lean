import Mathlib.Data.List.Induction
import Mathlib.Data.List.Nodup
import Snowbridge.Proofs.Catalog.Assembly
import Snowbridge.Proofs.Catalog.Filling

/-!
# Columns that rows describe

A table that takes the columns of a result has one column for each name up to the case of ASCII
letters, in the order in which the names were met, and the last row of a name describes its column.
Rows whose names differ in more than case therefore keep a column each, in their order, and the key
lists those that are flagged.
-/

namespace Snowbridge

namespace Catalog

/-! ## Rows -/

/-- The name that a row gives to its column. -/
def rowName (r : Row) : String := (r.nonBlank? "name").getD ""

/-- The column that a row describes. -/
def describedColumn (r : Row) : Column := (columnOfRow r (rowName r)).1

/-- Whether a row says that its column belongs to the primary key. -/
def isFlagged (r : Row) : Bool := saysYes r "primary key"

/-- If the names of the rows are distinct, a row is flagged exactly if its name is among those of
the flagged rows. -/
theorem isFlagged_iff_mem {r : Row} {rs : List Row}
    (hapart : (rs.map fun r => Text.foldedAscii (rowName r)).Nodup) (hr : r ∈ rs) :
    isFlagged r = true ↔ rowName r ∈ (rs.filter isFlagged).map rowName := by
  constructor
  · intro hflag
    exact List.mem_map.2 ⟨r, List.mem_filter.2 ⟨hr, hflag⟩, rfl⟩
  · intro hmem
    obtain ⟨r', hr', hname⟩ := List.mem_map.1 hmem
    obtain ⟨hmem', hflag⟩ := List.mem_filter.1 hr'
    have hsame : r' = r :=
      List.inj_on_of_nodup_map hapart hmem' hr (congrArg Text.foldedAscii hname)
    exact hsame ▸ hflag

namespace Table

variable {t t' : Table} {c : Column × Option String} {r : Row} {rs : List Row}

/-! ## One column -/

/-- Adding a name to the key creates no column. -/
theorem column?_keyedBy_isSome (t : Table) (c : Column) :
    ((t.keyedBy c).column? c.name).isSome = (t.column? c.name).isSome := by
  unfold keyedBy
  split
  · rw [column?_addPrimaryKey]
    split
    · exact Option.isSome_map
    · rfl
  · rfl

/-- A described column is found by its name, and changes no other. -/
theorem column?_addDescribed (t : Table) (c : Column × Option String) (other : String) :
    (t.addDescribed c).column? other =
      if Text.sameName c.1.name other then some c.1 else t.column? other := by
  rw [addDescribed, column?_addColumn]
  split
  · rfl
  · next hne =>
    unfold keyedBy
    split
    · rw [column?_addPrimaryKey, if_neg hne]
      rfl
    · rfl

/-- A described column appends its name if it is new. -/
theorem foldedNames_addDescribed (t : Table) (c : Column × Option String) :
    (t.addDescribed c).columns.map (fun d => Text.foldedAscii d.name) =
      if (t.column? c.1.name).isSome then t.columns.map fun d => Text.foldedAscii d.name
      else (t.columns.map fun d => Text.foldedAscii d.name) ++ [Text.foldedAscii c.1.name] := by
  have hnames : ((t.numberedBy c.2).keyedBy c.1).columns.map (fun d => Text.foldedAscii d.name) =
      t.columns.map fun d => Text.foldedAscii d.name := by
    unfold keyedBy
    split
    · exact foldedNames_addPrimaryKey _ _
    · rfl
  rw [addDescribed, foldedNames_addColumn, column?_keyedBy_isSome, hnames]
  rfl

/-- A described column with a new name is appended. -/
theorem columns_addDescribed (h : t.column? c.1.name = none) :
    (t.addDescribed c).columns = t.columns ++ [c.1] := by
  have hcolumns : ((t.numberedBy c.2).keyedBy c.1).columns = t.columns := by
    unfold keyedBy
    split
    · exact updateFirst_of_find?_eq_none h
    · rfl
  have hmissing : ((t.numberedBy c.2).keyedBy c.1).column? c.1.name = none := by
    rw [column?, hcolumns]
    exact h
  rw [addDescribed, addColumn, hmissing, hcolumns]
  rfl

/-- A flagged column appends its name to the key if it is new there. -/
theorem primaryKeys_addDescribed (t : Table) (c : Column × Option String) :
    (t.addDescribed c).primaryKeys =
      if c.1.isPrimaryKey && !t.isPrimaryKey c.1.name then t.primaryKeys ++ [c.1.name]
      else t.primaryKeys := by
  rw [addDescribed, primaryKeys_addColumn, keyedBy]
  cases c.1.isPrimaryKey with
  | false => rfl
  | true =>
    show (if t.isPrimaryKey c.1.name then _ else _) = _
    cases t.isPrimaryKey c.1.name <;> rfl

/-! ## All columns -/

/-- The table with the column of a row. -/
def describe (t : Table) (r : Row) : Table := t.addDescribed (columnOfRow r (rowName r))

/-- Rows that all have names are described one after the other, without a fault. -/
theorem addRows_eq (h : ∀ r ∈ rs, (r.nonBlank? "name").isSome = true) (t : Table) :
    rs.foldlM addRow t = .ok (rs.foldl describe t) := by
  induction rs generalizing t with
  | nil => rfl
  | cons r rs ih =>
    obtain ⟨hr, hrest⟩ := List.forall_mem_cons.1 h
    obtain ⟨name, hname⟩ := Option.isSome_iff_exists.1 hr
    have hrow : t.addRow r = .ok (t.describe r) := by
      rw [addRow_eq hname, describe, rowName, hname]
      rfl
    rw [List.foldlM_cons, hrow]
    exact ih hrest (t.describe r)

section Fold

variable (hempty : t.columns = [])

include hempty

/-- The column found for a name is described by the last row of that name. -/
theorem column?_describe (rs : List Row) (other : String) :
    (rs.foldl describe t).column? other =
      (rs.reverse.find? fun r => Text.sameName (rowName r) other).map describedColumn := by
  -- induction from the last row, which is the one that counts
  induction rs using List.reverseRecOn with
  | nil =>
    show t.columns.find? _ = none
    rw [hempty]
    rfl
  | append_singleton rs r ih =>
    rw [List.foldl_concat, describe, column?_addDescribed, List.reverse_concat, List.find?_cons, ih]
    show (if Text.sameName (rowName r) other then _ else _) = _
    cases Text.sameName (rowName r) other <;> rfl

/-- A name has a column exactly if some row has that name up to case. -/
theorem isSome_column?_describe (rs : List Row) (name : String) :
    ((rs.foldl describe t).column? name).isSome = true ↔
      Text.foldedAscii name ∈ rs.map fun r => Text.foldedAscii (rowName r) := by
  rw [column?_describe hempty, Option.isSome_map, List.find?_isSome, List.mem_map]
  refine exists_congr fun r => ?_
  rw [List.mem_reverse, Text.sameName_iff_foldedAscii]

/-- The names of the columns are those of the rows, in the order of first occurrence. -/
theorem foldedNames_describe (rs : List Row) :
    (rs.foldl describe t).columns.map (fun d => Text.foldedAscii d.name) =
      (rs.map fun r => Text.foldedAscii (rowName r)).eraseDups := by
  have hall : rs.filterMap (some ∘ fun r => Text.foldedAscii (rowName r)) =
      rs.map fun r => Text.foldedAscii (rowName r) := congrFun List.filterMap_eq_map rs
  rw [← hall]
  refine collected_foldl (fun t : Table => t.columns.map fun d => Text.foldedAscii d.name) ?_
    (List.map_eq_nil_iff.2 hempty) rs
  intro t r
  rw [describe, foldedNames_addDescribed]
  exact if_congr (isSome_column?_iff t (rowName r)) rfl rfl

/-- If the names of the rows are distinct, the columns are the described ones, in the order of the
rows. -/
theorem columns_describe (hapart : (rs.map fun r => Text.foldedAscii (rowName r)).Nodup) :
    (rs.foldl describe t).columns = rs.map describedColumn := by
  induction rs using List.reverseRecOn with
  | nil => exact hempty
  | append_singleton rs r ih =>
    rw [List.map_append, List.map_singleton, ← List.concat_eq_append, List.nodup_concat] at hapart
    have hmissing : (rs.foldl describe t).column? (rowName r) = none := by
      rw [← Option.not_isSome_iff_eq_none, isSome_column?_describe hempty]
      exact hapart.1
    have hlast : ((rs.foldl describe t).describe r).columns =
        (rs.foldl describe t).columns ++ [describedColumn r] := columns_addDescribed hmissing
    rw [List.foldl_concat, hlast, ih hapart.2, List.map_append]
    rfl

end Fold

/-- If the names of the rows are distinct, the key has the names of the flagged rows, in their
order. -/
theorem primaryKeys_describe (hempty : t.primaryKeys = [])
    (hapart : (rs.map fun r => Text.foldedAscii (rowName r)).Nodup) :
    (rs.foldl describe t).primaryKeys = (rs.filter isFlagged).map rowName := by
  -- induction from the last row: its name is new to the key
  induction rs using List.reverseRecOn with
  | nil => exact hempty
  | append_singleton rs r ih =>
    rw [List.map_append, List.map_singleton, ← List.concat_eq_append, List.nodup_concat] at hapart
    have hnew : (rs.foldl describe t).isPrimaryKey (rowName r) = false := by
      rw [isPrimaryKey, ih hapart.2, List.any_eq_false]
      intro name hname hsame
      obtain ⟨r', hr', rfl⟩ := List.mem_map.1 hname
      refine hapart.1 (List.mem_map.2 ⟨r', (List.mem_filter.1 hr').1, ?_⟩)
      exact Text.sameName_iff_foldedAscii.1 hsame
    have hlast : ((rs.foldl describe t).describe r).primaryKeys =
        if isFlagged r && !(rs.foldl describe t).isPrimaryKey (rowName r) then
          (rs.foldl describe t).primaryKeys ++ [rowName r]
        else (rs.foldl describe t).primaryKeys := primaryKeys_addDescribed _ _
    rw [List.foldl_concat, hlast, hnew, ih hapart.2, List.filter_append, List.map_append,
      List.filter_singleton]
    cases isFlagged r with
    | true => rfl
    | false => exact (List.append_nil _).symm

end Table

/-! ## Columns that are loaded -/

section Load

variable {t : Table} {s s' : Session} {rows : RowSet}

/-- Loading clears the table and then describes all rows that were read. -/
theorem run_loadColumns (hread : (columnScript t).run.run s = (.ok rows, s'))
    (hnamed : ∀ r ∈ rows.toList, (r.nonBlank? "name").isSome = true) :
    (loadColumns t).run s = (.ok (rows.toList.foldl Table.describe t.cleared), s') :=
  Filling.run_fill (run_fillColumns_of_withRows hread (Table.addRows_eq hnamed t.cleared))

/-- A column without regard to whether it belongs to the key. -/
def unmarked (c : Column) : Column := { c with isPrimaryKey := false }

/-- The columns have the names of the rows, in the order of first occurrence and each once up to
case, and each is described by the last row of its name. If the names are distinct up to case, the
columns follow the rows, and the key has the names of the flagged rows, whose columns are marked. -/
theorem loadColumns_describes (hread : (columnScript t).run.run s = (.ok rows, s'))
    (hnamed : ∀ r ∈ rows.toList, (r.nonBlank? "name").isSome = true) :
    ∃ t', (loadColumns t).run s = (.ok t', s') ∧
      (t'.columns.map fun c => Text.foldedAscii c.name) =
        (rows.toList.map fun r => Text.foldedAscii (rowName r)).eraseDups ∧
      (∀ name, (t'.column? name).map unmarked =
        (rows.toList.reverse.find? fun r => Text.sameName (rowName r) name).map fun r =>
          unmarked (describedColumn r)) ∧
      ((rows.toList.map fun r => Text.foldedAscii (rowName r)).Nodup →
        t'.columns = rows.toList.map describedColumn ∧
        t'.primaryKeys = (rows.toList.filter isFlagged).map rowName ∧
        ∀ c ∈ t'.columns, c.isPrimaryKey = true ↔ c.name ∈ t'.primaryKeys) := by
  have hempty : t.cleared.columns = [] := rfl
  refine ⟨_, run_loadColumns hread hnamed, Table.foldedNames_describe hempty _, ?_, ?_⟩
  · intro name
    rw [Table.column?_describe hempty, Option.map_map]
    rfl
  · intro hapart
    have hcolumns := Table.columns_describe hempty hapart
    have hkeys := Table.primaryKeys_describe (t := t.cleared) rfl hapart
    refine ⟨hcolumns, hkeys, ?_⟩
    intro c hc
    rw [hcolumns] at hc
    rw [hkeys]
    obtain ⟨r, hr, rfl⟩ := List.mem_map.1 hc
    exact isFlagged_iff_mem hapart hr

/-- A table with a stale column and key is loaded from two rows, of which the first is flagged. -/
theorem loadColumns_describes_orders :
    (∀ r ∈ (orderRows (.text "TOTAL")).toList, (r.nonBlank? "name").isSome = true) ∧
    ∃ t' s', (columnScript staleOrders).run.run (describing (orderRows (.text "TOTAL"))) =
        (.ok (orderRows (.text "TOTAL")), s') ∧
      (loadColumns staleOrders).run (describing (orderRows (.text "TOTAL"))) = (.ok t', s') ∧
      t'.columns.map Column.name = ["ID", "TOTAL"] ∧ t'.primaryKeys = ["ID"] := by
  have hread : (columnScript staleOrders).run.run (describing (orderRows (.text "TOTAL"))) =
      (.ok (orderRows (.text "TOTAL")), _) := rfl
  have hnamed : ∀ r ∈ (orderRows (.text "TOTAL")).toList, (r.nonBlank? "name").isSome = true := by
    decide +kernel
  obtain ⟨t', hload, -, -, hapart⟩ := loadColumns_describes hread hnamed
  obtain ⟨hcolumns, hkeys, -⟩ := hapart (by decide +kernel)
  refine ⟨hnamed, t', _, hread, hload, ?_, ?_⟩
  · rw [hcolumns]
    decide +kernel
  · rw [hkeys]
    decide +kernel

/-- Two rows named `ID` and `id` share one column. -/
theorem exists_shared_column :
    (∀ r ∈ (orderRows (.text "id")).toList, (r.nonBlank? "name").isSome = true) ∧
    ((orderRows (.text "id")).toList.map rowName).Nodup ∧
    ∃ t' s', (loadColumns staleOrders).run (describing (orderRows (.text "id"))) = (.ok t', s') ∧
      (orderRows (.text "id")).toList.length = 2 ∧ t'.columns.length = 1 := by
  have hread : (columnScript staleOrders).run.run (describing (orderRows (.text "id"))) =
      (.ok (orderRows (.text "id")), _) := rfl
  have hnamed : ∀ r ∈ (orderRows (.text "id")).toList, (r.nonBlank? "name").isSome = true := by
    decide +kernel
  refine ⟨hnamed, by decide +kernel, _, _, run_loadColumns hread hnamed, rfl, ?_⟩
  decide +kernel

end Load

end Catalog

end Snowbridge
