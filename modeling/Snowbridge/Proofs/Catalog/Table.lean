import Mathlib.Data.List.Forall2
import Mathlib.Data.List.Nodup
import Snowbridge.Catalog.Table
import Snowbridge.Proofs.Text.Name

/-!
# Names of columns

Names that differ in the case of ASCII letters alone are one name: a table gives the same column for
both (`column?_congr`). A column that is added is the one that its name then finds
(`column?_addColumn`), and a name that is added to the key marks its column. A table that is put
together column by column quotes every column by its own name (`Built.quoted`).
-/

namespace Snowbridge

namespace Catalog.Table

variable {t : Table} {name a b : String} {c d : Column}

/-! ## Columns of a name -/

/-- Lookup ignores case. -/
theorem column?_congr (h : Text.sameName a b = true) (t : Table) : t.column? a = t.column? b := by
  unfold column?
  simp only [Text.sameName_congr h]

theorem isPrimaryKey_congr (h : Text.sameName a b = true) (t : Table) :
    t.isPrimaryKey a = t.isPrimaryKey b := by
  unfold isPrimaryKey
  simp only [Text.sameName_congr h]

/-- A column that is found is one of the table. -/
theorem mem_columns_of_column? (h : t.column? name = some c) : c ∈ t.columns :=
  List.mem_of_find?_eq_some h

theorem sameName_of_column? (h : t.column? name = some c) : Text.sameName c.name name = true := by
  have hfound := List.find?_some h
  exact hfound

/-- A name has a column exactly if some column has it up to case. -/
theorem isSome_column?_iff (t : Table) (name : String) : (t.column? name).isSome = true ↔
    Text.foldedAscii name ∈ t.columns.map fun d => Text.foldedAscii d.name := by
  rw [column?, List.find?_isSome, List.mem_map]
  exact exists_congr fun _ => and_congr_right fun _ => Text.sameName_iff_foldedAscii

/-- If the names of the columns are distinct up to case, each column is found by every spelling of
its name. -/
theorem column?_of_mem (hapart : (t.columns.map fun d => Text.foldedAscii d.name).Nodup)
    (hc : c ∈ t.columns) (hname : Text.foldedAscii c.name = Text.foldedAscii name) :
    t.column? name = some c := by
  have hisSome : (t.column? name).isSome = true :=
    (isSome_column?_iff t name).2 (List.mem_map.2 ⟨c, hc, hname⟩)
  obtain ⟨d, hd⟩ := Option.isSome_iff_exists.1 hisSome
  have hsame : Text.foldedAscii d.name = Text.foldedAscii c.name :=
    (Text.sameName_iff_foldedAscii.1 (sameName_of_column? hd)).trans hname.symm
  rw [hd, List.inj_on_of_nodup_map hapart (mem_columns_of_column? hd) hc hsame]

/-- Names for which columns of one name are found are equal up to case. -/
theorem sameName_of_column?_eq (ha : t.column? a = some c) (hb : t.column? b = some d)
    (hname : c.name = d.name) : Text.sameName a b = true := by
  have hc := sameName_of_column? ha
  have hd := sameName_of_column? hb
  rw [Text.sameName_comm, hname] at hc
  rw [Text.sameName_iff] at hc hd ⊢
  exact hc.trans hd

/-- Columns that are found are equal if their names are. -/
theorem column_eq_of_name (ha : t.column? a = some c) (hb : t.column? b = some d)
    (hname : c.name = d.name) : c = d := by
  have hsame := column?_congr (sameName_of_column?_eq ha hb hname) t
  rw [ha, hb] at hsame
  exact Option.some.inj hsame

/-! ## Primary keys -/

/-- Membership in the key ignores case. -/
theorem isPrimaryKey_iff (t : Table) (name : String) : t.isPrimaryKey name = true ↔
    Text.foldedAscii name ∈ t.primaryKeys.map Text.foldedAscii := by
  rw [isPrimaryKey, List.any_eq_true, List.mem_map]
  exact exists_congr fun _ => and_congr_right fun _ => Text.sameName_iff_foldedAscii

theorem exists_of_mem_primaryKeyColumns (h : c ∈ t.primaryKeyColumns) :
    ∃ name ∈ t.primaryKeys, t.column? name = some c := List.mem_filterMap.1 h

theorem mem_columns_of_mem_primaryKeyColumns (h : c ∈ t.primaryKeyColumns) : c ∈ t.columns := by
  obtain ⟨name, -, hfound⟩ := exists_of_mem_primaryKeyColumns h
  exact mem_columns_of_column? hfound

/-- The key columns are those names of the key that have a column, in the order of the key. -/
theorem foldedNames_primaryKeyColumns (t : Table) :
    t.primaryKeyColumns.map (fun d => Text.foldedAscii d.name) =
      (t.primaryKeys.map Text.foldedAscii).filter fun key =>
        key ∈ t.columns.map fun d => Text.foldedAscii d.name := by
  unfold primaryKeyColumns
  generalize t.primaryKeys = names
  induction names with
  | nil => rfl
  | cons name names ih =>
    have hmem := isSome_column?_iff t name
    rw [List.map_cons, List.filter_cons]
    cases hfound : t.column? name with
    | none =>
      rw [hfound] at hmem
      rw [List.filterMap_cons_none hfound, ih, if_neg]
      simpa using hmem
    | some c =>
      rw [hfound] at hmem
      rw [List.filterMap_cons_some hfound, List.map_cons, ih, if_pos (by simpa using hmem),
        Text.sameName_iff_foldedAscii.1 (sameName_of_column? hfound)]

/-- If every name of the key has a column, the key columns match the names one by one. -/
theorem column?_primaryKeys (h : ∀ name ∈ t.primaryKeys, (t.column? name).isSome = true) :
    List.Forall₂ (fun name key => t.column? name = some key) t.primaryKeys
      t.primaryKeyColumns := by
  unfold primaryKeyColumns
  generalize t.primaryKeys = names at h ⊢
  induction names with
  | nil => exact .nil
  | cons name names ih =>
    rw [List.forall_mem_cons] at h
    obtain ⟨c, hc⟩ := Option.isSome_iff_exists.1 h.1
    rw [List.filterMap_cons_some hc]
    exact .cons hc (ih h.2)

/-! ## Additions -/

section Update

variable {f : Column → Column} {cs : List Column}

/-- Lookup after an update: only the lookup of the updated name changes. -/
theorem find?_updateFirst
    (hname : ∀ d ∈ cs, Text.sameName d.name name = true → Text.sameName (f d).name name = true)
    (other : String) :
    (updateFirst name f cs).find? (fun d => Text.sameName d.name other) =
      if Text.sameName name other then (cs.find? fun d => Text.sameName d.name other).map f
      else cs.find? fun d => Text.sameName d.name other := by
  induction cs with
  | nil => simp [updateFirst]
  | cons d cs ih =>
    obtain ⟨hd, hrest⟩ := List.forall_mem_cons.1 hname
    rw [updateFirst, List.find?_cons]
    cases hsame : Text.sameName d.name name with
    | true =>
      -- the names of the column before and after are both spellings of `name`
      have hbefore : Text.sameName d.name other = Text.sameName name other := by
        rw [Text.sameName_comm, Text.sameName_congr hsame, Text.sameName_comm]
      have hafter : Text.sameName (f d).name other = Text.sameName name other := by
        rw [Text.sameName_comm, Text.sameName_congr (hd hsame), Text.sameName_comm]
      rw [if_pos rfl, List.find?_cons, hafter, hbefore]
      cases Text.sameName name other <;> rfl
    | false =>
      rw [if_neg Bool.false_ne_true, List.find?_cons, ih hrest]
      cases hother : Text.sameName d.name other with
      | false => rfl
      | true =>
        have hne : Text.sameName name other = false := by
          rw [← Text.sameName_congr hother, Text.sameName_comm, hsame]
        rw [hne]
        rfl

/-- An update without a matching column changes nothing. -/
theorem updateFirst_of_find?_eq_none (h : cs.find? (fun d => Text.sameName d.name name) = none) :
    updateFirst name f cs = cs := by
  induction cs with
  | nil => rfl
  | cons d cs ih =>
    rw [List.find?_cons] at h
    cases hsame : Text.sameName d.name name with
    | true =>
      rw [hsame] at h
      cases h
    | false =>
      rw [hsame] at h
      rw [updateFirst, hsame, if_neg Bool.false_ne_true, ih h]

/-- An update that keeps the name up to case keeps the names of the columns. -/
theorem foldedNames_updateFirst
    (hname : ∀ d ∈ cs, Text.sameName d.name name = true → Text.sameName (f d).name d.name = true) :
    (updateFirst name f cs).map (fun d => Text.foldedAscii d.name) =
      cs.map fun d => Text.foldedAscii d.name := by
  induction cs with
  | nil => rfl
  | cons d cs ih =>
    obtain ⟨hd, hrest⟩ := List.forall_mem_cons.1 hname
    rw [updateFirst]
    split
    · next hsame =>
      rw [List.map_cons, List.map_cons, Text.sameName_iff_foldedAscii.1 (hd hsame)]
    · rw [List.map_cons, List.map_cons, ih hrest]

end Update

/-- The added column is found by its name, and all other names are found as before. -/
theorem column?_addColumn (t : Table) (c : Column) (other : String) :
    (t.addColumn c).column? other =
      if Text.sameName c.name other then some c else t.column? other := by
  unfold addColumn
  split
  · next hfound =>
    have hupdated : (updateFirst c.name (fun _ => c) t.columns).find?
        (fun d => Text.sameName d.name other) = _ :=
      find?_updateFirst (fun _ _ _ => (Text.sameName_iff.2 rfl)) other
    -- a column of this name is replaced in its place
    rw [column?, hupdated]
    split
    · next hsame =>
      rw [column?_congr hsame] at hfound
      obtain ⟨d, hd⟩ := Option.isSome_iff_exists.1 hfound
      have hd' : t.columns.find? (fun d => Text.sameName d.name other) = some d := hd
      rw [hd']
      rfl
    · rfl
  · next hnone =>
    -- a new name goes to the end, where it is found only by itself
    rw [column?, List.find?_append, List.find?_singleton]
    split
    · next hsame =>
      have hmissing : t.columns.find? (fun d => Text.sameName d.name other) = none := by
        rw [column?_congr hsame] at hnone
        exact Option.not_isSome_iff_eq_none.1 hnone
      rw [hmissing]
      rfl
    · exact Option.or_none

/-- An added column appends its name if it is new. -/
theorem foldedNames_addColumn (t : Table) (c : Column) :
    (t.addColumn c).columns.map (fun d => Text.foldedAscii d.name) =
      if (t.column? c.name).isSome then t.columns.map fun d => Text.foldedAscii d.name
      else (t.columns.map fun d => Text.foldedAscii d.name) ++ [Text.foldedAscii c.name] := by
  unfold addColumn
  split
  · refine foldedNames_updateFirst fun d _ hsame => ?_
    rwa [Text.sameName_comm]
  · rw [List.map_append]
    rfl

/-- Adding a column leaves the key alone. -/
theorem primaryKeys_addColumn (t : Table) (c : Column) :
    (t.addColumn c).primaryKeys = t.primaryKeys := by
  unfold addColumn
  split <;> rfl

/-- The column, marked as part of the key. -/
def marked (c : Column) : Column := { c with isPrimaryKey := true }

/-- Adding a name to the key marks the column of that name and changes no other. -/
theorem column?_addPrimaryKey (t : Table) (key other : String) :
    (t.addPrimaryKey key).column? other =
      if Text.sameName key other then (t.column? other).map marked else t.column? other := by
  have hname : ∀ d ∈ t.columns, Text.sameName d.name key = true →
      Text.sameName (marked d).name key = true := fun _ _ hsame => hsame
  exact find?_updateFirst hname other

theorem foldedNames_addPrimaryKey (t : Table) (key : String) :
    (t.addPrimaryKey key).columns.map (fun d => Text.foldedAscii d.name) =
      t.columns.map fun d => Text.foldedAscii d.name := by
  have hname : ∀ d ∈ t.columns, Text.sameName d.name key = true →
      Text.sameName (marked d).name d.name = true := fun _ _ _ => Text.sameName_iff.2 rfl
  exact foldedNames_updateFirst hname

/-! ## Tables that are put together -/

/-- Every column is quoted by its own name. -/
def Quoted (t : Table) : Prop := ∀ c ∈ t.columns, c.quotedName = Sql.quoteIdentifier c.name

/-- Tables built from columns that are quoted by their names and from names of the key. -/
inductive Built : Table → Prop where
  | empty {t : Table} (hcolumns : t.columns = []) (hkeys : t.primaryKeys = []) : Built t
  | addColumn {t : Table} {c : Column} (hquoted : c.quotedName = Sql.quoteIdentifier c.name)
      (h : Built t) : Built (t.addColumn c)
  | addPrimaryKey {t : Table} (name : String) (h : Built t) : Built (t.addPrimaryKey name)

/-- Every column after an update is an old one or the updated one. -/
theorem mem_updateFirst {f : Column → Column} {cs : List Column} (h : c ∈ updateFirst name f cs) :
    c ∈ cs ∨ ∃ d ∈ cs, c = f d := by
  induction cs with
  | nil => cases h
  | cons d cs ih =>
    rw [updateFirst] at h
    split at h
    · rcases List.mem_cons.1 h with rfl | hrest
      · exact .inr ⟨d, List.mem_cons_self, rfl⟩
      · exact .inl (List.mem_cons_of_mem d hrest)
    · rcases List.mem_cons.1 h with rfl | hrest
      · exact .inl List.mem_cons_self
      · rcases ih hrest with hmem | ⟨d', hmem, hc⟩
        · exact .inl (List.mem_cons_of_mem d hmem)
        · exact .inr ⟨d', List.mem_cons_of_mem d hmem, hc⟩

/-- Every column after an addition is an old one or the new one. -/
theorem mem_addColumn (h : c ∈ (t.addColumn d).columns) : c ∈ t.columns ∨ c = d := by
  unfold addColumn at h
  split at h
  · rcases mem_updateFirst h with hmem | ⟨-, -, hc⟩
    · exact .inl hmem
    · exact .inr hc
  · rcases List.mem_append.1 h with hmem | hlast
    · exact .inl hmem
    · exact .inr (List.mem_singleton.1 hlast)

/-- A built table quotes every column by its name. -/
theorem Built.quoted (h : t.Built) : t.Quoted := by
  -- induction on the construction of the table
  induction h with
  | empty hcolumns _ =>
    intro c hc
    rw [hcolumns] at hc
    cases hc
  | addColumn hquoted _ ih =>
    intro c hc
    rcases mem_addColumn hc with hmem | rfl
    · exact ih c hmem
    · exact hquoted
  | addPrimaryKey name _ ih =>
    intro c hc
    rcases mem_updateFirst hc with hmem | ⟨d, hmem, rfl⟩
    · exact ih c hmem
    · exact ih d hmem

end Catalog.Table

end Snowbridge
