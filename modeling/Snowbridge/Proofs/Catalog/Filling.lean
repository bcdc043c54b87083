import Snowbridge.Catalog.Reader
import Snowbridge.Proofs.Results
import Snowbridge.Proofs.Session.Script

/-!
# Filling a description

A filling that fails leaves the description of its caller as it was: everything that may fail comes
before the description is replaced. A table that is filled keeps its names and its kind, and all
else comes from the rows, since rows do the same to every table (`withRows_relabel`).
-/

namespace Snowbridge.Catalog

/-! ## Calls of a filling -/

namespace Filling

variable {δ α : Type}

theorem run_held (d : δ) (s : Session) :
    (held : Filling δ δ).run (d, s) = (.ok d, d, s) := rfl

/-- A filling that succeeds returns the filled description. -/
theorem run_fill {f : Filling δ Unit} {d d' : δ} {s s' : Session}
    (h : f.run (d, s) = (.ok (), d', s')) : (f.fill d).run s = (.ok d', s') := by
  show (((f.run (d, s)).1.map fun _ => (f.run (d, s)).2.1, (f.run (d, s)).2.2) :
    Except CatalogError δ × Session) = _
  rw [h]
  rfl

/-- A call on the session does not touch the description. -/
theorem run_onSession {c : Call CatalogError α} {s s' : Session} {result : Except CatalogError α}
    (h : c.run s = (result, s')) (d : δ) : (onSession c).run (d, s) = (result, d, s') := by
  show (((c.run s).1, d, (c.run s).2) : _ × δ × Session) = _
  rw [h]

end Filling

/-! ## Rows and the names of a table -/

namespace Table

variable {t t' u : Table} {rows : RowSet} {r : Row}

/-- The table with a sequence, if one is given. -/
def numberedBy (t : Table) (sequence : Option String) : Table :=
  { t with sequence := sequence.orElse fun _ => t.sequence }

/-- The table with the name of a column in its key, if the column belongs there. -/
def keyedBy (t : Table) (c : Column) : Table := if c.isPrimaryKey then t.addPrimaryKey c.name else t

/-- The table with a column as a row describes it, and the sequence that goes with it. -/
def addDescribed (t : Table) (c : Column × Option String) : Table :=
  ((t.numberedBy c.2).keyedBy c.1).addColumn c.1

/-- A row that names a column adds the column it describes. -/
theorem addRow_eq {name : String} (h : r.nonBlank? "name" = some name) :
    t.addRow r = .ok (t.addDescribed (columnOfRow r name)) := by
  rw [addRow, h]
  rfl

/-- The table `t` with the schema, name and kind of `u`. -/
def relabel (t u : Table) : Table := { t with schema := u.schema, name := u.name, kind := u.kind }

theorem relabel_addColumn (t u : Table) (c : Column) :
    (t.relabel u).addColumn c = (t.addColumn c).relabel u := by
  unfold addColumn
  have hcolumn : (t.relabel u).column? c.name = t.column? c.name := rfl
  rw [hcolumn]
  split <;> rfl

theorem relabel_keyedBy (t u : Table) (c : Column) :
    (t.relabel u).keyedBy c = (t.keyedBy c).relabel u := by
  unfold keyedBy
  split <;> rfl

theorem relabel_addDescribed (t u : Table) (c : Column × Option String) :
    (t.relabel u).addDescribed c = (t.addDescribed c).relabel u := by
  have hnumbered : (t.relabel u).numberedBy c.2 = (t.numberedBy c.2).relabel u := rfl
  rw [addDescribed, hnumbered, relabel_keyedBy, relabel_addColumn]
  rfl

/-- Adding a row commutes with relabelling. -/
theorem relabel_addRow (h : t.addRow r = .ok t') (u : Table) :
    (t.relabel u).addRow r = .ok (t'.relabel u) := by
  cases hname : r.nonBlank? "name" with
  | none =>
    rw [addRow, hname] at h
    cases h
  | some name =>
    rw [addRow_eq hname] at h ⊢
    cases h
    rw [relabel_addDescribed]

/-- So does adding all rows. -/
theorem relabel_addRows {rs : List Row} (h : rs.foldlM addRow t = .ok t') (u : Table) :
    rs.foldlM addRow (t.relabel u) = .ok (t'.relabel u) := by
  induction rs generalizing t with
  | nil =>
    cases h
    rfl
  | cons r rs ih =>
    rw [List.foldlM_cons] at h ⊢
    cases hr : t.addRow r with
    | error e =>
      rw [hr] at h
      cases h
    | ok next =>
      rw [hr] at h
      rw [relabel_addRow hr u]
      exact ih h

/-- The rows determine columns, key and sequence, whatever table they are filled into. -/
theorem withRows_relabel (h : t.withRows rows = .ok t') (u : Table) :
    u.withRows rows = .ok (t'.relabel u) := relabel_addRows h u

/-- Filling keeps schema, name and kind. -/
theorem relabel_of_withRows (h : t.withRows rows = .ok t') : t'.relabel t = t' := by
  have hagain := withRows_relabel h t
  rw [h] at hagain
  exact (Except.ok.inj hagain).symm

end Table

/-! ## Tables -/

section Columns

variable {t t' : Table} {s s' : Session} {rows : RowSet} {e : CatalogError}

/-- A failed script leaves the table unchanged. -/
theorem run_fillColumns_unread {fault : DatabaseError}
    (h : (columnScript t).run.run s = (.error fault, s')) :
    fillColumns.run (t, s) = (.error (.ofDatabase fault), t, s') := by
  have hread : (Call.mapError CatalogError.ofDatabase (columnScript t).run).run s =
      (.error (.ofDatabase fault), s') := by
    rw [run_mapError, h]
    rfl
  rw [fillColumns, run_bind_ok (Filling.run_held t s)]
  exact run_bind_error (Filling.run_onSession hread t)

/-- Rows that were read replace the table, or a faulty row leaves it unchanged. -/
theorem run_fillColumns_read (h : (columnScript t).run.run s = (.ok rows, s')) :
    fillColumns.run (t, s) = ((t.withRows rows).map fun _ => (),
      (match t.withRows rows with
        | .ok t' => t'
        | .error _ => t), s') := by
  have hread : (Call.mapError CatalogError.ofDatabase (columnScript t).run).run s =
      (.ok rows, s') := by
    rw [run_mapError, h]
    rfl
  have hrows : (lift (t.withRows rows)).run s' = (t.withRows rows, s') := rfl
  rw [fillColumns, run_bind_ok (Filling.run_held t s), run_bind_ok (Filling.run_onSession hread t)]
  cases hmade : t.withRows rows with
  | error e =>
    rw [hmade] at hrows
    exact run_bind_error (Filling.run_onSession hrows t)
  | ok t' =>
    rw [hmade] at hrows
    rw [run_bind_ok (Filling.run_onSession hrows t)]
    rfl

theorem run_fillColumns_of_withRows (h : (columnScript t).run.run s = (.ok rows, s'))
    (hmade : t.withRows rows = .ok t') : fillColumns.run (t, s) = (.ok (), t', s') := by
  rw [run_fillColumns_read h, hmade]
  rfl

/-- A filling leaves the table unchanged, or replaces it by what the rows describe. -/
theorem run_fillColumns_cases (t : Table) (s : Session) :
    (∃ e s', fillColumns.run (t, s) = (.error e, t, s')) ∨
    ∃ rows t' s', (columnScript t).run.run s = (.ok rows, s') ∧ t.withRows rows = .ok t' ∧
      fillColumns.run (t, s) = (.ok (), t', s') := by
  rcases hread : (columnScript t).run.run s with ⟨fault | rows, s'⟩
  · exact .inl ⟨_, s', run_fillColumns_unread hread⟩
  · cases hmade : t.withRows rows with
    | error e =>
      left
      refine ⟨e, s', ?_⟩
      rw [run_fillColumns_read hread, hmade]
      rfl
    | ok t' => exact .inr ⟨rows, t', s', rfl, hmade, run_fillColumns_of_withRows hread hmade⟩

/-- A filling of a table that fails leaves it unchanged. -/
theorem eq_of_run_fillColumns_error (h : fillColumns.run (t, s) = (.error e, t', s')) : t' = t := by
  rcases run_fillColumns_cases t s with ⟨e', q, hrun⟩ | ⟨_, made, q, -, -, hrun⟩
  · rw [hrun] at h
    cases h
    rfl
  · rw [hrun] at h
    cases h

/-- A filling of a table that succeeds has read the rows that describe it. -/
theorem exists_rows_of_run_fillColumns (h : fillColumns.run (t, s) = (.ok (), t', s')) :
    ∃ rows, (columnScript t).run.run s = (.ok rows, s') ∧ t.withRows rows = .ok t' := by
  rcases run_fillColumns_cases t s with ⟨e', q, hrun⟩ | ⟨rows, made, q, hread, hmade, hrun⟩
  · rw [hrun] at h
    cases h
  · rw [hrun] at h
    cases h
    exact ⟨rows, hread, hmade⟩

end Columns

/-! ## Routines -/

/-- A filling of a routine that fails leaves it unchanged. -/
theorem eq_of_run_fillParameters_error {routine routine' : Routine} {s s' : Session}
    {e : CatalogError} (h : fillParameters.run (routine, s) = (.error e, routine', s')) :
    routine' = routine := by
  rw [fillParameters, run_bind_ok (Filling.run_held routine s)] at h
  rcases hread : (signatureRows routine).run s with ⟨fault | rows, q⟩
  · rw [run_bind_error (Filling.run_onSession hread routine)] at h
    cases h
    rfl
  · rw [run_bind_ok (Filling.run_onSession hread routine)] at h
    -- nothing fails once there is a signature
    cases hrows : rows.toList with
    | nil =>
      rw [hrows] at h
      cases h
      rfl
    | cons r rest =>
      rw [hrows] at h
      cases hrest : rest.isEmpty <;> simp only [hrest] at h <;> cases h

/-! ## All or nothing -/

/-- A filling that fails leaves the description unchanged. One that succeeds keeps schema, name and
kind of a table, and the rows alone determine its columns, key and sequence, so filling it again
from the same rows changes nothing. -/
theorem fill_all_or_nothing :
    (∀ (t t' : Table) (s s' : Session) (e : CatalogError),
      fillColumns.run (t, s) = (.error e, t', s') → t' = t) ∧
    (∀ (routine routine' : Routine) (s s' : Session) (e : CatalogError),
      fillParameters.run (routine, s) = (.error e, routine', s') → routine' = routine) ∧
    ∀ (t t' : Table) (s s' : Session), fillColumns.run (t, s) = (.ok (), t', s') →
      t'.schema = t.schema ∧ t'.name = t.name ∧ t'.kind = t.kind ∧
      ∃ rows, (columnScript t).run.run s = (.ok rows, s') ∧
        (∀ (u : Table) (p p' : Session), (columnScript u).run.run p = (.ok rows, p') →
          ∃ u', fillColumns.run (u, p) = (.ok (), u', p') ∧ u'.columns = t'.columns ∧
            u'.primaryKeys = t'.primaryKeys ∧ u'.sequence = t'.sequence) ∧
        ∀ p p' : Session, (columnScript t').run.run p = (.ok rows, p') →
          fillColumns.run (t', p) = (.ok (), t', p') := by
  -- the first two parts are the failures, the third is a filling that succeeds
  refine ⟨fun _ _ _ _ _ h => eq_of_run_fillColumns_error h,
    fun _ _ _ _ _ h => eq_of_run_fillParameters_error h, ?_⟩
  intro t t' s s' h
  obtain ⟨rows, hread, hmade⟩ := exists_rows_of_run_fillColumns h
  have hlabels : t'.relabel t = t' := Table.relabel_of_withRows hmade
  refine ⟨?_, ?_, ?_, rows, hread, ?_, ?_⟩
  · exact (congrArg Table.schema hlabels).symm
  · exact (congrArg Table.name hlabels).symm
  · exact (congrArg Table.kind hlabels).symm
  · intro u p p' hu
    exact ⟨t'.relabel u, run_fillColumns_of_withRows hu (Table.withRows_relabel hmade u), rfl, rfl,
      rfl⟩
  · intro p p' hagain
    exact run_fillColumns_of_withRows hagain (Table.withRows_relabel hmade t')

/-- A table with a column, a key and a sequence of an earlier reading. -/
def staleOrders : Table where
  schema := "SALES"
  name := "ORDERS"
  kind := .table
  columns := [Column.ofType "OLD" "INT"]
  primaryKeys := ["OLD"]
  sequence := some "OLD_SEQ"

/-- A description of two columns, of which the second may be without a name. -/
def orderRows (second : Value) : RowSet where
  columns := ["name", "type", "primary key", "autoincrement"]
  rows := [[.text "ID", .text "NUMBER(38,0)", .text "Y", .text "START 1"],
    [second, .text "NUMBER(12,2)", .text "N"]]

/-- A session whose engine answers with rows, whatever is asked. -/
def describing (rows : RowSet) : Session where
  engine := { name := "describing", answer := fun _ _ => .rows rows }

/-- A routine with a parameter of an earlier reading. -/
def staleRefresh : Routine where
  kind := .procedure
  schema := "SALES"
  name := "REFRESH"
  parameters := [Parameter.ofType "OLD" 1 "INT"]

/-- A row without a name, a routine without rows, and a table that is filled twice. -/
theorem fill_all_or_nothing_orders :
    (∃ e s', fillColumns.run (staleOrders, describing (orderRows .null)) =
      (.error e, staleOrders, s')) ∧
    (∃ e s', fillParameters.run (staleRefresh, describing {}) = (.error e, staleRefresh, s')) ∧
    ∃ t' s', fillColumns.run (staleOrders, describing (orderRows (.text "TOTAL"))) =
        (.ok (), t', s') ∧
      t'.name = "ORDERS" ∧ fillColumns.run (t', describing (orderRows (.text "TOTAL"))) =
        (.ok (), t', s') := by
  obtain ⟨hcolumns, hparameters, hfilled⟩ := fill_all_or_nothing
  refine ⟨?_, ?_, ?_⟩
  · obtain ⟨e, ⟨t', s'⟩, hrun⟩ : ∃ e left,
        fillColumns.run (staleOrders, describing (orderRows .null)) = (.error e, left) :=
      exists_run_eq_error (by decide +kernel)
    exact ⟨e, s', by rw [hrun, hcolumns _ _ _ _ e hrun]⟩
  · obtain ⟨e, ⟨r', s'⟩, hrun⟩ : ∃ e left,
        fillParameters.run (staleRefresh, describing {}) = (.error e, left) :=
      exists_run_eq_error (by decide +kernel)
    exact ⟨e, s', by rw [hrun, hparameters _ _ _ _ e hrun]⟩
  · obtain ⟨⟨⟩, ⟨t', s'⟩, hrun⟩ : ∃ u left,
        fillColumns.run (staleOrders, describing (orderRows (.text "TOTAL"))) = (.ok u, left) :=
      exists_run_eq_ok (by decide +kernel)
    obtain ⟨hschema, hname, -, rows, hread, -, hagain⟩ := hfilled _ _ _ _ hrun
    have hscript : columnScript t' = columnScript staleOrders := by
      rw [columnScript, columnScript, Table.quotedName, Table.quotedName, hschema, hname]
    exact ⟨t', s', hrun, hname, hagain _ _ (hscript ▸ hread)⟩

end Snowbridge.Catalog
