import Mathlib.Data.List.Pairwise
import Snowbridge.Proofs.Batch.Record
import Snowbridge.Proofs.Catalog.Table
import Snowbridge.Proofs.Results
import Snowbridge.Sql.Expression

/-!
# Values of written records

A statement that writes a record names the columns of the record's fields in their order and binds
the fields' values at the same positions (`Named`); where it reaches a row by its key it binds the
values that the record gives to the columns of the key, none of them null (`Gives`). The row is read
back by these values if the record gives all of them (`readBackQuery?_eq_some_iff`), and whatever
comes of that the record stays written (`ReadsBack`).
-/

namespace Snowbridge.Batch

open Catalog (Column Table)

/-- The columns of some fields, in their order, each with the value of its field. -/
def Named (t : Table) (fields : Record) (as : List Assignment) : Prop :=
  List.Forall₂ (fun f a => t.column? f.1 = some a.1 ∧ a.2 = Value.ofJson f.2) fields as

/-- A record gives a value to a column of the key. Null is none. -/
def Gives (t : Table) (fields : Record) (key : Column) (v : Value) : Prop :=
  v.isNull = false ∧ ∃ f ∈ fields, t.column? f.1 = some key ∧ v = Value.ofJson f.2

/-- A record gives values to all columns of a key that is not empty. -/
def GivesKey (t : Table) (fields : Record) (values : List Value) : Prop :=
  t.primaryKeyColumns ≠ [] ∧ List.Forall₂ (Gives t fields) t.primaryKeyColumns values

/-- No two fields of a record have one name. -/
def NamesApart (fields : Record) : Prop :=
  fields.Pairwise fun f g => Text.sameName f.1 g.1 = false

/-- A column in SQL equals its placeholder. -/
def nameEquals (c : Column) : String := Sql.quoteIdentifier c.name ++ " = ?"

/-- All columns of a table's key equal their placeholders. -/
def keyEquals (t : Table) : String :=
  String.intercalate " AND " (t.primaryKeyColumns.map nameEquals)

/-- How a record is written: its columns and their values in the order of its fields, and the values
of the key in the order of the key. -/
inductive WritesRecord (t : Table) (fields : Record) : WriteVerb → Request → Prop where
  | create {as : List Assignment} (hnamed : Named t fields as) :
      WritesRecord t fields .create
        ⟨"INSERT INTO " ++ t.quotedName ++ " (" ++
          commaSeparated (as.map fun a => Sql.quoteIdentifier a.1.name) ++ ") VALUES (" ++
          Sql.placeholders as.length ++ ")", as.map Prod.snd⟩
  | update {sets : List Assignment} {values : List Value}
      (hsets : Named t (fields.filter fun f => !t.isPrimaryKey f.1) sets)
      (hvalues : List.Forall₂ (Gives t fields) t.primaryKeyColumns values) :
      WritesRecord t fields .update
        ⟨"UPDATE " ++ t.quotedName ++ " SET " ++
          commaSeparated (sets.map fun a => nameEquals a.1) ++ " WHERE " ++ keyEquals t,
          sets.map Prod.snd ++ values⟩
  | delete {values : List Value}
      (hvalues : List.Forall₂ (Gives t fields) t.primaryKeyColumns values) :
      WritesRecord t fields .delete
        ⟨"DELETE FROM " ++ t.quotedName ++ " WHERE " ++ keyEquals t, values⟩

/-! ## Fields and their columns -/

section Fields

variable {t : Table} {fields : Record} {as : List Assignment} {key : Column} {v : Value}

/-- Naming succeeds exactly if every field names a column, and then pairs each field with it. -/
theorem named_iff : fields.mapM (assignment t) = .ok as ↔ Named t fields as := by
  have hfield : ∀ f a, assignment t f = .ok a ↔
      t.column? f.1 = some a.1 ∧ a.2 = Value.ofJson f.2 := by
    rintro f ⟨c, v⟩
    unfold assignment
    cases hc : t.column? f.1 with
    | none => simp
    | some d => simp [eq_comm]
  rw [mapM_eq_ok_iff, Named]
  simp only [hfield]

/-- Each assignment comes from a field that names its column. -/
theorem Named.exists_of_mem (h : Named t fields as) {a : Assignment} (ha : a ∈ as) :
    ∃ f ∈ fields, t.column? f.1 = some a.1 ∧ a.2 = Value.ofJson f.2 := exists_of_forall₂ h ha

/-- The assigned columns are columns of the table. -/
theorem Named.mem_columns (h : Named t fields as) : ∀ a ∈ as, a.1 ∈ t.columns := by
  intro a ha
  obtain ⟨f, -, hfound, -⟩ := h.exists_of_mem ha
  exact Table.mem_columns_of_column? hfound

/-- Leaving out the key fields leaves out the assignments to key columns. -/
theorem Named.filter (h : Named t fields as) :
    Named t (fields.filter fun f => !t.isPrimaryKey f.1)
      (as.filter fun a => !t.isPrimaryKey a.1.name) := by
  refine List.rel_filter (fun f a hfa => ?_) h
  have hsame := Table.sameName_of_column? hfa.1
  dsimp only
  rw [Table.isPrimaryKey_congr hsame]

/-- The fields of an update are those that name no primary key. -/
theorem named_of_updateFields (h : updateFields t fields = .ok as) :
    Named t (fields.filter fun f => !t.isPrimaryKey f.1) as := by
  unfold updateFields at h
  cases hall : fields.mapM (assignment t) with
  | error reason => simp [hall, bind, Except.bind] at h
  | ok all =>
    simp only [hall, bind, Except.bind] at h
    split at h
    · cases h
    · rw [← Except.ok.inj h]
      exact (named_iff.1 hall).filter

/-- A column that is found by name and is called like a key column is that key column. -/
theorem column_eq_key {name : String} {c : Column} (hkey : key ∈ t.primaryKeyColumns)
    (hc : t.column? name = some c) (hname : c.name = key.name) : c = key := by
  obtain ⟨keyName, -, hfound⟩ := Table.exists_of_mem_primaryKeyColumns hkey
  exact Table.column_eq_of_name hc hfound hname

/-- A key value that was found was given by a field for that column. -/
theorem gives_of_requiredKey (h : Named t fields as) (hkey : key ∈ t.primaryKeyColumns)
    (hv : requiredKey as key = .ok v) : Gives t fields key v := by
  unfold requiredKey keyValue? at hv
  cases hfind : as.find? fun a => a.1.name == key.name && !a.2.isNull with
  | none => simp [hfind] at hv
  | some a =>
    simp only [hfind, Option.map_some, Except.ok.injEq] at hv
    subst hv
    have htest := List.find?_some hfind
    rw [Bool.and_eq_true, beq_iff_eq, Bool.not_eq_true'] at htest
    obtain ⟨f, hmem, hcolumn, hvalue⟩ := h.exists_of_mem (List.mem_of_find?_eq_some hfind)
    rw [column_eq_key hkey hcolumn htest.1] at hcolumn
    exact ⟨htest.2, f, hmem, hcolumn, hvalue⟩

/-- The values required for the key are given by fields, column by column. -/
theorem gives_of_requiredKeys {values : List Value} (h : Named t fields as)
    (hvalues : t.primaryKeyColumns.mapM (requiredKey as) = .ok values) :
    List.Forall₂ (Gives t fields) t.primaryKeyColumns values := by
  have hall := (List.forall₂_and_left _ _).2 ⟨fun _ hkey => hkey, mapM_eq_ok_iff.1 hvalues⟩
  exact hall.imp fun _ _ hkey => gives_of_requiredKey h hkey.1 hkey.2

/-- If no two fields share a name, at most one field names a given column. -/
theorem NamesApart.eq_of_column? (h : NamesApart fields) {f g : String × Json} (hf : f ∈ fields)
    (hg : g ∈ fields) (hfc : t.column? f.1 = some key) (hgc : t.column? g.1 = some key) :
    f = g := by
  by_contra hne
  have hsymm : Std.Symm fun f g : String × Json => Text.sameName f.1 g.1 = false :=
    ⟨fun f g hfg => (Text.sameName_comm g.1 f.1).trans hfg⟩
  have hapart := h.forall hf hg hne
  rw [Table.sameName_of_column?_eq hfc hgc rfl] at hapart
  cases hapart

/-- Where no two fields share a name, the key read from the fields is the value of the one field
that names the column. -/
theorem givenKey?_eq_some_iff (h : NamesApart fields) (hkey : key ∈ t.primaryKeyColumns) :
    givenKey? t fields key = some v ↔ Gives t fields key v := by
  unfold givenKey?
  rw [Option.filter_eq_some_iff, Option.map_eq_some_iff, Bool.not_eq_true', Gives, and_comm]
  refine and_congr_right fun _ => ⟨?_, ?_⟩
  · rintro ⟨f, hfind, rfl⟩
    have htest := List.find?_some hfind
    obtain ⟨c, hc, hname⟩ := (Option.any_eq_true _ _).1 htest
    rw [column_eq_key hkey hc (eq_of_beq hname)] at hc
    exact ⟨f, List.mem_of_find?_eq_some hfind, hc, rfl⟩
  · rintro ⟨f, hmem, hc, rfl⟩
    refine ⟨f, ?_, rfl⟩
    cases hfind : fields.find? fun f => (t.column? f.1).any fun c => c.name == key.name with
    | none =>
      have hnone := List.find?_eq_none.1 hfind f hmem
      simp [hc] at hnone
    | some g =>
      have htest := List.find?_some hfind
      obtain ⟨d, hd, hname⟩ := (Option.any_eq_true _ _).1 htest
      rw [column_eq_key hkey hd (eq_of_beq hname)] at hd
      rw [h.eq_of_column? (List.mem_of_find?_eq_some hfind) hmem hd hc]

/-- If no two fields share a name, the values given to the key are unique. -/
theorem GivesKey.unique (h : NamesApart fields) {values values' : List Value}
    (hvalues : GivesKey t fields values) (hvalues' : GivesKey t fields values') :
    values = values' := by
  have hright : Relator.RightUnique (Gives t fields) := by
    rintro key v v' ⟨-, f, hf, hfc, rfl⟩ ⟨-, g, hg, hgc, rfl⟩
    rw [h.eq_of_column? hf hg hfc hgc]
  exact hright.forall₂ hvalues.2 hvalues'.2

/-- A read-back is sent exactly if the fields give every key column a value, and it asks for these
values. -/
theorem readBackQuery?_eq_some_iff (h : NamesApart fields) {query : String × List Value} :
    readBackQuery? t fields = some query ↔
      query.1 = keyPredicate t.primaryKeyColumns ∧ GivesKey t fields query.2 := by
  unfold readBackQuery? GivesKey
  by_cases hkeys : t.primaryKeyColumns = []
  · simp [hkeys]
  -- the key columns are looked up one by one, each as in `givenKey?_eq_some_iff`
  · have hgiven : ∀ values, t.primaryKeyColumns.mapM (givenKey? t fields) = some values ↔
        List.Forall₂ (Gives t fields) t.primaryKeyColumns values := by
      intro values
      rw [mapM_eq_some_iff]
      constructor
      · intro hall
        have hmem := (List.forall₂_and_left _ _).2 ⟨fun _ hkey => hkey, hall⟩
        exact hmem.imp fun _ _ hkey => (givenKey?_eq_some_iff h hkey.1).1 hkey.2
      · intro hall
        have hmem := (List.forall₂_and_left _ _).2 ⟨fun _ hkey => hkey, hall⟩
        exact hmem.imp fun _ _ hkey => (givenKey?_eq_some_iff h hkey.1).2 hkey.2
    obtain ⟨sql, params⟩ := query
    dsimp only
    rw [List.isEmpty_eq_false_iff.2 hkeys, if_neg Bool.false_ne_true, Option.map_eq_some_iff]
    constructor
    · rintro ⟨values, hvalues, heq⟩
      cases heq
      exact ⟨rfl, hkeys, (hgiven _).1 hvalues⟩
    · rintro ⟨rfl, -, hvalues⟩
      exact ⟨params, (hgiven _).2 hvalues, rfl⟩

end Fields

/-! ## Statements -/

section Statements

variable {t : Table} {fields : Record} {verb : WriteVerb} {r : Request}

/-- The condition on the key compares each key column with a placeholder, joined by AND. -/
theorem keyPredicate_eq (h : t.Quoted) : keyPredicate t.primaryKeyColumns = keyEquals t := by
  have hequals : ∀ key ∈ t.primaryKeyColumns, equals key = nameEquals key := by
    intro key hkey
    rw [equals, nameEquals, h key (Table.mem_columns_of_mem_primaryKeyColumns hkey)]
  rw [keyPredicate, keyEquals, List.map_congr_left hequals]

/-- On a table whose columns keep their quoted names, so do the assigned ones. -/
theorem Named.quotedName_eq (h : t.Quoted) {as : List Assignment} (hnamed : Named t fields as) :
    ∀ a ∈ as, a.1.quotedName = Sql.quoteIdentifier a.1.name :=
  fun a ha => h a.1 (hnamed.mem_columns a ha)

/-- The statement that `writeRecord` builds has the text and the values that `WritesRecord`
describes. -/
theorem writesRecord_of_writeRecord (h : t.Quoted) (hwrite : writeRecord t verb fields = .ok r) :
    WritesRecord t fields verb r := by
  obtain ⟨as, has, hverb⟩ := exists_of_writeRecord hwrite
  have hnamed := named_iff.1 has
  cases verb with
  | create =>
    have hquoted := List.map_congr_left (hnamed.quotedName_eq h)
    simp only [insertRecord] at hverb
    -- an INSERT is refused if a key value is missing, or if there are no fields
    split at hverb
    · cases hverb
    · split at hverb
      · cases hverb
      · rw [hquoted] at hverb
        obtain rfl := Except.ok.inj hverb
        exact .create hnamed
  | update =>
    obtain ⟨values, hvalues, hupdate⟩ := hverb
    have hsets := hnamed.filter
    have hequals : ∀ a ∈ as.filter fun a => !t.isPrimaryKey a.1.name,
        equals a.1 = nameEquals a.1 := by
      intro a ha
      rw [equals, nameEquals, hsets.quotedName_eq h a ha]
    simp only [updateRecord] at hupdate
    split at hupdate
    · cases hupdate
    · rw [updateText, keyPredicate_eq h, List.map_congr_left hequals] at hupdate
      obtain rfl := Except.ok.inj hupdate
      exact .update hsets (gives_of_requiredKeys hnamed hvalues)
  | delete =>
    obtain ⟨values, hvalues, rfl⟩ := hverb
    rw [deleteRecord, keyPredicate_eq h]
    exact .delete (gives_of_requiredKeys hnamed hvalues)

end Statements

/-! ## Reading back -/

/-- What is sent for a record that is written and not deleted, and what the record then counts as:
the first row that is found by its key, or the record itself if it gives no values to a key, if
there is no such row or if the rows cannot be read. -/
inductive ReadsBack (s : Setup) (p : Progress) (fields : Record) (r : Request) :
    List Request → Record → Prop where
  | unread (hnone : ¬∃ values, GivesKey s.table fields values) : ReadsBack s p fields r [r] fields
  | found {values : List Value} {rows : RowSet} {row : Row} {rest : List Row}
      (hvalues : GivesKey s.table fields values)
      (hreply : (p.replyAfter [r] (s.selectRequest (keyEquals s.table, values))).rowSet = .ok rows)
      (hrows : rows.toList = row :: rest) :
      ReadsBack s p fields r [r, s.selectRequest (keyEquals s.table, values)] row.record
  | missing {values : List Value} {rows : RowSet} (hvalues : GivesKey s.table fields values)
      (hreply : (p.replyAfter [r] (s.selectRequest (keyEquals s.table, values))).rowSet = .ok rows)
      (hrows : rows.toList = []) :
      ReadsBack s p fields r [r, s.selectRequest (keyEquals s.table, values)] fields
  | failed {values : List Value} {e : DatabaseError} (hvalues : GivesKey s.table fields values)
      (hreply : (p.replyAfter [r] (s.selectRequest (keyEquals s.table, values))).rowSet =
        .error e) :
      ReadsBack s p fields r [r, s.selectRequest (keyEquals s.table, values)] fields

namespace Setup

variable {s : Setup} {p : Progress} {verb : WriteVerb} {fields : Record} {r : Request}

/-- The record that a write returns is the first row of its read-back, or the given fields if no row
came back. -/
theorem readsBack_rowRead (hquoted : s.table.Quoted) (h : NamesApart fields) (p : Progress)
    (r : Request) : ReadsBack s p fields r (r :: s.readBackRequests fields)
      ((s.rowRead (p.logged r) fields).getD fields) := by
  unfold readBackRequests rowRead
  cases hquery : readBackQuery? s.table fields with
  | none =>
    refine .unread ?_
    rintro ⟨values, hvalues⟩
    have hsome : readBackQuery? s.table fields =
        some (keyPredicate s.table.primaryKeyColumns, values) :=
      (readBackQuery?_eq_some_iff h).2 ⟨rfl, hvalues⟩
    rw [hquery] at hsome
    cases hsome
  | some query =>
    obtain ⟨sql, values⟩ := query
    obtain ⟨hsql, hvalues⟩ := (readBackQuery?_eq_some_iff h).1 hquery
    obtain rfl : sql = keyEquals s.table := hsql.trans (keyPredicate_eq hquoted)
    rw [Option.bind_some]
    cases hreply : ((p.logged r).reply (s.selectRequest (keyEquals s.table, values))).rowSet with
    | error e => exact .failed hvalues hreply
    | ok rows =>
      -- the first row of the reply is the record
      cases hrows : rows.toList with
      | nil =>
        have hhead : rows.records.head? = none := by rw [RowSet.records, hrows]; rfl
        rw [Except.toOption, Option.bind_some, hhead]
        exact .missing hvalues hreply hrows
      | cons row rest =>
        have hhead : rows.records.head? = some row.record := by rw [RowSet.records, hrows]; rfl
        rw [Except.toOption, Option.bind_some, hhead]
        exact .found hvalues hreply hrows

/-- A successful write puts its record in front of the results of the rest. -/
theorem run_writeAll_written {index : Nat} {record : Json} {written : Record} {q q' : Progress}
    {records : List Json} {results : List RecordOutcome} {undone : Option RollbackOutcome}
    (hwrite : (s.writeOne verb index record).run p = (.ok (.ok written), q))
    (hrest : (s.writeAll verb (index + 1) records).run q = (.ok (results, undone), q')) :
    (s.writeAll verb index (record :: records)).run p =
      (.ok (.success written :: results, undone), q') := by
  rw [writeAll, run_bind_ok hwrite]
  dsimp only
  rw [run_bind_ok hrest]
  rfl

end Setup

/-- A record that is accepted is written by a statement that names its columns and binds their
values. If it is not deleted, then it is read back exactly if it gives values to all columns of the
key, by these values, and it counts as written whatever the reply is. -/
theorem writeRecord_binds_names {s : Setup} {verb : WriteVerb} {fields : Record} {r : Request}
    (hbuilt : s.table.Built)
    (hkeys : ∀ name ∈ s.table.primaryKeys, (s.table.column? name).isSome = true)
    (hapart : NamesApart fields) (hwrite : writeRecord s.table verb fields = .ok r) :
    List.Forall₂ (fun name key => s.table.column? name = some key) s.table.primaryKeys
      s.table.primaryKeyColumns ∧
    WritesRecord s.table fields verb r ∧
    (∀ values values', GivesKey s.table fields values → GivesKey s.table fields values' →
      values = values') ∧
    ∀ (p : Progress) (index affected : Nat), verb ≠ .delete →
      (p.reply r).count = .ok affected → (verb = .update → affected ≠ 0) →
      ∃ written sent q, Runs (s.writeOne verb index (.obj fields)) p (.ok (.ok written)) sent
          p.isOpen q ∧
        ReadsBack s p fields r sent written ∧
        ∀ records results undone q',
          (s.writeAll verb (index + 1) records).run q = (.ok (results, undone), q') →
          (s.writeAll verb index (.obj fields :: records)).run p =
            (.ok (.success written :: results, undone), q') := by
  refine ⟨Table.column?_primaryKeys hkeys, writesRecord_of_writeRecord hbuilt.quoted hwrite,
    fun _ _ hvalues hvalues' => hvalues.unique hapart hvalues', ?_⟩
  intro p index affected hverb hcount haffected
  have hfound : ¬(verb ≠ .create ∧ affected = 0) := by
    rintro ⟨hcreate, hzero⟩
    cases verb with
    | create => exact hcreate rfl
    | update => exact haffected rfl hzero
    | delete => exact hverb rfl
  obtain ⟨q, hread⟩ := s.runs_readBack fields (p.logged r)
  have hrun := Setup.runs_writeFields_readBack index hwrite hcount hfound hverb hread
  refine ⟨_, _, q, hrun, Setup.readsBack_rowRead hbuilt.quoted hapart p r, ?_⟩
  intro records results undone q' hrest
  exact Setup.run_writeAll_written hrun.run hrest

/-- A table whose key is two columns, in another order than the columns. -/
def shipments : Table :=
  let t : Table := { schema := "PUBLIC", name := "SHIPMENTS", kind := .table }
  let t := (t.addColumn (Column.ofType "Region" "VARCHAR(8)")).addColumn
    (Column.ofType "NUMBER" "NUMBER(38,0)")
  let t := t.addColumn (Column.ofType "NOTE" "VARCHAR(64)")
  (t.addPrimaryKey "number").addPrimaryKey "REGION"

theorem built_shipments : shipments.Built := by
  refine .addPrimaryKey _ (.addPrimaryKey _ ?_)
  refine .addColumn rfl (.addColumn rfl (.addColumn rfl ?_))
  exact .empty rfl rfl

/-- The record of a shipment, with its names in cases of their own. -/
def shipment : Record := [("note", .str "late"), ("region", .str "eu"), ("Number", .int 7)]

/-- The statement that writes it. -/
def shipmentRequest : Request :=
  ⟨"UPDATE \"PUBLIC\".\"SHIPMENTS\" SET \"NOTE\" = ? WHERE \"NUMBER\" = ? AND \"Region\" = ?",
    [.text "late", .int 7, .text "eu"]⟩

theorem writeRecord_shipment : writeRecord shipments .update shipment = .ok shipmentRequest := by
  rfl

/-- An engine that keeps what is written and cannot show it. -/
def blindEngine : Engine where
  name := "blind"
  answer := fun _ r => if isWrite r then .affected 1 else .failed (.execution "gone" r.sql)

/-- A composite key given out of order, and an engine that cannot read the row back. -/
theorem writeRecord_binds_names_shipment :
    let s : Setup := { table := shipments, parser := Sql.Expression.parse }
    let p : Progress := { session := { engine := blindEngine } }
    shipments.Built ∧ NamesApart shipment ∧
      writeRecord shipments .update shipment = .ok shipmentRequest ∧
      WritesRecord shipments shipment .update shipmentRequest ∧
      ∃ written sent q, Runs (s.writeOne .update 0 (.obj shipment)) p (.ok (.ok written)) sent
          p.isOpen q ∧
        ReadsBack s p shipment shipmentRequest sent written := by
  intro s p
  have hkeys : ∀ name ∈ shipments.primaryKeys, (shipments.column? name).isSome = true := by
    decide +kernel
  have hapart : NamesApart shipment := by
    unfold NamesApart
    decide
  -- the engine counts one row for every write
  have hcount : (p.reply shipmentRequest).count = .ok 1 := by
    have hwrite : isWrite shipmentRequest = true := isWrite_of_writeRecord writeRecord_shipment
    have hreply : p.reply shipmentRequest = if isWrite shipmentRequest then .affected 1
        else .failed (.execution "gone" shipmentRequest.sql) := rfl
    rw [hreply, hwrite]
    rfl
  obtain ⟨-, hwrites, -, hwritten⟩ := writeRecord_binds_names (s := s) built_shipments hkeys hapart
    writeRecord_shipment
  obtain ⟨written, sent, q, hrun, hread, -⟩ :=
    hwritten p 0 1 (by decide) hcount fun _ => Nat.one_ne_zero
  exact ⟨built_shipments, hapart, writeRecord_shipment, hwrites, written, sent, q, hrun, hread⟩

end Snowbridge.Batch
