import Snowbridge.Proofs.Batch.Binding
import Snowbridge.Proofs.Batch.Issue
import Snowbridge.Proofs.Sql.Name
import Snowbridge.Sql.Expression

/-!
# Columns that statements write

An insertion lists the columns that it writes between parentheses, and an update between two words
(`writtenColumns`). Both list the columns of some fields in the order of the fields
(`Assigns.columns`). The names of fields are distinct as texts, but a column is found by its name in
any case of letters, so a statement writes a column twice exactly if two fields have one name but
for the case of letters.
-/

namespace Snowbridge.Batch

open Catalog (Column Table)

/-- A request that inserts or updates rows. -/
def isAssignment (r : Request) : Bool := startsWith "INSERT INTO " r || startsWith "UPDATE " r

/-- The names of the columns that a statement writes, as its text lists them. -/
def writtenColumns (r : Request) : List String :=
  if startsWith "INSERT INTO " r then Sql.listedNames "(" ")" r.sql
  else if startsWith "UPDATE " r then Sql.listedNames "SET" "WHERE" r.sql
  else []

/-- The statements that write the columns of some of the given fields: of all for a new record, and
otherwise of those that are no part of the key. -/
inductive Assigns (s : Setup) (given : Record) : Record → Request → Prop where
  | create {r : Request} (hwrite : writeRecord s.table .create given = .ok r) :
      Assigns s given given r
  | update {r : Request} (hwrite : writeRecord s.table .update given = .ok r) :
      Assigns s given (given.filter fun f => !s.table.isPrimaryKey f.1) r
  | updateByIds {ids : List Identifier} {filter : Option String} {named : Filter.Named}
      {r : Request} (hupdate : s.updateRequest ids given filter named = .ok r) :
      Assigns s given (given.filter fun f => !s.table.isPrimaryKey f.1) r

/-! ## Columns of fields -/

section Fields

variable {t : Table} {fields : Record} {as : List Assignment}

/-- Every given field becomes an assignment to the column of its name. -/
theorem Named.exists_of_mem_fields (h : Named t fields as) {f : String × Json} (hf : f ∈ fields) :
    ∃ a ∈ as, t.column? f.1 = some a.1 := by
  obtain ⟨a, ha, hfa, -⟩ := exists_of_forall₂ (List.Forall₂.flip (R := flip _) h) hf
  exact ⟨a, ha, hfa⟩

/-- The assigned columns are distinct exactly if no two fields share a name up to case. -/
theorem Named.nodup_iff (h : Named t fields as) :
    (as.map fun a => a.1.name).Nodup ↔ NamesApart fields := by
  unfold NamesApart
  induction h with
  | nil => simp
  | @cons f a fields as hfa hrest ih =>
    rw [List.map_cons, List.nodup_cons, List.pairwise_cons, ih]
    refine and_congr_left fun _ => ⟨?_, ?_⟩
    -- fields of one name have one column, and a column has one name but for the case of letters
    · intro hnew g hg
      obtain ⟨b, hb, hgb⟩ := Named.exists_of_mem_fields hrest hg
      by_contra hsame
      have hcolumn := Table.column?_congr (Bool.not_eq_false _ ▸ hsame) t
      rw [hfa.1, hgb, Option.some.injEq] at hcolumn
      exact hnew (List.mem_map.2 ⟨b, hb, by rw [hcolumn]⟩)
    · intro hapart hold
      obtain ⟨b, hb, hname⟩ := List.mem_map.1 hold
      obtain ⟨g, hg, hgb, -⟩ := Named.exists_of_mem hrest hb
      have hsame := Table.sameName_of_column?_eq hfa.1 hgb hname.symm
      rw [hapart g hg] at hsame
      cases hsame

end Fields

/-! ## Lists of columns -/

/-- Columns by their names, with commas between them and a text behind each. -/
def columnList (tail : String) (names : List String) : String :=
  commaSeparated (names.map fun name => Sql.quoteIdentifier name ++ tail)

section Lists

variable {tail : String} {c : Char}

/-- A word that starts none of the separators is not found in a list of columns. -/
theorem hides_columnList (hcomma : Sql.Hides c ", ".toList) (htail : Sql.Hides c tail.toList)
    (names : List String) : Sql.Hides c (columnList tail names).toList :=
  .intercalate hcomma htail names

/-- The quoted names in a list of columns are those columns, in order. -/
theorem quotedNames_columnList (htail : '"' ∉ tail.toList) (names : List String) {ys : List Char}
    (hys : '"' ∉ ys) : Sql.quotedNames none ((columnList tail names).toList ++ ys) = names := by
  have hhead : ys.head? ≠ some '"' := fun h => hys (List.mem_of_mem_head? h)
  have hend : Sql.quotedNames none ys = [] := by
    have hall := Sql.quotedNames_append hys []
    rwa [List.append_nil] at hall
  rw [columnList, commaSeparated,
    Sql.quotedNames_intercalate (by decide) (by decide) htail names hhead, hend, List.append_nil]

/-- A word that does not start with a point is not found in the name of a table. -/
theorem hides_quotedName (hc : Text.foldAscii '.' ≠ Text.foldAscii c) (t : Table) :
    Sql.Hides c t.quotedName.toList := by
  have hpoint : Sql.Hides c ".".toList := .of_unquoted (by decide) (by simpa using hc)
  have hempty : Sql.Hides c "".toList := .of_unquoted (by decide) (by simp)
  unfold Table.quotedName
  split
  · exact .quoteIdentifier c t.name
  · have hname := Sql.Hides.intercalate hpoint hempty [t.schema, t.name]
    simpa [Sql.quoteName] using hname

/-- A word is not found in front of the columns either, before which only the table is named. -/
theorem hides_head (hc : Text.foldAscii '.' ≠ Text.foldAscii c) {word : String}
    (hword : Sql.Hides c word.toList) (hblank : Sql.Hides c " ".toList) (t : Table) :
    Sql.Hides c (word ++ t.quotedName ++ " ").toList := by
  rw [String.toList_append, String.toList_append]
  exact (hword.append (hides_quotedName hc t)).append hblank

/-- The columns of an INSERT are the names between its first parentheses: the name of the table
holds none outside quotes. -/
theorem listedNames_insertion (t : Table) (names : List String) (values : String) :
    Sql.listedNames "(" ")" ("INSERT INTO " ++ t.quotedName ++ " (" ++ columnList "" names ++
      ") VALUES (" ++ values ++ ")") = names := by
  have hbefore : Sql.Hides '(' ("INSERT INTO " ++ t.quotedName ++ " ").toList :=
    hides_head (by decide) (.of_unquoted (by decide) (by decide))
      (.of_unquoted (by decide) (by decide)) t
  have hnames : Sql.Hides ')' (columnList "" names).toList :=
    hides_columnList (.of_unquoted (by decide) (by decide)) (.of_unquoted (by decide) (by decide)) _
  have htext : "INSERT INTO " ++ t.quotedName ++ " (" ++ columnList "" names ++ ") VALUES (" ++
        values ++ ")" =
      ("INSERT INTO " ++ t.quotedName ++ " ") ++ "(" ++ columnList "" names ++ ")" ++
        (" VALUES (" ++ values ++ ")") := by
    simp only [← String.toList_inj, String.toList_append, List.append_assoc]
    rfl
  have hread : Sql.quotedNames none ((columnList "" names).toList ++ []) = names :=
    quotedNames_columnList (by decide) names List.not_mem_nil
  rw [List.append_nil] at hread
  rw [htext, Sql.listedNames_eq rfl rfl rfl rfl hbefore hnames, hread]

/-- The columns of an UPDATE are the names between SET and WHERE. -/
theorem listedNames_update (t : Table) (names : List String) (condition : String) :
    Sql.listedNames "SET" "WHERE" ("UPDATE " ++ t.quotedName ++ " SET " ++
      columnList " = ?" names ++ " WHERE " ++ condition) = names := by
  -- neither word is found before its place: the names stand in quotes
  have hbefore : Sql.Hides 'S' ("UPDATE " ++ t.quotedName ++ " ").toList :=
    hides_head (by decide) (.of_unquoted (by decide) (by decide))
      (.of_unquoted (by decide) (by decide)) t
  have hblank : Sql.Hides 'W' " ".toList := .of_unquoted (by decide) (by decide)
  have hlist : Sql.Hides 'W' (columnList " = ?" names).toList :=
    hides_columnList (.of_unquoted (by decide) (by decide)) (.of_unquoted (by decide) (by decide)) _
  have hnames : Sql.Hides 'W' (" " ++ columnList " = ?" names ++ " ").toList := by
    rw [String.toList_append, String.toList_append]
    exact (hblank.append hlist).append hblank
  -- the blanks around the words belong to the parts between which the words are searched
  have htext : "UPDATE " ++ t.quotedName ++ " SET " ++ columnList " = ?" names ++ " WHERE " ++
        condition =
      ("UPDATE " ++ t.quotedName ++ " ") ++ "SET" ++ (" " ++ columnList " = ?" names ++ " ") ++
        "WHERE" ++ (" " ++ condition) := by
    simp only [← String.toList_inj, String.toList_append, List.append_assoc]
    rfl
  rw [htext, Sql.listedNames_eq rfl rfl rfl rfl hbefore hnames, String.toList_append,
    String.toList_append, List.append_assoc, Sql.quotedNames_append (by decide),
    quotedNames_columnList (by decide) _ (by decide)]

end Lists

/-! ## Columns of statements -/

section Statements

variable {t : Table} {as sets : List Assignment} {params : List Value}

/-- Parts that each begin with the quoted name of their column make a list of columns. -/
theorem commaSeparated_eq_columnList {tail : String} {part : Column → String}
    (hpart : ∀ a ∈ as, part a.1 = Sql.quoteIdentifier a.1.name ++ tail) :
    commaSeparated (as.map fun a => part a.1) = columnList tail (as.map fun a => a.1.name) := by
  rw [columnList, List.map_map]
  exact congrArg commaSeparated (List.map_congr_left hpart)

/-- An INSERT lists the columns of its assignments, in their order and as often as they occur. -/
theorem writtenColumns_insertRecord
    (hquoted : ∀ a ∈ as, a.1.quotedName = Sql.quoteIdentifier a.1.name) {r : Request}
    (h : insertRecord t as = .ok r) : writtenColumns r = as.map fun a => a.1.name := by
  have hinsert := startsWith_insertRecord h
  have hlist : commaSeparated (as.map fun a => a.1.quotedName) =
      columnList "" (as.map fun a => a.1.name) := by
    refine commaSeparated_eq_columnList fun a ha => ?_
    rw [hquoted a ha, String.append_empty]
  unfold insertRecord at h
  split at h
  · cases h
  · split at h
    · cases h
    · obtain rfl := Except.ok.inj h
      rw [writtenColumns, if_pos hinsert]
      dsimp only
      rw [hlist, listedNames_insertion]

/-- An UPDATE sets the columns of its assignments, in their order and as often as they occur. -/
theorem writtenColumns_updateText
    (hquoted : ∀ a ∈ sets, a.1.quotedName = Sql.quoteIdentifier a.1.name) (condition : String) :
    writtenColumns ⟨updateText t sets condition, params⟩ = sets.map fun a => a.1.name := by
  have hupdate := startsWith_updateText t sets condition params
  have hinsert : startsWith "INSERT INTO " ⟨updateText t sets condition, params⟩ = false := by
    refine startsWith_of_head (c := 'U') (d := 'I') ?_ rfl (by decide)
    simp only [updateText, String.toList_append]
    rfl
  have hlist : commaSeparated (sets.map fun a => equals a.1) =
      columnList " = ?" (sets.map fun a => a.1.name) := by
    refine commaSeparated_eq_columnList fun a ha => ?_
    rw [equals, hquoted a ha]
  rw [writtenColumns, if_neg (by rw [hinsert]; exact Bool.false_ne_true), if_pos hupdate]
  dsimp only
  rw [updateText, hlist, listedNames_update]

/-- A statement takes its assignments from the fields it was given and leaves their order. -/
theorem Assigns.sublist {s : Setup} {given fields : Record} {r : Request}
    (h : Assigns s given fields r) : fields.Sublist given := by
  cases h with
  | create _ => exact List.Sublist.refl _
  | update _ => exact List.filter_sublist
  | updateByIds _ => exact List.filter_sublist

/-- A statement writes the columns that its fields name, in the order of the fields. -/
theorem Assigns.columns {s : Setup} {given fields : Record} {r : Request}
    (hquoted : s.table.Quoted) (h : Assigns s given fields r) :
    ∃ as, Named s.table fields as ∧ writtenColumns r = as.map fun a => a.1.name := by
  cases h with
  | create hwrite =>
    obtain ⟨as, has, hinsert⟩ := exists_of_writeRecord hwrite
    have hnamed := named_iff.1 has
    exact ⟨as, hnamed, writtenColumns_insertRecord (hnamed.quotedName_eq hquoted) hinsert⟩
  | update hwrite =>
    obtain ⟨as, has, params, -, hupdate⟩ := exists_of_writeRecord hwrite
    have hnamed := (named_iff.1 has).filter
    simp only [updateRecord] at hupdate
    split at hupdate
    · cases hupdate
    · obtain rfl := Except.ok.inj hupdate
      exact ⟨_, hnamed, writtenColumns_updateText (hnamed.quotedName_eq hquoted) _⟩
  | updateByIds hupdate =>
    obtain ⟨sets, f, target, hsets, -, -, rfl⟩ := Setup.exists_of_updateRequest hupdate
    have hnamed := named_of_updateFields hsets
    exact ⟨sets, hnamed, writtenColumns_updateText (hnamed.quotedName_eq hquoted) _⟩

end Statements

/-! ## Columns of batches -/

section Batches

variable {s : Setup} {e : Engine} {r : Request}

/-- The first letter of a statement tells that it is no INSERT and no UPDATE. -/
theorem not_isAssignment_of_head {c : Char} (hr : r.sql.toList.head? = some c) (hI : c ≠ 'I')
    (hU : c ≠ 'U') : isAssignment r = false := by
  rw [isAssignment, startsWith_of_head hr rfl hI, startsWith_of_head hr rfl hU]
  rfl

/-- Every INSERT and UPDATE that a batch sends assigns fields it was given, unless it is the
engine's own text for BEGIN. -/
theorem assigns_of_issued {offers : Record → Prop} (hr : Issued s e offers r)
    (hassign : isAssignment r = true) :
    r = e.beginRequest ∨ ∃ given fields, offers given ∧ Assigns s given fields r := by
  -- the other forms start with other letters
  have hnot : ∀ {c}, r.sql.toList.head? = some c → c ≠ 'I' → c ≠ 'U' → False := by
    intro c hhead hI hU
    rw [not_isAssignment_of_head hhead hI hU] at hassign
    cases hassign
  cases hr with
  | begin => exact .inl rfl
  | commit => exact (hnot rfl (by decide) (by decide)).elim
  | rollback => exact (hnot rfl (by decide) (by decide)).elim
  | readBack _ => exact (hnot (head_selectRequest s _) (by decide) (by decide)).elim
  | fetch _ _ => exact (hnot (head_selectRequest s _) (by decide) (by decide)).elim
  | delete _ _ =>
    refine (hnot (c := 'D') ?_ (by decide) (by decide)).elim
    simp only [Setup.deleteRequest, String.toList_append]
    rfl
  | update hoffers hupdate => exact .inr ⟨_, _, hoffers, .updateByIds hupdate⟩
  | @write verb fields _ hoffers hwrite =>
    cases verb with
    | create => exact .inr ⟨_, _, hoffers, .create hwrite⟩
    | update => exact .inr ⟨_, _, hoffers, .update hwrite⟩
    | delete =>
      obtain ⟨as, -, params, -, rfl⟩ := exists_of_writeRecord hwrite
      refine (hnot (c := 'D') ?_ (by decide) (by decide)).elim
      simp only [deleteRecord, String.toList_append]
      rfl

/-- Whatever the engine replies, the INSERT and UPDATE statements of a batch list the columns of
fields it was given, in their order. A column is written twice exactly if two of these fields share
a name up to case. -/
theorem Operation.columns_written_once_iff (hquoted : s.table.Quoted) (op : Operation)
    (p : Progress) :
    ∀ r ∈ sentBetween p (op.stop s p), isAssignment r = true →
      r = p.session.engine.beginRequest ∨
      ∃ given fields, op.Offers given ∧ Assigns s given fields r ∧
        List.Forall₂ (fun f name => ∃ c, s.table.column? f.1 = some c ∧ c.name = name) fields
          (writtenColumns r) ∧
        ((writtenColumns r).Nodup ↔ NamesApart fields) := by
  intro r hr hassign
  refine (assigns_of_issued (op.issued s p r hr) hassign).imp_right ?_
  rintro ⟨given, fields, hoffers, hassigns⟩
  obtain ⟨as, hnamed, hcolumns⟩ := hassigns.columns hquoted
  refine ⟨given, fields, hoffers, hassigns, ?_, ?_⟩
  · rw [hcolumns, List.forall₂_map_right_iff]
    exact hnamed.imp fun f a hfa => ⟨a.1, hfa.1, rfl⟩
  · rw [hcolumns]
    exact hnamed.nodup_iff

/-- An engine that changes one row with each statement. -/
def changingEngine : Engine where
  name := "changing"
  answer := fun _ _ => .affected 1

/-- The update of a shipment lists each of its columns once. -/
theorem columns_written_once_iff_shipment :
    let s : Setup := { table := shipments, parser := Sql.Expression.parse }
    let op : Operation := .write .update [.obj shipment]
    let p := Operation.starting changingEngine
    shipments.Quoted ∧ ∃ r ∈ sentBetween p (op.stop s p),
      isAssignment r = true ∧ (writtenColumns r).Nodup := by
  intro s op p
  have hsent : (sentBetween p (op.stop s p)).any isAssignment = true := by
    decide +kernel
  have hopening : isAssignment p.session.engine.beginRequest = false := by
    decide
  have hapart : NamesApart shipment := by
    unfold NamesApart
    decide
  obtain ⟨r, hr, hassign⟩ := List.any_eq_true.1 hsent
  refine ⟨built_shipments.quoted, r, hr, hassign, ?_⟩
  rcases Operation.columns_written_once_iff (s := s) built_shipments.quoted op p r hr hassign with
    rfl | ⟨given, fields, hoffers, hassigns, -, hnodup⟩
  · rw [hopening] at hassign
    cases hassign
  · obtain rfl : given = shipment := by simpa using Operation.offers_write_iff.1 hoffers
    exact hnodup.2 (hapart.sublist hassigns.sublist)

/-- The record of an account that gives one column twice, by names of their own. -/
def twiceNamed : Record := [("ID", .int 1), ("NAME", .str "a"), ("name", .str "b")]

/-- The columns that the insertions and updates of a batch write. -/
def columnsWritten (s : Setup) (p : Progress) (op : Operation) : List (List String) :=
  ((sentBetween p (op.stop s p)).filter isAssignment).map writtenColumns

/-- An INSERT and an UPDATE by identifiers of a record with the fields `NAME` and `name` write the
column twice. -/
theorem columns_written_twice_twiceNamed :
    let written := columnsWritten stoppingAccounts (Operation.starting changingEngine)
    (twiceNamed.map Prod.fst).Nodup ∧
      written (.write .create [.obj twiceNamed]) = [["ID", "NAME", "NAME"]] ∧
      written (.write .update [.obj twiceNamed]) = [["NAME", "NAME"]] ∧
      written (.updateByIds [[.int 1]] [("NAME", .str "a"), ("name", .str "b")] none []) =
        [["NAME", "NAME"]] := by
  decide +kernel

end Batches

end Snowbridge.Batch
