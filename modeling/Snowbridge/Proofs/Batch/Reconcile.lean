import Mathlib.Data.List.Find
import Mathlib.Data.List.Forall2
import Mathlib.Data.List.Pairwise
import Mathlib.Logic.Equiv.Defs
import Snowbridge.Proofs.Batch.Identifier

/-!
# Rows of identifiers

A fetched row belongs to an identifier if it has a cell for every column of the key and the cells
have the texts of the identifier's values (`RowMatches`). Identifiers are answered one by one, in
their order: with the record of the first row that belongs to them, or with their own number if
there is none (`Entry`). An entry depends on no other identifier, and it does not depend on the
order of the rows unless two of them belong to one identifier.
-/

namespace Snowbridge.Batch

open Catalog (Column Table)

/-- A failure under another number. -/
def ItemError.numbered (index : Nat) : ItemError → ItemError
  | .validation _ reason => .validation index reason
  | .notFound _ => .notFound index
  | .write _ reason => .write index reason

/-- An entry for the record or identifier with another number. -/
def RecordOutcome.numbered (index : Nat) : RecordOutcome → RecordOutcome
  | .success record => .success record
  | .failed e => .failed (e.numbered index)
  | .skipped => .skipped

/-- A row has a cell for every column of the key, with the text of the identifier's value there. -/
def RowMatches (keys : List Column) (id : Identifier) (row : Row) : Prop :=
  List.Forall₂ (fun key wanted =>
    ∃ cell, row.get? key.name = some cell ∧ cell.asText = wanted.asText) keys id

/-- What is told of an identifier with a number: the record of the first row that belongs to it, or
that there is none. -/
inductive Entry (keys : List Column) (rows : List Row) (index : Nat) (id : Identifier) :
    RecordOutcome → Prop where
  | found {before after : List Row} {row : Row} (hrows : rows = before ++ row :: after)
      (hfirst : ∀ earlier ∈ before, ¬RowMatches keys id earlier) (hrow : RowMatches keys id row) :
      Entry keys rows index id (.success row.record)
  | missing (hnone : ∀ row ∈ rows, ¬RowMatches keys id row) :
      Entry keys rows index id (.failed (.notFound index))

/-! ## One identifier -/

section Lookup

variable {keys : List Column} {rows rows' : List Row} {index : Nat} {id : Identifier} {row : Row}

/-- `RowMatches` is the test by which `rowFor?` searches the rows, for an identifier of the right
length. -/
theorem rowMatches_iff : RowMatches keys id row ↔
    keys.length = id.length ∧ ((keys.zip id).all fun (key, wanted) =>
      (row.get? key.name).any fun cell => cell.agrees wanted) = true := by
  rw [RowMatches, List.forall₂_iff_zip, List.all_eq_true]
  refine and_congr_right fun _ => ⟨?_, ?_⟩
  · rintro hall ⟨key, wanted⟩ hpair
    obtain ⟨cell, hcell, htext⟩ := hall hpair
    exact (Option.any_eq_true _ _).2 ⟨cell, hcell, beq_iff_eq.2 htext⟩
  · intro hall key wanted hpair
    obtain ⟨cell, hcell, hagrees⟩ := (Option.any_eq_true _ _).1 (hall (key, wanted) hpair)
    exact ⟨cell, hcell, eq_of_beq hagrees⟩

instance (keys : List Column) (id : Identifier) (row : Row) : Decidable (RowMatches keys id row) :=
  decidable_of_iff _ rowMatches_iff.symm

/-- `entryFor` finds the first matching row, or reports the index. -/
theorem entry_entryFor (hlength : id.length = keys.length) :
    Entry keys rows index id (entryFor keys rows index id) := by
  unfold entryFor
  cases hrow : rowFor? keys rows id with
  | some row =>
    obtain ⟨hmatches, before, after, hrows, hbefore⟩ := List.find?_eq_some_iff_append.1 hrow
    refine .found hrows (fun earlier hearlier hmatch => ?_)
      (rowMatches_iff.2 ⟨hlength.symm, hmatches⟩)
    have hfails := hbefore earlier hearlier
    rw [(rowMatches_iff.1 hmatch).2] at hfails
    cases hfails
  | none =>
    refine .missing fun row hmem hmatch => ?_
    exact List.find?_eq_none.1 hrow row hmem (rowMatches_iff.1 hmatch).2

/-- If at most one row matches an identifier, its entry does not depend on the order of the rows. -/
theorem entryFor_of_perm (hlength : id.length = keys.length) (hperm : rows.Perm rows')
    (hunique : rows.Pairwise fun a b => ¬(RowMatches keys id a ∧ RowMatches keys id b)) :
    entryFor keys rows' index id = entryFor keys rows index id := by
  have hrow : rowFor? keys rows id = rowFor? keys rows' id := by
    refine List.find?_eq_find?_of_perm hperm ?_
    rintro a ⟨ha, hmatch⟩ b ⟨hb, hmatch'⟩
    by_contra hne
    have hsymm : Std.Symm fun a b => ¬(RowMatches keys id a ∧ RowMatches keys id b) :=
      ⟨fun _ _ hnot hboth => hnot hboth.symm⟩
    exact hunique.forall ha hb hne
      ⟨rowMatches_iff.2 ⟨hlength.symm, hmatch⟩, rowMatches_iff.2 ⟨hlength.symm, hmatch'⟩⟩
  rw [entryFor, entryFor, hrow]

/-- An entry depends on the index only through the failure that reports it. -/
theorem numbered_entryFor (keys : List Column) (rows : List Row) (id : Identifier) (i j : Nat) :
    (entryFor keys rows i id).numbered j = entryFor keys rows j id := by
  unfold entryFor
  cases rowFor? keys rows id <;> rfl

end Lookup

/-! ## All identifiers -/

section Match

variable {keys : List Column} {rows rows' : List Row} {ids : List Identifier}

/-- The entry at index `i` is that of the identifier at index `i`. -/
theorem getElem?_matchRows (keys : List Column) (rows : List Row) (ids : List Identifier)
    (i : Nat) : (matchRows keys rows 0 ids)[i]? = ids[i]?.map (entryFor keys rows i) := by
  rw [matchRows_eq_map, List.getElem?_map, List.getElem?_zipIdx, Option.map_map, Nat.zero_add]
  rfl

/-- If at most one row matches each identifier, no entry depends on the order of the rows. -/
theorem matchRows_of_perm (hlength : ∀ id ∈ ids, id.length = keys.length)
    (hperm : rows.Perm rows') (hunique : ∀ id ∈ ids,
      rows.Pairwise fun a b => ¬(RowMatches keys id a ∧ RowMatches keys id b)) :
    matchRows keys rows' 0 ids = matchRows keys rows 0 ids := by
  refine List.ext_getElem? fun i => ?_
  rw [getElem?_matchRows, getElem?_matchRows]
  cases hid : ids[i]? with
  | none => rfl
  | some id =>
    have hmem : id ∈ ids := List.mem_of_getElem? hid
    exact congrArg some (entryFor_of_perm (hlength id hmem) hperm (hunique id hmem))

end Match

/-- On a table with a key, `reconcile` is `matchRows` by the columns of the key. -/
theorem reconcile_eq {t : Table} (hkeys : t.primaryKeyColumns ≠ []) (ids : List Identifier)
    (rows : RowSet) :
    reconcile t ids rows = .ok (matchRows t.primaryKeyColumns rows.toList 0 ids) := by
  have hkeyed : keyColumns t = .ok t.primaryKeyColumns := by
    rw [keyColumns, List.isEmpty_eq_false_iff.2 hkeys]
    rfl
  rw [reconcile, hkeyed]
  rfl

/-- A table whose key is two columns. -/
def orders : Table where
  schema := "PUBLIC"
  name := "ORDERS"
  kind := .table
  columns := [Column.ofType "NAME" "VARCHAR(64)", Column.ofType "REGION" "VARCHAR(8)",
    Column.ofType "NUMBER" "NUMBER(38,0)"]
  primaryKeys := ["region", "number"]

/-- Rows under names of another case. The first is cut short, and a number is a text in one. -/
def orderRows : RowSet where
  columns := ["Region", "Number", "Name"]
  rows := [[.text "eu"], [.text "eu", .text "7", .text "b"], [.text "us", .int 7, .text "a"]]

/-- Identifiers of orders, one of them twice and one without a row. -/
def orderIds : List Identifier :=
  [[.text "us", .int 7], [.text "eu", .int 7], [.text "us", .int 7], [.text "us", .int 8]]

end Snowbridge.Batch
