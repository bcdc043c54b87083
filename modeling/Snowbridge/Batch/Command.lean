import Snowbridge.Batch.Error
import Snowbridge.Catalog.Table
import Snowbridge.Filter.Predicate
import Snowbridge.Session.Basic

/-!
# Statements of batches

The statements that write a record, and those that reach rows by the values of their primary key.
Names come from the table and values are bound.
-/

namespace Snowbridge.Batch

open Catalog (Column Table)

/-- What is done to a record. -/
inductive WriteVerb where
  | create
  | update
  | delete
deriving DecidableEq

def WriteVerb.name : WriteVerb → String
  | .create => "create"
  | .update => "update"
  | .delete => "delete"

/-- The values of a row's primary key, in the order of the key. -/
abbrev Identifier := List Value

/-- A column with the value for it. -/
abbrev Assignment := Column × Value

def commaSeparated (ss : List String) : String := String.intercalate ", " ss

def equals (c : Column) : String := c.quotedName ++ " = ?"

/-- All columns of the key equal their placeholders. -/
def keyPredicate (keys : List Column) : String := String.intercalate " AND " (keys.map equals)

/-! ## Records -/

/-- The column of a field and its value. A field without a column is a fault. -/
def assignment (t : Table) (field : String × Json) : Except String Assignment :=
  match t.column? field.1 with
  | some c => .ok (c, Value.ofJson field.2)
  | none => .error ("unknown field '" ++ field.1 ++ "'")

/-- The value of a key column among some assignments, unless it is null. -/
def keyValue? (as : List Assignment) (key : Column) : Option Value :=
  (as.find? fun a => a.1.name == key.name && !a.2.isNull).map Prod.snd

def missingKey (key : Column) : String := "missing primary key field '" ++ key.name ++ "'"

/-- The value of a key column. -/
def requiredKey (as : List Assignment) (key : Column) : Except String Value :=
  match keyValue? as key with
  | some v => .ok v
  | none => .error (missingKey key)

/-- The statement that inserts a record. The key may only be left out where it is numbered. -/
def insertRecord (t : Table) (as : List Assignment) : Except String Request :=
  match t.primaryKeyColumns.find? fun key => !key.autoIncrement && (keyValue? as key).isNone with
  | some key => .error (missingKey key)
  | none =>
    if as.isEmpty then .error "record has no fields"
    else
      .ok {
        sql := "INSERT INTO " ++ t.quotedName ++ " (" ++
          commaSeparated (as.map fun a => a.1.quotedName) ++ ") VALUES (" ++
          Sql.placeholders as.length ++ ")"
        params := as.map Prod.snd }

def updateText (t : Table) (sets : List Assignment) (condition : String) : String :=
  "UPDATE " ++ t.quotedName ++ " SET " ++ commaSeparated (sets.map fun a => equals a.1) ++
    " WHERE " ++ condition

def updateRecord (t : Table) (as : List Assignment) (keyParams : List Value) :
    Except String Request :=
  let sets := as.filter fun a => !t.isPrimaryKey a.1.name
  if sets.isEmpty then .error "no fields to update"
  else
    .ok {
      sql := updateText t sets (keyPredicate t.primaryKeyColumns)
      params := sets.map Prod.snd ++ keyParams }

def deleteRecord (t : Table) (keyParams : List Value) : Request where
  sql := "DELETE FROM " ++ t.quotedName ++ " WHERE " ++ keyPredicate t.primaryKeyColumns
  params := keyParams

def writeRecord (t : Table) (verb : WriteVerb) (fields : Record) : Except String Request := do
  let as ← fields.mapM (assignment t)
  match verb with
  | .create => insertRecord t as
  | .update => updateRecord t as (← t.primaryKeyColumns.mapM (requiredKey as))
  | .delete => return deleteRecord t (← t.primaryKeyColumns.mapM (requiredKey as))

/-- The first value that a record gives to a key column, unless it is null. -/
def givenKey? (t : Table) (fields : Record) (key : Column) : Option Value :=
  ((fields.find? fun f => (t.column? f.1).any fun c => c.name == key.name).map fun f =>
    Value.ofJson f.2).filter fun v => !v.isNull

/-- The query for the row that a record's key values name. A table without a key has none. -/
def readBackQuery? (t : Table) (fields : Record) : Option (String × List Value) :=
  let keys := t.primaryKeyColumns
  if keys.isEmpty then none
  else (keys.mapM (givenKey? t fields)).map fun params => (keyPredicate keys, params)

/-! ## Identifiers -/

def keyColumns (t : Table) : Except BatchError (List Column) :=
  if t.primaryKeyColumns.isEmpty then .error (.missingPrimaryKey t.internalName)
  else .ok t.primaryKeyColumns

/-- The first identifier, counted from `index`, whose number of values is not that of the key. -/
def misfit? (keys : List Column) (index : Nat) : List Identifier → Option BatchError
  | [] => none
  | id :: ids =>
    if id.length == keys.length then misfit? keys (index + 1) ids
    else
      some (.validation index ("expected " ++ toString keys.length ++ " key values, got " ++
        toString id.length))

/-- The predicate of some identifiers, in which their values stand in order. -/
def idPredicate (keys : List Column) (count : Nat) : String :=
  match keys with
  | [key] => key.quotedName ++ " IN (" ++ Sql.placeholders count ++ ")"
  | _ =>
    "(" ++ String.intercalate " OR " (List.replicate count ("(" ++ keyPredicate keys ++ ")")) ++ ")"

/-- The rows of some identifiers that a filter also accepts: the predicate and its values. -/
def scope (t : Table) (ids : List Identifier) (filter : Option Filter.Predicate) :
    Except BatchError (String × List Value) := do
  let keys ← keyColumns t
  match misfit? keys 0 ids with
  | some e => .error e
  | none =>
    let sql := idPredicate keys ids.length
    match filter with
    | some f => .ok (sql ++ " AND (" ++ f.sql ++ ")", ids.flatten ++ f.params)
    | none => .ok (sql, ids.flatten)

/-- The columns and values to set by identifier. Fields of the key are passed over. -/
def updateFields (t : Table) (fields : Record) : Except BatchError (List Assignment) := do
  let as ←
    match fields.mapM (assignment t) with
    | .ok as => .ok as
    | .error reason => .error (.validation 0 reason)
  let sets := as.filter fun a => !t.isPrimaryKey a.1.name
  if sets.isEmpty then .error (.validation 0 "no fields to update") else .ok sets

/-- The row of an identifier: the first whose cells in all key columns agree with its values. -/
def rowFor? (keys : List Column) (rows : List Row) (id : Identifier) : Option Row :=
  rows.find? fun r => (keys.zip id).all fun (key, wanted) =>
    (r.get? key.name).any fun cell => cell.agrees wanted

/-- For each identifier, counted from `index`, its row or that there is none. -/
def matchRows (keys : List Column) (rows : List Row) (index : Nat) :
    List Identifier → List RecordOutcome
  | [] => []
  | id :: ids =>
    (match rowFor? keys rows id with
    | some r => .success r.record
    | none => .failed (.notFound index)) :: matchRows keys rows (index + 1) ids

/-- For each identifier its row among the fetched ones. -/
def reconcile (t : Table) (ids : List Identifier) (rows : RowSet) :
    Except BatchError (List RecordOutcome) :=
  (keyColumns t).map fun keys => matchRows keys rows.toList 0 ids

end Snowbridge.Batch
