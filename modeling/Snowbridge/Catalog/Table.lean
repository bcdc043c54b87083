import Snowbridge.Catalog.Default
import Snowbridge.Json.Basic

/-!
# Tables

A table or view with its columns and its primary key. Names of columns differ in more than the case
of ASCII letters, and so do the names of the key.
-/

namespace Snowbridge.Catalog

/-- A column. If it has an expression to filter by, filters use that in place of its name. -/
structure Column where
  name : String
  quotedName : String
  typeText : String
  type : ColumnType
  allowNull : Bool := true
  isPrimaryKey : Bool := false
  isUnique : Bool := false
  autoIncrement : Bool := false
  size : TypeSize
  default : Option Default := none
  comment : Option String := none
  fixedLength : Bool
  filterExpression : Option String := none

/-- The column of a name and a type's text. -/
def Column.ofType (name typeText : String) : Column where
  name := name
  quotedName := Sql.quoteIdentifier name
  typeText := typeText
  type := ColumnType.ofType typeText
  size := TypeSize.ofType typeText
  fixedLength := isFixedLength typeText

inductive TableKind where
  | table
  | view
deriving DecidableEq

def TableKind.name : TableKind → String
  | .table => "table"
  | .view => "view"

/-- A table or view. -/
structure Table where
  schema : String
  name : String
  kind : TableKind
  columns : List Column := []
  primaryKeys : List String := []
  sequence : Option String := none

namespace Table

/-- The name after its schema, if it has one. -/
def internalName (t : Table) : String :=
  if t.schema == "" then t.name else t.schema ++ "." ++ t.name

def quotedName (t : Table) : String :=
  if t.schema == "" then Sql.quoteIdentifier t.name else Sql.quoteName [t.schema, t.name]

def column? (t : Table) (name : String) : Option Column :=
  t.columns.find? fun c => Text.sameName c.name name

/-- Applies a function to the first column of a name. -/
def updateFirst (name : String) (f : Column → Column) : List Column → List Column
  | [] => []
  | c :: cs => if Text.sameName c.name name then f c :: cs else c :: updateFirst name f cs

/-- Puts a column in place of the one with its name, or at the end. -/
def addColumn (t : Table) (c : Column) : Table :=
  if (t.column? c.name).isSome then
    { t with columns := updateFirst c.name (fun _ => c) t.columns }
  else { t with columns := t.columns ++ [c] }

def isPrimaryKey (t : Table) (name : String) : Bool :=
  t.primaryKeys.any fun k => Text.sameName k name

/-- Adds a name to the primary key, unless it is there, and marks its column. -/
def addPrimaryKey (t : Table) (name : String) : Table :=
  { t with
    primaryKeys := if t.isPrimaryKey name then t.primaryKeys else t.primaryKeys ++ [name],
    columns := updateFirst name (fun c => { c with isPrimaryKey := true }) t.columns }

def setComment (t : Table) (name comment : String) : Table :=
  { t with columns := updateFirst name (fun c => { c with comment := some comment }) t.columns }

/-- The columns of the primary key that the table has, in the order of the key. -/
def primaryKeyColumns (t : Table) : List Column := t.primaryKeys.filterMap t.column?

/-- The table without its columns and key. -/
def cleared (t : Table) : Table := { t with columns := [], primaryKeys := [], sequence := none }

end Table

end Snowbridge.Catalog
