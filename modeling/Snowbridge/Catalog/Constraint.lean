import Snowbridge.Catalog.Error
import Snowbridge.Session.Script
import Snowbridge.Sql.Quoted

/-!
# Constraints

Primary, unique and foreign keys. The engine gives one row for each column of a key; the rows of one
key are gathered, and its columns keep the order of the rows. Keys are told apart by schema, table
and name in lower case.
-/

namespace Snowbridge.Catalog

/-- What tells constraints apart. -/
structure ConstraintKey where
  schema : String
  table : String
  name : String
deriving DecidableEq

/-- Keys are ordered by schema, then by table, then by name. -/
def ConstraintKey.path (k : ConstraintKey) : List String := [k.schema, k.table, k.name]

/-- A key with its columns. A foreign key names the table and columns that it refers to. -/
structure Constraint where
  type : String
  schema : String
  name : String
  tableSchema : String
  table : String
  columns : List String := []
  referencedSchema : Option String
  referencedTable : Option String
  referencedColumns : List String := []
  updateRule : Option String
  deleteRule : Option String

/-- Whether a key refers to a table. -/
def Constraint.isForeignKey (c : Constraint) : Bool := c.referencedTable.isSome

/-- Constraints by their keys, in the order of the keys. Each key stands once. -/
abbrev ConstraintMap := List (ConstraintKey × Constraint)

/-- A cell that a row of a constraint needs. -/
def requiredCell (r : Row) (column : String) : Except CatalogError String :=
  match r.nonBlank? column with
  | some s => .ok s
  | none => .error (.malformedRow ("constraint row without " ++ column))

/-- The constraint that a row starts. -/
def Constraint.ofRow (r : Row) (schema table name : String) : Constraint where
  type := (r.text? "constraint_type").getD ""
  schema := (r.nonBlank? "constraint_schema").getD schema
  name := name
  tableSchema := schema
  table := table
  referencedSchema := r.nonBlank? "referenced_table_schema"
  referencedTable := r.nonBlank? "referenced_table_name"
  updateRule := r.nonBlank? "update_rule"
  deleteRule := r.nonBlank? "delete_rule"

/-- The constraint with the columns of one more row. -/
def Constraint.addRow (c : Constraint) (r : Row) : Constraint :=
  { c with
    columns := c.columns ++ (r.nonBlank? "column_name").toList,
    referencedColumns := c.referencedColumns ++ (r.nonBlank? "referenced_column_name").toList }

/-- Adds a row to the constraint of its key, which it starts if there is none. The order of the keys
is kept. -/
def ConstraintMap.addRow (key : ConstraintKey) (start : Constraint) (r : Row) :
    ConstraintMap → ConstraintMap
  | [] => [(key, start.addRow r)]
  | (k, c) :: m =>
    if k = key then (k, c.addRow r) :: m
    else if key.path < k.path then (key, start.addRow r) :: (k, c) :: m
    else (k, c) :: ConstraintMap.addRow key start r m

def gatherRows (m : ConstraintMap) : List Row → Except CatalogError ConstraintMap
  | [] => .ok m
  | r :: rs => do
    let schema ← requiredCell r "table_schema"
    let table ← requiredCell r "table_name"
    let name ← requiredCell r "constraint_name"
    let key := ⟨Text.lowered schema, Text.lowered table, Text.lowered name⟩
    gatherRows (ConstraintMap.addRow key (Constraint.ofRow r schema table name) r m) rs

def gatherConstraints (s : RowSet) : Except CatalogError ConstraintMap := gatherRows [] s.toList

/-- What the keys are listed of: the one schema, or the database. -/
def keyScope : List String → String
  | [schema] => "IN SCHEMA " ++ Sql.quoteIdentifier schema
  | _ => "IN DATABASE"

/-- The query over the two listings of keys. -/
def constraintQuery (count : Nat) : String :=
  "SELECT tc.constraint_type, tc.constraint_schema, k.constraint_name, " ++
  "k.table_schema, k.table_name, k.column_name, " ++
  "k.referenced_table_schema, k.referenced_table_name, k.referenced_column_name, " ++
  "rc.update_rule, rc.delete_rule " ++
  "FROM (" ++
  "SELECT \"schema_name\" AS table_schema, \"table_name\" AS table_name, " ++
  "\"column_name\" AS column_name, \"constraint_name\" AS constraint_name, " ++
  "\"key_sequence\" AS key_sequence, NULL AS referenced_table_schema, " ++
  "NULL AS referenced_table_name, NULL AS referenced_column_name " ++
  "FROM TABLE(RESULT_SCAN($pk_id)) " ++
  "UNION ALL " ++
  "SELECT \"fk_schema_name\", \"fk_table_name\", \"fk_column_name\", \"fk_name\", " ++
  "\"key_sequence\", \"pk_schema_name\", \"pk_table_name\", \"pk_column_name\" " ++
  "FROM TABLE(RESULT_SCAN($fk_id))" ++
  ") AS k " ++
  "JOIN information_schema.table_constraints AS tc " ++
  "ON tc.constraint_schema = k.table_schema AND tc.constraint_name = k.constraint_name " ++
  "LEFT JOIN information_schema.referential_constraints AS rc " ++
  "ON rc.constraint_schema = k.table_schema AND rc.constraint_name = k.constraint_name " ++
  "WHERE tc.constraint_schema IN (" ++ Sql.placeholders count ++ ") " ++
  "ORDER BY k.table_schema, k.table_name, k.constraint_name, k.key_sequence"

/-- The script that reads the keys of some schemas. -/
def constraintScript (schemas : List String) : Script where
  captures := [⟨"SHOW PRIMARY KEYS " ++ keyScope schemas, "pk_id"⟩,
    ⟨"SHOW IMPORTED KEYS " ++ keyScope schemas, "fk_id"⟩]
  query := constraintQuery schemas.length
  params := schemas.map .text

/-- The constraints of some schemas. Without a schema nothing is sent. -/
def loadConstraints (schemas : List String) : Call CatalogError ConstraintMap :=
  if schemas.isEmpty then pure []
  else do
    let rows ← Call.mapError .ofDatabase (constraintScript schemas).run
    ExceptT.mk (pure (gatherConstraints rows))

end Snowbridge.Catalog
