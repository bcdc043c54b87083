import Snowbridge.Catalog.Routine
import Snowbridge.Catalog.Signature
import Snowbridge.Catalog.Table
import Snowbridge.Session.Script

/-!
# Reading the catalog

Lists of schemas, relations and routines, the columns of a table, the parameters of a routine, and
calls of routines. A reading either gives a complete description or none.
-/

namespace Snowbridge.Catalog

/-- The rows of a query, with faults of the catalog. -/
def query (sql : String) (params : List Value) : Call CatalogError RowSet :=
  Call.mapError .ofDatabase (Session.execute sql params)

/-- A result that was computed without the session. -/
def lift {α : Type} (e : Except CatalogError α) : Call CatalogError α := ExceptT.mk (pure e)

/-! ## Filling a description -/

/-- A computation on a session and on a description that its caller holds. What it has done to the
description stays done when it fails. -/
abbrev Filling (δ α : Type) := ExceptT CatalogError (StateM (δ × Session)) α

namespace Filling

variable {δ α : Type}

/-- The description as it stands. -/
def held : Filling δ δ := do
  let (d, _) ← get
  pure d

/-- Puts a description in place of the one that is held. -/
def replace (d : δ) : Filling δ Unit := modify fun (_, s) => (d, s)

/-- A call on the session, which leaves the description as it is. -/
def onSession (c : Call CatalogError α) : Filling δ α :=
  ExceptT.mk fun (d, s) =>
    let (result, s') := c.run s
    (result, d, s')

/-- What the caller holds in the end, if a filling of its description succeeds. -/
def fill (f : Filling δ Unit) (d : δ) : Call CatalogError δ :=
  ExceptT.mk fun s =>
    let (result, d', s') := f.run (d, s)
    (result.map fun _ => d', s')

end Filling

/-! ## Schemas and relations -/

/-- The schemas, apart from the one that describes the others. -/
def listSchemas : Call CatalogError (List String) := do
  let rows ← query ("SELECT schema_name FROM information_schema.schemata " ++
    "WHERE schema_name NOT IN ('INFORMATION_SCHEMA') ORDER BY schema_name") []
  pure (rows.toList.filterMap fun r => r.textAt? 0)

def setCurrentSchema (schema : String) : Call CatalogError Unit :=
  Call.mapError .ofDatabase
    (Session.run ("USE SCHEMA " ++ Sql.quoteIdentifier (Text.uppered schema)))

/-- Tables by their names in lower case. -/
abbrev TableMap := List (String × Table)

/-- Puts a table at its name, in place of one that is there. -/
def TableMap.insert (name : String) (t : Table) : TableMap → TableMap
  | [] => [(name, t)]
  | (n, u) :: m => if n == name then (n, t) :: m else (n, u) :: TableMap.insert name t m

/-- The word for relations of a kind. -/
def TableKind.noun : TableKind → String
  | .table => "TABLES"
  | .view => "VIEWS"

def relationOfRow (kind : TableKind) (schema : String) (r : Row) : Except CatalogError Table :=
  match r.textAt? 1 with
  | none => .error (.malformedRow (kind.noun ++ " row without a name"))
  | some name => .ok { schema := (r.nonBlank? "schema_name").getD schema, name, kind }

/-- The relations of a kind in a schema, or in the current one. -/
def listRelations (kind : TableKind) (schema : String) : Call CatalogError TableMap := do
  let place := if schema == "" then "" else " IN " ++ Sql.quoteIdentifier schema
  let rows ← query ("SHOW " ++ kind.noun ++ place) []
  let tables ← lift (rows.toList.mapM (relationOfRow kind schema))
  pure (tables.foldl (fun (m : TableMap) t => m.insert (Text.lowered t.name) t) [])

/-! ## Columns -/

/-- The script that joins the two descriptions of a table's columns. -/
def columnScript (t : Table) : Script where
  captures := [⟨"SHOW COLUMNS IN TABLE " ++ t.quotedName, "s_c"⟩,
    ⟨"DESC TABLE " ++ t.quotedName, "d_t"⟩]
  query := "SELECT d.*, s.\"autoincrement\" FROM TABLE(RESULT_SCAN($d_t)) AS d " ++
    "JOIN TABLE(RESULT_SCAN($s_c)) AS s ON d.\"name\" = s.\"column_name\""

def saysYes (r : Row) (column : String) : Bool :=
  (r.text? column).any fun s => Text.sameName (Text.trimmed s) "Y"

/-- The column that a row describes, and the sequence that numbers it if it is a numbered key. A
numbered key of whole numbers has a type of its own. -/
def columnOfRow (r : Row) (name : String) : Column × Option String :=
  let raw := (r.text? "default").getD ""
  let numbering := numbering? raw
  let plain := Column.ofType name ((r.text? "type").getD "")
  let isKey := saysYes r "primary key"
  let isNumbered := (r.nonBlank? "autoincrement").isSome || numbering.isSome
  let c := { plain with
    allowNull := saysYes r "null?"
    isPrimaryKey := isKey
    isUnique := saysYes r "unique key"
    comment := r.nonBlank? "comment"
    autoIncrement := isNumbered
    -- The sequence behind a numbered column stands where its default would.
    default := if numbering.isSome then none else Default.read? raw plain.type
    type := if isKey && isNumbered && plain.type == .integer then .id else plain.type }
  let sequence := ((r.nonBlank? "sequence").orElse fun _ => numbering.join).getD name
  (c, if isKey && isNumbered then some sequence else none)

/-- Adds the column that a row describes. -/
def Table.addRow (t : Table) (r : Row) : Except CatalogError Table :=
  match r.nonBlank? "name" with
  | none => .error (.malformedRow ("column of " ++ t.internalName ++ " without a name"))
  | some name =>
    let (c, sequence) := columnOfRow r name
    -- Of several numbered keys the last one tells the sequence.
    let t := { t with sequence := sequence.orElse fun _ => t.sequence }
    let t := if c.isPrimaryKey then t.addPrimaryKey name else t
    .ok (t.addColumn c)

/-- The table with the columns of a result, in place of those it had. -/
def Table.withRows (t : Table) (s : RowSet) : Except CatalogError Table :=
  s.toList.foldlM Table.addRow t.cleared

/-- Fills a table with its columns and primary key. The rows go into a copy, which takes the place
of the table once all of them are read. -/
def fillColumns : Filling Table Unit := do
  let t ← Filling.held
  let rows ← Filling.onSession (Call.mapError .ofDatabase (columnScript t).run)
  let loaded ← Filling.onSession (lift (t.withRows rows))
  Filling.replace loaded

/-- The table with its columns and primary key. -/
def loadColumns (t : Table) : Call CatalogError Table := fillColumns.fill t

/-! ## Routines -/

def routineOfRow (kind : RoutineKind) (schema : String) (r : Row) :
    Except CatalogError Routine :=
  match r.nonBlank? (kind.keyword ++ "_NAME") with
  | none => .error (.malformedRow (kind.keyword ++ " row without a name"))
  | some name =>
    let place := (r.nonBlank? (kind.keyword ++ "_SCHEMA")).getD schema
    let routine : Routine := { kind, schema := place, name }
    .ok (match r.text? "DATA_TYPE" with
      | some typeText => routine.setReturnType typeText
      | none => routine)

/-- The routines of a kind in a schema, or in the current one. -/
def listRoutines (kind : RoutineKind) (schema : String) : Call CatalogError (List Routine) := do
  let k := kind.keyword
  let (scope, params) :=
    if schema == "" then ("CURRENT_SCHEMA()", []) else ("?", [Value.text schema])
  let rows ← query ("SELECT " ++ k ++ "_SCHEMA, " ++ k ++ "_NAME, DATA_TYPE FROM " ++
    "INFORMATION_SCHEMA." ++ k ++ "S WHERE " ++ k ++ "_SCHEMA = " ++ scope ++ " ORDER BY " ++ k ++
    "_NAME") params
  lift (rows.toList.mapM (routineOfRow kind schema))

/-- A size in a cell, if it lies in its range. -/
def sizeCell? (r : Row) (bound : Nat) (column : String) : Option Nat :=
  (r.int? column).bind fun n =>
    if 0 ≤ n.toInt && n.toInt < bound then some n.toInt.toNat else none

/-- The sizes of a parameter from its row, unless its type's text has some. -/
def Parameter.fillSize (p : Parameter) (r : Row) : Parameter :=
  if p.size ≠ {} then p
  else if p.type.hasLength then
    { p with size := { length := sizeCell? r (Nat.pow 2 64) "CHARACTER_MAXIMUM_LENGTH" } }
  else
    { p with size := {
        precision := sizeCell? r (Nat.pow 2 32) "NUMERIC_PRECISION"
        scale := sizeCell? r (Nat.pow 2 32) "NUMERIC_SCALE" } }

/-- The parameters of the arguments from a position on. An argument without a name is none. -/
def parametersFrom (r : Row) (position : Nat) : List SignatureArgument → List Parameter
  | [] => []
  | ⟨some name, typeText⟩ :: as =>
    (Parameter.ofType name position typeText).fillSize r :: parametersFrom r (position + 1) as
  | ⟨none, _⟩ :: as => parametersFrom r (position + 1) as

/-- The routine with what a row tells of it. The return type is only taken over if the signature
has an argument without a name. -/
def Routine.withRow (routine : Routine) (r : Row) : Routine :=
  let arguments := readSignature ((r.text? "ARGUMENT_SIGNATURE").getD "")
  let typed :=
    if arguments.any fun a => a.name.isNone then
      routine.setReturnType ((r.text? "DATA_TYPE").getD "")
    else routine
  { typed with parameters := parametersFrom r 1 arguments }

/-- Says that the first of several signatures is used. -/
def overloaded (routine : Routine) (count : Nat) : Notice :=
  .warning (routine.kind.name ++ " " ++ routine.internalName ++ " is overloaded (" ++
    toString count ++ " signatures); using the first")

/-- The rows of the signatures of a routine. -/
def signatureRows (routine : Routine) : Call CatalogError RowSet :=
  let k := routine.kind.keyword
  query ("SELECT * FROM INFORMATION_SCHEMA." ++ k ++ "S WHERE " ++ k ++
    "_NAME = ? AND " ++ k ++ "_SCHEMA = ?") [.text routine.name, .text routine.schema]

/-- Fills a routine with its parameters and return type. -/
def fillParameters : Filling Routine Unit := do
  let routine ← Filling.held
  let rows ← Filling.onSession (signatureRows routine)
  match rows.toList with
  | [] => throw (.routineNotFound routine.schema routine.name)
  | r :: rest =>
    if !rest.isEmpty then
      Filling.onSession (Session.notify (overloaded routine (rest.length + 1)))
    Filling.replace (routine.withRow r)

/-! ## Calls -/

/-- Calls a procedure for its rows. -/
def callProcedure (routine : Routine) (as : List Argument) : Call CatalogError RowSet := do
  let params ← lift (routine.bindArguments as)
  query ("CALL " ++ routine.quotedName ++ "(" ++ Sql.placeholders params.length ++ ")") params

/-- The value in the first row of a result: in the column named for the output, or else for the
function. -/
def outputValue (routine : Routine) (s : RowSet) : Value :=
  match s.toList with
  | r :: _ => ((r.get? "output").orElse fun _ => r.get? routine.name).getD .null
  | [] => .null

/-- Calls a function for its value. -/
def callFunction (routine : Routine) (as : List Argument) : Call CatalogError Value := do
  let params ← lift (routine.bindArguments as)
  let rows ← query ("SELECT " ++ routine.quotedName ++ "(" ++ Sql.placeholders params.length ++
    ") AS \"output\"") params
  pure (outputValue routine rows)

end Snowbridge.Catalog
