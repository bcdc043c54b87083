import Snowbridge.Catalog.ColumnType
import Snowbridge.Catalog.Error
import Snowbridge.Sql.Quoted
import Snowbridge.Value

/-!
# Routines

Procedures and functions with their parameters. The engine's routines only take arguments in; an
argument for any other direction is refused before anything is sent.
-/

namespace Snowbridge.Catalog

inductive RoutineKind where
  | procedure
  | function
deriving DecidableEq

namespace RoutineKind

def name : RoutineKind → String
  | procedure => "procedure"
  | function => "function"

def keyword : RoutineKind → String
  | procedure => "PROCEDURE"
  | function => "FUNCTION"

end RoutineKind

/-- Where the value of an argument goes. -/
inductive Direction where
  | input
  | output
  | both
deriving DecidableEq

def Direction.word : Direction → String
  | .input => "IN"
  | .output => "OUT"
  | .both => "INOUT"

/-- A parameter and its position, which counts from one. -/
structure Parameter where
  name : String
  position : Nat
  direction : Direction
  type : ColumnType
  typeText : String
  size : TypeSize

/-- The parameter of a name, a position and a type's text. All parameters take a value in. -/
def Parameter.ofType (name : String) (position : Nat) (typeText : String) : Parameter where
  name := name
  position := position
  direction := .input
  type := ColumnType.ofType typeText
  typeText := typeText
  size := TypeSize.ofType typeText

/-- A procedure or function. One that returns nothing has no return type. -/
structure Routine where
  kind : RoutineKind
  schema : String
  name : String
  returnType : Option String := none
  parameters : List Parameter := []

namespace Routine

/-- The name after its schema. -/
def internalName (r : Routine) : String := r.schema ++ "." ++ r.name

def quotedName (r : Routine) : String := Sql.quoteName [r.schema, r.name]

/-- Sets the return type from its text. An empty text and the word for nothing clear it. -/
def setReturnType (r : Routine) (typeText : String) : Routine :=
  let s := Text.trimmed typeText
  { r with returnType := if s == "" || Text.sameName s "VOID" then none else some s }

def parameter? (r : Routine) (name : String) : Option Parameter :=
  r.parameters.find? fun p => Text.sameName p.name name

/-- The parameters by position; of equal positions the earlier in the list comes first. -/
def ordered (r : Routine) : List Parameter :=
  r.parameters.mergeSort fun p q => p.position ≤ q.position

end Routine

/-- A value for a parameter. -/
structure Argument where
  name : String
  value : Value
  direction : Direction := .input

/-- Why an argument cannot be passed. -/
def Argument.fault? (r : Routine) (a : Argument) : Option CatalogError :=
  if a.direction ≠ .input then
    some (.unsupportedDirection r.internalName a.name a.direction.word)
  else if (r.parameter? a.name).isNone then some (.unknownArgument r.internalName a.name)
  else none

/-- The value for a parameter: the first argument of its name, or null. -/
def argumentFor (as : List Argument) (p : Parameter) : Value :=
  ((as.find? fun a => Text.sameName a.name p.name).map Argument.value).getD .null

/-- The values of the parameters in their order. -/
def Routine.bindArguments (r : Routine) (as : List Argument) : Except CatalogError (List Value) :=
  match as.findSome? (Argument.fault? r) with
  | some e => .error e
  | none => .ok (r.ordered.map (argumentFor as))

end Snowbridge.Catalog
