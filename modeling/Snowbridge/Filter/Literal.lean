import Snowbridge.Catalog.Table
import Snowbridge.Filter.Tree

/-!
# Filter values

A value in a filter is a literal, the word for null, or the name of a parameter after a colon. It is
bound as a value of its column's type; for an operator with wildcards it is bound as a text.
-/

namespace Snowbridge.Filter

open Catalog (Column)

/-- The values of parameters by name. -/
abbrev Named := List (String × Value)

/-- The characters of a parameter's name. -/
def isNameChar (c : Char) : Bool := c.isAlphanum || c == '_'

/-- The text between quotes of one kind, with each doubled quote written once. -/
def insideQuotes? (quote : Char) (cs : List Char) : Option (List Char) :=
  match cs with
  | c :: r =>
    if c == quote && r.getLast? == some quote then some (Sql.undoubled quote r.dropLast) else none
  | [] => none

/-- A literal without its quotes, if it has them. -/
def unquote (cs : List Char) : List Char :=
  ((insideQuotes? '\'' cs).orElse fun _ => insideQuotes? '"' cs).getD cs

/-- The name of the parameter that a text refers to. -/
def parameterName? (cs : List Char) : Option (List Char) :=
  match cs with
  | ':' :: name => if !name.isEmpty && name.all isNameChar then some name else none
  | _ => none

/-- The value that a text stands for. A parameter may be given with its colon or without. -/
def readScalar (named : Named) (raw : String) : Except FilterError Value :=
  let cs := Text.trim raw.toList
  match parameterName? cs with
  | some name =>
    match (named.lookup (String.ofList name)).orElse fun _ => named.lookup (String.ofList cs) with
    | some v => .ok v
    | none => .error (.missingParameter (String.ofList name))
  | none =>
    if Text.sameFolded cs "null".toList then .ok .null
    else .ok (.text (String.ofList (unquote cs)))

/-- A number, from an integer, a number or its text. -/
def toNumber? : Value → Option Value
  | .int n => some (.int n)
  | .float x => some (.float x)
  | .text s => (Decimal.readFloat? (Text.trimmed s)).map .float
  | _ => none

/-- A truth value, from one, from zero or one, or from the text of either. -/
def toBoolean? : Value → Option Value
  | .bool b => some (.bool b)
  | .int n => if n == 0 then some (.bool false) else if n == 1 then some (.bool true) else none
  | .text s =>
    let word := Text.foldedAscii (Text.trimmed s)
    if word == "true" || word == "1" then some (.bool true)
    else if word == "false" || word == "0" then some (.bool false)
    else none
  | _ => none

/-- The value as one of a column's type, if it can be one. -/
def convert? (t : Catalog.ColumnType) (v : Value) : Option Value :=
  if t.isInteger then v.asInt.map .int
  else
    match t with
    | .decimal => toNumber? v
    | .double => toNumber? v
    | .boolean => toBoolean? v
    | _ => some (.text v.display)

/-- What a value of a type has to be. -/
def expectation (t : Catalog.ColumnType) : String :=
  if t.isInteger then "an integer" else if t == .boolean then "a boolean" else "a number"

/-- The value as one of a column's type. Null stays null. -/
def cast (c : Column) (v : Value) : Except FilterError Value :=
  if v.isNull then .ok v
  else
    match convert? c.type v with
    | some w => .ok w
    | none => .error (.invalidValue c.name v.display (expectation c.type))

/-- The value that is bound for a text, by its operator and column. -/
def bindValue (named : Named) (c : Column) (o : Operator) (raw : String) :
    Except FilterError Value := do
  let v ← readScalar named raw
  if o.isPattern then
    if v.isNull then .ok .null else .ok (.text (o.pattern v.display))
  else cast c v

end Snowbridge.Filter
