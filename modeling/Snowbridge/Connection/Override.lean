import Snowbridge.Connection.Basic

/-!
# Overrides

A request may replace fields of the connection through headers and query parameters. A mapping says
which name carries which field. The process environment may replace every field.
-/

namespace Snowbridge.Connection

/-- The name that carries a field, by field; of two entries for one field the first counts. -/
structure Mapping where
  entries : List (Field × String) := []
deriving Inhabited

namespace Mapping

/-- Lets a name carry a field. -/
def add (m : Mapping) (f : Field) (name : String) : Mapping := ⟨(f, name) :: m.entries⟩

/-- The name that carries a field, unless it is blank. -/
def nameFor (m : Mapping) (f : Field) : Option String :=
  (m.entries.lookup f).filter fun n => !Text.isBlankText n

def isEmpty (m : Mapping) : Bool := m.entries.isEmpty

def toJson (m : Mapping) : Json :=
  .record (m.entries.reverse.map fun (f, n) => (f.name, Json.str n))

/-- A mapping from a record whose fields are known and whose values are texts. -/
def ofJson? : Json → Option Mapping
  | .obj fields =>
    (fields.mapM fun (key, j) =>
      match Field.ofName? key, j with
      | some f, Json.str n => some (f, n)
      | _, _ => none).map fun (es : List (Field × String)) => ⟨es.reverse⟩
  | _ => none

end Mapping

/-- The headers and query parameters of a request, latest first. Headers are kept in lower case. -/
structure Request where
  headers : List (String × String) := []
  query : List (String × String) := []
deriving Inhabited

namespace Request

/-- Adds a header, in place of an earlier one of the same name in any case. -/
def addHeader (r : Request) (name value : String) : Request :=
  { r with headers := (Text.lowered name, value) :: r.headers }

/-- Adds a query parameter, in place of an earlier one of exactly that name. -/
def addQuery (r : Request) (name value : String) : Request :=
  { r with query := (name, value) :: r.query }

/-- The value that a name carries: the header's if there is one, else the query parameter's. A
blank value counts as none, but a blank header still hides the query parameter. -/
def lookup (r : Request) (name : String) : Option String :=
  ((r.headers.lookup (Text.lowered name)).orElse fun _ => r.query.lookup name).filter fun v =>
    !Text.isBlankText v

end Request

/-- A field's new value: trimmed, unless it is a secret. -/
def Field.clean (f : Field) (value : String) : String :=
  if f.isSecret then value else Text.trimmed value

/-- Replaces the fields for which a value is found, in order, and names them. -/
def replaceFields (source : Field → Option String) (c : Connection) :
    List Field → Connection × List Field
  | [] => (c, [])
  | f :: fs =>
    match source f with
    | some value =>
      let (c, applied) := replaceFields source (c.set f (f.clean value)) fs
      (c, f :: applied)
    | none => replaceFields source c fs

/-- Replaces the fields that the request carries. -/
def override (c : Connection) (m : Mapping) (r : Request) : Connection × List Field :=
  replaceFields (fun f => (m.nameFor f).bind r.lookup) c Field.all

/-- Replaces the fields whose environment variables are set and not blank. -/
def overrideFromEnvironment (c : Connection) (environment : String → Option String) :
    Connection × List Field :=
  let source := fun f : Field =>
    (environment f.environmentName).filter fun v => !Text.isBlankText v
  replaceFields source c Field.all

end Snowbridge.Connection
