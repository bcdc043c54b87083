import Snowbridge.Session.Error

/-!
# Catalog faults

What can go wrong while the catalog is read or a routine is called.
-/

namespace Snowbridge.Catalog

inductive CatalogError where
  | introspection (statement : String) (source : DatabaseError)
  | routineNotFound (schema name : String)
  | unsupportedDirection (routine parameter direction : String)
  | unknownArgument (routine parameter : String)
  | malformedRow (reason : String)
  | database (source : DatabaseError)

namespace CatalogError

/-- The text of a fault, with its code. -/
def message : CatalogError → String
  | introspection statement source =>
    "[SC001] Schema introspection failed at '" ++ statement ++ "': " ++ source.message
  | routineNotFound schema name => "[SC002] Routine not found: " ++ schema ++ "." ++ name
  | unsupportedDirection routine parameter direction =>
    "[SC003] Routine '" ++ routine ++ "' only accepts IN parameters; '" ++ parameter ++
      "' was requested as " ++ direction
  | unknownArgument routine parameter =>
    "[SC004] Routine '" ++ routine ++ "' has no parameter named '" ++ parameter ++ "'"
  | malformedRow reason => "[SC005] Malformed catalog row: " ++ reason
  | database source => "[SC006] Database error: " ++ source.message

/-- The fault of the catalog that a fault of the session is. One that names its statement tells
where the reading failed. -/
def ofDatabase : DatabaseError → CatalogError
  | .scriptFailed _ statement source => .introspection statement source
  | .execution statement reason => .introspection statement (.execution statement reason)
  | e => .database e

end CatalogError

end Snowbridge.Catalog
