import Snowbridge.Session.Basic
import Snowbridge.Sql.Quoted

/-!
# Prepared statements

A statement with values for its placeholders, which are the question marks outside quoted runs.
-/

namespace Snowbridge

/-- A statement that is being given its values. -/
structure Prepared where
  sql : String
  params : List Value := []

namespace Prepared

/-- Binds one more value. -/
def bind (p : Prepared) (v : Value) : Prepared := { p with params := p.params ++ [v] }

/-- How many values the statement takes. -/
def placeholderCount (p : Prepared) : Nat := Sql.placeholderCount p.sql

/-- Every placeholder has a value. -/
def isFullyBound (p : Prepared) : Bool := p.params.length == p.placeholderCount

def query (p : Prepared) : Call DatabaseError RowSet := Session.execute p.sql p.params

end Prepared

end Snowbridge
