import Snowbridge.Text.Case
import Snowbridge.Value

/-!
# Result rows

The rows of a query under the names of their columns. A column is found by its name in any case of
ASCII letters; of two columns with one name the first is found. A row may be shorter or longer than
the list of names.
-/

namespace Snowbridge

structure Row where
  columns : List String
  cells : List Value

structure RowSet where
  columns : List String := []
  rows : List (List Value) := []
deriving Inhabited

namespace Row

def get? (r : Row) (name : String) : Option Value :=
  (r.columns.findIdx? fun c => Text.sameName c name).bind fun i => r.cells[i]?

/-- The text of a cell; null has none. -/
def text? (r : Row) (name : String) : Option String := (r.get? name).bind Value.asText

/-- The text of the cell at a position. -/
def textAt? (r : Row) (i : Nat) : Option String := r.cells[i]?.bind Value.asText

/-- The text of a cell, unless it is blank. -/
def nonBlank? (r : Row) (name : String) : Option String :=
  (r.text? name).filter fun s => !Text.isBlankText s

/-- The integer in a cell. -/
def int? (r : Row) (name : String) : Option Int64 := (r.get? name).bind Value.asInt

/-- The row as a record. Of two columns with one name the later stands. -/
def record (r : Row) : Record :=
  Record.ofList ((r.columns.zip r.cells).map fun (c, v) => (c, v.toJson))

end Row

namespace RowSet

/-- The rows with the names of their columns. -/
def toList (s : RowSet) : List Row := s.rows.map fun cells => ⟨s.columns, cells⟩

def columnIndex? (s : RowSet) (name : String) : Option Nat :=
  s.columns.findIdx? fun c => Text.sameName c name

/-- All rows as records. -/
def records (s : RowSet) : List Record := s.toList.map Row.record

end RowSet

end Snowbridge
