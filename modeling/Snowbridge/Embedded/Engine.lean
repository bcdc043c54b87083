import Snowbridge.Embedded.Cell
import Snowbridge.Session.Basic

/-!
# The embedded engine

An engine within the process, for work without a warehouse. It takes no attributes of the session,
and it opens a transaction with words of its own.
-/

namespace Snowbridge.Embedded

/-- The engine's own reply: columns and cells, a count, or a fault in words. -/
inductive CellReply where
  | rows (columns : List String) (rows : List (List Cell))
  | affected (count : Nat)
  | fails (reason : String)

/-- The values of a row, one for each column. Cells behind the last column are dropped, and where a
row ends early the rest is null. -/
def valuesOf (cal : Calendar) (columns : List String) (row : List Cell) :
    Except Overflow (List Value) :=
  (List.range columns.length).mapM fun i => (row.getD i .null).toValue cal

/-- The reply to a statement, with its cells read row by row. -/
def CellReply.read (cal : Calendar) (sql : String) : CellReply → Except Overflow Reply
  | .rows columns cells =>
    (cells.mapM (valuesOf cal columns)).map fun values => .rows ⟨columns, values⟩
  | .affected n => .ok (.affected n)
  | .fails reason => .ok (.failed (.ofReason sql reason))

/-- The engine whose replies to its first requests are given. Later ones affect no rows. Where a
reply overflows, the program is left with no reply. -/
def engine (cal : Calendar) (replies : List CellReply) : Engine where
  name := "duckdb"
  answer := fun log r =>
    match replies[log.length]? with
    | some reply => (reply.read cal r.sql).toOption.getD (.affected 0)
    | none => .affected 0
  beginText := "BEGIN TRANSACTION"
  hasAttributes := false

/-- Runs a query on a session with that engine. No other call reads the cells of a reply, so only a
query may overflow. -/
def query (cal : Calendar) (replies : List CellReply) (sql : String) (params : List Value)
    (s : Session) : Except Overflow (Except DatabaseError RowSet × Session) :=
  match replies[s.log.length]? with
  | some reply => (reply.read cal sql).map fun _ => (Session.execute sql params).run s
  | none => .ok ((Session.execute sql params).run s)

end Snowbridge.Embedded
