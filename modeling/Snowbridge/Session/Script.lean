import Snowbridge.Session.Basic

/-!
# Session scripts

Some results exist only under the number that the engine gave to the query that made them. A script
runs commands, keeps the number of each in a session variable right after the command, and ends
with a query that reads the results through these variables. The first statement that fails ends the
script, and the fault names it.
-/

namespace Snowbridge

/-- A command and the variable for the number of its result. -/
structure Capture where
  command : String
  variableName : String

/-- The statement that keeps the number of the last result. -/
def Capture.directive (c : Capture) : String := "SET " ++ c.variableName ++ " = LAST_QUERY_ID()"

/-- Commands and the query over their results. -/
structure Script where
  captures : List Capture
  query : String
  params : List Value := []

namespace Script

def statements (s : Script) : List String :=
  (s.captures.flatMap fun c => [c.command, c.directive]) ++ [s.query]

/-- A call for the statement with a number. Its fault tells the number and the statement. -/
def numbered {α : Type} (step : Nat) (sql : String) (c : Call DatabaseError α) :
    Call DatabaseError α :=
  Call.mapError (.scriptFailed step sql) c

/-- Runs captures after `step` statements, and gives the number of the last one. -/
def runCaptures (step : Nat) : List Capture → Call DatabaseError Nat
  | [] => pure step
  | c :: cs => do
    numbered (step + 1) c.command (Session.run c.command)
    numbered (step + 2) c.directive (Session.run c.directive)
    runCaptures (step + 2) cs

/-- Runs the script and gives the rows of its query. -/
def run (s : Script) : Call DatabaseError RowSet := do
  let step ← runCaptures 0 s.captures
  numbered (step + 1) s.query (Session.execute s.query s.params)

end Script

end Snowbridge
