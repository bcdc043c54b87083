import Snowbridge.Connection.Error
import Snowbridge.Text.Case

/-!
# Database faults

What can go wrong between this program and an engine. A fault that an engine reports while it runs a
statement counts as a lost connection if its text says so, and only then.
-/

namespace Snowbridge

/-- Whether a text holds another. -/
def Text.holds (part : List Char) : List Char → Bool
  | [] => part.isEmpty
  | c :: cs => part.isPrefixOf (c :: cs) || Text.holds part cs

/-- A fault of a session or of the attempt to open one. -/
inductive DatabaseError where
  | config (e : ConfigError)
  | connection (reason : String)
  | lost (reason : String)
  | execution (statement reason : String)
  | notSupported (driver feature : String)
  | lockPoisoned (reason : String)
  | scriptFailed (step : Nat) (statement : String) (source : DatabaseError)

namespace DatabaseError

/-- Parts of an engine's text that mean that the session is gone. The two numbers stand for a
session that no longer exists and for an expired token. -/
def lostMarks : List String :=
  ["connection lost", "lost connection", "connection reset", "connection was closed",
    "broken pipe", "server has gone away", "session no longer exists",
    "authentication token has expired", "390111", "390114"]

/-- Whether an engine's text reports a lost connection, in any case of letters. -/
def reportsLoss (reason : String) : Bool :=
  let cs := (Text.lowered reason).toList
  lostMarks.any fun mark => Text.holds mark.toList cs

/-- The fault of a statement, from the engine's text. -/
def ofReason (statement reason : String) : DatabaseError :=
  if reportsLoss reason then .lost reason else .execution statement reason

/-- A lost connection at any depth of scripts. -/
def isLost : DatabaseError → Bool
  | .lost _ => true
  | .scriptFailed _ _ source => source.isLost
  | _ => false

/-- The statement that failed, if the fault names one. -/
def statement? : DatabaseError → Option String
  | .execution statement _ => some statement
  | .scriptFailed _ statement _ => some statement
  | _ => none

/-- The text of a fault, with its code. -/
def message : DatabaseError → String
  | .config e => "[D001] " ++ e.message
  | .connection reason => "[D002] Database connection failed: " ++ reason
  | .lost reason => "[D003] Database connection lost: " ++ reason
  | .execution statement reason =>
    "[D004] SQL execution failed: " ++ reason ++ " (statement: " ++ statement ++ ")"
  | .notSupported driver feature =>
    "[D005] Feature not supported by " ++ driver ++ ": " ++ feature
  | .lockPoisoned reason => "[D006] Database mutex poisoned: " ++ reason
  | .scriptFailed step statement source =>
    "[D007] Session script failed at step " ++ toString step ++ " (" ++ statement ++ "): " ++
      source.message

/-- The fault of an attempt to connect. Faults of the configuration stay, all others become faults
of the connection. -/
def ofHandshake : DatabaseError → DatabaseError
  | .config e => .config e
  | .connection reason => .connection reason
  | .lost reason => .connection reason
  | e => .connection e.message

end DatabaseError

end Snowbridge
