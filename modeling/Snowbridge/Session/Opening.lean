import Snowbridge.Connection.Dsn
import Snowbridge.Session.Attribute

/-!
# Opening a session

The connection string and the options are checked before anything is attempted. An attempt that
fails with a lost connection is made once more, with the same credentials; every other fault ends
the opening. Then the session gets its attributes, up to the first that fails.
-/

namespace Snowbridge

/-- Makes attempts to connect: the outcome of each attempt, by the number of attempts before it. -/
abbrev Connector := Nat → Except DatabaseError Engine

/-- An opening that has come to its end: how many attempts were made, the session if one was
opened, and what came of it. -/
structure Opening where
  attempts : Nat := 0
  session : Option Session := none
  outcome : Except DatabaseError Unit
  notices : List Notice := []

namespace Opening

/-- Says that a second attempt follows. -/
def retrying (e : DatabaseError) : Notice :=
  .warning ("Connection lost while connecting, retrying once: " ++ e.message)

/-- The attempts: how many were made, and what the last one gave. -/
def attempt (connector : Connector) : Nat × Except DatabaseError Engine × List Notice :=
  match connector 0 with
  | .ok e => (1, .ok e, [])
  | .error fault =>
    -- Only a lost connection is worth another attempt: wrong credentials stay wrong.
    if fault.isLost then
      (2, (connector 1).mapError DatabaseError.ofHandshake, [retrying fault])
    else (1, .error fault.ofHandshake, [])

/-- Sets the attributes one after the other. -/
def applyAll : List Attribute → Call DatabaseError Unit
  | [] => pure ()
  | a :: as => do
    a.apply
    applyAll as

/-- Opens a session. `keyFile` gives the absolute path of a private key that exists. -/
def run (connector : Connector) (keyFile : String → Option String) (c : Connection)
    (options : List (String × String)) : Opening :=
  let told := ConnectionString.notices c
  match ConnectionString.build keyFile c with
  | .error e => { outcome := .error (.config e), notices := told }
  | .ok _ =>
    let told := told ++ Attribute.optionNotices options
    match Attribute.ofOptions options with
    | .error e => { outcome := .error (.config e), notices := told }
    | .ok attributes =>
      let (attempts, made, lost) := attempt connector
      match made with
      | .error e => { attempts, outcome := .error e, notices := told ++ lost }
      | .ok engine =>
        let (outcome, session) := (applyAll attributes).run { engine }
        { attempts, session := some session, outcome, notices := told ++ lost }

end Opening

end Snowbridge
