import Snowbridge.Notice
import Snowbridge.Session.Error
import Snowbridge.Session.RowSet

/-!
# Sessions

A session sends requests to an engine and keeps what was sent, in order, with the state of its
transaction. An engine may answer each request as it likes, depending on all requests before it, so
that a statement about every engine is a statement about every sequence of replies. A call that
fails leaves behind the session as it was when it failed.
-/

namespace Snowbridge

/-- A statement with the values bound to its placeholders. -/
structure Request where
  sql : String
  params : List Value := []

/-- An engine's answer to a request. -/
inductive Reply where
  | rows (set : RowSet)
  | affected (count : Nat)
  | failed (error : DatabaseError)

/-- An engine: how it answers after a list of earlier requests, and what it is able to do. -/
structure Engine where
  name : String
  answer : List Request → Request → Reply
  beginText : String := "BEGIN"
  /-- Undoing a transaction takes back its writes. -/
  undoesWrites : Bool := true
  /-- Attributes of the session are set by statements; otherwise they are ignored. -/
  hasAttributes : Bool := true

structure Session where
  engine : Engine
  log : List Request := []
  inTransaction : Bool := false
  notices : List Notice := []

/-- A computation on a session, which may fail. -/
abbrev Call (ε : Type) := ExceptT ε (StateM Session)

namespace Call

/-- Turns faults of one kind into faults of another. -/
def mapError {ε ε' α : Type} (f : ε → ε') (c : Call ε α) : Call ε' α := ExceptT.adapt f c

end Call

namespace Session

def send (r : Request) : Call DatabaseError Reply := do
  let s ← get
  set { s with log := s.log ++ [r] }
  match s.engine.answer s.log r with
  | .failed e => throw e
  | reply => pure reply

/-- The rows of a query. A reply without rows counts as no rows. -/
def execute (sql : String) (params : List Value) : Call DatabaseError RowSet := do
  match ← send ⟨sql, params⟩ with
  | .rows set => pure set
  | _ => pure {}

/-- Runs a statement for its effect. -/
def run (sql : String) : Call DatabaseError Unit := do
  let _ ← send ⟨sql, []⟩

/-- The number of rows that a statement changed. A reply without a count counts as none. -/
def change (sql : String) (params : List Value) : Call DatabaseError Nat := do
  match ← send ⟨sql, params⟩ with
  | .affected n => pure n
  | _ => pure 0

/-- Runs a statement that opens or closes a transaction. -/
def setTransaction (sql : String) (isOpen : Bool) : Call DatabaseError Unit := do
  run sql
  modify fun s => { s with inTransaction := isOpen }

def begin : Call DatabaseError Unit := do
  setTransaction (← get).engine.beginText true

/-- Keeps the writes of the transaction. -/
def commit : Call DatabaseError Unit := setTransaction "COMMIT" false

/-- Takes back the writes of the transaction. -/
def rollback : Call DatabaseError Unit := setTransaction "ROLLBACK" false

def notify {ε : Type} (n : Notice) : Call ε Unit :=
  modify fun s => { s with notices := s.notices ++ [n] }

end Session

end Snowbridge
