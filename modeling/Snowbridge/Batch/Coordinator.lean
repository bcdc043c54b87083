import Snowbridge.Batch.Command
import Snowbridge.Batch.Policy

/-!
# Running batches

A batch writes records one by one, or reaches rows by their identifiers. It runs in a transaction if
its policy asks for one. Requests that are refused as a whole are refused before anything is sent.
-/

namespace Snowbridge.Batch

open Catalog (Table)

/-- How far a coordinator has come. -/
inductive Phase where
  | open
  | staging
  | committing
  | rollingBack
  | done
  | failed
deriving DecidableEq

/-- What stays the same while batches run. -/
structure Setup where
  table : Table
  policy : Policy := .stop
  dialect : Sql.Dialect := .snowflake
  /-- Reads the expressions of columns that filters name. -/
  parser : Sql.ExpressionParser
  limit : Option Nat := none
  /-- A transaction was open when the session was handed over. -/
  inCallersTransaction : Bool := false

/-- What batches change. -/
structure Progress where
  session : Session
  phase : Phase := .open

/-- A computation of a batch. -/
abbrev Work := ExceptT BatchError (StateM Progress)

/-! ## Steps -/

/-- Runs a call on the session; its fault is a value. -/
def onSession {α : Type} (c : Call DatabaseError α) : Work (Except DatabaseError α) := do
  let p ← get
  let (result, session) := c.run p.session
  set { p with session := session }
  pure result

def call {α : Type} (c : Call DatabaseError α) : Work α := do
  match ← onSession c with
  | .ok a => pure a
  | .error e => throw (.database e)

/-- A result that was computed without the session. -/
def lift {α : Type} (e : Except BatchError α) : Work α := ExceptT.mk (pure e)

def setPhase (phase : Phase) : Work Unit := modify fun p => { p with phase := phase }

def notify (n : Notice) : Work Unit :=
  modify fun p => { p with session := { p.session with notices := p.session.notices ++ [n] } }

def inTransaction : Work Bool := do return (← get).session.inTransaction

namespace Setup

/-- Opens a transaction if the policy asks for one and none is open. -/
def beginIfNeeded (s : Setup) : Work Unit := do
  if s.policy.rollsBack && !(← inTransaction) then call Session.begin

/-- Says that writes may have stayed. -/
def mayPersist (s : Setup) (engine : String) : Notice :=
  .warning (engine ++ " cannot roll back DML; writes to " ++ s.table.internalName ++ " may persist")

/-- Undoes the open transaction, if there is one. -/
def rollback (s : Setup) : Work RollbackOutcome := do
  if !(← inTransaction) then return .nothingToUndo
  setPhase .rollingBack
  let engine := (← get).session.engine
  call Session.rollback
  if engine.undoesWrites then return .rolledBack
  notify (s.mayPersist engine.name)
  return .unsupported

/-- Undoes what can be undone and fails. A fault of the rollback is only told. -/
def abort {α : Type} (s : Setup) (e : BatchError) : Work α := do
  let p ← get
  -- A fault of the rollback must not take the place of the one that led to it.
  let (undone, p) := (s.rollback).run p
  set p
  match undone with
  | .ok _ => pure ()
  | .error fault =>
    notify (.failure ("Rollback after failed batch also failed: " ++ fault.message))
  setPhase .failed
  throw e

/-- Commits the open transaction, if there is one. -/
def commitOpen (_s : Setup) : Work Unit := do
  if ← inTransaction then
    setPhase .committing
    call Session.commit

/-- The fault of a batch that did not succeed. A batch of one record has the fault of its record. -/
def aggregate (s : Setup) (action : String) (o : Outcome) : BatchError :=
  match o.results, o.failures with
  | [_], e :: _ => .ofItem e
  | results, failures =>
    .batch ("Batch " ++ action ++ " on " ++ s.table.internalName ++ " failed for " ++
      toString failures.length ++ " of " ++ toString results.length ++ " records") o

/-- Ends a batch. It is done if every record succeeded or failures are tolerated. -/
def settle (s : Setup) (action : String) (o : Outcome) : Work Outcome := do
  if o.isSuccess || s.policy.continues then
    setPhase .done
    return o
  setPhase .failed
  throw (s.aggregate action o)

/-- The batch is not larger than the limit. -/
def checkLimit (s : Setup) (count : Nat) : Except BatchError Unit :=
  match s.limit with
  | some limit => if limit < count then .error (.tooManyRecords count limit) else .ok ()
  | none => .ok ()

/-- The rows that a predicate accepts. -/
def fetch (s : Setup) (predicate : String) (params : List Value) : Call DatabaseError RowSet :=
  Session.execute ("SELECT * FROM " ++ s.table.quotedName ++ " WHERE " ++ predicate) params

/-! ## Batches of records -/

/-- The row of a record as it is now, if its key is known and the row can be read. -/
def readBack (s : Setup) (fields : Record) : Work (Option Record) := do
  match readBackQuery? s.table fields with
  | none => return none
  | some (predicate, params) =>
    match ← onSession (s.fetch predicate params) with
    | .ok rows => return rows.records.head?
    | .error e =>
      notify (.warning ("Could not read back written row on " ++ s.table.internalName ++ ": " ++
        (BatchError.database e).message))
      return none

def writeFields (s : Setup) (verb : WriteVerb) (index : Nat) (fields : Record) :
    Work (Except ItemError Record) := do
  match writeRecord s.table verb fields with
  | .error reason => return .error (.validation index reason)
  | .ok r =>
    match ← onSession (Session.change r.sql r.params) with
    | .error e => return .error (.write index e.message)
    | .ok affected =>
      if verb ≠ .create && affected == 0 then return .error (.notFound index)
      else if verb == .delete then return .ok fields
      else return .ok ((← s.readBack fields).getD fields)

/-- Writes one record, which has to be one. -/
def writeOne (s : Setup) (verb : WriteVerb) (index : Nat) : Json → Work (Except ItemError Record)
  | .obj fields => s.writeFields verb index fields
  | _ => pure (.error (.validation index "record is not an object"))

def recordFailed (s : Setup) (verb : WriteVerb) (e : ItemError) : Notice :=
  .warning (verb.name ++ " on " ++ s.table.internalName ++ ": " ++ e.message)

/-- Writes the records from a number on, as the policy says, and tells what a rollback did. -/
def writeAll (s : Setup) (verb : WriteVerb) (index : Nat) :
    List Json → Work (List RecordOutcome × Option RollbackOutcome)
  | [] => pure ([], none)
  | r :: rs => do
    match ← s.writeOne verb index r with
    | .ok written =>
      let (results, undone) ← s.writeAll verb (index + 1) rs
      pure (.success written :: results, undone)
    | .error e =>
      notify (s.recordFailed verb e)
      let skipped := rs.map fun _ => RecordOutcome.skipped
      match s.policy with
      | .goOn =>
        let (results, undone) ← s.writeAll verb (index + 1) rs
        pure (.failed e :: results, undone)
      | .rollBack =>
        let undone ← s.rollback
        pure (.failed e :: skipped, some undone)
      | .stop => pure (.failed e :: skipped, none)

def write (s : Setup) (verb : WriteVerb) (records : List Json) : Work Outcome := do
  lift (s.checkLimit records.length)
  if verb ≠ .create then
    -- Rows are found by their keys, so a table without one is refused as a whole.
    let _ ← lift (keyColumns s.table)
  setPhase .staging
  s.beginIfNeeded
  let (results, undone) ← s.writeAll verb 0 records
  -- After a rollback nothing is left to commit, even if it undid nothing.
  if undone.isNone then s.commitOpen
  s.settle verb.name { results := results, rollback := undone }

/-! ## Batches by identifier -/

/-- The predicate of an optional filter over the table's columns. -/
def predicate (s : Setup) (filter : Option String) (named : Filter.Named) :
    Except BatchError (Option Filter.Predicate) :=
  match filter with
  | none => .ok none
  | some text =>
    (Filter.translate ⟨s.table.columns, named, s.dialect, s.parser⟩ text).mapError .filter

/-- The rows of identifiers, matched to them. -/
def fetchByIds (s : Setup) (ids : List Identifier) (sql : String) (params : List Value) :
    Work Outcome := do
  let rows ← call (s.fetch sql params)
  let results ← lift (reconcile s.table ids rows)
  pure { results := results }

/-- Fetches rows. Only a transaction that was open at the start is committed. -/
def retrieveByIds (s : Setup) (ids : List Identifier) (filter : Option String)
    (named : Filter.Named) : Work Outcome := do
  lift (s.checkLimit ids.length)
  if ids.isEmpty then return {}
  let f ← lift (s.predicate filter named)
  let (sql, params) ← lift (scope s.table ids f)
  setPhase .staging
  let o ← s.fetchByIds ids sql params
  if s.inCallersTransaction then s.commitOpen
  s.settle "retrieve" o

/-- Runs a statement that has to change `expected` rows; if it does not, the batch is undone. -/
def changeExactly (s : Setup) (expected : Nat) (r : Request) : Work Unit := do
  match ← onSession (Session.change r.sql r.params) with
  | .error e => s.abort (.database e)
  | .ok affected =>
    if affected ≠ expected then s.abort (.writeCountMismatch expected affected)

/-- The identifiers whose rows were found. -/
def foundIds (ids : List Identifier) (o : Outcome) : List Identifier :=
  ((ids.zip o.results).filter fun (_, result) => result.isSuccess).map Prod.fst

/-- Deletes rows. They are fetched first, and a missing one fails the batch before anything is
deleted, unless failures are tolerated. -/
def deleteByIds (s : Setup) (ids : List Identifier) (filter : Option String)
    (named : Filter.Named) : Work Outcome := do
  lift (s.checkLimit ids.length)
  if ids.isEmpty then return {}
  let f ← lift (s.predicate filter named)
  let (sql, params) ← lift (scope s.table ids f)
  setPhase .staging
  let o ← s.fetchByIds ids sql params
  if !o.isSuccess && !s.policy.continues then
    setPhase .failed
    throw (s.aggregate "delete" o)
  let found := foundIds ids o
  if found.isEmpty then
    setPhase .done
    return o
  -- The rows are named once more without the missing ones, so that the counts agree.
  let (sql, params) ← lift (scope s.table found f)
  s.beginIfNeeded
  s.changeExactly found.length
    ⟨"DELETE FROM " ++ s.table.quotedName ++ " WHERE " ++ sql, params⟩
  s.commitOpen
  s.settle "delete" o

/-- Sets fields of all rows, which then are read back without the filter. -/
def updateByIds (s : Setup) (ids : List Identifier) (fields : Record) (filter : Option String)
    (named : Filter.Named) : Work Outcome := do
  lift (s.checkLimit ids.length)
  if ids.isEmpty then return {}
  let sets ← lift (updateFields s.table fields)
  let f ← lift (s.predicate filter named)
  let (sql, params) ← lift (scope s.table ids f)
  setPhase .staging
  s.beginIfNeeded
  s.changeExactly ids.length
    ⟨updateText s.table sets sql, sets.map Prod.snd ++ params⟩
  -- The filter may not accept the new values, so the rows are sought by their identifiers alone.
  let (sql, params) ← lift (scope s.table ids none)
  let o ← s.fetchByIds ids sql params
  s.commitOpen
  s.settle "update" o

end Setup

end Snowbridge.Batch
