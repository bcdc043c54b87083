import Snowbridge.Json.Basic

/-!
# Outcomes of batches

A batch has one entry for each record or identifier that it was given, in their order: the record as
it is now, the reason that it failed, or that it was not tried.
-/

namespace Snowbridge.Batch

/-- Why one record failed. Records are counted from zero. -/
inductive ItemError where
  | validation (index : Nat) (reason : String)
  | notFound (index : Nat)
  | write (index : Nat) (reason : String)
deriving DecidableEq

namespace ItemError

/-- The record that failed. -/
def index : ItemError → Nat
  | validation i _ => i
  | notFound i => i
  | write i _ => i

def message : ItemError → String
  | validation i reason => "Record " ++ toString i ++ " is invalid: " ++ reason
  | notFound i => "Record " ++ toString i ++ " not found"
  | write i reason => "Record " ++ toString i ++ " failed: " ++ reason

end ItemError

/-- What became of one record. -/
inductive RecordOutcome where
  | success (record : Record)
  | failed (e : ItemError)
  | skipped

namespace RecordOutcome

def isSuccess : RecordOutcome → Bool
  | success _ => true
  | _ => false

def record? : RecordOutcome → Option Record
  | success r => some r
  | _ => none

def error? : RecordOutcome → Option ItemError
  | failed e => some e
  | _ => none

end RecordOutcome

inductive RollbackOutcome where
  | rolledBack
  | unsupported
  | nothingToUndo
deriving DecidableEq

structure Outcome where
  results : List RecordOutcome := []
  rollback : Option RollbackOutcome := none

namespace Outcome

def isSuccess (o : Outcome) : Bool := o.results.all RecordOutcome.isSuccess

def successes (o : Outcome) : List Record := o.results.filterMap RecordOutcome.record?

def failures (o : Outcome) : List ItemError := o.results.filterMap RecordOutcome.error?

end Outcome

end Snowbridge.Batch
