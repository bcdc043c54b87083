import Snowbridge.Batch.Outcome
import Snowbridge.Filter.Error
import Snowbridge.Session.Error

/-!
# Batch faults

What can go wrong with a batch as a whole.
-/

namespace Snowbridge.Batch

inductive BatchError where
  | conflictingPolicy
  | tooManyRecords (count limit : Nat)
  | validation (index : Nat) (reason : String)
  | notFound (index : Nat)
  | writeCountMismatch (expected actual : Nat)
  | batch (reason : String) (outcome : Outcome)
  | write (index : Nat) (reason : String)
  | missingPrimaryKey (table : String)
  | invalidRequest (reason : String)
  | filter (e : Filter.FilterError)
  | database (e : DatabaseError)

namespace BatchError

/-- The text of a fault, with its code. -/
def message : BatchError → String
  | conflictingPolicy => "[B001] Rollback and continue-on-error are mutually exclusive"
  | tooManyRecords count limit =>
    "[B002] Batch of " ++ toString count ++ " records exceeds the limit of " ++ toString limit
  | validation i reason => "[B003] " ++ (ItemError.validation i reason).message
  | notFound i => "[B004] " ++ (ItemError.notFound i).message
  | writeCountMismatch expected actual =>
    "[B005] Expected to affect " ++ toString expected ++ " rows, affected " ++ toString actual
  | batch reason _ => "[B006] " ++ reason
  | write i reason => "[B007] " ++ (ItemError.write i reason).message
  | missingPrimaryKey table => "[B008] Table '" ++ table ++ "' has no primary key"
  | invalidRequest reason => "[B009] Invalid batch request: " ++ reason
  | filter e => "[B010] " ++ e.message
  | database e => "[B011] " ++ e.message

/-- The fault of a batch whose one record failed. -/
def ofItem : ItemError → BatchError
  | .validation i reason => .validation i reason
  | .notFound i => .notFound i
  | .write i reason => .write i reason

end BatchError

end Snowbridge.Batch
