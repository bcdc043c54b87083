import Snowbridge.Batch.Error

/-!
# Batch policies

What happens when a record fails: the batch stops there, or it stops and is rolled back, or it goes
on with the next record.
-/

namespace Snowbridge.Batch

/-- What a failure does to the batch. -/
inductive Policy where
  | stop
  | rollBack
  | goOn
deriving DecidableEq, Inhabited

namespace Policy

/-- A failure undoes the whole batch. -/
def rollsBack (p : Policy) : Bool := p == rollBack

/-- A failure leaves the other records alone. -/
def continues (p : Policy) : Bool := p == goOn

/-- The policy of two wishes, which exclude each other. -/
def ofFlags (rollsBack continues : Bool) : Except BatchError Policy :=
  match rollsBack, continues with
  | true, true => .error .conflictingPolicy
  | true, false => .ok rollBack
  | false, true => .ok goOn
  | false, false => .ok stop

end Policy

end Snowbridge.Batch
