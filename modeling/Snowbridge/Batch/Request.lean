import Snowbridge.Batch.Coordinator

/-!
# Batch requests

A request names what to do and what to do it to. Only some pairs make sense, and a filter only goes
with identifiers; all others are refused.
-/

namespace Snowbridge.Batch

inductive RequestVerb where
  | create
  | read
  | update
  | delete
deriving DecidableEq

/-- The name of a verb in a message. -/
def RequestVerb.label : RequestVerb → String
  | .create => "Create"
  | .read => "Read"
  | .update => "Update"
  | .delete => "Delete"

/-- Records, or identifiers with the fields to set. -/
inductive Target where
  | records (records : List Json)
  | ids (ids : List Identifier) (update : Option Record)

/-- Gives the fields to set. Records have none. -/
def Target.withUpdate (fields : Record) : Target → Target
  | .records rs => .records rs
  | .ids identifiers _ => .ids identifiers (some fields)

structure BatchRequest where
  verb : RequestVerb
  target : Target
  filter : Option String := none
  named : Filter.Named := []

/-- Runs the batch that a request asks for. -/
def Setup.execute (s : Setup) (r : BatchRequest) : Work Outcome :=
  match r.verb, r.target with
  | verb, .records records =>
    if r.filter.isSome then throw (.invalidRequest "filters apply to identifier batches only")
    else
      match verb with
      | .create => s.write .create records
      | .update => s.write .update records
      | .delete => s.write .delete records
      | .read => throw (.invalidRequest "read needs identifiers, not records")
  | .read, .ids ids none => s.retrieveByIds ids r.filter r.named
  | .delete, .ids ids none => s.deleteByIds ids r.filter r.named
  | .update, .ids ids (some fields) => s.updateByIds ids fields r.filter r.named
  | .create, .ids _ _ => throw (.invalidRequest "create needs records, not identifiers")
  | .update, .ids _ none => throw (.invalidRequest "update by identifier needs update fields")
  | verb, .ids _ (some _) =>
    throw (.invalidRequest (verb.label ++ " by identifier does not take update fields"))

end Snowbridge.Batch
