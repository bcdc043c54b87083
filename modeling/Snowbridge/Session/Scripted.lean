import Snowbridge.Session.Basic
import Snowbridge.Text.Blank

/-!
# Scripted engines

An engine for trials: the first rule whose start a statement has, in any case of letters, gives the
reply. The replies of a rule are used up one by one, and the last one repeats.
-/

namespace Snowbridge

/-- A reply of a script. Faults are made from the statement that they answer. -/
inductive ScriptedReply where
  | rows (set : RowSet)
  | affected (count : Nat)
  | fails (error : String → DatabaseError)

/-- The reply to a statement. -/
def ScriptedReply.toReply (sql : String) : ScriptedReply → Reply
  | .rows set => .rows set
  | .affected n => .affected n
  | .fails error => .failed (error sql)

/-- Replies for the statements that start with a text. -/
structure ReplyRule where
  start : String
  replies : List ScriptedReply

namespace ReplyRule

/-- Whether a statement starts as the rule says. Blanks in front do not count. -/
def covers (r : ReplyRule) (sql : String) : Bool :=
  (Text.uppered r.start).toList.isPrefixOf
    (Text.uppered (String.ofList (Text.trimLeft sql.toList))).toList

/-- The reply to the statement that comes after `n` others of the rule. -/
def reply? (r : ReplyRule) (n : Nat) : Option ScriptedReply :=
  r.replies[n]?.orElse fun _ => r.replies.getLast?

end ReplyRule

/-- The position of the rule for a statement. -/
def ruleFor? (rules : List ReplyRule) (sql : String) : Option Nat :=
  rules.findIdx? fun r => r.covers sql

/-- The answer of a script after some requests. A statement without a rule affects no rows. -/
def scriptedAnswer (rules : List ReplyRule) (log : List Request) (r : Request) : Reply :=
  let found := do
    let i ← ruleFor? rules r.sql
    let rule ← rules[i]?
    rule.reply? (log.countP fun (earlier : Request) => ruleFor? rules earlier.sql == some i)
  match found with
  | some reply => reply.toReply r.sql
  | none => .affected 0

/-- The engine of a script. -/
def Engine.scripted (name : String) (undoesWrites : Bool) (rules : List ReplyRule) : Engine where
  name := name
  answer := scriptedAnswer rules
  undoesWrites := undoesWrites

end Snowbridge
