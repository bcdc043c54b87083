import Snowbridge.Decimal.Integer
import Snowbridge.Session.Basic
import Snowbridge.Sql.Quoted

/-!
# Session attributes

Options of a connection that the engine takes as attributes of the session. An option is known by
its name in any case of letters; unknown options are passed over with a notice, and a value of the
wrong form is a fault of the configuration.
-/

namespace Snowbridge

inductive AttributeKey where
  | autocommit
  | queryTimeout
  | timezone
  | queryTag
  | keepAlive
  | weekStart
  | abortDetachedQuery
deriving DecidableEq

/-- An attribute with its value. The start of the week is zero for the old rule, or a day from one,
Monday, to seven. -/
inductive Attribute where
  | autocommit (on : Bool)
  | queryTimeout (seconds : Nat)
  | timezone (name : String)
  | queryTag (tag : String)
  | keepAlive (on : Bool)
  | weekStart (day : Nat)
  | abortDetachedQuery (on : Bool)
deriving DecidableEq

namespace AttributeKey

/-- The options by name. Two names set the timeout. -/
def table : List (String × AttributeKey) :=
  [("autocommit", autocommit), ("query_timeout", queryTimeout),
    ("statement_timeout_in_seconds", queryTimeout), ("timezone", timezone),
    ("query_tag", queryTag), ("client_session_keep_alive", keepAlive),
    ("week_start", weekStart), ("abort_detached_query", abortDetachedQuery)]

/-- The attribute of an option. -/
def ofName? (name : String) : Option AttributeKey :=
  (table.find? fun e => Text.sameName e.1 (Text.trimmed name)).map Prod.snd

/-- The words for truth values. -/
def readBool? (value : String) : Option Bool :=
  let word := Text.foldedAscii value
  if ["true", "1", "yes", "on"].contains word then some true
  else if ["false", "0", "no", "off"].contains word then some false
  else none

/-- What the value of an option has to be. -/
def expected : AttributeKey → String
  | queryTimeout => "a non-negative number of seconds"
  | timezone => "a time zone name"
  | weekStart => "an integer 0-7"
  | _ => "a boolean"

/-- The attribute with a trimmed value, if the value has the right form. -/
def read? (value : String) : AttributeKey → Option Attribute
  | autocommit => (readBool? value).map .autocommit
  | queryTimeout => (Decimal.readNat? (Nat.pow 2 64) value).map .queryTimeout
  | timezone => if value == "" then none else some (.timezone value)
  | queryTag => some (.queryTag value)
  | keepAlive => (readBool? value).map .keepAlive
  | weekStart => (Decimal.readNat? 8 value).map .weekStart
  | abortDetachedQuery => (readBool? value).map .abortDetachedQuery

/-- The attribute of an option with its value. -/
def parse (key : AttributeKey) (option value : String) : Except ConfigError Attribute :=
  match key.read? (Text.trimmed value) with
  | some a => .ok a
  | none => .error (.invalidOption option (Text.trimmed value) key.expected)

end AttributeKey

namespace Attribute

def key : Attribute → AttributeKey
  | autocommit _ => .autocommit
  | queryTimeout _ => .queryTimeout
  | timezone _ => .timezone
  | queryTag _ => .queryTag
  | keepAlive _ => .keepAlive
  | weekStart _ => .weekStart
  | abortDetachedQuery _ => .abortDetachedQuery

def writeBool (b : Bool) : String := if b then "TRUE" else "FALSE"

/-- The name and the value of an attribute in SQL. -/
def setting : Attribute → String × String
  | autocommit b => ("AUTOCOMMIT", writeBool b)
  | queryTimeout n => ("STATEMENT_TIMEOUT_IN_SECONDS", toString n)
  | timezone name => ("TIMEZONE", Sql.quoteLiteral name)
  | queryTag tag => ("QUERY_TAG", Sql.quoteLiteral tag)
  | keepAlive b => ("CLIENT_SESSION_KEEP_ALIVE", writeBool b)
  | weekStart n => ("WEEK_START", toString n)
  | abortDetachedQuery b => ("ABORT_DETACHED_QUERY", writeBool b)

/-- The statement that sets an attribute. -/
def statement (a : Attribute) : String :=
  "ALTER SESSION SET " ++ a.setting.1 ++ " = " ++ a.setting.2

/-- Sets an attribute of a session. -/
def apply (a : Attribute) : Call DatabaseError Unit := do
  if (← get).engine.hasAttributes then Session.run a.statement

/-- The attributes of the known options, in their order, up to the first faulty one. -/
def ofOptions : List (String × String) → Except ConfigError (List Attribute)
  | [] => .ok []
  | (name, value) :: options =>
    match AttributeKey.ofName? name with
    | none => ofOptions options
    | some key =>
      match key.parse name value with
      | .error e => .error e
      | .ok a => (ofOptions options).map (a :: ·)

/-- The notices about unknown options before the first faulty one. -/
def optionNotices : List (String × String) → List Notice
  | [] => []
  | (name, value) :: options =>
    match AttributeKey.ofName? name with
    | none =>
      .warning ("Ignoring unknown connection option '" ++ name ++ "'") :: optionNotices options
    | some key =>
      match key.parse name value with
      | .error _ => []
      | .ok _ => optionNotices options

end Attribute

end Snowbridge
