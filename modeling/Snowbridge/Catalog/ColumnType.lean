import Snowbridge.Decimal.Integer
import Snowbridge.Text.Blank
import Snowbridge.Text.Case

/-!
# Column types

The engine names a type by a word and, in parentheses, its sizes. The rest of the program works with
a small set of types, a length, a precision and a scale.
-/

namespace Snowbridge.Catalog

/-- The types of columns and parameters. The key that the engine numbers itself has a type of its
own. -/
inductive ColumnType where
  | id
  | boolean
  | integer
  | decimal
  | double
  | string
  | text
  | binary
  | date
  | time
  | timestamp
  | timestampTz
  | json
deriving DecidableEq, Inhabited

namespace ColumnType

def all : List ColumnType :=
  [id, boolean, integer, decimal, double, string, text, binary, date, time, timestamp,
    timestampTz, json]

/-- The name of a type in a report. -/
def name : ColumnType → String
  | id => "id"
  | boolean => "boolean"
  | integer => "integer"
  | decimal => "decimal"
  | double => "double"
  | string => "string"
  | text => "text"
  | binary => "binary"
  | date => "date"
  | time => "time"
  | timestamp => "timestamp"
  | timestampTz => "timestamp_tz"
  | json => "json"

def ofName? (s : String) : Option ColumnType := all.find? (·.name == s)

/-- Types whose values are whole numbers. -/
def isInteger : ColumnType → Bool
  | id => true
  | integer => true
  | _ => false

def hasLength : ColumnType → Bool
  | string => true
  | text => true
  | binary => true
  | _ => false

end ColumnType

/-- The sizes in a type's text. -/
structure TypeSize where
  length : Option Nat := none
  precision : Option Nat := none
  scale : Option Nat := none
deriving DecidableEq

/-- The text after the last closing parenthesis is dropped, if there is one. -/
def beforeLastClose? (cs : List Char) : Option (List Char) :=
  match cs.reverse.dropWhile (· != ')') with
  | _ :: r => some r.reverse
  | [] => none

/-- The word of a type in capitals, and what stands between its first opening and its last closing
parenthesis. -/
def splitType (s : String) : String × Option (List Char) :=
  let cs := Text.trim s.toList
  let word := cs.takeWhile (· != '(')
  match cs.dropWhile (· != '(') with
  | _ :: rest =>
    match beforeLastClose? rest with
    | some inner => (Text.uppered (String.ofList (Text.trim word)), some inner)
    | none => (Text.uppered (String.ofList cs), none)
  | [] => (Text.uppered (String.ofList cs), none)

/-- The pieces of a text between commas. -/
def splitCommas (cs : List Char) : List (List Char) := cs.splitOn ','

/-- Words whose size is a length. -/
def lengthWords : List String :=
  ["VARCHAR", "CHAR", "CHARACTER", "NCHAR", "NVARCHAR", "NVARCHAR2", "STRING", "TEXT", "BINARY",
    "VARBINARY"]

/-- The sizes of a type. A size that is no number within its range counts as not given. -/
def TypeSize.ofType (s : String) : TypeSize :=
  let (word, inner) := splitType s
  match inner with
  | none => {}
  | some inner =>
    let parts := (splitCommas inner).map fun p => String.ofList (Text.trim p)
    -- A length may be larger than a precision, so the first number is read with the wider range.
    let size := parts[0]?.bind (Decimal.readNat? (Nat.pow 2 64))
    let scale := parts[1]?.bind (Decimal.readNat? (Nat.pow 2 32))
    if lengthWords.contains word then { length := size }
    else { precision := size.filter (· < Nat.pow 2 32), scale := scale }

/-- The types that have one word or several, without regard to sizes. -/
def typeWords : List (List String × ColumnType) :=
  [(["BOOLEAN", "BOOL"], .boolean),
    (["INT", "INTEGER", "BIGINT", "SMALLINT", "TINYINT", "BYTEINT"], .integer),
    (["FLOAT", "FLOAT4", "FLOAT8", "DOUBLE", "DOUBLE PRECISION", "REAL", "REAL_FLOAT"], .double),
    (["VARCHAR", "CHAR", "CHARACTER", "NCHAR", "NVARCHAR", "NVARCHAR2", "CHAR VARYING",
      "NCHAR VARYING"], .string),
    (["STRING", "TEXT"], .text),
    (["BINARY", "VARBINARY"], .binary),
    (["DATE"], .date),
    (["TIME"], .time),
    (["DATETIME", "TIMESTAMP", "TIMESTAMP_NTZ", "TIMESTAMPNTZ", "TIMESTAMP WITHOUT TIME ZONE"],
      .timestamp),
    (["TIMESTAMP_LTZ", "TIMESTAMPLTZ", "TIMESTAMP_TZ", "TIMESTAMPTZ",
      "TIMESTAMP WITH LOCAL TIME ZONE", "TIMESTAMP WITH TIME ZONE"], .timestampTz),
    (["VARIANT", "OBJECT", "ARRAY"], .json)]

/-- Words of exact numbers, which are whole if they have no places after the point. -/
def numberWords : List String := ["NUMBER", "NUMERIC", "DECIMAL", "FIXED"]

/-- The type that a text names. An unknown word counts as a text of limited length. -/
def ColumnType.ofType (s : String) : ColumnType :=
  let word := (splitType s).1
  if numberWords.contains word then
    if 0 < (TypeSize.ofType s).scale.getD 0 then .decimal else .integer
  else
    match typeWords.find? fun e => e.1.contains word with
    | some (_, t) => t
    | none => .string

/-- Whether a type's texts all have its full length. -/
def isFixedLength (s : String) : Bool :=
  ["CHAR", "CHARACTER", "NCHAR"].contains (splitType s).1

end Snowbridge.Catalog
