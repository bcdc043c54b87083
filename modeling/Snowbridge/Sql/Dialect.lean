/-!
# Dialects

The two kinds of SQL that expressions may be written in: that of the warehouse and that of the
embedded engine.
-/

namespace Snowbridge.Sql

inductive Dialect where
  | snowflake
  | duckdb
deriving DecidableEq, Inhabited

namespace Dialect

def name : Dialect → String
  | snowflake => "snowflake"
  | duckdb => "duckdb"

def ofName? (s : String) : Option Dialect := [snowflake, duckdb].find? (·.name == s)

/-- A backslash in a text literal makes the next character plain. -/
def hasBackslash (d : Dialect) : Bool := d == snowflake

/-- A list may end in a comma. -/
def allowsLastComma (d : Dialect) : Bool := d == duckdb

/-- The signs that start a comment to the end of the line. -/
def lineComments : Dialect → List (List Char)
  | snowflake => ["--".toList, "//".toList, ['#']]
  | duckdb => ["--".toList]

/-- The characters that start a word. -/
def startsWord (d : Dialect) (c : Char) : Bool :=
  c.isAlpha || c == '_' || (d == duckdb && 0x80 ≤ c.toNat)

/-- The characters of a word after its first. -/
def continuesWord (d : Dialect) (c : Char) : Bool := d.startsWord c || c.isDigit || c == '$'

end Dialect

end Snowbridge.Sql
