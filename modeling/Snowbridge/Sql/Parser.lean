import Snowbridge.Decimal.Integer
import Snowbridge.Sql.Dialect
import Snowbridge.Text.Blank

/-!
# Parsers of SQL expressions

Whether a text is an expression is for a parser of SQL to say. No parser is part of the program: it
is a parameter, and the program only looks at its answer.
-/

namespace Snowbridge.Sql

/-- A parser of expressions: its complaint about a text, or the token that it leaves behind the
expression at the head of the text, if there is one. -/
abbrev ExpressionParser := Dialect → String → Except String (Option String)

/-- A place in a text. Both numbers count from one. -/
structure Place where
  line : Nat := 1
  column : Nat := 1
deriving DecidableEq

/-- The text after the first place where a part stands. -/
def afterPart? (part : List Char) : List Char → Option (List Char)
  | [] => if part.isEmpty then some [] else none
  | c :: cs =>
    if part.isPrefixOf (c :: cs) then some ((c :: cs).drop part.length) else afterPart? part cs

/-- The line and the column that a complaint names, each where its word stands first. -/
def Place.told? (message : String) : Option Place := do
  let cs := message.toList
  let line ← afterPart? "Line: ".toList cs
  let column ← afterPart? "Column: ".toList cs
  if !line.contains ',' then none
  else
    let line ← Decimal.readNat? (Nat.pow 2 64)
      (String.ofList (Text.trim (line.takeWhile (· != ','))))
    let column ← Decimal.readNat? (Nat.pow 2 64) (String.ofList (column.takeWhile Char.isDigit))
    some { line, column }

end Snowbridge.Sql
