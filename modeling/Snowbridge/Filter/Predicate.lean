import Snowbridge.Filter.Literal
import Snowbridge.Sql.Parser

/-!
# Filters as predicates

A filter becomes the text of a predicate and the values for its placeholders, from left to right.
Of the filter's text only the shape, the operators and the columns that its fields name reach the
predicate; every value is bound.
-/

namespace Snowbridge.Filter

open Catalog (Column)

/-- The text of a predicate and its values. -/
structure Predicate where
  sql : String
  params : List Value

/-- What a filter is translated against: the columns that it may name, the values of parameters, and
the dialect of the columns' expressions with a parser for them. -/
structure Context where
  columns : List Column
  named : Named := []
  dialect : Sql.Dialect := .snowflake
  parser : Sql.ExpressionParser

/-- A part of a predicate, as characters. -/
abbrev Fragment := List Char × List Value

/-- The column that a field names. -/
def Context.column? (k : Context) (field : String) : Option Column :=
  k.columns.find? fun c => Text.sameName c.name field

/-- Accepts a column's expression if the parser takes all of its text for one. A fault lies where
the complaint says. -/
def checkExpression (parser : Sql.ExpressionParser) (d : Sql.Dialect) (name expression : String) :
    Except FilterError Unit :=
  let refuse := fun (message : String) =>
    let p := (Sql.Place.told? message).getD ⟨0, 0⟩
    Except.error (.invalidExpression name message p.line p.column)
  match parser d expression with
  | .error message => refuse message
  | .ok (some token) => refuse ("unexpected trailing input: " ++ token)
  | .ok none => .ok ()

/-- What stands for a column in a predicate: its expression if it has one, or else its name. -/
def Context.target (k : Context) (c : Column) : Except FilterError (List Char) :=
  match c.filterExpression with
  | none => .ok (Sql.quoteIdentifier c.name).toList
  | some e => (checkExpression k.parser k.dialect c.name e).map fun _ => e.toList

/-- Parts with a blank between them. -/
def spaced (a b : List Char) : List Char := a ++ ' ' :: b

/-- What stands for an operand, and its values. -/
def renderOperand (k : Context) (c : Column) (o : Operator) :
    Operand → Except FilterError (Option (List Char) × List Value)
  | .none => .ok (none, [])
  | .scalar raw => (bindValue k.named c o raw).map fun v => (some ['?'], [v])
  | .list items =>
    (items.mapM (bindValue k.named c o)).map fun vs =>
      (some ('(' :: ((Sql.placeholders items.length).toList ++ [')'])), vs)

/-- A comparison without the parentheses around it. An operator that takes no word of negation is
negated as a whole. -/
def renderClause (negated : Bool) (o : Operator) (target : List Char) :
    Option (List Char) → List Char
  | some operand =>
    if negated && o.takesNot then
      spaced target (spaced "NOT".toList (spaced o.sql.toList operand))
    else
      let clause := spaced target (spaced o.sql.toList operand)
      if negated then spaced "NOT".toList ('(' :: (clause ++ [')'])) else clause
  | none =>
    let clause := spaced target o.sql.toList
    if negated && !o.takesNot then spaced "NOT".toList ('(' :: (clause ++ [')'])) else clause

/-- A comparison. A field that names no column is refused. -/
def renderComparison (k : Context) (c : Comparison) : Except FilterError Fragment :=
  match k.column? c.field with
  | none => .error (.unknownField c.field)
  | some column => do
    let t ← k.target column
    let (operand, params) ← renderOperand k column c.operator c.operand
    let clause := renderClause c.negated c.operator t operand
    .ok (List.replicate c.opened '(' ++ (clause ++ List.replicate c.closed ')'), params)

/-- A filter. What is negated stands in parentheses. -/
def render (k : Context) : Tree → Except FilterError Fragment
  | .compare c => renderComparison k c
  | .group inner => (render k inner).map fun (sql, params) => ('(' :: (sql ++ [')']), params)
  | .join connective left right =>
    (render k left).bind fun (l, ps) =>
      (render k right).map fun (r, qs) =>
        (spaced l (spaced connective.sql.toList r), ps ++ qs)
  | .not inner =>
    (render k inner).map fun (sql, params) =>
      match inner with
      | .group _ => (spaced "NOT".toList sql, params)
      | _ => (spaced "NOT".toList ('(' :: (sql ++ [')'])), params)

/-- The predicate of a filter; a blank filter has none. -/
def translate (k : Context) (filter : String) : Except FilterError (Option Predicate) :=
  match Tree.ofText filter with
  | .error e => .error e
  | .ok none => .ok none
  | .ok (some tree) =>
    (render k tree).map fun (sql, params) => some ⟨String.ofList sql, params⟩

end Snowbridge.Filter
