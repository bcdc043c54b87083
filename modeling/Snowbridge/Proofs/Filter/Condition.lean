import Snowbridge.Filter.Predicate

/-!
# Conditions

Filters whose parentheses say how they are meant: an atom compares one column with literals, and
every operand of a connective stands in parentheses. A condition is written twice, as the text of a
filter and as the text of a predicate; only the atoms and the connectives differ
(`Condition.print`). Which words and signs a filter may have, and what a predicate has in their
place, stands in tables (`comparisons`, `links`).
-/

namespace Snowbridge.Filter

open Catalog (Column ColumnType)

variable {k : Context}

/-! ## Words and signs -/

/-- How an operator that compares with one value is written: its spelling in a filter, that in a
predicate, and the wildcards that its value gets in front and behind. -/
structure Spelling where
  source : String
  operator : Operator
  sql : String
  front : String
  back : String
deriving DecidableEq

/-- The operators that compare with one value, in all their spellings. -/
def comparisons : List Spelling :=
  [⟨">=", .greaterOrEqual, ">=", "", ""⟩,
    ⟨"<=", .lessOrEqual, "<=", "", ""⟩,
    ⟨"!=", .notEqual, "!=", "", ""⟩,
    ⟨"<>", .notEqual, "!=", "", ""⟩,
    ⟨"=", .equal, "=", "", ""⟩,
    ⟨">", .greater, ">", "", ""⟩,
    ⟨"<", .less, "<", "", ""⟩,
    ⟨"GTE", .greaterOrEqual, ">=", "", ""⟩,
    ⟨"LTE", .lessOrEqual, "<=", "", ""⟩,
    ⟨"NE", .notEqual, "!=", "", ""⟩,
    ⟨"EQ", .equal, "=", "", ""⟩,
    ⟨"GT", .greater, ">", "", ""⟩,
    ⟨"LT", .less, "<", "", ""⟩,
    ⟨"ILIKE", .ilike, "ILIKE", "", ""⟩,
    ⟨"LIKE", .like, "LIKE", "", ""⟩,
    ⟨"CONTAINS", .contains, "LIKE", "%", "%"⟩,
    ⟨"STARTS WITH", .startsWith, "LIKE", "", "%"⟩,
    ⟨"ENDS WITH", .endsWith, "LIKE", "%", ""⟩]

/-- A comparison with one value. -/
structure Sign extends Spelling where
  known : toSpelling ∈ comparisons

/-- The word or sign of a comparison in a filter. -/
def Sign.word (s : Sign) : List Char := s.source.toList

/-- The words and signs of connectives in a filter, each with its word in a predicate. -/
def links : List (Connective × String × String) :=
  [(.and, "AND", "AND"), (.and, "&&", "AND"), (.or, "OR", "OR"), (.or, "||", "OR")]

/-- A connective between operands. -/
structure Link where
  connective : Connective
  word : String
  name : String
  known : (connective, word, name) ∈ links

/-- A connective in a filter. -/
def Link.source (l : Link) : List Char := ' ' :: (l.word.toList ++ [' '])

/-- A connective in a predicate. -/
def Link.sql (l : Link) : List Char := ' ' :: (l.name.toList ++ [' '])

/-! ## Atoms -/

/-- Types of which the values are bound as texts. -/
def IsTextual (t : ColumnType) : Prop :=
  t.isInteger = false ∧ t ≠ .decimal ∧ t ≠ .double ∧ t ≠ .boolean

instance (t : ColumnType) : Decidable (IsTextual t) :=
  inferInstanceAs (Decidable (t.isInteger = false ∧ t ≠ .decimal ∧ t ≠ .double ∧ t ≠ .boolean))

/-- A text between two quotes, with each quote in it written twice. -/
def enquoted (quote : Char) (text : String) : List Char :=
  quote :: ((text.toList.flatMap fun c => if c = quote then [quote, quote] else [c]) ++ [quote])

/-- A name that stands for a column of texts. -/
structure Field (k : Context) where
  name : List Char
  column : Column
  nonempty : name ≠ []
  plain : ∀ c ∈ name, c.isAlphanum = true ∨ c = '_'
  known : k.column? (String.ofList name) = some column
  unexpressed : column.filterExpression = none
  textual : IsTextual column.type

/-- The name of a column in a predicate. -/
def Field.sql (field : Field k) : List Char := enquoted '"' field.column.name

/-- Words with one blank between them. -/
def phrase (words : List (List Char)) : List Char := [' '].intercalate words

/-- Items in parentheses, with commas between them. -/
def listed (items : List (List Char)) : List Char := '(' :: ([',', ' '].intercalate items ++ [')'])

/-- A condition on one column. A list has one text at least. -/
inductive Atom (k : Context) where
  | compare (field : Field k) (sign : Sign) (text : String)
  | isIn (field : Field k) (first : String) (rest : List String)
  | isNull (field : Field k)
  | isNotNull (field : Field k)

namespace Atom

/-- An atom in a filter. -/
def source : Atom k → List Char
  | compare field sign text => phrase [field.name, sign.word, enquoted '\'' text]
  | isIn field first rest =>
    phrase [field.name, "IN".toList, listed ((first :: rest).map (enquoted '\''))]
  | isNull field => phrase [field.name, "IS NULL".toList]
  | isNotNull field => phrase [field.name, "IS NOT NULL".toList]

/-- An atom in a predicate, with placeholders for its texts. -/
def sql : Atom k → List Char
  | compare field sign _ => phrase [field.sql, sign.sql.toList, ['?']]
  | isIn field first rest =>
    phrase [field.sql, "IN".toList, listed ((first :: rest).map fun _ => ['?'])]
  | isNull field => phrase [field.sql, "IS NULL".toList]
  | isNotNull field => phrase [field.sql, "IS NOT NULL".toList]

/-- The texts of an atom, with the wildcards of its operator. -/
def params : Atom k → List Value
  | compare _ sign text => [.text (sign.front ++ text ++ sign.back)]
  | isIn _ first rest => (first :: rest).map .text
  | isNull _ => []
  | isNotNull _ => []

end Atom

/-! ## Conditions -/

mutual

/-- An atom, or operands in parentheses with connectives between them. -/
inductive Condition (k : Context) where
  | atom (a : Atom k)
  | operands (os : Operands k)

/-- One operand or more. -/
inductive Operands (k : Context) where
  | one (c : Condition k)
  | more (c : Condition k) (l : Link) (os : Operands k)

end

mutual

/-- The text of a condition, from the texts of its atoms and connectives. -/
def Condition.print (atom : Atom k → List Char) (link : Link → List Char) :
    Condition k → List Char
  | .atom a => atom a
  | .operands os => os.print atom link

/-- The text of operands, each of which stands in parentheses. -/
def Operands.print (atom : Atom k → List Char) (link : Link → List Char) :
    Operands k → List Char
  | .one c => '(' :: (c.print atom link ++ [')'])
  | .more c l os => '(' :: (c.print atom link ++ ')' :: (link l ++ os.print atom link))

end

mutual

/-- The atoms of a condition from left to right. -/
def Condition.atoms : Condition k → List (Atom k)
  | .atom a => [a]
  | .operands os => os.atoms

/-- The atoms of operands from left to right. -/
def Operands.atoms : Operands k → List (Atom k)
  | .one c => c.atoms
  | .more c _ os => c.atoms ++ os.atoms

end

namespace Condition

/-- A condition as a filter. -/
def source (c : Condition k) : List Char := c.print Atom.source Link.source

/-- A condition as a predicate. -/
def sql (c : Condition k) : List Char := c.print Atom.sql Link.sql

/-- The texts of a condition from left to right. -/
def params (c : Condition k) : List Value := c.atoms.flatMap Atom.params

end Condition

end Snowbridge.Filter
