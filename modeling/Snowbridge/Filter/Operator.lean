import Snowbridge.Sql.Quoted

/-!
# Filter operators

The comparisons of a filter and the words and signs that they are written with. In a text the first
of all tokens, in the order of the table, that stands anywhere outside quoted runs is the operator,
so a token comes before the tokens that it contains.
-/

namespace Snowbridge.Filter

/-- What joins two filters. -/
inductive Connective where
  | and
  | or
deriving DecidableEq

namespace Connective

/-- The words and signs for a connective. -/
def spellings : Connective → List (List Char)
  | and => ["AND".toList, "&&".toList]
  | or => ["OR".toList, "||".toList]

def sql : Connective → String
  | and => "AND"
  | or => "OR"

end Connective

/-- What an operator compares with. -/
inductive OperandKind where
  | scalar
  | list
  | none
deriving DecidableEq

inductive Operator where
  | equal
  | notEqual
  | greater
  | greaterOrEqual
  | less
  | lessOrEqual
  | isIn
  | ilike
  | like
  | contains
  | startsWith
  | endsWith
  | isNotNull
  | isNull
deriving DecidableEq

/-- A place of an operator in a text: the token there, the text before it and the text after it. -/
structure OperatorMatch where
  operator : Operator
  token : String
  before : List Char
  after : List Char

namespace Operator

/-- The tokens in the order in which they are tried. Words stand between blanks; those that take no
value need only the blank in front. -/
def tokens : List (String × Operator) :=
  [(">=", greaterOrEqual), ("<=", lessOrEqual), ("!=", notEqual), ("<>", notEqual), ("=", equal),
    (">", greater), ("<", less), (" GTE ", greaterOrEqual), (" LTE ", lessOrEqual),
    (" NE ", notEqual), (" EQ ", equal), (" GT ", greater), (" LT ", less), (" IN ", isIn),
    (" ILIKE ", ilike), (" LIKE ", like), (" CONTAINS ", contains),
    (" STARTS WITH ", startsWith), (" ENDS WITH ", endsWith), (" IS NOT NULL", isNotNull),
    (" IS NULL", isNull), (" DOES NOT EXIST", isNull), (" DOES EXIST", isNotNull)]

/-- The operator of a text. -/
def find? (cs : List Char) : Option OperatorMatch :=
  tokens.findSome? fun (token, operator) =>
    (Sql.splitAtWord? token.toList none cs).map fun (before, after) =>
      ⟨operator, token, before, after⟩

def sql : Operator → String
  | equal => "="
  | notEqual => "!="
  | greater => ">"
  | greaterOrEqual => ">="
  | less => "<"
  | lessOrEqual => "<="
  | isIn => "IN"
  | ilike => "ILIKE"
  | like => "LIKE"
  | contains => "LIKE"
  | startsWith => "LIKE"
  | endsWith => "LIKE"
  | isNotNull => "IS NOT NULL"
  | isNull => "IS NULL"

/-- What the operator compares with. -/
def operandKind : Operator → OperandKind
  | isIn => .list
  | isNotNull => .none
  | isNull => .none
  | _ => .scalar

/-- Operators whose value is a text with wildcards. -/
def isPattern : Operator → Bool
  | like => true
  | ilike => true
  | contains => true
  | startsWith => true
  | endsWith => true
  | _ => false

/-- Operators that are negated by a word in front of them. -/
def takesNot (o : Operator) : Bool := o.isPattern || o == isIn

/-- The wildcards that an operator adds to its value. -/
def pattern (o : Operator) (value : String) : String :=
  match o with
  | contains => "%" ++ value ++ "%"
  | startsWith => value ++ "%"
  | endsWith => "%" ++ value
  | _ => value

end Operator

end Snowbridge.Filter
