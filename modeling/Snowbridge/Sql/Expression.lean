import Snowbridge.Sql.Token

/-!
# Plain SQL expressions

A parser for the outer layer of the program, which a parser of all of SQL may stand in for. It knows
plain expressions: names, literals, calls, operators with their precedence, choices, casts and
lists, but no queries within expressions. It keeps nothing of what it reads; its answer is whether
an expression stands at the head of a text, and what was expected where if not. Nothing that is
proved of filters and batches rests on it.
-/

namespace Snowbridge.Sql.Expression

/-- A reader of tokens. -/
abbrev Reader (α : Type) := StateT (List (Token × Place)) (Except ExpressionFault) α

/-! ## Single tokens -/

/-- Refuses the next token. -/
def refuse {α : Type} (what : String) : Reader α := fun ts => .error (.expected what ts.head?)

def peek : Reader (Option Token) := do return (← get).head?.map Prod.fst

def skip : Reader Unit := modify (·.drop 1)

/-- Whether there is a token that is a word without quotes, in any case of letters. -/
def isWord (w : String) (t : Option Token) : Bool := t.any (Token.isWord w)

def isAnyWord (ws : List String) (t : Option Token) : Bool := ws.any fun w => isWord w t

/-- The token some places ahead. -/
def ahead (n : Nat) : Reader (Option Token) := do return (← get)[n]?.map Prod.fst

def takeWord (w : String) : Reader Bool := do
  if isWord w (← peek) then skip; return true
  return false

/-- Steps over one of several words if it comes next. -/
def takeAnyWord (ws : List String) : Reader Bool := do
  if isAnyWord ws (← peek) then skip; return true
  return false

/-- Steps over several words if all of them come next. -/
def takeWords (ws : List String) : Reader Bool := do
  let ts ← get
  if (List.range ws.length).all fun i => isWord (ws.getD i "") (ts[i]?.map Prod.fst) then
    set (ts.drop ws.length)
    return true
  return false

def takeSign (s : String) : Reader Bool := do
  if (← peek) == some (.sign s) then skip; return true
  return false

def needWord (w : String) : Reader Unit := do
  if !(← takeWord w) then refuse w

def needSign (s : String) : Reader Unit := do
  if !(← takeSign s) then refuse s

/-- Tries to read; if that fails, nothing was read. -/
def attempt {α : Type} (r : Reader α) : Reader (Option α) := fun ts =>
  match r.run ts with
  | .ok (a, rest) => .ok (some a, rest)
  -- Another way to read the text would not be less deep.
  | .error .tooDeep => .error .tooDeep
  | .error _ => .ok (none, ts)

/-- The items after the first of a list. A comma at the end is allowed in some dialects. -/
def laterItems (d : Dialect) (item : Reader Unit) : Nat → Reader Unit
  | 0 => pure ()
  | fuel + 1 => do
    if ← takeSign "," then
      let next ← peek
      let ended := next.isNone || [")", ";", "]", "\x7d"].any fun s => next == some (.sign s)
      if !(d.allowsLastComma && ended) then
        item
        laterItems d item fuel

/-- A list with commas between its items. -/
def commaList (d : Dialect) (item : Reader Unit) : Reader Unit := do
  item
  laterItems d item (← get).length

/-! ## Types and literals -/

/-- The words of types that may stand in front of a literal. -/
def typeWords : List String :=
  ["BOOLEAN", "BOOL", "FLOAT", "FLOAT4", "FLOAT8", "FLOAT64", "REAL", "DOUBLE", "TINYINT",
    "SMALLINT", "MEDIUMINT", "INT", "INT2", "INT4", "INT8", "INTEGER", "BIGINT", "HUGEINT",
    "VARCHAR", "NVARCHAR", "CHARACTER", "CHAR", "CLOB", "BINARY", "VARBINARY", "BLOB", "BYTES",
    "UUID", "DATE", "DATETIME", "TIMESTAMP", "TIMESTAMPTZ", "TIMESTAMP_NTZ", "TIME", "TIMETZ",
    "JSON", "JSONB", "STRING", "TEXT", "BYTEA", "NUMERIC", "DECIMAL", "DEC"]

def literal : Reader Unit := do
  match ← peek with
  | some (.number _) => skip
  | some (.text _) => skip
  | some (.taggedText _ _) => skip
  | some (.placeholder _) => skip
  | t => if isAnyWord ["TRUE", "FALSE", "NULL"] t then skip else refuse "a value"

/-- The sizes of a type, between parentheses. -/
def typeSizes (d : Dialect) : Reader Unit := do
  if ← takeSign "(" then
    commaList d literal
    needSign ")"

/-- What may follow the sizes: a time zone, and brackets of arrays. -/
def typeEnding : Nat → Reader Unit
  | 0 => pure ()
  | fuel + 1 => do
    if ← takeSign "[" then
      match ← peek with
      | some (.number _) => skip
      | _ => pure ()
      needSign "]"
      typeEnding fuel

/-- The parts of a type's name after points. -/
def typeParts : Nat → Reader Unit
  | 0 => pure ()
  | fuel + 1 => do
    if ← takeSign "." then
      match ← peek with
      | some (.word _) => skip
      | some (.quotedName _) => skip
      | _ => refuse "identifier"
      typeParts fuel

def typeName (d : Dialect) : Reader Unit := do
  match ← peek with
  | some (.word _) => skip
  | some (.quotedName _) => skip
  | _ => refuse "a data type name"
  typeParts (← get).length
  let _ ← takeAnyWord ["PRECISION", "VARYING"]
  typeSizes d
  let _ ← takeWords ["WITH", "TIME", "ZONE"]
  let _ ← takeWords ["WITHOUT", "TIME", "ZONE"]
  typeEnding (← get).length

/-- A literal with its type in front. -/
def typedLiteral (d : Dialect) : Reader Unit := do
  if !isAnyWord typeWords (← peek) then refuse "a data type name"
  typeName d
  literal

/-! ## Operators -/

/-- The precedences of operators; the higher binds the tighter. -/
def orRank : Nat := 5
def andRank : Nat := 10
def notRank : Nat := 15
def otherRank : Nat := 16
def isRank : Nat := 17
def likeRank : Nat := 19
def betweenRank : Nat := 20
def productRank : Nat := 40
def zoneRank : Nat := 41
def castRank : Nat := 50
def pointRank : Nat := 100

/-- The precedence of a sign between operands. -/
def signRank (d : Dialect) (s : String) : Nat :=
  if ["=", "==", "<", "<=", "<>", "!=", ">", ">=", "<=>", ":=", "~"].contains s then betweenRank
  else if s == "|" then 21
  else if ["^", "#", "<<", ">>"].contains s then 22
  else if s == "&" then 23
  else if s == "+" || s == "-" then 30
  else if ["*", "/", "//", "%", "||"].contains s then productRank
  else if ["::", "!", "["].contains s then castRank
  else if s == ":" && d == .snowflake then castRank
  else if ["->", "->>", "&&"].contains s then otherRank
  else 0

/-- The words that compare with a pattern. -/
def likeWords : List String := ["LIKE", "ILIKE", "SIMILAR", "REGEXP", "RLIKE"]

/-- The precedence of what comes next, if it stands between operands; zero otherwise. -/
def nextRank (d : Dialect) : Reader Nat := do
  let t ← peek
  let u ← ahead 1
  match t with
  | some (.sign s) => return signRank d s
  | _ =>
    if isWord "OR" t then return orRank
    else if isWord "AND" t then return andRank
    else if isWord "XOR" t then return 24
    else if isWord "AT" t then
      return if isWord "TIME" u && isWord "ZONE" (← ahead 2) then zoneRank else 0
    else if isWord "NOT" t then
      if isAnyWord ["IN", "BETWEEN"] u then return betweenRank
      else if isAnyWord likeWords u then return likeRank
      else return if d == .duckdb && isWord "NULL" u then isRank else 0
    else if isWord "NOTNULL" t then return if d == .duckdb then isRank else 0
    else if isWord "IS" t then return isRank
    else if isAnyWord ["IN", "BETWEEN", "OVERLAPS"] t then return betweenRank
    else if isAnyWord likeWords t then return likeRank
    else if isWord "DIV" t then return productRank
    else if isWord "COLLATE" t then return 42
    else return 0

/-- The rest of a comparison with a range, a list or a pattern. -/
def membership (d : Dialect) (sub : Nat → Reader Unit) : Reader Unit := do
  let negated ← takeWord "NOT"
  if ← takeAnyWord ["REGEXP", "RLIKE"] then sub likeRank
  else if negated && (← takeWord "NULL") then pure ()
  else if ← takeWord "IN" then
    needSign "("
    commaList d (sub 0)
    needSign ")"
  else if ← takeWord "BETWEEN" then
    sub betweenRank
    needWord "AND"
    sub betweenRank
  else if ← takeAnyWord ["LIKE", "ILIKE"] then
    let _ ← takeWord "ANY"
    sub likeRank
    if ← takeWord "ESCAPE" then literal
  else if ← takeWords ["SIMILAR", "TO"] then
    sub likeRank
    if ← takeWord "ESCAPE" then literal
  else refuse "IN or BETWEEN after NOT"

/-- What may follow the word of a state. -/
def state (sub : Nat → Reader Unit) : Reader Unit := do
  let ts ← get
  let _ ← takeWord "NOT"
  if ← takeAnyWord ["NULL", "TRUE", "FALSE", "UNKNOWN"] then pure ()
  else if ← takeWords ["DISTINCT", "FROM"] then sub 0
  else
    set ts
    refuse "[NOT] NULL | TRUE | FALSE | DISTINCT | [form] NORMALIZED FROM after IS"

def index (sub : Nat → Reader Unit) : Reader Unit := do
  if (← peek) != some (.sign ":") then sub 0
  if ← takeSign ":" then
    if (← peek) != some (.sign "]") then sub 0
  needSign "]"

def indices (sub : Nat → Reader Unit) : Nat → Reader Unit
  | 0 => pure ()
  | fuel + 1 => do
    if ← takeSign "[" then
      index sub
      indices sub fuel

/-- A name of a path into structured data, with its indices. -/
def pathPart (sub : Nat → Reader Unit) : Reader Unit := do
  match ← peek with
  | some (.word _) => skip
  | some (.quotedName _) => skip
  | _ => refuse "variant object key name"
  indices sub (← get).length

/-- The names after the first of a path. -/
def laterParts (sub : Nat → Reader Unit) : Nat → Reader Unit
  | 0 => pure ()
  | fuel + 1 => do
    if ← takeSign "." then
      pathPart sub
      laterParts sub fuel

/-- An operator and what follows it. -/
def infixPart (d : Dialect) (sub : Nat → Reader Unit) (rank : Nat) : Reader Unit := do
  let t ← peek
  if isWord "IS" t then skip; state sub
  else if isWord "AT" t then skip; skip; skip; sub zoneRank
  else if isWord "NOTNULL" t then skip
  else if isAnyWord (["NOT", "IN", "BETWEEN"] ++ likeWords) t then membership d sub
  else if isWord "COLLATE" t then
    skip
    typeName d
  else if t == some (.sign "::") then skip; typeName d
  else if t == some (.sign "[") then skip; index sub
  else if t == some (.sign ":") then
    skip
    pathPart sub
    laterParts sub (← get).length
  else if t == some (.sign "!") then
    match ← get with
    | (_, p) :: _ => throw (.misplaced "ExclamationMark" p)
    | [] => refuse "an expression"
  else
    skip
    if ← takeAnyWord ["ANY", "ALL", "SOME"] then
      needSign "("
      sub 0
      needSign ")"
    else sub rank

/-! ## Operands -/

/-- The parts of a name after a point, each with what follows it. -/
def compound (sub : Nat → Reader Unit) : Nat → Reader Unit
  | 0 => pure ()
  | fuel + 1 => do
    if (← peek) == some (.sign ".") then
      if (← ahead 1) != some (.sign "*") then
        skip
        match ← peek with
        | some (.text _) => skip
        | _ => sub pointRank
        compound sub fuel
    else if ← takeSign "[" then
      index sub
      compound sub fuel

/-- An argument: a star, or an expression that may have a name in front. -/
def argument (sub : Nat → Reader Unit) : Reader Unit := do
  let named ← attempt (do
    match ← peek with
    | some (.word _) => skip
    | some (.quotedName _) => skip
    | _ => refuse "identifier"
    if !(← takeSign "=>") then needSign ":=")
  if named.isNone && (← takeSign "*") then pure ()
  else
    sub 0
    if ← takeSign "." then
      needSign "*"

def orderItem (sub : Nat → Reader Unit) : Reader Unit := do
  sub 0
  let _ ← takeAnyWord ["ASC", "DESC"]
  if ← takeWord "NULLS" then
    if !(← takeAnyWord ["FIRST", "LAST"]) then refuse "FIRST or LAST"

/-- The rows that a call looks at. -/
def window (d : Dialect) (sub : Nat → Reader Unit) : Reader Unit := do
  if ← takeSign "(" then
    if ← takeWords ["PARTITION", "BY"] then
      commaList d (sub 0)
    if ← takeWords ["ORDER", "BY"] then
      commaList d (orderItem sub)
    needSign ")"
  else
    match ← peek with
    | some (.word _) => skip
    | some (.quotedName _) => skip
    | _ => refuse "identifier"

/-- The arguments of a call and what may follow them, from the opening parenthesis on. -/
def call (d : Dialect) (sub : Nat → Reader Unit) : Reader Unit := do
  needSign "("
  if !(← takeSign ")") then
    let _ ← takeAnyWord ["DISTINCT", "ALL"]
    commaList d (argument sub)
    if ← takeWords ["ORDER", "BY"] then
      commaList d (orderItem sub)
    needSign ")"
  if ← takeWords ["WITHIN", "GROUP"] then
    needSign "("
    needWord "ORDER"
    needWord "BY"
    commaList d (orderItem sub)
    needSign ")"
  if ← takeAnyWord ["RESPECT", "IGNORE"] then needWord "NULLS"
  if ← takeWord "OVER" then window d sub

/-- A branch of a choice. -/
def branch (sub : Nat → Reader Unit) : Reader Unit := do
  needWord "WHEN"
  sub 0
  needWord "THEN"
  sub 0

/-- The branches after the first of a choice. -/
def laterBranches (sub : Nat → Reader Unit) : Nat → Reader Unit
  | 0 => pure ()
  | fuel + 1 => do
    if isWord "WHEN" (← peek) then
      branch sub
      laterBranches sub fuel

/-- A choice after its first word. -/
def choice (sub : Nat → Reader Unit) : Reader Unit := do
  if !isWord "WHEN" (← peek) then sub 0
  branch sub
  laterBranches sub (← get).length
  if ← takeWord "ELSE" then sub 0
  needWord "END"

/-- A cast after its first word. -/
def cast (d : Dialect) (sub : Nat → Reader Unit) : Reader Unit := do
  needSign "("
  sub 0
  needWord "AS"
  typeName d
  needSign ")"

/-- A part of a date after its first word. -/
def extract (sub : Nat → Reader Unit) : Reader Unit := do
  needSign "("
  match ← peek with
  | some (.word _) => skip
  | some (.text _) => skip
  | _ => refuse "date/time field"
  if !(← takeSign ",") then needWord "FROM"
  sub 0
  needSign ")"

/-- A text without characters at its ends, after the first word. -/
def trim (d : Dialect) (sub : Nat → Reader Unit) : Reader Unit := do
  needSign "("
  let _ ← takeAnyWord ["BOTH", "TRAILING", "LEADING"]
  sub 0
  if ← takeWord "FROM" then sub 0
  else if ← takeSign "," then
    commaList d (sub 0)
  needSign ")"

/-- A part of a text after its first word. -/
def substring (sub : Nat → Reader Unit) : Reader Unit := do
  needSign "("
  sub 0
  if (← takeWord "FROM") || (← takeSign ",") then sub 0
  if (← takeWord "FOR") || (← takeSign ",") then sub 0
  needSign ")"

/-- The readers of the words that have a form of their own. -/
def special? (d : Dialect) (sub : Nat → Reader Unit) (w : String) : Option (Reader Unit) :=
  match Text.raisedAscii w with
  | "CASE" => some (choice sub)
  | "CAST" => some (cast d sub)
  | "TRY_CAST" => some (cast d sub)
  | "SAFE_CAST" => some (cast d sub)
  | "NOT" => some (sub notRank)
  | "EXTRACT" => some (extract sub)
  | "TRIM" => some (trim d sub)
  | "SUBSTRING" => some (substring sub)
  | "SUBSTR" => some (substring sub)
  | "INTERVAL" => some (do
    literal
    let _ ← takeAnyWord ["YEAR", "MONTH", "WEEK", "DAY", "HOUR", "MINUTE", "SECOND", "YEARS",
      "MONTHS", "WEEKS", "DAYS", "HOURS", "MINUTES", "SECONDS"])
  | _ => none

/-- Words that cannot be names when their own form fails. -/
def isReserved (d : Dialect) (w : String) : Bool :=
  isAnyWord ["EXISTS", "STRUCT", "TRIM"] (some (.word w)) ||
    (d == .duckdb && isWord "INTERVAL" (some (.word w)))

/-- A name, or a call if a parenthesis follows. -/
def name (d : Dialect) (sub : Nat → Reader Unit) : Reader Unit := do
  if (← peek) == some (.sign "(") then call d sub

/-- A word: in its own form if it has one, or else as a name. -/
def word (d : Dialect) (sub : Nat → Reader Unit) (w : String) : Reader Unit :=
  match special? d sub w with
  | none => name d sub
  | some form => fun ts =>
    match form.run ts with
    | .ok r => .ok r
    | .error e =>
      if isReserved d w then .error e
      else
        match (name d sub).run ts with
        | .ok r => .ok r
        | .error _ => .error e

def operand (d : Dialect) (sub : Nat → Reader Unit) : Reader Unit := do
  if (← attempt (typedLiteral d)).isSome then pure ()
  else
    match ← peek with
    | some (.word w) => skip; word d sub w
    | some (.quotedName _) => skip; name d sub
    | some (.number _) => skip
    | some (.text _) => skip
    | some (.taggedText _ _) => skip
    | some (.placeholder _) => skip
    | some (.sign s) =>
      if s == "-" || s == "+" || s == "~" then skip; sub productRank
      else if s == "(" then
        skip
        commaList d (sub 0)
        needSign ")"
      else if s == "[" then
        skip
        if (← peek) != some (.sign "]") then commaList d (sub 0)
        needSign "]"
      else if s == ":" || s == "@" then
        skip
        match ← peek with
        | some (.word _) => skip
        | some (.number _) => skip
        | _ => refuse "placeholder"
      else refuse "an expression"
    | none => refuse "an expression"

/-- The operators that bind tighter than `rank`, each with what follows it. -/
def operators (d : Dialect) (sub : Nat → Reader Unit) (rank : Nat) : Nat → Reader Unit
  | 0 => pure ()
  | fuel + 1 => do
    let next ← nextRank d
    if rank < next then
      infixPart d sub next
      operators d sub rank fuel

/-- How deep expressions may be nested. -/
def depthLimit : Nat := 50

/-- An expression whose operators bind tighter than `rank`, nested at most `depth` deep. -/
def expression (d : Dialect) : Nat → Nat → Reader Unit
  | 0, _ => throw .tooDeep
  | depth + 1, rank => do
    let sub := expression d depth
    operand d sub
    compound sub (← get).length
    operators d sub rank (← get).length

/-- The parser of plain expressions. -/
def parse : ExpressionParser := fun d text =>
  match tokens d text with
  | .error e => .error e.message
  | .ok ts =>
    match (expression d depthLimit 0).run ts with
    | .error e => .error e.message
    | .ok ((), rest) => .ok (rest.head?.map fun (t, _) => t.write)

end Snowbridge.Sql.Expression
