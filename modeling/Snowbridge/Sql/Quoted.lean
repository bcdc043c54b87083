import Snowbridge.Text.Case

/-!
# Quoted runs

SQL text holds runs between single or double quotes. Within a run the quote that opened it is
written twice; since a doubled quote closes the run and opens it again, a scan from the left only
has to remember which quote is open.
-/

namespace Snowbridge.Sql

/-- The quote that is open at a point of a scan from the left, if one is. -/
abbrev OpenQuote := Option Char

/-- The characters that open a run. -/
def isQuote (c : Char) : Bool := c == '\'' || c == '"'

/-- The open quote after one more character. -/
def OpenQuote.step (q : OpenQuote) (c : Char) : OpenQuote :=
  match q with
  | some quote => if c == quote then none else some quote
  | none => if isQuote c then some c else none

/-- Whether the next character stands outside every run and opens none. -/
def OpenQuote.outside (q : OpenQuote) (c : Char) : Bool := q.isNone && !isQuote c

/-- The open quote at the end of a text. -/
def OpenQuote.after (q : OpenQuote) (cs : List Char) : OpenQuote := cs.foldl OpenQuote.step q

/-- For each character of a text, whether it stands outside every run. -/
def outsideFlags (q : OpenQuote) : List Char → List Bool
  | [] => []
  | c :: cs => q.outside c :: outsideFlags (q.step c) cs

/-- The characters of a text that stand outside every run. -/
def outsideChars (q : OpenQuote) : List Char → List Char
  | [] => []
  | c :: cs =>
    if q.outside c then c :: outsideChars (q.step c) cs else outsideChars (q.step c) cs

/-! ## Writing -/

/-- The text with each quote written twice. -/
def doubled (quote : Char) (cs : List Char) : List Char :=
  cs.flatMap fun c => if c == quote then [quote, quote] else [c]

/-- The text with each pair of quotes, from the left, written once. -/
def undoubled (quote : Char) : List Char → List Char
  | [] => []
  | [c] => [c]
  | c :: d :: cs =>
    if c == quote && d == quote then quote :: undoubled quote cs
    else c :: undoubled quote (d :: cs)

/-- An identifier between double quotes, which keep its case. -/
def quoteIdentifier (name : String) : String :=
  String.ofList ('"' :: (doubled '"' name.toList ++ ['"']))

/-- A qualified name: the quoted parts with points between them. -/
def quoteName (parts : List String) : String :=
  String.intercalate "." (parts.map quoteIdentifier)

/-- The inside of a text literal. -/
def escapeLiteral (s : String) : String := String.ofList (doubled '\'' s.toList)

def quoteLiteral (s : String) : String := "'" ++ escapeLiteral s ++ "'"

/-- `n` placeholders with commas between them. -/
def placeholders (n : Nat) : String := String.intercalate ", " (List.replicate n "?")

/-! ## Counting and searching -/

/-- The number of placeholders outside quoted runs. -/
def placeholderCount (sql : String) : Nat := (outsideChars none sql.toList).count '?'

/-- The number of opening and of closing parentheses outside quoted runs. -/
def parenthesisCounts (cs : List Char) : Nat × Nat :=
  let out := outsideChars none cs
  (out.count '(', out.count ')')

/-- The first place outside quoted runs where a word stands, ignoring the case of ASCII letters:
the text before it and the text after it. Only the first character of the word has to stand outside
a run. -/
def splitAtWord? (word : List Char) (q : OpenQuote) : List Char → Option (List Char × List Char)
  | [] => none
  | c :: cs =>
    match if q.outside c then Text.dropFolded? word (c :: cs) else none with
    | some rest => some ([], rest)
    | none => (splitAtWord? word (q.step c) cs).map fun (before, rest) => (c :: before, rest)

/-- The length of a text in UTF-8. -/
def byteLength (cs : List Char) : Nat := (cs.map Char.utf8Size).foldr (· + ·) 0

/-- The offset, in bytes of UTF-8, of the first place outside quoted runs where a word stands. An
empty word stands nowhere. -/
def findWord? (text word : String) : Option Nat :=
  if word.isEmpty then none
  else (splitAtWord? word.toList none text.toList).map fun (before, _) => byteLength before

/-! ## Splitting -/

/-- The pieces of a text between the delimiters that stand outside quoted runs and where as many
parentheses have been closed as opened: the first piece, and the others. The depth is an integer of
any size, which stays within the length of the text. -/
def splitFrom (delimiter : Char) (q : OpenQuote) (depth : Int) :
    List Char → List Char × List (List Char)
  | [] => ([], [])
  | c :: cs =>
    if !q.outside c then
      let (p, ps) := splitFrom delimiter (q.step c) depth cs
      (c :: p, ps)
    else if c == '(' then
      let (p, ps) := splitFrom delimiter q (depth + 1) cs
      (c :: p, ps)
    else if c == ')' then
      -- A parenthesis that closes nothing counts too, so the depth may fall below zero.
      let (p, ps) := splitFrom delimiter q (depth - 1) cs
      (c :: p, ps)
    else if c == delimiter && depth == 0 then
      let (p, ps) := splitFrom delimiter q depth cs
      ([], p :: ps)
    else
      let (p, ps) := splitFrom delimiter q depth cs
      (c :: p, ps)

/-- The pieces of a text between the delimiters at its top level. There is always one at least. -/
def splitTopLevel (delimiter : Char) (cs : List Char) : List (List Char) :=
  let (p, ps) := splitFrom delimiter none 0 cs
  p :: ps

end Snowbridge.Sql
