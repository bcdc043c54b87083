import Snowbridge.Sql.Parser
import Snowbridge.Text.Case

/-!
# Tokens of SQL expressions

Words, quoted names, numbers, text literals and signs, each with the line and column where it
starts. Blanks and comments only separate tokens.
-/

namespace Snowbridge.Sql

inductive Token where
  | word (name : String)
  | quotedName (name : String)
  | number (digits : String)
  | text (content : String)
  | taggedText (tag : Char) (content : String)
  | placeholder (name : String)
  | sign (s : String)
deriving DecidableEq

/-- A token in a message. -/
def Token.write : Token → String
  | .word name => name
  | .quotedName name => "\"" ++ name ++ "\""
  | .number digits => digits
  | .text content => "'" ++ content ++ "'"
  | .taggedText tag content => tag.toString ++ "'" ++ content ++ "'"
  | .placeholder name => name
  | .sign s => s

/-- Whether a token is a word without quotes, in any case of letters. -/
def Token.isWord (w : String) : Token → Bool
  | .word name => Text.sameName name w
  | _ => false

/-- The place after a character. -/
def Place.step (p : Place) (c : Char) : Place :=
  if c == '\n' then ⟨p.line + 1, 1⟩ else ⟨p.line, p.column + 1⟩

/-- The place after some characters. -/
def Place.after (p : Place) (cs : List Char) : Place := cs.foldl Place.step p

/-- Why an expression is refused. -/
inductive ExpressionFault where
  | unclosed (reason : String) (start : Place)
  | expected (what : String) (found : Option (Token × Place))
  | misplaced (name : String) (place : Place)
  | tooDeep

namespace ExpressionFault

/-- A place at the end of a message. -/
def atPlace (p : Place) : String :=
  " at Line: " ++ toString p.line ++ ", Column: " ++ toString p.column

/-- The text of a fault. -/
def message : ExpressionFault → String
  | unclosed reason start => "sql parser error: " ++ reason ++ atPlace start
  | expected what none => "sql parser error: Expected: " ++ what ++ ", found: EOF"
  | expected what (some (t, p)) =>
    "sql parser error: Expected: " ++ what ++ ", found: " ++ t.write ++ atPlace p
  | misplaced name p => "sql parser error: No infix parser for token " ++ name ++ atPlace p
  | tooDeep => "sql parser error: recursion limit exceeded"

end ExpressionFault

/-! ## Splitting a text into tokens -/

/-- The signs of two or three characters, longest first. -/
def longSigns : List (List Char) :=
  ["<=>", "->>", "<=", ">=", "<>", "!=", "==", "=>", "||", "::", ":=", "->", "<<", ">>", "//",
    "&&"].map String.toList

/-- The content of a literal after its opening quote, and the text after the closing one. A quote
within is written twice. -/
def readQuoted? (quote : Char) (backslash : Bool) (taken : List Char) :
    List Char → Option (List Char × List Char)
  | [] => none
  | [c] => if c == quote then some (taken.reverse, []) else none
  | c :: d :: cs =>
    if c == quote then
      if d == quote then readQuoted? quote backslash (quote :: taken) cs
      else some (taken.reverse, d :: cs)
    else if backslash && c == '\\' then readQuoted? quote backslash (d :: taken) cs
    else readQuoted? quote backslash (c :: taken) (d :: cs)

/-- The text after a comment of several lines, which may hold others. `depth` of them are open. -/
def afterComment? (depth : Nat) : List Char → Option (List Char)
  | '*' :: '/' :: cs => if depth ≤ 1 then some cs else afterComment? (depth - 1) cs
  | '/' :: '*' :: cs => afterComment? (depth + 1) cs
  | _ :: cs => afterComment? depth cs
  | [] => none

/-- The exponent of a number, if there is one. -/
def exponentRun (cs : List Char) : List Char :=
  match cs with
  | e :: r =>
    if e == 'e' || e == 'E' then
      let sign := r.take (if r.head? == some '+' || r.head? == some '-' then 1 else 0)
      let digits := (r.drop sign.length).takeWhile Char.isDigit
      if digits.isEmpty then [] else e :: sign ++ digits
    else []
  | [] => []

/-- The characters of a number. -/
def numberRun (cs : List Char) : List Char :=
  let whole := cs.takeWhile Char.isDigit
  let rest := cs.dropWhile Char.isDigit
  let fraction :=
    match rest with
    | '.' :: r => '.' :: r.takeWhile Char.isDigit
    | _ => []
  whole ++ fraction ++ exponentRun (rest.drop fraction.length)

/-- The token at the head of a text, if one starts there, and the text after it. -/
def readToken (d : Dialect) (place : Place) (c : Char) (cs : List Char) :
    Except ExpressionFault (Token × List Char) :=
  let quoted := fun (make : String → Token) (quote : Char) (backslash : Bool) (reason : String)
      (rest : List Char) =>
    match readQuoted? quote backslash [] rest with
    | some (content, after) => Except.ok (make (String.ofList content), after)
    | none => Except.error (.unclosed reason place)
  let literal := "Unterminated string literal"
  if c == '\'' then quoted .text '\'' d.hasBackslash literal cs
  else if c == '"' then
    quoted .quotedName '"' false "Expected close delimiter '\"' before EOF." cs
  else if ['n', 'N', 'x', 'X'].contains c && cs.head? == some '\'' then
    quoted (.taggedText (Text.raiseAscii c)) '\'' d.hasBackslash literal cs.tail
  else if d.startsWord c then
    let run := c :: cs.takeWhile d.continuesWord
    .ok (.word (String.ofList run), cs.dropWhile d.continuesWord)
  else if c.isDigit || (c == '.' && cs.head?.any Char.isDigit) then
    let run := numberRun (c :: cs)
    .ok (.number (String.ofList run), (c :: cs).drop run.length)
  else if c == '?' then .ok (.placeholder "?", cs)
  else if c == '$' then
    let run := cs.takeWhile fun x => x.isAlphanum || x == '_'
    .ok (.placeholder (String.ofList (c :: run)), cs.drop run.length)
  else
    match longSigns.find? fun s => s.isPrefixOf (c :: cs) with
    | some s => .ok (.sign (String.ofList s), (c :: cs).drop s.length)
    | none => .ok (.sign (String.ofList [c]), cs)

/-- The tokens of a text from a place on. -/
def readTokens (d : Dialect) (place : Place) :
    Nat → List Char → Except ExpressionFault (List (Token × Place))
  | 0, _ => .ok []
  | _, [] => .ok []
  | fuel + 1, c :: cs =>
    if Text.isBlank c then readTokens d (place.step c) fuel cs
    else if d.lineComments.any fun s => s.isPrefixOf (c :: cs) then
      let run := (c :: cs).takeWhile (· != '\n')
      readTokens d (place.after run) fuel ((c :: cs).drop run.length)
    else if c == '/' && cs.head? == some '*' then
      match afterComment? 1 cs.tail with
      | some rest =>
        let run := (c :: cs).take ((c :: cs).length - rest.length)
        readTokens d (place.after run) fuel rest
      | none =>
        .error (.unclosed "Unexpected EOF while in a multi-line comment" (place.after (c :: cs)))
    else
      match readToken d place c cs with
      | .error e => .error e
      | .ok (t, rest) =>
        let run := (c :: cs).take ((c :: cs).length - rest.length)
        (readTokens d (place.after run) fuel rest).map ((t, place) :: ·)

def tokens (d : Dialect) (text : String) : Except ExpressionFault (List (Token × Place)) :=
  readTokens d {} (text.length + 1) text.toList

end Snowbridge.Sql
