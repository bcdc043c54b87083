/-!
# Tokens of YAML text

The tokens of a document and the text position that the scan keeps. Blocks open and close with the
indentation of the lines.
-/

namespace Snowbridge.Yaml

/-- How a scalar is written: without quotes, between quotes, or as an indented block whose line ends
are kept or folded. -/
inductive Style where
  | plain
  | quoted
  | literal
  | folded
deriving BEq, DecidableEq, Inhabited

/-- A token. A tag has a handle, which is empty if the tag stands for itself, and the octets after
it; the handle's prefix may be given by a directive. -/
inductive Token where
  | version (major minor : Nat)
  | tagHandle (handle : String) (octets : List UInt8)
  | documentStart
  | documentEnd
  | blockSequence
  | blockMapping
  | blockEnd
  | flowSequence
  | flowSequenceEnd
  | flowMapping
  | flowMappingEnd
  | entry
  | flowEntry
  | key
  | value
  | anchor (name : String)
  | alias (name : String)
  | tag (handle : String) (octets : List UInt8)
  | scalar (text : String) (style : Style)
deriving BEq

/-- Directives stand in front of a document. -/
def Token.isDirective : Token → Bool
  | .version _ _ => true
  | .tagHandle _ _ => true
  | _ => false

/-- A place in a text: what is left of it, and how many characters of the line, lines and octets lie
before. -/
structure Cursor where
  rest : List Char
  column : Nat := 0
  line : Nat := 0
  index : Nat := 0

def isSpaceOrTab (c : Char) : Bool := c == ' ' || c == '\t'

/-- The characters that end a line. -/
def isBreak (c : Char) : Bool :=
  c == '\n' || c == '\r' || c == '\u0085' || c == '\u2028' || c == '\u2029'

/-- A blank, a line end or the end of the text stands at the head. -/
def atBlank : List Char → Bool
  | [] => true
  | c :: _ => isSpaceOrTab c || isBreak c

/-- The characters of anchors, handles and directives. -/
def isNameChar (c : Char) : Bool := c.isAlphanum || c == '-' || c == '_'

/-- How many octets characters take. -/
def octetCount (cs : List Char) : Nat := cs.foldl (fun n c => n + c.utf8Size) 0

namespace Cursor

def head? (c : Cursor) : Option Char := c.rest.head?

/-- The character `n` places ahead. -/
def ahead (c : Cursor) (n : Nat) : Option Char := c.rest[n]?

/-- A blank, a line end or the end of the text stands `n` places ahead. -/
def blankAt (c : Cursor) (n : Nat) : Bool := atBlank (c.rest.drop n)

/-- The line or the text ends here. -/
def atLineEnd (c : Cursor) : Bool := c.head?.all isBreak

def skip (c : Cursor) : Cursor :=
  match c.rest with
  | [] => c
  | x :: r => { c with rest := r, column := c.column + 1, index := c.index + x.utf8Size }

def skipMany : Nat → Cursor → Cursor
  | 0, c => c
  | n + 1, c => skipMany n c.skip

/-- Steps over the characters of a line that satisfy a test: the characters, and the place after
them. -/
def takeWhile (c : Cursor) (p : Char → Bool) : List Char × Cursor :=
  let run := c.rest.takeWhile p
  (run, { c with
    rest := c.rest.dropWhile p, column := c.column + run.length,
    index := c.index + octetCount run })

def skipWhile (c : Cursor) (p : Char → Bool) : Cursor := (c.takeWhile p).2

def skipBlanks (c : Cursor) : Cursor := c.skipWhile isSpaceOrTab

/-- Steps over a comment, if one starts here. -/
def skipComment (c : Cursor) : Cursor :=
  if c.head? == some '#' then c.skipWhile fun x => !isBreak x else c

/-- Steps over a line end, which reads as one line feed except for the two Unicode separators. -/
def takeBreak (c : Cursor) : List Char × Cursor :=
  match c.rest with
  | '\r' :: '\n' :: r => (['\n'], ⟨r, 0, c.line + 1, c.index + 2⟩)
  | b :: r =>
    let next : Cursor := ⟨r, 0, c.line + 1, c.index + b.utf8Size⟩
    if b == '\u2028' || b == '\u2029' then ([b], next) else (['\n'], next)
  | [] => ([], c)

/-- Three equal characters at the head of a line that stand alone: a document marker. -/
def atMarker (c : Cursor) (mark : Char) : Bool :=
  c.column == 0 && c.head? == some mark && c.ahead 1 == some mark && c.ahead 2 == some mark &&
    c.blankAt 3

end Cursor

/-- The characters that a document may hold. -/
def isAllowed (c : Char) : Bool :=
  let n := c.toNat
  n == 0x9 || n == 0xA || n == 0xD || (0x20 ≤ n && n ≤ 0x7E) || n == 0x85 ||
    (0xA0 ≤ n && n ≤ 0xFFFD) || 0x10000 ≤ n

end Snowbridge.Yaml
