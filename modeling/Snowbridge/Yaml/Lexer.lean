import Snowbridge.Yaml.Directive
import Snowbridge.Yaml.Scalar

/-!
# The tokens of a YAML text

A scan from left to right. Whether a token is the key of a mapping shows only at the colon after it,
so each place where a key may have started is remembered, one for each open bracket, and the tokens
that open the mapping are put in front of it later.
-/

namespace Snowbridge.Yaml

/-- A place where a key may have started: how many tokens stand before it, and where it is. At the
indentation of its block nothing but a key may start, so there the colon is required. -/
structure PossibleKey where
  tokensBefore : Nat
  required : Bool
  column : Nat
  line : Nat
  index : Nat

/-- A scan in progress. The last token stands first, and so does the innermost bracket or block. -/
structure Scan where
  cursor : Cursor
  tokens : List Token := []
  count : Nat := 0
  key : Option PossibleKey := none
  outerKeys : List (Option PossibleKey) := []
  keyAllowed : Bool := true
  indent : Int := -1
  outerIndents : List Int := []

namespace Scan

def inFlow (s : Scan) : Bool := !s.outerKeys.isEmpty

def push (s : Scan) (t : Token) : Scan :=
  { s with tokens := t :: s.tokens, count := s.count + 1 }

/-- Puts a token behind the first `n`. -/
def insertAt (s : Scan) (n : Nat) (t : Token) : Scan :=
  let later := s.count - n
  { s with tokens := s.tokens.take later ++ t :: s.tokens.drop later, count := s.count + 1 }

/-- Opens a block at a column that is indented deeper than the block around it. -/
def openBlock (s : Scan) (column : Nat) (position : Nat) (t : Token) : Scan :=
  if !s.inFlow && s.indent < column then
    { s.insertAt position t with indent := column, outerIndents := s.indent :: s.outerIndents }
  else s

/-- How many blocks end before a column, and the indentations that are left. -/
def closing (column indent : Int) : List Int → Nat × Int × List Int
  | [] => (0, indent, [])
  | i :: is =>
    if column < indent then
      let (n, indent, is) := closing column i is
      (n + 1, indent, is)
    else (0, indent, i :: is)

/-- Closes the blocks that are indented deeper than a column. -/
def closeBlocks (s : Scan) (column : Int) : Scan :=
  if s.inFlow then s
  else
    let (n, indent, outer) := closing column s.indent s.outerIndents
    { s with
      tokens := List.replicate n .blockEnd ++ s.tokens, count := s.count + n, indent := indent,
      outerIndents := outer }

/-- Gives up the innermost possible key, unless it is required. -/
def dropKey? (s : Scan) : Option Scan :=
  match s.key with
  | some k => if k.required then none else some { s with key := none }
  | none => some s

/-- Remembers that a key may start here. -/
def noteKey? (s : Scan) : Option Scan :=
  if s.keyAllowed then
    s.dropKey?.map fun s =>
      let c := s.cursor
      { s with key := some {
          tokensBefore := s.count, required := !s.inFlow && s.indent == c.column,
          column := c.column, line := c.line, index := c.index } }
  else some s

/-- Gives up a possible key that lies on an earlier line or more than 1024 octets back. -/
def freshKey? (c : Cursor) : Option PossibleKey → Option (Option PossibleKey)
  | none => some none
  | some k =>
    if k.line < c.line || k.index + 1024 < c.index then if k.required then none else some none
    else some (some k)

/-- Gives up the possible keys that can no longer be keys. -/
def freshKeys? (s : Scan) : Option Scan := do
  let key ← freshKey? s.cursor s.key
  let outer ← s.outerKeys.mapM (freshKey? s.cursor)
  some { s with key := key, outerKeys := outer }

/-- The mark of the byte order. -/
def byteOrderMark : Char := '\ufeff'

/-- Steps over blanks, comments and line ends. A mark of the byte order may start a line, and counts
as one of its columns. -/
def toNextToken (s : Scan) : Nat → Scan
  | 0 => s
  | fuel + 1 =>
    let c := s.cursor
    let c := if c.column == 0 && c.head? == some byteOrderMark then c.skip else c
    let c := c.skipWhile fun x => x == ' ' || ((s.inFlow || !s.keyAllowed) && x == '\t')
    let c := c.skipComment
    if c.head?.any isBreak then
      toNextToken { s with cursor := c.takeBreak.2, keyAllowed := !s.inFlow || s.keyAllowed } fuel
    else { s with cursor := c }

/-- Steps over `n` characters and adds a token. -/
def take (s : Scan) (n : Nat) (t : Token) : Scan :=
  { s.push t with cursor := s.cursor.skipMany n }

/-- The name of an anchor or alias. -/
def scanName? (c : Cursor) : Option (String × Cursor) :=
  let (name, c) := c.skip.takeWhile isNameChar
  let ended := c.blankAt 0 || c.head?.any fun x => "?:,]\x7d%@\x60".toList.contains x
  if name.isEmpty || !ended then none else some (String.ofList name, c)

/-! ## Tokens -/

/-- Between blocks: a directive or a document marker. -/
def topLevel? (s : Scan) : Option Scan :=
  ((s.closeBlocks (-1)).dropKey?).map fun s => { s with keyAllowed := false }

def openFlow? (s : Scan) (t : Token) : Option Scan :=
  s.noteKey?.map fun s =>
    { s.take 1 t with key := none, outerKeys := s.key :: s.outerKeys, keyAllowed := true }

def closeFlow? (s : Scan) (t : Token) : Option Scan :=
  s.dropKey?.map fun s =>
    let s := { s.take 1 t with keyAllowed := false }
    match s.outerKeys with
    | k :: ks => { s with key := k, outerKeys := ks }
    | [] => s

def entry? (s : Scan) : Option Scan :=
  if !s.inFlow && !s.keyAllowed then none
  else
    (s.openBlock s.cursor.column s.count .blockSequence).dropKey?.map fun s =>
      { s.take 1 .entry with keyAllowed := true }

/-- A question mark in front of a key. -/
def explicitKey? (s : Scan) : Option Scan :=
  if !s.inFlow && !s.keyAllowed then none
  else
    (s.openBlock s.cursor.column s.count .blockMapping).dropKey?.map fun s =>
      { s.take 1 .key with keyAllowed := !s.inFlow }

/-- A colon: what may have been a key is one. -/
def value? (s : Scan) : Option Scan :=
  match s.key with
  | some k =>
    -- The tokens of the key have been added, so what announces it goes in front of them.
    let s := (s.insertAt k.tokensBefore .key).openBlock k.column k.tokensBefore .blockMapping
    some { s.take 1 .value with key := none, keyAllowed := false }
  | none =>
    if !s.inFlow && !s.keyAllowed then none
    else
      let s := s.openBlock s.cursor.column s.count .blockMapping
      some { s.take 1 .value with keyAllowed := !s.inFlow }

/-- A token that may start a key: its text has been read up to `next`. -/
def keyLike? (s : Scan) (read : Cursor → Option (Token × Cursor)) : Option Scan := do
  let s ← s.noteKey?
  let (t, next) ← read s.cursor
  some { s.push t with cursor := next, keyAllowed := false }

def plain? (s : Scan) : Option Scan := do
  let s ← s.noteKey?
  let p ← scanPlain? (s.cursor.rest.length + 1) s.inFlow (s.indent + 1) [] {} s.cursor
  some { s.push (.scalar (String.ofList p.text) .plain) with
    cursor := p.next, keyAllowed := p.spansLines }

def quoted? (s : Scan) (quote : Char) : Option Scan :=
  s.keyLike? fun c =>
    (scanQuoted? (c.rest.length + 1) quote [] c.skip).map fun q =>
      (.scalar (String.ofList q.text) .quoted, q.next)

def block? (s : Scan) (style : Style) : Option Scan := do
  let s ← s.dropKey?
  let b ← scanBlock? (style == .literal) s.indent s.cursor.skip
  some { s.push (.scalar (String.ofList b.text) style) with cursor := b.next, keyAllowed := true }

/-- The characters that cannot start a plain scalar. -/
def isIndicator (c : Char) : Bool :=
  "-?:,[]\x7b\x7d#&*!|>'\"%@\x60".toList.contains c

/-- The next token, which starts at the place of the scan. -/
def token? (s : Scan) (x : Char) : Option Scan :=
  let c := s.cursor
  let alone := c.blankAt 1
  if c.column == 0 && x == '%' then
    s.topLevel?.bind fun s =>
      (scanDirective? c).map fun (t, next) => { s.push t with cursor := next }
  -- Three dashes are tried before the one that starts an entry.
  else if c.atMarker '-' then s.topLevel?.map fun s => s.take 3 .documentStart
  else if c.atMarker '.' then s.topLevel?.map fun s => s.take 3 .documentEnd
  else if x == '[' then s.openFlow? .flowSequence
  else if x == '\x7b' then s.openFlow? .flowMapping
  else if x == ']' then s.closeFlow? .flowSequenceEnd
  else if x == '\x7d' then s.closeFlow? .flowMappingEnd
  else if x == ',' then s.dropKey?.map fun s => { s.take 1 .flowEntry with keyAllowed := true }
  else if x == '-' && alone then s.entry?
  else if x == '?' && (s.inFlow || alone) then s.explicitKey?
  else if x == ':' && (s.inFlow || alone) then s.value?
  else if x == '*' then s.keyLike? fun c => (scanName? c).map fun (n, c) => (.alias n, c)
  else if x == '&' then s.keyLike? fun c => (scanName? c).map fun (n, c) => (.anchor n, c)
  else if x == '!' then s.keyLike? (scanTag? s.inFlow)
  else if x == '|' && !s.inFlow then s.block? .literal
  else if x == '>' && !s.inFlow then s.block? .folded
  else if x == '\'' || x == '"' then s.quoted? x
  else if !isSpaceOrTab x && (!isIndicator x || (x == '-' && !(c.ahead 1).any isSpaceOrTab) ||
      (!s.inFlow && (x == '?' || x == ':') && !alone)) then s.plain?
  else none

/-- The tokens from the place of the scan to the end of the text. -/
def run? (s : Scan) : Nat → Option (List Token)
  | 0 => none
  | fuel + 1 => do
    let s ← (s.toNextToken (s.cursor.rest.length + 1)).freshKeys?
    let s := s.closeBlocks s.cursor.column
    match s.cursor.head? with
    | none => (s.closeBlocks (-1)).dropKey?.map fun s => s.tokens.reverse
    | some x => (← s.token? x).run? fuel

end Scan

def tokens? (text : String) : Option (List Token) :=
  let cs := text.toList
  if cs.all isAllowed then ({ cursor := { rest := cs } } : Scan).run? (cs.length + 1) else none

end Snowbridge.Yaml
