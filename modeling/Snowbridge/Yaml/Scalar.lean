import Snowbridge.Json.Reader
import Snowbridge.Yaml.Token

/-!
# Scalars of YAML text

The three ways to write a text: plain, between quotes, and as an indented block. Line ends inside a
scalar are folded: one becomes a space, of several the first is dropped. In a literal block they are
kept.
-/

namespace Snowbridge.Yaml

/-- The white space between two parts of a scalar: blanks within a line, or line ends. -/
structure Gap where
  broken : Bool := false
  blanks : List Char := []
  firstBreak : List Char := []
  otherBreaks : List Char := []

/-- What a gap contributes to the text. -/
def Gap.folded (g : Gap) : List Char :=
  if !g.broken then g.blanks
  else if g.firstBreak.head? == some '\n' then
    if g.otherBreaks.isEmpty then [' '] else g.otherBreaks
  else g.firstBreak ++ g.otherBreaks

/-- Adds the white space at a place to a gap. `tabColumn` is the column before which a line may not
hold a tab. -/
def takeGap? (fuel : Nat) (tabColumn : Int) (g : Gap) (c : Cursor) : Option (Gap × Cursor) :=
  match fuel with
  | 0 => none
  | fuel + 1 =>
    match c.head? with
    | none => some (g, c)
    | some x =>
      if isSpaceOrTab x then
        if g.broken && (c.column : Int) < tabColumn && x == '\t' then none
        else
          let g := if g.broken then g else { g with blanks := g.blanks ++ [x] }
          takeGap? fuel tabColumn g c.skip
      else if isBreak x then
        let (b, c) := c.takeBreak
        let g :=
          if g.broken then { g with otherBreaks := g.otherBreaks ++ b }
          else { g with broken := true, blanks := [], firstBreak := b }
        takeGap? fuel tabColumn g c
      else some (g, c)

/-! ## Plain scalars -/

/-- A scalar with the place after it, and whether it spans lines. -/
structure Scanned where
  text : List Char
  next : Cursor
  spansLines : Bool

/-- The characters that end a plain scalar inside brackets. -/
def isFlowIndicator (c : Char) : Bool :=
  c == ',' || c == '[' || c == ']' || c == '\x7b' || c == '\x7d'

/-- The characters of a plain scalar up to white space or an indicator. Inside brackets a colon
right before another indicator is refused. -/
def plainRun? (flow : Bool) (taken : List Char) : Cursor → Nat → Option (List Char × Cursor)
  | _, 0 => none
  | c, fuel + 1 =>
    match c.rest with
    | [] => some (taken.reverse, c)
    | x :: r =>
      if atBlank (x :: r) then some (taken.reverse, c)
      else if x == ':' && atBlank r then some (taken.reverse, c)
      else if flow && x == ':' && (r.head?.any fun y => isFlowIndicator y || y == '?') then none
      else if flow && isFlowIndicator x then some (taken.reverse, c)
      else plainRun? flow (x :: taken) c.skip fuel

/-- A plain scalar. Its later lines are indented at least to `column`. -/
def scanPlain? (fuel : Nat) (flow : Bool) (column : Int) (text : List Char) (g : Gap) (c : Cursor) :
    Option Scanned :=
  match fuel with
  | 0 => none
  | fuel + 1 =>
    let finished : Option Scanned := some ⟨text, c, g.broken⟩
    if c.atMarker '-' || c.atMarker '.' || c.head? == some '#' then finished
    else
      match plainRun? flow [] c (c.rest.length + 1) with
      | none => none
      | some (run, c) =>
        let text := if run.isEmpty then text else text ++ g.folded ++ run
        let g := if run.isEmpty then g else {}
        if !atBlank c.rest || c.rest.isEmpty then some ⟨text, c, g.broken⟩
        else
          match takeGap? (c.rest.length + 1) column g c with
          | none => none
          | some (g, c) =>
            if !flow && (c.column : Int) < column then some ⟨text, c, g.broken⟩
            else scanPlain? fuel flow column text g c

/-! ## Quoted scalars -/

/-- The number of `n` hexadecimal digits. -/
def hexNumber? (n : Nat) (cs : List Char) : Option Nat :=
  let ds := cs.take n
  if ds.length == n then
    ds.foldl (fun acc c => acc.bind fun a => (Json.hexDigit? c).map (16 * a + ·)) (some 0)
  else none

/-- The character that a code point number stands for, if it is one. -/
def charOfNumber? (n : Nat) : Option Char :=
  if n < 0xD800 || (0xE000 ≤ n && n < 0x110000) then some (Char.ofNat n) else none

/-- The character of an escape after its backslash, and how many characters the escape has. -/
def escape? : List Char → Option (Char × Nat)
  | [] => none
  | c :: cs =>
    match c with
    | '0' => some (Char.ofNat 0, 1)
    | 'a' => some ('\x07', 1)
    | 'b' => some ('\x08', 1)
    | 't' => some ('\t', 1)
    | '\t' => some ('\t', 1)
    | 'n' => some ('\n', 1)
    | 'v' => some ('\x0b', 1)
    | 'f' => some ('\x0c', 1)
    | 'r' => some ('\r', 1)
    | 'e' => some ('\x1b', 1)
    | ' ' => some (' ', 1)
    | '"' => some ('"', 1)
    | '/' => some ('/', 1)
    | '\\' => some ('\\', 1)
    | 'N' => some ('\u0085', 1)
    | '_' => some ('\u00a0', 1)
    | 'L' => some ('\u2028', 1)
    | 'P' => some ('\u2029', 1)
    | 'x' => ((hexNumber? 2 cs).bind charOfNumber?).map fun x => (x, 3)
    | 'u' => ((hexNumber? 4 cs).bind charOfNumber?).map fun x => (x, 5)
    | 'U' => ((hexNumber? 8 cs).bind charOfNumber?).map fun x => (x, 9)
    | _ => none

/-- The characters of a quoted scalar up to white space or the closing quote, and whether the run
ended with an escaped line end. -/
def quotedRun? (quote : Char) (taken : List Char) :
    Cursor → Nat → Option (List Char × Bool × Cursor)
  | _, 0 => none
  | c, fuel + 1 =>
    match c.rest with
    | [] => some (taken.reverse, false, c)
    | x :: r =>
      if atBlank (x :: r) then some (taken.reverse, false, c)
      else if x == quote then
        if quote == '\'' && r.head? == some quote then
          quotedRun? quote (quote :: taken) (c.skipMany 2) fuel
        else some (taken.reverse, false, c)
      else if quote == '"' && x == '\\' then
        if (r.head?.any isBreak) then some (taken.reverse, true, c.skip.takeBreak.2)
        else
          match escape? r with
          | none => none
          | some (y, n) => quotedRun? quote (y :: taken) (c.skipMany (n + 1)) fuel
      else quotedRun? quote (x :: taken) c.skip fuel

/-- A quoted scalar, after its opening quote. -/
def scanQuoted? (fuel : Nat) (quote : Char) (text : List Char) (c : Cursor) : Option Scanned :=
  match fuel with
  | 0 => none
  | fuel + 1 =>
    if c.atMarker '-' || c.atMarker '.' || c.rest.isEmpty then none
    else
      match quotedRun? quote [] c (c.rest.length + 1) with
      | none => none
      | some (run, escaped, c) =>
        let text := text ++ run
        if c.head? == some quote then some ⟨text, c.skip, false⟩
        else
          match takeGap? (c.rest.length + 1) 0 { broken := escaped } c with
          | none => none
          | some (g, c) => scanQuoted? fuel quote (text ++ g.folded) c

/-! ## Block scalars -/

/-- What becomes of the line ends at the end of a block. -/
inductive Chomping where
  | strip
  | clip
  | keep

def Chomping.ofChar? : Char → Option Chomping
  | '-' => some .strip
  | '+' => some .keep
  | _ => none

/-- The indicators after the bar: how line ends at the end are treated, and by how much the block is
indented. They come in either order. -/
def blockHeader? (c : Cursor) : Option (Chomping × Option Nat × Cursor) :=
  let digit? := fun (x : Option Char) => x.filter Char.isDigit
  let depth? := fun (x : Char) => if x == '0' then none else some (x.toNat - '0'.toNat)
  match c.head?.bind Chomping.ofChar? with
  | some chomping =>
    match digit? (c.ahead 1) with
    | some d => (depth? d).map fun n => (chomping, some n, c.skipMany 2)
    | none => some (chomping, none, c.skip)
  | none =>
    match digit? c.head? with
    | some d =>
      (depth? d).map fun n =>
        match (c.ahead 1).bind Chomping.ofChar? with
        | some chomping => (chomping, some n, c.skipMany 2)
        | none => (.clip, some n, c.skip)
    | none => some (.clip, none, c)

/-- The empty lines at a place: their line ends, the greatest indentation among them, and the place
after the indentation of the first line that is not empty. A limit of zero is not yet known. -/
def emptyLines? (fuel limit deepest : Nat) (breaks : List Char) (c : Cursor) :
    Option (List Char × Nat × Cursor) :=
  match fuel with
  | 0 => none
  | fuel + 1 =>
    let spaces := (c.rest.takeWhile (· == ' ')).length
    let c := c.skipMany (if limit == 0 then spaces else min spaces (limit - c.column))
    let deepest := max deepest c.column
    if (limit == 0 || c.column < limit) && c.head? == some '\t' then none
    else if c.head?.any isBreak then
      let (b, c) := c.takeBreak
      emptyLines? fuel limit deepest (breaks ++ b) c
    else some (breaks, deepest, c)

/-- The lines of a block. `pending` is the line end of the line before, `breaks` those of the empty
lines after it. -/
def blockLines? (fuel limit : Nat) (literal : Bool) (afterBlank : Bool)
    (text pending breaks : List Char) (c : Cursor) :
    Option (List Char × List Char × List Char × Cursor) :=
  match fuel with
  | 0 => none
  | fuel + 1 =>
    if c.column != limit || c.rest.isEmpty then some (text, pending, breaks, c)
    else
      let blank := c.head?.any isSpaceOrTab
      let joined :=
        if !literal && pending.head? == some '\n' && !afterBlank && !blank then
          if breaks.isEmpty then [' '] else []
        else pending
      let (line, c) := c.takeWhile fun x => !isBreak x
      let (pending, c) := c.takeBreak
      match emptyLines? (c.rest.length + 1) limit 0 [] c with
      | none => none
      | some (next, _, c) =>
        blockLines? fuel limit literal blank (text ++ joined ++ breaks ++ line) pending next c

/-- A block scalar, after its bar. `parent` is the indentation of the block around it. -/
def scanBlock? (literal : Bool) (parent : Int) (c : Cursor) : Option Scanned :=
  match blockHeader? c with
  | none => none
  | some (chomping, depth, c) =>
    let c := c.skipBlanks.skipComment
    if !c.atLineEnd then none
    else
      let (_, c) := c.takeBreak
      let limit :=
        match depth with
        | some n => if 0 ≤ parent then parent.toNat + n else n
        | none => 0
      match emptyLines? (c.rest.length + 1) limit 0 [] c with
      | none => none
      | some (breaks, deepest, c) =>
        let limit := if limit == 0 then max (max deepest (parent + 1).toNat) 1 else limit
        match blockLines? (c.rest.length + 1) limit literal false [] [] breaks c with
        | none => none
        | some (text, pending, breaks, c) =>
          let text :=
            match chomping with
            | .strip => text
            | .clip => text ++ pending
            | .keep => text ++ pending ++ breaks
          some ⟨text, c, true⟩

end Snowbridge.Yaml
