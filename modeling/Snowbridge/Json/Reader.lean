import Snowbridge.Json.Number

/-!
# Reading structured data

A reader for the text form. The depth of nesting is bounded by the length of the text, which serves
as the measure of the recursion.
-/

namespace Snowbridge.Json

/-- Blanks between tokens. -/
def isSpace (c : Char) : Bool := c == ' ' || c == '\n' || c == '\t' || c == '\r'

def skipSpace (cs : List Char) : List Char := cs.dropWhile isSpace

/-- What follows a fixed word. -/
def afterWord? : List Char → List Char → Option (List Char)
  | [], cs => some cs
  | w :: ws, c :: cs => if w == c then afterWord? ws cs else none
  | _ :: _, [] => none

def hexDigit? (c : Char) : Option Nat :=
  if c.isDigit then some (c.toNat - '0'.toNat)
  else if 'a' ≤ c && c ≤ 'f' then some (c.toNat - 'a'.toNat + 10)
  else if 'A' ≤ c && c ≤ 'F' then some (c.toNat - 'A'.toNat + 10)
  else none

/-- Four hexadecimal digits, and the rest. -/
def hexFour? : List Char → Option (Nat × List Char)
  | a :: b :: c :: d :: cs => do
    let a ← hexDigit? a
    let b ← hexDigit? b
    let c ← hexDigit? c
    let d ← hexDigit? d
    some (((a * 16 + b) * 16 + c) * 16 + d, cs)
  | _ => none

/-- The character of an escape that gives its number. A leading surrogate needs its partner. -/
def readUnicode? (cs : List Char) : Option (Char × List Char) :=
  match hexFour? cs with
  | none => none
  | some (n, rest) =>
    if n < 0xD800 || 0xE000 ≤ n then some (Char.ofNat n, rest)
    else if 0xDC00 ≤ n then none
    else
      match rest with
      | '\\' :: 'u' :: r =>
        match hexFour? r with
        | some (m, r) =>
          if 0xDC00 ≤ m && m < 0xE000 then
            some (Char.ofNat (0x10000 + (n - 0xD800) * 0x400 + (m - 0xDC00)), r)
          else none
        | none => none
      | _ => none

/-- The character of an escape, after its backslash. -/
def readEscape? : List Char → Option (Char × List Char)
  | '"' :: cs => some ('"', cs)
  | '\\' :: cs => some ('\\', cs)
  | '/' :: cs => some ('/', cs)
  | 'b' :: cs => some ('\x08', cs)
  | 'f' :: cs => some ('\x0c', cs)
  | 'n' :: cs => some ('\n', cs)
  | 'r' :: cs => some ('\r', cs)
  | 't' :: cs => some ('\t', cs)
  | 'u' :: cs => readUnicode? cs
  | _ => none

/-- A text up to its closing quote, and the rest. -/
def readText? (fuel : Nat) (before : List Char) (cs : List Char) : Option (String × List Char) :=
  match fuel, cs with
  | 0, _ => none
  | _, [] => none
  | fuel + 1, c :: cs =>
    if c == '"' then some (String.ofList before.reverse, cs)
    else if c == '\\' then
      match readEscape? cs with
      | some (c, cs) => readText? fuel (c :: before) cs
      | none => none
    else if c.toNat < 0x20 then none
    else readText? fuel (c :: before) cs

mutual

/-- A value at the head of a text, and the rest. -/
def readValue? (fuel : Nat) (cs : List Char) : Option (Json × List Char) :=
  match fuel with
  | 0 => none
  | fuel + 1 =>
    match skipSpace cs with
    | '"' :: cs => (readText? (cs.length + 1) [] cs).map fun (s, r) => (.str s, r)
    | '[' :: cs =>
      match skipSpace cs with
      | ']' :: r => some (.arr [], r)
      | cs => (readItems? fuel cs).map fun (js, r) => (.arr js, r)
    | '\x7b' :: cs =>
      match skipSpace cs with
      | '\x7d' :: r => some (.obj [], r)
      | cs => (readFields? fuel cs).map fun (fs, r) => (.record fs, r)
    | 'n' :: cs => (afterWord? "ull".toList cs).map fun r => (.null, r)
    | 't' :: cs => (afterWord? "rue".toList cs).map fun r => (.bool true, r)
    | 'f' :: cs => (afterWord? "alse".toList cs).map fun r => (.bool false, r)
    | cs => readNumber? cs

/-- One or more items up to the closing bracket. -/
def readItems? (fuel : Nat) (cs : List Char) : Option (List Json × List Char) :=
  match fuel with
  | 0 => none
  | fuel + 1 =>
    match readValue? fuel cs with
    | none => none
    | some (j, r) =>
      match skipSpace r with
      | ']' :: r => some ([j], r)
      | ',' :: r => (readItems? fuel r).map fun (js, r) => (j :: js, r)
      | _ => none

/-- One or more fields up to the closing brace. -/
def readFields? (fuel : Nat) (cs : List Char) : Option (List (String × Json) × List Char) :=
  match fuel with
  | 0 => none
  | fuel + 1 =>
    match skipSpace cs with
    | '"' :: cs =>
      match readText? (cs.length + 1) [] cs with
      | none => none
      | some (key, r) =>
        match skipSpace r with
        | ':' :: r =>
          match readValue? fuel r with
          | none => none
          | some (j, r) =>
            match skipSpace r with
            | '\x7d' :: r => some ([(key, j)], r)
            | ',' :: r => (readFields? fuel r).map fun (fs, r) => ((key, j) :: fs, r)
            | _ => none
        | _ => none
    | _ => none

end

/-- The value that a whole text stands for. -/
def read? (s : String) : Option Json :=
  let cs := s.toList
  match readValue? (2 * cs.length + 2) cs with
  | some (j, rest) => if (skipSpace rest).isEmpty then some j else none
  | none => none

end Snowbridge.Json
