import Snowbridge.Text.CaseData

/-!
# Letter case

Comparison that ignores the case of ASCII letters, and the full Unicode mappings to lower and upper
case, which may change the length of a text.
-/

namespace Snowbridge.Text

/-! ## ASCII -/

/-- The lower-case form of an ASCII capital; every other character stays. -/
def foldAscii (c : Char) : Char :=
  if 'A' ≤ c && c ≤ 'Z' then Char.ofNat (c.toNat + 32) else c

/-- The capital of an ASCII lower-case letter; every other character stays. -/
def raiseAscii (c : Char) : Char :=
  if 'a' ≤ c && c ≤ 'z' then Char.ofNat (c.toNat - 32) else c

/-- Equality that ignores the case of ASCII letters. -/
def sameFolded (a b : List Char) : Bool := a.map foldAscii == b.map foldAscii

/-- Equality of names, which ignores the case of ASCII letters. -/
def sameName (a b : String) : Bool := sameFolded a.toList b.toList

/-- What follows `start` at the head of a text, ignoring the case of ASCII letters. -/
def dropFolded? : List Char → List Char → Option (List Char)
  | [], cs => some cs
  | _ :: _, [] => none
  | p :: start, c :: cs =>
    if foldAscii p == foldAscii c then dropFolded? start cs else none

/-- All ASCII capitals turned to lower case. -/
def foldedAscii (s : String) : String := s.map foldAscii

/-- All ASCII letters turned to capitals. -/
def raisedAscii (s : String) : String := s.map raiseAscii

/-! ## Unicode -/

/-- Whether one of the ranges holds the code point. -/
def inRanges (ranges : List (Nat × Nat)) (n : Nat) : Bool :=
  ranges.any fun r => r.1 ≤ n && n ≤ r.2

/-- The mapping of one character: an expansion, a shift by the run that covers it, or itself. -/
def mapCase (runs : List CaseRun) (expansions : List (Nat × List Nat)) (c : Char) : List Char :=
  let n := c.toNat
  match expansions.lookup n with
  | some ms => ms.map Char.ofNat
  | none =>
    match runs.find? (·.covers n) with
    | some r => [Char.ofNat (n + r.shift).toNat]
    | none => [c]

/-- The lower-case mapping of a character that stands alone. -/
def lowerChar (c : Char) : List Char :=
  if c.toNat < 0x80 then [foldAscii c] else mapCase lowerRuns lowerExpansions c

def upperChar (c : Char) : List Char :=
  if c.toNat < 0x80 then [raiseAscii c] else mapCase upperRuns upperExpansions c

def isCased (c : Char) : Bool :=
  c.isAlpha || (0x80 ≤ c.toNat && inRanges casedRanges c.toNat)

/-- Characters that do not end a word for the final sigma: apostrophes, marks and the like. -/
def isCaseIgnorable (c : Char) : Bool :=
  if c.toNat < 0x80 then ['\'', '.', ':', '^', '\x60'].contains c
  else inRanges caseIgnorableRanges c.toNat

/-- Whether the first character that is not ignorable has a case. -/
def meetsCased (cs : List Char) : Bool :=
  match cs.dropWhile isCaseIgnorable with
  | c :: _ => isCased c
  | [] => false

/-- Lower case with the text before, nearest character first. A capital sigma that ends a word turns
into the final form of the letter. -/
def lowerAfter (before : List Char) : List Char → List Char
  | [] => []
  | c :: cs =>
    let mapped :=
      if c == 'Σ' then [if meetsCased before && !meetsCased cs then 'ς' else 'σ']
      else lowerChar c
    mapped ++ lowerAfter (c :: before) cs

def lowered (s : String) : String := String.ofList (lowerAfter [] s.toList)

def uppered (s : String) : String := String.ofList (s.toList.flatMap upperChar)

end Snowbridge.Text
