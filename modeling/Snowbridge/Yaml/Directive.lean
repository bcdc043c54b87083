import Snowbridge.Yaml.Tag

/-!
# Directives

Lines in front of a document that start with a percent sign. One names the version of the language,
and others let handles stand for the first octets of tags.
-/

namespace Snowbridge.Yaml

/-- A part of a version number, of at most nine digits. -/
def versionPart? (c : Cursor) : Option (Nat × Cursor) :=
  let (digits, next) := c.takeWhile Char.isDigit
  if digits.isEmpty || 9 < digits.length then none
  else some (digits.foldl (fun n d => 10 * n + (d.toNat - '0'.toNat)) 0, next)

/-- Two numbers with a point between them. -/
def scanVersion? (c : Cursor) : Option (Token × Cursor) := do
  let (major, c) ← versionPart? c
  if c.head? != some '.' then none
  else
    let (minor, c) ← versionPart? c.skip
    some (.version major minor, c)

/-- A handle, which may be one exclamation mark, and the octets it stands for. -/
def scanTagHandle? (c : Cursor) : Option (Token × Cursor) := do
  let (handle, c) ←
    match handle? c with
    | some found => some found
    | none =>
      if c.head? == some '!' && (c.ahead 1).any isSpaceOrTab then some ("!", c.skip) else none
  if !c.head?.any isSpaceOrTab then none
  else
    let (octets, c) ← someTagOctets? true c.skipBlanks
    if c.blankAt 0 then some (.tagHandle handle octets, c) else none

/-- A directive with the rest of its line, which may hold a comment. -/
def scanDirective? (c : Cursor) : Option (Token × Cursor) := do
  let (name, c) := c.skip.takeWhile isNameChar
  if !c.blankAt 0 then none
  else
    let (t, c) ←
      if name == "YAML".toList then scanVersion? c.skipBlanks
      else if name == "TAG".toList then scanTagHandle? c.skipBlanks
      else none
    let c := c.skipBlanks.skipComment
    if c.atLineEnd then some (t, c.takeBreak.2) else none

end Snowbridge.Yaml
